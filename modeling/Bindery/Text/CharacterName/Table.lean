/-!
# Table of the names of characters

The names of characters in alphabetical order, without those of ideographs and syllables that follow
a rule. An entry starts with a digit that tells how many characters it shares with the name before;
the digits go on beyond 9 with capital and then small letters. Entries end with a semicolon or a
line. Other names that a character is known by are included. The table holds Unicode 14.0.0.
-/

namespace Bindery.Text

/-- The names of characters, each written from where it differs from the one before. -/
def characterNames : String :=
  "0ABACUS;1C CURRENT;2CORDION;4UNT OF;2K;3NOWLEDGE;2TIVATE ARABIC FORM SHAPING;9SYMMETRIC SWAPPING
2UTE ACCENT;7NGLE;1DDRESSED TO THE SUBJECT;2HESIVE BANDAGE;2I SHAKTI;2LAM ALIF LENGTHENER
6CAPITAL LETTER ALIF;LBA;MHE;LCHI;LDAALI;MHA;LE;LFA;LGA;MBE;LHA;LI;LJIIM;LKAF;MHA;MPO;LLAAM;LMIIM
LNHA;MUN;MYA;LO;LPE;LQAAF;LRA;LSHA;MINNYIIYHE;LTU;LU;LVA;LWAW;LYA;MHE;LZAL;7ONSONANT MODIFIER
6DIGIT EIGHT;CFIVE;DOUR;CNINE;CONE;CSEVEN;DIX;CTHREE;DWO;CZERO;6GEMINATE CONSONANT MODIFIER
DION MARK;6HAMZA;6INITIAL EXCLAMATION MARK;EQUESTION MARK;6NASALIZATION MARK;7UKTA
6SMALL LETTER ALIF;JBA;KHE;JCHI;JDAALI;KHA;JE;JFA;JGA;KBE;JHA;JI;JJIIM;JKAF;KHA;KPO;JLAAM;JMIIM
JNHA;KUN;KYA;JO;JPE;JQAAF;JRA;JSHA;KINNYIIYHE;JTU;JU;JVA;JWAW;JYA;KHE;JZAL;6VOWEL LENGTHENER;2METOS
3ISSION TICKETS;2ULT;1EGEAN CHECK MARK;7DRY MEASURE FIRST SUBUNIT;7LIQUID MEASURE FIRST SUBUNIT
7MEASURE SECOND SUBUNIT;FTHIRD SUBUNIT;7NUMBER EIGHT;J HUNDRED;KTHOUSAND;JY;K THOUSAND;EFIFTY
J THOUSAND;GVE;I HUNDRED;JTHOUSAND;FORTY;J THOUSAND;GUR;I HUNDRED;JTHOUSAND;ENINE;I HUNDRED
JTHOUSAND;ITY;K THOUSAND;EONE;H HUNDRED;ITHOUSAND;ESEVEN;J HUNDRED;KTHOUSAND;JTY;L THOUSAND;FIX
H HUNDRED;ITHOUSAND;HTY;J THOUSAND;ETEN;H THOUSAND;FHIRTY;K THOUSAND;GREE;J HUNDRED;KTHOUSAND
FWENTY;K THOUSAND;GO;H HUNDRED;ITHOUSAND;7WEIGHT BASE UNIT;EFIRST SUBUNIT;FOURTH SUBUNIT
ESECOND SUBUNIT;ETHIRD SUBUNIT;8ORD SEPARATOR DOT;MLINE;2RIAL TRAMWAY;1FGHANI SIGN
1HOM CONSONANT SIGN MEDIAL LA;SIGATING RA;RRA;5DIGIT EIGHT;BFIVE;COUR;BNINE;BONE;BSEVEN;CIX;BTHREE
CWO;BZERO;5LETTER A;DLTERNATE BA;MGA;MTA;CBA;DHA;CCA;DHA;CDA;DDA;EHA;DHA;CGA;DHA;CHA;CJA;DHA;CKA
DHA;CLA;DLA;CMA;CNA;DGA;DNA;DYA;CPA;DHA;CRA;CSA;CTA;DHA;DTA;EHA;5NUMBER TEN;DWENTY;5SIGN KILLER
ARULAI;ASECTION;BMALL SECTION;6YMBOL VI;5VOWEL SIGN A;HA;HI;HM;HW;GE;GI;HI;GO;GU;HU;1IRPLANE
8 ARRIVING;9DEPARTURE;1KTIESELSKAB;1LARM CLOCK;2CHEMICAL SYMBOL FOR AIR;NLEMBIC;OKALI;S-2;OUM
NMALGAM;NNTIMONY ORE;NQUA REGIA;W-2;RVITAE;W-2;QFORTIS;NRSENIC;NSHES;NURIPIGMENT;MBATH OF MARY
UVAPOURS;NISMUTH ORE;NLACK SULFUR;NORAX;R-2;S3;NRICK;MCADUCEUS;OLX;OPUT MORTUUM;NINNABAR
NOPPER ANTIMONIATE;TORE;NROCUS OF COPPER;c-2;WIRON;OUCIBLE;U-2;V3;V4;V5;MDAY-NIGHT;NISSOLVE;U-2
PTILL;MEARTH;MFIRE;MGOLD;NUM;MHALF DRAM;ROUNCE;NORSE DUNG;OUR;MIRON ORE;U-2;Q-COPPER ORE;MLEAD ORE
NODESTONE;MMARCASITE;NERCURY SUBLIMATE;d-2;e3;NONTH;MNIGHT;OTRE;MOIL;MPHILOSOPHERS SULFUR;NOT ASHES
OWDER;SED BRICK;NRECIPITATE;NURIFY;OTREFACTION;MQUICK LIME;PNTESSENCE;MREALGAR;T-2;OGULUS
T OF ANTIMONY;f-2;XIRON;T-2;U3;U4;OTORT;NOCK SALT;V-2;MSAL-AMMONIAC;PT;Q OF ANTIMONY
UCOPPER ANTIMONIATE;NCEPTER OF JOVE;NILVER;NOAP;NPIRIT;NTARRED TRIDENT;ORATUM SUPER STRATUM;h-2
NUBLIMATE OF ANTIMONY;ZCOPPER;ZSALT OF ANTIMONY;hCOPPER;UION;OLFUR;MTARTAR;S-2;NIN ORE;PCTURE
NRIDENT;NUTTY;MURINE;MVERDIGRIS;NINEGAR;T OF ANTIMONY;T-2;U3;OTRIOL;T-2;MWATER;OX;2EF SYMBOL;3MBIC
3RT;2IEN MONSTER;2L AROUND-PROFILE;4EQUAL TO;2M;3OST EQUAL OR EQUAL TO;DTO;F WITH CIRCUMFLEX ACCENT
2TERNATE ONE-WAY LEFT WAY TRAFFIC;8IVE KEY SYMBOL;1MALGAMATION OR COPRODUCT;2BULANCE
2ERICAN FOOTBALL;2PERSAND;3HORA;1NATOLIAN HIEROGLYPH A001;O2;O3;O4;O5;O6;O7;O8;O9;N10;PA;O1;O2;O3
O4;O5;O6;O7;O8;O9;N20;O1;O2;O3;O4;O5;O6;PA;O7;O8;O9;N30;O1;O2;O3;O4;O5;O6;O7;O8;O9;PA;N40;O1;PA;O2
O3;O4;O5;PA;O6;PA;PB;O7;O8;O9;N50;O1;O2;O3;O4;O5;O6;O7;O8;O9;N60;O1;O2;O3;O4;O5;O6;PA;PB;PC;O7;O8
O9;N70;O1;O2;O3;O4;O5;O6;O7;O8;O9;N80;O1;O2;O3;O4;O5;O6;O7;O8;O9;N90;O1;O2;O3;O4;O5;O6;O7;PA;O8;PA
O9;M100;PA;O1;PA;O2;PA;O3;O4;PA;PB;PC;O5;PA;PB;O6;O7;PA;PB;PC;O8;O9;N10;PA;PB;O1;O2;O3;O4;O5;PA;O6
O7;O8;O9;N20;O1;O2;O3;O4;O5;PA;O6;O7;O8;O9;N30;O1;O2;O3;O4;O5;PA;O6;O7;O8;O9;N40;O1;O2;O3;O4;O5;O6
O7;O8;O9;N50;O1;O2;O3;O4;O5;O6;O7;O8;O9;N60;O1;O2;O3;O4;O5;O6;O7;O8;O9;N70;O1;O2;O3;O4;O5;O6;O7;O8
O9;N80;O1;O2;O3;O4;O5;O6;O7;O8;O9;N90;O1;O2;O3;O4;O5;O6;O7;O8;O9;M200;O1;O2;PA;PB;O3;O4;O5;O6;O7;PA
O8;O9;PA;N10;O1;O2;O3;O4;O5;PA;O6;PA;O7;O8;O9;N20;O1;O2;O3;O4;O5;O6;O7;PA;O8;O9;N30;O1;O2;O3;O4;O5
O6;O7;O8;O9;N40;O1;O2;O3;O4;O5;O6;O7;O8;O9;N50;O1;O2;O3;O4;O5;O6;O7;O8;O9;N60;O1;O2;O3;O4;O5;O6;O7
PA;O8;O9;N70;O1;O2;O3;O4;O5;O6;O7;O8;O9;N80;O1;O2;O3;O4;O5;O6;O7;O8;O9;PA;N90;O1;O2;O3;O4;PA;O5;O6
O7;O8;O9;PA;M300;O1;O2;O3;O4;O5;O6;O7;O8;O9;PA;N10;O1;O2;O3;O4;O5;O6;O7;O8;O9;N20;O1;O2;O3;O4;O5;O6
O7;O8;O9;PA;N30;O1;O2A;PB;PC;O3;O4;O5;O6;PA;PB;PC;O7;O8;O9;N40;O1;O2;O3;O4;O5;O6;O7;O8;O9;N50;O1;O2
O3;O4;O5;O6;O7;O8;O9;PA;N60;O1;O2;O3;O4;PA;O5;O6;O7;O8;PA;O9;N70;O1;PA;O2;O3;O4;O5;O6;O7;O8;O9;N80
O1;PA;O2;O3 RA OR RI;PA;O4;O5;O6;PA;O7;O8;O9;N90;O1;O2;O3 EIGHT;O4;O5;O6;O7;O8;O9;M400;O1;O2;O3;O4
O5;O6;O7;O8;O9;N10 BEGIN LOGOGRAM MARK;PA END LOGOGRAM MARK;O1;O2;O3;O4;O5;O6;O7;O8;O9;N20;O1;O2;O3
O4;O5;O6;O7;O8;O9;N30;O1;O2;O3;O4;O5;O6;O7;O8;O9;N40;O1;O2;O3;O4;O5;O6;O7;O8;O9;N50;PA;O1;O2;O3;O4
O5;O6;O7;PA;O8;O9;N60;O1;O2;O3;O4;O5;O6;O7;O8;O9;N70;O1;O2;O3;O4;O5;O6;O7;O8;O9;N80;O1;O2;O3;O4;O5
O6;O7;O8;O9;N90;O1;O2;O3;O4;O5;O6;O7;M501;O2;O3;O4;O5;O6;O7;O8;O9;N10;O1;O2;O3;O4;O5;O6;O7;O8;O9
N20;O1;O2;O3;O4;O5;O6;O7;O8;O9;N30;5MICAL HEART;2CHOR;2D WITH DOT;2GER SYMBOL;3LE;5 WITH S INSIDE
BUNDERBAR;3RY FACE;3STROM SIGN;3UISHED FACE;2KH;2T;3ENNA WITH BARS;3ICLOCKWISE CLOSED CIRCLE ARROW
FONTOUR INTEGRAL;EDOWNWARDS AND UPWARDS OPEN CIRCLE ARROWS;EGAPPED CIRCLE ARROW;EINTEGRATION
EOPEN CIRCLE ARROW;ETOP SEMICIRCLE ARROW;FRIANGLE-HEADED BOTTOM U-SHAPED ARROW;ULEFT U-SHAPED ARROW
UOPEN CIRCLE ARROW;URIGHT U-SHAPED ARROW;UTOP U-SHAPED ARROW;1PC;2L FUNCTIONAL SYMBOL ALPHA
R UNDERBAR;MBACKSLASH BAR;MCIRCLE BACKSLASH;TDIAERESIS;TJOT;TSTAR;VILE;TUNDERBAR;NOMMA BAR
MDEL DIAERESIS;QSTILE;QTILDE;PTA STILE;SUNDERBAR;NIAMOND UNDERBAR;NOWN CARET TILDE;RSHOE STILE
RTACK JOT;WUNDERBAR;QWARDS VANE;MEPSILON UNDERBAR;MGREATER-THAN DIAERESIS;MI-BEAM;NOTA;Q UNDERBAR
MJOT DIAERESIS;QUNDERBAR;MLEFT SHOE STILE;QWARDS VANE;MOMEGA;R UNDERBAR;MQUAD;Q BACKSLASH;RCIRCLE
SOLON;RDEL;UTA;SIAMOND;TVIDE;SOWN CARET;VWARDS ARROW;REQUAL;RGREATER-THAN;RJOT;RLEFTWARDS ARROW
TSS-THAN;RNOT EQUAL;RQUESTION;RRIGHTWARDS ARROW;RSLASH;RUP CARET;TWARDS ARROW;OOTE QUAD;SUNDERBAR
MRHO;NIGHTWARDS VANE;MSEMICOLON UNDERBAR;NLASH BAR;NQUISH QUAD;NTAR DIAERESIS;OILE TILDE
MTILDE DIAERESIS;MUP CARET TILDE;PSHOE JOT;PTACK DIAERESIS;UJOT;UOVERBAR;OWARDS VANE;MZILDE;2OLLON
3STROPHE;2PLICATION PROGRAM COMMAND;3ROACHES THE LIMIT;5XIMATELY BUT NOT ACTUALLY EQUAL TO
EEQUAL OR EQUAL TO;KTO;M OR THE IMAGE OF;1QUARIUS;1RABIC BASELINE ROUND DOT;7COMMA;8URLY DAMMA;ITAN
DFATHA;ITAN;DKASRA;ITAN;7DAMMA;C ISOLATED FORM;DMEDIAL FORM;DWITH DOT;CTAN;F ISOLATED FORM
9TE SEPARATOR;8ECIMAL SEPARATOR;8ISPUTED END OF AYAH;8OUBLE RIGHT ARROWHEAD ABOVE;Z WITH DOT
DD MADDA;7EMPTY CENTRE HIGH STOP;KLOW STOP;8ND OF AYAH;ETEXT MARK;7FATHA;C ISOLATED FORM
DMEDIAL FORM;DWITH DOT ABOVE;IRING;ITWO DOTS;CTAN;F ISOLATED FORM;8IVE POINTED STAR;8OOTNOTE MARKER
8ULL STOP;7HALF MADDA OVER MADDA;9MZA ABOVE;DBELOW;7INVERTED DAMMA;7KASRA;C ISOLATED FORM
DMEDIAL FORM;DWITH DOT BELOW;CTAN;F ISOLATED FORM;7LARGE CIRCLE BELOW;DROUND DOT ABOVE;NBELOW
NINSIDE CIRCLE BELOW;8EFT ARROWHEAD ABOVE;MBELOW;9TTER AE;FFRICAN FEH;MNOON;MQAF
P WITH THREE DOTS ABOVE;FIN;H FINAL FORM;IINITIAL FORM;JSOLATED FORM;IMEDIAL FORM
IWITH THREE DOTS ABOVE;YBELOW;YPOINTING DOWNWARDS ABOVE;OWO DOTS ABOVE;WVERTICALLY ABOVE;FLEF
I FINAL FORM;JISOLATED FORM;JMAKSURA;Q FINAL FORM;RISOLATED FORM;JWASLA;O FINAL FORM;PISOLATED FORM
KITH ATTACHED BOTTOM RIGHT KASRA;p AND DOT ABOVE;uLEFT RING;XFATHA;XKASRA;XLEFT HAMZA;cROUND DOT
XRIGHT HAMZA;dROUND DOT;YOUND DOT ABOVE;hBELOW;XTOP RIGHT FATHA;m AND DOT ABOVE;rLEFT RING
ODOT ABOVE;OEXTENDED ARABIC-INDIC DIGIT THREE ABOVE;rWO ABOVE;OHAMZA ABOVE;Z FINAL FORM
aISOLATED FORM;UBELOW;Z FINAL FORM;aISOLATED FORM;OLEFT MIDDLE STROKE;OMADDA ABOVE;Z FINAL FORM
aISOLATED FORM;ORIGHT MIDDLE STROKE;h AND DOT ABOVE;mLEFT RING;OWAVY HAMZA ABOVE;ZBELOW;EBEEH
I FINAL FORM;JINITIAL FORM;KSOLATED FORM;JMEDIAL FORM;GH;H FINAL FORM;IINITIAL FORM;JSOLATED FORM
IMEDIAL FORM;IWITH DOT BELOW AND THREE DOTS ABOVE;NHAMZA ABOVE;NINVERTED SMALL V BELOW
NSMALL MEEM ABOVE;TV;U BELOW;NTHREE DOTS HORIZONTALLY BELOW;YPOINTING UPWARDS BELOW
u AND TWO DOTS ABOVE;OWO DOTS BELOW AND DOT ABOVE;HEH;J FINAL FORM;KINITIAL FORM;LSOLATED FORM
KMEDIAL FORM;EDAD;H FINAL FORM;IINITIAL FORM;JSOLATED FORM;IMEDIAL FORM;IWITH DOT BELOW;GHAL
J FINAL FORM;KISOLATED FORM;GL;H FINAL FORM;IISOLATED FORM;IWITH DOT BELOW;W AND SMALL TAH
NFOUR DOTS ABOVE;NINVERTED SMALL V BELOW;WV;NRING;NTHREE DOTS ABOVE DOWNWARDS;YBELOW
OWO DOTS VERTICALLY BELOW AND SMALL TAH;FDAHAL;K FINAL FORM;LISOLATED FORM;HL;I FINAL FORM
JISOLATED FORM;FOTLESS BEH;MFEH;MQAF;FUL;H FINAL FORM;IISOLATED FORM;FYEH;I FINAL FORM
JINITIAL FORM;KSOLATED FORM;JMEDIAL FORM;EE;F FINAL FORM;GINITIAL FORM;HSOLATED FORM;GMEDIAL FORM
EFARSI YEH;N FINAL FORM;OINITIAL FORM;PSOLATED FORM;OMEDIAL FORM
OWITH EXTENDED ARABIC-INDIC DIGIT FOUR BELOW;vTHREE ABOVE;wWO ABOVE;TINVERTED V;TTHREE DOTS ABOVE
UWO DOTS ABOVE;FEH;H FINAL FORM;IINITIAL FORM;JSOLATED FORM;IMEDIAL FORM;IWITH DOT BELOW
W AND THREE DOTS ABOVE;RMOVED BELOW;NTHREE DOTS BELOW;YPOINTING UPWARDS BELOW;OWO DOTS BELOW;EGAF
H FINAL FORM;IINITIAL FORM;JSOLATED FORM;IMEDIAL FORM;IWITH INVERTED STROKE;NRING;NTHREE DOTS ABOVE
OWO DOTS BELOW;FHAIN;J FINAL FORM;KINITIAL FORM;LSOLATED FORM;KMEDIAL FORM;KWITH DOT BELOW
PTHREE DOTS ABOVE;FRAF;FUEH;I FINAL FORM;JINITIAL FORM;KSOLATED FORM;JMEDIAL FORM;EHAH;H FINAL FORM
IINITIAL FORM;JSOLATED FORM;IMEDIAL FORM;IWITH EXTENDED ARABIC-INDIC DIGIT FOUR BELOW;NHAMZA ABOVE
NINVERTED SMALL V BELOW;NSMALL ARABIC LETTER TAH ABOVE;mND TWO DOTS;lBELOW;NTHREE DOTS ABOVE
YPOINTING UPWARDS BELOW;OWO DOTS ABOVE;WVERTICAL ABOVE;GMZA;J ISOLATED FORM;FEH;H DOACHASHMEE
T FINAL FORM;UINITIAL FORM;VSOLATED FORM;UMEDIAL FORM;IFINAL FORM;IGOAL;M FINAL FORM;NINITIAL FORM
OSOLATED FORM;NMEDIAL FORM;NWITH HAMZA ABOVE;IINITIAL FORM;JSOLATED FORM;IMEDIAL FORM
IWITH INVERTED V;NYEH ABOVE;W FINAL FORM;XISOLATED FORM;FIGH HAMZA;O ALEF;PWAW;PYEH;EJEEM
I FINAL FORM;JINITIAL FORM;KSOLATED FORM;JMEDIAL FORM;JWITH THREE DOTS ABOVE;ZBELOW;PWO DOTS ABOVE
GH;H FINAL FORM;IISOLATED FORM;EKAF;H FINAL FORM;IINITIAL FORM;JSOLATED FORM;IMEDIAL FORM
IWITH DOT ABOVE;RBELOW;NRING;NTHREE DOTS BELOW;OWO DOTS ABOVE;GSHMIRI YEH;FEHEH;J FINAL FORM
KINITIAL FORM;LSOLATED FORM;KMEDIAL FORM;KWITH DOT ABOVE;PSMALL V;PTHREE DOTS ABOVE;aBELOW
aPOINTING UPWARDS BELOW;QWO DOTS ABOVE;YVERTICALLY BELOW;FHAH;I FINAL FORM;JINITIAL FORM
KSOLATED FORM;JMEDIAL FORM;FIRGHIZ OE;O FINAL FORM;PISOLATED FORM;MYU;O FINAL FORM;PISOLATED FORM
ELAM;H FINAL FORM;IINITIAL FORM;JSOLATED FORM;IMEDIAL FORM;IWITH BAR;NDOT ABOVE;PUBLE BAR
NSMALL ARABIC LETTER TAH ABOVE;TV;NTHREE DOTS ABOVE;YBELOW;FOW ALEF;EMARK;FEEM;I FINAL FORM
JINITIAL FORM;KSOLATED FORM;JMEDIAL FORM;JWITH DOT ABOVE;SBELOW;OTHREE DOTS ABOVE;ENG;G FINAL FORM
HINITIAL FORM;ISOLATED FORM;HMEDIAL FORM;GOEH;J FINAL FORM;KINITIAL FORM;LSOLATED FORM;KMEDIAL FORM
FOON;I FINAL FORM;JGHUNNA;P FINAL FORM;QISOLATED FORM;JINITIAL FORM;KSOLATED FORM;JMEDIAL FORM
JWITH DOT BELOW;OINVERTED SMALL V;ORING;OSMALL TAH;UV;OTHREE DOTS ABOVE;PWO DOTS BELOW;FYEH
I FINAL FORM;JINITIAL FORM;KSOLATED FORM;JMEDIAL FORM;EOE;G FINAL FORM;HISOLATED FORM;EPEH
H FINAL FORM;IINITIAL FORM;JSOLATED FORM;IMEDIAL FORM;IWITH SMALL MEEM ABOVE;TV;HEH;J FINAL FORM
KINITIAL FORM;LSOLATED FORM;KMEDIAL FORM;EQAF;H FINAL FORM;IINITIAL FORM;JSOLATED FORM;IMEDIAL FORM
IWITH DOT ABOVE;RBELOW;W AND NO DOTS ABOVE;NTHREE DOTS ABOVE;EREH;H FINAL FORM;IISOLATED FORM
IWITH DOT BELOW;W AND DOT ABOVE;NFOUR DOTS ABOVE;NHAMZA ABOVE;NINVERTED V;NLOOP;NRING
NSMALL ARABIC LETTER TAH AND TWO DOTS;TNOON ABOVE;TV;U BELOW;OTROKE;NTWO DOTS ABOVE
WVERTICALLY ABOVE;FNOON;J FINAL FORM;KINITIAL FORM;LSOLATED FORM;KMEDIAL FORM;FOHINGYA YEH;FREH
I FINAL FORM;JISOLATED FORM;ESAD;H FINAL FORM;IINITIAL FORM;JSOLATED FORM;IMEDIAL FORM
IWITH THREE DOTS ABOVE;YBELOW;OWO DOTS BELOW;FEEN;I FINAL FORM;JINITIAL FORM;KSOLATED FORM
JMEDIAL FORM;JWITH DOT BELOW AND DOT ABOVE;OEXTENDED ARABIC-INDIC DIGIT FOUR ABOVE;OFOUR DOTS ABOVE
OINVERTED V;OSMALL ARABIC LETTER TAH AND TWO DOTS;OTHREE DOTS BELOW;e AND THREE DOTS ABOVE
PWO DOTS VERTICALLY ABOVE;FHEEN;J FINAL FORM;KINITIAL FORM;LSOLATED FORM;KMEDIAL FORM
KWITH DOT BELOW;FTRAIGHT WAW;FUPERSCRIPT ALEF;FWASH KAF;ETAH;H FINAL FORM;IINITIAL FORM
JSOLATED FORM;IMEDIAL FORM;IWITH DOT BELOW;NTHREE DOTS ABOVE;YBELOW;OWO DOTS ABOVE;FCHEH
J FINAL FORM;KINITIAL FORM;LSOLATED FORM;KMEDIAL FORM;KWITH DOT ABOVE;PSMALL V;JEH;L FINAL FORM
MINITIAL FORM;NSOLATED FORM;MMEDIAL FORM;FEH;H FINAL FORM;IINITIAL FORM;JSOLATED FORM;IMARBUTA
P FINAL FORM;QGOAL;QISOLATED FORM;JEDIAL FORM;IWITH RING;NSMALL TEH ABOVE;TV
NTHREE DOTS ABOVE DOWNWARDS;HEH;J FINAL FORM;KINITIAL FORM;LSOLATED FORM;KMEDIAL FORM;FHAL
I FINAL FORM;JISOLATED FORM;GEH;I FINAL FORM;JINITIAL FORM;KSOLATED FORM;JMEDIAL FORM;GIN YEH;FTEH
I FINAL FORM;JINITIAL FORM;KSOLATED FORM;JMEDIAL FORM;JWITH SMALL V;IEH;K FINAL FORM;LINITIAL FORM
MSOLATED FORM;LMEDIAL FORM;EU;F FINAL FORM;GISOLATED FORM;GWITH HAMZA ABOVE;W ISOLATED FORM
FIGHUR KAZAKH KIRGHIZ ALEF MAKSURA INITIAL FORM;nMEDIAL FORM;EVE;G FINAL FORM;HISOLATED FORM;GH
H FINAL FORM;IINITIAL FORM;JSOLATED FORM;IMEDIAL FORM;EWAW;H FINAL FORM;IISOLATED FORM
IWITH DOT ABOVE;RWITHIN;NEXTENDED ARABIC-INDIC DIGIT THREE ABOVE;qWO ABOVE;NHAMZA ABOVE
Y FINAL FORM;ZISOLATED FORM;NRING;NTWO DOTS ABOVE;EYEH;H BARREE;O FINAL FORM;PISOLATED FORM
PWITH EXTENDED ARABIC-INDIC DIGIT THREE ABOVE;xWO ABOVE;UHAMZA ABOVE;f FINAL FORM;gISOLATED FORM
IFINAL FORM;IINITIAL FORM;JSOLATED FORM;IMEDIAL FORM;IWITH HAMZA ABOVE;Y FINAL FORM;ZINITIAL FORM
aSOLATED FORM;ZMEDIAL FORM;NSMALL V;NTAIL;OHREE DOTS BELOW;OWO DOTS BELOW AND DOT ABOVE
gHAMZA ABOVE;gSMALL NOON ABOVE;FU;G FINAL FORM;HISOLATED FORM;EZAH;H FINAL FORM;IINITIAL FORM
JSOLATED FORM;IMEDIAL FORM;GIN;I FINAL FORM;JISOLATED FORM;JWITH INVERTED V ABOVE
8IGATURE AIN WITH ALEF MAKSURA FINAL FORM;cISOLATED FORM;PJEEM INITIAL FORM;VSOLATED FORM
UWITH MEEM FINAL FORM;eINITIAL FORM;PMEEM INITIAL FORM;VSOLATED FORM;UWITH ALEF MAKSURA FINAL FORM
ZMEEM FINAL FORM;eINITIAL FORM;ZYEH FINAL FORM;PYEH FINAL FORM;TISOLATED FORM;HKBAR ISOLATED FORM
HLAYHAA AS-SALAAM;LE ISOLATED FORM;LI AS-SALAAM;VTU WAS-SALAAM;MM AS-SALAAM;NAA AS-SALAAM
IEF MAKSURA WITH SUPERSCRIPT ALEF FINAL FORM;pISOLATED FORM;LWITH FATHATAN FINAL FORM
ZISOLATED FORM;ILAH ISOLATED FORM;HZZA WA JALL;GBEH WITH ALEF MAKSURA FINAL FORM;cISOLATED FORM
PHAH INITIAL FORM;USOLATED FORM;TWITH YEH FINAL FORM;QEH INITIAL FORM;TMEDIAL FORM
PJEEM INITIAL FORM;VSOLATED FORM;PKHAH INITIAL FORM;VSOLATED FORM;UWITH YEH FINAL FORM
PMEEM FINAL FORM;UINITIAL FORM;VSOLATED FORM;UMEDIAL FORM;PNOON FINAL FORM;PREH FINAL FORM
PYEH FINAL FORM;TISOLATED FORM;PZAIN FINAL FORM;HISMILLAH AR-RAHMAN AR-RAHEEM
GDAD WITH ALEF MAKSURA FINAL FORM;cISOLATED FORM;PHAH INITIAL FORM;USOLATED FORM
TWITH ALEF MAKSURA FINAL FORM;YYEH FINAL FORM;PJEEM INITIAL FORM;VSOLATED FORM;PKHAH INITIAL FORM
VSOLATED FORM;UWITH MEEM FINAL FORM;eINITIAL FORM;PMEEM INITIAL FORM;VSOLATED FORM;PREH FINAL FORM
TISOLATED FORM;PYEH FINAL FORM;TISOLATED FORM;GFEH WITH ALEF MAKSURA FINAL FORM;cISOLATED FORM
PHAH INITIAL FORM;USOLATED FORM;PJEEM INITIAL FORM;VSOLATED FORM;PKHAH INITIAL FORM;VSOLATED FORM
UWITH MEEM FINAL FORM;eINITIAL FORM;PMEEM INITIAL FORM;VSOLATED FORM;UWITH YEH FINAL FORM
PYEH FINAL FORM;TISOLATED FORM;GGHAIN WITH ALEF MAKSURA FINAL FORM;eISOLATED FORM
RJEEM INITIAL FORM;XSOLATED FORM;RMEEM INITIAL FORM;XSOLATED FORM;WWITH ALEF MAKSURA FINAL FORM
bMEEM FINAL FORM;bYEH FINAL FORM;RYEH FINAL FORM;VISOLATED FORM;GHAH WITH ALEF MAKSURA FINAL FORM
cISOLATED FORM;PJEEM INITIAL FORM;VSOLATED FORM;UWITH YEH FINAL FORM;PMEEM INITIAL FORM
VSOLATED FORM;UWITH ALEF MAKSURA FINAL FORM;ZYEH FINAL FORM;PYEH FINAL FORM;TISOLATED FORM
HEH WITH ALEF MAKSURA ISOLATED FORM;PJEEM INITIAL FORM;VSOLATED FORM;PMEEM INITIAL FORM
VSOLATED FORM;UWITH JEEM INITIAL FORM;ZMEEM INITIAL FORM;PSUPERSCRIPT ALEF INITIAL FORM
PYEH ISOLATED FORM;GJALLAJALALOUHOU;HEEM WITH ALEF MAKSURA FINAL FORM;dISOLATED FORM
QHAH INITIAL FORM;VSOLATED FORM;UWITH ALEF MAKSURA FINAL FORM;ZYEH FINAL FORM;QMEEM INITIAL FORM
WSOLATED FORM;VWITH ALEF MAKSURA FINAL FORM;aHAH FINAL FORM;eINITIAL FORM;aYEH FINAL FORM
QYEH FINAL FORM;UISOLATED FORM;GKAF WITH ALEF FINAL FORM;UISOLATED FORM;UMAKSURA FINAL FORM
cISOLATED FORM;PHAH INITIAL FORM;USOLATED FORM;PJEEM INITIAL FORM;VSOLATED FORM;PKHAH INITIAL FORM
VSOLATED FORM;PLAM FINAL FORM;TINITIAL FORM;USOLATED FORM;TMEDIAL FORM;PMEEM FINAL FORM
UINITIAL FORM;VSOLATED FORM;UMEDIAL FORM;UWITH MEEM FINAL FORM;eINITIAL FORM;ZYEH FINAL FORM
PYEH FINAL FORM;TISOLATED FORM;HHAH WITH ALEF MAKSURA FINAL FORM;dISOLATED FORM;QHAH ISOLATED FORM
QJEEM INITIAL FORM;WSOLATED FORM;QMEEM INITIAL FORM;WSOLATED FORM;QYEH FINAL FORM;UISOLATED FORM
GLAM WITH ALEF FINAL FORM;UISOLATED FORM;UMAKSURA FINAL FORM;cISOLATED FORM
UWITH HAMZA ABOVE FINAL FORM;lISOLATED FORM;fBELOW FINAL FORM;lISOLATED FORM
ZMADDA ABOVE FINAL FORM;lISOLATED FORM;PHAH INITIAL FORM;USOLATED FORM
TWITH ALEF MAKSURA FINAL FORM;YMEEM FINAL FORM;dINITIAL FORM;YYEH FINAL FORM;QEH INITIAL FORM
PJEEM INITIAL FORM;VSOLATED FORM;UWITH JEEM FINAL FORM;eINITIAL FORM;ZMEEM FINAL FORM;eINITIAL FORM
ZYEH FINAL FORM;PKHAH INITIAL FORM;VSOLATED FORM;UWITH MEEM FINAL FORM;eINITIAL FORM
PMEEM FINAL FORM;UINITIAL FORM;VSOLATED FORM;UMEDIAL FORM;UWITH HAH FINAL FORM;dINITIAL FORM
ZYEH FINAL FORM;PYEH FINAL FORM;TISOLATED FORM;GMEEM WITH ALEF FINAL FORM;VMAKSURA ISOLATED FORM
QHAH INITIAL FORM;VSOLATED FORM;UWITH JEEM INITIAL FORM;ZMEEM INITIAL FORM;ZYEH FINAL FORM
QJEEM INITIAL FORM;WSOLATED FORM;VWITH HAH INITIAL FORM;aKHAH INITIAL FORM;aMEEM INITIAL FORM
aYEH FINAL FORM;QKHAH INITIAL FORM;WSOLATED FORM;VWITH JEEM INITIAL FORM;aMEEM INITIAL FORM
aYEH FINAL FORM;QMEEM FINAL FORM;VINITIAL FORM;WSOLATED FORM;VWITH YEH FINAL FORM
QYEH ISOLATED FORM;HOHAMMAD ISOLATED FORM;GNOON WITH ALEF MAKSURA FINAL FORM;dISOLATED FORM
QHAH INITIAL FORM;VSOLATED FORM;UWITH ALEF MAKSURA FINAL FORM;ZMEEM INITIAL FORM;ZYEH FINAL FORM
REH INITIAL FORM;UMEDIAL FORM;QJEEM INITIAL FORM;WSOLATED FORM;VWITH ALEF MAKSURA FINAL FORM
aHAH FINAL FORM;eINITIAL FORM;aMEEM FINAL FORM;fINITIAL FORM;aYEH FINAL FORM;QKHAH INITIAL FORM
WSOLATED FORM;QMEEM FINAL FORM;VINITIAL FORM;WSOLATED FORM;VMEDIAL FORM
VWITH ALEF MAKSURA FINAL FORM;aYEH FINAL FORM;QNOON FINAL FORM;QREH FINAL FORM;QYEH FINAL FORM
UISOLATED FORM;QZAIN FINAL FORM;GQAF WITH ALEF MAKSURA FINAL FORM;cISOLATED FORM;PHAH INITIAL FORM
USOLATED FORM;PMEEM INITIAL FORM;VSOLATED FORM;UWITH HAH FINAL FORM;dINITIAL FORM;ZMEEM FINAL FORM
ZYEH FINAL FORM;PYEH FINAL FORM;TISOLATED FORM;ILA USED AS KORANIC STOP SIGN ISOLATED FORM
HUDDISA SIRRAH;GRADI ALLAAHU ANH;WAA;WUM;YAA;XNNA;IHIMAHU ALLAAH;OM ALLAAH;ISOUL ISOLATED FORM
HEH WITH SUPERSCRIPT ALEF ISOLATED FORM;GSAD WITH ALEF MAKSURA FINAL FORM;cISOLATED FORM
PHAH INITIAL FORM;USOLATED FORM;TWITH HAH FINAL FORM;cINITIAL FORM;YYEH FINAL FORM
PKHAH INITIAL FORM;PMEEM INITIAL FORM;VSOLATED FORM;UWITH MEEM FINAL FORM;eINITIAL FORM
PREH FINAL FORM;TISOLATED FORM;PYEH FINAL FORM;TISOLATED FORM;ILAAMUHU ALAYNAA;KM ISOLATED FORM
JLA ISOLATED FORM;MUSED AS KORANIC STOP SIGN ISOLATED FORM;LLLAAHU ALAYHI WA-AALIH
OHOU ALAYHE WASALLAM;PU ALAYHI WAAALIHEE WA-SALLAM;HEEN WITH ALEF MAKSURA FINAL FORM;dISOLATED FORM
QHAH INITIAL FORM;VSOLATED FORM;UMEDIAL FORM;UWITH JEEM INITIAL FORM;REH INITIAL FORM;UMEDIAL FORM
QJEEM INITIAL FORM;WSOLATED FORM;VMEDIAL FORM;VWITH ALEF MAKSURA FINAL FORM;aHAH INITIAL FORM
QKHAH INITIAL FORM;WSOLATED FORM;VMEDIAL FORM;VWITH ALEF MAKSURA FINAL FORM;aYEH FINAL FORM
QMEEM INITIAL FORM;WSOLATED FORM;VMEDIAL FORM;VWITH HAH FINAL FORM;eINITIAL FORM;aJEEM INITIAL FORM
aMEEM FINAL FORM;fINITIAL FORM;QREH FINAL FORM;UISOLATED FORM;QYEH FINAL FORM;UISOLATED FORM
HHADDA WITH DAMMA ISOLATED FORM;YMEDIAL FORM;XTAN ISOLATED FORM;SFATHA ISOLATED FORM;YMEDIAL FORM
SKASRA ISOLATED FORM;YMEDIAL FORM;XTAN ISOLATED FORM;SSUPERSCRIPT ALEF ISOLATED FORM
IEEN WITH ALEF MAKSURA FINAL FORM;eISOLATED FORM;RHAH FINAL FORM;VINITIAL FORM;WSOLATED FORM
VMEDIAL FORM;VWITH MEEM FINAL FORM;fINITIAL FORM;aYEH FINAL FORM;SEH INITIAL FORM;VMEDIAL FORM
RJEEM FINAL FORM;WINITIAL FORM;XSOLATED FORM;WMEDIAL FORM;WWITH YEH FINAL FORM;RKHAH FINAL FORM
WINITIAL FORM;XSOLATED FORM;WMEDIAL FORM;RMEEM FINAL FORM;WINITIAL FORM;XSOLATED FORM;WMEDIAL FORM
WWITH KHAH FINAL FORM;gINITIAL FORM;bMEEM FINAL FORM;gINITIAL FORM;RREH FINAL FORM;VISOLATED FORM
RYEH FINAL FORM;VISOLATED FORM;HUBHAANAHU WA TAAALAA;GTABAARAKA WA-TAAALAA
IH WITH ALEF MAKSURA FINAL FORM;cISOLATED FORM;PHAH INITIAL FORM;USOLATED FORM;PMEEM INITIAL FORM
VSOLATED FORM;UMEDIAL FORM;UWITH HAH FINAL FORM;dINITIAL FORM;ZMEEM INITIAL FORM;ZYEH FINAL FORM
PYEH FINAL FORM;TISOLATED FORM;HEH WITH ALEF MAKSURA FINAL FORM;cISOLATED FORM;PHAH INITIAL FORM
USOLATED FORM;TWITH JEEM FINAL FORM;dINITIAL FORM;YMEEM INITIAL FORM;QEH INITIAL FORM;TMEDIAL FORM
PJEEM INITIAL FORM;VSOLATED FORM;UWITH ALEF MAKSURA FINAL FORM;ZMEEM INITIAL FORM;ZYEH FINAL FORM
PKHAH INITIAL FORM;VSOLATED FORM;UWITH ALEF MAKSURA FINAL FORM;ZMEEM INITIAL FORM;ZYEH FINAL FORM
PMEEM FINAL FORM;UINITIAL FORM;VSOLATED FORM;UMEDIAL FORM;UWITH ALEF MAKSURA FINAL FORM
ZHAH INITIAL FORM;ZJEEM INITIAL FORM;ZKHAH INITIAL FORM;ZYEH FINAL FORM;PNOON FINAL FORM
PREH FINAL FORM;PYEH FINAL FORM;TISOLATED FORM;PZAIN FINAL FORM
HHAL WITH SUPERSCRIPT ALEF ISOLATED FORM;IEH WITH ALEF MAKSURA FINAL FORM;dISOLATED FORM
QHEH MEDIAL FORM;QJEEM ISOLATED FORM;QMEEM FINAL FORM;VINITIAL FORM;WSOLATED FORM;VMEDIAL FORM
QNOON FINAL FORM;QREH FINAL FORM;QYEH FINAL FORM;UISOLATED FORM;QZAIN FINAL FORM
GUIGHUR KIRGHIZ YEH WITH HAMZA ABOVE WITH ALEF MAKSURA FINAL FORM;z MAKSURA INITIAL FORM
z MAKSURA ISOLATED FORM;GWASALLAM ISOLATED FORM;GYEH WITH ALEF MAKSURA FINAL FORM;cISOLATED FORM
PHAH INITIAL FORM;USOLATED FORM;TWITH YEH FINAL FORM;RMZA ABOVE WITH AE FINAL FORM;jISOLATED FORM
hLEF FINAL FORM;lISOLATED FORM;lMAKSURA FINAL FORM;tISOLATED FORM;gE FINAL FORM;iINITIAL FORM
jSOLATED FORM;gHAH INITIAL FORM;lSOLATED FORM;hEH INITIAL FORM;kMEDIAL FORM;gJEEM INITIAL FORM
mSOLATED FORM;gKHAH INITIAL FORM;gMEEM FINAL FORM;lINITIAL FORM;mSOLATED FORM;lMEDIAL FORM
gNOON FINAL FORM;gOE FINAL FORM;jISOLATED FORM;gREH FINAL FORM;gU FINAL FORM;iISOLATED FORM
gWAW FINAL FORM;kISOLATED FORM;gYEH FINAL FORM;kISOLATED FORM;hU FINAL FORM;jISOLATED FORM
gZAIN FINAL FORM;QEH INITIAL FORM;TMEDIAL FORM;PJEEM INITIAL FORM;VSOLATED FORM
UWITH YEH FINAL FORM;PKHAH INITIAL FORM;VSOLATED FORM;PMEEM FINAL FORM;UINITIAL FORM;VSOLATED FORM
UMEDIAL FORM;UWITH MEEM FINAL FORM;eINITIAL FORM;ZYEH FINAL FORM;PNOON FINAL FORM;PREH FINAL FORM
PYEH FINAL FORM;TISOLATED FORM;PZAIN FINAL FORM;GZAH WITH MEEM INITIAL FORM;VSOLATED FORM
UMEDIAL FORM;7MADDA WAAJIB;CH ABOVE;9RK NOON GHUNNA;CSIDEWAYS NOON GHUNNA;9THEMATICAL AIN;LLEF;KBEH
KDAD;ML;LOTLESS BEH;SFEH;SNOON;SQAF;MUBLE-STRUCK AIN;YBEH;YDAD;aL;YFEH;YGHAIN;YHAH;YJEEM;YKHAH;YLAM
YMEEM;YNOON;YQAF;YREH;YSAD;ZEEN;ZHEEN;YTAH;ZEH;ZHAL;aEH;YWAW;YYEH;YZAH;aIN;KFEH;KGHAIN;KHAH
KINITIAL AIN;SBEH;SDAD;SFEH;SGHAIN;SHAH;TEH;SJEEM;SKAF;THAH;SLAM;SMEEM;SNOON;SQAF;SSAD;TEEN;THEEN
STEH;THEH;SYEH;KJEEM;KKAF;LHAH;KLAM;LOOPED AIN;SLEF;RBEH;RDAD;TL;RFEH;RGHAIN;RHAH;SEH;RJEEM;RKHAH
RLAM;RMEEM;RNOON;RQAF;RREH;RSAD;SEEN;SHEEN;RTAH;SEH;SHAL;TEH;RWAW;RYEH;RZAH;TIN;KMEEM;KNOON
KOPERATOR HAH WITH DAL;TMEEM WITH HAH WITH TATWEEL;KQAF;KREH;KSAD;LEEN;LHEEN;LTRETCHED AIN;UBEH
UDAD;VOTLESS BEH;cFEH;UFEH;UGHAIN;UHAH;VEH;UJEEM;UKAF;VHAH;UMEEM;UNOON;UQAF;USAD;VEEN;VHEEN;UTAH
VEH;VHEH;UYEH;UZAH;KTAH;MILED AIN;RDAD;SOTLESS NOON;ZQAF;RGHAIN;RHAH;RJEEM;RKHAH;RLAM;RNOON;RQAF
RSAD;SEEN;SHEEN;RYEH;LEH;LHAL;MEH;KWAW;KYEH;KZAH;MIN;7NUMBER MARK ABOVE;ESIGN;7OPEN DAMMATAN
CFATHATAN;CKASRATAN;7PERCENT SIGN;8IASTRE MARK ABOVE;8LACE OF SAJDAH;8OETIC VERSE SIGN
9UND MARK ABOVE;7QUESTION MARK;7RAISED ROUND DOT;9Y;8EVERSED DAMMA;8IGHT ARROWHEAD ABOVE;S WITH DOT
NBELOW;8OUNDED HIGH STOP WITH FILLED CENTRE;7SEMICOLON;8HADDA;D ISOLATED FORM;EMEDIAL FORM
8IGN ALAYHE ASSALLAM;CMISRA;CRADI ALLAHOU ANHU;EHMATULLAH ALAYHE;CSAFHA;ELLALLAHOU ALAYHE WASSALLAM
EMVAT;ENAH;DINDHI AMPERSAND;JPOSTPOSITION MEN;CTAKHALLUS;8MALL DAMMA;DFARSI YEH;FTHA;DHIGH AIN
IDOTLESS HEAD OF KHAH;IFARSI YEH;JOOTNOTE MARKER;IJEEM;ILAM ALEF;JIGATURE ALEF WITH LAM WITH YEH
RQAF WITH LAM WITH ALEF MAKSURA;RSAD WITH LAM WITH ALEF MAKSURA;IMADDA;JEEM INITIAL FORM
OSOLATED FORM;INOON;M WITH KASRA;IQAF;IROUNDED ZERO;ISAD;JEEN;JIGN SAFHA;ITAH;JHREE DOTS
IUPRIGHT RECTANGULAR ZERO;IWAW;JORD AL-JUZ;ON-NISF;OR-RUB;OS-SAJDA;OTH-THALATHA;NQIF;NSAH;PKTA
NWAQFA;IYEH;L BARREE WITH TWO DOTS BELOW;IZAH;KIN;DKASRA;DLOW MEEM;HNOON WITH KASRA;HSEEN;HWAW
IORD IMAALA;NSHMAAM;MTASHEEL;DWAW;DYEH;8TART OF RUB EL HIZB;8UBSCRIPT ALEF;9KUN;C BELOW
DISOLATED FORM;DMEDIAL FORM;9PERSCRIPT ALEF MOKHASSAS;8YMBOL DOT ABOVE;IBELOW
GUBLE VERTICAL BAR BELOW;EFOUR DOTS ABOVE;OBELOW;ERING;ESMALL TAH ABOVE;OBELOW;ETHREE DOTS ABOVE
PBELOW;PPOINTING DOWNWARDS ABOVE;iBELOW;FWO DOTS ABOVE;NBELOW;NVERTICALLY ABOVE;YBELOW;EWASLA ABOVE
7TAIL FRAGMENT;9TWEEL;E WITH FATHATAN ABOVE;KOVERSTRUCK HAMZA;VWAW;KTWO DOTS BELOW
8HOUSANDS SEPARATOR;8ONE LOOP ABOVE;HBELOW;CONE DOT ABOVE;KBELOW;CTWO DOTS ABOVE;LBELOW
8RIPLE DOT PUNCTUATION MARK;8URNED DAMMA BELOW;7VERTICAL TAIL;8OWEL SIGN DOT BELOW
IINVERTED SMALL V ABOVE;ISMALL V ABOVE;7WAVY HAMZA BELOW;7ZWARAKAY;6-INDIC CUBE ROOT;DDIGIT EIGHT
JFIVE;KOUR;JNINE;JONE;JSEVEN;KIX;JTHREE;KWO;JZERO;DFOURTH ROOT;DPER MILLE SIGN;HTEN THOUSAND SIGN
2C;2IES;2MENIAN ABBREVIATION MARK;APOSTROPHE;9CAPITAL LETTER AYB;OBEN;OCA;PHA;QEH;PO;ODA;OECH;PH;PT
OFEH;OGHAD;PIM;OHO;OINI;OJA;PHEH;OKEH;QN;OLIWN;OMEN;ONOW;OOH;OPEH;PIWR;ORA;PEH;OSEH;PHA;OTIWN;PO
OVEW;PO;OXEH;OYI;QWN;OZA;PHE;AOMMA;9DRAM SIGN;9EMPHASIS MARK;AXCLAMATION MARK;9FULL STOP;9HYPHEN
9MODIFIER LETTER LEFT HALF RING;9QUESTION MARK;9SMALL LETTER AYB;MBEN;MCA;NHA;OEH;NO;MDA;MECH;NH;NT
MFEH;MGHAD;NIM;MHO;MINI;MJA;NHEH;MKEH;ON;MLIWN;MMEN;MNOW;MOH;MPEH;NIWR;MRA;NEH;MSEH;NHA;MTIWN;NO
NURNED AYB;MVEW;NO;MXEH;MYI;O WITH STROKE;OWN;MZA;NHE;GIGATURE ECH YIWN;OMEN ECH;SINI;SNOW;SXEH
OVEW NOW;2ROW POINTING DOWNWARDS THEN CURVING LEFTWARDS;cRIGHTWARDS
FRIGHTWARDS THEN CURVING DOWNWARDS;dSOUTH WEST;dUPWARDS;FUPWARDS THEN NORTH WEST
5HEAD-SHAPED POINTER;2TICULATED LORRY;4ST PALETTE;1SCENDING NODE;3IA SYMBOL;2SERTION;2TERISK
8 OPERATOR;7M;3ONISHED FACE;3RAEA;4ONOMICAL SYMBOL FOR URANUS;2YMPTOTICALLY EQUAL TO;1THLETIC SHOE
2OM SYMBOL;1UBERGINE;2STRAL SIGN;2TO RICKSHAW;4MATED TELLER MACHINE;5OBILE
1VESTAN ABBREVIATION MARK;8LETTER A;GA;HN;HO;GE;HE;GN;GO;FBE;GHE;FCE;FDE;GHE;FE;GE;FFE;FGE;GGE;GHE
FHE;GME;FI;GI;FJE;FKE;FLE;FME;FNE;GGE;HVE;HYE;GNE;GYE;FO;GO;FPE;FRE;FSE;GHE;HYE;GSHE;FTE;GHE;GTE;FU
GU;FVE;FXE;GVE;GYE;FYE;GYE;FZE;GHE;2OCADO;1XE;0BABY;4 ANGEL;5BOTTLE;5CHICK;5SYMBOL;2CK OF ENVELOPE
5WITH LEFTWARDS ARROW ABOVE;4-TILTED SHADOWED WHITE RIGHTWARDS ARROW
4SLANTED SOUTH ARROW WITH HOOKED TAIL;VRIZONTAL TAIL;5PACE;3ON;3TRIAN CAMEL;2DGER
3MINTON RACQUET AND SHUTTLECOCK;2GEL;3GAGE CLAIM;3UETTE BREAD;2LINESE ADEG ADEG;9CARIK PAMUNGKAH
HREREN;FSIKI;9DIGIT EIGHT;FFIVE;GOUR;FNINE;FONE;FSEVEN;GIX;FTHREE;GWO;FZERO;9LETTER AIKARA;HKARA
L TEDUNG;HRCHAIC JNYA;HSYURA SASAK;GBA;I KEMBANG;GCA;I LACA;GDA;I MADU;KURDA ALPAPRANA;PMAHAPRANA
GEF SASAK;HKARA;GGA;I GORA;GHA;GIKARA;L TEDUNG;GJA;I JERA;GKA;I MAHAPRANA;IF SASAK;HHOT SASAK;GLA
I LENGA;O TEDUNG;GMA;GNA;I RAMBAT;HGA;HYA;GOKARA;L TEDUNG;GPA;I KAPAL;GRA;I REPA;N TEDUNG;GSA
I SAGA;LPA;GTA;I LATIK;JMURDA MAHAPRANA;JTAWA;HZIR SASAK;GUKARA;L TEDUNG;GVE SASAK;GWA;GYA
GZAL SASAK;9MUSICAL SYMBOL COMBINING BENDE;YENDEP;YGONG;YJEGOGAN;YKEMPLI;e WITH JEGOGAN;cUL
e WITH JEGOGAN;YTEGEH;ODAENG;QING;QNG;S GEDE;TSURANG;PENG;QUNG;PING;PONG;PUNG
OLEFT-HAND CLOSED PLAK;hUK;YOPEN PANG;eING;eUNG;ORIGHT-HAND CLOSED TAK;hUK;ZOPEN DAG;fUG;9PAMADA
F LANTANG;CENENG;BNTI;E LANTANG;9SIGN BISAH;ECECEK;EREREKAN;ESURANG;EULU CANDRA;IRICEM
9VOWEL SIGN LA LENGA;S TEDUNG;KPEPET;P TEDUNG;KRA REPA;R TEDUNG;KSUKU;O ILUT;KTALING;Q REPA
V TEDUNG;RTEDUNG;LEDUNG;KULU;N SARI;9WINDU;3L OF YARN;4ET SHOES;4OON;7-SPOKED ASTERISK
5T BOLD SCRIPT X;9X;A WITH BALLOT;HOLD CHECK;LSCRIPT X;GCHECK;GLIGHT X;GSCRIPT X;GX;7SCRIPT X;7X
2MUM COLON;8MBINING MARK KOQNDON;LTUKWENTIS;9MA;6FULL STOP;6LETTER A;DEE;DFAAMAE;EEE;EOM;EU;DI;DKA
EEN;FT;FUX;EI;EO;FGHOM;FVUU;EPA;EU;EYEE;DLA;EEEEE;EI;EOQ;EU;DM;EA;EBAA;FEN;EEEEE;FN;EI;EO;EU;DNA
EDAA;EGA;FGA;FKWAEN;EI;EJAEM;FEE;FUAE;ESHA;ETEE;FUU;EU;FAE;EYI;DO;DPA;EEE;FUX;EHASE-A FIRI
LGBIEE FON;MHEUAEGHEUAE;RRAE;LKAFA;NQ;MET;NUKEUTNDA;MPOQ;MUOQ;LLAPAQ;MET KUT;MOMMAE;MU;NAEP
LMAEKEUP;OM;PBGBIEE;PKPEN;PVEUX;ONYI;OSI;NNSUAE;NP PIEET;MBANYI;OQ;MEUNJOMNDEUQ;MGBASA;MON NGGEUAET
NOMEUT;PPUQ;MVEUAENGAM;LNAA MFON;NQ;MDA LEERAEWA;OANGGEUAET;MEN;MGANGU;NGEN;NKUE MFON;QNZEUM;MIKA
MJAM;MKAARAE;NINDI;MSHA;OIEE;MTAP;P MFAA;QNTAA;NOQPEN;MYET;NI;OT MONGKEUAEQ;MZA MFON;NUN MEUT
LPA LEERAEWA;NAM;ORAE;NMSHAE;NSHAE;MET;MON MFON PIPAEMBA;aGBIEE;PPA NJI PIPAEMBA;cGBIEE;MUP;LROM
LSEUNYAM;MHINDA PA NJI;ORAE;NOQ NSHUT YUM;NUENSHUET;OM;MISA;MONJAM;NQ;NT;MUU;LTEUAEN;OTEUWEN
MITA MFON;MU MAEMBA;NAEP;LU YUQ NAE;MNKNOWN;LVEE;JB FEE;NUX;LGHEUGHEN;SUAEM;LKAM;MEUAEM;OPUQ;OYEUX
MIEEM;NQ;LLAANAE;NM NSHUT NYAM;MET;MOM NTEUM;LMA;N NJEUAENA;QUQA;MBA MAELEE;OARAE;NEURI;NIT MBAAKET
NUOQ;MEUQ;OT NGGEET;MFIYAQ;NON TEUAEQ;MONTIEEN;LNDU NJAA;MGGAAM;OEU MBU;OUOQ;R LARGE;NKINDI MVOP
NOM;MSEN;NHUET;MTIEE SHEUOQ;MYAEMAE;NI NTEUM;LPARUM;MEESHI;MIT;MUNGAAM;LSAKEUAE;MET TU;MHET NJAQ
OUAEQTU;MIEE;MUE;LTAAM;MU MAEMGBIEE;ONSIEE;LVEUM;LWUAET;LYAFU LEERAEWA;MEURAE;JC BUNG;LFUE;LGBAYI
MHAP;ORAE;LKAA;MEN FATIGUE;PLAW;NT;NUKAQ;OM;OSEUX;PHEUAEP;MPARAQ;MUOP NKAARAE;NT;LLAM;NP;MIQ;MU
LMA KEUAERI;ONSIEE;NEMBA;OSI;MBAA CABBAGE-TREE;QPICKET;ONYI;NEEKEET;ORAE;OUM;PX;NI;ORIEEN;OT;NUAEM
OE;MGBASAQ;MIEE;MUAE;LNANSANAQ;NQ;MDAM;OP;NEUAEREE;PT;NIDA;NOMBU;MGAQ;NGEN;OU;PAEN NYAM;PEET;PM;PON
NKAQ;OUE MAEMBA;NOM;MJAEM;OM;NEEEE;OUX;NUEQ;MSA;NEUAEN;NHAQ;NOM;NUN;OOT NGOM;MTAA;NEN;OUNGBA
NU MBIT;MYIR MKPARAQ MEUN;MZA;NEUM;LPEN;MIN;NRIEEN;LRU;LSETFON;NUX;MHIQ;NUEQ;MUAET;LTAASHAE;MET
NUTEUX;MITA YUE;OUAEP;LVEUAEPEN;OX;LWANGKUOQ;MUP;LYAA;MEUQ;MU MUOMAE;NM;NWOQ;JD FAA;MEUFEUAET;LGHAA
NEUAE;LKET;NUAETMEUN;OM;OOT MBUAE;OP;MU;NN;NOM;NQ;MWAET;MYEE;LLEEEE;NT;NUAEP;OM;MIEE;MOQ;MUM;LM
MAENJET;NLEERI;MBAA;P SEVEN;NUO;MEEEE;NUN;OT;MFEUAE;PT;NIEE;NO;ON;MGBEUN;OIEE;OOFUM;MONI;MU;MVOP
LNDAM;NEE;OUX;NON;MGGAAM;RAE;PP;OEUX;OUOM;OWAEN;NKAP;OEUAEQ;QRI;OIEE;OUN;OYEE;MI;MJAP;NEUAEM;PT;NI
OEE;NUEQ;MSHEE;OUT;NIEEP;QT;NUM;MTEE;OUM;NUU;MU;MYAM;NET;NI;NUE;LPAP;MEE;NUTAE;MIP;MUQ;NUT;LRAEM
MEN MUCH;POLD;MII;LSAP;NQ;MEUAEQ;MHEE;OUAE;PX;NII;NOQ;NU;MOT;MUAE;NE;NU;LTAE;MEEEE;NUAEN;ON;OT;MI
MOQ;MU;NOT;LWAP;MUAEN;LYAEMMAE;MEN;MUOM;OP;NWOQ;JE A;LFA;NQ;MEE;MOM;MU CALL;OI;OREMEDY;NE;OT;LGBET
OUX;MHAAMAE;NET;OUAE;PN;PX;NOM;LI;LKET;NUAE;OX;MI;MO;MPEUX;MUET;NOP;NT;LLAAM;NP;NQ;MEUAEM;MOM;NON
OT;NQ;MU;LMA;NE;OM;NP;NQ;MBEE;OUM;MEN;MFEUQ;MGBA;OEN;MI;NEE;MON;MUAE;MVI;LNA;NE;MDAA MY HOUSE
QSOFTNESS;OP;NIAQ;OQ;NUN;MGA;NEUREUT;NGEEEE;PUAE;ST;OUAESHAE NYAM;PP;PRAE;NKA;PAMI;OEUAEM;QX;OUM;PP
NOP;OQ;NUAE;QT;MJAEMLI;NEE;P EPOCH;OUX;MKOM;MSHIEE;OUE;POP;MTAP;NUM;MYI BETWEEN;PCLEAVER;MZAQ;NUQ
LO;LPA PEOPLE;PLURAL;NA;OM;MEEM;NUT;OX;MI;NEEQ;OT;MO;NON;MU;NAE;OQ;NE;NM;LRAE;NQ;MEUX;MIMGBA;LSAA
MEE;NT;MHEUAEQ;NIQ;NO;OQ;MOM;MUAEN;LTAA;OQ;NEN NTEUM;NM;NQ;MEN;NU;OAEQ;MOO;ON;NQ;MUAE;NM;OAE;LVEE
NUAE;MOM;LWEUX;MUE;NO;LYAP;MEUAE;QT;OM;OX;MIEE;NT;MOQ COVER;PSWIMMING;MUAEN;NEQ;NN;NQ;JF EE;LFOM
LKA;MEN;NT;MO;MPA;MU;MYEE;LLA;MI;MOQ;LM;MA;MBAA;NEN;MEEEE;MO;LNDAA;MGGA;NKWAEN;MI;MJAEM;NUAE;MSHA
MTEE;MU;NAE;MYI;LPEE;NUX;MUAE;LREE;NN;NUX;MIEE;NI;MU;LSAMBA;MEUX;MHII;NO;NU;MI;MUU;LTAA;NE;MET;LU
LVUEQ;LWA;MUE;LYA;MOQ;EI;EUAE;FE;DRAE;EEE;FN;FUX;EIEE;FI;EU;DSAMBA;EEUX;EHEUX;FII;FO;FU;EI;EUU;DTAA
FE;EEN;FT;EI;DU;DWA;EUE;DYA;EOQ;EUQ;6NJAEMLI;6QUESTION MARK;6SEMICOLON;2NANA;3JO;3K
4NOTE WITH DOLLAR SIGN;EEURO SIGN;EPOUND SIGN;EYEN SIGN;2R CHART;4OF SOAP;3BER POLE;2SEBALL;3KET
6BALL AND HOOP;3SA VAH COMBINING HIGH TONE;O-LOW TONE;KLOW TONE;N-MID TONE;KMID TONE;AFULL STOP
ALETTER A;HBA;HCE;HDHII;IO;HE;IE;INNI;HFA;HGAH;IBU;HHWAH;HI;HJO;HKA;IPAH;HMBE;HO;IO;HPA;HSE;HTO;HU
IWU;HVU;HWA;JDDA;HYEIN;IIE;HZO;2T;3AK CONSONANT SIGN H;LNG;6LETTER A;DBA;DCA;DDA;DGA;DHA;DI;DJA
DKARO BA;DLA;DMA;FNDAILING HA;ONA;OSA;EBA;DNA;EDA;EGA;EORTHERN TA;EYA;DPA;FKPAK WA;DRA;DSA
EIMALUNGUN A;OGA;OHA;OLA;OMA;OPA;ORA;OSA;OWA;OYA;EOUTHERN TA;DU;DWA;DYA;6PANGOLAT;9ONGONAN
6SIGN TOMPI;7YMBOL BINDU JUDUL;JNA METEK;JPANGOLAT;KINARBORAS;6VOWEL SIGN E;IE;HI;HKARO I;MO;HO
HPAKPAK E;HU;I FOR SIMALUNGUN SA;3H;4TUB;3TERY;1EACH WITH UMBRELLA;3MED ASCENDING MUSICAL NOTES
7DESCENDING MUSICAL NOTES;7EIGHTH NOTES;7SIXTEENTH NOTES;3NS;3R FACE;4DED PERSON;3TING HEART;3VER
2CAUSE;2D;2ER MUG;3TLE;2L;3L;4 PEPPER;5SYMBOL;5WITH CANCELLATION STROKE;4HOP BELL
2NGALI ABBREVIATION SIGN;9NJI;9U LENGTH MARK;8CURRENCY DENOMINATOR SIXTEEN;HNUMERATOR FOUR;RONE
U LESS THAN THE DENOMINATOR;RTHREE;SWO;8DIGIT EIGHT;EFIVE;FOUR;ENINE;EONE;ESEVEN;FIX;ETHREE;FWO
EZERO;8GANDA MARK;8ISSHAR;8LETTER A;GA;GI;GU;FBA;GHA;FCA;GHA;FDA;GDA;HHA;GHA;FE;FGA;GHA;FHA;FI;GI
FJA;GHA;FKA;GHA;INDA TA;FLA;FMA;FNA;GGA;GNA;GYA;FO;FPA;GHA;FRA;H WITH LOWER DIAGONAL
NMIDDLE DIAGONAL;GHA;GRA;FSA;GHA;GSA;FTA;GHA;GTA;HHA;FU;GU;FVEDIC ANUSVARA;GOCALIC L;OL;NR;OR;FYA
GYA;8RUPEE MARK;ESIGN;8SANDHI MARK;9IGN ANUSVARA;EVAGRAHA;DCANDRABINDU;DNUKTA;DVIRAMA;FSARGA
8VOWEL SIGN AA;KI;KU;JE;JI;KI;JO;JU;KU;JVOCALIC L;SL;RR;SR
3T ARROW POINTING DOWNWARDS THEN NORTH EAST;4O BOX;3ZENE RING;C WITH CIRCLE;2T SYMBOL;3WEEN
2VERAGE BOX;1HAIKSUKI DANDA;BIGIT EIGHT;GFIVE;HOUR;GNINE;GONE;GSEVEN;HIX;GTHREE;HWO;GZERO
BOUBLE DANDA;AGAP FILLER-1;L2;AHUNDREDS UNIT MARK;ALETTER A;IA;II;IU;HBA;IHA;HCA;IHA;HDA;IDA;JHA
IHA;HE;HGA;IHA;HHA;HI;II;HJA;IHA;HKA;IHA;HLA;HMA;HNA;IGA;INA;IYA;HO;HPA;IHA;HRA;HSA;IHA;ISA;HTA;IHA
ITA;JHA;HU;IU;HVA;IOCALIC L;PR;QR;HYA;ANUMBER EIGHT;MY;HFIFTY;JVE;IORTY;JUR;HNINE;LTY;HONE;HSEVEN
MTY;IIX;KTY;HTEN;IHIRTY;JREE;IWENTY;JO;ASIGN ANUSVARA;GVAGRAHA;FCANDRABINDU;FVIRAMA;HSARGA
AVOWEL SIGN AA;MI;MU;LE;LI;MI;LO;LU;MU;LVOCALIC L;TR;UR;AWORD SEPARATOR;1ICYCLE;6IST
2G REVERSE SOLIDUS;4SOLIDUS;2KINI;2LLED CAP;4IARDS;2OHAZARD SIGN;2RD;3THDAY CAKE;2SON;2TCOIN SIGN
3ING LIP;1LACK BOWTIE;6CENTRE WHITE STAR;7HESS BISHOP;I ROTATED NINETY DEGREES
RTWO HUNDRED SEVENTY DEGREES;CEQUIHOPPER;M ROTATED NINETY DEGREES;CKING;G ROTATED NINETY DEGREES
PTWO HUNDRED SEVENTY DEGREES;DNIGHT;I ROTATED FORTY-FIVE DEGREES;RNINETY DEGREES
RONE HUNDRED THIRTY-FIVE DEGREES;RTHREE HUNDRED FIFTEEN DEGREES;SWO HUNDRED SEVENTY DEGREES
dTWENTY-FIVE DEGREES;I-BISHOP;JQUEEN;JROOK;CPAWN;G ROTATED NINETY DEGREES
PTWO HUNDRED SEVENTY DEGREES;CQUEEN;H ROTATED NINETY DEGREES;QTWO HUNDRED SEVENTY DEGREES;CROOK
G ROTATED NINETY DEGREES;PTWO HUNDRED SEVENTY DEGREES;CTURNED BISHOP;JKING;KNIGHT;JPAWN;JQUEEN
JROOK;7IRCLE;C FOR RECORD;DWITH DOWN ARROW;ITWO WHITE DOTS;IWHITE DOT RIGHT;7LUB SUIT
7ROSS ON SHIELD;7URVED DOWNWARDS AND LEFTWARDS ARROW;RRIGHTWARDS ARROW
DLEFTWARDS AND DOWNWARDS ARROW;RUPWARDS ARROW;DRIGHTWARDS AND DOWNWARDS ARROW;SUPWARDS ARROW
DUPWARDS AND LEFTWARDS ARROW;PRIGHTWARDS ARROW;6DIAMOND;D CENTRED;EMINUS WHITE X;EON CROSS;ESUIT
EWITH DOWN ARROW;7OWN POINTING BACKHAND INDEX;A-POINTING DOUBLE TRIANGLE;KISOSCELES RIGHT TRIANGLE
KSMALL TRIANGLE;KTRIANGLE;AWARDS EQUILATERAL ARROWHEAD;7RAUGHTS KING;FMAN;8OPLET;6FLAG;8ORETTE
7OLDER;8UR POINTED STAR;6HARD SHELL FLOPPY DISK;7EART;B SUIT;8XAGON;7ORIZONTAL ELLIPSE;8URGLASS
6LARGE CIRCLE;CSQUARE;7EFT LANE MERGE;BPOINTING BACKHAND INDEX;KINDEX;A-POINTING DOUBLE TRIANGLE
Z WITH VERTICAL BAR;KISOSCELES RIGHT TRIANGLE;KPOINTER;KSMALL TRIANGLE;KTRIANGLE;AWARDS BULLET
GEQUILATERAL ARROWHEAD;7OWER LEFT TRIANGLE;CRIGHT TRIANGLE;8ZENGE;6MEDIUM DIAMOND
EOWN-POINTING TRIANGLE;Z CENTRED;DLEFT-POINTING TRIANGLE;Z CENTRED;EOZENGE;DRIGHT-POINTING TRIANGLE
a CENTRED;DSMALL DIAMOND;JLOZENGE;JSQUARE;EQUARE;DUP-POINTING TRIANGLE;X CENTRED;7OON LILITH;6NIB
6OCTAGON;6PARALLELOGRAM;7ENNANT;9TAGON;7USHPIN;6QUESTION MARK ORNAMENT;6RECTANGLE
7IGHT POINTING BACKHAND INDEX;LINDEX;B-POINTING DOUBLE TRIANGLE;a WITH VERTICAL BAR
LISOSCELES RIGHT TRIANGLE;LPENTAGON;MOINTER;LSMALL TRIANGLE;LTRIANGLE;T WITH DOUBLE VERTICAL BAR
BWARDS ARROW;MHEAD;HBULLET;HEQUILATERAL ARROWHEAD;7OSETTE;6SAFETY SCISSORS;7CISSORS;7HOGI PIECE
7KULL AND CROSSBONES;7LIGHTLY SMALL CIRCLE;LSQUARE;7MALL DIAMOND;CLOZENGE;CSQUARE;DTAR;8ILING FACE
7NOWMAN;7PADE SUIT;7QUARE;C BUTTON;DCENTRED;DFOR STOP;7TAR;7UN WITH RAYS;6TELEPHONE;7INY DIAMOND
BLOZENGE;BSQUARE;7OUCHTONE TELEPHONE;7RUCK;7WO-WAY LEFT WAY TRAFFIC;6UNIVERSAL RECYCLING SYMBOL
7P POINTING BACKHAND INDEX;8-POINTING DOUBLE TRIANGLE;IISOSCELES RIGHT TRIANGLE;ISMALL TRIANGLE
ITRIANGLE;8PER LEFT TRIANGLE;CRIGHT TRIANGLE;8WARDS EQUILATERAL ARROWHEAD;6VERTICAL ELLIPSE
FRECTANGLE;9Y SMALL DIAMOND;HLOZENGE;HSQUARE;5-FEATHERED NORTH EAST ARROW;GRIGHTWARDS ARROW
GSOUTH EAST ARROW;6LETTER CAPITAL C;LH;LI;LR;LZ;3NK SYMBOL;2OCK SEXTANT-1;F2;G3;H4;I5;I6;H5;I6;H6
G4;H5;I6;H6;G5;H6;G6;F3;G4;H5;I6;H6;G56;G6;F4;G5;H6;G6;F5;G6;F6;E2;F3;G4;H5;I6;H6;G5;H6;G6;F4;G5;H6
F5;G6;F6;E3;F4;G5;H6;G6;F5;G6;F6;E4;F5;G6;F6;E5;F6;E6;3SSOM;3WFISH;2UE BOOK;5HEART;4BERRIES;1OAR
2LD EIGHT SPOKED ASTERISK;5FIVE SPOKED ASTERISK;5GREEK CROSS;5SALTIRE;6IX SPOKED ASTERISK
5WHITE CIRCLE;BSQUARE;2M;3B;2NE;2OK;4MARK;8 TABS;4S;3MERANG;2POMOFO FINAL LETTER G;MH;MK;MP;MT
9LETTER A;HH;HI;INN;HM;HN;IG;IN;HU;INN;GB;HU;GC;HH;GD;GE;HE;HH;HI;HN;IG;IN;HR;GF;GG;HH;HN;HU;HW;GH
GI;HH;HM;HNN;JN;HR;HU;GJ;HI;GK;HW;GL;HH;GM;GN;HG;IG;HN;GO;H WITH DOT ABOVE;HE;HM;HNG;IN;HO;HU;GP;GQ
GR;GS;HH;GT;GU;HNN;GV;GX;GZ;HH;HI;HY;2TTLE WITH POPPING CORK;4OM ARC ANTICLOCKWISE ARROW
7CURLY BRACKET;7HALF BLACK CIRCLE;CINTEGRAL;CLEFT PARENTHESIS;CRIGHT PARENTHESIS;7LEFT CORNER;DROP
CHALF BRACKET;7PARENTHESIS;7RIGHT CORNER;EROP;DHALF BRACKET;7SQUARE BRACKET
L OVER TOP SQUARE BRACKET;7TORTOISE SHELL BRACKET;2UQUET;7 OF FLOWERS;2W AND ARROW;3L OF HYGIEIA
5WITH SPOON;4ING;3TIE;6 WITH LEFT HALF BLACK;CRIGHT HALF BLACK
2X DRAWINGS DOUBLE DOWN AND HORIZONTAL;TLEFT;TRIGHT;KHORIZONTAL;KUP AND HORIZONTAL;RLEFT;RRIGHT
KVERTICAL;S AND HORIZONTAL;XLEFT;XRIGHT;FWN DOUBLE AND HORIZONTAL SINGLE;TLEFT SINGLE;TRIGHT SINGLE
IHEAVY AND HORIZONTAL LIGHT;SLEFT LIGHT;XUP LIGHT;SRIGHT LIGHT;YUP LIGHT;SUP HORIZONTAL LIGHT
ILIGHT AND HORIZONTAL HEAVY;SLEFT HEAVY;XUP HEAVY;SRIGHT HEAVY;YUP HEAVY;SUP HORIZONTAL HEAVY
ISINGLE AND HORIZONTAL DOUBLE;TLEFT DOUBLE;TRIGHT DOUBLE;DHEAVY DOUBLE DASH HORIZONTAL;VVERTICAL
LWN;N AND HORIZONTAL;SLEFT;SRIGHT;JHORIZONTAL;JLEFT;N AND LIGHT RIGHT;JQUADRUPLE DASH HORIZONTAL
YVERTICAL;JRIGHT;JTRIPLE DASH HORIZONTAL;VVERTICAL;JUP;L AND HORIZONTAL;QLEFT;RIGHT DOWN;QRIGHT
JVERTICAL;R AND HORIZONTAL;WLEFT;WRIGHT;DLEFT DOWN HEAVY AND RIGHT UP LIGHT
IHEAVY AND RIGHT DOWN LIGHT;YUP LIGHT;YVERTICAL LIGHT;ILIGHT AND RIGHT DOWN HEAVY;YUP HEAVY
YVERTICAL HEAVY;IUP HEAVY AND RIGHT DOWN LIGHT;EIGHT ARC DOWN AND LEFT;WRIGHT;NUP AND LEFT;URIGHT
JDIAGONAL CROSS;SDIAMOND;SMIDDLE LEFT TO LOWER CENTRE;t TO MIDDLE RIGHT
hUPPER CENTRE TO MIDDLE RIGHT;zDDLE RIGHT TO LOWER CENTRE;ZRIGHT TO LOWER CENTRE
iUPPER CENTRE TO MIDDLE LEFT TO LOWER CENTRE;SUPPER CENTRE TO MIDDLE LEFT
t AND MIDDLE RIGHT TO LOWER CENTRE;uTO LOWER CENTRE;zWER CENTRE TO MIDDLE RIGHT;pRIGHT
u AND MIDDLE LEFT TO LOWER CENTRE;vTO LOWER CENTRE;zOWER CENTRE TO MIDDLE LEFT;YLEFT TO LOWER RIGHT
YRIGHT TO LOWER LEFT;KOUBLE DASH HORIZONTAL;VVERTICAL;LWN;N AND HORIZONTAL;SLEFT;SRIGHT;JHORIZONTAL
T WITH VERTICAL STROKE;JLEFT;N AND HEAVY RIGHT;JQUADRUPLE DASH HORIZONTAL;YVERTICAL;JRIGHT
JTRIPLE DASH HORIZONTAL;VVERTICAL;JUP;L AND HEAVY DOWN;RORIZONTAL;QLEFT;QRIGHT;JVERTICAL
R AND HORIZONTAL;WLEFT;WRIGHT;DRIGHT DOWN HEAVY AND LEFT UP LIGHT;JHEAVY AND LEFT DOWN LIGHT
YUP LIGHT;YVERTICAL LIGHT;JLIGHT AND LEFT DOWN HEAVY;YUP HEAVY;YVERTICAL HEAVY
JUP HEAVY AND LEFT DOWN LIGHT;DUP DOUBLE AND HORIZONTAL SINGLE;RLEFT SINGLE;RRIGHT SINGLE
GHEAVY AND DOWN HORIZONTAL LIGHT;QHORIZONTAL LIGHT;QLEFT DOWN LIGHT;VLIGHT;QRIGHT DOWN LIGHT;WLIGHT
GLIGHT AND DOWN HORIZONTAL HEAVY;QHORIZONTAL HEAVY;QLEFT DOWN HEAVY;VHEAVY;QRIGHT DOWN HEAVY;WHEAVY
GSINGLE AND HORIZONTAL DOUBLE;RLEFT DOUBLE;RRIGHT DOUBLE;DVERTICAL DOUBLE AND HORIZONTAL SINGLE
XLEFT SINGLE;XRIGHT SINGLE;MHEAVY AND HORIZONTAL LIGHT;WLEFT LIGHT;WRIGHT LIGHT
MLIGHT AND HORIZONTAL HEAVY;WLEFT HEAVY;WRIGHT HEAVY;MSINGLE AND HORIZONTAL DOUBLE;XLEFT DOUBLE
XRIGHT DOUBLE;3ING GLOVE;2Y;3S SYMBOL;1PH;1RAHMI DANDA;8IGIT EIGHT;DFIVE;EOUR;DNINE;DONE;DSEVEN;EIX
DTHREE;EWO;DZERO;8OUBLE DANDA;7LETTER A;FA;FI;FU;EBA;FHA;ECA;FHA;EDA;FDA;GHA;FHA;EE;EGA;FHA;EHA;EI
FI;EJA;FHA;EKA;FHA;ELA;FLA;EMA;ENA;FGA;FNA;FYA;EO;FLD TAMIL LLA;QLA;ONNNA;ORRA;OSHORT E;UO;EPA;FHA
ERA;ESA;FHA;FSA;ETA;FHA;FTA;GHA;EU;FU;EVA;FOCALIC L;NL;MR;NR;EYA;7NUMBER EIGHT;JY;EFIFTY;GVE;FORTY
GUR;EJOINER;ENINE;ITY;EONE;H HUNDRED;ITHOUSAND;ESEVEN;JTY;FIX;HTY;ETEN;FHIRTY;GREE;FWENTY;GO
7PUNCTUATION CRESCENT BAR;JDOT;LUBLE DOT;JLINE;KOTUS;7SIGN ANUSVARA;CCANDRABINDU;CJIHVAMULIYA
COLD TAMIL VIRAMA;CUPADHMANIYA;CVISARGA;7VIRAMA;8OWEL SIGN AA;JI;JU;IBHATTIPROLU AA;IE;II;JI;IO
JLD TAMIL SHORT E;YO;IU;JU;IVOCALIC L;RL;QR;RR;3ILLE PATTERN BLANK;GDOTS-1;M2;N3;O4;P5;Q6;R7;S8;R8
Q7;R8;Q8;P6;Q7;R8;Q8;P7;Q8;P8;O5;P6;Q7;R8;Q8;P7;Q8;P8;O6;P7;Q8;P8;O7;P8;O8;N4;O5;P6;Q7;R8;Q8;P7;Q8
P8;O6;P7;Q8;P8;O7;P8;O8;N5;O6;P7;Q8;P8;O7;P8;O8;N6;O7;P8;O8;N7;O8;N8;M3;N4;O5;P6;Q7;R8;Q8;P7;Q8;P8
O6;P7;Q8;P8;O7;P8;O8;N5;O6;P7;Q8;P8;O7;P8;O8;N6;O7;P8;O8;N7;O8;N8;M4;N5;O6;P7;Q8;P8;O7;P8;O8;N6;O7
P8;O8;N7;O8;N8;M5;N6;O7;P8;O8;N7;O8;N8;M6;N7;O8;N8;M7;N8;M8;L2;M3;N4;O5;P6;Q7;R8;Q8;P7;Q8;P8;O6;P7
Q8;P8;O7;P8;O8;N5;O6;P7;Q8;P8;O7;P8;O8;N6;O7;P8;O8;N7;O8;N8;M4;N5;O6;P7;Q8;P8;O7;P8;O8;N6;O7;P8;O8
N7;O8;N8;M5;N6;O7;P8;O8;N7;O8;N8;M6;N7;O8;N8;M7;N8;M8;L3;M4;N5;O6;P7;Q8;P8;O7;P8;O8;N6;O7;P8;O8;N7
O8;N8;M5;N6;O7;P8;O8;N7;O8;N8;M6;N7;O8;N8;M7;N8;M8;L4;M5;N6;O7;P8;O8;N7;O8;N8;M6;N7;O8;N8;M7;N8;M8
L5;M6;N7;O8;N8;M7;N8;M8;L6;M7;N8;M8;L7;M8;L8;4N;2EAD;4K PERMITTED HERE;4ST-FEEDING;3VE;2ICK
3DE WITH VEIL;4GE AT NIGHT;3EFCASE;5S;2OCCOLI;3KEN BAR;7CIRCLE WITH NORTHWEST ARROW;7HEART;3OM
3WN HEART;1S;1UBBLE TEA;6S;2CKET;2G;3INESE END OF SECTION;9LETTER A;GBA;GCA;GDA;GGA;GHA;GJA;GKA;GLA
GMA;HPA;GNA;HGA;IKA;HRA;HYA;ICA;GPA;GRA;GSA;GTA;GVA;GYA;9PALLAWA;9VOWEL SIGN AE;KE;KI;KO;KU
2HID LETTER A;DBA;DDA;DGA;DHA;DI;DKA;DLA;DMA;DNA;EGA;DPA;DRA;DSA;DTA;DU;DWA;DYA;6VOWEL SIGN I;HU
2ILDING CONSTRUCTION;2LLET;6 OPERATOR;4HORN;8 WITH SOUND WAVES;4SEYE;2RRITO;2S;3 STOP
3T IN SILHOUETTE;4S IN SILHOUETTE;2TTER;6FLY;1YTE ORDER MARK;2ZANTINE MUSICAL SYMBOL AGOGI ARGI
YOTERI;VGORGI;ZOTERI;VMESI;XTRIA;VPOLI ARGI;aGORGI;QNATRICHISMA;RTIKENOKYLISMA;XMA
QPESO EKFONITIKON;WXO NEO;RLI;RODERMA ARCHAION;YNEO;SSTROFOI SYNDESMOS NEO;aTELOUS ICHIMATOS;YS
Z DIPLI;aNEO;STHEMA;QRGON;TSYNTHETON;RKTIKO DI;XGA;XKE;XNI;XPA;XVOU;XZO;PCHAMILI;VON
ROREVMA ARCHAION;YNEO;RROA KLITON;VSPATHI;VZYGOS;PDASEIA;QIARGON;SSTOLI APLI MEGALI;eIKRI;YDIPLI
YTHESEOS;RESIS APLI DYO DODEKATA;WDIGRAMMOS EX DODEKATA;WMONOGRAMMOS TESSERA DODEKATA
WTETARTIMORION;XRIGRAMMOS OKTO DODEKATA;ZTIMORION;RFTOGGOS OU;RGORGON;X PARESTIGMENON ARISTERA ANO
vKATO;mDEXIA;SRAMMA GG;RPLI;U ARCHAION;QYO;PEKSTREPTON;QLAFRON;QNARXIS KAI FTHORA VOU;RDOFONON
QPEGERMA;QTERON ARGOSYNTHETON;WPARAKALESMA;QXO EKFONITIKON;PFANEROSIS DIFONIAS;ZMONOFONIAS
ZTETRAFONIAS;QHTORA SKLIRON CHROMA VASIS;QTHORA ARCHAION;e DEYTEROU ICHOU;WDIATONIKI DI;gKE;gNANA
hI ANO;jKATO;gPA;gZO;WENARMONIOS ANTIFONIA;WI YFESIS TETARTIMORION;WMALAKON CHROMA DIFONIAS
lMONOFONIAS;WNAOS ICHOS;XENANO;WSKLIRON CHROMA SYNAFI;lVASIS;eDIATONON DI;PGENIKI DIESIS;WYFESIS
QORGON ARCHAION;WNEO ANO;aKATO;WPARESTIGMENON ARISTERA;kDEXIA;USYNTHETON;STHMIKON N APLOUN;cDIPLOUN
QRONTHISMATA;PICHADIN;QMIDIARGON;SFONON;TTHORA;XON;QSAKIA TELOUS ICHIMATOS;RON ARCHAION;UNEO
PKATAVA TROMIKON;VSMA;SHISTI;QENTIMA ARCHAION;XNEO ANO;bKATO;bMESO;WTA;Y ARCHAION;ZNEO ANO;dKATO
dMESO;QLASMA;V ANO;WKATO;QONTEVMA;X ALLO;RRONIS;RUFISMA;QRATIMA ALLO;YRCHAION;XNEO;WTA;VOKOUFISMA
WYPORROON;REMASTI;QYLISMA;PLEIMMA DYO CHRONON;WENOS CHRONOU;WIMISEOS CHRONOU;WTESSARON CHRONON
XRION CHRONON;RMOI;QYGISMA;PMARTYRIA ALLI DEYTEROS ICHOS;dPROTOS ICHOS;YDEYTEROS ICHOS
YLEGETOS ICHOS;YPLAGIOS ICHOS;gTETARTOS ICHOS;ZROTOS ICHOS;dVARYS ICHOS;YTETARTOS ICHOS
hLEGETOS ICHOS;ZRIFONIAS;bTOS ICHOS;YVARYS ICHOS;QIKRON ISON;PNANA;POLIGON ARCHAION;WNEO;QMALON
QXEIA DIPLI;VEKFONITIKON;VNEO;UI ARCHAION;QYRANISMA ARCHAION;ZNEO;PPARAKALESMA ARCHAION;bNEO
ULITIKI;a ARCHAION;bNEO;SICHON;QELASTON;X NEO;RRISPOMENI;RTASMA;UTI;VOKOUFISMA;QIASMA ARCHAION;WNEO
QSIFISTOLYGISMA;XN;Y NEO;XPARAKALESMA;XSYNAGMA;SLI;TON;PRAPISMA;QEVMA;PSAXIMATA;QEISMA;V NEO
QIMANSIS ARSEOS;e DISIMOU;fTETRASIMOU;gRISIMOU;YTHESEOS;f DISIMOU;gTETRASIMOU;hRISIMOU;QTAVROS
W APODEXIA;RIGMA;RRAGGISMATA;QYNAGMA ARCHAION;XMETA STAVROU;XNEO;SEVMA;RRMA;UTIKI;PTELEIA;RSSERA
RTRAPLI;QHEMA;U APLOUN;UTISMOS ESO;cXO;SS KAI APOTHES;RITA;QINAGMA;QRIA;SGORGON;SPLI;ROMIKOLYGISMA
WN ALLO;ZRCHAION;YNEO;WPARAKALESMA;XSIFISTON;WSYNAGMA;PVAREIA DIPLI;WEKFONITIKON;WNEO;VI ARCHAION
RTHY;PXIRON KLASMA;PYFEN ANO;UKATO;SSIS APLI DYO DODEKATA;WDIGRAMMOS EX DODEKATA
WMONOGRAMMOS TESSERA DODEKATA;WTRIGRAMMOS OKTO DODEKATA;ZTIMORION;QPOKRISIS;Y DIPLI;SRROI;RSILI
0CACTUS;2DA UNA;3UCEUS;2LENDAR;3L ME HAND;2MERA;6 WITH FLASH;3PING;2N;3ADIAN SYLLABICS A;KA;LI;LY
KI;LVILIK B;KN;KTHAPASCAN M;US;KY;JBEAVER DENE L;VR;KIBLE-CREE Y;KLACKFOOT A;TE;TI;TKA;UE;UI;UO;TNA
UE;UI;UO;TO;TS;TW;UA;UE;UI;UO;JC;KA;LA;MI;LRRIER CHA;TE;UE;TI;TO;TU;RDEE;TNE GEE;UTAL S;SI;SLA;TE
UE;TI;TO;TU;SZA;TE;UE;TI;TO;TU;REE;RGA;TA;SE;TE;SHA;TE;UE;TI;TO;TU;SI;SO;SU;SWA;TU;RH;SEE;SI;SWA;TE
UE;TI;TO;TU;RI;SNITIAL Z;RJA;SE;TE;SI;SJA;TE;UE;TI;TO;TU;SO;SU;SWA;RKHA;TE;UE;TI;TO;TU;SK;TA;TE;UE
TI;TO;TU;RLA;SE;TE;SHA;TE;UE;TI;TO;TU;SI;SO;SU;RMA;SE;TE;SI;SO;SU;RNA;SE;TE;SG;SI;SO;SU;RP;SA;SE;TE
SI;SO;SU;RRA;SE;TE;SI;SO;SU;RSA;SE;TE;SH;TA;TE;UE;TI;TO;TU;SI;SO;SU;RTHA;TE;UE;TI;TO;TU;SLA;TE;UE
THA;UE;VE;UI;UO;UU;TI;TO;TU;SSA;TE;UE;TI;TO;TU;STA;TE;UE;TI;TO;TSA;UE;VE;UI;UO;UU;TU;RWA;SE;TE;SI
SO;SU;RYA;SE;TE;SI;SO;SU;RZ;SA;SE;TE;SI;SO;SU;KE;KHI SIGN;KI;LI;KO;LO;KWA;MA;LE;LI;MI;LO;MO;JE
KASTERN W;KN;JF;KA;LA;MI;KE;KI;LI;LNAL ACUTE;PBOTTOM HALF RING;PDOUBLE ACUTE
WSHORT VERTICAL STROKES;RWN TACK;PGRAVE;PMIDDLE DOT;PPLUS;PRAISED DOT;QIGHT HALF RING;RNG
PSHORT HORIZONTAL STROKE;QMALL RING;PTOP HALF RING;KO;LO;KULL STOP;KWAA;JGLOTTAL STOP;JHK;KYPHEN;JI
KI;KN;JK;KA;LA;MI;LY;KE;KI;LI;KO;LO;KW;LA;MA;MY;LE;LI;MI;LO;MO;JL;KA;LA;MI;LY;KE;KH;LA;MA;LI;MI;LO
MO;KI;LI;KO;LO;KWA;MA;LE;LI;MI;LO;MO;JM;KA;LA;MI;LY;KE;LDIAL L;QR;KH;KI;LI;KO;LO;MSE-CREE SK;KWA;MA
LE;LI;MI;LO;MO;JN;K-CREE THE;SI;TI;KA;LA;MI;LSKAPI CWAA;RKWAA;RMWAA;RNWAA;RS-W;SCWA;SKW;UA;SPWA
STWA;SWAA;RTWAA;RWAA;SOO;RYWAA;LTTILIK HA;UA;TI;UI;TO;UO;SSHRA;WA;VI;WI;VO;WO;LY;KE;KG;LA;MA;NI;MI
LI;MI;LO;MO;KH;KI;LI;KNG;MA;NA;MI;NI;MO;NO;KO;LO;LY;KUNAVIK H;SA;TA;SE;SI;TI;SO;TO;OUT H;KWA;MA;LE
LI;MI;LO;MO;JO;KJIBWAY C;RK;RM;RN;SWI;UI;TO;UO;RP;RS;SH;RT;KN;KO;KY;JP;KA;LA;MI;LY;KE;KI;LI;KO;LO
LY;KWA;MA;LE;LI;MI;LO;MO;MY;JQ;KA;LA;MI;LI;KI;LI;KO;LO;JR;K-CREE RE;RWE;KA;LA;MI;LY;KE;KI;LI;KO;LO
KWA;MA;LEE;LI;MI;LO;MO;JS;KA;LA;MI;LY;MISI HA;RE;RI;RO;SO;QJI;RU;SU;QM;QSHA;SE;SI;SO;TO;SWE;QTH;QYI
KE;KH;LA;MA;MY;LE;LI;MI;LO;MO;MY;LWA;NA;ME;MI;NI;MO;NO;NY;KI;LI;KO;LO;LUTH-SLAVEY KAH;XEH;XIH;XOH
LY;KPA;LE;LI;LO;KW;LA;MA;LE;LI;MI;LO;MO;JT;KA;LA;MI;LY;KE;KH;L-CREE TH;TA;UA;TE;TI;UI;TO;UO;LA;MA
LE;LI;MI;LO;MO;LWA;NA;ME;KI;LI;KLHA;ME;MI;MO;NO;MWE;KO;LO;KTA;LE;LH;MA;NA;ME;MI;MO;NO;MWE;LI;LO;KWA
MA;LE;LI;MI;LO;MO;KYA;LE;LI;LO;JWA;LA;LY;KE;LST-CREE CWA;WA;VE;VI;WI;VO;WO;TFWAA;TKWA;WA;VE;VI;WI
VO;WO;TL;UA;VA;UE;UO;VO;UWA;WA;VE;VI;WI;VO;WO;TM;UWA;WA;VE;VI;WI;VO;WO;TNWA;WA;VE;TP;UWA;WA;VE;VI
WI;VO;WO;TR;UA;UE;UI;UO;UWAA;TSHWA;XA;WE;WI;XI;WO;XO;UWA;WA;VE;VI;WI;VO;WO;TTHWAA;UWA;WA;VE;VI;WI
VO;WO;TWA;VA;UE;UI;VI;UO;VO;TY;UWA;WA;VE;VI;WI;VO;WO;NERN W;KI;LI;KO;LO;MDS-CREE FINAL TH;UTH;WA;WE
WI;WO;WWA;YA;XEE;XI;YI;XO;YO;JY;K-CREE COO;QKOO;QLOO;QMOO;QNOO;QOO;QPOO;RWAA;QSOO;QTOO;QW;QYOO;KA
LA;MI;LY;KE;KI;LI;KO;LO;LY;KWA;MA;LE;LI;MI;LO;MO;3CEL;6 CHARACTER;7TAG;6LATION X;5R;3DLE;4Y
3NED FOOD;3OE;2PITULUM;3RICORN;2R SLIDING;3D FILE BOX;5INDEX;A DIVIDERS;3E OF;4T;5 INSERTION POINT
3IAN LETTER A;F2;EB;EC-18;G39;ED;F2;EE;F2;EG;F2;EI;FI;EK;F2;EL;FD;G2;EM;FB;G2;G3;G4;EN;FD;FG;FN;EO
EP;F2;EQ;ER;FR;ES;FH;G2;FS;FT;G2;ET;FT;G2;EU;FU;GU;H2;H3;HU;EX;3ON;4USEL HORSE;3P STREAMER
4ENTRY SAW;3RIAGE RETURN;4OT;2STLE;2T;3 FACE;8 WITH TEARS OF JOY;EWRY SMILE
2UCASIAN ALBANIAN CITATION MARK;JLETTER ALT;ROR;QBET;QCAR;SYN;RHA;TT;SI;SOY;RYAW;TY;QDAT;RYAN;RZAY
SYAY;QEB;RYN;QFAM;QGHEYS;RIM;QHEYT;QINYA;RRB;RWN;QJAYN;RHOX;QKAR;RIW;QLAN;RYIT;QMAQ;QNOWC;QON;QPEN
RIWR;QQAR;SY;QRAT;QSEYK;RHA;TK;SOY;QTAS;RIWR;RYAY;QVEYZ;QXEYN;QYAYD;ROWD;QZARL;RHA;SIL;3TION SIGN
1CH;1EDI SIGN;4LLA;2LTIC CROSS;2NT SIGN;4RE LINE SYMBOL;6LINE LOW LINE;BOVERLINE;2RES;1GJ;1HAINS;4R
3KMA AU MARK;7DANDA;8IGIT EIGHT;DFIVE;EOUR;DNINE;DONE;DSEVEN;EIX;DTHREE;EWO;DZERO;8OUBLE DANDA
7LETTER AA;EBAA;FHAA;ECAA;FHAA;EDAA;FDAA;GHAA;FHAA;EE;EGAA;FHAA;EHAA;EI;EJAA;FHAA;EKAA;FHAA;ELAA
FHAA;EMAA;ENAA;FGAA;FNAA;FYAA;EPAA;FHAA;ERAA;ESAA;ETAA;FHAA;FTAA;GHAA;EU;EVAA;EWAA;EYAA;FYAA
7MAAYYAA;7O MARK;7QUESTION MARK;7SECTION MARK;8IGN ANUSVARA;CCANDRABINDU;CVISARGA;7VIRAMA
8OWEL SIGN A;JA;JI;JU;IE;JI;II;JI;IO;JI;IU;JU;3M CONSONANT SIGN FINAL H;QM;QNG;KLA;KRA;KWA;KYA
5DIGIT EIGHT;BFIVE;COUR;BNINE;BONE;BSEVEN;CIX;BTHREE;CWO;BZERO;5LETTER A;DI;CBA;DBA;DHA;CCHA;EHA
CDA;DDA;DHA;CE;CFINAL CH;IG;IK;IL;IN;JG;IP;IR;ISS;IT;IY;CGA;DHA;CHA;CI;CJA;DHA;CKA;DHA;CLA;CMA;DUE
CNA;DGA;EUE;DHA;EJA;EUE;DUE;CO;CPA;DHA;DPA;CRA;CSA;DSA;CTA;DHA;CU;CVA;CYA;5PUNCTUATION DANDA
IOUBLE DANDA;HSPIRAL;HTRIPLE DANDA;5VOWEL SIGN AA;HI;HU;GEI;GI;HI;GO;HE;GU;HE;3RACTER TABULATION
K SET;LWITH JUSTIFICATION;BIE;4T WITH DOWNWARDS TREND;BUPWARDS TREND;O AND YEN SIGN;2ECK MARK
5ER BOARD;D FILL;3ERING MEGAPHONE;4SE WEDGE;3QUERED FLAG;3ROKEE LETTER A;GDA;HE;HI;HLA;HO;HU;HV;GE
GGA;HE;HI;HO;HU;HV;GHA;HE;HI;HNA;HO;HU;HV;GI;GKA;GLA;HE;HI;HO;HU;HV;GMA;HE;HI;HO;HU;HV;GNA;IH;HE;HI
HO;HU;HV;GO;GQUA;IE;II;IO;IU;IV;GS;HA;HE;HI;HO;HU;HV;GTA;HE;HI;HLA;IE;II;IO;IU;IV;HSA;IE;II;IO;IU
IV;GU;GV;GWA;HE;HI;HO;HU;HV;GYA;HE;HI;HO;HU;HV;9SMALL LETTER A;MDA;NE;NI;NLA;NO;NU;NV;ME;MGA;NE;NI
NO;NU;NV;MHA;NE;NI;NNA;NO;NU;NV;MI;MKA;MLA;NE;NI;NO;NU;NV;MMA;NE;NI;NO;NU;NV;MNA;OH;NE;NI;NO;NU;NV
MO;MQUA;OE;OI;OO;OU;OV;MS;NA;NE;NI;NO;NU;NV;MTA;NE;NI;NLA;OE;OI;OO;OU;OV;NSA;OE;OI;OO;OU;OV;MU;MV
MWA;NE;NI;NO;NU;NV;MYA;NE;NI;NO;NU;NV;4RIES;5Y BLOSSOM;3STNUT;2I RHO;3CKEN;3LD;5REN CROSSING;3PMUNK
3RON;2OCOLATE BAR;3PSTICKS;3RASMIAN LETTER ALEPH;JYIN;IBETH;ICURLED WAW;IDALETH;IGIMEL;IHE;KTH
IKAPH;ILAMEDH;IMEM;INUN;IPE;IRESH;ISAMEKH;JHIN;JMALL ALEPH;ITAW;IWAW;IYODH;IZAYIN;BNUMBER FOUR;IONE
L HUNDRED;ITEN;JHREE;JWENTY;KO;2RISTMAS TREE;2URCH;1INEMA
2RCLE DIVIDED BY HORIZONTAL BAR AND TOP HALF DIVIDED BY VERTICAL BAR
7WITH ALL BUT UPPER LEFT QUADRANT BLACK;CHORIZONTAL BAR;CLEFT HALF BLACK;DOWER HALF BLACK
CRIGHT HALF BLACK;CSMALL CIRCLE TO THE RIGHT;DUPERIMPOSED X;CTWO HORIZONTAL STROKES TO THE RIGHT
CUPPER HALF BLACK;IRIGHT QUADRANT BLACK;CVERTICAL FILL;6D ANTICLOCKWISE ARROW
L-ROTATED DIVISION SIGN;9STERISK OPERATOR;8BOLD X;9ULLET;8C WITH OVERLAID BACKSLASH;9C;9D
9ROSS FORMEE;K WITH FOUR DOTS;QTWO DOTS;EPOMMEE;DING LANES;8DASH;9IGIT EIGHT;EFIVE;FOUR;ENINE;EONE
ESEVEN;FIX;ETHREE;FWO;EZERO;AVISION SIGN;ILASH;9OLLAR SIGN WITH OVERLAID BACKSLASH;AT OPERATOR
8EQUALS;8GREATER-THAN;8HANGUL CHIEUCH;M A;GIEUC;K A;FHIEUH;K A;FIEUNG;K A;LU;FKHIEUKH;M A;GIYEOK
L A;FMIEUM;K A;FNIEUN;K A;FPHIEUPH;M A;GIEUP;K A;FRIEUL;K A;FSIOS;J A;FTHIEUTH;M A;GIKEUT;L A
9EAVY WHITE RIGHTWARDS ARROW;9ORIZONTAL BAR WITH NOTCH;9UMAN FIGURE;8IDEOGRAPH ACCEPT;JDVANTAGE
JLLIANCE;JTTENTION;ICENTRE;JONGRATULATION;KPY;KRRECT;IEARTH;JIGHT;JNTERPRISE;JXCELLENT;IFEMALE
JINANCIAL;KRE;KVE;JOUR;IHAVE;JIGH;IITEM;IKINDERGARTEN;JOTO;ILABOR;JEFT;JOW;IMALE;JEDICINE;KTAL;JOON
INAME;JIGHT;KNE;IONE;IPRINT;IQUESTION;IRELIGION;KSOURCE;LT;JIGHT;ISCHOOL;JECRET;KVEN;JIX;JOCIETY
JPECIAL;JTOCK;KUDY;JUITABLE;KN;KPERVISE;ITEN;JHREE;JWO;IWATER;JOOD;9NFORMATION SOURCE
9TALIC LATIN CAPITAL LETTER C;aR;8KATAKANA A;HE;HHA;IE;II;IO;IU;HI;HKA;IE;II;IO;IU;HMA;IE;II;IO;IU
HNA;IE;II;IO;IU;HO;HRA;IE;II;IO;IU;HSA;IE;II;IO;IU;HTA;IE;II;IO;IU;HU;HWA;IE;II;IO;HYA;IO;IU
9OREAN CHARACTER CHAMKO;PJUEUI;8LATIN CAPITAL LETTER A;TB;TC;TD;TE;TF;TG;TH;TI;TJ;TK;TL;TM;TN;TO;TP
TQ;TR;TS;TT;TU;TV;TW;TX;TY;TZ;ESMALL LETTER A;RB;RC;RD;RE;RF;RG;RH;RI;RJ;RK;RL;RM;RN;RO;RP;RQ;RR;RS
RT;RU;RV;RW;RX;RY;RZ;9ESS-THAN;8MINUS;9ULTIPLICATION SIGN WITH CIRCUMFLEX ACCENT;8NUMBER EIGHTEEN
KY ON BLACK SQUARE;GLEVEN;FFIFTEEN;JY;K ON BLACK SQUARE;GORTY;K EIGHT;LFIVE;MOUR;LNINE
LON BLACK SQUARE;NE;LSEVEN;MIX;LTHREE;MWO;HURTEEN;FNINETEEN;FSEVENTEEN;LY ON BLACK SQUARE;GIXTEEN
JY ON BLACK SQUARE;FTEN;I ON BLACK SQUARE;GHIRTEEN;KY;L EIGHT;MFIVE;NOUR;MNINE;MON BLACK SQUARE;OE
MSEVEN;NIX;MTHREE;NWO;GWELVE;INTY;L EIGHT;MFIVE;NOUR;MNINE;MON BLACK SQUARE;OE;MSEVEN;NIX;MTHREE
NWO;8OPEN CENTRE EIGHT POINTED STAR;8PARALLEL;9ERPENDICULAR;9LUS;9OSTAL MARK;8REVERSE SOLIDUS
9ING OPERATOR;8SQUARE;8TIMES;9RIANGLE;G DOWN;8VERTICAL BAR;8WHITE BULLET;ESTAR;9Z;8X
8ZERO WITH SLASH;4ULATION FUNCTION;5MFLEX ACCENT;5S TENT;2TYSCAPE;9 AT DUSK
1JK COMPATIBILITY IDEOGRAPH-2F800;W1;W2;W3;W4;W5;W6;W7;W8;W9;WA;WB;WC;WD;WE;WF;V10;W1;W2;W3;W4;W5
W6;W7;W8;W9;WA;WB;WC;WD;WE;WF;V20;W1;W2;W3;W4;W5;W6;W7;W8;W9;WA;WB;WC;WD;WE;WF;V30;W1;W2;W3;W4;W5
W6;W7;W8;W9;WA;WB;WC;WD;WE;WF;V40;W1;W2;W3;W4;W5;W6;W7;W8;W9;WA;WB;WC;WD;WE;WF;V50;W1;W2;W3;W4;W5
W6;W7;W8;W9;WA;WB;WC;WD;WE;WF;V60;W1;W2;W3;W4;W5;W6;W7;W8;W9;WA;WB;WC;WD;WE;WF;V70;W1;W2;W3;W4;W5
W6;W7;W8;W9;WA;WB;WC;WD;WE;WF;V80;W1;W2;W3;W4;W5;W6;W7;W8;W9;WA;WB;WC;WD;WE;WF;V90;W1;W2;W3;W4;W5
W6;W7;W8;W9;WA;WB;WC;WD;WE;WF;VA0;W1;W2;W3;W4;W5;W6;W7;W8;W9;WA;WB;WC;WD;WE;WF;VB0;W1;W2;W3;W4;W5
W6;W7;W8;W9;WA;WB;WC;WD;WE;WF;VC0;W1;W2;W3;W4;W5;W6;W7;W8;W9;WA;WB;WC;WD;WE;WF;VD0;W1;W2;W3;W4;W5
W6;W7;W8;W9;WA;WB;WC;WD;WE;WF;VE0;W1;W2;W3;W4;W5;W6;W7;W8;W9;WA;WB;WC;WD;WE;WF;VF0;W1;W2;W3;W4;W5
W6;W7;W8;W9;WA;WB;WC;WD;WE;WF;U900;W1;W2;W3;W4;W5;W6;W7;W8;W9;WA;WB;WC;WD;WE;WF;V10;W1;W2;W3;W4;W5
W6;W7;W8;W9;WA;WB;WC;WD;WE;WF;V20;W1;W2;W3;W4;W5;W6;W7;W8;W9;WA;WB;WC;WD;WE;WF;V30;W1;W2;W3;W4;W5
W6;W7;W8;W9;WA;WB;WC;WD;WE;WF;V40;W1;W2;W3;W4;W5;W6;W7;W8;W9;WA;WB;WC;WD;WE;WF;V50;W1;W2;W3;W4;W5
W6;W7;W8;W9;WA;WB;WC;WD;WE;WF;V60;W1;W2;W3;W4;W5;W6;W7;W8;W9;WA;WB;WC;WD;WE;WF;V70;W1;W2;W3;W4;W5
W6;W7;W8;W9;WA;WB;WC;WD;WE;WF;V80;W1;W2;W3;W4;W5;W6;W7;W8;W9;WA;WB;WC;WD;WE;WF;V90;W1;W2;W3;W4;W5
W6;W7;W8;W9;WA;WB;WC;WD;WE;WF;VA0;W1;W2;W3;W4;W5;W6;W7;W8;W9;WA;WB;WC;WD;WE;WF;VB0;W1;W2;W3;W4;W5
W6;W7;W8;W9;WA;WB;WC;WD;WE;WF;VC0;W1;W2;W3;W4;W5;W6;W7;W8;W9;WA;WB;WC;WD;WE;WF;VD0;W1;W2;W3;W4;W5
W6;W7;W8;W9;WA;WB;WC;WD;WE;WF;VE0;W1;W2;W3;W4;W5;W6;W7;W8;W9;WA;WB;WC;WD;WE;WF;VF0;W1;W2;W3;W4;W5
W6;W7;W8;W9;WA;WB;WC;WD;WE;WF;UA00;W1;W2;W3;W4;W5;W6;W7;W8;W9;WA;WB;WC;WD;WE;WF;V10;W1;W2;W3;W4;W5
W6;W7;W8;W9;WA;WB;WC;WD;SF900;V1;V2;V3;V4;V5;V6;V7;V8;V9;VA;VB;VC;VD;VE;VF;U10;V1;V2;V3;V4;V5;V6;V7
V8;V9;VA;VB;VC;VD;VE;VF;U20;V1;V2;V3;V4;V5;V6;V7;V8;V9;VA;VB;VC;VD;VE;VF;U30;V1;V2;V3;V4;V5;V6;V7
V8;V9;VA;VB;VC;VD;VE;VF;U40;V1;V2;V3;V4;V5;V6;V7;V8;V9;VA;VB;VC;VD;VE;VF;U50;V1;V2;V3;V4;V5;V6;V7
V8;V9;VA;VB;VC;VD;VE;VF;U60;V1;V2;V3;V4;V5;V6;V7;V8;V9;VA;VB;VC;VD;VE;VF;U70;V1;V2;V3;V4;V5;V6;V7
V8;V9;VA;VB;VC;VD;VE;VF;U80;V1;V2;V3;V4;V5;V6;V7;V8;V9;VA;VB;VC;VD;VE;VF;U90;V1;V2;V3;V4;V5;V6;V7
V8;V9;VA;VB;VC;VD;VE;VF;UA0;V1;V2;V3;V4;V5;V6;V7;V8;V9;VA;VB;VC;VD;VE;VF;UB0;V1;V2;V3;V4;V5;V6;V7
V8;V9;VA;VB;VC;VD;VE;VF;UC0;V1;V2;V3;V4;V5;V6;V7;V8;V9;VA;VB;VC;VD;VE;VF;UD0;V1;V2;V3;V4;V5;V6;V7
V8;V9;VA;VB;VC;VD;VE;VF;UE0;V1;V2;V3;V4;V5;V6;V7;V8;V9;VA;VB;VC;VD;VE;VF;UF0;V1;V2;V3;V4;V5;V6;V7
V8;V9;VA;VB;VC;VD;VE;VF;TA00;V1;V2;V3;V4;V5;V6;V7;V8;V9;VA;VB;VC;VD;VE;VF;U10;V1;V2;V3;V4;V5;V6;V7
V8;V9;VA;VB;VC;VD;VE;VF;U20;V1;V2;V3;V4;V5;V6;V7;V8;V9;VA;VB;VC;VD;VE;VF;U30;V1;V2;V3;V4;V5;V6;V7
V8;V9;VA;VB;VC;VD;VE;VF;U40;V1;V2;V3;V4;V5;V6;V7;V8;V9;VA;VB;VC;VD;VE;VF;U50;V1;V2;V3;V4;V5;V6;V7
V8;V9;VA;VB;VC;VD;VE;VF;U60;V1;V2;V3;V4;V5;V6;V7;V8;V9;VA;VB;VC;VD;U70;V1;V2;V3;V4;V5;V6;V7;V8;V9
VA;VB;VC;VD;VE;VF;U80;V1;V2;V3;V4;V5;V6;V7;V8;V9;VA;VB;VC;VD;VE;VF;U90;V1;V2;V3;V4;V5;V6;V7;V8;V9
VA;VB;VC;VD;VE;VF;UA0;V1;V2;V3;V4;V5;V6;V7;V8;V9;VA;VB;VC;VD;VE;VF;UB0;V1;V2;V3;V4;V5;V6;V7;V8;V9
VA;VB;VC;VD;VE;VF;UC0;V1;V2;V3;V4;V5;V6;V7;V8;V9;VA;VB;VC;VD;VE;VF;UD0;V1;V2;V3;V4;V5;V6;V7;V8;V9
4RADICAL BAMBOO;DLUE;DOLT OF CLOTH;ENE;EX;DRUSH ONE;ITWO;CC-SIMPLIFIED BIRD;PCART;PDRAGON;PEAT;QVEN
PFISH;QLY;QROG;PGATE;QOLD;PHORSE;PLEAF;QONG;PSALT;QEE;QHELL;QILK;QPEECH;PTANNED LEATHER;QOOTH
QURTLE;PWIND;DHOKE;DITY;EVILIAN;DLIFF;EOTHES;DOW;CDEATH;DIVINATION;DOG;CEAT ONE;GTHREE;HWO;DWE;DYE
CFIRE;DOOT;CGHOST;DRASS ONE;ITHREE;JWO;CHAND;DEAD;FRT ONE;ITWO;DORN;CJ-SIMPLIFIED DRAGON;PEVEN
PTOOTH;QURTLE;DADE;CKNIFE ONE;ITWO;CLAME FOUR;HONE;HTHREE;IWO;DONG ONE;HTWO;CMEAT;ESH;DOON;ERTAR
ETHER;EUND ONE;ITWO;CNET FOUR;GONE;GTHREE;HWO;COLD;CPAW ONE;GTWO;DERSON;CRAIN;EM;EP;DEPEAT;CSEAL
ECOND ONE;JTHREE;KWO;DHEEP;DILK;EMPLIFIED HALF TREE TRUNK;OORN;NWALK;OHEAT;NYELLOW;DMALL ONE;ITWO
DNAKE;EOUT ONE;ITWO;DPIRIT ONE;JTWO;DUN;CTABLE;DHREAD;DIGER;DURTLE;CWALK ONE;HTWO;ETER ONE;ITWO
DEST ONE;HTWO;4STROKE BXG;BD;BH;CG;CP;DWG;CXWG;CZ;DG;DT;DW;EG;DZ;EP;EZ;FG;BN;BP;CD;CG;CZ;BQ;BS;CG
CP;CT;CW;DG;DZ;CZ;DWG;DZ;BT;CN;BWG;BXG;1LAMSHELL MOBILE PHONE;3PPER BOARD;5ING HANDS SIGN
3SSICAL BUILDING;2EAR SCREEN SYMBOL;2INKING BEER MUGS;9GLASSES;3PBOARD;2OCK FACE EIGHT OCLOCK
G-THIRTY;CLEVEN OCLOCK;H-THIRTY;BFIVE OCLOCK;F-THIRTY;COUR OCLOCK;F-THIRTY;BNINE OCLOCK;F-THIRTY
BONE OCLOCK;E-THIRTY;BSEVEN OCLOCK;G-THIRTY;CIX OCLOCK;E-THIRTY;BTEN OCLOCK;E-THIRTY;CHREE OCLOCK
G-THIRTY;CWELVE OCLOCK;H-THIRTY;DO OCLOCK;E-THIRTY;5WISE CLOSED CIRCLE ARROW;BONTOUR INTEGRAL
ADOWNWARDS AND UPWARDS OPEN CIRCLE ARROWS;AGAPPED CIRCLE ARROW;AINTEGRAL;AOPEN CIRCLE ARROW
ARIGHT AND LEFT SEMICIRCLE ARROWS;FWARDS AND LEFTWARDS OPEN CIRCLE ARROWS
r WITH CIRCLED ONE OVERLAY;ATOP SEMICIRCLE ARROW;BRIANGLE-HEADED OPEN CIRCLE ARROW;3SE UP;5D BOOK
7INTERSECTION WITH SERIFS;7LOCK WITH KEY;7MAILBOX WITH LOWERED FLAG;KRAISED FLAG;7SUBSET
D OR EQUAL TO;9PERSET;F OR EQUAL TO;7UMBRELLA;8NION WITH SERIFS;O AND SMASH PRODUCT;3UD
5 WITH LIGHTNING;BRAIN;BSNOW;BTORNADO;3WN FACE;1OAT;2CKROACH;4TAIL GLASS;3ONUT;2FFIN;2IN
2LLISION SYMBOL;3ON;5 EQUALS;6SIGN;2MBINING ACUTE ACCENT;M BELOW;GTONE MARK;F-GRAVE-ACUTE;GMACRON
BLMOST EQUAL TO ABOVE;QBELOW;BNNUITY SYMBOL;CTICLOCKWISE ARROW ABOVE;ORING OVERLAY;BSTERISK ABOVE
JBELOW;ABINDU BELOW;BREVE;F BELOW;F-MACRON;CIDGE ABOVE;HBELOW;ACANDRABINDU;CRON;F BELOW;BEDILLA
BIRCUMFLEX ACCENT;R BELOW;BLOCKWISE ARROW ABOVE;KRING OVERLAY;BOMMA ABOVE;L RIGHT;GBELOW
CNJOINING MACRON;R BELOW;BYRILLIC DASIA PNEUMATA;JHUNDRED MILLIONS SIGN;RTHOUSANDS SIGN;JKAVYKA
JLETTER A;QBE;RIG YUS;QCHE;QDE;RJERV;QEF;RL;RM;RN;RR;RS;S-TE;QFITA;QGHE;QHA;SRD SIGN;QI;RE
ROTIFIED A;ZBIG YUS;ZE;QKA;QLITTLE YUS;QMONOGRAPH UK;QO;RMEGA;QPE;QSHA;SCHA;ROFT SIGN;QTE;RSE;QU
RKRAINIAN IE;QVE;QYAT;RERU;RI;RU;QZE;RHE;JMILLIONS SIGN;JPALATALIZATION;LYEROK;KOKRYTIE
KSILI PNEUMATA;JTEN MILLIONS SIGN;KHOUSAND MILLIONS SIGN;KITLO;O LEFT HALF;PRIGHT HALF;JVZMET
ADELETION MARK;CVANAGARI DIGIT EIGHT;RFIVE;SOUR;RNINE;RONE;RSEVEN;SIX;RTHREE;SWO;RZERO;LLETTER A
SKA;SNA;SPA;SRA;SU;SVI;LSIGN AVAGRAHA;BIAERESIS;J BELOW;J-RING;BOT ABOVE;J LEFT;KRIGHT;EBELOW
J LEFT;DTED ACUTE ACCENT;HGRAVE ACCENT;CUBLE ACUTE ACCENT;HBREVE;M BELOW;HCIRCUMFLEX ABOVE
HGRAVE ACCENT;HINVERTED BREVE;V BELOW;HLOW LINE;HMACRON;N BELOW;HOPEN MARK BELOW;IVERLINE
HPARENTHESES ABOVE;ILUS SIGN ABOVE;RBELOW;HRIGHTWARDS ARROW BELOW;JNG BELOW;HTILDE;M LEFT HALF
NRIGHT HALF;HVERTICAL LINE ABOVE;VBELOW;QSTROKE OVERLAY;GD CIRCUMFLEX ACCENT;CWN TACK BELOW
EWARDS ARROW;AENCLOSING CIRCLE;Q BACKSLASH;KDIAMOND;KKEYCAP;KSCREEN;LQUARE
KUPWARD POINTING TRIANGLE;BQUALS SIGN BELOW;AFERMATA;BOUR DOTS ABOVE;AGLAGOLITIC LETTER AZU
SBIG YUS;TUKY;SCHRIVI;SDJERVI;TOBRO;SFITA;TRITU;SGLAGOLI;SHERU;SI;TNITIAL IZHE;TOTATED BIG YUS
aSMALL YUS;TZHE;SKAKO;SLJUDIJE;SMYSLITE;SNASHI;SONU;SPOKOJI;SRITSI;SSHA;UTA;TLOVO;TMALL YUS;STSI
TVRIDO;SUKU;SVEDE;SYATI;TERI;VU;USTU;TO;TU;SZEMLJA;THIVETE;BRANTHA DIGIT FIVE;POUR;OONE;OSIX;OTHREE
PWO;OZERO;ILETTER A;PKA;PNA;PPA;PVI;DPHEME JOINER;DVE ACCENT;M BELOW;GTONE MARK;F-ACUTE-GRAVE
GMACRON;CEEK DIALYTIKA TONOS;GKORONIS;GMUSICAL PENTASEME;OTETRASEME;PRISEME;GPERISPOMENI
GYPOGEGRAMMENI;AHOMOTHETIC ABOVE;COK ABOVE;CRN;AINFINITY;CVERTED BREVE;O BELOW;LIDGE BELOW
JDOUBLE ARCH ABOVE;VBELOW;BS BELOW;AKATAKANA-HIRAGANA SEMI-VOICED SOUND MARK;SVOICED SOUND MARK
CVYKA ABOVE LEFT;NRIGHT;ALATIN LETTER SMALL CAPITAL G;bL;bM;bN;bR;GSMALL LETTER A;U WITH DIAERESIS
UE;ULPHA;UO;UV;TB;UETA;TC;U CEDILLA;TD;TE;USH;UTH;TF;ULATTENED OPEN A ABOVE;TG;TH;TI;UNSULAR D;bG
bR;bT;TK;TL;U WITH DOUBLE MIDDLE TILDE;UONG S;TM;TN;TO;U WITH DIAERESIS
aLIGHT CENTRALIZATION STROKE;TP;TR;U BELOW;VROTUNDA;TS;UCHWA;TT;UURNED W BELOW;TU;U WITH DIAERESIS
aLIGHT CENTRALIZATION STROKE;TV;TW;U BELOW;TX;TZ;BEFT ANGLE ABOVE;LBELOW;GRROW ABOVE;LBELOW
KHEAD ABOVE;PBELOW;FHALF RING ABOVE;PBELOW;HRPOON ABOVE;FPARENTHESIS ABOVE LEFT;RBELOW LEFT
FRIGHT ARROW ABOVE;RBELOW;FTACK BELOW;EWARDS ARROW OVERLAY;KHARPOON WITH BARB DOWNWARDS
BIGATURE LEFT HALF;S BELOW;JRIGHT HALF;T BELOW;DHT CENTRALIZATION STROKE BELOW
BONG DOUBLE SOLIDUS OVERLAY;FSOLIDUS OVERLAY;GTROKE OVERLAY;FVERTICAL LINE OVERLAY;CW LINE;AMACRON
G BELOW;HLEFT HALF;Q BELOW;HRIGHT HALF;R BELOW;G-ACUTE;HBREVE;HGRAVE;BINUS SIGN BELOW
ANOT TILDE ABOVE;BUMBER SIGN ABOVE;AOGONEK;G ABOVE;BLD PERMIC LETTER AN;SDOI;SNENOE;SSII;SZATA
BPEN MARK BELOW;BVERLINE;APALATALIZED HOOK BELOW;CRENTHESES ABOVE;MBELOW;MOVERLAY;BLUS SIGN ABOVE
KBELOW;ARETROFLEX HOOK BELOW;CVERSE SOLIDUS OVERLAY;HD COMMA ABOVE;BIGHT ARROW ABOVE;MBELOW
LHEAD ABOVE;RND DOWN ARROWHEAD BELOW;UUP ARROWHEAD BELOW;QBELOW;GHALF RING ABOVE;QBELOW
IRPOON ABOVE;GPARENTHESIS ABOVE RIGHT;SBELOW RIGHT;GTACK BELOW;FWARDS HARPOON WITH BARB DOWNWARDS
CNG ABOVE;FBELOW;FOVERLAY;ASEAGULL BELOW;BHORT SOLIDUS OVERLAY;HTROKE OVERLAY
GVERTICAL LINE OVERLAY;BNAKE BELOW;BQUARE BELOW;IRACKETS ABOVE;BTRONG CENTRALIZATION STROKE BELOW
BUSPENSION MARK;ATHREE DOTS ABOVE;BILDE;F BELOW;GLEFT HALF BELOW;GOVERLAY;GRIGHT HALF BELOW
BRIPLE ACUTE ACCENT;HDOT;HUNDERDOT;BURNED COMMA ABOVE;AUP TACK ABOVE;IBELOW;CWARDS ARROW BELOW
BR ABOVE;BS ABOVE;AVERTICAL LINE ABOVE;OBELOW;JTILDE;AWIDE BRIDGE ABOVE;FINVERTED BRIDGE BELOW
CGGLY LINE BELOW;AX ABOVE;CBELOW;B-X BELOW;AZIGZAG ABOVE;HBELOW;3ET;3MA;4ERCIAL AT;BMINUS SIGN
3PASS;4LEMENT;4OSITION SYMBOL;4RESSION;2NFETTI BALL;4OUNDED FACE;4USED FACE;3GRUENT WITH DOT ABOVE
3ICAL TAPER;3JUNCTION;3STRUCTION SIGN;DWORKER;3TAINS AS MEMBER;CNORMAL SUBGROUP;R OR EQUAL TO
9WITH LONG HORIZONTAL STROKE;EOVERBAR;EVERTICAL BAR AT END OF HORIZONTAL STROKE
4INUOUS UNDERLINE SYMBOL;4OUR INTEGRAL;4ROL KNOBS;8SEQUENCE INTRODUCER;3VENIENCE STORE;2OKED RICE
4IE;5NG;2PTIC CAPITAL LETTER AKHMIMIC KHEI;NLFA;MBOHAIRIC KHEI;MCROSSED SHEI;OYPTOGRAMMIC EIE
aGANGIA;aNI;aSHEI;MDALDA;NEI;NIALECT-P ALEF;WHORI;WKAPA;WNI;MEIE;MFEI;NI;MGAMMA;ONGIA;MHATE;NORI
MIAUDA;MKAPA;NHEI;OI;NSI;ML-SHAPED HA;NAULA;MMI;MNI;MO;NLD COPTIC AIN;XDJA;XESH;XGANGIA;XHA;ZT;YEI
YORI;XOOU;XSHEI;ZIMA;QNUBIAN NGI;YYI;XSHIMA;XWAU;NOU;MPI;NSI;MRO;MSAMPI;NHEI;OIMA;NIMA;NOU;MTAU
NHETHE;MUA;MVIDA;MZATA;8OMBINING NI ABOVE;HSPIRITUS ASPER;QLENIS;7EPACT DIGIT EIGHT;JFIVE;KOUR
JNINE;JONE;JSEVEN;KIX;JTHREE;KWO;DNUMBER EIGHT HUNDRED;PY;KFIFTY;MVE HUNDRED;LORTY;MUR HUNDRED
KNINE HUNDRED;OTY;KONE HUNDRED;KSEVEN HUNDRED;PTY;LIX HUNDRED;NTY;KTEN;LHIRTY;MREE HUNDRED;LWENTY
MO HUNDRED;DTHOUSANDS MARK;7FRACTION ONE HALF;8ULL STOP;7MORPHOLOGICAL DIVIDER
7OLD NUBIAN DIRECT QUESTION MARK;IFULL STOP;IINDIRECT QUESTION MARK;IVERSE DIVIDER
7SMALL LETTER AKHMIMIC KHEI;LLFA;KBOHAIRIC KHEI;KCROSSED SHEI;MYPTOGRAMMIC EIE;YGANGIA;YNI;YSHEI
KDALDA;LEI;LIALECT-P ALEF;UHORI;UKAPA;UNI;KEIE;KFEI;LI;KGAMMA;MNGIA;KHATE;LORI;KIAUDA;KKAPA;LHEI;MI
LSI;KL-SHAPED HA;LAULA;KMI;KNI;KO;LLD COPTIC AIN;VDJA;VESH;VGANGIA;VHA;XT;WEI;WORI;VOOU;VSHEI;XIMA
ONUBIAN NGI;WYI;VSHIMA;VWAU;LOU;KPI;LSI;KRO;KSAMPI;LHEI;MIMA;LIMA;LOU;KTAU;LHETHE;KUA;KVIDA;KZATA
8YMBOL KAI;FHI RO;EMI RO;EPI RO;ESHIMA SIMA;FTAUROS;ETAU RO;3YLEFT SYMBOL;4RIGHT SIGN;2RAL
3NISH VERSE DIVIDER;3RESPONDS TO;2UCH AND LAMP;3NTERBORE;7SINK;5ING ROD TENS DIGIT EIGHT;OFIVE;POUR
ONINE;OONE;OSEVEN;PIX;OTHREE;PWO;DUNIT DIGIT EIGHT;OFIVE;POUR;ONINE;OONE;OSEVEN;PIX;OTHREE;PWO
3PLE WITH HEART;2W;3 FACE;1R;2AB;2EDIT CARD;3SCENT MOON;2ICKET;7 BAT AND BALL;2OCODILE;3ISSANT
3SS MARK;6OF JERUSALEM;9LORRAINE;6PATTY WITH LEFT CROSSBAR;HRIGHT CROSSBAR;7OMMEE
C WITH HALF-CIRCLE BELOW;5ED FLAGS;8NEGATIVE SQUARED LATIN CAPITAL LETTER P;8SWORDS;5ING LANES;3WN
2UTCH;3ZEIRO SIGN;2YING CAT FACE;7FACE;3STAL BALL;1SI;1UBE ROOT;2CUMBER
2NEIFORM NUMERIC SIGN EIGHT ASH;TDISH;TGESH2;TSHAR2;TU;U VARIANT FORM;TVARIANT FORM USSU;k3
OLAMITE FIFTY;WORTY;VONE THIRD;VTWO THIRDS;NFIVE ASH;V TENU;SBAN2;W VARIANT FORM;TURU;SDISH;SGESH2
WU;SSHAR2;WU;TIXTHS DISH;SU;T VARIANT FORM;OOUR ASH;V TENU;SBAN2;W VARIANT FORM;TURU;SDISH;SGESH2
WU;SSHAR2;WU;SU;T VARIANT FORM;SVARIANT FORM LIMMU;k A;lB;k4;NNIGIDAESH;TMIN;PNE ASH;SDISH;SGESH2
SSHAR2;SU;T VARIANT FORM;SVARIANT FORM ILIMMU;l A;l3;l4;NOLD ASSYRIAN ONE QUARTER;eSIXTH;ONE BAN2
SURU;REIGHTH ASH;SSHE3;RGESH2;VU;RHALF GUR;RQUARTER ASH;ZGUR;RSHARU;RTHIRD DISH;XVARIANT FORM A
NSEVEN ASH;TDISH;TGESH2;TSHAR2;TU;U VARIANT FORM;TVARIANT FORM IMIN A;lB;k3
OHAR2 TIMES GAL PLUS DISH;iMIN;OIX ASH;U TENU;RDISH;RGESH2;RSHAR2;RU;S VARIANT FORM
RVARIANT FORM ASH9;NTHREE ASH;W TENU;TBAN2;UURU;X VARIANT FORM;TDISH;TGESH2;XU;TSHAR2
Y VARIANT FORM;XU;Y VARIANT FORM;TVARIANT FORM ESH16;j21;OWO ASH;U TENU;RBAN2;SURU;RESHE3;RGESH2;VU
RSHAR2;VU;RTHIRDS DISH;YVARIANT FORM A;APUNCTUATION SIGN DIAGONAL COLON;aQUADCOLON;aTRICOLON
ROLD ASSYRIAN WORD DIVIDER;RVERTICAL COLON;ASIGN A;G TIMES A;NBAD;NGAN2 TENU;NHA;NIGI;NLAGAR GUNU
NMUSH;NSAG;G2;GB;H GUNU;ITIMES ASH2;ODUN3 GUNU;OGAL;QN2 TENU;OHA;OIGI GUNU;PMIN;OLAGAB;ONUN;R TENU
OSHESH;QU2;OU PLUS U PLUS U;H2;I TIMES A;PBALAG;PGAN2 TENU;PME PLUS EN;PSHA3;PTAK4;GD;H TIMES ESH2
GK;H TIMES ERIN2;OSHITA PLUS GISH;GL;H TIMES AL;ODIM2;OGISH;OHA;OKAD3;PI;OSHE;OUSH;HAN;HEPH;GMAR
J TIMES KUG;QSHE;GN;H OVER AN;IPLUS NAGA OPPOSING AN PLUS NAGA;SSQUARED;ITHREE TIMES;HSHE;GPIN;GRAD
J TIMES KUR;HKAB;GSAL2;HH;I KABA TENU;JOVER ASH OVER ASH;a CROSSING ASH OVER ASH OVER ASH
STUG2 OVER TUG2 TUG2 OVER TUG2 PAP;JZIDA TENU;I2;IGAB;FBA;HD;I TIMES DISH TENU;HG3;HHAR2
L TIMES AB2;SNI;SZA;HL;I OVER BAL;IAG;HR;IA2;GI;H TIMES A;OGAR;OIGI GUNU;GU;H CROSSING BU
IOVER BU AB;QTIMES NA2;QUN;HLUG;K OVER BULUG;HR;I2;FDA;H TIMES TAK4;HG;I KISIM5 TIMES A PLUS MASH
XMAR;WBALAG;XI;WGA;Y PLUS MASH;XI;YR2;XUD;WHA;WIR;Y PLUS LU;WKAK;WLA;XU;Y PLUS MASH2;YM;WNE
WPAP PLUS PAP;WSI;WTAK4;WU2 PLUS GIR2;eMASH;XSH;JTIMES KUR;I3;HM;HR;IA3;J4;GI;HB;HM;I TIMES IGI
PSHE;PU U U;I2;J TIMES UD;HN;I KASKAL U GUNU DISH;HSH;J PLUS SHU;GU;H GUNU;IOVER DU;ISHESHIG;HB
I TIMES ESH2;PSHE;I2;HG;I TIMES ANSHE;QSH;S AT LEFT;PDIN;QUN;PERIN2;PGA;QI;RR2 GUNU;RSH;PHA;QI
PIGI GUNU;PKASKAL;QUR;RSHU2;V PLUS KASKAL;PLAK-020;RM;S TIMES KUR;QUH PLUS GISH;PMASH;QES;QI;PNI
PPI;PSHE;QI GUNU;IUD;HH;HN;I3;J GUNU;O GUNU;I4;HR2;FE;G OVER E NUN OVER NUN;HTIMES PAP;G2
H TIMES A PLUS HA PLUS DA;OGAR;OKUR;OMI;OPAP;OSAL;PHE;OU;GDIN;GGIR;GL;GN;H CROSSING EN;IOPPOSING EN
ISQUARED;ITIMES GAN2;S TENU;OME;GREN;HIN2;K X;GSH2;J CROSSING ESH2;GZEN;J SHESHIG TIMES ASH;YHI
YIGI GUNU;YLA;aL;YME;aS;YSU;KTIMES A;R PLUS LAL;a TIMES LAL;RN;QBAD;QDUN3 GUNU;Z GUNU;QGUD;QHA
S GUNU;QIGI GUNU;QKASKAL;W SQUARED;RU3;QLA;SL TIMES LAL;RI;RU;QSHE;RU;QU2;RD;FGA;H GUNU;H2
I OVER GA2;JTIMES A PLUS DA PLUS HA;WHA;WIGI;QB2 TENU PLUS TAB;QN;R PLUS KAK PLUS A;QSH;S2
T PLUS GAL;PBAD;RHAR2;RR PLUS RA;QUR;S PLUS RA;PDA;QI;RM GUNU;TTIMES SHE;QUB;RG TIMES IGI GUNU
ZKASKAL;PEL;R PLUS LA;QN;R TIMES GAN2 TENU;QREN;PGA;RN2 TENU;RR;S PLUS DI;YNE;QI;R4;S PLUS A
RR2 PLUS SU;PHA PLUS A;XLU PLUS ESH2;RL;S PLUS LA;QI PLUS LI;QUB2;PIGI GUNU;QSH PLUS HU PLUS ASH
PKAK;RSKAL;QID;S PLUS LAL;QU3 PLUS AN;RSHU2 PLUS KASKAL;PLA;RM;S TIMES KUR;QUH;PME PLUS EN;QI;QUSH
PNE;R PLUS E2;XGI;QUN;S OVER NUN;PPA;PSAL;RR;QHE;S PLUS TUR;RID;SM;QUM;PTAK4;PU;QD;R PLUS DU;PZIZ2
HBA;J CROSSING GABA;KROTATED NINETY DEGREES;HD;I OVER GAD GAR OVER GAR;HL
I GAD OVER GAD GAR OVER GAR;IAM;HM;HN;I2;J CROSSING GAN2;KOVER GAN2;KTENU;HR;I3;HSHAN;GE22;HSHTIN
M TIMES KUR;TU;GI;H CROSSING GI;ITIMES E;OU;H4;I CROSSING GI4;JOVER GI4;HDIM;HG;HR2;J GUNU;I3
J TIMES A PLUS IGI;QGAN2 TENU;QIGI;QLU PLUS IGI;QPA;HSAL;IH;J CROSSING GISH;KTENU;LIMES BAD
QGISH CROSSING GISH;QTAK4;GU;H CROSSING GU;H2;I GUNU;JTIMES IGI GUNU;PKAK;S TIMES IGI GUNU;PNUN
PSAL PLUS TUG2;HD;I OVER GUD LUGAL;JPLUS GISH TIMES TAK4;JTIMES A PLUS KUR;PKUR;HL;HM;I TIMES SHE
HR;I7;IUN;JSH;FHA;H GUNU;ITENU;M GUNU;HL;GI;H TIMES ASH;R OVER HI TIMES ASH;R2;OBAD;ODISH;OGAD;OKIN
ONUN;OSHE;OU;GU;HB2;J TIMES AN;QHAL;QKASKAL;QLISH;QUD;HL2;HSH;FI;G A;GB;GDIM;J OVER IDIM BUR
USQUARED;GG;HI;I DIB;JGUNU;JOVER IGI SHIR OVER SHIR UD OVER UD;JRI;GL;H TIMES GAN2 TENU;H2;GM
H CROSSING IM;IOPPOSING IM;ISQUARED;ITIMES TAK4;HIN;GN;GR;GSH;FKA;H TIMES A;PD;Q PLUS KU3;PNSHE
PSH2;R3;OBAD;QLAG;QR;PI;PU;OERIN2;PSH2;OGA;QL;QN2 TENU;QR;R PLUS SHA3 PLUS A;PI;QR2;QSH
S CROSSING GISH;TPLUS SAR;PU;QD;QR7;OHI TIMES ASH2;OIGI;PM;OKA;QK;PI;QD;OLI;PU;QM;OME;Q PLUS DU;WGI
WTE;PI;Q PLUS NUNUZ;ONE;PUN;OPA;PI;ORU;OSA;QR;PHA;QE;QID;QU;RL;PIG;PUHUR;OTAR;PU;OU;P U U;P2;PD
PMUM TIMES PA;PR;Q2;PSH;OZI;H2;I CROSSING KA2;HB;HD2;I3;I4;I5;J OVER KAD5;HK;I TIMES IGI GUNU;HL
I CROSSING KAL;JTIMES BAD;HM2;I4;HP ELAMITE;HSKAL;L LAGAB TIMES U OVER LAGAB TIMES U
MOVER KASKAL LAGAB TIMES U OVER LAGAB TIMES U;GESH2;GI;H TIMES BAD;OU;PD;HD;HN;HSAL;IH;IIM5
L OVER KISIM5;GU;H OVER HI TIMES ASH2 KU OVER HI TIMES ASH2;H3;H4;I VARIANT FORM;H7;HL;I GUNU;HN;HR
I OPPOSING KUR;HSHU2;GWU318;FLA;HGAB;K SQUARED;LTIMES A;S PLUS DA PLUS HA;YGAR;YLAL;SL;SN
SSH ZIDA TENU;RBAD;SI;RDAR;REN;RGA;TR;SI;SUD;U PLUS GUD;RHA;TL;SI TIMES NUN;RIGI GUNU;SM;T PLUS HA
ZLU;RKI;TN;SU3;TL;U PLUS HI PLUS A;RLAGAB;SISH;SU;TL;RME;T PLUS EN;SUSH;RNE;RSHE PLUS SUM
TITA PLUS GISH PLUS ERIN2;hTENU;TU2;V PLUS SHU2;SUM;RTAG;TK4;SE PLUS A PLUS SU PLUS NA;RU;S PLUS A
YU PLUS U;S2 PLUS ASH;SD;SSH;RZU OVER ZU;JR;K GUNU;P OVER LAGAR GUNU SHE;LTIMES SHE;U PLUS SUM
HHSHU;HK-003;K21;L5;K30;K50;L1;K62;K79 OVER LAK-079 GUNU;K80;L1 OVER LAK-081;K92;J130;K42;J210;L9
K20;L5;L8;K38;K65;L6;J343;L7;L8;K83;L4;K90;J441;L9;M TIMES GU;TIGI;TPAP PLUS LU3;cPAP PLUS LU3
TU2 PLUS BA;K50;L7;K70;K83;K90;L2;L3;L5;J550;J608;K17;M TIMES ASH;TBAD;TDUN3 GUNU GUNU;TKU3;TLA
TTAR;UE;TU2;UD;URUDA;K36;K48;M TIMES DUB;TGA;TIGI;W GUNU;TNI;TPAP PLUS PAP PLUS LU3;TSHESH PLUS KI
TUD;URUDA;J724;K49;HL;I TIMES LAL;HM;I TIMES KUR;S PLUS RU;GI;HL;HMMU2;HSH;GU;H TIMES BAD;H2
I CROSSING LU2;JGUNU TIMES ASH;JOPPOSING LU2;JSHESHIG;Q TIMES BAD;KQUARED;JTENU;KIMES AL;PBAD;PDISH
PESH2;T PLUS LAL;UTENU;PGAN2 TENU;PHAL;QI TIMES BAD;PIM;PKAD2;S3;T PLUS ASH;QI;PLA PLUS ASH;RGAB
PME PLUS EN;PNE;QU;PPAP;S PLUS PAP PLUS LU3;PSHU;QI PLUS ASH;RK2 PLUS BU;PTAK4;QUG2;H3;HGAL
K OPPOSING LUGAL;MVER LUGAL;LSHESHIG;HH;HL;HM;I OVER LUM;R GAR OVER GAR;FMA;H GUNU;ITIMES TAK4;H2
HH;HR;HSH;J2;GE;HS;IH;GI;H PLUS ZA7;HN;GU;H OVER MU;HG;I GUNU;HNSUB;HRGU2;HSH;J CROSSING MUSH
KOVER MUSH;T TIMES A PLUS NA;aGA;aKAK;KTIMES A;QKUR;QZA;J3;K GUNU;LTIMES A;S PLUS DI;RDI;RZA;FNA;H2
H4;HGA;J INVERTED;KOPPOSING NAGA;KTIMES SHU TENU;JR;HM;I NUTILLU;I2;GE;H SHESHIG;ITIMES A;OUD;GI
H TIMES E;H2;HM;I TIMES GAN2 TENU;RR PLUS GAN2 TENU;HN;I9;IDA2;L TIMES AN;TSH;V PLUS ASH;SBAL
SDIM GUNU;SGI;USH;TUD;UL;SHI;SKESH2;SLAK-050;SMASH;TE PLUS GAN2 TENU;SNE;TUN;SPAP PLUS PAP;SSHE
V PLUS A AN;cSH;e PLUS ASH;SU;T PLUS U;T2 PLUS ASH;TRUDA;TSH;HSAG;GU;H11;J OVER NU11 BUR OVER BUR
KROTATED NINETY DEGREES;KTENU;HN;I CROSSING NUN;V LAGAR OVER LAGAR;JLAGAR TIMES GAR;VMASH;VSAL
Y OVER NUN LAGAR TIMES SAL;VUSH;JOVER NUN;JTENU;IUZ;K AB2 TIMES ASHGAB;VBI;VDUG;VGUD;VIGI GUNU
VKAD3;VLA;VNE;VSILA3;VU2;LKISIM5 TIMES BI;a U;FPA;HD;HN;HP;GESH2;K ASTERISK;GI;H CROSSING PI
ITIMES A;PB;OBI;PU;OE;OI;PB;OU;P2;HR2;IIG;K OPPOSING PIRIG;LTIMES KAL;RUD;RZA;FRA;HB;GI;GU;FSA;HG
I GUNU;N TIMES HA;JNUTILLU;JOVER SAG;JTIMES A;PDU;RB;PEN;PHA;PIGI GUNU;PKAK;QUR;PLUM;PMI;PNUN;PSAL
QHE AT LEFT;RID;PTAB;RK4;PU2;QB;QM;QR;QSH;HL;I LAGAB TIMES ASH2;HNGA2;HR;GHA;I3;J TIMES A;QBAD
QGISH;QNE;QSHU2;QTUR;QU;R PLUS A;I6;J TENU;IB6;IR2;HE;I HU;JOVER SHE;R GAD OVER GAD GAR OVER GAR
STAB OVER TAB GAR OVER GAR;JPLUS HUB2;ONAM2;OSAR;IG9;IN;ISH;K2;KLAM;HID;J TIMES A;QIM;IM;J TIMES A
QBAL;RULUG;QDIN;QGAR;QIGI;T GUNU;QKUSHU2;QLUL;QMUG;QSAL;INIG;IR;J OVER SHIR BUR OVER BUR;KTENU;ITA
HU;I OVER INVERTED SHU;I2;J PLUS DUG TIMES NI;PE2 TIMES AN;IBUR;GI;H GUNU;ITIMES TAK4;HG;I4
J OVER SIG4 SHU2;HK2;HLA3;GU;H OVER SU;HD;I2;HHUR;HM;IASH;HR;I9;FTA;H ASTERISK;IGUNU;ITIMES HI;OMI
HB;I OVER TAB NI OVER NI DISH OVER DISH;JSQUARED;HG;I TIMES BI;PGUD;PSHE;RU;PTUG2;PUD;HK4
J PLUS SAG;HR;GE;H GUNU;GI;H TENU;H2;HL;HR;I OVER TIR;R GAD OVER GAD GAR OVER GAR;JTIMES TAK4;GU
HG2;HK;HM;I TIMES GAN2 TENU;PTHREE DISH;HR;I OVER TUR ZA OVER ZA;FU;G GUD
HOVER U PA OVER PA GAR OVER GAR;OSUR OVER SUR;OU REVERSED OVER U REVERSED;HU;I U;G2;GB;GD;H GUNU
IKUSHU2;ISHESHIG;P TIMES BAD;ITIMES BAD;OMI;OU PLUS U PLUS U;d GUNU;HUG;GM;H TIMES LAGAB;OME
Q PLUS DA;OSHA3;OU;HBIN;HUM;J TIMES KASKAL;QPA;GN;H GUNU;GR;H CROSSING UR;ISHESHIG;H2;I INVERTED
JTIMES A PLUS HA;WNA;QL;PHA;PNUN;PU2;R PLUS ASH;XBI;QD;H4;HI;I3;HU;I TIMES A;QSHGAB;PBAR;PDARA3;QUN
PGA;RL;RN2 TENU;RR;QU;PHA;PIGI;QM;QSH;PKI;PLAK-668;QU3;RM;PMIN;PPA;PSHE;QIG4;PTU;PU PLUS GUD;QD
QRUDA;IDA;K TIMES U;GSH;I TIMES A;PKU;RR;PTAK4;I2;IUMX;IX;GTUKI;GZ3;I TIMES KASKAL;HU;FZA
H SQUARED TIMES KUR;ITENU;H7;HG;HMX;GE2;GI;H OVER ZI;H3;HB;I KABA TENU;HG;HZ2;GU;H OVER ZU PLUS SAR
H5;I TIMES A;PTHREE DISH TENU;HBUR;HM;2P ON BLACK SQUARE;4WITH STRAW;3CAKE;3IDO;2RLING STONE
4Y BRACKET EXTENSION;6LOGICAL AND;EOR;8OP;3RENCY EXCHANGE;9SIGN;4Y AND RICE
3VED STEM PARAGRAPH SIGN ORNAMENT;2STARD;4OMS;2T OF MEAT;1YCLONE;2LINDRICITY;2PRIOT SYLLABLE A;HE
HI;HJA;IO;HKA;IE;II;IO;IU;HLA;IE;II;IO;IU;HMA;IE;II;IO;IU;HNA;IE;II;IO;IU;HO;HPA;IE;II;IO;IU;HRA;IE
II;IO;IU;HSA;IE;II;IO;IU;HTA;IE;II;IO;IU;HU;HWA;IE;II;IO;HXA;IE;HZA;IO;4O-MINOAN SIGN CM001;M2;M4
M5;M6;M7;M8;M9;L10;M1;M2;NB;M3;M5;M7;M9;L21;M3;M4;M5;M6;M7;M8;M9;L30;M3;M4;M5;M6;M7;M8;M9;L40;M1;M4
M6;M7;M9;L50;M1;M2;M3;M4;M5;M6;M8;M9;L60;M1;M2;M3;M4;M6;M7;M8;M9;L70;M1;M2;M3;M4;M5;NB;M6;M8;M9;L80
M1;M2;M3;M4;M5;M6;M7;M8;M9;L90;M1;M2;M4;M5;M6;M7;M8;M9;K100;M1;M2;M3;M4;M5;M7;M8;M9;L10;M2;M4;K301
M2;2RILLIC CAPITAL LETTER A;P WITH BREVE;VDIAERESIS;PBKHASIAN CHE;b WITH DESCENDER;YDZE;YHA
PLEUT KA;OBARRED O;W WITH DIAERESIS;QSHKIR KA;PE;PIG YUS;QNOCULAR O;PLENDED YUS;PROAD OMEGA
PYELORUSSIAN-UKRAINIAN I;OCCHE;PHE;R WITH DESCENDER;YIAERESIS;XVERTICAL STROKE;PLOSED LITTLE YUS
PROSSED O;ODCHE;PE;PJE;RRV;POUBLE MONOCULAR O;VO;PWE;PZE;RLO;QHE;QWE;QZE;RHE;OE;P WITH DIAERESIS;PF
PL;Q WITH DESCENDER;WHOOK;WMIDDLE HOOK;WTAIL;PM;Q WITH TAIL;PN;Q WITH DESCENDER;WHOOK;WLEFT HOOK
WMIDDLE HOOK;WTAIL;PR;Q WITH TICK;PS;Q WITH DESCENDER;OFITA;OGHE;R WITH DESCENDER;XMIDDLE HOOK
XSTROKE;d AND HOOK;XUPTURN;PJE;OHA;Q WITH DESCENDER;WHOOK;WSTROKE;QRD SIGN;PWE;OI;P WITH DIAERESIS
VGRAVE;VMACRON;PE;Q WITH BREVE;WGRAVE;PO;QTA;RIFIED A;XBIG YUS;XCLOSED LITTLE YUS;XE;XLITTLE YUS
XYAT;PZHITSA;V WITH DOUBLE GRAVE ACCENT;OJE;OKA;Q WITH DESCENDER;WHOOK;WSTROKE;WVERTICAL STROKE
PHAKASSIAN CHE;PJE;POMI DE;UJE;UZJE;TLJE;TNJE;TSJE;TTJE;TZJE;QPPA;PSI;OLHA;PITTLE YUS;PJE
OMONOCULAR O;SGRAPH UK;ONEUTRAL YER;PJE;OO;P WITH DIAERESIS;PMEGA;T WITH TITLO;PT;OPE
Q WITH DESCENDER;WMIDDLE HOOK;PSI;OQA;OREVERSED DZE;XTSE;XYU;XZE;PHA;POUND OMEGA;OSCHWA
T WITH DIAERESIS;PEMISOFT SIGN;PHA;QCHA;QHA;S WITH DESCENDER;QORT I;V WITH TAIL;UU;QWE;POFT DE;TEL
UM;TSIGN;PTRAIGHT U;Y WITH STROKE;OTCHE;PE;Q WITH DESCENDER;WMIDDLE HOOK;PSE;QHE;QSE;QWE;PWE;OU
P WITH DIAERESIS;WOUBLE ACUTE;VMACRON;PK;QRAINIAN IE;OVE;OWE;OYA;QE;QT;PERU;S WITH BACK YER
YDIAERESIS;PI;PN;PU;OZE;Q WITH DESCENDER;XIAERESIS;QMLYA;PHE;R WITH BREVE;XDESCENDER;YIAERESIS;QWE
IIGATURE A IE;QEN GHE;QTE TSE;9KAVYKA;9LETTER MULTIOCULAR O;GPALOCHKA;GSMALL CAPITAL EL;9PAYEROK
9SMALL LETTER A;N WITH BREVE;TDIAERESIS;NBKHASIAN CHE;Z WITH DESCENDER;WDZE;WHA;NLEUT KA;MBARRED O
U WITH DIAERESIS;OSHKIR KA;NE;NIG YUS;ONOCULAR O;NLENDED YUS;NROAD OMEGA;NYELORUSSIAN-UKRAINIAN I
MCCHE;NHE;P WITH DESCENDER;WIAERESIS;VVERTICAL STROKE;NLOSED LITTLE YUS;NROSSED O;MDCHE;NE;NJE;PRV
NOUBLE MONOCULAR O;TO;NWE;NZE;PLO;OHE;OWE;OZE;PHE;ME;N WITH DIAERESIS;NF;NL;O WITH DESCENDER;UHOOK
UMIDDLE HOOK;UTAIL;NM;O WITH TAIL;NN;O WITH DESCENDER;UHOOK;ULEFT HOOK;UMIDDLE HOOK;UTAIL;NR
O WITH TICK;NS;O WITH DESCENDER;MFITA;MGHE;P WITH DESCENDER;VMIDDLE HOOK;VSTROKE;b AND HOOK;VUPTURN
NJE;MHA;O WITH DESCENDER;UHOOK;USTROKE;ORD SIGN;NWE;MI;N WITH DIAERESIS;TGRAVE;TMACRON;NE
O WITH BREVE;UGRAVE;NO;OTA;PIFIED A;VBIG YUS;VCLOSED LITTLE YUS;VE;VLITTLE YUS;VYAT;NZHITSA
T WITH DOUBLE GRAVE ACCENT;MJE;MKA;O WITH DESCENDER;UHOOK;USTROKE;UVERTICAL STROKE;NHAKASSIAN CHE
NJE;NOMI DE;SJE;SZJE;RLJE;RNJE;RSJE;RTJE;RZJE;OPPA;NSI;MLHA;NITTLE YUS;NJE;NONG-LEGGED DE
MMONOCULAR O;QGRAPH UK;MNARROW O;NEUTRAL YER;NJE;MO;N WITH DIAERESIS;NMEGA;R WITH TITLO;NT
MPALOCHKA;NE;O WITH DESCENDER;UMIDDLE HOOK;NSI;MQA;MREVERSED DZE;VTSE;VYU;VZE;NHA;NOUND OMEGA
RED VE;MSCHWA;R WITH DIAERESIS;NEMISOFT SIGN;NHA;OCHA;OHA;Q WITH DESCENDER;OORT I;T WITH TAIL;SU
OWE;NOFT DE;REL;SM;RSIGN;NTRAIGHT U;W WITH STROKE;MTALL HARD SIGN;RTE;RYAT;NCHE;NE;O WITH DESCENDER
UMIDDLE HOOK;NHREE-LEGGED TE;NSE;OHE;OSE;OWE;NWE;MU;N WITH DIAERESIS;UOUBLE ACUTE;TMACRON;NK
ORAINIAN IE;NNBLENDED UK;MVE;MWE;NIDE ES;MYA;OE;OT;NERU;Q WITH BACK YER;WDIAERESIS;NI;NN;NU;MZE
O WITH DESCENDER;VIAERESIS;OMLYA;NHE;P WITH BREVE;VDESCENDER;WIAERESIS;OWE;GIGATURE A IE;OEN GHE
OTE TSE;9THOUSANDS SIGN;0DAGGER;6 KNIFE;7WITH LEFT GUARD;CRIGHT GUARD;2LET SYMBOL;2NCER;3GO
2RK SHADE;6UNGLASSES;2SH SYMBOL;5WITH LEFT UPTURN;4ED LOW LINE;7OVERLINE
7TRIANGLE-HEADED RIGHTWARDS ARROW;2TA LINK ESCAPE;1C1;22;23;24;2S;1EAF PERSON;2CIDUOUS TREE
4MAL EXPONENT SYMBOL;8SEPARATOR KEY SYMBOL;3REASE FONT SIZE SYMBOL;2ER;2GREE CELSIUS;7FAHRENHEIT
7SIGN;2L;3ETE;3IVERY TRUCK;3TA EQUAL TO;2NTISTRY SYMBOL LIGHT DOWN AND HORIZONTAL;g WITH CIRCLE
mTRIANGLE;mWAVE;NUP AND HORIZONTAL;e WITH CIRCLE;kTRIANGLE;kWAVE;NVERTICAL AND BOTTOM LEFT;hRIGHT
aTOP LEFT;eRIGHT;aWAVE;WWITH CIRCLE;bTRIANGLE;2PARTMENT STORE;2RELICT HOUSE BUILDING;2SCENDING NODE
3ERET CAPITAL LETTER AY;NBEE;NCHEE;NDEE;NEF;OL;OM;ON;PG;OR;OS;PH;OTH;OW;NGAY;NH;NJEE;NKAY;NLONG A
TH;SE;SI;SO;TO;NOI;OW;NPEE;NSHORT A;UH;TE;TI;TO;UO;NTEE;OHEE;NVEE;NWU;NYEE;NZEE;OHEE
8SMALL LETTER AY;LBEE;LCHEE;LDEE;LEF;ML;MM;MN;NG;MR;MS;NH;MTH;MW;LGAY;LH;LJEE;LKAY;LLONG A;RH;QE;QI
QO;RO;LOI;MW;LPEE;LSHORT A;SH;RE;RI;RO;SO;LTEE;MHEE;LVEE;LWU;LYEE;LZEE;MHEE;5T;6 ISLAND
3KTOP COMPUTER;8WINDOW;2VANAGARI ABBREVIATION SIGN;CCUTE ACCENT;BCARET;BDANDA;CIGIT EIGHT;HFIVE
IOUR;HNINE;HONE;HSEVEN;IIX;HTHREE;IWO;HZERO;COUBLE DANDA;BGAP FILLER;CRAVE ACCENT;BHEADSTROKE
BJAIN OM;BLETTER A;JA;JI;JU;JW;JY;IBA;JBA;JHA;ICA;KNDRA A;PE;PO;JHA;IDA;JDA;KDA;LHA;KHA;JHA;IE;IFA
IGA;JGA;JHA;KHA;JLOTTAL STOP;IHA;JEAVY YA;II;JI;IJA;JHA;JJA;IKA;JHA;KHA;ILA;JLA;KLA;IMA;KRWARI DDA
INA;JGA;JNA;KNA;JYA;IO;JE;JOE;IPA;JHA;IQA;IRA;JHA;JRA;ISA;JHA;KORT A;OE;OO;JSA;ITA;JHA;JTA;KHA;IU
JE;JU;KE;IVA;JOCALIC L;RL;QR;RR;IYA;JYA;IZA;JHA;BOM;BSIGN ANUSVARA;HVAGRAHA;GCANDRABINDU;R AVAGRAHA
STHREE;TWO;SVIRAMA;GDOUBLE CANDRABINDU VIRAMA;GHIGH SPACING DOT;GINVERTED CANDRABINDU;GNUKTA
GPUSHPIKA;GSIDDHAM;HPACING CANDRABINDU;GVIRAMA;ISARGA;CTRESS SIGN ANUDATTA;NUDATTA;BVOWEL SIGN AA
NI;NU;NW;NY;MCANDRA E;TLONG E;TO;ME;MI;NI;MO;NE;NOE;MPRISHTHAMATRA E;MSHORT E;SO;MU;NE;NU;OE
MVOCALIC L;VL;UR;VR;3ICE CONTROL FOUR;FONE;FSTRING;FTHREE;GWO;1IAERESIS;3METER SIGN;4OND OPERATOR
8SHAPE WITH A DOT INSIDE;8TARGET;8WITH BOTTOM HALF BLACK;DLEFT HALF BLACK;DRIGHT HALF BLACK
DTOP HALF BLACK;2E FACE-1;92;93;94;95;96;3SEL LOCOMOTIVE;2FFERENCE BETWEEN;2GIT EIGHT;B COMMA
CFULL STOP;6FIVE;A COMMA;BFULL STOP;7OUR;A COMMA;BFULL STOP;6NINE;A COMMA;BFULL STOP;6ONE;9 COMMA
AFULL STOP;6SEVEN;B COMMA;CFULL STOP;7IX;9 COMMA;AFULL STOP;6THREE;B COMMA;CFULL STOP;7WO;9 COMMA
AFULL STOP;6ZERO;A COMMA;BFULL STOP;3RAM FOR EARTH;GLY HEAVEN;KUMAN;BGREATER YANG;KIN
BHEAVENLY EARTH;CUMAN EARTH;BLESSER YANG;JIN;2MENSION ORIGIN;2NGBAT CIRCLED SANS-SERIF DIGIT EIGHT
XFIVE;YOUR;XNINE;XONE;XSEVEN;YIX;XTHREE;YWO;XZERO;RNUMBER TEN;8NEGATIVE CIRCLED DIGIT EIGHT;VFIVE
WOUR;VNINE;VONE;VSEVEN;WIX;VTHREE;WWO;PNUMBER TEN;PSANS-SERIF DIGIT EIGHT;gFIVE;hOUR;gNINE;gONE
gSEVEN;hIX;gTHREE;hWO;gZERO;aNUMBER TEN;2RECT CURRENT SYMBOL FORM TWO;7HIT;2SABLED CAR
4PPOINTED BUT RELIEVED FACE;DFACE;3CONTINUOUS UNDERLINE SYMBOL;3GUISED FACE;2TTO MARK
2VES AKURU DIGIT EIGHT;IFIVE;JOUR;ININE;IONE;ISEVEN;JIX;ITHREE;JWO;IZERO;DOUBLE DANDA
CEND OF TEXT MARK;CGAP FILLER;CINITIAL RA;CLETTER A;KA;JBA;KHA;JCA;KHA;JDA;KDA;LHA;KHA;JE;JGA;KHA
JHA;JI;KI;JJA;JKA;KHA;JLA;KLA;JMA;JNA;KGA;KNA;KYA;JO;JPA;KHA;JRA;JSA;KHA;KSA;JTA;KHA;KTA;JU;KU;JVA
JYA;KYA;JZA;CMEDIAL RA;JYA;CPREFIXED NASAL SIGN;CSIGN ANUSVARA;HCANDRABINDU;HHALANTA;HNUKTA;CVIRAMA
DOWEL SIGN AA;OI;NE;NI;OI;NO;NU;OU;3IDES;4NG MASK;4SION SIGN;ALASH;9TIMES;3ORCE SYMBOL;2YA LAMP
2ZZY FACE;6SYMBOL;1LE;1NA DOUBLE HELIX;1O NOT LITTER SYMBOL;2CUMENT;8 WITH PICTURE;ETEXT
I AND PICTURE;2DO;2ES NOT CONTAIN AS MEMBER;KNORMAL SUBGROUP;Z OR EQUAL;9DIVIDE
F WITH REVERSED NEGATION SLASH;9FORCE;9PRECEDE;G OR EQUAL;BOVE;9SUCCEED;G OR EQUAL;2G;3 FACE
3RA ABBREVIATION SIGN;6LETTER A;EA;EI;EU;DBA;EHA;DCA;EHA;DDA;EDA;FHA;EHA;DE;DGA;EHA;DHA;DI;EI;DJA
EHA;DKA;EHA;DLA;DMA;DNA;EGA;ENA;EYA;DO;DPA;EHA;DRA;ERA;DSA;EHA;ESA;DTA;EHA;ETA;FHA;DU;EU;DVA;DYA
6SIGN ANUSVARA;BNUKTA;BVIRAMA;DSARGA;6VOWEL SIGN AA;II;IU;HE;HI;II;HO;HU;IU;HVOCALIC R;QR
2LLAR SIGN;3PHIN;2MINO TILE HORIZONTAL BACK;M-00-00;R1;R2;R3;R4;R5;R6;O1-00;R1;R2;R3;R4;R5;R6;O2-00
R1;R2;R3;R4;R5;R6;O3-00;R1;R2;R3;R4;R5;R6;O4-00;R1;R2;R3;R4;R5;R6;O5-00;R1;R2;R3;R4;R5;R6;O6-00;R1
R2;R3;R4;R5;R6;CVERTICAL BACK;K-00-00;P1;P2;P3;P4;P5;P6;M1-00;P1;P2;P3;P4;P5;P6;M2-00;P1;P2;P3;P4
P5;P6;M3-00;P1;P2;P3;P4;P5;P6;M4-00;P1;P2;P3;P4;P5;P6;M5-00;P1;P2;P3;P4;P5;P6;M6-00;P1;P2;P3;P4;P5
P6;2NG SIGN;2OR;2T ABOVE;4MINUS;4OPERATOR;4PLUS;3TED CIRCLE;8ROSS;7FENCE;7LINE FACE;7OBELOS
7RIGHT-POINTING ANGLE;7SOLIDUS;8QUARE;7TRANSPOSITION MARKER;2UBLE ACUTE ACCENT;7CIRCLED DIGIT EIGHT
LFIVE;MOUR;LNINE;LONE;LSEVEN;MIX;LTHREE;MWO;FNUMBER TEN;8OLON EQUAL;8URLY LOOP;7DAGGER;8OWN TACK
7EXCLAMATION MARK;7HIGH-REVERSED-9 QUOTATION MARK;8YPHEN;7INTEGRAL;BRSECTION
7LEFT ARC GREATER-THAN BRACKET;8OGICAL AND;FOR;9W LINE;A-9 QUOTATION MARK
BREVERSED-9 QUOTATION MARK;7NESTED GREATER-THAN;ELESS-THAN;N WITH UNDERBAR;7OBLIQUE HYPHEN;7PLUS
8RECEDES;9IME;C QUOTATION MARK;7QUESTION MARK;7RIGHT ARC LESS-THAN BRACKET;7SOLIDUS OPERATOR
8QUARE INTERSECTION;EUNION;8TACKED COMMA;9ROKE NOT SIGN;8UBSET;9CCEEDS;9PERSET;9SPENSION MARK
7UNION;8P TACK;7VERTICAL BAR;J DOUBLE LEFT TURNSTILE;RRIGHT TURNSTILE;KLEFT TURNSTILE;GLINE
7WAVY OVERLINE;6-ENDED MULTIMAP;7LINE EQUAL TO OR GREATER-THAN;OLESS-THAN
CSLANTED EQUAL TO OR GREATER-THAN;WLESS-THAN;KGREATER-THAN OR EQUAL TO;KLESS-THAN OR EQUAL TO
7STRUCK CAPITAL C;MGAMMA;MH;MN;MP;NI;MQ;MR;MZ;EITALIC CAPITAL D;LSMALL D;RE;RI;RJ;EN-ARY SUMMATION
ESMALL GAMMA;KPI;6D FEMALE SIGN;8MALE SIGN;8SYMBOL;3GHNUT;2VE OF PEACE;2WN ARROWHEAD;5FISH TAIL
5RIGHT DIAGONAL ELLIPSIS;5TACK;9 WITH CIRCLE BELOW;4-POINTING RED TRIANGLE;ESMALL RED TRIANGLE
ETRIANGLE WITH LEFT HALF BLACK;SRIGHT HALF BLACK;4WARD FACING HOOK;K WITH DOT;GNOTCHED HOOK
S WITH DOT;8S ANCORA;BRROW;F AND RIGHT ONE EIGHTH BLOCK;GFROM BAR;GLEFTWARDS OF UPWARDS ARROW
GTO BAR;GWITH CORNER LEFTWARDS;LDOUBLE STROKE;LEQUILATERAL ARROWHEAD;LHORIZONTAL STROKE
LLARGE TRIANGLE ARROWHEAD;LMEDIUM TRIANGLE ARROWHEAD;LNOTCHED TAIL;LSMALL EQUILATERAL ARROWHEAD
RTRIANGLE ARROWHEAD;LTIP LEFTWARDS;PRIGHTWARDS;ABLACK ARROW;GCIRCLED WHITE ARROW;ACOMPRESSED ARROW
ADASHED ARROW;BOUBLE ARROW;AFINGER-POST ARROW
AHARPOON WITH BARB LEFT BESIDE DOWNWARDS HARPOON WITH BARB RIGHT;eUPWARDS HARPOON WITH BARB RIGHT
XFROM BAR;XTO BAR;WWARDS;SRIGHT FROM BAR;YTO BAR;XWARDS;BEAVY ARROW;GCOMPRESSED ARROW
APAIRED ARROWS;AQUADRUPLE ARROW;AROCKET;ASANS-SERIF ARROW;BQUARED ARROW;ATRIANGLE ARROWHEAD
I-HEADED ARROW;V LEFTWARDS OF UPWARDS TRIANGLE-HEADED ARROW;WTO BAR;WWITH BOLD SHAFT
bDOUBLE HORIZONTAL STROKE;bHEAVY SHAFT;bLONG TIP LEFTWARDS;kRIGHTWARDS;bMEDIUM SHAFT;bNARROW SHAFT
bVERY HEAVY SHAFT;QDASHED ARROW;QPAIRED ARROWS;QZIGZAG ARROW;DPLE ARROW;BWO HEADED ARROW
D-HEADED ARROW WITH TRIANGLE ARROWHEADS;AWHITE ARROW;L WITHIN TRIANGLE ARROWHEAD;AZIGZAG ARROW
1RACHMA SIGN;3FTING POINT RIGHTWARDS ARROW;3GON;6 FACE;2ESS;2IVE SLOW SIGN;2OMEDARY CAMEL
3OLING FACE;3P OF BLOOD;4LET;2UM WITH DRUMSTICKS;1UCK;2MPLING;2PLOYAN AFFIX ATTACHED E HOOK;OI HOOK
OLEFT-TO-RIGHT SECANT;OSECANT;OTAIL;QNGENT;V HOOK;FHIGH ACUTE;KCIRCLE;KDOT;KGRAVE;KLINE;LONG GRAVE
KTIGHT ACUTE;KVERTICAL;S SECANT;KWAVE;FLEFT HORIZONTAL SECANT;GOW ACUTE;KRROW;JCIRCLE;JDOT;JGRAVE
JLINE;KONG GRAVE;JTIGHT ACUTE;JVERTICAL;R SECANT;JWAVE;FMID HORIZONTAL SECANT;JVERTICAL SECANT
FRIGHT HORIZONTAL SECANT;9DOUBLE MARK;9LETTER A;HOU;GB;GD;H S;HH;GE;HE;HU;GF;H N;GG;H R S;GH;HL;GI
HE;GJ;H M;J S;IN;J S;IS;J WITH DOT;IWITH DOT;QS INSIDE AND ABOVE;GK;H M;IR S;HK;GL;HH;HONG I;LU;GM
H N;J S;IS;IWITH DOT;GN;H M;J S;IS;IWITH DOT;HASAL A;MI;MO;MU;GO;HA;HOH;HU;HW;GP;H N;HERNIN AM;ON
GR;H S;HH;HOMANIAN I;PU;GS;H J;J S;IK;J R;IM;IN;IP;J R;IS;IT;J R;IWITH DOT;Q BELOW;HHORT I;HLOAN AN
MDH;MEE;NH;NN;MJ;MON;NW;MU;GT;H R S;IS;HH;GU;H N;HH;HI;GV;HOCALIC M;GW;H R;HA;HEI;HH;HI;HO;IW;GX;HW
GYE;9PUNCTUATION CHINOOK FULL STOP;9SIGN O WITH CROSS;9THICK LETTER SELECTOR;1VD;0E-MAIL SYMBOL
1AGLE;2R;3 OF MAIZE;7RICE;4WITH HEARING AID;3TH;5 GLOBE AMERICAS;DSIA-AUSTRALIA;CEUROPE-AFRICA
7ROUND;2ST SYRIAC CROSS;1DITORIAL CORONIS;1GG;2YPTIAN HIEROGLYPH A001;N2;N3;N4;N5;OA;N6;OA;OB;N7;N8
N9;M10;N1;N2;N3;N4;OA;N5;N6;N7;OA;N8;N9;M20;N1;N2;N3;N4;N5;N6;N7;N8;N9;M30;N1;N2;OA;N3;N4;N5;N6;N7
N8;N9;M40;OA;N1;N2;OA;N3;OA;N4;N5;OA;N6;N7;N8;N9;M50;N1;N2;N3;N4;N5;N6;N7;N8;N9;M60;N1;N2;N3;N4;N5
N6;N7;N8;N9;M70;LA001;O2;O3;O4;O5;O6;O7;PA;PB;O8;O9;N10;O1;O2;O3;O4;O5;O6;O7;O8;O9;N20;O1;O2;O3;O4
O5;O6;O7;O8;O9;N30;O1;O2;KB001;N2;N3;N4;N5;OA;N6;N7;N8;N9;LEGIN SEGMENT;KC001;N2;OA;OB;OC;N3;N4;N5
N6;N7;N8;N9;M10;OA;N1;N2;N3;N4;N5;N6;N7;N8;N9;M20;N1;N2;N3;N4;KD001;N2;N3;N4;N5;N6;N7;N8;OA;N9;M10
N1;N2;N3;N4;N5;N6;N7;N8;N9;M20;N1;N2;N3;N4;N5;N6;N7;OA;N8;N9;M30;N1;OA;N2;N3;N4;OA;N5;N6;N7;N8;N9
M40;N1;N2;N3;N4;N5;N6;OA;N7;N8;OA;N9;M50;OA;OB;OC;OD;OE;OF;OG;OH;OI;N1;N2;OA;N3;N4;OA;N5;N6;N7;N8
N9;M60;N1;N2;N3;N4;N5;N6;N7;OA;OB;OC;OD;OE;OF;OG;OH;KE001;N2;N3;N4;N5;N6;N7;N8;OA;N9;OA;M10;N1;N2
N3;N4;N5;N6;OA;N7;OA;N8;N9;M20;OA;N1;N2;N3;N4;N5;N6;N7;N8;OA;N9;M30;N1;N2;N3;N4;OA;N6;N7;N8
LND SEGMENT;KF001;OA;N2;N3;N4;N5;N6;N7;N8;N9;M10;N1;N2;N3;OA;N4;N5;N6;N7;N8;N9;M20;N1;OA;N2;N3;N4
N5;N6;N7;N8;N9;M30;N1;OA;N2;N3;N4;N5;N6;N7;OA;N8;OA;N9;M40;N1;N2;N3;N4;N5;OA;N6;OA;N7;OA;N8;N9;M50
N1;OA;OB;OC;N2;N3;KG001;N2;N3;N4;N5;N6;OA;N7;OA;OB;N8;N9;M10;N1;OA;N2;N3;N4;N5;N6;N7;N8;N9;M20;OA
N1;N2;N3;N4;N5;N6;OA;N7;N8;N9;M30;N1;N2;N3;N4;N5;N6;OA;N7;OA;N8;N9;M40;N1;N2;N3;OA;N4;N5;OA;N6;N7
N8;N9;M50;N1;N2;N3;N4;KH001;N2;N3;N4;N5;N6;OA;N7;N8;LORIZONTAL JOINER;KI001;N2;N3;N4;N5;OA;N6;N7;N8
N9;OA;M10;OA;N1;OA;N2;N3;N4;N5;LNSERT AT BOTTOM END;bSTART;UTOP END;YSTART;KK001;N2;N3;N4;N5;N6;N7
N8;KL001;N2;OA;N3;N4;N5;N6;OA;N7;N8;KM001;OA;OB;N2;N3;OA;N4;N5;N6;N7;N8;N9;M10;OA;N1;N2;OA;OB;OC;OD
OE;OF;OG;OH;N3;N4;N5;OA;N6;OA;N7;OA;N8;N9;M20;N1;N2;OA;N3;N4;OA;N5;N6;N7;N8;OA;N9;M30;N1;OA;N2;N3
OA;OB;N4;N5;N6;N7;N8;N9;M40;OA;N1;N2;N3;N4;KN001;N2;N3;N4;N5;N6;N7;N8;N9;M10;N1;N2;N3;N4;N5;N6;N7
N8;OA;OB;N9;M20;N1;N2;N3;N4;N5;OA;N6;N7;N8;N9;M30;N1;N2;N3;OA;N4;OA;N5;OA;N6;N7;OA;N8;N9;M40;N1;N2
LL001;O2;O3;O4;O5;PA;O6;O7;O8;O9;N10;O1;O2;O3;O4;O5;O6;O7;PA;O8;O9;N20;LU001;O2;O3;O4;O5;O6;O7;O8
O9;N10;PA;O1;PA;O2;O3;O4;O5;O6;O7;O8;PA;O9;N20;O1;O2;PA;KO001;OA;N2;N3;N4;N5;OA;N6;OA;OB;OC;OD;OE
OF;N7;N8;N9;M10;OA;OB;OC;N1;N2;N3;N4;N5;N6;N7;N8;N9;OA;M20;OA;N1;N2;N3;N4;OA;N5;OA;N6;N7;N8;N9;OA
M30;OA;N1;N2;N3;OA;N4;N5;N6;OA;OB;OC;OD;N7;N8;N9;M40;N1;N2;N3;N4;N5;N6;N7;N8;N9;M50;OA;OB;N1
LVERLAY MIDDLE;KP001;OA;N2;N3;OA;N4;N5;N6;N7;N8;N9;M10;N1;KQ001;N2;N3;N4;N5;N6;N7;KR001;N2;OA;N3;OA
OB;N4;N5;N6;N7;N8;N9;M10;OA;N1;N2;N3;N4;N5;N6;OA;N7;N8;N9;M20;N1;N2;N3;N4;N5;N6;N7;N8;N9;KS001;N2
OA;N3;N4;N5;N6;OA;N7;N8;N9;M10;N1;N2;N3;N4;OA;OB;N5;N6;N7;OA;N8;N9;M20;N1;N2;N3;N4;N5;N6;OA;OB;N7
N8;N9;M30;N1;N2;N3;N4;N5;OA;N6;N7;N8;N9;M40;N1;N2;N3;N4;N5;N6;KT001;N2;N3;OA;N4;N5;N6;N7;OA;N8;OA
N9;OA;M10;N1;OA;N2;N3;N4;N5;N6;OA;N7;N8;N9;M20;N1;N2;N3;N4;N5;N6;N7;N8;N9;M30;N1;N2;OA;N3;OA;N4;N5
N6;KU001;N2;N3;N4;N5;N6;OA;OB;N7;N8;N9;M10;N1;N2;N3;N4;N5;N6;N7;N8;N9;M20;N1;N2;N3;OA;N4;N5;N6;N7
N8;N9;OA;M30;N1;N2;OA;N3;N4;N5;N6;N7;N8;N9;M40;N1;N2;KV001;OA;OB;OC;OD;OE;OF;OG;OH;OI;N2;OA;N3;N4
N5;N6;N7;OA;OB;N8;N9;M10;N1;OA;OB;OC;N2;OA;OB;N3;N4;N5;N6;N7;N8;N9;M20;OA;OB;OC;OD;OE;OF;OG;OH;OI
OJ;OK;OL;N1;N2;N3;OA;N4;N5;N6;N7;N8;OA;N9;OA;M30;OA;N1;OA;N2;N3;OA;N4;N5;N6;N7;OA;N8;N9;M40;OA
LERTICAL JOINER;KW001;N2;N3;OA;N4;N5;N6;N7;N8;N9;OA;M10;OA;N1;N2;N3;N4;OA;N5;N6;N7;OA;N8;OA;N9;M20
N1;N2;N3;N4;OA;N5;KX001;N2;N3;N4;OA;OB;N5;N6;OA;N7;N8;OA;KY001;OA;N2;N3;N4;N5;N6;N7;N8;KZ001;N2;OA
OB;OC;OD;N3;OA;OB;N4;OA;N5;OA;N6;N7;N8;N9;M10;N1;N2;N3;N4;N5;OA;OB;OC;OD;OE;OF;OG;OH;OI;N6;OA;OB;OC
OD;OE;OF;OG;OH;1IGHT PETALLED OUTLINED BLACK FLORETTE;7OINTED BLACK STAR;EPINWHEEL STAR
ERECTILINEAR BLACK STAR;6SPOKED ASTERISK;6TEARDROP-SPOKED PROPELLER ASTERISK;5H NOTE;1JECT SYMBOL
1LBASAN LETTER A;FBE;FCE;GHE;FDE;GHE;FE;GI;FFE;FGE;GHAMMA;HE;GJE;FHE;FI;FJE;FKE;GHE;FLE;GLE;FME;FNA
GDE;GE;GJE;FO;FPE;FQE;FRE;GRE;FSE;GHE;FTE;GHE;FU;FVE;FXE;FY;FZE;GHE;2ECTRIC ARROW;9LIGHT BULB;9PLUG
9TORCH;8AL INTERSECTION;3MENT OF;A OPENING DOWNWARDS;JUPWARDS;BWITH DOT ABOVE
GLONG HORIZONTAL STROKE;GOVERBAR;GTWO HORIZONTAL STROKES;GUNDERBAR
GVERTICAL BAR AT END OF HORIZONTAL STROKE;3PHANT;3VATOR;2F;2YMAIC LETTER ALEPH;GYIN;FBETH;FDALETH
FGIMEL;FHE;HTH;FKAPH;FLAMEDH;FMEM;FNUN;FPE;FQOPH;FRESH;FSADHE;HMEKH;GHIN;FTAW;GETH;FWAW;FYODH
FZAYIN;9IGATURE ZAYIN-YODH;1M DASH;3QUAD;3SPACE;2OJI COMPONENT BALD;GCURLY HAIR;GRED HAIR
GWHITE HAIR;6MODIFIER FITZPATRICK TYPE-1-2;W3;W4;W5;W6;2PHASIS SYMBOL;3TY DOCUMENT;6NEST;7OTE;A PAD
DGE;6PAGE;AS;6SET;9 WITH LEFT ARROW ABOVE;FOVERBAR;FRIGHT ARROW ABOVE;FSMALL CIRCLE ABOVE;1N DASH
3QUAD;3SPACE;2D OF GUARDED AREA;7LINE;7MEDIUM;7PROOF;ATECTED AREA;7SELECTED AREA;7TEXT;8RANSMISSION
J BLOCK;4WITH LEFTWARDS ARROW ABOVE;2Q;3UIRY;2TER SYMBOL;2VELOPE;8 WITH DOWNWARDS ARROW ABOVE
ELIGHTNING;1OL;2M;2T;1PA;1QUAL AND PARALLEL TO;6TO BY DEFINITION;9OR GREATER-THAN;CLESS-THAN
CPRECEDES;CSUCCEEDS;5S COLON;7SIGN;B ABOVE LEFTWARDS ARROW;IPLUS SIGN;IRIGHTWARDS ARROW
ITILDE OPERATOR;DND SLANTED PARALLEL;W WITH TILDE ABOVE;CWITH BUMPY ABOVE;HDOT BELOW
HINFINITY BELOW;HTWO DOTS ABOVE AND TWO DOTS BELOW;7WITH ASTERISK;3IANGULAR TO;4VALENT TO
BWITH FOUR DOTS ABOVE;1RASE TO THE LEFT;DRIGHT;2IS FORM ONE;ATWO;2ROR-BARRED BLACK CIRCLE;JDIAMOND
JSQUARE;DWHITE CIRCLE;JDIAMOND;JSQUARE;1SA;2C;3APE;2TIMATED SYMBOL;8S;1TB;2HIOPIC COLON
BMBINING GEMINATION AND VOWEL LENGTH MARK;UMARK;JVOWEL LENGTH MARK;CMA;9DIGIT EIGHT;FFIVE;GOUR
FNINE;FONE;FSEVEN;GIX;FTHREE;GWO;9FULL STOP;9NUMBER EIGHTY;GFIFTY;HORTY;GHUNDRED;GNINETY;GSEVENTY
HIXTY;GTEN;J THOUSAND;HHIRTY;HWENTY;9PARAGRAPH SEPARATOR;AREFACE COLON;9QUESTION MARK;9SECTION MARK
BMICOLON;AYLLABLE BA;KA;JBA;LA;KE;LE;KI;KO;KU;JE;KE;JI;JO;KA;JU;JWA;KE;LE;KI;ICA;KA;JCA;LA;KE;LE
KHA;MA;LE;ME;LHA;NA;ME;NE;MI;MO;MU;LI;LO;LU;KI;KO;KU;JE;KE;JHA;LA;KE;LE;KI;KO;LA;KU;KWA;JI;JO;KA;JU
JWA;IDA;KA;JDA;LA;KE;LE;KHAA;LE;ME;LI;LO;LU;KI;KO;LA;KU;KWA;JE;KE;JI;JO;KA;JU;JWA;JZAA;KE;LE;KI;KO
KU;IFA;KA;JE;KE;JI;JO;JU;JWA;KE;LE;KI;JYA;IGA;KA;JE;KE;JGA;LA;KE;LE;KI;KO;KU;KWA;MA;LE;ME;LI;JI
JLOTTAL A;RA;QE;RE;QI;QO;RA;QU;QWA;JO;KA;JU;KRAGE BWEE;RI;PFWEE;RI;PGWE;SE;RI;PHHWA;PKWE;SE;RI
PMWEE;RI;PPWEE;RI;PQWE;SE;RI;JWA;LA;KE;LE;KI;JYA;LA;KE;LE;KI;KO;KU;IHA;KA;JE;KE;JHA;LA;KE;LE;KI;KO
KU;KWA;LE;ME;LI;KYA;MA;LE;ME;LI;LO;LU;JI;JO;KA;JU;IJA;KA;JE;KE;JI;JO;KA;JU;JWA;IKA;KA;JE;KE;JI;JO
KA;JU;JWA;LA;KE;LE;KI;JXA;LA;KE;LE;KI;KO;KU;KWA;MA;LE;ME;LI;JYA;LA;KE;LE;KI;KO;KU;ILA;KA;JE;KE;JI
JO;KA;JU;JWA;IMA;KA;JE;KE;JI;JO;KA;JU;JWA;KE;LE;KI;JYA;INA;KA;JE;KE;JI;JO;KA;JU;JWA;JYA;LA;KE;LE;KI
KO;LA;KU;KWA;IPA;KA;JE;KE;JHA;LA;LRYNGEAL A;UA;TE;UE;TI;TO;TU;KE;LE;KI;KO;LA;KU;KWA;JI;JO;KA;JU;JWA
KE;LE;KI;IQA;KA;JE;KE;JHA;LA;KE;LE;KI;KO;KU;KWA;MA;LE;ME;LI;JI;JO;KA;JU;JWA;LA;KE;LE;KI;JYA;LA;KE
LE;KI;KO;KU;IRA;KA;JE;KE;JI;JO;KA;JU;JWA;JYA;ISA;KA;JE;KBATBEIT BWA;SFWA;SMWA;SPWA;KE;JHA;LA;KE;LE
KI;KO;LA;KU;KWA;JI;JO;KA;JSA;LA;KE;LE;KI;KO;KU;JU;JWA;JZA;LA;KE;LE;KI;KO;KU;KWA;ITA;KA;JE;KE;JHA;LA
KE;LE;KI;KO;LA;KU;KWA;JI;JO;KA;JSA;LA;KE;LE;KI;KO;KU;KWA;JTHAA;LE;ME;LI;LO;LU;JU;JWA;JZA;LA;KE;LE
KI;KO;LA;KU;IVA;KA;JE;KE;JI;JO;JU;JWA;IWA;KA;JE;KE;JI;JO;KA;JU;IXA;KA;JE;KE;JI;JO;KA;JU;JWA;LA;KE
LE;KI;JYA;LA;KE;LE;KI;KO;KU;IYA;KA;JE;KE;JI;JO;KA;JU;IZA;KA;JE;KE;JHA;LA;KE;LE;KI;KO;KU;KWA;JI;JO
KA;JU;JWA;JZA;LA;KE;LE;KI;KO;KU;9TONAL MARK CHIRET;KDERET;P-HIDET;LIFAT;KHIDET;KKENAT;LURT;KRIKRIK
KSHORT RIKRIK;KYIZET;9WORDSPACE;2X;1ULER CONSTANT;2RO SIGN;4-CURRENCY SIGN;4PEAN CASTLE
9POST OFFICE;1VERGREEN TREE;1XCESS;3LAMATION MARK;CQUESTION MARK;2PRESSIONLESS FACE
2TENDED ARABIC-INDIC DIGIT EIGHT;SFIVE;TOUR;SNINE;SONE;SSEVEN;TIX;STHREE;TWO;SZERO
3RATERRESTRIAL ALIEN;4EMELY HEAVY FIVE SPOKED ASTERISK;GGREEK CROSS;GSALTIRE;HIX SPOKED ASTERISK
GWHITE CIRCLE;MSQUARE;1YE;3GLASSES;3S;0FACE HOLDING BACK TEARS;5MASSAGE;5PALM
5SAVOURING DELICIOUS FOOD;6CREAMING IN FEAR;5THROWING A KISS;5WITH COLD SWEAT;CWBOY HAT
ADIAGONAL MOUTH;AFINGER COVERING CLOSED LIPS;AHEAD-BANDAGE;ALOOK OF TRIUMPH;AMEDICAL MASK;BONOCLE
ANO GOOD GESTURE;AOK GESTURE;BNE EYEBROW RAISED;BPEN EYES AND HAND OVER MOUTH;FMOUTH
K AND COLD SWEAT;LVOMITING;APARTY HORN AND PARTY HAT;BEEKING EYE;BLEADING EYES;AROLLING EYES
ASTUCK-OUT TONGUE;Q AND TIGHTLY-CLOSED EYES;VWINKING EYE;ATEARS OF JOY;BHERMOMETER
AUNEVEN EYES AND WAVY MOUTH;9OUT MOUTH;3SIMILE SIGN;3TORY;2IRY;2LAFEL;3LEN LEAF
4ING DIAGONAL CROSSING NORTH EAST ARROW;QRISING DIAGONAL;HIN WHITE CIRCLE IN BLACK SQUARE;2MILY
2RSI SYMBOL;2THER CHRISTMAS;2X ICON;4MACHINE;1EARFUL FACE;3THER;2MALE SIGN;3ININE ORDINAL INDICATOR
2NCER;2RRIS WHEEL;4Y;1F;1IELD HOCKEY STICK AND BALL;2GURE DASH;7SPACE;2LE CABINET;5FOLDER
5SEPARATOR;3M FRAMES;5PROJECTOR;2NITE PART INTEGRAL;2RE;4 ENGINE;6XTINGUISHER;4CRACKER
4WORK SPARKLER;8S;3ST PLACE MEDAL;6QUARTER MOON;I SYMBOL;JWITH FACE;6STRONG ISOLATE;2SH
4 CAKE WITH SWIRL DESIGN;4EYE;4ING POLE AND FISH;3TED HAND SIGN;2VE DOT MARK;9PUNCTUATION
1LAG IN HOLE;3MINGO;3T SHOE;4BREAD;4NESS;2EUR-DE-LIS;3XED BICEPS;2OPPY DISK;3RAL HEART;3WER
6 PLAYING CARDS;8UNCTUATION MARK;2USHED FACE;2Y;3ING DISC;7ENVELOPE;7SAUCER;1OG;3GY;2LDER;2NDUE;2OT
4PRINTS;2R ALL;3CES;3K AND KNIFE;E WITH PLATE;4ED PARAGRAPHOS;4ING;3M FEED;3TUNE COOKIE;2UNTAIN
3R BALLOON-SPOKED ASTERISK;5CLUB-SPOKED ASTERISK;6ORNER ARROWS CIRCLING ANTICLOCKWISE;5DOT MARK
9PUNCTUATION;5LEAF CLOVER;5POINTED BLACK STAR;5TEARDROP-SPOKED ASTERISK;4-PER-EM SPACE;4TH ROOT
2X FACE;1RACTION NUMERATOR ONE;9SLASH;3ME WITH AN X;BPICTURE;BTILES;2EEZING FACE;3NCH FRANC SIGN
9IES;2IED SHRIMP;2OG FACE;3NT-FACING BABY CHICK;6TILTED SHADOWED WHITE RIGHTWARDS ARROW;3WN
5ING FACE WITH OPEN MOUTH;1S;2I;1UEL PUMP;2LL BLOCK;5MOON SYMBOL;AWITH FACE;5OUTER JOIN;5STOP
4WIDTH AMPERSAND;BPOSTROPHE;BSTERISK;ABROKEN BAR;ACENT SIGN;BIRCUMFLEX ACCENT;BOLON;CMMA;EERCIAL AT
ADIGIT EIGHT;GFIVE;HOUR;GNINE;GONE;GSEVEN;HIX;GTHREE;HWO;GZERO;BOLLAR SIGN;AEQUALS SIGN
BXCLAMATION MARK;AFULL STOP;AGRAVE ACCENT;CEATER-THAN SIGN;AHYPHEN-MINUS;ALATIN CAPITAL LETTER A;VB
VC;VD;VE;VF;VG;VH;VI;VJ;VK;VL;VM;VN;VO;VP;VQ;VR;VS;VT;VU;VV;VW;VX;VY;VZ;GSMALL LETTER A;TB;TC;TD;TE
TF;TG;TH;TI;TJ;TK;TL;TM;TN;TO;TP;TQ;TR;TS;TT;TU;TV;TW;TX;TY;TZ;BEFT CURLY BRACKET;FPARENTHESIS
FSQUARE BRACKET;FWHITE PARENTHESIS;CSS-THAN SIGN;BOW LINE;AMACRON;ANOT SIGN;BUMBER SIGN
APERCENT SIGN;BLUS SIGN;BOUND SIGN;AQUESTION MARK;COTATION MARK;AREVERSE SOLIDUS
BIGHT CURLY BRACKET;GPARENTHESIS;GSQUARE BRACKET;GWHITE PARENTHESIS;ASEMICOLON;BOLIDUS;ATILDE
AVERTICAL LINE;AWON SIGN;AYEN SIGN;2NCTION APPLICATION;3ERAL URN;2SE;1VS1;32;33;34;0GAME DIE;2RLIC
1EAR;4 WITH HANDLES;9OUT HUB;2M STONE;3INI;2NIE;2OMETRIC PROPORTION;9ALLY EQUAL TO;HIVALENT TO
3RGIAN CAPITAL LETTER AEN;PN;OBAN;OCAN;PHAR;QIN;PIL;ODON;OEN;OGAN;PHAN;OHAE;QR;PE;PIE;POE;OIN;OJHAN
PIL;OKAN;PHAR;OLAS;OMAN;ONAR;OON;OPAR;PHAR;OQAR;ORAE;OSAN;PHIN;OTAN;QR;OUN;OVIN;OWE;OXAN;OYN;OZEN
PHAR;9LETTER AEN;HIN;HN;GBAN;GCAN;HHAR;IIN;HIL;GDON;GELIFI;HN;GFI;GGAN;HHAN;GHAE;IR;JD SIGN;HE;HIE
HOE;GIN;GJHAN;HIL;GKAN;HHAR;GLABIAL SIGN;IS;GMAN;GNAR;GON;GPAR;HHAR;GQAR;GRAE;GSAN;HHIN;GTAN;IR
HURNED GAN;GUN;GVIN;GWE;GXAN;GYN;GZEN;HHAR;9MTAVRULI CAPITAL LETTER AEN;YIN;YN;XBAN;XCAN;YHAR;ZIN
YIL;XDON;XELIFI;YN;XFI;XGAN;YHAN;XHAE;ZR;aD SIGN;YE;YIE;YOE;XIN;XJHAN;YIL;XKAN;YHAR;XLABIAL SIGN;ZS
XMAN;XNAR;XON;XPAR;YHAR;XQAR;XRAE;XSAN;YHIN;XTAN;ZR;YURNED GAN;XUN;XVIN;XWE;XXAN;XYN;XZEN;YHAR
9PARAGRAPH SEPARATOR;9SMALL LETTER AEN;NN;MBAN;MCAN;NHAR;OIN;NIL;MDON;MEN;MGAN;NHAN;MHAE;OR;NE;NIE
NOE;MIN;MJHAN;NIL;MKAN;NHAR;MLAS;MMAN;MNAR;MON;MPAR;NHAR;MQAR;MRAE;MSAN;NHIN;MTAN;OR;MUN;MVIN;MWE
MXAN;MYN;MZEN;NHAR;2RMAN PENNY SIGN;2TA MARK;1HOST;1IMEL SYMBOL;2RAFFE FACE;3L;4S SYMBOL
1LAGOLITIC CAPITAL LETTER AZU;QBIG YUS;RUKY;QCAUDATE CHRIVI;RHRIVI;QDJERVI;ROBRO;RZELO;QFITA;RRITU
QGLAGOLI;QHERU;QI;RNITIAL IZHE;ROTATED BIG YUS;YSMALL YUS;RZHE;TITSA;QKAKO;QLATINATE MYSLITE
RJUDIJE;QMYSLITE;QNASHI;QONU;RTU;QPE;ROKOJI;QRITSI;QSHA;STA;UPIC;RLOVO;RMALL YUS;Z WITH TAIL
RPIDERY HA;QTROKUTASTI A;RSI;RVRIDO;QUKU;QVEDE;QYATI;RERI;TU;SSTU;RO;RU;QZEMLJA;RHIVETE
BSMALL LETTER AZU;OBIG YUS;PUKY;OCAUDATE CHRIVI;PHRIVI;ODJERVI;POBRO;PZELO;OFITA;PRITU;OGLAGOLI
OHERU;OI;PNITIAL IZHE;POTATED BIG YUS;WSMALL YUS;PZHE;RITSA;OKAKO;OLATINATE MYSLITE;PJUDIJE
OMYSLITE;ONASHI;OONU;PTU;OPE;POKOJI;ORITSI;OSHA;QTA;SPIC;PLOVO;PMALL YUS;X WITH TAIL;PPIDERY HA
OTROKUTASTI A;PSI;PVRIDO;OUKU;OVEDE;OYATI;PERI;RU;QSTU;PO;PU;OZEMLJA;PHIVETE;3SS OF MILK
2EICH STARK;2OBE WITH MERIDIANS;3VES;3WING STAR;1OAL NET;3T;2GGLES;2LFER;2RILLA;2THIC LETTER AHSA
FIHVUS;EBAIRKAN;EDAGS;EEIS;EFAIHU;EGIBA;EHAGL;FWAIR;EIGGWS;FUJA;EJER;EKUSMA;ELAGUS;EMANNA;ENAUTHS
FINE HUNDRED;ITY;EOTHAL;EPAIRTHRA;EQAIRTHRA;ERAIDA;ESAUIL;ETEIWS;FHIUTH;EURUS;EWINJA;1RADUATION CAP
3NTHA AU LENGTH MARK;8LETTER A;GA;GI;GU;FBA;GHA;FCA;GHA;FDA;GDA;HHA;GHA;FEE;FGA;GHA;FHA;FI;GI;FJA
GHA;FKA;GHA;FLA;GLA;FMA;FNA;GGA;GNA;GYA;FOO;FPA;GHA;FRA;FSA;GHA;GSA;FTA;GHA;GTA;HHA;FU;GU;FVA
GEDIC ANUSVARA;LDOUBLE ANUSVARA;GOCALIC L;OL;NR;OR;FYA;8OM;8SIGN ANUSVARA;EVAGRAHA;DCANDRABINDU
EOMBINING ANUSVARA ABOVE;DNUKTA;DPLUTA;DVIRAMA;FSARGA;8VOWEL SIGN AA;KI;KU;JEE;JI;KI;JOO;JU;KU
JVOCALIC L;SL;RR;SR;3PES;3VE ACCENT;2EATER-THAN ABOVE DOUBLE-LINE EQUAL ABOVE LESS-THAN
JLESS-THAN ABOVE DOUBLE-LINE EQUAL;JRIGHTWARDS ARROW;JSIMILAR ABOVE LESS-THAN;ROR EQUAL
KLANTED EQUAL ABOVE LESS-THAN ABOVE SLANTED EQUAL;END NOT APPROXIMATE;HSINGLE-LINE NOT EQUAL TO
DBESIDE LESS-THAN;EUT NOT EQUAL TO;OIVALENT TO;DCLOSED BY CURVE;S ABOVE SLANTED EQUAL
DEQUAL TO OR LESS-THAN;DOR APPROXIMATE;GEQUAL TO;JIVALENT TO;GLESS-THAN;GSLANTED EQUAL TO
W WITH DOT ABOVE;l LEFT;gINSIDE;EVER EQUAL TO;HLAPPING LESS-THAN;DSIGN;DWITH CIRCLE INSIDE;IDOT
IQUESTION MARK ABOVE;3EK ACROPHONIC ATTIC FIFTY;S STATERS;TTALENTS;UHOUSAND;b STATERS;PVE;R HUNDRED
Z STATERS;aTALENTS;SSTATERS;STALENTS;THOUSAND;a TALENTS;NONE DRACHMA;RHALF;SUNDRED STATERS;ZTALENTS
RQUARTER;RTHOUSAND STATERS;aTALENTS;NTEN MNAS;RSTATERS;RTALENTS;SHOUSAND STATERS
HCARYSTIAN FIVE HUNDRED;IYRENAIC TWO DRACHMAS;HDELPHIC FIVE MNAS;HEPIDAUREAN FIVE HUNDRED;STWO
V DRACHMAS;HHERAEUM ONE PLETHRON;KMIONIAN FIFTY;SONE;STEN;HMESSENIAN TEN;HNAXIAN FIVE HUNDRED
HSTRATIAN FIFTY MNAS;HTHESPIAN FIFTY;SVE HUNDRED;VTHOUSAND;QONE;T HUNDRED;UTHOUSAND;QTEN;RHIRTY
SREE HUNDRED;RWO;IROEZENIAN FIFTY;X ALTERNATE FORM;UVE;W HUNDRED;STEN;V ALTERNATE FORM;7NO TELEIA
7ROURA SIGN;8TABE SIGN;6BETA SYMBOL;6CAPITAL DOTTED LUNATE SIGMA SYMBOL;EKAI SYMBOL;ELETTER ALPHA
Q WITH DASIA;b AND OXIA;k AND PROSGEGRAMMENI;gPERISPOMENI;r AND PROSGEGRAMMENI;hROSGEGRAMMENI
gVARIA;l AND PROSGEGRAMMENI;WMACRON;WOXIA;WPROSGEGRAMMENI;XSILI;b AND OXIA;k AND PROSGEGRAMMENI
gPERISPOMENI;r AND PROSGEGRAMMENI;hROSGEGRAMMENI;gVARIA;l AND PROSGEGRAMMENI;WTONOS;WVARIA;XRACHY
MRCHAIC SAMPI;LBETA;LCHI;LDELTA;LEPSILON;S WITH DASIA;d AND OXIA;iVARIA;YOXIA;YPSILI;d AND OXIA
iVARIA;YTONOS;YVARIA;MTA;O WITH DASIA;Z AND OXIA;i AND PROSGEGRAMMENI;ePERISPOMENI
p AND PROSGEGRAMMENI;fROSGEGRAMMENI;eVARIA;j AND PROSGEGRAMMENI;UOXIA;UPROSGEGRAMMENI;VSILI
Z AND OXIA;i AND PROSGEGRAMMENI;ePERISPOMENI;p AND PROSGEGRAMMENI;fROSGEGRAMMENI;eVARIA
j AND PROSGEGRAMMENI;UTONOS;UVARIA;LGAMMA;LHETA;LIOTA;P WITH DASIA;a AND OXIA;fPERISPOMENI;fVARIA
WIALYTIKA;VMACRON;VOXIA;VPSILI;a AND OXIA;fPERISPOMENI;fVARIA;VTONOS;VVARIA;WRACHY;LKAPPA;LLAMDA
LMU;LNU;LOMEGA;Q WITH DASIA;b AND OXIA;k AND PROSGEGRAMMENI;gPERISPOMENI;r AND PROSGEGRAMMENI
hROSGEGRAMMENI;gVARIA;l AND PROSGEGRAMMENI;WOXIA;WPROSGEGRAMMENI;XSILI;b AND OXIA
k AND PROSGEGRAMMENI;gPERISPOMENI;r AND PROSGEGRAMMENI;hROSGEGRAMMENI;gVARIA;l AND PROSGEGRAMMENI
WTONOS;WVARIA;NICRON;S WITH DASIA;d AND OXIA;iVARIA;YOXIA;YPSILI;d AND OXIA;iVARIA;YTONOS;YVARIA
LPAMPHYLIAN DIGAMMA;MHI;MI;MSI;LRHO;O WITH DASIA;LSAN;MHO;MIGMA;LTAU;MHETA;LUPSILON;S WITH DASIA
d AND OXIA;iPERISPOMENI;iVARIA;ZIALYTIKA;YMACRON;YOXIA;YTONOS;YVARIA;ZRACHY;LXI;LYOT;LZETA
FUNATE SIGMA SYMBOL;EREVERSED DOTTED LUNATE SIGMA SYMBOL;NLUNATE SIGMA SYMBOL;ETHETA SYMBOL;6DASIA
B AND OXIA;GPERISPOMENI;GVARIA;7IALYTIKA AND OXIA;KPERISPOMENI;KVARIA;GTONOS;7RACHMA SIGN
6FIVE OBOLS SIGN;7OUR OBOLS SIGN;6GRAMMA SIGN;6INDICTION SIGN;8STRUMENTAL NOTATION SYMBOL-1;a1;a2
a3;a4;a7;a8;a9;Z2;a3;a4;a5;a6;a7;a9;Z30;a2;a6;a7;a8;a9;Z4;a0;a2;a3;a5;a7;a8;a9;Z5;a0;a1;a2;a3;a4;Z7
Z8;6KAI SYMBOL;8PPA SYMBOL;7ORONIS;7YATHOS BASE SIGN;6LETTER ARCHAIC KOPPA;DDIGAMMA;DKOPPA;DSAMPI
EMALL CAPITAL GAMMA;RLAMDA;ROMEGA;RPI;SSI;RRHO;ETIGMA;DYOT;7ITRA SIGN;7OWER NUMERAL SIGN
7UNATE EPSILON SYMBOL;DSIGMA SYMBOL;6METRETES SIGN;7USICAL LEIMMA;6NUMERAL SIGN;6OBOL SIGN
7NE HALF SIGN;J ALTERNATE FORM;AQUARTER SIGN;7UNKIA SIGN;7XIA;6PERISPOMENI;7HI SYMBOL;7I SYMBOL
7ROSGEGRAMMENI;7SILI;B AND OXIA;GPERISPOMENI;GVARIA;6QUESTION MARK;6REVERSED LUNATE EPSILON SYMBOL
7HO SYMBOL;AWITH STROKE SYMBOL;6SINUSOID SIGN;7MALL DOTTED LUNATE SIGMA SYMBOL;CLETTER ALPHA
O WITH DASIA;Z AND OXIA;i AND YPOGEGRAMMENI;ePERISPOMENI;p AND YPOGEGRAMMENI;eVARIA
j AND YPOGEGRAMMENI;eYPOGEGRAMMENI;UMACRON;UOXIA;Y AND YPOGEGRAMMENI;UPERISPOMENI
f AND YPOGEGRAMMENI;VSILI;Z AND OXIA;i AND YPOGEGRAMMENI;ePERISPOMENI;p AND YPOGEGRAMMENI;eVARIA
j AND YPOGEGRAMMENI;eYPOGEGRAMMENI;UTONOS;UVARIA;Z AND YPOGEGRAMMENI;VRACHY;UYPOGEGRAMMENI
KRCHAIC KOPPA;RSAMPI;JBETA;JCHI;JDELTA;KIGAMMA;JEPSILON;Q WITH DASIA;b AND OXIA;gVARIA;WOXIA;WPSILI
b AND OXIA;gVARIA;WTONOS;WVARIA;KTA;M WITH DASIA;X AND OXIA;g AND YPOGEGRAMMENI;cPERISPOMENI
n AND YPOGEGRAMMENI;cVARIA;h AND YPOGEGRAMMENI;cYPOGEGRAMMENI;SOXIA;W AND YPOGEGRAMMENI
SPERISPOMENI;d AND YPOGEGRAMMENI;TSILI;X AND OXIA;g AND YPOGEGRAMMENI;cPERISPOMENI
n AND YPOGEGRAMMENI;cVARIA;h AND YPOGEGRAMMENI;cYPOGEGRAMMENI;STONOS;SVARIA;X AND YPOGEGRAMMENI
SYPOGEGRAMMENI;JFINAL SIGMA;JGAMMA;JHETA;JIOTA;N WITH DASIA;Y AND OXIA;dPERISPOMENI;dVARIA
UIALYTIKA;c AND OXIA;hPERISPOMENI;hTONOS;hVARIA;TMACRON;TOXIA;TPERISPOMENI;USILI;Y AND OXIA
dPERISPOMENI;dVARIA;TTONOS;TVARIA;URACHY;JKAPPA;KOPPA;JLAMDA;JMU;JNU;JOMEGA;O WITH DASIA;Z AND OXIA
i AND YPOGEGRAMMENI;ePERISPOMENI;p AND YPOGEGRAMMENI;eVARIA;j AND YPOGEGRAMMENI;eYPOGEGRAMMENI
UOXIA;Y AND YPOGEGRAMMENI;UPERISPOMENI;f AND YPOGEGRAMMENI;VSILI;Z AND OXIA;i AND YPOGEGRAMMENI
ePERISPOMENI;p AND YPOGEGRAMMENI;eVARIA;j AND YPOGEGRAMMENI;eYPOGEGRAMMENI;UTONOS;UVARIA
Z AND YPOGEGRAMMENI;UYPOGEGRAMMENI;LICRON;Q WITH DASIA;b AND OXIA;gVARIA;WOXIA;WPSILI;b AND OXIA
gVARIA;WTONOS;WVARIA;JPAMPHYLIAN DIGAMMA;KHI;KI;KSI;JRHO;M WITH DASIA;SPSILI;JSAMPI;LN;KHO;KIGMA
KTIGMA;JTAU;KHETA;JUPSILON;Q WITH DASIA;b AND OXIA;gPERISPOMENI;gVARIA;XIALYTIKA;f AND OXIA
kPERISPOMENI;kTONOS;kVARIA;WMACRON;WOXIA;WPERISPOMENI;XSILI;b AND OXIA;gPERISPOMENI;gVARIA;WTONOS
WVARIA;XRACHY;JXI;JZETA;CREVERSED DOTTED LUNATE SIGMA SYMBOL;LLUNATE SIGMA SYMBOL
7UBSCRIPT SMALL LETTER BETA;TCHI;TGAMMA;TPHI;TRHO;7YMBOL TAU RHO;6TALENT SIGN;7HETA SYMBOL
8REE OBOLS SIGN;CQUARTERS SIGN;7ONOS;7RYBLION BASE SIGN;7WO OBOLS SIGN;ATHIRDS SIGN
6UPSILON WITH ACUTE AND HOOK SYMBOL;JDIAERESIS AND HOOK SYMBOL;JHOOK SYMBOL;6VARIA
7OCAL NOTATION SYMBOL-1;T0;T1;T2;T3;T4;T5;T6;T7;T8;T9;S2;T0;T1;T2;T3;T4;S3;S4;S5;T0;T1;T2;T3;T4;S6
S7;S8;S9;6XESTES SIGN;6YEAR SIGN;7POGEGRAMMENI;6ZERO SIGN;4N APPLE;6BOOK;6HEART;6SALAD
2IMACING FACE;3NNING CAT FACE WITH SMILING EYES;9FACE;D WITH ONE LARGE AND ONE SMALL EYE
JSMILING EYES;KTAR EYES;2OUP MARK;6SEPARATOR;3WING HEART;1S;1UARANI SIGN;4DSMAN;2IDE DOG;3TAR
2JARATI ABBREVIATION SIGN;9DIGIT EIGHT;FFIVE;GOUR;FNINE;FONE;FSEVEN;GIX;FTHREE;GWO;FZERO;9LETTER A
HA;HI;HU;GBA;HHA;GCA;HHA;GDA;HDA;IHA;HHA;GE;GGA;HHA;GHA;GI;HI;GJA;HHA;GKA;HHA;GLA;HLA;GMA;GNA;HGA
HNA;HYA;GO;GPA;HHA;GRA;GSA;HHA;HSA;GTA;HHA;HTA;IHA;GU;HU;GVA;HOCALIC L;PL;OR;PR;GYA;GZHA;9OM
9RUPEE SIGN;9SIGN ANUSVARA;FVAGRAHA;ECANDRABINDU;FIRCLE NUKTA ABOVE;EMADDAH;ENUKTA;ESHADDA;FUKUN
ETHREE-DOT NUKTA ABOVE;FWO-CIRCLE NUKTA ABOVE;EVIRAMA;GSARGA;9VOWEL CANDRA E;MO;FSIGN AA;LI;LU
KCANDRA E;RO;KE;KI;LI;KO;KU;LU;KVOCALIC L;TL;SR;TR;2NJALA GONDI DIGIT EIGHT;KFIVE;LOUR;KNINE;KONE
KSEVEN;LIX;KTHREE;LWO;KZERO;ELETTER A;MA;MI;MU;LBA;MHA;LCA;MHA;LDA;MDA;NHA;MHA;LEE;LGA;MHA;LHA;LI
MI;LJA;MHA;LKA;MHA;LLA;MLA;LMA;LNA;MGA;LOO;LPA;MHA;LRA;LSA;LTA;MHA;MTA;NHA;LU;MU;LVA;LYA;EOM
ESIGN ANUSVARA;JVISARGA;EVIRAMA;FOWEL SIGN AA;QI;QU;PEE;PI;QI;POO;PU;QU;2RMUKHI ABBREVIATION SIGN
ADDAK;9DIGIT EIGHT;FFIVE;GOUR;FNINE;FONE;FSEVEN;GIX;FTHREE;GWO;FZERO;9EK ONKAR;9IRI;9LETTER A;HA;HI
HU;GBA;HHA;GCA;HHA;GDA;HDA;IHA;HHA;GEE;GFA;GGA;HHA;IHA;GHA;GI;HI;GJA;HHA;GKA;HHA;IHA;GLA;HLA;GMA
GNA;HGA;HNA;HYA;GOO;GPA;HHA;GRA;HRA;GSA;HHA;GTA;HHA;HTA;IHA;GU;HU;GVA;GYA;GZA;9SIGN ADAK BINDI
EBINDI;ENUKTA;EUDAAT;EVIRAMA;GSARGA;EYAKASH;9TIPPI;9URA;9VOWEL SIGN AA;LI;LU;KEE;KI;LI;KOO;KU;LU
0HADES;2IR SPACE;4CUT;2LFWIDTH BLACK SQUARE;ADOWNWARDS ARROW;AFORMS LIGHT VERTICAL;AHANGUL FILLER
HLETTER A;PE;OCHIEUCH;PIEUC;OE;PO;PU;OHIEUH;OI;PEUNG;OKHIEUKH;PIYEOK;U-SIOS;OMIEUM;ONIEUN;T-CIEUC
UHIEUH;OO;PE;OPHIEUPH;PIEUP;T-SIOS;ORIEUL;T-HIEUH;UKIYEOK;UMIEUM;UPHIEUPH;VIEUP;USIOS;UTHIEUTH
OSIOS;PSANGCIEUC;TKIYEOK;TPIEUP;TSIOS;TTIKEUT;OTHIEUTH;PIKEUT;OU;OWA;QE;PE;QO;PI;OYA;QE;PE;QO;PI;PO
PU;AIDEOGRAPHIC COMMA;MFULL STOP;AKATAKANA LETTER A;QE;QHA;RE;RI;RO;RU;QI;QKA;RE;RI;RO;RU;QMA;RE;RI
RO;RU;QN;RA;RE;RI;RO;RU;QO;QRA;RE;RI;RO;RU;QSA;RE;RI;RMALL A;WE;WI;WO;WTU;WU;WYA;XO;XU;RO;RU;QTA;RE
RI;RO;RU;QU;QWA;RO;QYA;RO;RU;JMIDDLE DOT;JSEMI-VOICED SOUND MARK;JVOICED SOUND MARK
I-HIRAGANA PROLONGED SOUND MARK;ALEFT CORNER BRACKET;EWARDS ARROW;ARIGHT CORNER BRACKET
FWARDS ARROW;AUPWARDS ARROW;AWHITE CIRCLE;2MBURGER;3MER;6 AND PICK;BSICKLE;BWRENCH;3SA;4TER FACE
2ND WITH INDEX AND MIDDLE FINGERS CROSSED;GFINGER AND THUMB CROSSED;4BAG;6LL;4SHAKE
3GUL CHOSEONG CEONGCHIEUMCHIEUCH;SIEUC;RSIOS;SSANGCIEUC;WSIOS;HHIEUCH;N-HIEUH;OKHIEUKH
JTUEUMCHIEUCH;PIEUC;OSIOS;PSANGCIEUC;TSIOS;HIEUC;L-IEUNG;GFILLER;GHIEUH;L-SIOS;GIEUNG;L-CHIEUCH
NIEUC;MHIEUH;MKIYEOK;MMIEUM;MPANSIOS;NHIEUPH;NIEUP;MRIEUL;MSIOS;MTHIEUTH;NIKEUT;GKAPYEOUNMIEUM
OPHIEUPH;PIEUP;ORIEUL;OSSANGPIEUP;HHIEUKH;HIYEOK;M-TIKEUT;GMIEUM;L-KIYEOK;MPIEUP;MSIOS;MTIKEUT
GNIEUN;L-CIEUC;MHIEUH;MKIYEOK;MPIEUP;MSIOS;MTIKEUT;GPANSIOS;HHIEUPH;N-HIEUH;OPIEUP;HIEUP;L-CHIEUCH
NIEUC;MHIEUH;MKHIEUKH;NIYEOK;MNIEUN;MPHIEUPH;MSIOS;Q-CIEUC;RKIYEOK;RPIEUP;RTHIEUTH;SIKEUT;NSANGSIOS
MTHIEUTH;NIKEUT;GRIEUL;L-CIEUC;MHIEUH;MKAPYEOUNPIEUP;NHIEUKH;NIYEOK;MMIEUM;MNIEUN;MPIEUP;MSIOS
NSANGKIYEOK;RPIEUP;RTIKEUT;MTIKEUT;GSIOS;K-CHIEUCH;MIEUC;LHIEUH;LIEUNG;LKHIEUKH;MIYEOK;LMIEUM
LNIEUN;LPHIEUPH;MIEUP;Q-KIYEOK;LRIEUL;LSSANGSIOS;LTHIEUTH;MIKEUT;HSANGCIEUC;Q-HIEUH;LHIEUH;LIEUNG
LKIYEOK;LNIEUN;LPIEUP;LRIEUL;LSIOS;P-PIEUP;LTHIEUTH;MIKEUT;LYEORINHIEUH;GTHIEUTH;HIKEUT;M-CIEUC
NKIYEOK;NMIEUM;NPIEUP;NRIEUL;NSIOS;GYEORINHIEUH;ISIEUNG;7DOUBLE DOT TONE MARK;7FILLER
7JONGSEONG CHIEUCH;IIEUC;M-PIEUP;NSSANGPIEUP;HHIEUH;M-MIEUM;NNIEUN;NPIEUP;NRIEUL;HIEUNG;M-KHIEUKH
OIYEOK;NSSANGKIYEOK;HKAPYEOUNMIEUM;PPHIEUPH;QIEUP;PRIEUL;IHIEUKH;IIYEOK;N-CHIEUCH;OHIEUH;OKHIEUKH
ONIEUN;OPIEUP;ORIEUL;OSIOS;S-KIYEOK;HMIEUM;M-CHIEUCH;OIEUC;NHIEUH;NKIYEOK;NNIEUN;NPANSIOS;OIEUP
S-SIOS;NRIEUL;NSIOS;OSANGNIEUN;SSIOS;HNIEUN;M-CHIEUCH;OIEUC;NHIEUH;NKIYEOK;NPANSIOS;NRIEUL;NSIOS
NTHIEUTH;OIKEUT;HPANSIOS;O-KAPYEOUNPIEUP;PPIEUP;IHIEUPH;O-PIEUP;PSIOS;PTHIEUTH;IIEUP;M-CHIEUCH
OIEUC;NHIEUH;NMIEUM;NPHIEUPH;NRIEUL;S-PHIEUPH;NSIOS;R-TIKEUT;NTIKEUT;HRIEUL;M-HIEUH;NKAPYEOUNPIEUP
OHIEUKH;OIYEOK;T-HIEUH;USIOS;NMIEUM;S-HIEUH;TKIYEOK;TSIOS;NNIEUN;NPANSIOS;OHIEUPH;OIEUP;S-HIEUH
TPHIEUPH;TSIOS;TTIKEUT;NSIOS;OSANGKIYEOK;SSIOS;NTHIEUTH;OIKEUT;T-HIEUH;NYEORINHIEUH;Y-HIEUH;PSIEUNG
HSIOS;L-CHIEUCH;NIEUC;MHIEUH;MKAPYEOUNPIEUP;NIYEOK;MMIEUM;MPANSIOS;NIEUP;MRIEUL;MTHIEUTH;NIKEUT
ISANGCIEUC;MIEUNG;MKIYEOK;MMIEUM;MNIEUN;MPIEUP;MRIEUL;R-KHIEUKH;MSIOS;Q-KIYEOK;RTIKEUT;MTIKEUT
S-PIEUP;MYESIEUNG;HTHIEUTH;IIKEUT;N-CHIEUCH;PIEUC;OKIYEOK;OPIEUP;ORIEUL;OSIOS;S-KIYEOK;OTHIEUTH
HYEORINHIEUH;JSIEUNG;P-HIEUH;QKHIEUKH;RIYEOK;QMIEUM;QPANSIOS;QSIOS;RSANGKIYEOK;8UNGSEONG A;I-EU;JO
JU;IE;IRAEA;M-A;NE;OO;NI;NU;HE;IO;J-EU;KO;KU;IU;J-A;KE;LO;LU;KO;KU;HFILLER;HI;I-A;KRAEA;JEU;JI;JO
K-I;JU;JYA;L-O;LE;KE;LO;KO;KU;HO;I-E;KO;JO;K-I;JU;JYA;LE;KE;LO;IE;HSSANGARAEA;HU;I-A;KE;JEO-EU;JI-I
JU;JYE;LO;HWA;JE;IE;JO;II;HYA;J-O;KU;KYO;JE;IE;JO;K-O;LU;LYA;II;J-U;IO;J-A;LE;KEO;KI;KO;KYA;ME;LEO
IU;J-A;LE;KE;LO;KI;KO;KU;KYE;MO;7LETTER A;FE;FRAEA;JE;ECHIEUCH;FIEUC;EE;FO;FU;EHIEUH;EI;FEUNG
EKAPYEOUNMIEUM;MPHIEUPH;NIEUP;MSSANGPIEUP;FHIEUKH;FIYEOK;K-SIOS;EMIEUM;J-PANSIOS;LIEUP;KSIOS;ENIEUN
J-CIEUC;KHIEUH;KPANSIOS;KSIOS;KTIKEUT;EO;FE;EPANSIOS;FHIEUPH;FIEUP;J-CIEUC;KKIYEOK;KSIOS;O-KIYEOK
PTIKEUT;KTHIEUTH;LIKEUT;ERIEUL;J-HIEUH;KKIYEOK;Q-SIOS;KMIEUM;KPANSIOS;LHIEUPH;LIEUP;P-SIOS;KSIOS
KTHIEUTH;LIKEUT;KYEORINHIEUH;ESIOS;I-CIEUC;JKIYEOK;JNIEUN;JPIEUP;JTIKEUT;FSANGCIEUC;JHIEUH;JIEUNG
JKIYEOK;JNIEUN;JPIEUP;JSIOS;JTIKEUT;ETHIEUTH;FIKEUT;EU;EWA;GE;FE;GO;FI;EYA;GE;FE;GO;HRINHIEUH
GSIEUNG;M-PANSIOS;NSIOS;FI;FO;G-I;HYA;JE;FU;G-I;HYE;JO;7SINGLE DOT TONE MARK;4ZHOU NUMERAL EIGHT
HFIVE;IOUR;HNINE;HONE;HSEVEN;IIX;HTEN;IHIRTY;JREE;IWENTY;JO;3IFI ROHINGYA DIGIT EIGHT;MFIVE;NOUR
MNINE;MONE;MSEVEN;NIX;MTHREE;NWO;MZERO;GLETTER A;NBA;NCA;NDA;ODA;NFA;NGA;NHA;NJA;NKA;OHA;OINNA WA
TYA;NLA;NMA;NNA;OGA;OYA;NPA;NRA;ORA;NSA;OHA;NTA;OTA;NVA;NWA;NYA;NZA;GMARK NA KHONNA;LSAKIN
GSIGN HARBAHAY;LTAHALA;NNA;NSSI;GVOWEL A;ME;MI;MO;MU;3UNOO LETTER A;FBA;FDA;FGA;FHA;FI;FKA;FLA;FMA
FNA;GGA;FPA;FRA;FSA;FTA;FU;FWA;FYA;8SIGN PAMUDPOD;8VOWEL SIGN I;JU;2PPY PERSON RAISING ONE HAND
2RD DISK;2TCHING CHICK;3RAN LETTER ALEPH;FYN;EBETH;EDALETH-RESH;EGIMEL;EHE;GTH;EKAPH;ELAMEDH;EMEM
ENUN;EPE;EQOPH;ESADHE;GMEKH;FHIN;ETAW;FETH;EWAW;EYODH;EZAYN;7NUMBER FIVE;EONE;H HUNDRED;ETEN;FWENTY
1EADPHONE;4STONE;9 GRAVEYARD SYMBOL;3R-NO-EVIL MONKEY;4T DECORATION;6HANDS;6WITH ARROW;BRIBBON
BTIP ON THE LEFT;3VY AMPERSAND ORNAMENT;7RROW SHAFT WIDTH ONE;R HALF;STHIRD;OTWO THIRDS;7STERISK
6BALLOT X;7LACK CURVED DOWNWARDS AND RIGHTWARDS ARROW;JUPWARDS AND RIGHTWARDS ARROW;CHEART
B-FEATHERED NORTH EAST ARROW;MRIGHTWARDS ARROW;MSOUTH EAST ARROW;6CHECK MARK;9VRON SNOWFLAKE;7IRCLE
C WITH CIRCLE INSIDE;ISTROKE AND TWO DOTS ABOVE;CD SALTIRE;7ONCAVE-POINTED BLACK RIGHTWARDS ARROW
6DASHED TRIANGLE-HEADED RIGHTWARDS ARROW;7IVISION SIGN;7OLLAR SIGN
8UBLE COMMA QUOTATION MARK ORNAMENT;DTURNED COMMA QUOTATION MARK ORNAMENT
8WNWARDS ARROW WITH EQUILATERAL ARROWHEAD;RLARGE EQUILATERAL ARROWHEAD;6EIGHT POINTED BLACK STAR
KPINWHEEL STAR;KRECTILINEAR BLACK STAR;CSPOKED ASTERISK;CTEARDROP-SPOKED PROPELLER ASTERISK
7QUALS SIGN;7XCLAMATION MARK ORNAMENT;NSYMBOL;6FIVE POINTED BLACK STAR;BSPOKED ASTERISK
7OUR BALLOON-SPOKED ASTERISK;6GREEK CROSS;6HEART EXCLAMATION MARK ORNAMENT;7ORIZONTAL FILL
6INTERROBANG ORNAMENT;6LARGE CIRCLE;8TIN CROSS;7EFT-POINTING ANGLE BRACKET ORNAMENT
QQUOTATION MARK ORNAMENT;AWARDS ARROW WITH EQUILATERAL ARROWHEAD;RLARGE EQUILATERAL ARROWHEAD
7IGATURE OPEN ET ORNAMENT;7OW DOUBLE COMMA QUOTATION MARK ORNAMENT
ASINGLE COMMA QUOTATION MARK ORNAMENT;9ER RIGHT-SHADOWED WHITE RIGHTWARDS ARROW;6MINUS SIGN
7ULTIPLICATION X;6NORTH EAST ARROW;HPOINTING BUD;QVINE LEAF;CWEST POINTING BUD;QVINE LEAF
6OPEN CENTRE CROSS;7UTLINED BLACK STAR;7VAL WITH OVAL INSIDE;6PLUS SIGN
6RIGHT-POINTING ANGLE BRACKET ORNAMENT;RQUOTATION MARK ORNAMENT;BWARDS ARROW
M WITH EQUILATERAL ARROWHEAD;SLARGE EQUILATERAL ARROWHEAD;7OUND-TIPPED RIGHTWARDS ARROW;6SALTIRE
8NS-SERIF INTERROBANG ORNAMENT;7CRIPT LIGATURE ET ORNAMENT;7INGLE COMMA QUOTATION MARK ORNAMENT
DTURNED COMMA QUOTATION MARK ORNAMENT;8X POINTED BLACK STAR;ASPOKED ASTERISK;7OUTH EAST ARROW
HPOINTING BUD;QVINE LEAF;CWEST POINTING BUD;QVINE LEAF;7PARKLE;6TEARDROP-SHANKED RIGHTWARDS ARROW
GPOKED ASTERISK;MPINWHEEL ASTERISK;7RIANGLE-HEADED RIGHTWARDS ARROW;7WELVE POINTED BLACK STAR
LPINWHEEL STAR;6UPPER RIGHT-SHADOWED WHITE RIGHTWARDS ARROW;8WARDS ARROW WITH EQUILATERAL ARROWHEAD
PLARGE EQUILATERAL ARROWHEAD;6VERTICAL BAR;6WEDGE-TAILED RIGHTWARDS ARROW;7HITE CIRCLE
CDOWN-POINTING TRIANGLE;CSQUARE;7IDE-HEADED RIGHTWARDS ARROW;2BREW ACCENT ATNAH HAFUKH;EDARGA;FEHI
EETNAHTA;EGERESH;K MUQDAM;HSHAYIM;EILUY;EMAHAPAKH;FERKHA;K KEFULA;FUNAH;EOLE;EPASHTA;GZER;EQADMA
GRNEY PARA;EREVIA;ESEGOL;FHALSHELET;ETELISHA GEDOLA;MQETANA;GVIR;FIPEHA;EYERAH BEN YOMO;GTIV
EZAQEF GADOL;KQATAN;GRQA;FINOR;7LETTER ALEF;I WITH MAPIQ;OPATAH;OQAMATS;GTERNATIVE AYIN;QPLUS SIGN
FYIN;EBET;H WITH DAGESH;NRAFE;EDALET;J WITH DAGESH;EFINAL KAF;N WITH DAGESH;KMEM;KNUN;KPE
M WITH DAGESH;KTSADI;EGIMEL;J WITH DAGESH;EHE;G WITH MAPIQ;GT;EKAF;H WITH DAGESH;NRAFE;ELAMED
J WITH DAGESH;EMEM;H WITH DAGESH;ENUN;H WITH DAGESH;EPE;G WITH DAGESH;MRAFE;EQOF;H WITH DAGESH
ERESH;I WITH DAGESH;ESAMEKH;K WITH DAGESH;FHIN;I WITH DAGESH;U AND SHIN DOT;aIN DOT;OSHIN DOT
PIN DOT;ETAV;H WITH DAGESH;FET;H WITH DAGESH;FSADI;J WITH DAGESH;EVAV;H WITH DAGESH;NHOLAM
EWIDE ALEF;JDALET;JFINAL MEM;JHE;JKAF;JLAMED;JRESH;JTAV;EYOD;H WITH DAGESH;NHIRIQ;EZAYIN
J WITH DAGESH;8IGATURE ALEF LAMED;GYIDDISH DOUBLE VAV;VYOD;OVAV YOD;OYOD YOD PATAH;7MARK LOWER DOT
CMASORA CIRCLE;CUPPER DOT;7POINT DAGESH OR MAPIQ;DHATAF PATAH;JQAMATS;JSEGOL;EIRIQ;EOLAM
I HASER FOR VAV;DJUDEO-SPANISH VARIKA;DMETEG;DPATAH;DQAMATS;J QATAN;EUBUTS;DRAFE;DSEGOL;EHEVA
FIN DOT;EIN DOT;DTSERE;8UNCTUATION GERESH;MSHAYIM;JMAQAF;JNUN HAFUKHA;JPASEQ;JSOF PASUQ
7YOD TRIANGLE;2DGEHOG;2LICOPTER;3LSCHREIBER PAUSE SYMBOL;3M SYMBOL;4ET WITH WHITE CROSS
2NTAIGANA LETTER A-1;K2;K3;KWO;IE-1;K2;K3;K4;K5;K6;IHA-1;M0;M1;L2;L3;L4;L5;L6;L7;L8;L9;JE-1;L2;L3
L4;L5;L6;L7;JI-1;L2;L3;L4;L5;L6;L7;JO-1;L2;L3;L4;L5;L6;L7;L8;JU-1;L2;L3;II-1;K2;K3;K4;IKA-1;M0;M1
L2;L3;L4;L5;L6;L7;L8;L9;LKE;JE-1;L2;L3;L4;L5;L6;JI-1;L2;L3;L4;L5;L6;L7;L8;JO-1;L2;L3;LKI;JU-1;L2;L3
L4;L5;L6;L7;IMA-1;L2;L3;L4;L5;L6;L7;JE-1;L2;LMA;JI-1;L2;L3;L4;L5;L6;L7;JO-1;L2;L3;L4;L5;L6;JU-1;L2
L3;L4;IN-MU-MO-1;Q2;JA-1;L2;L3;L4;L5;L6;L7;L8;L9;JE-1;L2;L3;L4;L5;L6;LKO;JI-1;L2;L3;L4;L5;L6;L7;LTE
JO-1;L2;L3;L4;L5;JU-1;L2;L3;IO-1;K2;K3;IRA-1;L2;L3;L4;JE-1;L2;L3;L4;JI-1;L2;L3;L4;L5;L6;L7;JO-1;L2
L3;L4;L5;L6;JU-1;L2;L3;L4;L5;L6;ISA-1;L2;L3;L4;L5;L6;L7;L8;JE-1;L2;L3;L4;L5;JI-1;L2;L3;L4;L5;L6
JO-1;L2;L3;L4;L5;L6;L7;JU-1;L2;L3;L4;L5;L6;L7;L8;ITA-1;L2;L3;L4;JE-1;L2;L3;L4;L5;L6;L7;L8;L9;JI-1
L2;L3;L4;L5;L6;L7;JO-1;L2;L3;L4;L5;L6;LRA;JU-1;L2;L3;L4;LTO;IU-1;K2;K3;K4;K5;IWA-1;L2;L3;L4;L5;JE-1
L2;L3;L4;JI-1;L2;L3;L4;L5;JO-1;L2;L3;L4;L5;L6;L7;IYA-1;L2;L3;L4;L5;LYO;JO-1;L2;L3;L4;L5;L6;JU-1;L2
L3;L4;2RB;3MITIAN CONJUGATE MATRIX;2XAGRAM FOR ABUNDANCE;EFTER COMPLETION;EPPROACH
DBEFORE COMPLETION;EITING THROUGH;EREAKTHROUGH;DCOMING TO MEET;FNFLICT;GTEMPLATION
DDARKENING OF THE LIGHT;EECREASE;FLIVERANCE;FVELOPMENT;EIFFICULTY AT THE BEGINNING;FSPERSION
EURATION;DENTHUSIASM;DFELLOWSHIP;EOLLOWING;DGATHERING TOGETHER;ERACE;FEAT POSSESSION;LWER
KREPONDERANCE;JTAMING;DHOLDING TOGETHER;DINCREASE;FFLUENCE;FNER TRUTH;GOCENCE;DLIMITATION;DMODESTY
FUTH CORNERS;DOBSTRUCTION;EPPOSITION;GRESSION;DPEACE;EROGRESS;EUSHING UPWARD;DRETREAT;GURN
FVOLUTION;DSMALL PREPONDERANCE;JTAMING;EPLITTING APART;ETANDSTILL;DTHE ABYSMAL WATER;IRMY
JOUSING THUNDER;HCAULDRON;ILINGING FIRE;IREATIVE HEAVEN;HFAMILY;HGENTLE WIND;HJOYOUS LAKE
HKEEPING STILL MOUNTAIN;HMARRYING MAIDEN;HRECEPTIVE EARTH;HWANDERER;IELL;EREADING;DWAITING
EORK ON THE DECAYED;DYOUTHFUL FOLLY;1IBISCUS;2GH BRIGHTNESS SYMBOL;5OCTET PRESET;5VOLTAGE SIGN
4-HEELED SHOE;5SPEED TRAIN;G WITH BULLET NOSE;2KING BOOT;2NDU TEMPLE;2PPOPOTAMUS
2RAGANA DIGRAPH YORI;9ITERATION MARK;9LETTER A;HRCHAIC WU;OYE;GBA;HE;HI;HO;HU;GDA;HE;HI;HO;HU;GE
GGA;HE;HI;HO;HU;GHA;HE;HI;HO;HU;GI;GKA;HE;HI;HO;HU;GMA;HE;HI;HO;HU;GN;HA;HE;HI;HO;HU;GO;GPA;HE;HI
HO;HU;GRA;HE;HI;HO;HU;GSA;HE;HI;HMALL A;ME;MI;MKA;NE;MO;MTU;MU;MWA;NE;NI;NO;MYA;NO;NU;HO;HU;GTA;HE
HI;HO;HU;GU;GVU;GWA;HE;HI;HO;GYA;HO;HU;GZA;HE;HI;HO;HU;9VOICED ITERATION MARK;2STORIC SITE;1OCHO
2LE;3LOW QUILT SQUARE ORNAMENT;S IN BLACK SQUARE;2MOTHETIC;2NEY POT;5BEE;2OK;2P;2RIZONTAL BAR
CLACK HEXAGON;HOCTAGON;BELLIPSIS;BLINE EXTENSION;BMALE WITH STROKE SIGN;BONE EIGHTH BLOCK-1358;S2
S3;S4;S5;S6;S7;BSCAN LINE-1;L3;L7;L9;BTAB KEY;EULATION;L SET;MWITH JUSTIFICATION;CRAFFIC LIGHT;3SE
5 FACE;6RACING;2SPITAL;2T BEVERAGE;4DOG;4PEPPER;4SPRINGS;3EL;2URGLASS;9 WITH FLOWING SAND;3SE
5 BUILDING;ES;6WITH GARDEN;1RYVNIA SIGN;1T;2J;2S;1UGGING FACE;2NDRED POINTS SYMBOL;2SHED FACE;2T
1YGIEA;2PHEN;6 BULLET;7WITH DIAERESIS;6-MINUS;6ATION POINT;3ODIASTOLE;2STERESIS SYMBOL
0I LOVE YOU HAND SIGN;1CE CREAM;5UBE;4HOCKEY STICK AND PUCK;4SKATE;1DENTICAL TO
C AND SLANTED PARALLEL;AWITH DOT ABOVE;6FICATION CARD;3OGRAPHIC ANNOTATION BOTTOM MARK;NEARTH MARK
NFIRST MARK;OOUR MARK;RTH MARK;NHEAVEN MARK;NLINKING MARK;NMAN MARK;OIDDLE MARK;NONE MARK
NREVERSE MARK;NSECOND MARK;NTHIRD MARK;PREE MARK;OOP MARK;OWO MARK;CCLOSING MARK;DOMMA
CDEPARTING TONE MARK;ESCRIPTION CHARACTER ABOVE TO BELOW;hMIDDLE AND BELOW;YFULL SURROUND
YLEFT TO MIDDLE AND RIGHT;gRIGHT;YOVERLAID;YSURROUND FROM ABOVE;mBELOW;mLEFT;nOWER LEFT;mUPPER LEFT
sRIGHT;CENTERING TONE MARK;CFULL STOP;CHALF FILL SPACE;CITERATION MARK;CLEVEL TONE MARK
CNUMBER ZERO;CRISING TONE MARK;CSPACE;CTALLY MARK FIVE;OOUR;NONE;NTHREE;OWO
DELEGRAPH LINE FEED SEPARATOR SYMBOL;MSYMBOL FOR APRIL;YUGUST;XDAY EIGHT;gEEN;cLEVEN;bFIFTEEN;dVE
cOUR;fTEEN;bNINE;fTEEN;bONE;bSEVEN;gTEEN;cIX;eTEEN;bTEN;cHIRTEEN;gY;h-ONE;dREE;cWELVE;eNTY;h-EIGHT
iFIVE;jOUR;iNINE;iONE;iSEVEN;jIX;iTHREE;jWO;dO;YECEMBER;XFEBRUARY;XHOUR EIGHT;hEEN;dLEVEN;cFIFTEEN
eVE;dOUR;gTEEN;cNINE;gTEEN;cONE;cSEVEN;hTEEN;dIX;fTEEN;cTEN;dHIRTEEN;eREE;dWELVE;fNTY;i-FOUR;jONE
jTHREE;kWO;eO;cZERO;XJANUARY;YULY;ZNE;XMARCH;ZY;XNOVEMBER;XOCTOBER;XSEPTEMBER;CVARIATION INDICATOR
1MAGE OF;8 OR APPROXIMATELY EQUAL TO;2P;3ERIAL ARAMAIC LETTER ALEPH;PYIN;OBETH;ODALETH;OGIMEL;OHE
QTH;OKAPH;OLAMEDH;OMEM;ONUN;OPE;OQOPH;ORESH;OSADHE;QMEKH;PHIN;OTAW;PETH;OWAW;OYODH;OZAYIN
HNUMBER ONE;R HUNDRED;STHOUSAND;OTEN;R THOUSAND;PHREE;PWENTY;QO;HSECTION SIGN;1NBOX TRAY
2COMING ENVELOPE;5PLETE INFINITY;3REASE FONT SIZE SYMBOL;8S AS;5MENT;2D;3EX
5 POINTING AT THE VIEWER;3IAN RUPEE SIGN;4C SIYAQ ALTERNATE LAKH MARK;CFRACTION ONE HALF;PQUARTER
LTHREE QUARTERS;CLAKH MARK;CNUMBER ALTERNATE ONE;TTEN THOUSAND;UWO;JEIGHT;O HUNDRED;PTHOUSAND;OY
P THOUSAND;JFIFTY;O THOUSAND;LVE;N HUNDRED;OTHOUSAND;KORTY;O THOUSAND;LUR;N HUNDRED;OTHOUSAND
JKAROR;OAN;JLAKH;NAN;JNINE;N HUNDRED;OTHOUSAND;NTY;P THOUSAND;JONE;M HUNDRED;NTHOUSAND
JPREFIXED EIGHT;SFIVE;TOUR;SNINE;SONE;SSEVEN;TIX;STHREE;TWO;JSEVEN;O HUNDRED;PTHOUSAND;OTY
Q THOUSAND;KIX;M HUNDRED;NTHOUSAND;MTY;O THOUSAND;JTEN;M THOUSAND;KHIRTY;P THOUSAND;LREE;O HUNDRED
PTHOUSAND;KWENTY;P THOUSAND;LO;M HUNDRED;NTHOUSAND;CPLACEHOLDER;CRUPEE MARK;2FINITY
8 NEGATED WITH VERTICAL BAR;3ORMATION DESK PERSON;CSEPARATOR FOUR;MONE;MTHREE;NWO;DOURCE
2HIBIT ARABIC FORM SHAPING;8SYMMETRIC SWAPPING;2PUT SYMBOL FOR LATIN CAPITAL LETTERS;NLETTERS
NSMALL LETTERS;HNUMBERS;HSYMBOLS;2SCRIPTIONAL PAHLAVI LETTER ALEPH;TBETH;TDALETH;TGIMEL;THE;VTH
TKAPH;TLAMEDH;TMEM-QOPH;TNUN;TPE;TSADHE;VMEKH;UHIN;TTAW;UETH;TWAW-AYIN-RESH;TYODH;TZAYIN
MNUMBER FOUR;TONE;W HUNDRED;XTHOUSAND;TTEN;UHREE;UWENTY;VO;GRTHIAN LETTER ALEPH;VYIN;UBETH;UDALETH
UGIMEL;UHE;WTH;UKAPH;ULAMEDH;UMEM;UNUN;UPE;UQOPH;URESH;USADHE;WMEKH;VHIN;UTAW;VETH;UWAW;UYODH
UZAYIN;NNUMBER FOUR;UONE;X HUNDRED;YTHOUSAND;UTEN;VHREE;VWENTY;WO;3ERTION SYMBOL;2TEGRAL
8 AROUND A POINT OPERATOR;AVERAGE WITH SLASH;9EXTENSION;9WITH DOUBLE STROKE;EINTERSECTION
ELEFTWARDS ARROW WITH HOOK;EOVERBAR;ETIMES SIGN;EUNDERBAR;GION;4RCALATE;5IOR PRODUCT
5LINEAR ANNOTATION ANCHOR;NSEPARATOR;NTERMINATOR;6OCKED FEMALE AND MALE SIGN;5ROBANG;5SECTION
C ABOVE BAR ABOVE UNION;JUNION;DBESIDE AND JOINED WITH INTERSECTION;DWITH DOT;ILOGICAL AND;IOVERBAR
2VERSE BULLET;8CHECK MARK;DER BOARD FILL;8DOWNWARDS ARROW WITH TIP LEFTWARDS;8MEDIUM SHADE
8WHITE CIRCLE;5TED EXCLAMATION MARK;9INTERROBANG;9LAZY S;AOW KAVYKA;J WITH KAVYKA ABOVE;9OHM SIGN
9PENTAGRAM;9QUESTION MARK;9UNDERTIE;3ISIBLE PLUS;ASEPARATOR;ATIMES;1ZAKAYA LANTERN;0JACK-O-LANTERN
2PANESE BANK SYMBOL;9CASTLE;9DOLLS;9GOBLIN;9INDUSTRIAL STANDARD SYMBOL;9OGRE;9POST OFFICE
9SYMBOL FOR BEGINNER;2R;2VANESE CONSONANT SIGN CAKRA;OKERET;OPENGKAL;9DIGIT EIGHT;FFIVE;GOUR;FNINE
FONE;FSEVEN;GIX;FTHREE;GWO;FZERO;9LEFT RERENGGAN;BTTER A;HI;GBA;I MURDA;GCA;I MURDA;GDA;I MAHAPRANA
HDA;J MAHAPRANA;GE;GGA;I MURDA;GHA;GI;H KAWI;HI;GJA;I MAHAPRANA;GKA;I MURDA;JSASAK;GLA;GMA;GNA
I MURDA;HGA;J LELET;P RASWADI;HYA;J MURDA;GO;GPA;I CEREK;JMURDA;GRA;I AGUNG;GSA;I MAHAPRANA;KURDA
GTA;I MURDA;HTA;J MAHAPRANA;GU;GWA;GYA;9PADA ADEG;I ADEG;FNDAP;EISEN-ISEN;ELINGSA;FUHUR;GNGSI
EMADYA;EPANGKAT;FISELEH;ETIRTA TUMETES;EWINDU;BNGKON;DRANGKEP;9RIGHT RERENGGAN;9SIGN CECAK;J TELU
ELAYAR;EPANYANGGA;EWIGNYAN;9TURNED PADA PISELEH;9VOWEL SIGN DIRGA MURE;KPEPET;KSUKU;O MENDUT
KTALING;MRUNG;LOLONG;KWULU;O MELIK;1EANS;1IGSAW PUZZLE PIECE;1OIN;2YSTICK;1UGGLING;2NO;2PITER
0KAABA;2ITHI ABBREVIATION SIGN;7DANDA;8OUBLE DANDA;ESECTION MARK;7ENUMERATION SIGN;7LETTER A;FA;FI
FU;EBA;FHA;ECA;FHA;EDA;FDA;GDHA;GHA;FHA;EE;EGA;FHA;EHA;EI;FI;EJA;FHA;EKA;FHA;ELA;EMA;ENA;FGA;FNA
FYA;EO;EPA;FHA;ERA;FHA;ESA;FHA;FSA;ETA;FHA;FTA;GHA;EU;FU;EVA;EYA;7NUMBER SIGN;I ABOVE;7SECTION MARK
8IGN ANUSVARA;CCANDRABINDU;CNUKTA;CVIRAMA;ESARGA;7VOWEL SIGN AA;JI;JU;IE;II;JI;IO;IU;JU;IVOCALIC R
2NGAROO;4XI RADICAL AGAIN;GND;GRRIVE;IOW;GXE;FBADGER;HMBOO;GEAN;GIG;HRD;HTTER;GLACK;HOOD;HUE;GOAT
HDY;HLT OF CLOTH;HNE;HW;GRANCH;HISTLE;HUSH;FCART;HULDRON;HVE;GHILD;GITY;GLAN;IW;HIFF;HOTHES;GOLOR
HMPARE;HRPSE;HVER;HW;FDEATH;HER;GIPPER;HSH;ITINGUISH;HVINATION;GO NOT;HG;HOR;HT;ITED CLIFF;MTENT
HUBLE X;HWN BOX;GRAGON;HUM;HY;FEAR;ITH;HT;GIGHT;GMBROIDERY;GNCLOSURE;HTER;GVEN;JING;GYE;FFACE;HNG
HTHER;GEATHER;GIELD;HGHT;HRE;HSH;GLUTE;HY;GOOT;GRAGRANT;HOG;GUR;FGATE;GHOST;GO;H SLOWLY;HLD;GRAIN
ISS;FHAIR;HLBERD;IF TREE TRUNK;HND;GEAD;IRT;HMP;GIDING ENCLOSURE;GOOK;HRN;ISE;FICE;GNCH;HSECT;FJADE
HR;FKNIFE;FLACK;HME;GEAF;ITHER;HEK;HGS;GID;HFE;HNE;GONG;J STRIDE;FMAN;GEAT;HLON;GILLET;HNISTER;GOON
HRNING;ITAR;HUND;JTAIN;ITH;FNET;GOSE;HT;FOLD;GNE;ISELF;GPEN BOX;HPOSE;FPIG;GLOW;GOWER;GRIVATE
HOFOUND;FRAIN;HP;HT;GED;GICE;HGHT OPEN BOX;HVER;GOOF;GUN;FSACRIFICIAL WINE;HLT;HY;GCHOLAR;HRIPT
GEAL;HCOND;HE;HLF;GHEEP;ILL;HOOT;IRT TAILED BIRD;MHREAD;GICKNESS;HLK;GKIN;GLASH;IVE;HICE;GMALL
GNOUT;GOUND;GPEAR;IECH;HIRIT;HOON;HROUT;GQUARE;GTAND;HEAM;IP;HONE;IP;JPING;GUN;GWEET;FTABLE;HLL
HNNED LEATHER;GEN;GIGER;HLE;GONGUE;HOTH;GRACK;HEE;HIPOD;GURBAN;ITLE;GWO;I HANDS;FUSE;FVALLEY
GILLAGE;FWALK;J ENCLOSURE;HTER;GEAPON;HST;GHEAT;HITE;GIND;IE;GOMAN;HRK;GRAP;HONG;FYELLOW
3NADA AI LENGTH MARK;8DIGIT EIGHT;EFIVE;FOUR;ENINE;EONE;ESEVEN;FIX;ETHREE;FWO;EZERO;8LENGTH MARK
ATTER A;GA;GI;GU;FBA;GHA;FCA;GHA;FDA;GDA;HHA;GHA;FE;GE;FFA;FGA;GHA;FHA;FI;GI;FJA;GHA;FKA;GHA;FLA
GLA;HLA;FMA;FNA;HKAARA POLLU;GGA;GNA;GYA;FO;GO;FPA;GHA;FRA;GRA;FSA;GHA;GSA;FTA;GHA;GTA;HHA;FU;GU
FVA;GOCALIC L;OL;NR;OR;FYA;8SIGN ANUSVARA;EVAGRAHA;DCANDRABINDU;DJIHVAMULIYA;DNUKTA;DSIDDHAM
EPACING CANDRABINDU;DUPADHMANIYA;DVIRAMA;FSARGA;8VOWEL SIGN AA;KI;KU;JE;KE;JI;KI;JO;KO;JU;KU
JVOCALIC L;SL;RR;SR;2TAKANA DIGRAPH KOTO;9ITERATION MARK;9LETTER A;HRCHAIC E;OWU;OYE;PI;GBA;HE;HI
HO;HU;GDA;HE;HI;HO;HU;GE;GGA;HE;HI;HO;HU;GHA;HE;HI;HO;HU;GI;GKA;HE;HI;HO;HU;GMA;HE;HI
INNAN NASALIZED TONE-1;c2;c3;c4;c5;c7;c8;NTONE-2;S3;S4;S5;S7;S8;HO;HU;GN;HA;HE;HI;HO;HU;GO;GPA;HE
HI;HO;HU;GRA;HE;HI;HO;HU;GSA;HE;HI;HMALL A;ME;MHA;NE;NI;NO;NU;MI;MKA;NE;NU;MMU;MN;NU;MO;MRA;NE;NI
NO;NU;MSI;NU;MTO;NU;MU;MWA;NE;NI;NO;MYA;NO;NU;HO;HU;GTA;HE;HI;HO;HU;GU;GVA;HE;HI;HO;HU;GWA;HE;HI;HO
GYA;HO;HU;GZA;HE;HI;HO;HU;9MIDDLE DOT;9VOICED ITERATION MARK;8-HIRAGANA DOUBLE HYPHEN
IPROLONGED SOUND MARK;ISEMI-VOICED SOUND MARK;IVOICED SOUND MARK;2YAH LI DIGIT EIGHT;FFIVE;GOUR
FNINE;FONE;FSEVEN;GIX;FTHREE;GWO;FZERO;9LETTER A;GBA;GCA;GDA;GGA;GHA;HTA;GI;GKA;HHA;GLA;GMA;GNA;HGA
HYA;GOE;HO;GPA;HHA;GRA;GSA;HHA;GTA;HHA;GVA;GWA;GYA;GZA;9SIGN CWI;ESHYA;9TONE CALYA;J PLOPHU;EPLOPHU
9VOWEL E;GE;FO;FU;GE;1ELVIN SIGN;2Y;3BOARD;8 AND MOUSE;3CAP TEN;1HAROSHTHI DIGIT FOUR;HONE;HTHREE
IWO;BFRACTION ONE HALF;BLETTER A;IBA;JHA;ICA;JHA;IDA;JDA;KHA;JHA;IGA;JHA;IHA;IJA;IKA;JHA;JKA;ILA
IMA;INA;JNA;JYA;IPA;JHA;IRA;ISA;JHA;JSA;ITA;JHA;JTA;KHA;KTA;LHA;IVA;JHA;IYA;IZA;BNUMBER ONE HUNDRED
MTHOUSAND;ITEN;JWENTY;BPUNCTUATION CIRCLE;ORESCENT BAR;NDANDA;OOT;PUBLE DANDA;NLINES;OOTUS
NMANGALAM;NSMALL CIRCLE;BSIGN ANUSVARA;GBAR ABOVE;GCAUDA;GDOT BELOW;IUBLE RING BELOW;GVISARGA
BVIRAMA;COWEL LENGTH MARK;HSIGN E;MI;MO;MU;MVOCALIC R;2ITAN SMALL SCRIPT CHARACTER-18B00;Y1;Y2;Y3
Y4;Y5;Y6;Y7;Y8;Y9;YA;YB;YC;YD;YE;YF;X10;Y1;Y2;Y3;Y4;Y5;Y6;Y7;Y8;Y9;YA;YB;YC;YD;YE;YF;X20;Y1;Y2;Y3
Y4;Y5;Y6;Y7;Y8;Y9;YA;YB;YC;YD;YE;YF;X30;Y1;Y2;Y3;Y4;Y5;Y6;Y7;Y8;Y9;YA;YB;YC;YD;YE;YF;X40;Y1;Y2;Y3
Y4;Y5;Y6;Y7;Y8;Y9;YA;YB;YC;YD;YE;YF;X50;Y1;Y2;Y3;Y4;Y5;Y6;Y7;Y8;Y9;YA;YB;YC;YD;YE;YF;X60;Y1;Y2;Y3
Y4;Y5;Y6;Y7;Y8;Y9;YA;YB;YC;YD;YE;YF;X70;Y1;Y2;Y3;Y4;Y5;Y6;Y7;Y8;Y9;YA;YB;YC;YD;YE;YF;X80;Y1;Y2;Y3
Y4;Y5;Y6;Y7;Y8;Y9;YA;YB;YC;YD;YE;YF;X90;Y1;Y2;Y3;Y4;Y5;Y6;Y7;Y8;Y9;YA;YB;YC;YD;YE;YF;XA0;Y1;Y2;Y3
Y4;Y5;Y6;Y7;Y8;Y9;YA;YB;YC;YD;YE;YF;XB0;Y1;Y2;Y3;Y4;Y5;Y6;Y7;Y8;Y9;YA;YB;YC;YD;YE;YF;XC0;Y1;Y2;Y3
Y4;Y5;Y6;Y7;Y8;Y9;YA;YB;YC;YD;YE;YF;XD0;Y1;Y2;Y3;Y4;Y5;Y6;Y7;Y8;Y9;YA;YB;YC;YD;YE;YF;XE0;Y1;Y2;Y3
Y4;Y5;Y6;Y7;Y8;Y9;YA;YB;YC;YD;YE;YF;XF0;Y1;Y2;Y3;Y4;Y5;Y6;Y7;Y8;Y9;YA;YB;YC;YD;YE;YF;WC00;Y1;Y2;Y3
Y4;Y5;Y6;Y7;Y8;Y9;YA;YB;YC;YD;YE;YF;X10;Y1;Y2;Y3;Y4;Y5;Y6;Y7;Y8;Y9;YA;YB;YC;YD;YE;YF;X20;Y1;Y2;Y3
Y4;Y5;Y6;Y7;Y8;Y9;YA;YB;YC;YD;YE;YF;X30;Y1;Y2;Y3;Y4;Y5;Y6;Y7;Y8;Y9;YA;YB;YC;YD;YE;YF;X40;Y1;Y2;Y3
Y4;Y5;Y6;Y7;Y8;Y9;YA;YB;YC;YD;YE;YF;X50;Y1;Y2;Y3;Y4;Y5;Y6;Y7;Y8;Y9;YA;YB;YC;YD;YE;YF;X60;Y1;Y2;Y3
Y4;Y5;Y6;Y7;Y8;Y9;YA;YB;YC;YD;YE;YF;X70;Y1;Y2;Y3;Y4;Y5;Y6;Y7;Y8;Y9;YA;YB;YC;YD;YE;YF;X80;Y1;Y2;Y3
Y4;Y5;Y6;Y7;Y8;Y9;YA;YB;YC;YD;YE;YF;X90;Y1;Y2;Y3;Y4;Y5;Y6;Y7;Y8;Y9;YA;YB;YC;YD;YE;YF;XA0;Y1;Y2;Y3
Y4;Y5;Y6;Y7;Y8;Y9;YA;YB;YC;YD;YE;YF;XB0;Y1;Y2;Y3;Y4;Y5;Y6;Y7;Y8;Y9;YA;YB;YC;YD;YE;YF;XC0;Y1;Y2;Y3
Y4;Y5;Y6;Y7;Y8;Y9;YA;YB;YC;YD;YE;YF;XD0;Y1;Y2;Y3;Y4;Y5;KFILLER;2MER CURRENCY SYMBOL RIEL
6DIGIT EIGHT;CFIVE;DOUR;CNINE;CONE;CSEVEN;DIX;CTHREE;DWO;CZERO;6INDEPENDENT VOWEL LY;QY;OQAA;QI;QQ
QU;PE;PI;QI;POO TYPE ONE;XTWO;PU;QK;QU;RV;ORY;QY;6LETTER BA;DCA;EHA;FO;EO;DDA;EO;DHA;DKA;EHA;FO;EO
DLA;EO;DMO;DNGO;ENO;EO;EYO;DPHA;FO;EO;DQA;DRO;DSA;EHA;ESO;DTA;EHA;FO;EO;ETHA;GO;DVO;DYO;6SIGN AHSDA
CTTHACAN;CVAKRAHASANYA;BBANTOC;DRIYOOSAN;DTHAMASAT;CEYYAL;BCAMNUC PII KUUH;COENG;BKAKABAT;CHAN
COOMUUT;BLEK TOO;BMUUSIKATOAN;BNIKAHIT;BPHNAEK MUAN;BREAHMUK;COBAT;BSAMYOK SANNYA;BTOANDAKHIAT
CRIISAP;BVIRIAM;BYUUKALEAPINTU;7YMBOL BEI KOET;HROC;EUON KOET;IROC;DDAP KOET;HROC;G-BEI KOET;LROC
IUON KOET;MROC;HMUOY KOET;MROC;HPII KOET;LROC;IRAM KOET;MROC;DLEK ATTAK BEI;OUON;NMUOY;NPII;ORAM
R-BEI;TUON;SMUOY;SPII;NSON;DMUOY KOET;IROC;DPATHAMASAT;EII KOET;HROC;ERAM KOET;IROC;H-BEI KOET;MROC
JUON KOET;NROC;IMUOY KOET;NROC;IPII KOET;MROC;DTUTEYASAT;6VOWEL INHERENT AA;MQ;CSIGN AA;IE;II;IU;HE
HI;IE;II;HOE;IO;HU;IA;IU;HY;IA;IY;2OJKI ABBREVIATION SIGN;7DANDA;8OUBLE DANDA;ESECTION MARK
7LETTER A;FA;FI;FU;EBA;FBA;FHA;ECA;FHA;EDA;FDA;GDA;GHA;FHA;EE;EGA;FGA;FHA;EHA;EI;EJA;FJA;EKA;FHA
ELA;FLA;EMA;ENA;FGA;FNA;FYA;EO;EPA;FHA;ERA;ESA;ETA;FHA;FTA;GHA;EU;EVA;EYA;7SECTION MARK
8IGN ANUSVARA;CNUKTA;CSHADDA;DUKUN;CVIRAMA;7VOWEL SIGN AA;JI;JU;IE;II;JI;IO;IU;7WORD SEPARATOR
2UDAWADI DIGIT EIGHT;GFIVE;HOUR;GNINE;GONE;GSEVEN;HIX;GTHREE;HWO;GZERO;ALETTER A;IA;II;IU;HBA;IBA
IHA;HCA;IHA;HDA;IDA;JDA;JHA;IHA;HE;HGA;IGA;IHA;HHA;HI;II;HJA;IHA;IJA;HKA;IHA;HLA;HMA;HNA;IGA;INA
IYA;HO;HPA;IHA;HRA;IRA;HSA;IHA;HTA;IHA;ITA;JHA;HU;IU;HVA;HYA;ASIGN ANUSVARA;FNUKTA;FVIRAMA
AVOWEL SIGN AA;MI;MU;LE;LI;MI;LO;LU;MU;1IMONO;2P SIGN;2SS;4 MARK;4ING CAT FACE WITH CLOSED EYES
8FACE;C WITH CLOSED EYES;ISMILING EYES;2TE;2WIFRUIT;1NEELING PERSON;2OT;1OALA;2REAN STANDARD SYMBOL
1RONOS;0L B BAR SYMBOL;1AB COAT;3EL;2CROSSE STICK AND BALL;2DDER;3Y BEETLE;2NGUAGE TAG
2O CANCELLATION MARK;4DIGIT EIGHT;AFIVE;BOUR;ANINE;AONE;ASEVEN;BIX;ATHREE;BWO;AZERO;4ELLIPSIS
4HO MO;7NO;4KO LA;4LETTER BO;BCO;BDO;BFO FAY;FON;ESUNG;ETAM;BHO SUNG;ETAM;BKHMU GO;GNYO;DO SUNG
FTAM;CO;BLO;D LING;FOOT;BMO;BNGO;CO;CYO;BO;BPALI BHA;GCHA;GDDA;IHA;HHA;GGHA;GJHA;GLLA;GNNA;HYA;GTTA
IHA;CHO SUNG;FTAM;CO;BRO;BSANSKRIT SHA;LSA;CO SUNG;ETAM;BTHO SUNG;FTAM;CO;BWO;BYO;4NIGGAHITA
4SEMIVOWEL SIGN LO;JNYO;5IGN PALI VIRAMA;4TONE MAI CATAWA;DEK;DTHO;EI;4VOWEL SIGN A;GA;GI;GM;GY;FE
GI;FI;GI;FMAI KAN;KON;FO;FU;GU;FY;GY;2RGE BLUE CIRCLE;BDIAMOND;BSQUARE;7ROWN CIRCLE;CSQUARE;6CIRCLE
6DOWN TACK;6GREEN CIRCLE;CSQUARE;6LEFT TRIANGLE OPERATOR;6ONE DOT OVER TWO DOTS PUNCTUATION
ARING OVER TWO RINGS PUNCTUATION;7RANGE CIRCLE;DDIAMOND;DSQUARE;6PURPLE CIRCLE;DSQUARE;6RED CIRCLE
ASQUARE;6TRIPLE VERTICAL BAR OPERATOR;7WO DOTS OVER ONE DOT PUNCTUATION
ARINGS OVER ONE RING PUNCTUATION;6UP TACK;6YELLOW CIRCLE;DSQUARE;5R THAN;B OR EQUAL TO;3I SIGN
2ST QUARTER MOON;H SYMBOL;IWITH FACE;2TIN CAPITAL LETTER A;M WITH ACUTE;SBREVE;X AND ACUTE
cDOT BELOW;cGRAVE;cHOOK ABOVE;cTILDE;SCARON;TIRCUMFLEX;c AND ACUTE;hDOT BELOW;hGRAVE;hHOOK ABOVE
hTILDE;SDIAERESIS;b AND MACRON;TOT ABOVE;b AND MACRON;WBELOW;UUBLE GRAVE;SGRAVE;SHOOK ABOVE
SINVERTED BREVE;SMACRON;SOGONEK;SRING ABOVE;c AND ACUTE;XBELOW;SSTROKE;STILDE;MA;ME;N WITH ACUTE
TMACRON;MFRICAN D;MLPHA;MNGLICANA W;MO;MU;MV;N WITH HORIZONTAL BAR;MY;LB;M WITH DOT ABOVE;WBELOW
SFLOURISH;SHOOK;SLINE BELOW;SSTROKE;STOPBAR;META;MROKEN L;LC;M WITH ACUTE;SBAR;SCARON;TEDILLA
Z AND ACUTE;TIRCUMFLEX;SDOT ABOVE;SHOOK;SPALATAL HOOK;SSTROKE;MHI;MLOSED INSULAR G;MON;MUATRILLO
U WITH COMMA;LD;M WITH CARON;TEDILLA;TIRCUMFLEX BELOW;SDOT ABOVE;WBELOW;SHOOK;SLINE BELOW
SSHORT STROKE OVERLAY;TMALL LETTER Z;g WITH CARON;TTROKE;STOPBAR;MZ;N WITH CARON;LE;M WITH ACUTE
SBREVE;SCARON;TEDILLA;Z AND BREVE;TIRCUMFLEX;c AND ACUTE;hDOT BELOW;hGRAVE;hHOOK ABOVE;hTILDE
dBELOW;SDIAERESIS;TOT ABOVE;WBELOW;UUBLE GRAVE;SGRAVE;SHOOK ABOVE;SINVERTED BREVE;SMACRON
Y AND ACUTE;dGRAVE;SOGONEK;SSTROKE;STILDE;X BELOW;MGYPTOLOGICAL AIN;aLEF;MNG;MSH;MT;NH;MZH
O REVERSED;PWITH CARON;LF;M WITH DOT ABOVE;SHOOK;SSTROKE;LG;M WITH ACUTE;SBREVE;SCARON;TEDILLA
TIRCUMFLEX;SDOT ABOVE;SHOOK;SMACRON;SOBLIQUE STROKE;SSTROKE;MAMMA;MHA;MLOTTAL A;TI;TSTOP;TU;LH
M WITH BREVE BELOW;SCARON;TEDILLA;TIRCUMFLEX;SDESCENDER;TIAERESIS;TOT ABOVE;WBELOW;SHOOK;SSTROKE
MALF H;MENG;MWAIR;LI;M WITH ACUTE;SBREVE;SCARON;TIRCUMFLEX;SDIAERESIS;b AND ACUTE;TOT ABOVE;WBELOW
UUBLE GRAVE;SGRAVE;SHOOK ABOVE;SINVERTED BREVE;SMACRON;SOGONEK;SSTROKE;STILDE;X BELOW;MNSULAR D;TF
TG;TR;TS;TT;MOTA;MS;LJ;M WITH CIRCUMFLEX;TROSSED-TAIL;SSTROKE;LK;M WITH ACUTE;SCARON;TEDILLA
SDESCENDER;TIAGONAL STROKE;TOT BELOW;SHOOK;SLINE BELOW;SOBLIQUE STROKE;SSTROKE
Y AND DIAGONAL STROKE;LL;M WITH ACUTE;SBAR;TELT;SCARON;TEDILLA;TIRCUMFLEX BELOW;SDOT BELOW
b AND MACRON;UUBLE BAR;SHIGH STROKE;SLINE BELOW;SMIDDLE DOT;ZTILDE;SSMALL LETTER J;TTROKE;MJ;LM
M WITH ACUTE;SDOT ABOVE;WBELOW;SHOOK;MIDDLE SCOTS S;R-WELSH LL;YV;LN;M WITH ACUTE;SCARON;TEDILLA
TIRCUMFLEX BELOW;SDESCENDER;TOT ABOVE;WBELOW;SGRAVE;SLEFT HOOK;TINE BELOW;TONG RIGHT LEG
SOBLIQUE STROKE;SSMALL LETTER J;STILDE;MJ;LO;M WITH ACUTE;SBREVE;SCARON;TIRCUMFLEX;c AND ACUTE
hDOT BELOW;hGRAVE;hHOOK ABOVE;hTILDE;SDIAERESIS;b AND MACRON;TOT ABOVE;b AND MACRON;WBELOW
UUBLE ACUTE;ZGRAVE;SGRAVE;SHOOK ABOVE;URN;W AND ACUTE;bDOT BELOW;bGRAVE;bHOOK ABOVE;bTILDE
SINVERTED BREVE;SLONG STROKE OVERLAY;UOP;SMACRON;Y AND ACUTE;dGRAVE;TIDDLE TILDE;SOGONEK
Y AND MACRON;SSTROKE;Y AND ACUTE;STILDE;X AND ACUTE;cDIAERESIS;cMACRON;MI;MLD POLISH O;MMEGA;MO
MPEN E;QO;MU;LP;M WITH ACUTE;SDOT ABOVE;SFLOURISH;SHOOK;SSQUIRREL TAIL;TTROKE;Y THROUGH DESCENDER
LQ;M WITH DIAGONAL STROKE;SSTROKE THROUGH DESCENDER;LR;M ROTUNDA;NWITH ACUTE;SCARON;TEDILLA
SDOT ABOVE;WBELOW;b AND MACRON;UUBLE GRAVE;SINVERTED BREVE;SLINE BELOW;SOBLIQUE STROKE;SSTROKE
STAIL;MEVERSED C WITH DOT;UE;UHALF H;UOPEN E;MUM ROTUNDA;LS;M WITH ACUTE;X AND DOT ABOVE;SCARON
X AND DOT ABOVE;TEDILLA;TIRCUMFLEX;TOMMA BELOW;SDOT ABOVE;WBELOW;b AND DOT ABOVE;SHOOK
SOBLIQUE STROKE;SSHORT STROKE OVERLAY;TWASH TAIL;MALTILLO;MCHWA;NRIPT G;MHARP S;MIGMOID S
MMALL CAPITAL I;RQ WITH HOOK TAIL;LT;M WITH CARON;TEDILLA;TIRCUMFLEX BELOW;TOMMA BELOW
SDIAGONAL STROKE;TOT ABOVE;WBELOW;SHOOK;SLINE BELOW;SRETROFLEX HOOK;SSTROKE;MHORN;Q WITH STROKE
c THROUGH DESCENDER;MONE FIVE;QSIX;QTWO;MRESILLO;MURNED A;TLPHA;SH;SINSULAR G;SK;SL;SM;ST;SV;MZ;LU
M BAR;NWITH ACUTE;SBREVE;SCARON;TIRCUMFLEX;c BELOW;SDIAERESIS;b AND ACUTE;gCARON;gGRAVE;gMACRON
cBELOW;TOT BELOW;UUBLE ACUTE;ZGRAVE;SGRAVE;SHOOK ABOVE;URN;W AND ACUTE;bDOT BELOW;bGRAVE
bHOOK ABOVE;bTILDE;SINVERTED BREVE;SMACRON;Y AND DIAERESIS;SOGONEK;SRING ABOVE;SSTROKE;STILDE
X AND ACUTE;YBELOW;MPSILON;LV;M WITH DIAGONAL STROKE;TOT BELOW;SHOOK;STILDE;MEND;MISIGOTHIC Z
MOLAPUK AE;TOE;TUE;MY;LW;M WITH ACUTE;SCIRCUMFLEX;SDIAERESIS;TOT ABOVE;WBELOW;SGRAVE;SHOOK;MYNN;LX
M WITH DIAERESIS;TOT ABOVE;LY;M WITH ACUTE;SCIRCUMFLEX;SDIAERESIS;TOT ABOVE;WBELOW;SGRAVE;SHOOK
W ABOVE;SLOOP;SMACRON;SSTROKE;STILDE;MOGH;LZ;M WITH ACUTE;SCARON;TIRCUMFLEX;SDESCENDER;TOT ABOVE
WBELOW;SHOOK;SLINE BELOW;SPALATAL HOOK;SSTROKE;TWASH TAIL;FIGATURE IJ;NOE;7ROSS
6EPIGRAPHIC LETTER ARCHAIC M;OI LONGA;PNVERTED M;OREVERSED F;XP;OSIDEWAYS I;6LETTER AIN
ELVEOLAR CLICK;DBIDENTAL PERCUSSIVE;FLABIAL CLICK;MPERCUSSIVE;DDENTAL CLICK;DGLOTTAL STOP
P WITH STROKE;DINVERTED GLOTTAL STOP;Y WITH CURL;eSTROKE;DLATERAL CLICK
DPHARYNGEAL VOICED FRICATIVE;DRETROFLEX CLICK;S WITH RETROFLEX HOOK;FVERSED ESH LOOP
MGLOTTAL STOP WITH STROKE;DSINOLOGICAL DOT;EMALL CAPITAL A;SE;RB;SARRED B;RC;RD;RE;STH;SZH;RF;RG
S WITH HOOK;RH;RI;SNVERTED R;RJ;RK;RL;S WITH BELT;YSTROKE;RM;RN;RO;SE;SPEN O;SU;RP;RQ;RR
S WITH RIGHT LEG;SEVERSED N;aR;SUM;RS;RT;SURNED E;YG;YK;YM;YR;RU;RV;RW;RY;RZ;ETRETCHED C
O WITH CURL;DTWO WITH STROKE;DVOICED LARYNGEAL SPIRANT;DWYNN;DYR
6SMALL CAPITAL LETTER I WITH STROKE;RU WITH STROKE;CLETTER A;K REVERSED-SCHWA;LWITH ACUTE;QBREVE
V AND ACUTE;aDOT BELOW;aGRAVE;aHOOK ABOVE;aTILDE;QCARON;RIRCUMFLEX;a AND ACUTE;fDOT BELOW;fGRAVE
fHOOK ABOVE;fTILDE;QDIAERESIS;Z AND MACRON;ROT ABOVE;Z AND MACRON;UBELOW;SUBLE GRAVE;QGRAVE
QHOOK ABOVE;QINVERTED BREVE;QMACRON;QOGONEK;QRETROFLEX HOOK;RIGHT HALF RING;SNG ABOVE;a AND ACUTE
VBELOW;QSTROKE;QTILDE;KA;KE;L WITH ACUTE;RMACRON;KLPHA;O WITH RETROFLEX HOOK;KNGLICANA W;KO;KU;KV
L WITH HORIZONTAL BAR;KY;JB;K WITH DOT ABOVE;UBELOW;QFLOURISH;QHOOK;QLINE BELOW;QMIDDLE TILDE
QPALATAL HOOK;QSTROKE;QTOPBAR;KARRED ALPHA;QE;QO;LSELINE ESH;KETA;KLACKLETTER E;VO;W WITH STROKE
KOTTOM HALF O;KROKEN L;JC;K WITH ACUTE;QBAR;QCARON;REDILLA;X AND ACUTE;RIRCUMFLEX;RURL;QDOT ABOVE
QHOOK;QPALATAL HOOK;QRETROFLEX HOOK;QSTROKE;KHI;M WITH LOW LEFT SERIF;WRIGHT RING;KLOSED INSULAR G
QOMEGA;RPEN E;QREVERSED OPEN E;KON;KUATRILLO;S WITH COMMA;JD;K WITH CARON;REDILLA;RIRCUMFLEX BELOW
RURL;QDOT ABOVE;UBELOW;QHOOK;U AND TAIL;QLINE BELOW;QMIDDLE TILDE;QPALATAL HOOK
QSHORT STROKE OVERLAY;RTROKE;QTAIL;ROPBAR;KB DIGRAPH;KELTA;LZH DIGRAPH;V WITH PALATAL HOOK
bRETROFLEX HOOK;KOTLESS I;RJ;S WITH STROKE;e AND HOOK;LUBLE R;R WITH CROSSED-TAIL;QTHORN;QWYNN;KUM
KZ;L DIGRAPH;T WITH CURL;ZRETROFLEX HOOK;MWITH CARON;JE;K WITH ACUTE;QBREVE;QCARON;REDILLA
X AND BREVE;RIRCUMFLEX;a AND ACUTE;fDOT BELOW;fGRAVE;fHOOK ABOVE;fTILDE;bBELOW;QDIAERESIS;ROT ABOVE
UBELOW;SUBLE GRAVE;QFLOURISH;QGRAVE;QHOOK ABOVE;QINVERTED BREVE;QMACRON;W AND ACUTE;bGRAVE;QNOTCH
QOGONEK;QRETROFLEX HOOK;QSTROKE;QTILDE;V BELOW;KGYPTOLOGICAL AIN;YLEF;KNG;M WITH CROSSED-TAIL
SPALATAL HOOK;KSH;M WITH CURL;SDOUBLE BAR;c AND CURL;SPALATAL HOOK;SRETROFLEX HOOK;KT;LH;KZH
M REVERSED;NWITH CARON;TURL;SPALATAL HOOK;SRETROFLEX HOOK;STAIL;JF;K WITH DOT ABOVE;QHOOK
QMIDDLE TILDE;QPALATAL HOOK;QSTROKE;KENG DIGRAPH;V WITH TRILL;JG;K WITH ACUTE;QBREVE;QCARON;REDILLA
RIRCUMFLEX;QDOT ABOVE;QHOOK;QMACRON;QOBLIQUE STROKE;QPALATAL HOOK;QSTROKE;KAMMA;KHA;KLOTTAL A;RI
RSTOP;RU;JH;K WITH BREVE BELOW;QCARON;REDILLA;RIRCUMFLEX;QDESCENDER;RIAERESIS;ROT ABOVE;UBELOW
QHOOK;QLINE BELOW;QPALATAL HOOK;QSTROKE;KALF H;KENG;N WITH HOOK;KV;JI;K WITH ACUTE;QBREVE;QCARON
RIRCUMFLEX;QDIAERESIS;Z AND ACUTE;ROT BELOW;SUBLE GRAVE;QGRAVE;QHOOK ABOVE;QINVERTED BREVE;QMACRON
QOGONEK;QRETROFLEX HOOK;QSTROKE;W AND RETROFLEX HOOK;QTILDE;V BELOW;KNSULAR D;RF;RG;RR;RS;RT
LVERTED ALPHA;SOE;KOTA;N WITH STROKE;MIFIED E;KS;JJ;K WITH CARON;RIRCUMFLEX;RROSSED-TAIL;QSTROKE;JK
K WITH ACUTE;QCARON;REDILLA;QDESCENDER;RIAGONAL STROKE;ROT BELOW;QHOOK;QLINE BELOW;QOBLIQUE STROKE
QPALATAL HOOK;QSTROKE;W AND DIAGONAL STROKE;KRA;JL;K WITH ACUTE;QBAR;RELT;U AND PALATAL HOOK;QCARON
REDILLA;RIRCUMFLEX BELOW;RURL;QDOT BELOW;Z AND MACRON;SUBLE BAR;XMIDDLE TILDE;QFISHHOOK
QHIGH STROKE;QINVERTED LAZY S;QLINE BELOW;QMIDDLE DOT;XRING;XTILDE;QPALATAL HOOK;QRETROFLEX HOOK
e AND BELT;QSTROKE;KAMBDA WITH STROKE;KENIS F;LZH;N WITH RETROFLEX HOOK;KJ;KONG S
P WITH DIAGONAL STROKE;WOT ABOVE;VHIGH STROKE;KS DIGRAPH;KUM;KZ DIGRAPH;JM;K WITH ACUTE
QCROSSED-TAIL;QDOT ABOVE;UBELOW;QHOOK;QMIDDLE TILDE;QPALATAL HOOK;KIDDLE SCOTS S;P-WELSH LL;WV;KUM
JN;K PRECEDED BY APOSTROPHE;LWITH ACUTE;QCARON;REDILLA;RIRCUMFLEX BELOW;RROSSED-TAIL;RURL
QDESCENDER;ROT ABOVE;UBELOW;QGRAVE;QLEFT HOOK;RINE BELOW;RONG RIGHT LEG;QMIDDLE TILDE
QOBLIQUE STROKE;QPALATAL HOOK;QRETROFLEX HOOK;QTILDE;KJ;KUM;JO;K WITH ACUTE;QBREVE;QCARON
RIRCUMFLEX;a AND ACUTE;fDOT BELOW;fGRAVE;fHOOK ABOVE;fTILDE;QDIAERESIS;Z AND MACRON;ROT ABOVE
Z AND MACRON;UBELOW;SUBLE ACUTE;XGRAVE;QGRAVE;QHOOK ABOVE;SRN;U AND ACUTE;ZDOT BELOW;ZGRAVE
ZHOOK ABOVE;ZTILDE;QINVERTED BREVE;QLONG STROKE OVERLAY;SOP;SW RING INSIDE;QMACRON;W AND ACUTE
bGRAVE;QOGONEK;W AND MACRON;QRETROFLEX HOOK;QSTROKE;W AND ACUTE;QTILDE;V AND ACUTE;aDIAERESIS
aMACRON;KI;KLD POLISH O;KMEGA;KO;KPEN E;P WITH RETROFLEX HOOK;OO;P WITH RETROFLEX HOOK;VSTROKE;PE
KU;JP;K WITH ACUTE;QDOT ABOVE;QFLOURISH;QHOOK;QMIDDLE TILDE;QPALATAL HOOK;QSQUIRREL TAIL;RTROKE
W THROUGH DESCENDER;KHI;JQ;K WITH DIAGONAL STROKE;QHOOK;U TAIL;QSTROKE THROUGH DESCENDER;KP DIGRAPH
JR;K ROTUNDA;LWITH ACUTE;QCARON;REDILLA;RROSSED-TAIL;QDOT ABOVE;UBELOW;Z AND MACRON;SUBLE GRAVE
QFISHHOOK;Y AND MIDDLE TILDE;dPALATAL HOOK;QINVERTED BREVE;QLINE BELOW;RONG LEG;QMIDDLE TILDE
QOBLIQUE STROKE;QPALATAL HOOK;QSTROKE;QTAIL;POUT HANDLE;KAMS HORN;KEVERSED C;T WITH DOT;SE;TNG
SHALF H;SK;SOPEN E;Y WITH HOOK;eRETROFLEX HOOK;SR WITH FISHHOOK;SSCRIPT G;KUM;M ROTUNDA;JS
K WITH ACUTE;V AND DOT ABOVE;QCARON;V AND DOT ABOVE;REDILLA;RIRCUMFLEX;ROMMA BELOW;RURL;QDOT ABOVE
UBELOW;Z AND DOT ABOVE;QHOOK;QMIDDLE TILDE;QOBLIQUE STROKE;QPALATAL HOOK;QSHORT STROKE OVERLAY
RWASH TAIL;KAKHA YAT;LLTILLO;KCHWA;O WITH HOOK;URETROFLEX HOOK;LRIPT G;R WITH CROSSED-TAIL;QR
R WITH RING;KHARP S;KIDEWAYS DIAERESIZED U;SO;T WITH STROKE;TPEN O;STURNED M;SU;LGMOID S
KQUAT REVERSED ESH;KTIRRUP R;JT;K WITH CARON;REDILLA;RIRCUMFLEX BELOW;ROMMA BELOW;RURL;QDIAERESIS
TGONAL STROKE;ROT ABOVE;UBELOW;QHOOK;U AND RETROFLEX HOOK;QLINE BELOW;QMIDDLE TILDE;QPALATAL HOOK
QRETROFLEX HOOK;QSTROKE;KAILLESS PHI;KC DIGRAPH WITH CURL;KESH DIGRAPH;V WITH PALATAL HOOK
bRETROFLEX HOOK;KH WITH STRIKETHROUGH;LORN;O WITH STROKE;a THROUGH DESCENDER;KONE FIVE;OSIX;OTWO
LP HALF O;KRESILLO;KS DIGRAPH;T WITH RETROFLEX HOOK;KUM;LRNED A;RE;RLPHA;QDELTA;QE;QG;QH
R WITH FISHHOOK;f AND TAIL;QI;RNSULAR G;QK;QL;QM;R WITH LONG LEG;QO OPEN-O;Y WITH STROKE;RE
S WITH HORIZONTAL STROKE;YSTROKE;RPEN E;QR;R WITH HOOK;XLONG LEG;f AND RETROFLEX HOOK;XMIDDLE TILDE
XPALATAL HOOK;XTAIL;QT;R WITH CURL;QUI;QV;QW;QY;R WITH BELT;KZ;JU;K BAR;O WITH SHORT RIGHT LEG
LWITH ACUTE;QBREVE;QCARON;RIRCUMFLEX;a BELOW;QDIAERESIS;Z AND ACUTE;eCARON;eGRAVE;eMACRON;aBELOW
ROT BELOW;SUBLE ACUTE;XGRAVE;QGRAVE;QHOOK ABOVE;SRN;U AND ACUTE;ZDOT BELOW;ZGRAVE;ZHOOK ABOVE
ZTILDE;QINVERTED BREVE;QLEFT HOOK;QMACRON;W AND DIAERESIS;QOGONEK;QRETROFLEX HOOK;RING ABOVE
QSHORT RIGHT LEG;RTROKE;QTILDE;V AND ACUTE;WBELOW;KE;KI;KM;KO;KPSILON;Q WITH STROKE;JV;K WITH CURL
QDIAGONAL STROKE;ROT BELOW;QHOOK;QPALATAL HOOK;QRIGHT HOOK;QTILDE;KEND;KISIGOTHIC Z;KOLAPUK AE;ROE
RUE;KY;JW;K WITH ACUTE;QCIRCUMFLEX;QDIAERESIS;ROT ABOVE;UBELOW;QGRAVE;QHOOK;QRING ABOVE;JX
K WITH DIAERESIS;ROT ABOVE;QLONG LEFT LEG;d AND LOW RIGHT RING;eWITH SERIF;SW RIGHT RING
QPALATAL HOOK;JY;K WITH ACUTE;QCIRCUMFLEX;QDIAERESIS;ROT ABOVE;UBELOW;QGRAVE;QHOOK;U ABOVE;QLOOP
QMACRON;QRING ABOVE;QSHORT RIGHT LEG;RTROKE;QTILDE;KOGH;JZ;K WITH ACUTE;QCARON;RIRCUMFLEX;RURL
QDESCENDER;ROT ABOVE;UBELOW;QHOOK;QLINE BELOW;QMIDDLE TILDE;QPALATAL HOOK;QRETROFLEX HOOK;QSTROKE
RWASH TAIL;DIGATURE FF;NI;NL;MI;ML;LIJ;LLONG S T;LOE;LST;7UBSCRIPT SMALL LETTER A;TE;TH;TI;TJ;TK;TL
TM;TN;TO;TP;TR;TS;UCHWA;TT;TU;TV;TX;1EAF FLUTTERING IN WIND;4Y GREEN;2DGER
2FT AND LOWER AND RIGHT TRIANGULAR THREE QUARTERS BLOCK;FONE EIGHTH BLOCK;9RIGHT DOUBLE TURNSTILE
FTACK;GRIANGULAR HALF BLOCK;9UPPER AND RIGHT TRIANGULAR THREE QUARTERS BLOCK;FONE EIGHTH BLOCK
7GER BUBBLE;8LE BRACKET;I WITH DOT;6RC LESS-THAN BRACKET;7ROW WITH CIRCLED PLUS;GSMALL CIRCLE
5BARB DOWN RIGHT BARB DOWN HARPOON;QUP HARPOON;AUP RIGHT BARB DOWN HARPOON;OUP HARPOON
6LACK LENTICULAR BRACKET;BTORTOISE SHELL BRACKET;5CEILING;6LOSED ENTRY;6ORNER BRACKET;6URLY BRACKET
I LOWER HOOK;JMIDDLE PIECE;JUPPER HOOK;5DOTTED SUBSTITUTION BRACKET;7UBLE ANGLE BRACKET
CPARENTHESIS;CQUOTATION MARK;CWIGGLY FENCE;5FISH TAIL;7VE EIGHTHS BLOCK;6LOOR;5HALF BLACK CIRCLE
GSTAR;COCK;ACIRCLE;G WITH DOT;MFOUR DOTS;MTHREE DOTS;NWO DOTS;AFOLDER
AINVERSE MEDIUM SHADE AND RIGHT HALF BLOCK;AMEDIUM SHADE;ARUNNING MAN;7ND TELEPHONE RECEIVER
5LOW PARAPHRASE BRACKET;6UGGAGE;5MULTIMAP;5NORMAL FACTOR SEMIDIRECT PRODUCT;5ONE EIGHTH BLOCK
9QUARTER BLOCK;6UTER JOIN;5PARENTHESIS;G EXTENSION;HLOWER HOOK;HUPPER HOOK;5RAISED OMISSION BRACKET
6IGHT ARROW;G THROUGH SMALL CIRCLE;HWITH DOUBLE VERTICAL STROKE;MSTROKE;MVERTICAL STROKE
BBLACK ARROW;BDOUBLE ARROW;N WITH STROKE;TVERTICAL STROKE;BOPEN-HEADED ARROW;BSANS-SERIF ARROW
BTRIANGLE-HEADED ARROW;BWAVE ARROW;CHITE ARROW;5S-SHAPED BAG DELIMITER;6EMIDIRECT PRODUCT
7VEN EIGHTHS BLOCK;6IDEWAYS U BRACKET;7NGLE QUOTATION MARK;6PEECH BUBBLE;6QUARE BRACKET;J EXTENSION
KLOWER CORNER;KUPPER CORNER;KWITH DOUBLE STROKE;PQUILL;PSTROKE;PTICK IN BOTTOM CORNER;XTOP CORNER
PUNDERBAR;6UBSTITUTION BRACKET;5TACK;6HIRD WHITE RIGHT POINTING INDEX;7OUGHT BUBBLE
7REE EIGHTHS BLOCK;BQUARTERS BLOCK;6ORTOISE SHELL BRACKET;6RANSPOSITION BRACKET
7IANGLE BESIDE VERTICAL BAR;BULAR ONE QUARTER BLOCK;5VERTICAL BAR WITH QUILL;FOX LINE
5WHITE CORNER BRACKET;CURLY BRACKET;BLENTICULAR BRACKET;BPARENTHESIS;BSQUARE BRACKET
BTORTOISE SHELL BRACKET;6IGGLY FENCE;6RITING HAND;4-FACING ARMENIAN ETERNITY SIGN;CFIST
CSVASTI SIGN;N WITH DOTS;5HANDED INTERLACED PENTAGRAM;5POINTING ANGLE BRACKET;ECURVED ANGLE BRACKET
EDOUBLE ANGLE QUOTATION MARK;EMAGNIFYING GLASS;5SHADED WHITE RIGHTWARDS ARROW
6IDE ARC ANTICLOCKWISE ARROW;5TO-RIGHT EMBEDDING;EISOLATE;EMARK;EOVERRIDE;4WARDS ARROW
F ABOVE ALMOST EQUAL TO;MREVERSE ALMOST EQUAL TO;UTILDE OPERATOR;MSHORT RIGHTWARDS ARROW
MTILDE OPERATOR;HND UPPER AND LOWER ONE EIGHTH BLOCK;GFROM BAR;O TO BLACK DIAMOND
GOVER RIGHTWARDS ARROW;GTHROUGH LESS-THAN;OSUBSET;OX;HO BAR;M OVER RIGHTWARDS ARROW TO BAR
KLACK DIAMOND;GWITH DOTTED STEM;NUBLE VERTICAL STROKE;LEQUILATERAL ARROWHEAD;LHOOK
LLARGE TRIANGLE ARROWHEAD;MOOP;LMEDIUM TRIANGLE ARROWHEAD;LNOTCHED TAIL;LPLUS BELOW
LSMALL EQUILATERAL ARROWHEAD;RTRIANGLE ARROWHEAD;MTROKE;LTAIL;P WITH DOUBLE VERTICAL STROKE
VVERTICAL STROKE;MIP DOWNWARDS;PUPWARDS;LVERTICAL STROKE;F-TAIL;ABACK-TILTED SHADOWED WHITE ARROW
BLACK ARROW;GCIRCLED WHITE ARROW;BOTTOM-SHADED WHITE ARROW;ACOMPRESSED ARROW;ADASHED ARROW
BOUBLE ARROW;M FROM BAR;NWITH STROKE;SVERTICAL STROKE;M-TAIL;HDASH ARROW;AFINGER-POST ARROW
BRONT-TILTED SHADOWED WHITE ARROW;AHAND;CRPOON OVER RIGHTWARDS HARPOON
IWITH BARB DOWN ABOVE RIGHTWARDS HARPOON WITH BARB DOWN;XBELOW LONG DASH;XFROM BAR;XTO BAR;WWARDS
SUP ABOVE LEFTWARDS HARPOON WITH BARB DOWN;cONG DASH;bRIGHTWARDS HARPOON WITH BARB UP;VFROM BAR
VTO BAR;UWARDS;BEAVY ARROW;GCOMPRESSED ARROW;ALEFT-SHADED WHITE ARROW;AOPEN-HEADED ARROW
APAIRED ARROWS;AQUADRUPLE ARROW;ARIGHT-SHADED WHITE ARROW;BOCKET;ASANS-SERIF ARROW;BQUARED ARROW
DIGGLE ARROW;ATOP SHADED WHITE ARROW;BRIANGLE ARROWHEAD;I-HEADED ARROW
V OVER RIGHTWARDS TRIANGLE-HEADED ARROW;WTO BAR;WWITH BOLD SHAFT;bDOUBLE HORIZONTAL STROKE
iVERTICAL STROKE;bHEAVY SHAFT;bLONG TIP DOWNWARDS;kUPWARDS;bMEDIUM SHAFT;bNARROW SHAFT
bVERY HEAVY SHAFT;QDASHED ARROW;QPAIRED ARROWS;DPLE ARROW;HDASH ARROW;BWO HEADED ARROW
D-HEADED ARROW FROM BAR;RWITH DOUBLE VERTICAL STROKE;WTAIL;a WITH DOUBLE VERTICAL STROKE
gVERTICAL STROKE;XRIANGLE ARROWHEADS;WVERTICAL STROKE;LTRIPLE DASH ARROW;AWAVE ARROW;BHITE ARROW
L WITHIN TRIANGLE ARROWHEAD;2G;2MON;2O;3PARD;2PCHA CONSONANT SIGN K;NANG;ML;MM;MN;NYIN-DO;MP;MR;MT
7DIGIT EIGHT;DFIVE;EOUR;DNINE;DONE;DSEVEN;EIX;DTHREE;EWO;DZERO;7LETTER A;EBA;FLA;ECA;FHA;EDA;FDA
FZA;EFA;FLA;EGA;FLA;EHA;FLA;EJA;EKA;FHA;FLA;ELA;EMA;FLA;ENA;FGA;FYA;EPA;FHA;FLA;ERA;ESA;FHA;ETA;FHA
FSA;GHA;FTA;GHA;EVA;EWA;EYA;7PUNCTUATION CER-WA;JNYET THYOOM TA-ROL;JTA-ROL;KSHOOK;P CER-WA
7SIGN NUKTA;CRAN;8UBJOINED LETTER RA;OYA;7VOWEL SIGN AA;IE;II;IO;JO;IU;JU
2SS-THAN ABOVE DOUBLE-LINE EQUAL ABOVE GREATER-THAN;GGREATER-THAN ABOVE DOUBLE-LINE EQUAL
GLEFTWARDS ARROW;GSIMILAR ABOVE GREATER-THAN;OOR EQUAL
HLANTED EQUAL ABOVE GREATER-THAN ABOVE SLANTED EQUAL;BND NOT APPROXIMATE;ESINGLE-LINE NOT EQUAL TO
ABUT NOT EQUAL TO;LIVALENT TO;ACLOSED BY CURVE;P ABOVE SLANTED EQUAL;AEQUAL TO OR GREATER-THAN
AOR APPROXIMATE;DEQUAL TO;GIVALENT TO;DGREATER-THAN;DSLANTED EQUAL TO;T WITH DOT ABOVE;i RIGHT
dINSIDE;BVER EQUAL TO;ASIGN;AWITH CIRCLE INSIDE;FDOT;FQUESTION MARK ABOVE;2VEL SLIDER;1F;1IBRA
2GATURE OPEN ET ORNAMENT;3HT CHECK MARK;6EIGHT SPOKED ASTERISK;6FIVE POINTED BLACK STAR
BSPOKED ASTERISK;7OUR POINTED BLACK CUSP;PSTAR;6GREEK CROSS;6LEFT TORTOISE SHELL BRACKET ORNAMENT
6RAIL;7IGHT TORTOISE SHELL BRACKET ORNAMENT;6SALTIRE;7HADE;7IX SPOKED ASTERISK
6THREE POINTED BLACK STAR;7WELVE POINTED BLACK STAR;6VERTICAL BAR;6WHITE SQUARE;5NING;9 MOOD
E BUBBLE;2MBU DIGIT EIGHT;CFIVE;DOUR;CNINE;CONE;CSEVEN;DIX;CTHREE;DWO;CZERO;6EXCLAMATION MARK
6LETTER BA;EHA;DCA;EHA;DDA;EHA;DGA;EHA;EYAN;DHA;DJA;EHA;DKA;EHA;DLA;DMA;DNA;EGA;DPA;EHA;DRA;DSA;EHA
ESA;DTA;EHA;ERA;DWA;DYA;FN;6QUESTION MARK;6SIGN KEMPHRENG;BLOO;BMUKPHRENG;BSA-I
7MALL LETTER ANUSVARA;JKA;JLA;JMA;JNA;KGA;JPA;JRA;JTA;7UBJOINED LETTER RA;NWA;NYA;6VOWEL SIGN A;II
IU;HE;IE;HI;HO;IO;HU;B-CARRIER LETTER;3ITED LIABILITY SIGN;2NE FEED
5INTEGRATION NOT INCLUDING THE POLE;HWITH RECTANGULAR PATH AROUND POLE
MSEMICIRCULAR PATH AROUND POLE;5SEPARATOR;5TABULATION;F SET;4AR A SIGN A028B;F100-102;G20B;G31C
F301;H2;H3;H4;H5;H6;H7;H8;H9A;IB;IC;G10;H1;H2;H3A;IB;IC;H4;H5;H6;H7;H8;H9;G20;H1;H2;H3;H4;H5;H6;H7
H8;H9;G30;H1;H2;H3;H4;H5;H6;H7;H8;H9;G40;H1;H2;H3;H4;H5;H6;H7;H8;H9;G50;H1;H2;H3;H4;H5;H6;H7;H8;H9
G60;H1;H2;H3;H4;H5;H6;H7;H8;H9;G70;H1;F400-VAS;H1-VAS;H2-VAS;H3-VAS;H4-VAS;H5-VAS;H6-VAS;H7-VAS
H8-VAS;H9-VAS;G10-VAS;H1-VAS;H2-VAS;H3-VAS;H4-VAS;H5-VAS;H6-VAS;H7-VAS;H8-VAS;F501;H2;H3;H4;H5;H6
H8;H9;G10;H1;H2;H3;H5;H6;G20;H1;H3;H4;H5;H6;H7;H8;H9;G30;H1;H2;H4;H5;H6;H7;H8;H9;G40;H1;H2;H5;H7;H8
H9;G50;H1;H2;H3;H4;H5;H6;H7;H9;G63;H4;H5;H6;H8;H9;G70;H1;H2;H3;H4;H5;H6;H7;H8;H9;G80;H1;H2;H3;H4;H5
H6;H7;H8;H9;G91;H2;H4;H5;H6;H8;F600;H1;H2;H3;H4;H6;H8;H9;G10;H1;H2;H3;H4;H5;H6;H7;H8;H9;G20;H1;H2
H3;H4;H6;H7;H8;H9;G34;H7;H8;G40;H2;H3;H4;H5;H6;H8;H9;G51;H2;H3;H4;H5;H6;H7;H8;H9;G60;H1;H2;H3;H4
F701 A;H2 B;H3 D;H4 E;H5 F;H6 H;H7 J;H8 K;H9 L;I-2 L2;J3 L3;J4 L4;J6 L6;G10 W;H1 X;H2 Y;H3 OMEGA
H4 ABB;H5 BB;H7 DD;G26 EYYY;G32 JE;F800;H1;H2;H3;H4;H5;H6;H7;FB001;I2;I3;I4;I5;I6;I7;I8;I9;H10;I1
I3;I6;I7;H20;I1;JF;JM;I2;JF;JM;I3;JM;I4;I6;I7;I8;I9;H30;I1;I4;I7;I8;I9;H40;I1;I4;I5;I6;I7;I8;I9;H50
I1;I3;I4;I5;I6;I7;I8;I9;H60;I1;I5;I6;I7;I9;H70;I3;I4;I6;I7;I8;I9;H80;I1;I2;I5;I6;I7;G118;H20;I2;I3
H31A;JB;H64;H71;H80;I8;H91;7B IDEOGRAM B100 MAN;L2 WOMAN;L4 DEER;L5 EQUID;MF MARE;MM STALLION
L6F EWE;MM RAM;L7F SHE-GOAT;MM HE-GOAT;L8F SOW;MM BOAR;L9F COW;MM BULL;K20 WHEAT;L1 BARLEY;L2 OLIVE
L3 SPICE;L5 CYPERUS;K30 OIL;L1 WINE;L2;K40 BRONZE;L1 GOLD;L2;L5 WOOL;L6;K50;L1 HORN;L2;L3;L4;L7;L8
L9 CLOTH;K60;L1;L2 GARMENT;L3 ARMOUR;L4;L5;L6;L7;L8;L9;K70;L1;L2;L3 MONTH;L4;L6 TREE;L7;L8;L9;K80
L1;L2;L3;L4;L5;L9;K90;L1 HELMET;J220 FOOTSTOOL;L5 BATHTUB;K30 SPEAR;L1 ARROW;L2;L3 SWORD;L4;L6
K40 WHEELED CHARIOT;L1 CHARIOT;L2 CHARIOT FRAME;L3 WHEEL;L5;L6;L8;L9;K51;L2;L3;L4 DART;L5;L6;L7;L8
L9;IVESSEL B155;Q200;S1;S2;S3;S4;S5;S6;S7;S8;S9;R10;S1;S2;S3;S4;S5;S6;S7;S8;S9;R21;S2;S6;S7;S8;S9
R50;Q305;9MONOGRAM B127 KAPO;L8 KANAKO;K33 AREPA;L5 MERI;K56 TURO2;J247 DIPTE;9SYLLABLE B001 DA
L2 RO;L3 PA;L4 TE;L5 TO;L6 NA;L7 DI;L8 A;L9 SE;K10 U;L1 PO;L2 SO;L3 ME;L4 DO;L5 MO;L6 QA;L7 ZA
K20 ZO;L1 QI;L3 MU;L4 NE;L5 A2;L6 RU;L7 RE;L8 I;L9 PU2;K30 NI;L1 SA;L2 QO;L3 RA3;L6 JO;L7 TI;L8 E
L9 PI;K40 WI;L1 SI;L2 WO;L3 A3;L4 KE;L5 DE;L6 JE;L8 NWA;K50 PU;L1 DU;L2 NO;L3 RI;L4 WA;L5 NU;L7 JA
L8 SU;L9 TA;K60 RA;L1 O;L2 PTE;L5 JU;L6 TA2;L7 KI;L8 RO2;L9 TU;K70 KO;L1 DWE;L2 PE;L3 MI;L4 ZE
L5 WE;L6 RA2;L7 KA;L8 QE;K80 MA;L1 KU;L5 AU;L7 TWE;K90 DWO;L1 TWO;BMBOL B018;J9;I22;I34;I47;J9;I56
I63;J4;I79;I82;J3;J6;J9;3K SYMBOL;4ED PAPERCLIPS;2ON FACE;2PS;4TICK;2RA SIGN;2SU LETTER A;DE;CBA
CCA;DHA;CDA;DZA;CE;DU;CFA;CGA;DHA;CHA;DHA;CI;CJA;CKA;DHA;CLA;CMA;CNA;DGA;CO;DE;CPA;DHA;CSA;DHA;CTA
DHA;DONE MYA BO;LCYA;LJEU;LNA;LTI;HNA PO;DSA;EHA;CU;DE;DH;CWA;CXA;CYA;DHA;CZA;DHA
5PUNCTUATION COMMA;HFULL STOP;2VRE TOURNOIS SIGN;2ZARD;1LAMA;1OBSTER;2CK;4 WITH INK PEN
4ING-SHIFT ONE;EZERO;2GICAL AND;B WITH DOT ABOVE;JUBLE OVERBAR;OUNDERBAR;HHORIZONTAL DASH
HMIDDLE STEM;HUNDERBAR;8OR;A OVERLAPPING LOGICAL AND;BWITH DOT ABOVE;IUBLE OVERBAR;NUNDERBAR
GHORIZONTAL DASH;GMIDDLE STEM;2LLIPOP;2NG DASH FROM LEFT MEMBER OF DOUBLE VERTICAL;6IVISION;6RUM
5LEFT RIGHT ARROW;GDOUBLE ARROW;ATACK;9WARDS ARROW;K FROM BAR;FDOUBLE ARROW;R FROM BAR
FSQUIGGLE ARROW;5RIGHT TACK;AWARDS ARROW;L FROM BAR;GDOUBLE ARROW;S FROM BAR;GSQUIGGLE ARROW
2TION BOTTLE;3US;2UDLY CRYING FACE;2VE HOTEL;5LETTER;2W ASTERISK;4BATTERY;5RIGHTNESS SYMBOL
4DOUBLE PRIME QUOTATION MARK;4KAVYKA;A WITH DOT;4LINE;3ER BLADE SCISSORS;6FIVE EIGHTHS BLOCK
6HALF BLOCK;BCIRCLE;BINVERSE WHITE CIRCLE;BMEDIUM SHADE;6LEFT BALLPOINT PEN
CLOCK DIAGONAL LOWER MIDDLE LEFT TO LOWER CENTRE;rRIGHT;QUPPER CENTRE TO LOWER MIDDLE RIGHT;mRIGHT
gUPPER MIDDLE RIGHT;WLEFT TO LOWER CENTRE;kMIDDLE RIGHT;eUPPER MIDDLE RIGHT
WMIDDLE LEFT TO LOWER CENTRE;rMIDDLE RIGHT;rRIGHT;BCRAYON;BFOUNTAIN PEN;BPAINTBRUSH;CENCIL
BQUADRANT CIRCULAR ARC;BSEMICIRCULAR ANTICLOCKWISE ARROW;BTRIANGLE;HULAR MEDIUM SHADE
6ONE EIGHTH BLOCK;AQUARTER BLOCK;6RIGHT BLOCK DIAGONAL LOWER CENTRE TO LOWER MIDDLE RIGHT
hUPPER MIDDLE RIGHT;nRIGHT;XLEFT TO LOWER MIDDLE RIGHT;fUPPER CENTRE;lMIDDLE RIGHT
XMIDDLE LEFT TO UPPER CENTRE;sMIDDLE RIGHT;sRIGHT;RUPPER MIDDLE LEFT TO UPPER CENTRE;sRIGHT
CCORNER WITH DOT;CDROP-SHADOWED WHITE SQUARE;CPENCIL;CQUADRANT CIRCULAR ARC
CSEMICIRCULAR CLOCKWISE ARROW;DHADOWED WHITE CIRCLE;RSQUARE;CTRIANGLE;IULAR MEDIUM SHADE
6SEVEN EIGHTHS BLOCK;6THREE EIGHTHS BLOCK;CQUARTERS BLOCK;7RIANGULAR ONE QUARTER BLOCK;2ZENGE
7 DIVIDED BY HORIZONTAL RULE;1RE;2I;2M;2O;1UGGAGE;2NGS;1YCIAN LETTER A;FN;EB;FH;ED;EE;FN;EG;EH;EI
EJ;EK;FK;EL;EM;FM;EN;FN;EP;EQ;ER;ES;ET;FH;FT;EU;EW;EX;EZ;2DIAN LETTER A;FN;EB;EC;ED;EE;FN;EF;EG;EI
EK;EL;FY;EM;EN;FN;EO;EQ;ER;ES;FS;ET;FT;EU;EV;EY;7TRIANGULAR MARK;2ING FACE;0MACRON;2GE;3IC WAND
3NET;2HAJANI ABBREVIATION SIGN;9LETTER A;GBA;HHA;GCA;HHA;GDA;HDA;IHA;HHA;GE;GGA;HHA;GHA;GI;GJA;HHA
GKA;HHA;GLA;GMA;GNA;HNA;HYA;GO;GPA;HHA;GRA;HRA;GSA;GTA;HHA;HTA;IHA;GU;GVA;AIGATURE SHRI
9SECTION MARK;AIGN NUKTA;3JONG TILE AUTUMN;DBACK;FMBOO;DCHRYSANTHEMUM;DEAST WIND;EIGHT OF BAMBOOS
MCHARACTERS;NIRCLES;DFIVE OF BAMBOOS;LCHARACTERS;MIRCLES;EOUR OF BAMBOOS;LCHARACTERS;MIRCLES
DGREEN DRAGON;DJOKER;DNINE OF BAMBOOS;LCHARACTERS;MIRCLES;EORTH WIND;DONE OF BAMBOOS;KCHARACTERS
LIRCLES;ERCHID;DPLUM;DRED DRAGON;DSEVEN OF BAMBOOS;MCHARACTERS;NIRCLES;EIX OF BAMBOOS;KCHARACTERS
LIRCLES;EOUTH WIND;EPRING;EUMMER;DTHREE OF BAMBOOS;MCHARACTERS;NIRCLES;EWO OF BAMBOOS;KCHARACTERS
LIRCLES;DWEST WIND;EHITE DRAGON;EINTER;2KASAR ANGKA;8END OF SECTION;8LETTER A;FBA;FCA;FDA;FGA;FJA
FKA;FLA;FMA;FNA;GGA;GYA;FPA;FRA;FSA;FTA;FVA;FYA;8PASSIMBANG;8VOWEL SIGN E;JI;JO;JU
2LAYALAM AU LENGTH MARK;ADATE MARK;BIGIT EIGHT;GFIVE;HOUR;GNINE;GONE;GSEVEN;HIX;GTHREE;HWO;GZERO
AFRACTION ONE EIGHTH;NFIFTH;OORTIETH;NHALF;NONE-HUNDRED-AND-SIXTIETH;NQUARTER;NSIXTEENTH;NTENTH
OWENTIETH;JTHREE EIGHTIETHS;PQUARTERS;PSIXTEENTHS;PTWENTIETHS;ALETTER A;IA;II;IRCHAIC II;IU;HBA;IHA
HCA;IHA;JILLU K;OL;PL;QL;OM;ON;PN;ORR;OY;HDA;IDA;JHA;IHA;IOT REPH;HE;IE;HGA;IHA;HHA;HI;II;HJA;IHA
HKA;IHA;HLA;ILA;JLA;HMA;HNA;IGA;INA;JNA;IYA;HO;IO;HPA;IHA;HRA;IRA;HSA;IHA;ISA;HTA;IHA;ITA;JHA;JTA
HU;IU;HVA;IEDIC ANUSVARA;IOCALIC L;QL;PR;QR;HYA;ANUMBER ONE HUNDRED;LTHOUSAND;HTEN;ASIGN ANUSVARA
GVAGRAHA;FCANDRABINDU;GIRCULAR VIRAMA;GOMBINING ANUSVARA ABOVE;FPARA;FVERTICAL BAR VIRAMA;GIRAMA
HSARGA;AVOWEL SIGN AA;MI;MU;LE;ME;LI;MI;LO;MO;LU;MU;LVOCALIC L;UL;TR;UR;3E AND FEMALE SIGN;5SIGN
5WITH STROKE AND MALE AND FEMALE SIGN;HSIGN;3TESE CROSS;2MMOTH;2N;3 AND WOMAN HOLDING HANDS
4DANCING;4IN BUSINESS SUIT LEVITATING;7TUXEDO;4WITH GUA PI MAO;9TURBAN;3AT SIGN
3DAIC AFFRICATION MARK;8GEMINATION MARK;8LETTER AB;GD;GG;GH;GIN;GK;HSA;GL;GM;GN;GP;GQ;GR;GS;HH;HZ
GT;HT;GZ;FDUSHENNA;FHALQA;FIN;GT;FKAD;FUSHENNA;8PUNCTUATION;8VOCALIZATION MARK;3GO
3ICHAEAN ABBREVIATION MARK ABOVE;TBELOW;BLETTER AAYIN;JLEPH;JYIN;IBETH;JHETH;IDALETH;JHAMEDH;IFE
IGHIMEL;JIMEL;IHE;KTH;IJAYIN;JHAYIN;IKAPH;JHAPH;ILAMEDH;IMEM;INUN;IPE;IQHOPH;JOPH;IRESH;ISADHE
KMEKH;JHIN;JSHIN;ITAW;JETH;JHAMEDH;IWAW;IXAPH;JOPH;IYODH;IZAYIN;JHAYIN;BNUMBER FIVE;IONE;L HUNDRED
ITEN;JWENTY;BPUNCTUATION DOT;Q WITHIN DOT;PUBLE DOT WITHIN DOT;NFLEURON;NLINE FILLER;NSTAR
NTWO DOTS;BSIGN UD;3S SHOE;3TELPIECE CLOCK;3UAL WHEELCHAIR;2P SYMBOL FOR LIGHTHOUSE;3LE LEAF
2RCHEN HEAD MARK;8LETTER -A;FA;FBA;FCA;GHA;FDA;GZA;FGA;FHA;FJA;FKA;GHA;FLA;FMA;FNA;GGA;GYA;FPA;GHA
FRA;FSA;GHA;FTA;GHA;GSA;HHA;FWA;FYA;FZA;GHA;8MARK SHAD;8SIGN ANUSVARA;DCANDRABINDU
9UBJOINED LETTER A;PBA;PCA;QHA;PDA;QZA;PGA;PHA;PJA;PKA;QHA;PLA;PMA;PNA;QGA;QYA;PPA;QHA;PRA;PSA;QHA
PTA;QHA;QSA;RHA;PWA;PYA;PZA;QHA;8VOWEL SIGN AA;JE;JI;JO;JU;3RIAGE SYMBOL;3TIAL ARTS UNIFORM
2SARAM GONDI DIGIT EIGHT;KFIVE;LOUR;KNINE;KONE;KSEVEN;LIX;KTHREE;LWO;KZERO;ELETTER A;MA;MI;MU;LBA
MHA;LCA;MHA;LDA;MDA;NHA;MHA;LE;LGA;MHA;LHA;LI;MI;LJA;MHA;MNYA;LKA;MHA;MSSA;LLA;MLA;LMA;LNA;MGA;MNA
MYA;LO;LPA;MHA;LRA;LSA;MHA;MSA;LTA;MHA;MRA;MTA;NHA;LU;MU;LVA;LYA;ERA-KARA;FEPHA;ESIGN ANUSVARA
JCANDRA;JHALANTA;JNUKTA;JVISARGA;EVIRAMA;FOWEL SIGN AA;QI;QU;PE;PI;QI;PO;PU;QU;PVOCALIC R
3CULINE ORDINAL INDICATOR;3K WORK SYMBOL;3U MARK;2TE DRINK;3HEMATICAL BOLD CAPITAL A;RLPHA;QB;RETA
QC;RHI;QD;RELTA;RIGAMMA;QE;RPSILON;RTA;QF;QG;RAMMA;QH;QI;ROTA;QJ;QK;RAPPA;QL;RAMDA;QM;RU;QN;RU;QO
RMEGA;SICRON;QP;RHI;RI;RSI;QQ;QR;RHO;QS;RIGMA;QT;RAU;RHETA;V SYMBOL;QU;RPSILON;QV;QW;QX;RI;QY;QZ
RETA;IDIGIT EIGHT;OFIVE;POUR;ONINE;OONE;OSEVEN;PIX;OTHREE;PWO;OZERO;IEPSILON SYMBOL
IFRAKTUR CAPITAL A;YB;YC;YD;YE;YF;YG;YH;YI;YJ;YK;YL;YM;YN;YO;YP;YQ;YR;YS;YT;YU;YV;YW;YX;YY;YZ
QSMALL A;WB;WC;WD;WE;WF;WG;WH;WI;WJ;WK;WL;WM;WN;WO;WP;WQ;WR;WS;WT;WU;WV;WW;WX;WY;WZ
IITALIC CAPITAL A;YLPHA;XB;YETA;XC;YHI;XD;YELTA;XE;YPSILON;YTA;XF;XG;YAMMA;XH;XI;YOTA;XJ;XK;YAPPA
XL;YAMDA;XM;YU;XN;YU;XO;YMEGA;ZICRON;XP;YHI;YI;YSI;XQ;XR;YHO;XS;YIGMA;XT;YAU;YHETA;c SYMBOL;XU
YPSILON;XV;XW;XX;YI;XY;XZ;YETA;PEPSILON SYMBOL;PKAPPA SYMBOL;PNABLA;PPARTIAL DIFFERENTIAL
QHI SYMBOL;QI SYMBOL;PRHO SYMBOL;PSMALL A;WLPHA;VB;WETA;VC;WHI;VD;WELTA;VE;WPSILON;WTA;VF
WINAL SIGMA;VG;WAMMA;VH;VI;WOTA;VJ;VK;WAPPA;VL;WAMDA;VM;WU;VN;WU;VO;WMEGA;XICRON;VP;WHI;WI;WSI;VQ
VR;WHO;VS;WIGMA;VT;WAU;WHETA;VU;WPSILON;VV;VW;VX;WI;VY;VZ;WETA;PTHETA SYMBOL;IKAPPA SYMBOL;INABLA
IPARTIAL DIFFERENTIAL;JHI SYMBOL;JI SYMBOL;IRHO SYMBOL;ISCRIPT CAPITAL A;XB;XC;XD;XE;XF;XG;XH;XI;XJ
XK;XL;XM;XN;XO;XP;XQ;XR;XS;XT;XU;XV;XW;XX;XY;XZ;PSMALL A;VB;VC;VD;VE;VF;VG;VH;VI;VJ;VK;VL;VM;VN;VO
VP;VQ;VR;VS;VT;VU;VV;VW;VX;VY;VZ;JMALL A;PLPHA;OB;PETA;OC;PHI;OD;PELTA;PIGAMMA;OE;PPSILON;PTA;OF
PINAL SIGMA;OG;PAMMA;OH;OI;POTA;OJ;OK;PAPPA;OL;PAMDA;OM;PU;ON;PU;OO;PMEGA;QICRON;OP;PHI;PI;PSI;OQ
OR;PHO;OS;PIGMA;OT;PAU;PHETA;OU;PPSILON;OV;OW;OX;PI;OY;OZ;PETA;ITHETA SYMBOL
DDOUBLE-STRUCK CAPITAL A;ZB;ZD;ZE;ZF;ZG;ZI;ZJ;ZK;ZL;ZM;ZO;ZS;ZT;ZU;ZV;ZW;ZX;ZY;RDIGIT EIGHT;XFIVE
YOUR;XNINE;XONE;XSEVEN;YIX;XTHREE;YWO;XZERO;RSMALL A;XB;XC;XD;XE;XF;XG;XH;XI;XJ;XK;XL;XM;XN;XO;XP
XQ;XR;XS;XT;XU;XV;XW;XX;XY;XZ;DFALLING DIAGONAL;ERAKTUR CAPITAL A;TB;TD;TE;TF;TG;TJ;TK;TL;TM;TN;TO
TP;TQ;TS;TT;TU;TV;TW;TX;TY;LSMALL A;RB;RC;RD;RE;RF;RG;RH;RI;RJ;RK;RL;RM;RN;RO;RP;RQ;RR;RS;RT;RU;RV
RW;RX;RY;RZ;DITALIC CAPITAL A;TLPHA;SB;TETA;SC;THI;SD;TELTA;SE;TPSILON;TTA;SF;SG;TAMMA;SH;SI;TOTA
SJ;SK;TAPPA;SL;TAMDA;SM;TU;SN;TU;SO;TMEGA;UICRON;SP;THI;TI;TSI;SQ;SR;THO;SS;TIGMA;ST;TAU;THETA
X SYMBOL;SU;TPSILON;SV;SW;SX;TI;SY;SZ;TETA;KEPSILON SYMBOL;KKAPPA SYMBOL;KNABLA
KPARTIAL DIFFERENTIAL;LHI SYMBOL;LI SYMBOL;KRHO SYMBOL;KSMALL A;RLPHA;QB;RETA;QC;RHI;QD;RELTA
ROTLESS I;YJ;QE;RPSILON;RTA;QF;RINAL SIGMA;QG;RAMMA;QI;ROTA;QJ;QK;RAPPA;QL;RAMDA;QM;RU;QN;RU;QO
RMEGA;SICRON;QP;RHI;RI;RSI;QQ;QR;RHO;QS;RIGMA;QT;RAU;RHETA;QU;RPSILON;QV;QW;QX;RI;QY;QZ;RETA
KTHETA SYMBOL;DLEFT ANGLE BRACKET;IDOUBLE ANGLE BRACKET;IFLATTENED PARENTHESIS
IWHITE SQUARE BRACKET;OTORTOISE SHELL BRACKET;DMONOSPACE CAPITAL A;VB;VC;VD;VE;VF;VG;VH;VI;VJ;VK;VL
VM;VN;VO;VP;VQ;VR;VS;VT;VU;VV;VW;VX;VY;VZ;NDIGIT EIGHT;TFIVE;UOUR;TNINE;TONE;TSEVEN;UIX;TTHREE;UWO
TZERO;NSMALL A;TB;TC;TD;TE;TF;TG;TH;TI;TJ;TK;TL;TM;TN;TO;TP;TQ;TR;TS;TT;TU;TV;TW;TX;TY;TZ
DRIGHT ANGLE BRACKET;JDOUBLE ANGLE BRACKET;JFLATTENED PARENTHESIS;JWHITE SQUARE BRACKET
PTORTOISE SHELL BRACKET;FSING DIAGONAL;DSANS-SERIF BOLD CAPITAL A;cLPHA;bB;cETA;bC;cHI;bD;cELTA;bE
cPSILON;cTA;bF;bG;cAMMA;bH;bI;cOTA;bJ;bK;cAPPA;bL;cAMDA;bM;cU;bN;cU;bO;cMEGA;dICRON;bP;cHI;cI;cSI
bQ;bR;cHO;bS;cIGMA;bT;cAU;cHETA;g SYMBOL;bU;cPSILON;bV;bW;bX;cI;bY;bZ;cETA;TDIGIT EIGHT;ZFIVE;aOUR
ZNINE;ZONE;ZSEVEN;aIX;ZTHREE;aWO;ZZERO;TEPSILON SYMBOL;TITALIC CAPITAL A;jLPHA;iB;jETA;iC;jHI;iD
jELTA;iE;jPSILON;jTA;iF;iG;jAMMA;iH;iI;jOTA;iJ;iK;jAPPA;iL;jAMDA;iM;jU;iN;jU;iO;jMEGA;kICRON;iP;jHI
jI;jSI;iQ;iR;jHO;iS;jIGMA;iT;jAU;jHETA;n SYMBOL;iU;jPSILON;iV;iW;iX;jI;iY;iZ;jETA;aEPSILON SYMBOL
aKAPPA SYMBOL;aNABLA;aPARTIAL DIFFERENTIAL;bHI SYMBOL;bI SYMBOL;aRHO SYMBOL;aSMALL A;hLPHA;gB;hETA
gC;hHI;gD;hELTA;gE;hPSILON;hTA;gF;hINAL SIGMA;gG;hAMMA;gH;gI;hOTA;gJ;gK;hAPPA;gL;hAMDA;gM;hU;gN;hU
gO;hMEGA;iICRON;gP;hHI;hI;hSI;gQ;gR;hHO;gS;hIGMA;gT;hAU;hHETA;gU;hPSILON;gV;gW;gX;hI;gY;gZ;hETA
aTHETA SYMBOL;TKAPPA SYMBOL;TNABLA;TPARTIAL DIFFERENTIAL;UHI SYMBOL;UI SYMBOL;TRHO SYMBOL;TSMALL A
aLPHA;ZB;aETA;ZC;aHI;ZD;aELTA;ZE;aPSILON;aTA;ZF;aINAL SIGMA;ZG;aAMMA;ZH;ZI;aOTA;ZJ;ZK;aAPPA;ZL
aAMDA;ZM;aU;ZN;aU;ZO;aMEGA;bICRON;ZP;aHI;aI;aSI;ZQ;ZR;aHO;ZS;aIGMA;ZT;aAU;aHETA;ZU;aPSILON;ZV;ZW;ZX
aI;ZY;ZZ;aETA;TTHETA SYMBOL;OCAPITAL A;WB;WC;WD;WE;WF;WG;WH;WI;WJ;WK;WL;WM;WN;WO;WP;WQ;WR;WS;WT;WU
WV;WW;WX;WY;WZ;ODIGIT EIGHT;UFIVE;VOUR;UNINE;UONE;USEVEN;VIX;UTHREE;VWO;UZERO;OITALIC CAPITAL A;dB
dC;dD;dE;dF;dG;dH;dI;dJ;dK;dL;dM;dN;dO;dP;dQ;dR;dS;dT;dU;dV;dW;dX;dY;dZ;VSMALL A;bB;bC;bD;bE;bF;bG
bH;bI;bJ;bK;bL;bM;bN;bO;bP;bQ;bR;bS;bT;bU;bV;bW;bX;bY;bZ;OSMALL A;UB;UC;UD;UE;UF;UG;UH;UI;UJ;UK;UL
UM;UN;UO;UP;UQ;UR;US;UT;UU;UV;UW;UX;UY;UZ;ECRIPT CAPITAL A;SC;SD;SG;SJ;SK;SN;SO;SP;SQ;SS;ST;SU;SV
SW;SX;SY;SZ;KSMALL A;QB;QC;QD;QF;QH;QI;QJ;QK;QL;QM;QN;QP;QQ;QR;QS;QT;QU;QV;QW;QX;QY;QZ;2XIMIZE
2YAN NUMERAL EIGHT;JEEN;FLEVEN;EFIFTEEN;GVE;FOUR;ITEEN;ENINE;ITEEN;EONE;ESEVEN;JTEEN;FIX;HTEEN;ETEN
FHIRTEEN;GREE;FWELVE;GO;EZERO;1EASURED ANGLE;E OPENING LEFT
FWITH OPEN ARM ENDING IN ARROW POINTING DOWN AND LEFT;zD RIGHT;sLEFT AND DOWN;zD UP;sRIGHT AND DOWN
zND UP;sUP AND LEFT;zRIGHT;9BY;9RIGHT ANGLE WITH DOT;3T ON BONE;2CHANICAL ARM;BLEG
2DEFAIDRIN CAPITAL LETTER A;SI;STIU;RB;RC;RD;RE;RF;RG;RH;SP;RI;RJ;RK;SP;RL;RM;RN;SG;SY;RO;SE;RP;RQ
RR;RS;RT;RU;RV;RW;RX;RY;SU;RZ;DOMMA;CDIGIT EIGHT;IFIVE;JOUR;ININE;IONE;L ALTERNATE FORM;ISEVEN;JIX
ITHREE;N ALTERNATE FORM;JWO;L ALTERNATE FORM;IZERO;CEXCLAMATION OH;CFULL STOP;CNUMBER EIGHTEEN
KLEVEN;JFIFTEEN;KOURTEEN;JNINETEEN;JSEVENTEEN;KIXTEEN;JTEN;KHIRTEEN;KWELVE;CSMALL LETTER A;QI;QTIU
PB;PC;PD;PE;PF;PG;PH;QP;PI;PJ;PK;QP;PL;PM;PN;QG;QY;PO;QE;PP;PQ;PR;PS;PT;PU;PV;PW;PX;PY;QU;PZ
DYMBOL AIVA;3IEVAL COMMA;9EXCLAMATION MARK;9QUESTION MARK;4UM BLACK CIRCLE;8OLD WHITE CIRCLE
7EIGHT POINTED BLACK STAR;DSPOKED ASTERISK;7FIVE SPOKED ASTERISK
8LATTENED LEFT PARENTHESIS ORNAMENT;HRIGHT PARENTHESIS ORNAMENT;8OUR POINTED BLACK STAR
KPINWHEEL STAR;7GREEK CROSS;7LEFT CURLY BRACKET ORNAMENT;CPARENTHESIS ORNAMENT
B-POINTING ANGLE BRACKET ORNAMENT;7MATHEMATICAL SPACE;7RIGHT CURLY BRACKET ORNAMENT
DPARENTHESIS ORNAMENT;C-POINTING ANGLE BRACKET ORNAMENT;7SALTIRE;8HADE;8IX POINTED BLACK STAR
BSPOKED ASTERISK;8MALL WHITE CIRCLE;7THREE POINTED BLACK STAR;LPINWHEEL STAR;7VERTICAL BAR
7WHITE CIRCLE;DSQUARE;2ETEI MAYEK AHANG KHUDAM;ENJI;EPUN IYEK;DCHEIKHAN;JEI;DDIGIT EIGHT;JFIVE;KOUR
JNINE;JONE;JSEVEN;KIX;JTHREE;KWO;JZERO;DLETTER ATIYA;KBA;LHAM;KCHA;MIL;KDDA;MHA;LHOU;LIL;KE;KGHOU
LOK;KHUK;KI;L LONSUM;KJHAM;LIL;KKHOU;LOK;N LONSUM;KLAI;N LONSUM;KMIT;N LONSUM;KNA;M LONSUM;LGOU
O LONSUM;LNA;LYA;KO;KPA;M LONSUM;LHAM;KRAI;KSAM;LHA;LSA;KTHOU;LIL;N LONSUM;LTA;MHA;KUN;KWAI;KYANG
EUM IYEK;DSYLLABLE REPETITION MARK;DVIRAMA;EOWEL SIGN AAI;QU;PNAP;PU;OCHEINAP;OII;PNAP;ONUNG;OONAP
OSOUNAP;OUNAP;PU;OVISARGA;OYENAP;DWORD REPETITION MARK;2LON;3TING FACE;2MO
2NDE KIKAKUI COMBINING NUMBER HUNDRED THOUSANDS;cS;VMILLIONS;VTEENS;XN THOUSANDS;YS;WHOUSANDS
EDIGIT EIGHT;KFIVE;LOUR;KNINE;KONE;KSEVEN;LIX;KTHREE;LWO;ESYLLABLE M001 KI;Q2 KA;Q3 KU;Q4 WI;Q5 WA
Q6 WU;Q7 MIN;Q8 MAN;Q9 MUN;P10 BI;Q1 BA;Q2 BU;Q3 I;Q4 A;Q5 U;Q6 DI;Q7 DA;Q8 DU;Q9 SI;P20 SA;Q1 SU
Q2 TI;Q3 TA;Q4 TU;Q5 LI;Q6 LA;Q7 LU;Q8 JI;Q9 JA;P30 JU;Q1 YI;Q2 YA;Q3 YU;Q4 FI;Q5 FA;Q6 FU;Q7 NIN
Q8 NAN;Q9 NUN;P40 HEE;Q1 HA;Q2 HOO;Q3 NGGA;Q4 KPEE;Q5 WO;Q6 HUAN;Q7 MBEE;Q8 KO;Q9 WVA;P50 PU;Q1 PE
Q2 HEN;Q3 HIN;Q4 LOO;Q5 TE;Q6 GBA;Q7 NGON;Q8 NYAN;Q9 MEN;P60 NYON;Q1 WVI;Q2 MBA;Q3 JO;Q4 NDO;Q5 KEE
Q6 PO;Q7 NDOO;Q8 PI;Q9 TO;P70 GBO;Q1 GBOO;Q2 MBE;Q3 LE;Q4 KPU;Q5 FE;Q6 KOO;Q7 VO;Q8 FEE;Q9 SO
P80 YE;Q1 PEE;Q2 NGGU;Q3 HEEI;Q4 LEE;Q5 VE;Q6 LONG NGGE;Q7 HUN;Q8 FO;Q9 DEE;P90 NGGI;Q1 TEE;Q2 KPA
Q3 GBEE;Q4 MON;Q5 KE;Q6 HE;Q7 BE;Q8 NYEN;Q9 PA;O100 E;Q1 FAN;Q2 POO;Q3 BOO;Q4 TOO;Q5 LONG MBOO
Q6 LONG NGGOO;Q7 GBE;Q8 KPE;Q9 YEE;P10 LONG LE;Q1 GA;Q2 KPOO;Q3 JE;Q4 WOO;Q5 NGGEE;Q6 SE;Q7 NEN
Q8 WE;Q9 NDE;P20 NGGO;Q1 YO;Q2 MBU;Q3 NDI;Q4 GBI;Q5 NDU;Q6 WEE;Q7 NGGUA;Q8 HOOU;Q9 NDA;P30 HAN
Q1 IN;Q2 KPI;Q3 FOO;Q4 NJOO;Q5 IN;Q6 SOO;Q7 EI;Q8 BO;Q9 WVE;P40 HO;Q1 YOO;Q2 LONG MBO;Q3 WEI;Q4 VOO
Q5 MBI;Q6 NGGE;Q7 O;Q8 GBU;Q9 NJEE;P50 BEE;Q1 VU;Q2 NJA;Q3 LO;Q4 MUAN;Q5 GI;Q6 NGGOO;Q7 JEE;Q8 KPO
Q9 NGGAA;P60 JOO;Q1 LONG MBE;Q2 SEE;Q3 EE;Q4 NYIN;Q5 OO;Q6 GUEI;Q7 GUAN;Q8 GU;Q9 NON;P70 NYUN;Q1 RA
Q2 MBOO;Q3 VEE;Q4 MBO;Q5 LONG JO;Q6 HI;Q7 NGUAN;Q8 EN;Q9 KUA;P80 DOO;Q1 DO;Q2 VI;Q3 LONG NGGO
Q4 NGEN;Q5 VA;Q6 HU;Q7 MBUU;Q8 MBEE;Q9 MUEN;P90 GEE;Q1 NDEE;Q2 NJU;Q3 HON;Q4 WUI;Q5 AN;Q6 SIA
Q7 FUA;3ORAH WITH NINE BRANCHES;3S SYMBOL;2RCURY;3OITIC CURSIVE FRACTION EIGHT TWELFTHS
RLEVEN TWELFTHS;QFIVE TWELFTHS;ROUR TWELFTHS;QNINE TWELFTHS;QONE HALF;UTWELFTH;QSEVEN TWELFTHS
RIX TWELFTHS;QTEN TWELFTHS;RHREE TWELFTHS;RWO TWELFTHS;HLETTER A;PRCHAIC SA;OBA;ODA;OE;OHHA;OI;OKA
PHA;OLA;OMA;ONA;PE;OO;OPA;OQA;ORA;OSA;PE;OTA;PE;PO;OWA;OYA;IOGOGRAM IMN;QRMT;HNUMBER EIGHT
T HUNDRED;b THOUSAND;UTHOUSAND;TY THOUSAND;OFIFTY;T THOUSAND;QVE;S HUNDRED;a THOUSAND;TTHOUSAND
PORTY;T THOUSAND;QUR;S HUNDRED;a THOUSAND;TTHOUSAND;ONINE;S HUNDRED;a THOUSAND;TTHOUSAND
STY THOUSAND;OONE;R HUNDRED;Z THOUSAND;STHOUSAND;OSEVEN;T HUNDRED;b THOUSAND;UTHOUSAND;TTY
V THOUSAND;PIX;R HUNDRED;Z THOUSAND;STHOUSAND;RTY;T THOUSAND;OTEN;R THOUSAND;PHIRTY;U THOUSAND;QREE
T HUNDRED;b THOUSAND;UTHOUSAND;PWENTY;U THOUSAND;QO;R HUNDRED;Z THOUSAND;STHOUSAND
9HIEROGLYPHIC LETTER A;TBA;V-2;TDA;TE;THHA;TI;TKA;UHA;TLA;TMA;TNA;V-2;UE;V-2;TO;TPA;TQA;TRA;V-2;TSA
V-2;UE;TTA;V-2;UE;V-2;UO;TWA;TYA;MSYMBOL VIDJ;X-2;3PERSON;2SSAGE WAITING;2TRICAL BREVE
9LONG OVER SHORT;JTWO SHORTS;9PENTASEME;9SHORT OVER LONG;9TETRASEME;ARISEME;AWO SHORTS JOINED
KOVER LONG;4O;1IAO LETTER AH;DRCHAIC MA;KNA;LGA;KZZA;CBA;DRI;CDA;DDA;DLHA;FYA;DZA;EHA;EYI;EZA;CFA
CGA;DHA;EHA;CHA;DHA;CKA;CLA;DHA;EYA;DYA;CMA;DHA;CNA;ESALIZATION;DGA;EHA;DHA;DNA;EHA;DYA;EHA;CPA;DLA
CQA;DGA;CREFORMED TONE-1;Q2;Q4;Q5;Q6;Q8;MSHA;DTE;CSA;DHA;DSA;DYI;CTA;DE;DLHA;FYA;DONE-2;H3;H4;H5;H6
H7;H8;DSA;EE;EHA;ESA;DTA;CVA;DFA;CWA;CXA;CYI DZHA;FKA;FNNA;FPA;FTA;GSA;HHA;GTA;CZA;DHA;DSA;EHA;DZA
ESA;FYA;EYA;5SIGN ASPIRATION;ACONSONANT MODIFIER BAR;AREFORMED ASPIRATION;JVOICING;5TONE ABOVE
ABELOW;ARIGHT;ATOP RIGHT;5VOWEL SIGN A;HA;HE;IE;HHH;HI;HN;IG;HU;GE;HA;HI;HN;IG;HR;IR;GI;HA;IN;JG;HE
HG;HI;HNG;HO;ING;HU;GN;HG;GO;HER;IY;HG;HO;HU;GROUNDED ER;QR;GU;HA;IN;JG;HEI;HI;HNG;HOG;HU;GVW;GW;HO
GY;HI;HUI;2CR DASH SYMBOL;5ON US SYMBOL;4O SIGN;5BE;5PHONE;5SCOPE;2DDLE DOT
7THIRD WHITE RIGHT POINTING INDEX;3LINE HORIZONTAL ELLIPSIS;2LITARY HELMET;9MEDAL;3KY WAY;3L SIGN
2NIBUS;4DISC;4MIZE;3US SIGN;A IN TRIANGLE;BWITH COMMA ABOVE;GDOT BELOW;GFALLING DOTS;GRISING DOTS
6TILDE;5-OR-PLUS SIGN;3Y;2RROR;6 BALL;1MSP;1OBILE PHONE;C OFF;DWITH RIGHTWARDS ARROW AT LEFT;2DELS
4RN PENTATHLON;3I ABBREVIATION SIGN;5DANDA;6IGIT EIGHT;BFIVE;COUR;BNINE;BONE;BSEVEN;CIX;BTHREE;CWO
BZERO;6OUBLE DANDA;5LETTER A;DA;DI;DU;CBA;DHA;CCA;DHA;CDA;DDA;EHA;DHA;CE;CGA;DHA;CHA;CI;DI;CJA;DHA
CKA;DHA;CLA;DLA;CMA;CNA;DGA;DNA;DYA;CO;CPA;DHA;CRA;CSA;DHA;DSA;CTA;DHA;DTA;EHA;CU;DU;CVA;DOCALIC L
LL;KR;LR;CYA;5SIGN ANUSVARA;BRDHACANDRA;AHUVA;AVIRAMA;CSARGA;5VOWEL SIGN AA;HI;HU;GE;GI;HI;GO;GU;HU
GVOCALIC L;PL;OR;PR;4FIER BREVE WITH INVERTED BREVE;9LETTER ACUTE ACCENT;HLVEOLAR CLICK;HPOSTROPHE
GBEGIN HIGH TONE;MLOW TONE;HILABIAL CLICK;GCAPITAL A;PE;OB;PARRED B;OC;OD;OE;OF;OG;OH;P WITH STROKE
OI;OJ;OK;OL;OM;ON;OO;PU;OP;OQ;OR;PEVERSED E;XN;OT;OU;OV;OW;HENTRED LEFT HALF RING;ORIGHT HALF RING
HHINESE TONE YANG PING;YQU;YRU;YSHANG;UIN PING;XQU;XRU;XSHANG;HIRCUMFLEX ACCENT;HOLON;HROSS ACCENT
HYRILLIC EN;PHARD SIGN;PSOFT SIGN;GDENTAL CLICK;HOT HORIZONTAL BAR;KSLASH;KVERTICAL BAR
IUBLE APOSTROPHE;NPRIME;IWN ARROWHEAD;LTACK;GEND HIGH TONE;KLOW TONE
HXTRA-HIGH DOTTED LEFT-STEM TONE BAR;YTONE BAR;RLEFT-STEM TONE BAR;RTONE BAR
MLOW DOTTED LEFT-STEM TONE BAR;XTONE BAR;QLEFT-STEM TONE BAR;QTONE BAR;GGEORGIAN NAR;HLOTTAL STOP
S WITH STROKE;HRAVE ACCENT;GHALF TRIANGULAR COLON;HIGH DOTTED LEFT-STEM TONE BAR;STONE BAR
LLEFT-STEM TONE BAR;LTONE BAR;GLATERAL CLICK;HEFT ARROWHEAD;LHALF RING;LTACK;HOW ACUTE ACCENT
KCIRCUMFLEX ACCENT;KDOTTED LEFT-STEM TONE BAR;RTONE BAR;MWN ARROWHEAD;KGRAVE ACCENT
KINVERTED EXCLAMATION MARK;KLEFT ARROW;UHEAD;O-STEM TONE BAR;KMACRON;KRIGHT ARROWHEAD;MNG;KTILDE
LONE BAR;KUP ARROWHEAD;KVERTICAL LINE;JER RIGHT CORNER ANGLE;GMACRON;HID DOTTED LEFT-STEM TONE BAR
RTONE BAR;KLEFT-STEM TONE BAR;KTONE BAR;JDLE DOUBLE ACUTE ACCENT;UGRAVE ACCENT;NGRAVE ACCENT
INUS SIGN;GOPEN SHELF;GPLUS SIGN;HRIME;GRAISED COLON;NDOWN ARROW;NEXCLAMATION MARK
NINVERTED EXCLAMATION MARK;NUP ARROW;HETROFLEX CLICK WITH RETROFLEX HOOK;IVERSED COMMA
PGLOTTAL STOP;b WITH STROKE;HHOTIC HOOK;HIGHT ARROWHEAD;MHALF RING;MTACK;GSHELF;IORT EQUALS SIGN
HMALL A;NE;NIN;NLPHA;MB;N WITH HOOK;NARRED O;NETA;NOTTOM HALF O;MC;N WITH CURL;NAPITAL AA;UB;UG
V WITH HOOK;UH;UI;V WITH STROKE;VNVERTED R;UL;V WITH BELT;UN;UOE;UR;UU;UY;NHI;NLOSED OMEGA
TREVERSED OPEN E;MD;N WITH HOOK;X AND TAIL;TTAIL;NELTA;OZH DIGRAPH;NOTLESS J WITH STROKE;h AND HOOK
NZ DIGRAPH;W WITH CURL;cRETROFLEX HOOK;ME;NNG;NSH;NTH;NZH;MF;NENG DIGRAPH;MG;N WITH HOOK;NAMMA
NREEK GAMMA;SPHI;MH;N WITH HOOK;TSTROKE;NENG;Q WITH HOOK;MI WITH STROKE;NOTA;MJ;N WITH CROSSED-TAIL
MK;ML;N WITH BELT;TINVERTED LAZY S;TMIDDLE TILDE;TPALATAL HOOK;TRETROFLEX HOOK;h AND BELT;NEZH
Q WITH RETROFLEX HOOK;NIGATURE OE;NS DIGRAPH;NZ DIGRAPH;MM;N WITH HOOK;MN WITH LEFT HOOK
TRETROFLEX HOOK;MO;N WITH STROKE;NPEN E;RO;MP;NHI;MQ;MR;N WITH FISHHOOK;TTAIL;NAMS HORN;NEVERSED E
VGLOTTAL STOP;VOPEN E;MS;N WITH CURL;THOOK;NCHWA;ORIPT G;NIDEWAYS U;MT;N WITH PALATAL HOOK
TRETROFLEX HOOK;NC DIGRAPH WITH CURL;NESH DIGRAPH;NHETA;NOP HALF O;NS DIGRAPH;W WITH RETROFLEX HOOK
NURNED A;UE;ULPHA;TH;TI;TM;U WITH LONG LEG;TOPEN E;TR;U WITH HOOK;aLONG LEG;i AND RETROFLEX HOOK;TV
TW;TY;U WITH BELT;MU;N BAR;OWITH LEFT HOOK;NPSILON;MV;N WITH HOOK;TRIGHT HOOK;MW;MX;MY;MZ
N WITH CURL;TRETROFLEX HOOK;HTRESS AND HIGH TONE;RLOW TONE;HUPERSCRIPT HALF TRIANGULAR COLON
STRIANGULAR COLON;GTRIANGULAR COLON;HURNED COMMA;GUNASPIRATED;HP ARROWHEAD;JTACK;HS;GVERTICAL LINE
HOICING;GYANG DEPARTING TONE MARK;HIN DEPARTING TONE MARK;3ULO TWO SUM;2NEY BAG;6WITH WINGS
5-MOUTH FACE;3GOLIAN BIRGA;F WITH DOUBLE ORNAMENT;LORNAMENT;ACOLON;CMMA;ADIGIT EIGHT;GFIVE;HOUR
GNINE;GONE;GSEVEN;HIX;GTHREE;HWO;GZERO;BOUBLE BIRGA WITH ORNAMENT;AELLIPSIS;AFOUR DOTS
BREE VARIATION SELECTOR FOUR;YONE;YTHREE;ZWO;BULL STOP;AINVERTED BIRGA;O WITH DOUBLE ORNAMENT
ALETTER A;ILI GALI A;RH;RNUSVARA ONE;QBALUDA;QCA;QDA;SGALGA;SMARU;RDA;QHALF U;VYA;QI
RNVERTED UBADAMA;QKA;QNGA;RNA;QPA;RHA;QSSA;QTA;RHREE BALUDA;RTA;SHA;QUBADAMA;QVISARGA ONE;QZA;RHA
ING;HBA;HCHA;K WITH TWO DOTS;JI;HDA;HE;IE;HFA;HGA;HHAA;HI;HJA;HKA;IHA;HLA;IHA;HMA
JNCHU ALI GALI BHA;XCA;YYA;XDDHA;YHA;XGHA;XJHA;XLHA;XNGA;XSSA;XTA;YTA;XZA;YHA;OFA;OI;OKA;ORA;OZHA
HNA;HO;IE;HPA;HQA;HRA;HSA;IHA;IIBE ANG;MCHA;MDA;ME;MFA;MGA;OA;MHA;OA;MI;NY;MJA;MKA;MPA;MRAA;MSHA
MTA;NSA;MU;NE;MZA;NHA;HTA;IODO ALI GALI TA;VZHA;NNG;MBA;MCHA;MDA;NZA;ME;MGA;OA;MHAA;MI;MJA;NIA;MKA
MLONG VOWEL SIGN;MMA;MNIA;MO;NE;MPA;MQA;MTA;NSA;MU;NE;MWA;MYA;ISA;HU;IE;HWA;HYA;HZA;IHI;IRA
AMANCHU COMMA;HFULL STOP;ANIRUGU;AROTATED BIRGA;N WITH DOUBLE ORNAMENT;TORNAMENT
ASIBE SYLLABLE BOUNDARY MARKER;BWIRL BIRGA;L WITH DOUBLE ORNAMENT;RORNAMENT;ATODO SOFT HYPHEN
BRIPLE BIRGA WITH ORNAMENT;BURNED SWIRL BIRGA WITH DOUBLE ORNAMENT;AVOWEL SEPARATOR;3KEY;6 FACE
3OGRAM FOR EARTH;DYANG;EIN;4RAIL;4STABLE SYMBOL;2OD BUBBLE;3N CAKE;5VIEWING CEREMONY;2SQUE;5ITO
2THER CHRISTMAS;3OR BOAT;6SCOOTER;5IZED WHEELCHAIR;5WAY;2UNT FUJI;5AIN;8 BICYCLIST;9CABLEWAY
9RAILWAY;3SE;5 FACE;6TRAP;3TH;2VIE CAMERA;2YAI;1RO DANDA;5IGIT EIGHT;AFIVE;BOUR;ANINE;AONE;ASEVEN
BIX;ATHREE;BWO;AZERO;5OUBLE DANDA;4LETTER A;BBA;BCHU;BDA;DI;BE;CA;BHAI;DO;BKEAAE;CHAI;CO;BLA;DN
BMAEM;CIM;BNGI;CIN;BO;CL;CO;BPA;CHI;BRI;CO;BSHI;BTA;CEK;CHEA;BWA;BYO;1UCH GREATER-THAN;5LESS-THAN
2LTANI LETTER A;FBA;GHA;FCA;GHA;FDA;GDA;HDA;HHA;GHA;FE;FGA;GHA;FHA;FI;FJA;GJA;FKA;GHA;FLA;FMA;FNA
GNA;GYA;FPA;GHA;FRA;GHA;GRA;FSA;FTA;GHA;GTA;HHA;FU;FVA;FYA;8SECTION MARK;4IMAP;5PLE MUSICAL NOTES
7ICATION SIGN;J IN DOUBLE CIRCLE;NLEFT HALF CIRCLE;NRIGHT HALF CIRCLE;NTRIANGLE;KWITH DOT ABOVE
PUNDERBAR;FX;5SET;8 MULTIPLICATION;9UNION;2SHROOM;3IC FLAT SIGN;6NATURAL SIGN;6SHARP SIGN
5AL KEYBOARD;G WITH JACKS;8NOTE;8SCORE;9YMBOL ARPEGGIATO DOWN;QUP;FBEGIN BEAM;LPHRASE;LSLUR;LTIE
GRACE;JKET;HEATH MARK;IVE;JIS;L REST;FC CLEF;GAESURA;GIRCLE X NOTEHEAD;GLIMACUS;IVIS
HUSTER NOTEHEAD BLACK;WWHITE;GODA;HMBINING ACCENT;V-STACCATO;QUGMENTATION DOT;PBEND;PDOIT
RUBLE TONGUE;RWN BOW;PFLAG-1;U2;U3;U4;U5;RIP;PHARMONIC;PLOURE;PMARCATO;W-STACCATO;PRIP;PSMEAR
QNAP PIZZICATO;QPRECHGESANG STEM;QTACCATISSIMO;WO;REM;PTENUTO;QREMOLO-1;X2;X3;RIPLE TONGUE;PUP BOW
IMON TIME;GRESCENDO;HOIX;GUT TIME;FDA CAPO;HL SEGNO;HMP;J ALL;HSHED BARLINE;GECRESCENDO;HGREE SLASH
GOUBLE BARLINE;MFLAT;MSHARP;GRUM CLEF-1;P2;FEIGHTH NOTE;MREST;GND BEAM;JOF STIMME;JPHRASE;JSLUR
JTIE;FF CLEF;L OTTAVA ALTA;TBASSA;GERMATA;M BELOW;GINAL BARLINE;IGERED TREMOLO-1;W2;W3
HVE-LINE STAFF;GLAT DOWN;KUP;GORTE;HUR-LINE STAFF;KSTRING FRETBOARD;GUSA BLACK;KWHITE;FG CLEF
L OTTAVA ALTA;TBASSA;GLISSANDO DOWN;PUP;GRACE NOTE NO SLASH;QSLASH;HEGORIAN C CLEF;PF CLEF
FHALF NOTE;KPEDAL MARK;KREST;HUPTSTIMME;FINVERTED TURN;FKIEVAN C CLEF;MEIGHTH NOTE STEM DOWN;dUP
NND OF PIECE;MFINAL NOTE;NLAT SIGN;MHALF NOTE;MQUARTER NOTE STEM DOWN;eUP;MRECITATIVE MARK
MWHOLE NOTE;GORON;FLEFT REPEAT SIGN;GONGA;K IMPERFECTA REST;LPERFECTA REST;FMAXIMA;GEZZO;GINIMA
L BLACK;MREST;GOON NOTEHEAD BLACK;TWHITE;GULTI REST;KPLE MEASURE REST;FNATURAL DOWN;NUP;GEBENSTIMME
GOTEHEAD BLACK;GULL NOTEHEAD;FONE HUNDRED TWENTY-EIGHTH NOTE;fREST;I-LINE STAFF;GRNAMENT STROKE-1
W0;W1;V2;V3;V4;V5;V6;V7;V8;V9;GTTAVA ALTA;MBASSA;FPARENTHESIS NOTEHEAD;GEDAL MARK;LUP MARK
HS SUBPUNCTIS;GIANO;GLUS NOTEHEAD;GODATUS;HRRECTUS;O FLEXUS;FQUARTER NOTE;NREST;NTONE FLAT;SSHARP
HINDICESIMA ALTA;SBASSA;FREPEAT DOTS;LED FIGURE-1;V2;V3;HVERSE FINAL BARLINE;GIGHT REPEAT SIGN
HNFORZANDO;FSCANDICUS;O FLEXUS;GEGNO;HMIBREVIS BLACK;QREST;QWHITE;JMINIMA BLACK;QREST;QWHITE
GHARP DOWN;LUP;HORT BARLINE;GINGLE BARLINE;HX-LINE STAFF;JSTRING FRETBOARD;ITEENTH NOTE;PREST
JY-FOURTH NOTE;SREST;GORI;GQUARE B;MNOTEHEAD BLACK;VWHITE;GUBITO
FTEMPUS IMPERFECTUM CUM PROLATIONE IMPERFECTA;x DIMINUTION-1;zIMINUTION-2;zIMINUTION-3;nPERFECTA
MPERFECTUM CUM PROLATIONE IMPERFECTA;lPERFECTA;t DIMINUTION-1;GHIRTY-SECOND NOTE;TREST
HREE-LINE STAFF;GORCULUS;N RESUPINUS;GR;HIANGLE NOTEHEAD DOWN BLACK;cWHITE;XLEFT BLACK;cWHITE
XRIGHT BLACK;dWHITE;XUP BLACK;aRIGHT BLACK;gWHITE;aWHITE;N-ROUND NOTEHEAD DOWN BLACK;iWHITE;GURN
J SLASH;KUP;GWO-LINE STAFF;FVIRGA;GOID NOTEHEAD;FWHOLE NOTE;LREST;GITH FINGERNAILS;FX NOTEHEAD;FZ
1VS;1W;1YANMAR CONSONANT SIGN MEDIAL HA;URA;UWA;UYA;OON MEDIAL LA;YMA;YNA;NSHAN MEDIAL WA
8DIGIT EIGHT;EFIVE;FOUR;ENINE;EONE;ESEVEN;FIX;ETHREE;FWO;EZERO;8LETTER A;GITON RA;GU;FBA;GHA;FCA
GHA;FDA;GDA;HHA;GHA;FE;GASTERN PWO KAREN GHWA;XNNA;XYWA;FGA;GHA;GREAT SA;FHA;FI;GI;FJA;GHA;FKA;GHA
IMTI CA;NHA;MDDA;OHA;NHA;MFA;MGA;MHA;NHA;MJA;NHA;MLLA;MNA;NYA;MRA;MSA;MTTA;OHA;MXA;MZA;FLA;GLA;FMA
GON BBA;LE;JE;JJHA;JNGA;FNA;GGA;GNA;HYA;GYA;FO;FPA;GHA;FRA;GUMAI PALAUNG FA;FSA;GGAW KAREN SHA;GHA
IN A;KBA;LHA;KCA;LHA;KDA;KFA;KGA;LHA;KHA;KJHA;KKA;LHA;KNA;LNA;LYA;KPHA;KTHA;KZA;HWE PALAUNG CHA
SSHA;GSA;FTA;HI LAING BA;QHA;PDA;QDA;RHA;QHA;PFA;PGA;QHA;PJA;QHA;PLLA;PNNA;QYA;GHA;GTA;HHA;FU;GU
FVOCALIC L;OL;NR;OR;FWA;GESTERN PWO KAREN PWA;XTHA;FYA;9OGOGRAM KHAMTI HM;OOAY;OQN
8MODIFIER LETTER KHAMTI REDUPLICATION;OSHAN REDUPLICATION;8SHAN DIGIT EIGHT;JFIVE;KOUR;JNINE;JONE
JSEVEN;KIX;JTHREE;KWO;JZERO;9IGN ANUSVARA;ESAT;DDOT BELOW;DKHAMTI TONE-1;P3;DLITTLE SECTION
DPAO KAREN TONE;DRUMAI PALAUNG TONE-5;DSECTION;EHAN COUNCIL EMPHATIC TONE;QTONE-2;V3;ISAW;ITONE-2
N3;N5;N6;DTAI LAING TONE-2;S5;DVIRAMA;FSARGA;DWESTERN PWO KAREN TONE-1;a2;a3;a4;a5
9YMBOL AFOREMENTIONED;GITON EXCLAMATION;LONE;LTWO;FCOMPLETED;FGENITIVE;FLOCATIVE;FSHAN EXCLAMATION
KONE;8TAI LAING DIGIT EIGHT;OFIVE;POUR;ONINE;OONE;OSEVEN;PIX;OTHREE;PWO;OZERO
9ONE MARK SGAW KAREN HATHI;TKE PHO;8VOWEL SIGN AA;KI;LTON A;QI;JE;K ABOVE;JGEBA KAREN I;JI;KI
JKAYAH EE;POE;PU;JMON II;NO;JSGAW KAREN EU;KHAN AA;OE;P ABOVE;OFINAL Y;JTALL AA;JU;KU;JVOCALIC L;SL
RR;SR;JWESTERN PWO KAREN EU;bUE;0N-ARY CIRCLED DOT OPERATOR;EPLUS OPERATOR;ETIMES OPERATOR
7OPRODUCT;6INTERSECTION;6LOGICAL AND;EOR;6PRODUCT;6SQUARE INTERSECTION OPERATOR;DUNION OPERATOR
7UMMATION;6TIMES OPERATOR;6UNION;B OPERATOR WITH DOT;QPLUS;6WHITE VERTICAL BAR
1ABATAEAN CRUCIFORM NUMBER FOUR;ALETTER ALEPH;IYIN;HBETH;HDALETH;HFINAL ALEPH;NBETH;NHE;NKAPH
NLAMEDH;NMEM;NNUN;NSHIN;NYODH;HGIMEL;HHE;JTH;HKAPH;HLAMEDH;HMEM;HNUN;HPE;HQOPH;HRESH;HSADHE;JMEKH
IHIN;HTAW;IETH;HWAW;HYODH;HZAYIN;ANUMBER FIVE;IOUR;HONE;K HUNDRED;HTEN;IHREE;IWENTY;JO;3LA
2IL POLISH;3RA SIGN;2K;2ME BADGE;2ND;4INAGARI HEADSTROKE;CLETTER A;KA;KI;KU;JBA;KHA;JCA;KHA;JDA;KDA
LHA;KHA;JE;JGA;KHA;JHA;JI;KI;JJA;KHA;JKA;KHA;JLA;KLA;JMA;JNA;KGA;KNA;KYA;JO;JPA;KHA;JRA;KRA;JSA;KHA
KSA;JTA;KHA;KTA;LHA;JU;KU;JVA;KOCALIC R;SR;JYA;CSIGN ANUSVARA;IVAGRAHA;HSIDDHAM;HVIRAMA;JSARGA
CVOWEL SIGN AA;OI;OU;NE;NI;OI;NO;NPRISHTHAMATRA E;NU;OU;NVOCALIC R;WR;2RROW NO-BREAK SPACE
2TIONAL DIGIT SHAPES;9PARK;2USEATED FACE;2ZAR AMULET;1BH;2SP;1ECKTIE
2GATED DOUBLE VERTICAL BAR DOUBLE RIGHT TURNSTILE;5IVE ACKNOWLEDGE;9CIRCLED DIGIT ZERO
HLATIN CAPITAL LETTER A;cB;cC;cD;cE;cF;cG;cH;cI;cJ;cK;cL;cM;cN;cO;cP;cQ;cR;cS;cT;cU;cV;cW;cX;cY;cZ
HNUMBER EIGHTEEN;PLEVEN;OFIFTEEN;POURTEEN;ONINETEEN;OSEVENTEEN;PIXTEEN;OTHIRTEEN;PWELVE;RNTY
HSQUARE;HTRIANGLE;9DIAGONAL CROSS;IDIAMOND;IMIDDLE RIGHT TO LOWER CENTRE;9SQUARED AB;HCROSS MARK
HIC;HLATIN CAPITAL LETTER A;cB;cC;cD;cE;cF;cG;cH;cI;cJ;cK;cL;cM;cN;cO;cP;cQ;cR;cS;cT;cU;cV;cW;cX;cY
cZ;HPA;HQUESTION MARK;HSA;HWC;2ITHER A SUBSET OF NOR EQUAL TO;CPERSET OF NOR EQUAL TO
9PPROXIMATELY NOR ACTUALLY EQUAL TO;8GREATER-THAN NOR EQUAL TO;SIVALENT TO;PLESS-THAN
8LESS-THAN NOR EQUAL TO;PIVALENT TO;MGREATER-THAN;2L;2PTUNE;7 FORM TWO;2RD FACE;2SSUS;3T WITH EGGS
4ING DOLLS;2UTER;4RAL CHESS BISHOP;K ROTATED NINETY DEGREES;TTWO HUNDRED SEVENTY DEGREES
EEQUIHOPPER;O ROTATED NINETY DEGREES;EKING;I ROTATED NINETY DEGREES;RTWO HUNDRED SEVENTY DEGREES
FNIGHT;K ROTATED FORTY-FIVE DEGREES;TNINETY DEGREES;TONE HUNDRED THIRTY-FIVE DEGREES
TTHREE HUNDRED FIFTEEN DEGREES;UWO HUNDRED SEVENTY DEGREES;fTWENTY-FIVE DEGREES;EPAWN
I ROTATED NINETY DEGREES;RTWO HUNDRED SEVENTY DEGREES;EQUEEN;J ROTATED NINETY DEGREES
STWO HUNDRED SEVENTY DEGREES;EROOK;I ROTATED NINETY DEGREES;RTWO HUNDRED SEVENTY DEGREES
ETURNED BISHOP;LKING;MNIGHT;LPAWN;LQUEEN;LROOK;8FACE;2W LINE;4MOON SYMBOL;9WITH FACE;4SHEQEL SIGN
4TAI LUE DIGIT EIGHT;IFIVE;JOUR;ININE;IONE;ISEVEN;JIX;ITHREE;JWO;IZERO;CLETTER FINAL B;PD;PK;PM;PN
QG;PV;JHIGH BA;ODA;OFA;OHA;OKA;PVA;OLA;OMA;ONA;PGA;OPA;PHA;OQA;OSA;PUA;OTA;PHA;PSA;OVA;OXA;PVA;OYA
JLOW BA;NDA;NFA;NHA;NKA;OVA;NLA;NMA;NNA;OGA;NPA;OHA;NQA;NSA;OUA;NTA;OHA;OSA;NVA;NXA;OVA;NYA
CSIGN LAE;KV;CTHAM DIGIT ONE;DONE MARK-1;M2;CVOWEL SIGN AA;PY;OE;OY;NE;NII;OY;NO;OA;PY;OY;NU;OE;PY
OU;OY;NVOWEL SHORTENER;3A ABBREVIATION SIGN;5COMMA;5DANDA;6IGIT EIGHT;BFIVE;COUR;BNINE;BONE;BSEVEN
CIX;BTHREE;CWO;BZERO;6OUBLE COMMA;CDANDA;5GAP FILLER;5INSERTION SIGN;5LETTER A;DA;DI;DU;CBA;DHA;CCA
DHA;CDA;DDA;EHA;DHA;CE;CGA;DHA;CHA;CI;DI;CJA;DHA;CKA;DHA;CLA;DHA;CMA;DHA;CNA;DGA;EHA;DHA;DNA;DYA
EHA;CO;CPA;DHA;CRA;DHA;CSA;DHA;DSA;CTA;DHA;DTA;EHA;CU;DU;CVEDIC ANUSVARA;DOCALIC L;LL;KR;LR;CWA;CYA
5OM;5PLACEHOLDER MARK;5SANDHI MARK;6IDDHI;7GN ANUSVARA;BVAGRAHA;ACANDRABINDU;AFINAL ANUSVARA
AJIHVAMULIYA;ANUKTA;AUPADHMANIYA;AVIRAMA;CSARGA;5VOWEL SIGN AA;HI;HU;GE;GI;HI;GO;GU;HU;GVOCALIC L
PL;OR;PR;3LINE LEFT;8RIGHT;3SPAPER;2XT LINE;5PAGE;1IGHT WITH STARS;2NJA
1KO COMBINING DOUBLE DOT ABOVE;ELONG DESCENDING TONE;JHIGH TONE;JLOW TONE;JRISING TONE
ENASALIZATION MARK;ESHORT HIGH TONE;KLOW TONE;KRISING TONE;7MA;4DANTAYALAN;5IGIT EIGHT;AFIVE;BOUR
ANINE;AONE;ASEVEN;BIX;ATHREE;BWO;AZERO;5OROME SIGN;4EXCLAMATION MARK;4HIGH TONE APOSTROPHE
4LAJANYALAN;5ETTER A;BBA;BCHA;BDA;DGBASINNA;BE;CE;BFA;BGBA;BHA;BI;BJA;CONA CHA;GJA;GRA;BKA;BLA;BMA
BN;CA;D WOLOSO;CYA;E WOLOSO;BO;CO;BPA;BRA;CRA;BSA;BTA;BU;BWA;BYA;5OW TONE APOSTROPHE
4SYMBOL GBAKURUNEN;BOO DENNEN;4TAMAN SIGN;1L;1NBSP;1O BICYCLES;4REAK HERE;3ENTRY;8 SIGN
3MOBILE PHONES;3ONE UNDER EIGHTEEN SYMBOL;3PEDESTRIANS;4IRACY;3SMOKING SYMBOL;2-BREAK SPACE
2MINAL DIGIT SHAPES;4SMA SIGN;2N-BREAKING HYPHEN;4POTABLE WATER SYMBOL;3FORKING;2R;3DIC MARK SIGN
3MAL SUBGROUP OF;I OR EQUAL TO;3TH EAST AND SOUTH WEST ARROW;CRROW;G AND SOUTH EAST ARROW
HCROSSING NORTH WEST ARROW;QSOUTH EAST ARROW;HWITH HOOK;BBLACK ARROW;BDOUBLE ARROW;BPOINTING BUD
KLEAF;KVINE LEAF;BSANS-SERIF ARROW;BTRIANGLE-HEADED ARROW;W TO BAR;BWHITE ARROW
6INDIC FRACTION ONE EIGHTH;PHALF;PQUARTER;PSIXTEENTH;LTHREE QUARTERS;RSIXTEENTHS;CPLACEHOLDER MARK
CQUANTITY MARK;FRTER MARK;CRUPEE MARK;6WEST AND SOUTH EAST ARROW;CRROW;G AND NORTH EAST ARROW
HCROSSING NORTH EAST ARROW;HTO CORNER;KLONG BAR;HWITH HOOK;BBLACK ARROW;BDOUBLE ARROW;BPOINTING BUD
KLEAF;KVINE LEAF;BSANS-SERIF ARROW;BTRIANGLE-HEADED ARROW;W TO BAR;BWHITE ARROW
5EAST-POINTING AIRPLANE;2SE;2T A SUBSET OF;8PERSET OF;5LMOST EQUAL TO;5N ELEMENT OF
5SYMPTOTICALLY EQUAL TO;4CHECK MARK;4EQUAL TO;7IVALENT TO;4GREATER-THAN;4IDENTICAL TO;4LESS-THAN
4NORMAL SUBGROUP OF;M OR EQUAL TO;4PARALLEL TO;4SIGN;5QUARE IMAGE OF OR EQUAL TO
BORIGINAL OF OR EQUAL TO;4TILDE;5RUE;3CHED LEFT SEMICIRCLE WITH THREE DOTS
9OWER RIGHT-SHADOWED WHITE RIGHTWARDS ARROW;8RIGHT SEMICIRCLE WITH THREE DOTS
8UPPER RIGHT-SHADOWED WHITE RIGHTWARDS ARROW;3E;4 PAD;7GE;4BOOK;8 WITH DECORATIVE COVER;1UL;3L
2MBER EIGHTEEN FULL STOP;8LEVEN FULL STOP;7FIFTEEN FULL STOP;8OURTEEN FULL STOP;7NINETEEN FULL STOP
7SEVENTEEN FULL STOP;8IGN;9XTEEN FULL STOP;7TEN FULL STOP;8HIRTEEN FULL STOP;8WELVE FULL STOP
ANTY FULL STOP;3ERO SIGN;2SHU CHARACTER-1B170;K1;K2;K3;K4;K5;K6;K7;K8;K9;KA;KB;KC;KD;KE;KF;J80;K1
K2;K3;K4;K5;K6;K7;K8;K9;KA;KB;KC;KD;KE;KF;J90;K1;K2;K3;K4;K5;K6;K7;K8;K9;KA;KB;KC;KD;KE;KF;JA0;K1
K2;K3;K4;K5;K6;K7;K8;K9;KA;KB;KC;KD;KE;KF;JB0;K1;K2;K3;K4;K5;K6;K7;K8;K9;KA;KB;KC;KD;KE;KF;JC0;K1
K2;K3;K4;K5;K6;K7;K8;K9;KA;KB;KC;KD;KE;KF;JD0;K1;K2;K3;K4;K5;K6;K7;K8;K9;KA;KB;KC;KD;KE;KF;JE0;K1
K2;K3;K4;K5;K6;K7;K8;K9;KA;KB;KC;KD;KE;KF;JF0;K1;K2;K3;K4;K5;K6;K7;K8;K9;KA;KB;KC;KD;KE;KF;I200;K1
K2;K3;K4;K5;K6;K7;K8;K9;KA;KB;KC;KD;KE;KF;J10;K1;K2;K3;K4;K5;K6;K7;K8;K9;KA;KB;KC;KD;KE;KF;J20;K1
K2;K3;K4;K5;K6;K7;K8;K9;KA;KB;KC;KD;KE;KF;J30;K1;K2;K3;K4;K5;K6;K7;K8;K9;KA;KB;KC;KD;KE;KF;J40;K1
K2;K3;K4;K5;K6;K7;K8;K9;KA;KB;KC;KD;KE;KF;J50;K1;K2;K3;K4;K5;K6;K7;K8;K9;KA;KB;KC;KD;KE;KF;J60;K1
K2;K3;K4;K5;K6;K7;K8;K9;KA;KB;KC;KD;KE;KF;J70;K1;K2;K3;K4;K5;K6;K7;K8;K9;KA;KB;KC;KD;KE;KF;J80;K1
K2;K3;K4;K5;K6;K7;K8;K9;KA;KB;KC;KD;KE;KF;J90;K1;K2;K3;K4;K5;K6;K7;K8;K9;KA;KB;KC;KD;KE;KF;JA0;K1
K2;K3;K4;K5;K6;K7;K8;K9;KA;KB;KC;KD;KE;KF;JB0;K1;K2;K3;K4;K5;K6;K7;K8;K9;KA;KB;KC;KD;KE;KF;JC0;K1
K2;K3;K4;K5;K6;K7;K8;K9;KA;KB;KC;KD;KE;KF;JD0;K1;K2;K3;K4;K5;K6;K7;K8;K9;KA;KB;KC;KD;KE;KF;JE0;K1
K2;K3;K4;K5;K6;K7;K8;K9;KA;KB;KC;KD;KE;KF;JF0;K1;K2;K3;K4;K5;K6;K7;K8;K9;KA;KB;6ITERATION MARK
2T AND BOLT;1YIAKENG PUACHUE HMONG CIRCLED CA;NDIGIT EIGHT;TFIVE;UOUR;TNINE;TONE;TSEVEN;UIX;TTHREE
UWO;TZERO;NLETTER A;VA;UCA;UDA;VLA;UE;VE;UFA;UGA;UHA;WH;UI;UKA;ULA;UMA;VLA;UNA;VCA;VKA;VPA;WLA;VQA
VRA;VTA;WSA;WXA;VYA;UO;VO;UPA;VLA;UQA;URA;VRA;USA;UTA;VSA;VXA;UU;UVA;UW;UXA;VYA;UYA;UZA
OOGOGRAM NYAJ;NSIGN FOR ANIMAL;WINVERTEBRATE;WLOCATION;WPERSON;WTHING;SXW XW;OYLLABLE LENGTHENER
NTONE-B;SD;SG;SJ;SM;SS;SV;0OBJECT REPLACEMENT CHARACTER;2LIQUE ANGLE OPENING DOWN;MUP;8HYPHEN
2SERVER EYE SYMBOL;1CR AMOUNT OF CHECK;4BELT BUCKLE;5OW TIE;5RANCH BANK IDENTIFICATION;4CHAIR
5USTOMER ACCOUNT NUMBER;4DASH;5OUBLE BACKSLASH;4FORK;4HOOK;4INVERTED FORK;2TAGONAL SIGN;3OPUS;1DEN
1FFICE BUILDING;1GHAM FEATHER MARK;6LETTER AILM;DBEITH;DCEIRT;EOLL;DDAIR;DEABHADH;FDHADH;FMHANCHOLL
DFEARN;DGORT;DIFIN;EODHADH;DLUIS;DMUIN;DNGEADAL;EION;DONN;ER;DPEITH;DRUIS;DSAIL;ETRAIF;DTINNE;DUATH
EILLEANN;ER;6REVERSED FEATHER MARK;6SPACE MARK;2ONEK;1HM SIGN;1IL DRUM;1K HAND SIGN;1L CHIKI AHAD
9DIGIT EIGHT;FFIVE;GOUR;FNINE;FONE;FSEVEN;GIX;FTHREE;GWO;FZERO;9GAAHLAA TTUDDAAG;9LETTER AAJ;IK;IM
IW;HG;HL;HNG;HT;GEDD;HN;HP;HRR;GIH;HNY;HR;HS;GLA;IA;HE;HI;HO;HU;GOB;HH;HTT;HV;GUC;HD;HNN;HY
9MU TTUDDAG;B-GAAHLAA TTUDDAAG;9PHAARKAA;AUNCTUATION DOUBLE MUCAAD;LMUCAAD;9RELAA
2D CHINESE HOOK MARK;CITERATION MARK;4HUNGARIAN CAPITAL LETTER A;UA;UK;UMB;UND;TCLOSE E;TE;UB;UC;VH
VS;UD;UE;UF;UG;VY;UH;UJ;UK;UL;VY;UM;VP;UN;VC;VT;W-SHAPED SIGN;VY;UP;UR;US;VZ;UT;VY;UV;UZ;VS;TI;UI
TNIKOLSBURG OE;eUE;TO;UEE;UO;TRUDIMENTA OE;dUE;TSHORT ER;TU;UNK;US;UU;ENUMBER FIFTY;NVE;LONE
O HUNDRED;PTHOUSAND;LTEN;ESMALL LETTER A;SA;SK;SMB;SND;RCLOSE E;RE;SB;SC;TH;TS;SD;SE;SF;SG;TY;SH;SJ
SK;SL;TY;SM;TP;SN;TC;TT;U-SHAPED SIGN;TY;SP;SR;SS;TZ;ST;TY;SV;SZ;TS;RI;SI;RNIKOLSBURG OE;cUE;RO;SEE
SO;RRUDIMENTA OE;bUE;RSHORT ER;RU;SNK;SS;SU;4ITALIC LETTER A;IBE;ICHE;IDE;IE;JF;JKS;JL;JM;JN;JR;KS
JS;KH;KS;IHE;II;JI;IKA;JE;JHE;JU;INORTHERN TSE;IO;IPE;JHE;ISHE;JOUTHERN TSE;ITE;JHE;IU;JU;IVE;IYE
IZE;BNUMERAL FIFTY;LVE;JONE;JTEN;4KEY;4NORTH ARABIAN LETTER AIN;QLEF;PBEH;PDAD;RL;PES-1;S2;S3;PFEH
PGEEM;QHAIN;PHAH;QEH;PKAF;QHAH;PLAM;PMEEM;PNOON;PQAF;PREH;PSAD;PTAH;QEH;QHAL;REH;PWAW;PYEH;PZAH;RIN
INUMBER ONE;PTEN;QWENTY;4PERMIC LETTER AN;IBUR;ICHERY;IDOI;JZHOI;KITA;IE;JF;IGAI;IHA;II;JA;JE;IKOKE
ILEI;IMENOE;INENOE;IO;JO;IPEEI;IREI;ISHCHOOI;KOOI;JII;ITAI;JSIU;IU;IVER;JOOI;IYA;KT;JER;LI;LU;JRY
JU;IZATA;JHOI;7SIAN NUMBER HUNDRED;JONE;JTEN;KWENTY;LO;CSIGN A;IURAMAZDAA;R-2;RHA;HBA;JGA;IUUMISH
HCA;HDA;JHYAAUSH;Q-2;II;IU;HFA;HGA;IU;HHA;HI;HJA;II;HKA;IU;HLA;HMA;II;IU;HNA;IU;HPA;HRA;IU;HSA;IHA
ISA;HTA;IHA;IU;HU;HVA;II;HXA;ISHAAYATHIYA;HYA;HZA;CWORD DIVIDER;8ONAL COMPUTER
4SOGDIAN FRACTION ONE HALF;CLETTER ALEPH;LTERNATE AYIN;KYIN;JBETH;JFINAL ALEPH;PBETH;PHE;PNUN
S WITH VERTICAL TAIL;PSADHE;U WITH VERTICAL TAIL;PTAW;S WITH VERTICAL TAIL;JGIMEL;JHE;LTH;JKAPH
JLAMEDH;JMEM;JNUN;JPE;JRESH-AYIN-DALETH;JSADHE;LMEKH;KHIN;JTAW;JWAW;JYODH;JZAYIN
DIGATURE AYIN-DALETH;CNUMBER FIVE;KOUR;JONE;M HUNDRED;JTEN;KHIRTY;LREE;KWENTY;LO
6UTH ARABIAN LETTER ALEF;QYN;PBETH;PDALETH;QHADHE;SLETH;PFE;PGHAYN;QIMEL;PHE;RTH;PKAPH;QHETH
PLAMEDH;PMEM;PNUN;PQOPH;PRESH;PSADHE;RMEKH;RT;QHIN;PTAW;QETH;QHAW;RETH;PWAW;PYODH;PZAYN
INUMBER FIFTY;PONE;LERIC INDICATOR;4TURKIC LETTER ORKHON A;QB;QD;QEB;RD;RG;RK;RL;RN;RR;RS;RT;RY;QG
QL;QN;QQ;QR;QS;RH;QT;QY;PBASH;PEC;QLT;QM;QNC;RG;RT;RY;QP;QSH;QZ;PI;QC;QQ;PO;QE;RK;QP;QQ;QT
IYENISEI A;RB;RD;RE;SB;SG;SK;SN;TG;ST;SY;RG;RL;RNG;RQ;RR;RSH;RT;RY;QE;RC;RNC;ST;SY;RSH;RZ;QI;RQ;QOE
SK;RQ;4UYGHUR COMBINING DOT ABOVE;PBELOW;LTWO DOTS ABOVE;UBELOW;BLETTER ALEPH;IBETH;IFINAL HETH
IGIMEL-HETH;IKAPH;ILAMEDH;JESH;IMEM;INUN;IPE;IRESH;ISADHE;KMEKH;JHIN;ITAW;IWAW;IYODH;IZAYIN
BPUNCTUATION BAR;NFOUR DOTS;NTWO BARS;RDOTS;3ER ADULT;6MAN;6WOMAN;2IVE;1M SYMBOL
1N WITH EXCLAMATION MARK WITH LEFT RIGHT ARROW ABOVE;2COMING AUTOMOBILE;9BUS;9FIRE ENGINE
9POLICE CAR;9TAXI;2E BUTTON MOUSE;4DOT LEADER;8OVER TWO DOTS PUNCTUATION;3-PIECE SWIMSUIT;2ION
1PEN BOOK;7X;5CENTRE ASTERISK;CBLACK STAR;CCROSS;CTEARDROP-SPOKED ASTERISK;5FILE FOLDER;6OLDER
5HANDS SIGN;5LOCK;5MAILBOX WITH LOWERED FLAG;IRAISED FLAG;5SUBSET;7PERSET
4-CIRCUIT-OUTPUT H-TYPE SYMBOL;KL-TYPE SYMBOL;5OUTLINED RIGHTWARDS ARROW;3RATING SYSTEM COMMAND
2HIUCHUS;2POSITION;2TICAL DISC;C ICON;4ON KEY;1R WITH DOT INSIDE;2ANGE BOOK;7HEART;5UTAN;2IGINAL OF
3YA AI LENGTH MARK;7U LENGTH MARK;6DIGIT EIGHT;CFIVE;DOUR;CNINE;CONE;CSEVEN;DIX;CTHREE;DWO;CZERO
6FRACTION ONE EIGHTH;JHALF;JQUARTER;JSIXTEENTH;FTHREE QUARTERS;LSIXTEENTHS;6ISSHAR;6LETTER A;EA;EI
EU;DBA;EHA;DCA;EHA;DDA;EDA;FHA;EHA;DE;DGA;EHA;DHA;DI;EI;DJA;EHA;DKA;EHA;DLA;ELA;DMA;DNA;EGA;ENA;EYA
DO;DPA;EHA;DRA;EHA;ERA;DSA;EHA;ESA;DTA;EHA;ETA;FHA;DU;EU;DVA;EOCALIC L;ML;LR;MR;DWA;DYA;EYA
6SIGN ANUSVARA;CVAGRAHA;BCANDRABINDU;BNUKTA;BOVERLINE;BVIRAMA;DSARGA;6VOWEL SIGN AA;II;IU;HE;HI;II
HO;HU;IU;HVOCALIC L;QL;PR;QR;2NATE LEFT PARENTHESIS;7RIGHT PARENTHESIS;2THODOX CROSS
1SAGE CAPITAL LETTER A;MH;MI;NN;LBRA;LCHA;LDHA;LE;MHCHA;NKA;NPA;NTA;OSA;MIN;LGHA;LHA;MYA;LI;LKA;MHA
MYA;LLA;LMA;LNA;LO;MIN;LPA;LSA;MHA;LTA;MSA;NHA;LU;LWA;LZA;MHA;6SMALL LETTER A;KH;KI;LN;JBRA;JCHA
JDHA;JE;KHCHA;LKA;LPA;LTA;MSA;KIN;JGHA;JHA;KYA;JI;JKA;KHA;KYA;JLA;JMA;JNA;JO;KIN;JPA;JSA;KHA;JTA
KSA;LHA;JU;JWA;JZA;KHA;2C;2MANYA DIGIT EIGHT;EFIVE;FOUR;ENINE;EONE;ESEVEN;FIX;ETHREE;FWO;EZERO
8LETTER A;GA;GLEF;FBA;FCAYN;FDEEL;GHA;FE;GE;FFA;FGA;FHA;FI;FJA;FKAAF;GHA;FLAAN;FMIIN;FNUUN;FO;GO
FQAAF;FRA;FSA;GHIIN;FTA;FU;FWAW;FXA;FYA;1TTER;3OMAN SIYAQ ALTERNATE NUMBER EIGHT;VFIVE;WOUR
Z HUNDRED;VNINE;VSEVEN;WIX;Y HUNDRED;VTEN;Y THOUSAND;WHREE;WWO;Y THOUSAND;EFRACTION ONE HALF;RSIXTH
EMARRATAN;ENUMBER EIGHT;Q HUNDRED;RTHOUSAND;QY;R THOUSAND;LFIFTY;Q THOUSAND;NVE;P HUNDRED;QTHOUSAND
MORTY;Q THOUSAND;NUR;P HUNDRED;QTHOUSAND;LNINE;P HUNDRED;QTHOUSAND;PTY;R THOUSAND;LONE;O HUNDRED
PTHOUSAND;LSEVEN;Q HUNDRED;RTHOUSAND;QTY;S THOUSAND;MIX;O HUNDRED;PTHOUSAND;OTY;Q THOUSAND;LTEN
O THOUSAND;MHIRTY;R THOUSAND;NREE;Q HUNDRED;RTHOUSAND;MWENTY;R THOUSAND;NO;O HUNDRED;PTHOUSAND
1UNCE SIGN;2TBOX TRAY;3LINED BLACK STAR;9GREEK CROSS;9LATIN CROSS;9WHITE STAR;1VERHEATED FACE;4LAP
7PING BLACK SQUARES;CWHITE AND BLACK SQUARES;ISQUARES;5INE;1WL;1X;1YSTER;0PACKAGE;2D
3DING CHARACTER;2GE;4 FACING UP;5WITH CIRCLED TEXT;BURL;4R;4S;3ODA;2HAWH HMONG CLAN SIGN FAJ;NHAM
PWJ;NKHAB;OOO;OWM;NLAUJ;OIS;NMUAS;NPHAB;NTHOJ;OSAB;PHEEJ;PWB;NVAJ;OWJ;NXYOOJ;NYAJ;OEEG;EONSONANT AU
NCAU;OHAU;NHAU;OLAU;ONAU;NLAU;NMAU;NNAU;OCHAU;OKAU;OLAU;OTHAU;PSAU;NPLHAU;NQHAU;NRAU;NVAU;NXAU;NYAU
DDIGIT EIGHT;JFIVE;KOUR;JNINE;JONE;JSEVEN;KIX;JTHREE;KWO;JZERO;DMARK CIM HOM;MKES;NHAV;MSO;NUAM
MTAUM;NUB;DNUMBER HUNDRED MILLIONS;RS;KMILLIONS;KTEN BILLIONS;OTHOUSANDS;NS;LRILLIONS;DSIGN AV
ICIM CHEEM;NUAM TSHOOJ;MHAIS LUS NTOG NTOG;MNRES TOS;MPUB DAWB;MTSOV ROG;NXWV;Q CHWV;IHLI;JNUB
IIB YAM;ILOS;IMEEJ SUAB;NTSEEB;JUS;INQIG;JTUJ;ITAU;JHIRD-STAGE HLI;JXHEEJ CEEV;IVOS FEEM;MLUB;MNRUA
MSEEV;MTHIAB;OOM;NSHAB CEEB;IXAUS;JIAB;JYEEM FAIB;ONTXIV;ORHO;OTOV;KOO;IZWJ THAJ;DVOWEL KAAB;MV;LB
LIB;MV;LUB;MV;LV;LWB;MV;KEB;LEB;MV;LV;KIAB;MV;LB;LV;KOB;LOB;MV;LV;KUAB;MV;LB;LV;KWB;LV;2LLAS
3M BRANCH;5DOWN HAND;5TREE;5UP HAND;4S UP TOGETHER;4YRENE LEFT-POINTING FLEURON;CTTER ALEPH;IYIN
HBETH;HDALETH;HFINAL NUN;HGIMEL;HHE;JTH;HKAPH;HLAMEDH;HMEM;HNUN;HPE;HQOPH;HRESH;HSADHE;JMEKH;IHIN
HTAW;IETH;HWAW;HYODH;HZAYIN;ANUMBER FIVE;IOUR;HONE;HTEN;IHREE;IWENTY;JO;ARIGHT-POINTING FLEURON
2NCAKES;3DA FACE;2PERCLIP;2RACHUTE;4GRAPH SEPARATOR;9OS;9US MARK;4LLEL TO;9WITH HORIZONTAL STROKE
ETILDE OPERATOR;3ENTHESIZED DIGIT EIGHT;KFIVE;LOUR;KNINE;KONE;KSEVEN;LIX;KTHREE;LWO;EHANGUL CHIEUCH
S A;MIEUC;Q A;RU;LHIEUH;Q A;LIEUNG;Q A;LKHIEUKH;S A;MIYEOK;R A;LMIEUM;Q A;LNIEUN;Q A;LPHIEUPH;S A
MIEUP;Q A;LRIEUL;Q A;LSIOS;P A;LTHIEUTH;S A;MIKEUT;R A;EIDEOGRAPH ALLIANCE;OCALL;PONGRATULATION
OEARTH;PIGHT;PNTERPRISE;OFESTIVAL;PINANCIAL;QRE;QVE;POUR;OHAVE;OLABOR;OMETAL;POON;ONAME;PINE;OONE
OREACH;QPRESENT;QSOURCE;RT;OSELF;QVEN;PIX;POCIETY;PPECIAL;PTOCK;QUDY;PUN;QPERVISE;OTEN;PHREE;PWO
OWATER;POOD;EKOREAN CHARACTER O HU;WJEON;ELATIN CAPITAL LETTER A;ZB;ZC;ZD;ZE;ZF;ZG;ZH;ZI;ZJ;ZK;ZL
ZM;ZN;ZO;ZP;ZQ;ZR;ZS;ZT;ZU;ZV;ZW;ZX;ZY;ZZ;KSMALL LETTER A;XB;XC;XD;XE;XF;XG;XH;XI;XJ;XK;XL;XM;XN;XO
XP;XQ;XR;XS;XT;XU;XV;XW;XX;XY;XZ;ENUMBER EIGHTEEN;MLEVEN;LFIFTEEN;MOURTEEN;LNINETEEN;LSEVENTEEN
MIXTEEN;LTEN;MHIRTEEN;MWELVE;ONTY;3ROT;3T ALTERNATION MARK;4IAL DIFFERENTIAL;8LINE BACKWARD;DDOWN
DFORWARD;DUP;7LY-RECYCLED PAPER SYMBOL;4NERSHIP SIGN;4Y POPPER;2SSED SYMBOL;5NGER SHIP
4IVE-PULL-DOWN-OUTPUT SYMBOL;DUP-OUTPUT SYMBOL;4PORT CONTROL;2U CIN HAU GLOTTAL STOP;O FINAL
PVARIANT;CLETTER A;JBA;JCA;KHA;JDA;JE;JFA;KINAL K;PL;PM;PN;QG;PP;PT;PW;PY;JGA;JHA;JI;KA;JKA;KHA;JLA
JMA;JNA;KGA;JO;JPA;KHA;JRA;JSA;JTA;KHA;JU;KA;JVA;JZA;DOW-FALLING TONE;S FINAL;TLONG;X FINAL
CMID-LEVEL TONE;Q FINAL;RLONG FINAL;CRISING TONE;N FINAL;OLONG;S FINAL;CSANDHI GLOTTAL STOP;V FINAL
JTONE;N FINAL;OLONG;S FINAL;2W PRINTS;1DF;2I;1EACE SYMBOL;4H;4OCK;3NUTS;3R;2DESTRIAN
2N OVER STAMPED ENVELOPE;3CIL;3GUIN;3SIVE FACE;3TAGRAM;2OPLE HUGGING;2R MILLE SIGN;4SIGN
4TEN THOUSAND SIGN;3CENT SIGN;3FORMING ARTS;3MANENT PAPER SIGN;3PENDICULAR;D WITH S;3SEVERING FACE
4ON BOWING DEEPLY;7CLIMBING;7DOING CARTWHEEL;7FROWNING;7IN LOTUS POSITION;ASTEAMY ROOM
7RAISING BOTH HANDS IN CELEBRATION;7WITH BALL;DLOND HAIR;CCROWN;CFOLDED HANDS;CHEADSCARF
CPOUTING FACE;6AL COMPUTER;4PECTIVE;2SETA SIGN;3O SIGN;2TRI DISH;1HAGS-PA DOUBLE HEAD MARK
9LETTER A;HLTERNATE YA;HSPIRATED FA;GBA;GCA;INDRABINDU;HHA;GDA;HDA;HZA;GE;HE;GFA;GGA;HGA;GHA;GI;GJA
GKA;HHA;GLA;GMA;GNA;HGA;HNA;HYA;GO;GPA;HHA;GQA;GRA;GSA;HHA;HMALL A;GTA;HHA;HSA;IHA;HTA;IHA;GU
GVOICED HA;LLESS SHA;GWA;GXA;GYA;GZA;HHA;9MARK DOUBLE SHAD;ESHAD;9SINGLE HEAD MARK
AUBJOINED LETTER RA;QWA;QYA;BPERFIXED LETTER RA;3ISTOS DISC SIGN ARROW;JBEE;MHIVE;KOOMERANG;LW
KULLS LEG;JCAPTIVE;LRPENTRY PLANE;LT;KHILD;KLUB;KOLUMN;LMB;NINING OBLIQUE STROKE;JDOLIUM;LVE;JEAGLE
JFLUTE;JGAUNTLET;KRATER;JHELMET;KIDE;KORN;JLID;LLY;JMANACLES;LTTOCK;JOX BACK;JPAPYRUS;KEDESTRIAN
KLANE TREE;LUMED HEAD;JRAM;KOSETTE;JSAW;KHIELD;MP;KLING;KMALL AXE;KTRAINER;JTATTOOED HEAD;KIARA
KUNNY;JVINE;JWAVY BAND;KOMAN;2ILIPPINE DOUBLE PUNCTUATION;BSINGLE PUNCTUATION;2OENICIAN LETTER AIN
JLF;IBET;IDELT;IGAML;IHE;KT;IKAF;ILAMD;IMEM;INUN;IPE;IQOF;IROSH;ISADE;JEMK;JHIN;ITAU;JET;IWAU;IYOD
IZAI;BNUMBER ONE;L HUNDRED;ITEN;JHREE;JWENTY;KO;BWORD SEPARATOR;3LUS;1ICK;4UP TRUCK;2E;2G;3 FACE
4NOSE;2LCROW SIGN;3E OF POO;3L;2NATA;3CHED FINGERS;5ING HAND;3E DECORATION;4APPLE;3WHEEL STAR;2SCES
3TOL;2TCHFORK;9 WITH TEE TOP;1LACARD;4E OF INTEREST SIGN;9WORSHIP;3NCK CONSTANT;F OVER TWO PI
3YGROUND SLIDE;4ING CARD ACE OF CLUBS;KDIAMONDS;KHEARTS;KSPADES;DBACK;ELACK JOKER;DEIGHT OF CLUBS
MDIAMONDS;MHEARTS;MSPADES;DFIVE OF CLUBS;LDIAMONDS;LHEARTS;LSPADES;EOOL;FUR OF CLUBS;LDIAMONDS
LHEARTS;LSPADES;DJACK OF CLUBS;LDIAMONDS;LHEARTS;LSPADES;DKING OF CLUBS;LDIAMONDS;LHEARTS;LSPADES
ENIGHT OF CLUBS;NDIAMONDS;NHEARTS;NSPADES;DNINE OF CLUBS;LDIAMONDS;LHEARTS;LSPADES;DQUEEN OF CLUBS
MDIAMONDS;MHEARTS;MSPADES;DRED JOKER;DSEVEN OF CLUBS;MDIAMONDS;MHEARTS;MSPADES;EIX OF CLUBS
KDIAMONDS;KHEARTS;KSPADES;DTEN OF CLUBS;KDIAMONDS;KHEARTS;KSPADES;EHREE OF CLUBS;MDIAMONDS;MHEARTS
MSPADES;ERUMP-1;K0;K1;K2;K3;K4;K5;K6;K7;K8;K9;J2;K0;K1;J3;J4;J5;J6;J7;J8;J9;EWO OF CLUBS;KDIAMONDS
KHEARTS;KSPADES;DWHITE JOKER;2D;2U;3NGER;3S SIGN;9 ABOVE EQUALS SIGN;AIN LEFT HALF CIRCLE
DRIGHT HALF CIRCLE;DTRIANGLE;AWITH BLACK TRIANGLE;FCIRCUMFLEX ACCENT ABOVE;FDOT BELOW
FSMALL CIRCLE ABOVE;GUBSCRIPT TWO;FTILDE ABOVE;LBELOW;4-MINUS SIGN;3TO;5 FORM FIVE;COUR;BTHREE;CWO
1M;1OCKET CALCULATOR;2LICE CAR;AS REVOLVING LIGHT;7OFFICER;2ODLE;2P DIRECTIONAL FORMATTING;GISOLATE
3CORN;2RTABLE STEREO;2SEIDON;3ITION INDICATOR;3TAL HORN;7MARK;B FACE;4BOX;2T OF FOOD
3ABLE WATER SYMBOL;4TO;3TED PLANT;2UCH;3LTRY LEG;3ND SIGN;3RING LIQUID;3TING CAT FACE;8FACE
2WER ON SYMBOL;8-OFF SYMBOL;6SLEEP SYMBOL;7YMBOL;1RAYER BEADS;2ECEDES;8 ABOVE ALMOST EQUAL TO
FEQUALS SIGN;FNOT ALMOST EQUAL TO;JEQUAL TO;FSINGLE-LINE EQUALS SIGN;RNOT EQUAL TO
9BUT NOT EQUIVALENT TO;9OR EQUAL TO;FIVALENT TO;9UNDER RELATION;3GNANT MAN;9PERSON;9WOMAN
3SCRIPTION TAKE;4ENTATION FORM FOR VERTICAL COLON;XMMA;VEM DASH;WN DASH;WXCLAMATION MARK
VHORIZONTAL ELLIPSIS;VIDEOGRAPHIC COMMA;hFULL STOP;VLEFT ANGLE BRACKET;aBLACK LENTICULAR BRACKET
aCORNER BRACKET;bURLY BRACKET;aDOUBLE ANGLE BRACKET;aPARENTHESIS;aSQUARE BRACKET
aTORTOISE SHELL BRACKET;aWHITE CORNER BRACKET;gLENTICULAR BRACKET;WOW LINE;VQUESTION MARK
VRIGHT ANGLE BRACKET;bBLACK LENTICULAR BRACKET;bCORNER BRACKET;cURLY BRACKET;bDOUBLE ANGLE BRACKET
bPARENTHESIS;bSQUARE BRACKET;bTORTOISE SHELL BRACKET;bWHITE CORNER BRACKET;hLENTICULAR BRACKET
vKCET;VSEMICOLON;VTWO DOT LEADER;VWAVY LOW LINE;3TZEL;3VIOUS PAGE;2IME;3NCE;6SS;4T SCREEN SYMBOL
5ER;7 ICON;3VACY MESSAGE;5TE USE ONE;CTWO;B-1;C2;2OBING CANE;3HIBITED SIGN;3JECTIVE;3PERTY LINE
4ORTION;AAL TO;3SERPINA;1SALTER PAHLAVI FOUR DOTS WITH CROSS;VDOT;GLETTER ALEPH;NBETH;NDALETH
NGIMEL;NHE;PTH;NKAPH;NLAMEDH;NMEM-QOPH;NNUN;NPE;NSADHE;PMEKH;OHIN;NTAW;NWAW-AYIN-RESH;NYODH;NZAYIN
GNUMBER FOUR;NONE;Q HUNDRED;NTEN;OHREE;OWENTY;PO;GSECTION MARK;GTURNED SECTION MARK;1U1;22
2BLIC ADDRESS LOUDSPEAKER;2NCTUATION SPACE;6S ELEVATUS MARK;2RPLE HEART;3SE;2SHPIN
2T LITTER IN ITS PLACE SYMBOL;0QUADRANT LOWER LEFT;FRIGHT;9UPPER LEFT
J AND LOWER LEFT AND LOWER RIGHT;URIGHT;OUPPER RIGHT AND LOWER LEFT;kRIGHT;FRIGHT;K AND LOWER LEFT
Z AND LOWER RIGHT;5UPLE INTEGRAL OPERATOR;APRIME;3RTER NOTE;3TERNION INTEGRAL OPERATOR
2ESTION EXCLAMATION MARK;9MARK;8ED EQUAL TO;2INCUNX;2OTATION MARK;0RABBIT;6 FACE;2CCOON;3ING CAR
7MOTORCYCLE;2DICAL SYMBOL BOTTOM;4O;5 BUTTON;5ACTIVE SIGN;2ILWAY CAR;8TRACK;3N;4BOW
3SED BACK OF HAND;7COMMA;7DOT;ATED INTERPOLATION MARKER;7FIST;7HAND;B WITH FINGERS SPLAYED
HPART BETWEEN MIDDLE AND RING FINGERS;7INTERPOLATION MARKER;7MC SIGN;8D SIGN;8R SIGN;7SQUARE;2M;2T
3IO;2ZOR;1ECEIPT;3ORD SEPARATOR;3REATIONAL VEHICLE;3YCLED PAPER SYMBOL
6ING SYMBOL FOR GENERIC MATERIALS;LTYPE-1 PLASTICS;Q2 PLASTICS;Q3 PLASTICS;Q4 PLASTICS;Q5 PLASTICS
Q6 PLASTICS;Q7 PLASTICS;2D APPLE;4GIFT ENVELOPE;2FERENCE MARK;2GIONAL INDICATOR SYMBOL LETTER A;XB
XC;XD;XE;XF;XG;XH;XI;XJ;XK;XL;XM;XN;XO;XP;XQ;XR;XS;XT;XU;XV;XW;XX;XY;XZ;4STERED SIGN
2JANG CONSONANT SIGN H;MN;NG;MR;7LETTER A;EBA;ECA;EDA;EGA;EHA;EJA;EKA;ELA;EMA;FBA;ENA;FDA;FGA;GGA
FYA;GJA;EPA;ERA;ESA;ETA;EWA;EYA;7SECTION MARK;7VIRAMA;8OWEL SIGN AI;JU;IE;JA;JU;II;IO;IU
2LIEVED FACE;2MINDER RIBBON;2PLACEMENT CHARACTER;2SPONSE;3TRICTED LEFT ENTRY-1;M2;5OOM;2TURN LEFT
7RIGHT;7SYMBOL;2VERSE CHECKER BOARD;8INDEX;8LIGHT FOUR POINTED PINWHEEL STAR;ANE FEED;8SOLIDUS
F OPERATOR;GPRECEDING SUBSET;GWITH HORIZONTAL STROKE;8TILDE OPERATOR ABOVE LEFTWARDS ARROW
TRIGHTWARDS ARROW;7D ANGLE;E WITH UNDERBAR;9COMMA;9DOUBLE PRIME;L QUOTATION MARK;GSTROKE NOT SIGN
9EMPTY SET;9FORKED PARAGRAPHOS;9HAND WITH MIDDLE FINGER EXTENDED;9NOT SIGN;9PILCROW SIGN;ARIME
9QUESTION MARK;9RAISED HAND WITH FINGERS SPLAYED;AIGHT ANGLE;AOTATED FLORAL HEART BULLET
9SANS-SERIF CAPITAL L;AEMICOLON;9THUMBS DOWN SIGN;GUP SIGN;AILDE;E EQUALS;ARIPLE PRIME
9VICTORY HAND;3OLVING HEARTS;1HINOCEROS;1I;2AL SIGN;2BBON;6 ARROW DOWN LEFT;IRIGHT;DLEFT DOWN;IUP
DRIGHT DOWN;JUP;DUP LEFT;GRIGHT;2CE BALL;5CRACKER;2FLE;2GHT AND LOWER ONE EIGHTH BLOCK
AUPPER ONE EIGHTH BLOCK;8GER BUBBLE;9LE;B BRACKET;J WITH DOT;CDOTTED SUBSTITUTION MARKER
CSUBSTITUTION MARKER;CVARIANT WITH SQUARE;CWITH ARC;HDOWNWARDS ZIGZAG ARROW
7RC GREATER-THAN BRACKET;8ROW WITH CIRCLED PLUS;HSMALL CIRCLE;6BLACK LENTICULAR BRACKET
CTORTOISE SHELL BRACKET;6CEILING;7ORNER BRACKET;7URLY BRACKET;J LOWER HOOK;KMIDDLE PIECE
KUPPER HOOK;6DOTTED SUBSTITUTION BRACKET;8UBLE ANGLE BRACKET;ERROW WITH ROUNDED HEAD;DPARENTHESIS
DQUOTATION MARK;DWIGGLY FENCE;6FISH TAIL;8VE EIGHTHS BLOCK;7LOOR;6HALF BLACK CIRCLE;HSTAR;DOCK
BFOLDER;BMEDIUM SHADE;BRUNNING MAN;8ND TELEPHONE RECEIVER;6LOW PARAPHRASE BRACKET
6NORMAL FACTOR SEMIDIRECT PRODUCT;6ONE EIGHTH BLOCK;AQUARTER BLOCK;7PEN SQUARED DOT;7UTER JOIN
6PARENTHESIS;H EXTENSION;ILOWER HOOK;IUPPER HOOK;6RAISED OMISSION BRACKET;6S-SHAPED BAG DELIMITER
7EMIDIRECT PRODUCT;8VEN EIGHTHS BLOCK;7IDEWAYS U BRACKET;8NGLE QUOTATION MARK;7PEAKER
D WITH ONE SOUND WAVE;JTHREE SOUND WAVES;9ECH BUBBLE;7QUARE BRACKET;K EXTENSION;LLOWER CORNER
LUPPER CORNER;LWITH DOUBLE STROKE;QQUILL;QSTROKE;QTICK IN BOTTOM CORNER;YTOP CORNER;QUNDERBAR
7UBSTITUTION BRACKET;6TACK;7HIRD WHITE RIGHT POINTING INDEX;8OUGHT BUBBLE;8REE EIGHTHS BLOCK
CQUARTERS BLOCK;7ORTOISE SHELL BRACKET;7RANSPOSITION BRACKET;8IANGLE;E ABOVE LEFT TRIANGLE
CULAR ONE QUARTER BLOCK;6VERTICAL BAR WITH QUILL;GOX LINE;6WHITE CORNER BRACKET;DURLY BRACKET
CLENTICULAR BRACKET;CPARENTHESIS;CSQUARE BRACKET;CTORTOISE SHELL BRACKET;7IGGLY FENCE
5-FACING ARMENIAN ETERNITY SIGN;DFIST;DSVASTI SIGN;O WITH DOTS;6HANDED INTERLACED PENTAGRAM
6POINTING ANGLE BRACKET;FCURVED ANGLE BRACKET;FDOUBLE ANGLE QUOTATION MARK;FMAGNIFYING GLASS
6SHADED WHITE RIGHTWARDS ARROW;7IDE ARC CLOCKWISE ARROW;6TO-LEFT EMBEDDING;EISOLATE;EMARK;EOVERRIDE
5HAND INTERIOR PRODUCT;5WARDS ARROW;G ABOVE ALMOST EQUAL TO;NREVERSE ALMOST EQUAL TO
VTILDE OPERATOR;NSHORT LEFTWARDS ARROW;NTILDE OPERATOR;IND UPPER AND LOWER ONE EIGHTH BLOCK
HFROM BAR;P TO BLACK DIAMOND;HOVER LEFTWARDS ARROW;HTHROUGH GREATER-THAN;PSUPERSET;PX;IO BAR
LLACK DIAMOND;HWITH CORNER DOWNWARDS;MDOTTED STEM;OUBLE VERTICAL STROKE;MEQUILATERAL ARROWHEAD
MHOOK;MLARGE TRIANGLE ARROWHEAD;NOOP;MMEDIUM TRIANGLE ARROWHEAD;MNOTCHED TAIL;MPLUS BELOW
MSMALL EQUILATERAL ARROWHEAD;STRIANGLE ARROWHEAD;NTROKE;MTAIL;Q WITH DOUBLE VERTICAL STROKE
WVERTICAL STROKE;NIP DOWNWARDS;QUPWARDS;MVERTICAL STROKE;G-TAIL;BBACK-TILTED SHADOWED WHITE ARROW
CLACK ARROW;HCIRCLED WHITE ARROW;COTTOM SHADED WHITE ARROW;BCOMPRESSED ARROW;BDASHED ARROW
COUBLE ARROW;N FROM BAR;OWITH STROKE;TVERTICAL STROKE;N-TAIL;IDASH ARROW;BFINGER-POST ARROW
CRONT-TILTED SHADOWED WHITE ARROW;BHAND;DRPOON OVER LEFTWARDS HARPOON
JWITH BARB DOWN ABOVE LEFTWARDS HARPOON WITH BARB DOWN;YBELOW LONG DASH;YFROM BAR;YTO BAR;XWARDS
TUP ABOVE LEFTWARDS HARPOON WITH BARB UP;dONG DASH;cRIGHTWARDS HARPOON WITH BARB DOWN;WFROM BAR
WTO BAR;VWARDS;CEAVY ARROW;HCOMPRESSED ARROW;BLEFT-SHADED WHITE ARROW;BOPEN-HEADED ARROW
BPAIRED ARROWS;BQUADRUPLE ARROW;BRIGHT-SHADED WHITE ARROW;COCKET;BSANS-SERIF ARROW;CQUARED ARROW
EIGGLE ARROW;BTOP SHADED WHITE ARROW;CRIANGLE ARROWHEAD;J-HEADED ARROW
W OVER LEFTWARDS TRIANGLE-HEADED ARROW;XTO BAR;XWITH BOLD SHAFT;cDOUBLE HORIZONTAL STROKE
jVERTICAL STROKE;cHEAVY SHAFT;cLONG TIP DOWNWARDS;lUPWARDS;cMEDIUM SHAFT;cNARROW SHAFT
cVERY HEAVY SHAFT;RDASHED ARROW;RPAIRED ARROWS;EPLE ARROW;IDASH ARROW;CWO HEADED ARROW
E-HEADED ARROW FROM BAR;SWITH DOUBLE VERTICAL STROKE;XTAIL;b WITH DOUBLE VERTICAL STROKE
hVERTICAL STROKE;YRIANGLE ARROWHEADS;XVERTICAL STROKE;MTRIPLE DASH ARROW;BWAVE ARROW;CHITE ARROW
M FROM WALL;NWITHIN TRIANGLE ARROWHEAD;2NG;4 ABOVE;5BUOY;5EQUAL TO;5IN EQUAL TO;5OPERATOR;5POINT
4ED PLANET;4ING BELL;2SING DIAGONAL CROSSING FALLING DIAGONAL;PSOUTH EAST ARROW;1LE;2I;2M;2O
1OASTED SWEET POTATO;2BOT FACE;2CK;4ET;2LL OF PAPER;4ED-UP NEWSPAPER;5R COASTER;7SKATE
4ING ON THE FLOOR LAUGHING;2MAN AS SIGN;6CENTURIAL SIGN;6DENARIUS SIGN;7IMIDIA SEXTULA SIGN
7UPONDIUS SIGN;6NUMERAL EIGHT;FLEVEN;EFIFTY;J EARLY FORM;KTHOUSAND;GVE;I HUNDRED;JTHOUSAND;FOUR
ENINE;EONE;H HUNDRED;P THOUSAND;ITHOUSAND;Q C D;EREVERSED ONE HUNDRED;ESEVEN;FIX;H LATE FORM;ETEN
H THOUSAND;FHREE;FWELVE;GO;6QUINARIUS SIGN;6SEMUNCIA SIGN;8STERTIUS SIGN;8XTANS SIGN;AULA SIGN
7ILIQUA SIGN;6UNCIA SIGN;2OSTER;2SE;4TTE;2TATED CAPITAL Q;8FLORAL HEART BULLET
8HEAVY BLACK HEART BULLET;8LIGHT FOUR POINTED BLACK CUSP;8WHITE FOUR POINTED CUSP;2UND PUSHPIN
6TARGET;5ED SYMBOL FOR CAI;JFU;JLU;JSHOU;LUANGXI;JXI;2WBOAT;1S;1UBLE SIGN;2GBY FOOTBALL;2LE-DELAYED
2MI DIGIT EIGHT;BFIVE;COUR;BNINE;BONE;BSEVEN;CIX;BTHREE;CWO;5FRACTION ONE HALF;IQUARTER;ITHIRD
ETWO THIRDS;5NUMBER EIGHT HUNDRED;HY;CFIFTY;EVE HUNDRED;DORTY;EUR HUNDRED;CNINE HUNDRED;GTY
CONE HUNDRED;CSEVEN HUNDRED;HTY;DIX HUNDRED;FTY;CTEN;DHIRTY;EREE HUNDRED;DWENTY;EO HUNDRED
2NIC ARLAUG SYMBOL;6BELGTHOR SYMBOL;6CROSS PUNCTUATION;6LETTER AC A;EESC;ELGIZ EOLHX;ENSUZ A
DBERKANAN BEORC BJARKAN B;DC;EALC;EEALC;FN;EWEORTH;DD;EAGAZ DAEG D;EOTTED-L;KN;KP;DE;EAR;EHWAZ EH E
ENG;ETH;DFEHU FEOH FE F;ERANKS CASKET AC;SESC;REH;RIS;ROS;DG;EAR;EEBO GYFU G;FR;DHAEGL H;FGLAZ H
DICELANDIC-YR;ENG;GWAZ;EOR;ESAZ IS ISS I;EWAZ EOH;DJERAN J;DK;EAUN K;HA;DLAUKAZ LAGU LOGR L
EONG-BRANCH-AR AE;PHAGALL H;PMADR M;POSS O;PYR;DMANNAZ MAN M;DNAUDIZ NYD NAUD N;DO;EE;EN;EO;EPEN-P
ES O;ETHALAN ETHEL O;DPERTHO PEORTH P;DQ;DRAIDO RAD REID R;DSH;FORT-TWIG-AR A;OBJARKAN B;OHAGALL H
OMADR M;ONAUD N;OOSS O;OSOL S;OTYR T;OYR;EIGEL LONG-BRANCH-SOL S;EOWILO S;ETAN
DTHURISAZ THURS THORN;EIWAZ TIR TYR T;DURUZ UR U;DV;DW;EUNJO WYNN W;DX;DY;ER;DZ
6MULTIPLE PUNCTUATION;6SINGLE PUNCTUATION;6TVIMADUR SYMBOL;3NER;4ING SHIRT WITH SASH;2PEE SIGN
2SSIAN ASTROLOGICAL SYMBOL BINOVILE;SNOVILE;SQUINTILE;SSENTAGON;STREDECILE;SVIGINTILE
0S IN TRIANGLE;1AFETY PIN;7VEST;2GITTARIUS;2ILBOAT;2KE BOTTLE AND CUP;2LT SHAKER;4IRE;3UTING FACE
2MARITAN ABBREVIATION MARK;ALETTER ALAF;HBAA;IIT;HDALAT;HFI;HGAMAN;HIN;IT;IY;HKAAF;HLABAT;HMIM;HNUN
HQUF;HRISH;HSHAN;IINGAAT;HTAAF;IIT;ISAADIY;HYUT;HZEN;AMARK DAGESH;FEPENTHETIC YUT;FIN;H-ALAF
FNEQUDAA;FOCCLUSION;BODIFIER LETTER EPENTHETIC YUT;QI;QSHORT A;APUNCTUATION AFSAAQ;NNGED;ONAAU
NRKAANU;NTMAAU;MBAU;MMELODIC QITSA;MNEQUDAA;MQITSA;MSHIYYAALAA;NOF MASHFAAT;MTURU;MZAEF;NIQAA
AVOWEL SIGN A;MA;LE;LI;LLONG A;RA;QE;QI;QU;LO;MVERLONG A;VA;LSHORT A;MUKUN;LU;2NDWICH
3S-SERIF HEAVY DOUBLE COMMA QUOTATION MARK ORNAMENT;OTURNED COMMA QUOTATION MARK ORNAMENT
HLOW DOUBLE COMMA QUOTATION MARK ORNAMENT;BINTERROBANG ORNAMENT;2RI;2TELLITE;9 ANTENNA;3URN
2URASHTRA CONSONANT SIGN HAARU;BDANDA;CIGIT EIGHT;HFIVE;IOUR;HNINE;HONE;HSEVEN;IIX;HTHREE;IWO;HZERO
COUBLE DANDA;BLETTER A;JA;JI;JU;IBA;JHA;ICA;JHA;IDA;JDA;KHA;JHA;IE;JE;IGA;JHA;IHA;II;JI;IJA;JHA;IKA
JHA;ILA;JLA;IMA;INA;JGA;JNA;JYA;IO;JO;IPA;JHA;IRA;ISA;JHA;JSA;ITA;JHA;JTA;KHA;IU;JU;IVA;JOCALIC L
RL;QR;RR;IYA;BSIGN ANUSVARA;GCANDRABINDU;GVIRAMA;ISARGA;BVOWEL SIGN AA;NI;NU;ME;NE;MI;NI;MO;NO;MU
NU;MVOCALIC L;VL;UR;VR;4OPOD;2XOPHONE;1CALES;3RF;2HOOL;6 SATCHEL;2I;2OOTER;3RPION;6US;2REEN
4WDRIVER;3IPT CAPITAL B;FE;FF;FH;FI;FL;FM;FP;FR;7LIGATURE ET ORNAMENT;7SMALL E;DG;DL;DO;3OLL;3UPLE
1EAL;3T;2COND PLACE MEDAL;3TION SIGN;4OR;2DNA;2E-NO-EVIL MONKEY;3DLING;2GMENT;7ED DIGIT EIGHT;GFIVE
HOUR;GNINE;GONE;GSEVEN;HIX;GTHREE;HWO;GZERO;2LFIE;2MICOLON;4DIRECT PRODUCT WITH BOTTOM CLOSED
4SEXTILE;2PARATED SYMBOL;2RIOUS FACE WITH SYMBOLS COVERING MOUTH;3VICE MARK;2SAME DOT;3QUIQUADRATE
2T MINUS;4TRANSMIT STATE;2WING NEEDLE;2XTILE;1GC;1HADOWED WHITE CIRCLE;FLATIN CROSS;FSTAR
3LLOW PAN OF FOOD;3MROCK;3RADA ABBREVIATION SIGN;8CONTINUATION SIGN;8DANDA;9IGIT EIGHT;EFIVE;FOUR
ENINE;EONE;ESEVEN;FIX;ETHREE;FWO;EZERO;9OUBLE DANDA;8EKAM;9XTRA SHORT VOWEL MARK;8HEADSTROKE
8LETTER A;GA;GI;GU;FBA;GHA;FCA;GHA;FDA;GDA;HHA;GHA;FE;FGA;GHA;FHA;FI;GI;FJA;GHA;FKA;GHA;FLA;GLA;FMA
FNA;GGA;GNA;GYA;FO;FPA;GHA;FRA;FSA;GHA;GSA;FTA;GHA;GTA;HHA;FU;GU;FVA;GOCALIC L;OL;NR;OR;FYA;8OM
8SANDHI MARK;9ECTION MARK-1;L2;APARATOR;9IGN ANUSVARA;EVAGRAHA;DCANDRABINDU;DINVERTED CANDRABINDU
DJIHVAMULIYA;DNUKTA;DSIDDHAM;DUPADHMANIYA;DVIRAMA;FSARGA;9UTRA MARK;8VOWEL MODIFIER MARK;ESIGN AA
KI;KU;JE;JI;KI;JO;JPRISHTHAMATRA E;JU;KU;JVOCALIC L;SL;RR;SR;4K;3VED ICE;4IAN LETTER ADO;GGE;GH;GIR
GRE;HRAY;GSH;GWE;FBIB;FCHURCH;FDEAD;FEAR;HT;GGG;GRR;FFEE;FGAG;FHA-HA;GUNG;FIAN;GCE;GF;FJUDGE;FKICK
FLOLL;FMEASURE;GIME;FNUN;FOAK;GIL;GN;GOZE;GR;GUT;FPEEP;FROAR;FSO;GURE;FTHEY;HIGH;GOT;FUP;FVOW;FWOE
HOL;FYEA;HW;FZOO;2EEP;2IELD;3FT IN;6OUT;3NTO SHRINE;3P;2OCKED FACE WITH EXPLODING HEAD;3OTING STAR
3PPING BAGS;9TROLLEY;3RT BACKSLANTED SOUTH ARROW;7ENT ARROW POINTING DOWNWARDS THEN NORTH EAST
6DOWN TACK;F WITH OVERBAR;6LEFT TACK;6RIGHTWARDS ARROW ABOVE LEFTWARDS ARROW;6SLANTED NORTH ARROW
6UP TACK;D ABOVE SHORT DOWN TACK;EWITH UNDERBAR;5CAKE;5HAND FORMAT CONTINUING OVERLAP;HDOWN STEP
HLETTER OVERLAP;HUP STEP;5S;3ULDERED OPEN BOX;3WER;2RIMP;3UG;2UFFLE PRODUCT;2Y;1I;2DDHAM DANDA
9OUBLE DANDA;8END OF TEXT MARK;8LETTER A;GA;GI;GLTERNATE U;GU;FBA;GHA;FCA;GHA;FDA;GDA;HHA;GHA;FE
FGA;GHA;FHA;FI;GI;FJA;GHA;FKA;GHA;FLA;FMA;FNA;GGA;GNA;GYA;FO;FPA;GHA;FRA;FSA;GHA;GSA;FTA;GHA
HREE-CIRCLE ALTERNATE I;GTA;HHA;GWO-CIRCLE ALTERNATE I;bI;FU;GU;FVA;GOCALIC L;OL;NR;OR;FYA
8REPETITION MARK-1;O2;O3;8SECTION MARK DOUBLE RING;W WITH RAYS;LWITH CIRCLES AND FOUR ENCLOSURES
cRAYS;cTWO ENCLOSURES;QDOUBLE CRESCENTS;QQUADRUPLE CRESCENTS;QRAYS AND DOTTED CRESCENTS
gDOUBLE CRESCENTS;gTRIPLE CRESCENTS;QSEPTUPLE CRESCENTS;QTRIDENT AND DOTTED CRESCENTS
cU-SHAPED ORNAMENTS;TPLE CRESCENTS;APARATOR BAR;IDOT;9IGN ANUSVARA;DCANDRABINDU;DNUKTA;DSIDDHAM
DVIRAMA;FSARGA;8VOWEL SIGN AA;KI;KLTERNATE U;UU;KU;JE;JI;KI;JO;JU;KU;JVOCALIC R;SR
3EWAYS BLACK DOWN POINTING INDEX;FLEFT POINTING INDEX;FRIGHT POINTING INDEX;FUP POINTING INDEX
9WHITE DOWN POINTING INDEX;FLEFT POINTING INDEX;FRIGHT POINTING INDEX;FUP POINTING INDEX
2GN OF THE HORNS;4WRITING AIR BLOW SMALL ROTATIONS;KING OUT;GSUCK SMALL ROTATIONS;KING IN
CBREATH EXHALE;JINHALE;EUSH BETWEEN;IMULTIPLE;ISINGLE;CCHEEKS NEUTRAL;JPUFFED;JSUCKED;DOLON;EMMA
CDREAMY EYEBROWS DOWN NEUTRAL;SNEUTRAL DOWN;aUP;SUP NEUTRAL;DYNAMIC ARROWHEAD LARGE;USMALL
KEVERY OTHER TIME;KFAST;KGRADUAL;KRELAXED;KSIMULTANEOUS;W ALTERNATING;LLOW;KTENSE;CEARS;DXCITEMENT
DYE BLINK MULTIPLE;MSINGLE;GWINK;FBROWS STRAIGHT DOWN;UNEUTRAL;UUP;FGAZE-FLOORPLANE CURVED
VSTRAIGHT;d ALTERNATING;eDOUBLE;KWALLPLANE CIRCLING;VURVED;USTRAIGHT;c ALTERNATING;dDOUBLE
FLASHES DOWN;MFLUTTERING;MUP;FS CLOSED;HHALF CLOSED;MOPEN;HOPEN;HSQUEEZED;HWIDE OPEN;LNING MOVEMENT
CFACE DIRECTION POSITION NOSE FORWARD TILTING;fUP OR DOWN;p TILTING;DILL MODIFIER-2;Q3;Q4;Q5;Q6
ENGER;DLICK LARGE MULTIPLE;OSINGLE;ISEQUENTIAL;JMALL MULTIPLE;OSINGLE;EOORPLANE SHOULDER HIP MOVE
DOREHEAD CONTACT;LNEUTRAL;LWRINKLED;DULL STOP;CGRASP BETWEEN;IMULTIPLE;ISINGLE;CHAIR;END-ANGLE
M INDEX;S MIDDLE LITTLE;aRING;TRING LITTLE;e OUT;TTHUMB;Y IN;ZOUT;NLITTLE INDEX;Z THUMB INDEX THUMB
r OUT;UUP;NMIDDLE RING LITTLE;f IN;gOUT;NRING DOWN MIDDLE THUMB INDEX CROSS;SLITTLE;HCIRCLE;N INDEX
T BENT;UHINGE;UMIDDLE;a CROSS LITTLE;gED;bLITTLE;bRING;bTHUMB;URING LITTLE;OLITTLE INDEX;VUP
OMIDDLE RING LITTLE;g BENT;VUP;ORING LITTLE;ILAW;L FOUR FINGERS CONJOINED
MINDEX THUMB CURVE THUMB INSIDE;MMIDDLE RING LITTLE CONJOINED;o SIDE;MNO THUMB;MTHUMB FORWARD;SSIDE
IUP;K FIVE FINGERS SPREAD;e OPEN;LINDEX;Q RING LITTLE;RTHUMB;W OPEN;LMIDDLE RING LITTLE;LNO THUMB
LOPEN;P NO THUMB;QTHUMB FORWARD;WSIDE;LTHUMB FORWARD;RSIDE;JRLICUE;P INDEX RING LITTLE ON
QMIDDLE RING LITTLE ON;QOPEN;HFIST;L FOUR FINGERS CONJOINED BENT;MHEEL;MINDEX;R BENT;W OVER MIDDLE
SCUPPED;SHINGED;Y LOW;ZMIDDLE UP;i THUMB SIDE;SMIDDLE;Y BENT;d THUMB STRAIGHT;ZCONJOINED;i CUPPED
p THUMB FORWARD;jHINGED;p THUMB SIDE;jINDEX BENT;jMIDDLE BENT;jTHUMB FORWARD;pSIDE;t BENT
uCONJOINED;aROSS LITTLE;eED;g THUMB SIDE;ZHINGED;f SPREAD THUMB SIDE;ZLITTLE;ZRAISED KNUCKLES;aING
d BENT;eCONJOINED;ZSTRAIGHT THUMB BENT;ZTHUMB;e ANGLED;l OUT;fBENT;fCIRCLED;gONJOINED HINGED;gUPPED
fHINGED;gOOKED;ZUP SPREAD THUMB FORWARD;SRAISED KNUCKLE;TING LITTLE;STHUMB ANGLED IN MIDDLE UP
fOUT MIDDLE UP;YCIRCLE;eD MIDDLE UP;ZUPPED MIDDLE UP;aRLICUE;bVE THUMB INSIDE;kUNDER
YFORWARD INDEX BENT;mSTRAIGHT;YHOOK;cED MIDDLE HINGED;mUP;YSIDE;c BOTH BENT;dINDEX BENT;jHINGE
dTHUMB BENT;jCONJOINED;jDIAGONAL;SUP MIDDLE HINGED;i THUMB CONJOINED;pSIDE;MLITTLE BENT;TDOWN
X OTHERS CIRCLED;YRIPPLE CURVED;fSTRAIGHT;TINDEX;Y THUMB;TRAISED KNUCKLE;TTHUMB;UOUCHES THUMB;TUP
MMIDDLE BENT OVER INDEX;TDOWN;TLITTLE;TRAISED KNUCKLE;UING LITTLE;TTHUMB ANGLED INDEX UP
gOUT INDEX CROSSED;qUP;ZCIRCLED INDEX HINGED;nUP;aUPPED INDEX UP;ZHOOKED INDEX UP;ZLITTLE;TUP
V THUMB SIDE;MRING DOWN;RINDEX;RLITTLE;RMIDDLE;X CONJOINED;YRAISED KNUCKLES;RRAISED KNUCKLE;RTHUMB
RUP;MTHUMB;R BETWEEN INDEX MIDDLE;m STRAIGHT;aMIDDLE RING;aRING LITTLE;SFORWARD;SHEEL
SOVER FOUR RAISED KNUCKLES;XTWO FINGERS;SSIDE BENT;XCONJOINED;XDIAGONAL;SUNDER FOUR FINGERS
YINDEX BENT;YLITTLE UP;YTHREE FINGERS;ZWO FINGERS;ILAT;L BETWEEN PALM FACINGS;MFIVE FINGERS SPREAD
f BENT;gFOUR BENT;gHINGED;m NO THUMB;nTHUMB SIDE;gTHUMB FORWARD;NOUR FINGERS;Y BENT;ZCONJOINED
i SPLIT;ZHINGED;MHEEL;Q FIVE FINGERS SPREAD;k BENT;lFOUR BENT;RTHUMB SIDE;MSPLIT CENTRE
Y THUMB SIDE;j BENT;SINDEX THUMB SIDE;SLITTLE;MTHUMB BENT;SFORWARD;SSIDE;HHINGE
M FIVE FINGERS SPREAD OPEN;OOUR FINGERS CONJOINED;NINDEX;S HINGED;TMIDDLE LITTLE;aRING;e CONJOINED
TRING LITTLE;TTHUMB;Y LARGE;ZOPEN;ZSIDE;aMALL;NLITTLE;T INDEX;Z THUMB;UTHUMB;NMIDDLE;T RING LITTLE
NNO THUMB;NOPEN;R NO THUMB;STHUMB FORWARD;YSIDE;NRING;R DOWN INDEX THUMB HOOK MIDDLE;NSMALL
NTHUMB BETWEEN MIDDLE RING;TSIDE;X TOUCHING INDEX;IOOK;L CURLICUE;MINDEX RING LITTLE IN;eOUT;eUNDER
MMIDDLE RING LITTLE CONJOINED;o IN;pOUT;TTHUMB;MRING THUMB;HOVAL;L FIVE FINGERS SPREAD;MINDEX
MLITTLE UP;MNO THUMB;MRING LITTLE;MTHUMB FORWARD;SSIDE;DEAD;G MOVEMENT CIRCLE;P-FLOORPLANE CURVE
bSTRAIGHT;QWALLPLANE CURVE;aSTRAIGHT;aTILT;HRIM;CLIMB COMBINATION;HLENGTH-1;O2;O3;O4;O5;O6;O7
EP LOWER OVER UPPER;GUPPER OVER LOWER;FS PRESSED TOGETHER;DOCATION DEPTH;LHEAD NECK;NIGHT
LLIMBS DIGITS;LTORSO;LWIDTH;K-FLOORPLANE SPACE;LWALLPLANE SPACE;CMOUTH CLOSED CONTACT;PFORWARD
PNEUTRAL;JORNERS;IFROWN;N OPEN;OWRINKLED;IKISS;M FORWARD;NWRINKLED;IOPEN CIRCLE;NFORWARD;NOVAL
R WRINKLED;SYAWN;NRECTANGLE;W WRINKLED;XYAWN;NWRINKLED;ISMILE;N OPEN;OWRINKLED;ITENSE;N FORWARD
OSUCKED;IWRINKLES DOUBLE;RSINGLE;EVEMENT-DIAGONAL AWAY LARGE;eST;ZMEDIUM;ZSMALL;UBETWEEN AWAY LARGE
mST;hMEDIUM;hSMALL;cTOWARDS LARGE;pST;kMEDIUM;kSMALL;UTOWARDS LARGE;hST;cMEDIUM;cSMALL
LFLOORPLANE ARM CIRCLE HITTING WALL LARGE DOUBLE;z SINGLE;uMEDIUM DOUBLE;zM SINGLE;uSMALL DOUBLE
z SINGLE;WBEND;XOX LARGE;aMEDIUM;aSMALL;WCHECK;XORNER LARGE;dMEDIUM;dSMALL;XROSS;XURVE COMBINED
cHITTING CEILING LARGE;sSMALL;kFLOOR LARGE;qSMALL;cLARGE;hST;cMEDIUM;cSMALL;WDOUBLE ALTERNATING
o WRIST FLEX;dSTRAIGHT;dWRIST FLEX;WFINGER CIRCLES HITTING WALL DOUBLE;ySINGLE;eONTACT
WHUMP HITTING CEILING LARGE DOUBLE;xTRIPLE;rSMALL DOUBLE;xTRIPLE;jFLOOR LARGE DOUBLE;pSMALL DOUBLE
pTRIPLE LARGE TRIPLE;wSMALL TRIPLE;bSMALL;WJAW;WLOOP HITTING CEILING LARGE DOUBLE;xSINGLE
rSMALL DOUBLE;xSINGLE;jFLOOR LARGE DOUBLE;vSINGLE;pSMALL DOUBLE;vSINGLE;bSMALL;WPEAKS LARGE;cMEDIUM
cSMALL;WSHAKING PARALLEL;XINGLE STRAIGHT LARGE;rST;mMEDIUM;mSMALL;dWRIST FLEX
WTRIPLE ALTERNATING MOVEMENT;pWRIST FLEX;dSTRAIGHT MOVEMENT;dWRIST FLEX;WWAVE HITTING CEILING LARGE
rSMALL;jFLOOR LARGE;pSMALL;bLARGE;bSMALL;cNAKE;XRIST CIRCLE HITTING WALL DOUBLE;wSINGLE
WZIGZAG LARGE;dMEDIUM;dSMALL;LHINGE DOWN SEQUENTIAL;RSIDE TO SIDE SCISSORS
RUP DOWN ALTERNATING LARGE;lSMALL;ZLARGE;ZSMALL;USEQUENTIAL;LWALLPLANE ARM CIRCLE MEDIUM DOUBLE
nSINGLE;gSMALL DOUBLE;mSINGLE;VBEND LARGE;aMEDIUM;aSMALL;WOX LARGE;ZMEDIUM;ZSMALL;VCHECK LARGE
bMEDIUM;bSMALL;WORNER LARGE;cMEDIUM;cROTATION;cSMALL;WROSS;WURVE HALF-CIRCLE LARGE;sST;nMEDIUM
nSMALL;cITTING CHEST;jFRONT WALL;bQUARTER LARGE;oST;jMEDIUM;jSMALL;bTHEN STRAIGHT
dREE-QUARTER CIRCLE MEDIUM;wSMALL;aD CROSS MEDIUM;iSMALL;VDOUBLE ALTERNATING;n WRIST FLEX;cSTRAIGHT
cWRIST FLEX;VFINGER CIRCLES DOUBLE;kSINGLE;dONTACT;VHUMP HITTING CHEST;iFRONT WALL;aLARGE;aMEDIUM
aSMALL;VJAW;VLOOP HITTING CHEST;iFRONT WALL;aLARGE;aMEDIUM;aSMALL;f DOUBLE;VPEAKS LARGE;bMEDIUM
bSMALL;VSHAKING;WINGLE STRAIGHT LARGE;qST;lMEDIUM;lSMALL;cWRIST FLEX;VTRIPLE ALTERNATING
n WRIST FLEX;cSTRAIGHT MOVEMENT;cWRIST FLEX;VWAVE CURVE DOUBLE LARGE;nMEDIUM;nSMALL;gTRIPLE LARGE
nMEDIUM;nSMALL;aDIAGONAL PATH LARGE;oMEDIUM;oSMALL;aHITTING CHEST;iFRONT WALL
WRIST CIRCLE FRONT DOUBLE;oSINGLE;VZIGZAG LARGE;cMEDIUM;cSMALL;CNECK;DOSE CONTACT;HNEUTRAL;HWIGGLES
IRINKLES;CPARENTHESIS;CROTATION MODIFIER-10;V1;V2;V3;V4;V5;V6;U2;U3;U4;U5;U6;U7;U8;U9
K-FLOORPLANE ALTERNATING;h HITTING CEILING;qFLOOR;WDOUBLE;c HITTING CEILING;lFLOOR;WSINGLE
c HITTING CEILING;lFLOOR;LWALLPLANE ALTERNATE;dING HITTING CHEST;pFRONT WALL;VDOUBLE
b HITTING CHEST;kFRONT WALL;VSINGLE;b HITTING CHEST;kFRONT WALL;DUB BETWEEN;GMULTIPLE;GSINGLE
CSEMICOLON;DHOULDER HIP POSITIONS;PSPINE;LTILTING FROM WAIST;DQUEEZE FLICK ALTERNATING
KLARGE MULTIPLE;QSINGLE;KSEQUENTIAL;LMALL MULTIPLE;QSINGLE;DTRIKE BETWEEN;JMULTIPLE;JSINGLE
DURFACE BETWEEN;KSYMBOLS;CTEETH;H BITE LIPS;IMOVEMENT;ION LIPS;P MOVEMENT;LTONGUE;R MOVEMENT
ENSE CHEEKS HIGH;PLOW;PMIDDLE;DONGUE CENTRE INSIDE MOUTH;QSTICKING OUT;JINSIDE MOUTH RELAXED
JLICKING LIPS;JMOVES AGAINST CHEEK;JSTICKING OUT FAR;JTIP BETWEEN LIPS;NTOUCHING INSIDE MOUTH
ERSO-FLOORPLANE TWISTING;IWALLPLANE CURVED BEND;SSTRAIGHT STRETCH;EUCH BETWEEN;IMULTIPLE;ISINGLE
DRAVEL-FLOORPLANE ROTATION-FLOORPLANE ALTERNATING;oDOUBLE;oSINGLE;dWALLPLANE ALTERNATING;nDOUBLE
nSINGLE;USHAKING;JWALLPLANE ARM SPIRAL DOUBLE;eSINGLE;eTRIPLE;TROTATION-FLOORPLANE ALTERNATING
nDOUBLE;nSINGLE;cWALLPLANE ALTERNATING;mDOUBLE;mSINGLE;TSHAKING;CUPPER BODY TILTING FROM HIP JOINTS
CWALLPLANE SHOULDER HIP MOVE;2LHOUETTE OF JAPAN;2MILAR ABOVE GREATER-THAN ABOVE EQUALS SIGN
ELESS-THAN ABOVE EQUALS SIGN;8MINUS SIMILAR;8OR GREATER-THAN;BLESS-THAN;2NE WAVE
3GLE CHARACTER INTRODUCER;7GRAPHIC CHARACTER INTRODUCER;7HIGH-REVERSED-9 QUOTATION MARK
7LEFT-POINTING ANGLE QUOTATION MARK;8OW-9 QUOTATION MARK;7RIGHT-POINTING ANGLE QUOTATION MARK
7SHIFT THREE;EWO;6-SHIFT-2;D3;3HALA ARCHAIC DIGIT EIGHT;MFIVE;NOUR;MNINE;MONE;MSEVEN;NIX;MTHREE;NWO
GNUMBER EIGHTY;NFIFTY;OORTY;NNINETY;NONE HUNDRED;RTHOUSAND;NSEVENTY;OIXTY;NTEN;OHIRTY;OWENTY
8LETTER AAYANNA;GEEYANNA;HYANNA;GIYANNA;GLPAPRAANA BAYANNA;QCAYANNA;QDAYANNA;RDAYANNA;QGAYANNA
QJAYANNA;QKAYANNA;QPAYANNA;QTAYANNA;RTAYANNA;GMBA BAYANNA;GUYANNA;GYANNA;FDANTAJA LAYANNA;NNAYANNA
NSAYANNA;FEEYANNA;GYANNA;FFAYANNA;FHAYANNA;FIIYANNA;GLUUYANNA;IYANNA;GRUUYANNA;IYANNA;GYANNA
FKANTAJA NAASIKYAYA;FMAHAAPRAANA BAYANNA;RCAYANNA;RDAYANNA;SDAYANNA;RGAYANNA;RJAYANNA;RKAYANNA
RPAYANNA;RTAYANNA;STAYANNA;HYANNA;GUURDHAJA LAYANNA;PNAYANNA;PSAYANNA;FOOYANNA;GYANNA;FRAYANNA
FSANYAKA DAYANNA;ODAYANNA;NGAYANNA;NJAYANNA;FTAALUJA NAASIKYAYA;NSANYOOGA NAAKSIKYAYA;PYANNA
FUUYANNA;GYANNA;FVAYANNA;FYAYANNA;9ITH DIGIT EIGHT;JFIVE;KOUR;JNINE;JONE;JSEVEN;KIX;JTHREE;KWO
JZERO;8PUNCTUATION KUNDDALIYA;8SIGN AL-LAKUNA;ENUSVARAYA;DCANDRABINDU;DVISARGAYA
8VOWEL SIGN AELA-PILLA;JDIGA AEDA-PILLA;OGAETTA-PILLA;QYANUKITTA;OIS-PILLA;OKOMBUVA;OPAA-PILLA
JGAETTA-PILLA;LYANUKITTA;JKETTI AEDA-PILLA;PIS-PILLA;PPAA-PILLA;KOMBU DEKA;OVA;Q HAA AELA-PILLA
VDIGA AELA-PILLA;VGAYANUKITTA;2X PETALLED BLACK AND WHITE FLORETTE;5OINTED BLACK STAR
CPINWHEEL STAR;CSTAR WITH MIDDLE DOT;3-PER-EM SPACE;3TEEN POINTED ASTERISK;1KATEBOARD
2I AND SKI BOOT;3ER;2ULL;5 AND CROSSBONES;3NK;1LANTED EQUAL TO OR GREATER-THAN;W WITH DOT INSIDE
KLESS-THAN;T WITH DOT INSIDE;8NORTH ARROW WITH HOOKED HEAD;RRIZONTAL TAIL;3VONIC ASTERISK;2ED
3EPING ACCOMMODATION;9FACE;9SYMBOL;5Y FACE;3UTH OR SPY;2ICE OF PIZZA;3GHTLY FROWNING FACE
9SMILING FACE;2OPE;4ING LARGE AND;EOR;3T MACHINE;4H;1MALL AIRPLANE;7MPERSAND;7STERISK;6BLUE DIAMOND
6COLON;8MMA;AERCIAL AT;8NTAINS AS MEMBER;FWITH OVERBAR;KVERTICAL BAR AT END OF HORIZONTAL STROKE
6DOLLAR SIGN;6ELEMENT OF;G WITH OVERBAR;MVERTICAL BAR AT END OF HORIZONTAL STROKE;7M DASH
7QUALS SIGN;7XCLAMATION MARK;6FULL STOP;6GREATER-THAN SIGN;6HYPHEN-MINUS;6IDEOGRAPHIC COMMA
6LEFT CURLY BRACKET;BPARENTHESIS;BTORTOISE SHELL BRACKET;8SS-THAN SIGN;6NUMBER SIGN;6ORANGE DIAMOND
6PERCENT SIGN;7LUS SIGN;6QUESTION MARK;6REVERSE SOLIDUS;7IGHT CURLY BRACKET;CPARENTHESIS
CTORTOISE SHELL BRACKET;7OMAN NUMERAL EIGHT;LLEVEN;KFIFTY;MVE;O HUNDRED;LOUR;KNINE;KONE;N HUNDRED
OTHOUSAND;KSEVEN;LIX;KTEN;LHREE;LWELVE;MO;6SEMICOLON;6TILDE;7WO DOTS OVER ONE DOT PUNCTUATION
6VEE WITH UNDERBAR;5ER THAN;C OR EQUAL TO;3SH PRODUCT;2ILE;4ING CAT FACE WITH HEART-SHAPED EYES
MOPEN MOUTH;8FACE WITH HALO;JEART-SHAPED EYES;JORNS;IOPEN MOUTH;S AND COLD SWEAT;XSMILING EYES
XTIGHTLY-CLOSED EYES;ISMILING EYES;U AND HAND COVERING MOUTH;ZTHREE HEARTS;JUNGLASSES;ITEAR
3RKING FACE;2OKING SYMBOL;1NAIL;3KE;2EEZING FACE;2OW CAPPED MOUNTAIN;4BOARDER;4FLAKE;4MAN
7 WITHOUT SNOW;1O;2CCER BALL;3KS;2FT HYPHEN;5ICE CREAM;5SHELL FLOPPY DISK;4BALL
4WARE-FUNCTION SYMBOL;2GDIAN COMBINING CURVE ABOVE;OBELOW;IDOT ABOVE;MBELOW;IHOOK ABOVE;NBELOW
ILONG HOOK BELOW;IRESH BELOW;ISTROKE BELOW;ITWO DOTS ABOVE;RBELOW;8INDEPENDENT SHIN;8LETTER ALEPH
GYIN;FBETH;FFETH;FGIMEL;FHE;HTH;FKAPH;FLAMEDH;GESH;FMEM;FNUN;FPE;FRESH-AYIN;FSADHE;HMEKH;GHIN;FTAW
FWAW;FYODH;FZAYIN;8NUMBER ONE;I HUNDRED;FTEN;GWENTY;8PUNCTUATION CIRCLE WITH DOT
KHALF CIRCLE WITH DOT;KTWO CIRCLES WITH DOTS;OVERTICAL BARS;b WITH DOTS;2H
2LID QUILT SQUARE ORNAMENT;R IN BLACK SQUARE;5US;7 WITH OVERBAR;2M SIGN
2ON WITH RIGHTWARDS ARROW ABOVE;2RA SOMPENG DIGIT EIGHT;JFIVE;KOUR;JNINE;JONE;JSEVEN;KIX;JTHREE;KWO
JZERO;DLETTER AH;KBAH;KCAH;KDAH;KEEH;LH;KGAH;KHAH;KIH;KJAH;KKAH;KLAH;KMAE;MH;KNAH;LGAH;LYAH;KOH
KPAH;KRAH;KSAH;KTAH;KUH;KVAH;KYAH;2S;2UND RECORDING COPYRIGHT;3TH EAST ARROW;G AND SOUTH WEST ARROW
HCROSSING NORTH EAST ARROW;HTO CORNER;HWITH HOOK;BBLACK ARROW;BDOUBLE ARROW;BPOINTING BUD;KLEAF
KVINE LEAF;BSANS-SERIF ARROW;BTRIANGLE-HEADED ARROW;W TO BAR;BWHITE ARROW;6WEST ARROW
G AND NORTH WEST ARROW;HWITH HOOK;BBLACK ARROW;BDOUBLE ARROW;BPOINTING BUD;KLEAF;KVINE LEAF
BSANS-SERIF ARROW;BTRIANGLE-HEADED ARROW;W TO BAR;BWHITE ARROW;2YOMBO CLUSTER-INITIAL LETTER LA;VRA
VSA;WHA;8FINAL CONSONANT SIGN -A;TB;TD;TG;TK;TL;TM;TN;UG;TR;TS;UH;8GEMINATION MARK
8HEAD MARK WITH MOON AND SUN;Z AND FLAME;eTRIPLE FLAME;8LETTER -A;FA;FBA;GHA;FCA;GHA;FDA;GDA;HHA
GHA;GZA;FGA;GHA;FHA;FJA;GHA;FKA;GHA;GSSA;FLA;FMA;FNA;GGA;GNA;GYA;FPA;GHA;FRA;FSA;GHA;GSA;FTA;GHA
GSA;HHA;GTA;HHA;FVA;FYA;FZA;GHA;8MARK DOUBLE SHAD;DPLUTA;DSHAD;DTSHEG;8SIGN ANUSVARA;DJIHVAMULIYA
DUPADHMANIYA;DVISARGA;9UBJOINER;8TERMINAL MARK-1;M2;8VOWEL LENGTH MARK;ESIGN AI;KU;JE;JI;JO;KE;JU
KE;JVOCALIC L;RR;1P;2A;3CE;3GHETTI;3RKLE;7S;6ING HEART;2EAK-NO-EVIL MONKEY;5ER
7 WITH CANCELLATION STROKE;DONE SOUND WAVE;DTHREE SOUND WAVES;5ING HEAD IN SILHOUETTE;3ECH BALLOON
4DBOAT;3SMILO SIGN;2HERICAL ANGLE;F OPENING LEFT;OUP;2IDER;6 WEB;3RAL CALENDAR PAD;7NOTE PAD;7SHELL
2LASHING SWEAT SYMBOL;2ONGE;3OL OF THREAD;4N;3RTS MEDAL;3UTING WHALE;1QUARE A OVER M;8ARU;8M;8NPEA
8PAATO;8RUHUA;8U;7BAARERU;9R;8EETA;8IRU;8ORUTO;8Q;8USSYERU;7C OVER KG;8AL;9P;8C;8D;8M;9 CUBED
ASQUARED;8O;9RPORATION;8UP;7DA;9ASU;8B;8ESI;8J;8L;8M;9 CUBED;ASQUARED;8ORU;7EEKAA;8RA NAME HEISEI
GMEIZI;GREIWA;GSYOUWA;GTAISYOU;9G;8SUKUUDO;8V;7FM;8OOT;9UR CORNERS;7GAL;9NMA;9RON;8B;8HZ;8IGA;9NII
9RUDAA;8PA;8URAMU;DTON;8Y;7HA;9ITU;8EKUTAARU;9RUTU;8G;8IRAGANA HOKA;8ON;9ON;ARU;8P;9A;8UARADDO
9IITO;9RAN;8Z;7IMAGE OF;F OR EQUAL TO;JNOT EQUAL TO;8N;9INGU;9TI;8U;7K OHM;8A;9IRI;9RATTO;AORII;8B
8CAL;8EESU;8G;8HZ;8IRO;BGURAMU;BMEETORU;BWATTO;8K;8L;8M;9 CAPITAL;BUBED;ASQUARED;8OOPO;9RUNA;8PA;8T
8UROONE;AUZEIRO;8V;8W;8YURII;7LEFT OPEN BOX OPERATOR;8M;8N;8OG;9ZENGE;8X;7M CUBED;9OHM;AVER S
F SQUARED;9SQUARED;8A;9HHA;9IKURO;ARU;9NSYON;9RUKU;8B;9 SMALL;8EETORU;9GA;BTON;8G;8HZ;8IKURON;9L
9RI;BBAARU;8L;8M;9 CUBED;ASQUARED;8OL;8PA;8S;8U A;AF;AG;AL;AM;AS;AV;AW;8V;9 MEGA;8W;9 MEGA;7NA;9NO
8F;8M;8OTTO;8S;8V;8W;7ONSU;8OMU;8RIGINAL OF;I OR EQUAL TO;MNOT EQUAL TO;8V;7PA;9 AMPS;9ASENTO;ATU
8C;8EEZI;9NIHI;ASU;9SO;8F;8H;8IASUTORU;9KO;AURU;8M;8OINTO;9NDO;9SITION INDICATOR;8PM;8R;8S;8V;8W
7RAD;A OVER S;H SQUARED;8EMU;9NTOGEN;8IGHT OPEN BOX OPERATOR;9RA;9TTORU;8OOT;8UPII;9UBURU;7SAIKURU
9NTIIMU;8ENTI;BO;8IRINGU;8R;8V;7TARGET;8HZ;8ON;7UON;7V OVER M;7WATTO;8B;8ITH BOTTOM HALF BLACK
CCONTOURED OUTLINE;CDIAGONAL CROSSHATCH FILL;CHORIZONTAL FILL;CLEFT HALF BLACK
DOWER LEFT DIAGONAL HALF BLACK;IRIGHT DIAGONAL HALF BLACK;CORTHOGONAL CROSSHATCH FILL
CRIGHT HALF BLACK;CTOP HALF BLACK;CUPPER LEFT DIAGONAL HALF BLACK;NTO LOWER RIGHT FILL
IRIGHT DIAGONAL HALF BLACK;OTO LOWER LEFT FILL;CVERTICAL FILL;7YAADO;ARU;8UAN;6D ASTERISK
8CJK UNIFIED IDEOGRAPH-4E00;X9;W2D;W8C;WA4;U518D;V21D;W4D;W72;V3CC;WF3;V408;W39;V5B6;V8F0;V91A;W29
VB57;VDE6;VF8C;U624B;W53;W95;V307;W55;V599;WB0;V620;V708;X9;VE80;VF14;U7121;V51F;W33;V981;VA7A;VD42
U89E3;VCA9;VD70;U904A;V14D;9L;9OOL;8DOT OPERATOR;8EIGHT K;8FALLING DIAGONAL SLASH;9IVE POINT ONE
9OUR DOT PUNCTUATION;DK;9REE;8HC;9DR;9I-RES;9V;8ID;8KATAKANA DE;HKOKO;HSA;9EY
8LATIN CAPITAL LETTER A;TB;TC;TD;TE;TF;TG;TH;TI;TJ;TK;TL;TM;TN;TO;TP;TQ;TR;TS;TT;TU;TV;TW;TX;TY;TZ
ESMALL LETTER D;9OGICAL AND;GOR;ASSLESS;8MINUS;9V;8NEW;9G;8OK;9NE HUNDRED TWENTY P;8PLUS;9PV
8RISING DIAGONAL SLASH;8SALTIRE;9D;9ECOND SCREEN;AVEN POINT ONE;9HV;9IXTY P;9MALL CIRCLE;9OS;9QUARE
9S;8THREE D;9IMES;9WENTY-TWO POINT TWO;AO K;8UHD;9P WITH EXCLAMATION MARK;8VOD;9S;8WC
4T BLACK RIGHTWARDS ARROW;3ID;1S2;23;2A;1T;2ADIUM;3FF OF AESCULAPIUS;9HERMES;3MPED ENVELOPE
3NDING PERSON;3R AND CRESCENT;5EQUALS;5OF DAVID;6PERATOR;5WITH LEFT HALF BLACK;ARIGHT HALF BLACK
4T OF GUARDED AREA;9HEADING;9PROTECTED AREA;9SELECTED AREA;ATRING;9TEXT;3TION;4UE OF LIBERTY
2EAM LOCOMOTIVE;5ING BOWL;3NOGRAPHIC FULL STOP;3THOSCOPE;2ICK FIGURE;C LEANING LEFT;LRIGHT
DWITH ARMS RAISED;IDRESS;2OCK CHART;3PWATCH;2RAIGHT RULER;8NESS;4WBERRY;3ESS OUTLINED WHITE STAR
3ICTLY EQUIVALENT TO;4NG TERMINATOR;2S;2UDIO MICROPHONE;3FFED FLATBREAD;3PA;2X;1UB;3SCRIPT EIGHT
BQUALS SIGN;AFIVE;BOUR;ALEFT PARENTHESIS;AMINUS;ANINE;AONE;APLUS SIGN;ARIGHT PARENTHESIS;ASEVEN;BIX
ATHREE;BWO;AZERO;4ET ABOVE RIGHTWARDS ARROW;DSUBSET;FPERSET;7OF;9 ABOVE ALMOST EQUAL TO
GEQUALS SIGN;GNOT EQUAL TO;GTILDE OPERATOR;AOR EQUAL TO;L WITH DOT ABOVE;AWITH NOT EQUAL TO
7WITH DOT;CMULTIPLICATION SIGN BELOW;CPLUS SIGN BELOW;4TITUTE;2CCEEDS;8 ABOVE ALMOST EQUAL TO
FEQUALS SIGN;FNOT ALMOST EQUAL TO;JEQUAL TO;FSINGLE-LINE EQUALS SIGN;RNOT EQUAL TO
9BUT NOT EQUIVALENT TO;9OR EQUAL TO;FIVALENT TO;9UNDER RELATION;2MMATION BOTTOM;ATOP;AWITH INTEGRAL
2N;3 BEHIND CLOUD;4WITH FACE;3DANESE AVAGRAHA;ACONSONANT SIGN PAMINGKAL;RNYAKRA;TIKU;RSANGAN MA;YWA
ADIGIT EIGHT;GFIVE;HOUR;GNINE;GONE;GSEVEN;HIX;GTHREE;HWO;GZERO;ALETTER A;IE;HBA;IHA;HCA;HDA;HE;IU
HFA;IINAL K;NM;HGA;HHA;HI;HJA;HKA;IHA;HLA;IEU;HMA;HNA;IGA;IYA;HO;HPA;HQA;HRA;IEU;HSA;IYA;HTA;HU;HVA
HWA;HXA;HYA;HZA;APUNCTUATION BINDU BA SATANGA;SCAKRA;SDA SATANGA;SKA SATANGA;SLEU SATANGA;SPANGLONG
TURNAMA;SSURYA;ASIGN PAMAAEH;HNGLAYAR;JWISAD;IYECEK;FVIRAMA;AVOWEL SIGN PAMEPET;NNAELAENG;OEULEUNG
OGHULU;OOLONG;OYUKU;3FLOWER;3RISE;7 OVER MOUNTAINS;3SET OVER BUILDINGS;2PERHERO;5SCRIPT EIGHT
DQUALS SIGN;CFIVE;DOUR;CLATIN SMALL LETTER I;VN;DEFT PARENTHESIS;CMINUS;CNINE;CONE;CPLUS SIGN
CRIGHT PARENTHESIS;CSEVEN;DIX;CTHREE;DWO;CZERO;6ET ABOVE LEFTWARDS ARROW;FSUBSET;HPERSET
9BESIDE AND JOINED BY DASH WITH SUBSET;GSUBSET;9OF;B ABOVE ALMOST EQUAL TO;IEQUALS SIGN
INOT EQUAL TO;ITILDE OPERATOR;COR EQUAL TO;N WITH DOT ABOVE;CWITH NOT EQUAL TO;9PRECEDING SOLIDUS
9WITH DOT;EMULTIPLICATION SIGN BELOW;EPLUS SIGN BELOW;5VILLAIN;2RFACE INTEGRAL;4ER;2SHI
3PENSION RAILWAY;1WAN;3SH AMPERSAND ORNAMENT;2IMMER;2UNG DASH;1YLOTI NAGRI LETTER A;KBHO;LO;KCHO;LO
KDDHO;MO;LHO;LO;KE;KGHO;LO;KHO;KI;KJHO;LO;KKHO;LO;KLO;KMO;KNO;KO;KPHO;LO;KRO;LRO;KSO;KTHO;LO;LTHO
MO;KU;DPOETRY MARK-1;P2;P3;P4;DSIGN ALTERNATE HASANTA;JNUSVARA;IDVISVARA;IHASANTA;DVOWEL SIGN A;OE
OI;OOO;OU;2MBOL FOR ACKNOWLEDGE;BBACKSPACE;CELL;BCANCEL;DRRIAGE RETURN;BDATA LINK ESCAPE;CELETE
H FORM TWO;DVICE CONTROL FOUR;QONE;QTHREE;RWO;BEND OF MEDIUM;ITEXT;JRANSMISSION;U BLOCK;DQUIRY
CSCAPE;BFILE SEPARATOR;CORM FEED;BGROUP SEPARATOR;BHORIZONTAL TABULATION;BLINE FEED;BMARKS CHAPTER
BNEGATIVE ACKNOWLEDGE;DWLINE;CULL;BRECORD SEPARATOR;BSAMARITAN SOURCE;CHIFT IN;HOUT;CPACE
CTART OF HEADING;KTEXT;CUBSTITUTE;L FORM TWO;CYNCHRONOUS IDLE;BTYPE A ELECTRONICS;BUNIT SEPARATOR
BVERTICAL TABULATION;3METRY;2N;3AGOGUE;3CHRONOUS IDLE;2RIAC ABBREVIATION MARK;7BARREKH
7COLON SKEWED LEFT;KRIGHT;9NTRACTION;7DOTTED ZLAMA ANGULAR;KHORIZONTAL;7END OF PARAGRAPH
8SASA ABOVE;DBELOW;7FEMININE DOT;7HARKLEAN ASTERISCUS;GMETOBELUS;GOBELUS;8BASA ABOVE;DBELOW
C-ESASA DOTTED;8ORIZONTAL COLON;7LETTER ALAPH;EBETH;EDALATH;FOTLESS DALATH RISH;EE;EFINAL SEMKATH
EGAMAL;J GARSHUNI;EHE;GTH;EKAPH;ELAMADH;EMALAYALAM BHA;OJA;OLLA;QLA;ONGA;PNA;QNA;PYA;ORA;OSSA;OTTA
FIM;ENUN;EPE;GRSIAN BHETH;MDHALATH;MGHAMAL;EQAPH;EREVERSED PE;FISH;ESADHE;FEMKATH;FHIN;FOGDIAN FE
MKHAPH;MZHAIN;FUPERSCRIPT ALAPH;ETAW;FETH;I GARSHUNI;EWAW;EYUDH;I HE;EZAIN;7MUSIC
7OBLIQUE LINE ABOVE;KBELOW;7PTHAHA ABOVE;EBELOW;EDOTTED;7QUSHSHAYA;7RBASA ABOVE;DBELOW;8UKKAKHA
8WAHA;7SUBLINEAR COLON;M SKEWED LEFT;URIGHT;HFULL STOP;9PRALINEAR COLON;O SKEWED LEFT;JFULL STOP
7THREE DOTS ABOVE;IBELOW;8WO VERTICAL DOTS ABOVE;PBELOW;7ZQAPHA ABOVE;EBELOW;EDOTTED;4NGE;0T-REX
2SHIRT;1AB;3LE TENNIS PADDLE AND BALL;2CO;2G AMPERSAND;5POSTROPHE;5STERISK;4CIRCUMFLEX ACCENT;5OLON
6MMA;8ERCIAL AT;4DIGIT EIGHT;AFIVE;BOUR;ANINE;AONE;ASEVEN;BIX;ATHREE;BWO;AZERO;5OLLAR SIGN
4EQUALS SIGN;5XCLAMATION MARK;4FULL STOP;4GRAVE ACCENT;6EATER-THAN SIGN;4HYPHEN-MINUS
4LATIN CAPITAL LETTER A;PB;PC;PD;PE;PF;PG;PH;PI;PJ;PK;PL;PM;PN;PO;PP;PQ;PR;PS;PT;PU;PV;PW;PX;PY;PZ
ASMALL LETTER A;NB;NC;ND;NE;NF;NG;NH;NI;NJ;NK;NL;NM;NN;NO;NP;NQ;NR;NS;NT;NU;NV;NW;NX;NY;NZ
5EFT CURLY BRACKET;9PARENTHESIS;9SQUARE BRACKET;6SS-THAN SIGN;5OW LINE;4NUMBER SIGN;4PERCENT SIGN
5LUS SIGN;4QUESTION MARK;6OTATION MARK;4REVERSE SOLIDUS;5IGHT CURLY BRACKET;APARENTHESIS
ASQUARE BRACKET;4SEMICOLON;5OLIDUS;5PACE;4TILDE;4VERTICAL LINE;3ALOG LETTER A;GRCHAIC RA;FBA;FDA
FGA;FHA;FI;FKA;FLA;FMA;FNA;GGA;FPA;FRA;FSA;FTA;FU;FWA;FYA;8SIGN PAMUDPOD;DVIRAMA;8VOWEL SIGN I;JU
3BANWA LETTER A;GBA;GDA;GGA;GI;GKA;GLA;GMA;GNA;HGA;GPA;GSA;GTA;GU;GWA;GYA;9VOWEL SIGN I;KU
2I LE LETTER A;FI;FUE;EE;FE;FH;EFA;EHA;EI;EKA;FHA;ELA;EMA;ENA;FGA;EO;FO;EPA;FHA;EQA;ESA;ETA;FHA
FONE-2;J3;J4;J5;J6;FSA;GHA;EU;FE;EVA;EXA;EYA;4THAM COMBINING CRYPTOGRAMMIC DOT;BNSONANT SIGN BA
OFINAL NGA;OHIGH RATHA OR LOW PA;OLA TANG LAI;POW PA;OMA;PEDIAL LA;VRA;OSA;9HORA DIGIT EIGHT;KFIVE
LOUR;KNINE;KONE;KSEVEN;LIX;KTHREE;LWO;KZERO;9LETTER A;GBA;GDA;GEE;GGREAT SA;GHIGH CA;MHA;LFA;LHA
LKA;MHA;MXA;LPA;MHA;LRATHA;LSA;MHA;MSA;LTA;MHA;LYA;GI;HI;GLA;IE;HLA;HOW CA;LHA;KFA;KHA;KKA;LHA;LXA
KPA;LHA;KRATHA;KSA;KTA;LHA;KYA;HUE;GMA;GNA;HGA;HYA;GOO;GRA;INA;ITA;HUE;GU;HU;GWA;9SIGN CAANG
EDOKMAI;EHANG;FOY;EKAAN;IKUU;FEOW;FHUEN TONE-3;P4;P5;J-LUE KARAN;EMAI KANG;M LAI;ISAM;IYAMOK
ERA HAAM;FEVERSED ROTATED RANA;ESAKOT;GTKAAN;LKUU;GWAN;ETONE-1;J2;EWIANG;JWAAK;9THAM DIGIT EIGHT
KFIVE;LOUR;KNINE;KONE;KSEVEN;LIX;KTHREE;LWO;KZERO;9VOWEL SIGN A;LA;LE;LI;KE;KI;LI;KMAI SAT;KO
LA ABOVE;NBELOW;LO;LY;KTALL AA;LHAM AI;KU;LE;LU;ME;4VIET LETTER HIGH BO;LCHO;MO;LDO;LFO;LGO;LHO
LKHHO;NO;MO;LLO;LMO;LNGO;MO;MYO;LO;LPHO;MO;LRO;LSO;LTHO;MO;LVO;LYO;GLOW BO;KCHO;LO;KDO;KFO;KGO;KHO
KKHHO;MO;LO;KLO;KMO;KNGO;LO;LYO;KO;KPHO;LO;KRO;KSO;KTHO;LO;KVO;KYO;9MAI KANG;EHIT;9SYMBOL HO HOI
GKOI KOI;IN;GNUENG;GSAM;9TONE MAI EK;INUENG;ISONG;ITHO;9VOWEL AA;GM;GN;GUE;GY;FE;FI;GA;FO;FU;GA;GE
HA;2KEOUT BOX;3RI ABBREVIATION SIGN;6DIGIT EIGHT;CFIVE;DOUR;CNINE;CONE;CSEVEN;DIX;CTHREE;DWO;CZERO
6LETTER A;EA;EI;ERCHAIC KHA;EU;DBA;EHA;DCA;EHA;DDA;EDA;FHA;EHA;DE;DGA;EHA;DHA;DI;EI;DJA;EHA;DKA;EHA
DLA;DMA;DNA;EGA;ENA;EYA;DO;DPA;EHA;DRA;ERA;DSA;EHA;DTA;EHA;ETA;FHA;DU;EU;DVA;DYA;6SIGN ANUSVARA
BNUKTA;BVIRAMA;DSARGA;6VOWEL SIGN AA;II;IU;HE;HI;II;HO;HU;IU;2LLY MARK FIVE;BONE;2MALE
3IL AND ODD SIGN;7S ABOVE SIGN;7U LENGTH MARK;6CREDIT SIGN;7URRENT SIGN;6DAY SIGN;7EBIT SIGN
7IGIT EIGHT;CFIVE;DOUR;CNINE;CONE;CSEVEN;DIX;CTHREE;DWO;CZERO;7RY CULTIVATION SIGN
6FRACTION DOWNSCALING FACTOR KIIZH;FONE EIGHTH;OIETH;JFIFTH;KORTIETH;JHALF-1;O2
JONE-HUNDRED-AND-SIXTIETH;JQUARTER;JSIXTEENTH-1;T2;NY-FOURTH;JTENTH;KHIRTY-SECOND
LREE-HUNDRED-AND-TWENTIETH;KWENTIETH;FTHREE EIGHTIETHS;LQUARTERS;LSIXTEENTHS;PY-FOURTHS;LTWENTIETHS
6IN POSSESSION SIGN;6LAND SIGN;7ETTER A;EA;EI;EU;DCA;DE;EE;DHA;DI;EI;DJA;DKA;DLA;ELA;FLA;DMA;DNA
EGA;ENA;FNA;EYA;DO;EO;DPA;DRA;ERA;DSA;EHA;ESA;DTA;ETA;DU;EU;DVA;DYA;6MONTH SIGN;6NUMBER ONE HUNDRED
HTHOUSAND;DSIGN;DTEN;6OM;6PUNCTUATION END OF TEXT;6RUPEE SIGN;6SALT PAN SIGN;7IGN AAZHAAKKU
CNUSVARA;BCEVITU;BKAACU;CURUNI;DZHI;BMUKKURUNI;DTHALIYA;DUVUZHAKKU;BNEL;BPAARAM;DNAM;DTHAKKU;CON
BUZHAKKU;BVAKAIYARAA;DRAAKAN;CELI;CIRAMA;DSARGA;7PENT SIGN;7TARTING FROM SIGN;6TOTAL SIGN
7RADITIONAL CREDIT SIGN;INUMBER SIGN;6VOWEL SIGN AA;II;IU;HE;IE;HI;II;HO;IO;HU;IU
6WET CULTIVATION SIGN;6YEAR SIGN;2NABATA TREE;3GERINE;4SA DIGIT EIGHT;DFIVE;EOUR;DNINE;DONE;DSEVEN
EIX;DTHREE;EWO;DZERO;7LETTER AC;FQ;FWC;GQ;GX;GZ;FX;FZ;EBA;ECA;FHA;EDA;FHA;EEC;FQ;FX;FZ;EFA;FINAL NG
EGA;FHA;EHA;FTA;GTA;EIC;FQ;FX;FZ;EKA;FHA;ELA;FONG UEX;EMA;FC;FQ;FX;FZ;ENA;FGA;FHA;FYA;EOC;FQ;FX;FZ
EPA;FHA;ERA;ESA;FHA;GORT AWX;KUEZ;ETA;FHA;FSA;EUC;FEC;GQ;GX;GZ;FIC;GQ;GUC;HQ;HX;HZ;GX;GZ;FQ;FX;FZ
EVC;FQ;FX;FZ;EWA;EXA;EYA;EZA;4UT COMPONENT-001;J2;J3;J4;J5;J6;J7;J8;J9;I10;J1;J2;J3;J4;J5;J6;J7;J8
J9;I20;J1;J2;J3;J4;J5;J6;J7;J8;J9;I30;J1;J2;J3;J4;J5;J6;J7;J8;J9;I40;J1;J2;J3;J4;J5;J6;J7;J8;J9;I50
J1;J2;J3;J4;J5;J6;J7;J8;J9;I60;J1;J2;J3;J4;J5;J6;J7;J8;J9;I70;J1;J2;J3;J4;J5;J6;J7;J8;J9;I80;J1;J2
J3;J4;J5;J6;J7;J8;J9;I90;J1;J2;J3;J4;J5;J6;J7;J8;J9;H100;J1;J2;J3;J4;J5;J6;J7;J8;J9;I10;J1;J2;J3;J4
J5;J6;J7;J8;J9;I20;J1;J2;J3;J4;J5;J6;J7;J8;J9;I30;J1;J2;J3;J4;J5;J6;J7;J8;J9;I40;J1;J2;J3;J4;J5;J6
J7;J8;J9;I50;J1;J2;J3;J4;J5;J6;J7;J8;J9;I60;J1;J2;J3;J4;J5;J6;J7;J8;J9;I70;J1;J2;J3;J4;J5;J6;J7;J8
J9;I80;J1;J2;J3;J4;J5;J6;J7;J8;J9;I90;J1;J2;J3;J4;J5;J6;J7;J8;J9;H200;J1;J2;J3;J4;J5;J6;J7;J8;J9
I10;J1;J2;J3;J4;J5;J6;J7;J8;J9;I20;J1;J2;J3;J4;J5;J6;J7;J8;J9;I30;J1;J2;J3;J4;J5;J6;J7;J8;J9;I40;J1
J2;J3;J4;J5;J6;J7;J8;J9;I50;J1;J2;J3;J4;J5;J6;J7;J8;J9;I60;J1;J2;J3;J4;J5;J6;J7;J8;J9;I70;J1;J2;J3
J4;J5;J6;J7;J8;J9;I80;J1;J2;J3;J4;J5;J6;J7;J8;J9;I90;J1;J2;J3;J4;J5;J6;J7;J8;J9;H300;J1;J2;J3;J4;J5
J6;J7;J8;J9;I10;J1;J2;J3;J4;J5;J6;J7;J8;J9;I20;J1;J2;J3;J4;J5;J6;J7;J8;J9;I30;J1;J2;J3;J4;J5;J6;J7
J8;J9;I40;J1;J2;J3;J4;J5;J6;J7;J8;J9;I50;J1;J2;J3;J4;J5;J6;J7;J8;J9;I60;J1;J2;J3;J4;J5;J6;J7;J8;J9
I70;J1;J2;J3;J4;J5;J6;J7;J8;J9;I80;J1;J2;J3;J4;J5;J6;J7;J8;J9;I90;J1;J2;J3;J4;J5;J6;J7;J8;J9;H400
J1;J2;J3;J4;J5;J6;J7;J8;J9;I10;J1;J2;J3;J4;J5;J6;J7;J8;J9;I20;J1;J2;J3;J4;J5;J6;J7;J8;J9;I30;J1;J2
J3;J4;J5;J6;J7;J8;J9;I40;J1;J2;J3;J4;J5;J6;J7;J8;J9;I50;J1;J2;J3;J4;J5;J6;J7;J8;J9;I60;J1;J2;J3;J4
J5;J6;J7;J8;J9;I70;J1;J2;J3;J4;J5;J6;J7;J8;J9;I80;J1;J2;J3;J4;J5;J6;J7;J8;J9;I90;J1;J2;J3;J4;J5;J6
J7;J8;J9;H500;J1;J2;J3;J4;J5;J6;J7;J8;J9;I10;J1;J2;J3;J4;J5;J6;J7;J8;J9;I20;J1;J2;J3;J4;J5;J6;J7;J8
J9;I30;J1;J2;J3;J4;J5;J6;J7;J8;J9;I40;J1;J2;J3;J4;J5;J6;J7;J8;J9;I50;J1;J2;J3;J4;J5;J6;J7;J8;J9;I60
J1;J2;J3;J4;J5;J6;J7;J8;J9;I70;J1;J2;J3;J4;J5;J6;J7;J8;J9;I80;J1;J2;J3;J4;J5;J6;J7;J8;J9;I90;J1;J2
J3;J4;J5;J6;J7;J8;J9;H600;J1;J2;J3;J4;J5;J6;J7;J8;J9;I10;J1;J2;J3;J4;J5;J6;J7;J8;J9;I20;J1;J2;J3;J4
J5;J6;J7;J8;J9;I30;J1;J2;J3;J4;J5;J6;J7;J8;J9;I40;J1;J2;J3;J4;J5;J6;J7;J8;J9;I50;J1;J2;J3;J4;J5;J6
J7;J8;J9;I60;J1;J2;J3;J4;J5;J6;J7;J8;J9;I70;J1;J2;J3;J4;J5;J6;J7;J8;J9;I80;J1;J2;J3;J4;J5;J6;J7;J8
J9;I90;J1;J2;J3;J4;J5;J6;J7;J8;J9;H700;J1;J2;J3;J4;J5;J6;J7;J8;J9;I10;J1;J2;J3;J4;J5;J6;J7;J8;J9
I20;J1;J2;J3;J4;J5;J6;J7;J8;J9;I30;J1;J2;J3;J4;J5;J6;J7;J8;J9;I40;J1;J2;J3;J4;J5;J6;J7;J8;J9;I50;J1
J2;J3;J4;J5;J6;J7;J8;J9;I60;J1;J2;J3;J4;J5;J6;J7;J8;7ITERATION MARK;2PE CARTRIDGE;5DRIVE;2URUS;2XI
1EACUP WITHOUT HANDLE;3POT;3R-OFF CALENDAR;4DROP-BARBED RIGHTWARDS ARROW;9SPOKED ASTERISK;2DDY BEAR
2LEPHONE LOCATION SIGN;AON TOP OF MODEM;ARECEIVER;I WITH PAGE;DORDER;ASIGN;4SCOPE;4VISION
3UGU AI LENGTH MARK;7DIGIT EIGHT;DFIVE;EOUR;DNINE;DONE;DSEVEN;EIX;DTHREE;EWO;DZERO
7FRACTION DIGIT ONE FOR EVEN POWERS OF FOUR;UODD POWERS OF FOUR;MTHREE FOR EVEN POWERS OF FOUR
WODD POWERS OF FOUR;NWO FOR EVEN POWERS OF FOUR;UODD POWERS OF FOUR;MZERO FOR ODD POWERS OF FOUR
7LENGTH MARK;9TTER A;FA;FI;FU;EBA;FHA;ECA;FHA;EDA;FDA;GHA;FHA;FZA;EE;FE;EGA;FHA;EHA;EI;FI;EJA;FHA
EKA;FHA;ELA;FLA;GLA;EMA;ENA;GKAARA POLLU;FGA;FNA;FYA;EO;FO;EPA;FHA;ERA;FRA;GRA;ESA;FHA;FSA;ETA;FHA
FSA;FTA;GHA;EU;FU;EVA;FOCALIC L;NL;MR;NR;EYA;7SIGN ANUSVARA;DVAGRAHA;CCANDRABINDU
DOMBINING ANUSVARA ABOVE;MCANDRABINDU ABOVE;CNUKTA;CSIDDHAM;CTUUMU;CVIRAMA;ESARGA;7VOWEL SIGN AA;JI
JU;IE;JE;II;JI;IO;JO;IU;JU;IVOCALIC L;RL;QR;RR;2NGE SIGN;3NIS RACQUET AND BALL;3T;2ST TUBE
2TRAGRAM FOR ACCUMULATION;FDVANCE;FGGRAVATION;FSCENT;EBARRIER;FOLD RESOLUTION;FRANCHING OUT;ECENTRE
FHANGE;FLOSED MOUTH;JNESS;IURE;FOMPLETION;JIANCE;GNSTANCY;HTACT;IENTION;IRARIETY;EDARKENING
FECISIVENESS;GFECTIVENESS OR DISTORTION;GPARTURE;FIFFICULTIES;GMINISHMENT;HMING;GVERGENCE;FOUBT
FUTIES;EEASE;FMBELLISHMENT;FNCOUNTERS;GDEAVOUR;GLARGEMENT;FTERNITY;FXHAUSTION;EFAILURE;FLIGHT
FOLLOWING;GSTERING;FULL CIRCLE;INESS;EGATHERING;N IN;FOING TO MEET;FREATNESS;FUARDEDNESS;EHARDNESS
FOLDING BACK;EINCREASE;GNER;EJOY;EKEEPING SMALL;FINSHIP;ELABOURING;GW OR MODEL;FEGION;EMASSING
FEASURE;FIRED;EON THE VERGE;FPPOSITION;EPACKING;GTTERN;FENETRATION;FURITY;EREACH;GLEASE;GSIDENCE
ISTANCE;HPONSE;FITUAL;ESEVERANCE;FINKING;FTOPPAGE;HVE;GRENGTH;EUNITY;EVASTNESS OR WASTING;EWAITING
GTCH;EYOUTHFULNESS;1HAANA AABAAFILI;8BAFILI;7EBEFILI;8EBEEFILI;8YBEYFILI;7IBIFILI;7LETTER AINU
FLIFU;EBAA;ECHAVIYANI;EDAADHU;GVIYANI;FHAALU;EFAAFU;EGAAFU;FHAINU;FNAVIYANI;EHAA;FHAA;EJAVIYANI
EKAAFU;FHAA;ELAAMU;FHAVIYANI;EMEEMU;ENAA;FOONU;EPAVIYANI;EQAAFU;ERAA;ESAADHU;FEENU;FHAVIYANI;GEENU
ETAVIYANI;FHAA;ILU;FO;FTAA;EVAAVU;EWAAVU;EYAA;EZAA;GVIYANI;FO;7OABOAFILI;8BOFILI;8OBOOFILI;7SUKUN
7UBUFILI;3I CHARACTER ANGKHANKHU;FBO BAIMAI;FCHO CHAN;NG;LING;LOE;FDO CHADA;IDEK;FFO FA;KN;HNGMAN
FHO HIP;INOKHUK;FKHO KHAI;LON;LUAT;LWAI;JRAKHANG;IMUT;GO KAI;FLAKKHANGYAO;GO CHULA;ILING;GU
FMAI CHATTAWA;JEK;JHAN-AKAT;JTHO;KRI;ITAIKHU;IYAMOK;GO MA;FNGO NGU;GIKHAHIT;GO NEN;JU;FO ANG
FPAIYANNOI;GHINTHU;HO PHAN;LUNG;JSAMPHAO;GO PLA;FRO RUA;GU;FSARA A;LA;LE;LI MAIMALAI;RUAN;LM;KE;KI
LI;KO;KU;LE;ME;LU;GO RUSI;ISALA;JO;JUA;FTHANTHAKHAT;HO NANGMONTHO;JPHUTHAO;JTHAHAN;MN;LONG;LUNG
GO PATAK;ITAO;FWO WAEN;FYAMAKKAN;GO YAK;JING;6URRENCY SYMBOL BAHT;5DIGIT EIGHT;BFIVE;COUR;BNINE
BONE;BSEVEN;CIX;BTHREE;CWO;BZERO;2ERE DOES NOT EXIST;6EXISTS;5FORE;4MODYNAMIC;6METER
2IN GREEK CROSS;5SALTIRE;6PACE;4KING FACE;3RD PLACE MEDAL;2ONG SANDAL;3UGHT BALLOON
2REE BUTTON MOUSE;6CONSECUTIVE EQUALS SIGNS;6DIMENSIONAL ANGLE;7OT PUNCTUATION;6LEFTWARDS ARROWS
7INES CONVERGING LEFT;NRIGHT;6NETWORKED COMPUTERS;6POINTED BLACK STAR;6RAYS ABOVE;BBELOW;BLEFT
BRIGHT;7IGHTWARDS ARROWS;6SPEECH BUBBLES;5-D BOTTOM-LIGHTED RIGHTWARDS ARROWHEAD
8LEFT-LIGHTED DOWNWARDS EQUILATERAL ARROWHEAD;8RIGHT-LIGHTED UPWARDS EQUILATERAL ARROWHEAD
8TOP-LIGHTED LEFTWARDS EQUILATERAL ARROWHEAD;KRIGHTWARDS ARROWHEAD;VEQUILATERAL ARROWHEAD;6EM DASH
6PER-EM SPACE;2UMBS DOWN SIGN;7UP SIGN;3NDER CLOUD AND RAIN;7STORM
1IBETAN ASTROLOGICAL SIGN -KHYUD PA;QSDONG TSHUGS;RGRA GCAN -CHAR RTAGS
8CANTILLATION SIGN CANG TE-U;QHEAVY BEAT;QLIGHT BEAT;QSBUB -CHAL;8DIGIT EIGHT;EFIVE;FOUR
EHALF EIGHT;JFIVE;KOUR;JNINE;JONE;JSEVEN;KIX;JTHREE;KWO;JZERO;ENINE;EONE;ESEVEN;FIX;ETHREE;FWO
EZERO;8KU RU KHA;H BZHI MIG CAN;8LETTER -A;FA;FBA;GHA;FCA;GHA;FDA;GDA;HHA;GHA;GZA;HHA
FFIXED-FORM RA;FGA;GHA;FHA;FJA;FKA;GHA;GKA;GSSA;FLA;FMA;FNA;GGA;GNA;GYA;FPA;GHA;FRA;GRA;FSA;GHA;GSA
FTA;GHA;GSA;HHA;GTA;HHA;FWA;FYA;FZA;GHA;9OGOTYPE SIGN CHAD RTAGS;MLHAG RTAGS;8MARK ANG KHANG GYAS
PON;DBKA- SHOG GI MGO RGYAN;NYIG MGO;ESDUS RTAGS;FKA- SHOG GI MGO RGYAN;GUR YIG MGO
DCARET -DZUD RTAGS BZHI MIG CAN;VME LONG CAN;JYIG MGO PHUR SHAD MA;EHE MGO
ELOSING BRDA RNYING YIG MGO SGAB MA;LYIG MGO SGAB MA;DDELIMITER TSHEG BSTAR;DGTER TSHEG
IYIG MGO -UM GTER TSHEG MA;URNAM BCAD MA;QTRUNCATED A;EUG RTAGS GYAS;PON;DHALANTA
DINITIAL BRDA RNYING YIG MGO MDUN MA;LYIG MGO MDUN MA;FTERSYLLABIC TSHEG;DLEADING MCHAN RTAGS
DMNYAM YIG GI MGO RGYAN;DNGAS BZUNG NYI ZLA;OSGOR RTAGS;EYIS SHAD;ITSHEG;N SHAD;DPALUTA
DRGYA GRAM SHAD;EIN CHEN SPUNGS SHAD;DSBRUL SHAD;EHAD;DTRAILING MCHAN RTAGS;ESA -PHRU;FHEG SHAD
DYIG MGO TSHEG SHAD MA;8SIGN GRU CAN RGYINGS;HMED RGYINGS;DINVERTED MCHU CAN;DLCE TSA CAN;FI RTAGS
DMAR TSHES;ECHU CAN;DNYI ZLA NAA DA;DRDEL DKAR GCIG;ONYIS;OSUM;NRDEL NAG;INAG GCIG;NNYIS;NSUM
MRDEL DKAR;EJES SU NGA RO;ENAM BCAD;DSNA LDAN;DYANG RTAGS;FR TSHES;9UBJOINED LETTER -A;PA;PBA;QHA
PCA;QHA;PDA;QDA;RHA;QHA;QZA;RHA;PFIXED-FORM RA;aWA;aYA;PGA;QHA;PHA;PJA;PKA;QHA;QSSA;PLA;PMA;PNA;QGA
QNA;QYA;PPA;QHA;PRA;PSA;QHA;QSA;PTA;QHA;QSA;RHA;QTA;RHA;PWA;PYA;PZA;QHA;ISIGN INVERTED MCHU CAN
NLCE TSA CAN;NMCHU CAN;9YLLABLE OM;AMBOL DRIL BU;FNOR BU;L BZHI -KHYIL;MGSUM -KHYIL;MNYIS -KHYIL
FPADMA GDAN;GHUR PA;FRDO RJE;M RGYA GRAM;8VOWEL SIGN AA;JE;KE;JI;KI;JO;KO;JREVERSED I;TI;JU;KU
JVOCALIC L;SL;RR;SR;2CKET;2E OVER INFINITY;2FINAGH CONSONANT JOINER;9LETTER AHAGGAR YAZH;HYER YAGH
GBERBER ACADEMY YAH;XJ;GTAWELLEMET YAZ;HUAREG YAGH;QN;PH;PK;QH;PNG;PQ;PZH;GYA;IA;IB;JH;ICH;ID;JD;KH
JH;IF;IG;JH;KH;IH;JH;IJ;IK;JH;KH;IL;IM;IN;IP;IQ;IR;JR;IS;JH;JS;IT;JH;JT;IV;IW;IY;IZ;JH;JZ;HE;IY;HI
HO;HU;9MODIFIER LETTER LABIALIZATION MARK;9SEPARATOR MARK;2GER;5 FACE;3HT TRIFOLIATE SNOWFLAKE;2LDE
5 OPERATOR;E ABOVE LEFTWARDS ARROW;LRIGHTWARDS ARROW;FWITH DOT ABOVE;KRISING DOTS;6WITH DOT ABOVE
FBELOW;BRING ABOVE;2MER CLOCK;4S WITH LEFT HALF BLACK;BRIGHT HALF BLACK;2NY
4 TWO DOTS OVER ONE DOT PUNCTUATION;2RED FACE;3HUTA ABBREVIATION SIGN;9NJI;8DIGIT EIGHT;EFIVE;FOUR
ENINE;EONE;ESEVEN;FIX;ETHREE;FWO;EZERO;8GVANG;8LETTER A;GA;GI;GU;FBA;GHA;FCA;GHA;FDA;GDA;HHA;GHA;FE
FGA;GHA;FHA;FI;GI;FJA;GHA;FKA;GHA;FLA;FMA;FNA;GGA;GNA;GYA;FO;FPA;GHA;FRA;FSA;GHA;GSA;FTA;GHA;GTA
HHA;FU;GU;FVA;GOCALIC L;OL;NR;OR;FYA;8OM;8SIGN ANUSVARA;EVAGRAHA;DCANDRABINDU;DNUKTA;DVIRAMA;FSARGA
8VOWEL SIGN AA;KI;KU;JE;JI;KI;JO;JSHORT E;PO;JU;KU;JVOCALIC L;SL;RR;SR;3ONIAN SIGN CAPITAL ET;EET
1OILET;2KYO TOWER;2MATO;2NGUE;2OLBOX;3TH;5BRUSH;2P ARC ANTICLOCKWISE ARROW;R WITH PLUS
8CLOCKWISE ARROW WITH MINUS;4CURLY BRACKET;4HALF BLACK CIRCLE;9INTEGRAL;9LEFT PARENTHESIS
9RIGHT PARENTHESIS;9SECTION SIGN;6T;4LEFT CORNER;AROP;9HALF BRACKET;4PARENTHESIS;4RIGHT CORNER;BROP
AHALF BRACKET;4SQUARE BRACKET;4TORTOISE SHELL BRACKET;4WITH UPWARDS ARROW ABOVE
2RTOISE SHELL BRACKETED CJK UNIFIED IDEOGRAPH-4E09;n8C;l52DD;mB89;l6253;m557;m72C;l70B9;m6D7
PLATIN CAPITAL LETTER S;2TAL RUNOUT;3O LETTER A;DE;CBA;DREATHY AE;KE;LO;KI;LU;CCHA;CDA;CE;DO;CGA
CHA;CI;DU;CJA;CKA;CLA;CMA;CNA;DGA;CO;CPA;CRA;CSA;CTA;CU;CWA;CYA;5SIGN RISING TONE;1RACKBALL;4TOR
3DE MARK SIGN;3IN;3M;4 CAR;3NSPLUTO;5VERSAL INTERSECTION;2IANGLE WITH DOT ABOVE;EROUNDED CORNERS
ESERIFS AT BOTTOM;EUNDERBAR;8-HEADED RIGHTWARDS ARROW;6ULAR BULLET;BFLAG ON POST;BRULER;3COLON
3DENT EMBLEM;3GRAM FOR EARTH;CFIRE;CHEAVEN;CLAKE;CMOUNTAIN;CTHUNDER;CWATER;DIND;3PLE COLON OPERATOR
7DAGGER;7HORIZONTAL BAR WITH DOUBLE VERTICAL STROKE;RTRIPLE VERTICAL STROKE;7INTEGRAL
7NESTED GREATER-THAN;ELESS-THAN;7PLUS;8RIME;7SOLIDUS BINARY RELATION;7TILDE
7VERTICAL BAR BINARY RELATION;KDELIMITER;KRIGHT TURNSTILE;KWITH HORIZONTAL STROKE;2OLL;5EYBUS;3PHY
4ICAL DRINK;9FISH;2UE;4 LIGHT MOON ARTA;3MPET;1UGRIK SIGN;2LIP;2MBLER GLASS;2RKEY;4ISH LIRA SIGN
3NED AMPERSAND;8NGLE;7BLACK PENTAGON;DSHOGI PIECE;7CAPITAL F;8OMMA;7DAGGER;8IGIT THREE;EWO
7GREEK SMALL LETTER IOTA;7NORTH EAST POINTING LEAF;DWEST POINTING LEAF;9T SIGN;7OK HAND SIGN
7SANS-SERIF CAPITAL G;QL;QY;8EMICOLON;8MALL F;8OUTH EAST POINTING LEAF;DWEST POINTING LEAF
7WHITE SHOGI PIECE;3TLE;1WELVE POINTED BLACK STAR;2ISTED RIGHTWARDS ARROWS
2O ASTERISKS ALIGNED VERTICALLY;4BUTTON MOUSE;4CONSECUTIVE EQUALS SIGNS;4DOT LEADER;8PUNCTUATION
7S OVER ONE DOT PUNCTUATION;4HEARTS;4INTERSECTING LOGICAL AND;POR;4JOINED SQUARES
4LOGICAL AND OPERATOR;COR OPERATOR;4MEN HOLDING HANDS;4SPEECH BUBBLES;4WOMEN HOLDING HANDS
3-EM DASH;0UGARITIC LETTER AIN;HLPA;GBETA;GDELTA;HHAL;GGAMLA;HHAIN;GHO;ITA;GI;GKAF;HHA;GLAMDA;GMEM
GNUN;GPU;GQOPA;GRASHA;GSADE;IMKA;HHIN;HSU;GTET;HHANNA;HO;GU;GWO;GYOD;GZETA;HU;9WORD DIVIDER
1MBRELLA;8 ON GROUND;9WITH RAIN DROPS;1NAMUSED FACE;2CERTAINTY SIGN;2DERTIE;3O SYMBOL;2ICORN FACE
3ON;5 ABOVE BAR ABOVE INTERSECTION;CINTERSECTION;6BESIDE AND JOINED WITH UNION;6WITH LOGICAL OR
BMINUS SIGN;BOVERBAR;3T SEPARATOR;4ED SYMBOL;3VERSAL RECYCLING SYMBOL;2MARRIED PARTNERSHIP SYMBOL
1P ARROW THROUGH CIRCLE;8HEAD;C BETWEEN TWO HORIZONTAL BARS;DIN A RECTANGLE BOX
3BARB LEFT DOWN BARB LEFT HARPOON;NRIGHT HARPOON;8RIGHT DOWN BARB LEFT HARPOON;ORIGHT HARPOON
3DOWN ARROW;D WITH BASE;8BLACK ARROW;8DOUBLE ARROW;8SANS-SERIF ARROW;8TRIANGLE-HEADED ARROW
8WHITE ARROW;3FISH TAIL;3RIGHT DIAGONAL ELLIPSIS;3TACK;7 WITH CIRCLE ABOVE;2-POINTING AIRPLANE
CMILITARY AIRPLANE;CRED TRIANGLE;CSMALL AIRPLANE;IRED TRIANGLE;CTRIANGLE WITH LEFT HALF BLACK
QRIGHT HALF BLACK;2PER AND LEFT AND LOWER TRIANGULAR THREE QUARTERS BLOCK;BOWER ONE EIGHTH BLOCK
GTRIANGULAR HALF BLOCK;ARIGHT AND LOWER TRIANGULAR THREE QUARTERS BLOCK;6BLADE SCISSORS
6FIVE EIGHTHS BLOCK;6HALF BLOCK;G AND LOWER HALF INVERSE MEDIUM SHADE;BCIRCLE
BINVERSE MEDIUM SHADE AND LOWER HALF BLOCK;JWHITE CIRCLE;BMEDIUM SHADE
6LEFT BLOCK DIAGONAL LOWER CENTRE TO LOWER MIDDLE RIGHT;gUPPER MIDDLE RIGHT;mRIGHT
WLEFT TO LOWER MIDDLE RIGHT;eUPPER CENTRE;kMIDDLE RIGHT;WMIDDLE LEFT TO UPPER CENTRE;rMIDDLE RIGHT
rRIGHT;QUPPER MIDDLE LEFT TO UPPER CENTRE;rRIGHT;BCORNER WITH DOT
BOR LOWER RIGHT CURLY BRACKET SECTION;BQUADRANT CIRCULAR ARC;BTO LOWER RIGHT FILL;CRIANGLE
HULAR MEDIUM SHADE;6ONE EIGHTH BLOCK;AQUARTER BLOCK
6RIGHT BLOCK DIAGONAL LOWER MIDDLE LEFT TO LOWER CENTRE;sRIGHT;RUPPER CENTRE TO LOWER MIDDLE RIGHT
nRIGHT;hUPPER MIDDLE RIGHT;XLEFT TO LOWER CENTRE;lMIDDLE RIGHT;fUPPER MIDDLE RIGHT
XMIDDLE LEFT TO LOWER CENTRE;sMIDDLE RIGHT;sRIGHT;CDROP-SHADOWED WHITE SQUARE
COR LOWER LEFT CURLY BRACKET SECTION;CPENCIL;CQUADRANT CIRCULAR ARC;CSHADOWED WHITE CIRCLE;RSQUARE
CTO LOWER LEFT FILL;DRIANGLE;IULAR MEDIUM SHADE;6SEVEN EIGHTHS BLOCK;6THREE EIGHTHS BLOCK
CQUARTERS BLOCK;7RIANGULAR ONE QUARTER BLOCK;2SIDE-DOWN FACE;2WARDS ANCORA;9RROW
D AND RIGHT ONE EIGHTH BLOCK;EFROM BAR;ELEFTWARDS OF DOWNWARDS ARROW;ETO BAR;EWITH DOUBLE STROKE
JEQUILATERAL ARROWHEAD;JHORIZONTAL STROKE;JLARGE TRIANGLE ARROWHEAD;JMEDIUM TRIANGLE ARROWHEAD
JNOTCHED TAIL;JSMALL EQUILATERAL ARROWHEAD;PTRIANGLE ARROWHEAD;JTIP LEFTWARDS;NRIGHTWARDS
8BLACK ARROW;ECIRCLED WHITE ARROW;8COMPRESSED ARROW;8DASHED ARROW;9OUBLE ARROW;8FINGER-POST ARROW
8HARPOON WITH BARB LEFT BESIDE DOWNWARDS HARPOON WITH BARB RIGHT;cUPWARDS HARPOON WITH BARB RIGHT
VFROM BAR;VTO BAR;UWARDS;QRIGHT FROM BAR;WTO BAR;VWARDS;9EAVY ARROW;ECOMPRESSED ARROW
8PAIRED ARROWS;8QUADRUPLE ARROW;8ROCKET;8SANS-SERIF ARROW;9QUARED ARROW;8TRIANGLE ARROWHEAD
G-HEADED ARROW;T LEFTWARDS OF DOWNWARDS TRIANGLE-HEADED ARROW;UTO BAR;UWITH BOLD SHAFT
ZDOUBLE HORIZONTAL STROKE;ZHEAVY SHAFT;ZLONG TIP LEFTWARDS;iRIGHTWARDS;ZMEDIUM SHAFT;ZNARROW SHAFT
ZVERY HEAVY SHAFT;ODASHED ARROW;OPAIRED ARROWS;BPLE ARROW;9WO HEADED ARROW
B-HEADED ARROW FROM SMALL CIRCLE;PWITH TRIANGLE ARROWHEADS;8WHITE ARROW;J FROM BAR
S WITH HORIZONTAL BAR;KON PEDESTAL;V WITH HORIZONTAL BAR;bVERTICAL BAR;KWITHIN TRIANGLE ARROWHEAD
EDOUBLE ARROW;Q ON PEDESTAL;1RANUS;1S;0VAI COMMA;4DIGIT EIGHT;AFIVE;BOUR;ANINE;AONE;ASEVEN;BIX
ATHREE;BWO;AZERO;4FULL STOP;4QUESTION MARK;4SYLLABLE A;EN;DBA;EE;FE;EHA;FE;GE;FI;FO;GO;FU;EI;EO;FO
EU;DCA;EE;FE;EI;EO;FO;EU;DDA;EE;FE;EHA;FE;GE;FHA;GE;HE;GI;GO;HO;GU;FI;FO;GO;FU;EI;EO;FO;EU;DE;EE;FN
EN;DFA;EE;FE;EI;EO;FO;EU;DGA;EBA;FE;GE;GN;FI;FO;GN;GO;FU;EE;FE;FN;EI;EO;FO;EU;DHA;FN;EE;FE;FN;EI;FN
EO;FN;FO;EU;FN;DI;EN;DJA;EE;FE;EI;EO;FO;EU;DKA;FN;EE;FE;EI;EO;FO;EPA;GN;FE;GE;GN;FI;FO;GO;FU;EU;DLA
EE;FE;FNGTHENER;EI;EO;FO;EU;DMA;EBA;FE;GE;FI;FO;GO;FU;EE;FE;EGBA;GE;HE;GI;GO;HO;GU;EI;EO;FO;EU;DNA
EDA;FE;GE;FI;FO;GLE DO;JFA;JKA;JMA;JSOO;GO;FU;EE;FE;EG;FAN;FEN;FGA;GE;HE;HN;GI;GO;HO;GU;FON;EI;EJA
FE;GE;FI;FO;GO;FU;EO;FO;EU;EYA;FE;GE;FI;FO;GO;FU;DO;EN;EO;FN;DPA;EE;FE;EI;EO;FO;EU;DRA;EE;FE;EI;EO
FO;EU;DSA;EE;FE;EHA;FE;GE;FI;FO;GO;FU;EI;EO;FO;EU;DTA;EE;FE;EHA;FE;GE;FI;FO;GO;FU;EI;EO;FO;EU;DU;EN
DVA;EE;FE;EI;EO;FO;EU;DWA;FN;EE;FE;GN;FN;EI;FN;EO;FN;FO;GN;EU;FN;DYA;EE;FE;EI;EO;FO;EU;DZA;EE;FE
EHA;FE;GE;FI;FO;GO;FU;EI;EO;FO;EU;6MBOL BANG;BDANG;CO-O;DONG;BFAA;CEENG;BJONG;BKEENG;CUNG;BNII;BTAA
CING;CONG;2MPIRE;2RIATION SELECTOR-1;K0;L0;L1;L2;L3;L4;L5;L6;L7;L8;L9;K1;L0;L1;L2;L3;L4;L5;L6;L7;L8
L9;K2;L0;L1;L2;L3;L4;L5;L6;L7;L8;L9;K3;L0;L1;L2;L3;L4;L5;L6;L7;L8;L9;K4;L0;L1;L2;L3;L4;L5;L6;L7;L8
L9;K5;L0;L1;L2;L3;L4;L5;L6;L7;L8;L9;K6;L0;L1;L2;L3;L4;L5;L6;L7;L8;L9;K7;L0;L1;L2;L3;L4;L5;L6;L7;L8
L9;K8;L0;L1;L2;L3;L4;L5;L6;L7;L8;L9;K9;L0;L1;L2;L3;L4;L5;L6;L7;L8;L9;J2;K0;L0;L1;L2;L3;L4;L5;L6;L7
L8;L9;K1;L0;L1;L2;L3;L4;L5;L6;L7;L8;L9;K2;L0;L1;L2;L3;L4;L5;L6;L7;L8;L9;K3;L0;L1;L2;L3;L4;L5;L6;L7
L8;L9;K4;L0;L1;L2;L3;L4;L5;L6;L7;L8;L9;K5;L0;L1;L2;L3;L4;L5;L6;K6;K7;K8;K9;J3;K0;K1;K2;K3;K4;K5;K6
K7;K8;K9;J4;K0;K1;K2;K3;K4;K5;K6;K7;K8;K9;J5;K0;K1;K2;K3;K4;K5;K6;K7;K8;K9;J6;K0;K1;K2;K3;K4;K5;K6
K7;K8;K9;J7;K0;K1;K2;K3;K4;K5;K6;K7;K8;K9;J8;K0;K1;K2;K3;K4;K5;K6;K7;K8;K9;J9;K0;K1;K2;K3;K4;K5;K6
K7;K8;K9;1ECTOR OR CROSS PRODUCT;2DIC SIGN ANUSVARA ANTARGOMUKHA;KBAHIRGOMUKHA;KUBHAYATO MUKHA
KVAMAGOMUKHA;V WITH TAIL;CRDHAVISARGA;CTIKRAMA;BDOUBLE ANUSVARA ANTARGOMUKHA
BHEXIFORM LONG ANUSVARA;BJIHVAMULIYA;BLONG ANUSVARA;BNIHSHVASA;BREVERSED VISARGA ANUDATTA;SUDATTA
COTATED ARDHAVISARGA;CTHANG LONG ANUSVARA;BTIRYAK;BUPADHMANIYA;BVISARGA ANUDATTA;R WITH TAIL
JSVARITA;JUDATTA;P WITH TAIL;BYAJURVEDIC MIDLINE SVARITA;6TONE ATHARVAVEDIC INDEPENDENT SVARITA
BCANDRA ABOVE;IBELOW;BDOT BELOW;DUBLE RING ABOVE;ISVARITA;BKARSHANA;DTHAKA ANUDATTA;BPRENKHA
BRIGVEDIC KASHMIRI INDEPENDENT SVARITA;DNG ABOVE;BSHARA;BTHREE DOTS BELOW;CRIPLE SVARITA
CWO DOTS BELOW;BYAJURVEDIC AGGRAVATED INDEPENDENT SVARITA;MINDEPENDENT SVARITA
MKATHAKA INDEPENDENT SVARITA;n SCHROEDER;2RSICLE;3TICAL BAR BESIDE RIGHT TRIANGLE
DDOUBLE LEFT TURNSTILE;DTRIPLE RIGHT TURNSTILE;DWITH HORIZONTAL STROKE;9ELLIPSIS;9FOUR DOTS
9IDEOGRAPHIC ITERATION MARK;9KANA REPEAT MARK;P LOWER HALF;QUPPER HALF;LWITH VOICED SOUND MARK
h UPPER HALF;9LINE;D EXTENSION;EWITH CIRCLE ABOVE;QBELOW;JMIDDLE DOT;9MALE WITH STROKE SIGN
9ONE EIGHTH BLOCK-2;Q3;Q4;Q5;Q6;Q7;9SIX DOTS;9TAB KEY;CULATION;J SET;AILDE;ARAFFIC LIGHT
9ZIGZAG LINE;3Y BOLD GREEK CROSS;5HEAVY EIGHT POINTED BLACK STAR;HSPOKED ASTERISK
BFIVE SPOKED ASTERISK;BGREEK CROSS;BREVERSE SOLIDUS;BSALTIRE;CIX SPOKED ASTERISK;COLIDUS
BWHITE CIRCLE;HSQUARE;5MUCH GREATER-THAN;ALESS-THAN;2STA;1IBRATION MODE;2CTORY HAND;2DEO CAMERA
6GAME;5CASSETTE;2ETNAMESE ALTERNATE READING MARK CA;YNHAY;3WDATA SQUARE;2OLIN;2RGO
2THKUQI CAPITAL LETTER A;OBBE;PE;OCE;PHE;ODE;PHE;OE;PI;OFE;OGA;OHA;PHA;OI;PJE;OJE;OKA;OLA;PLA;OME
ONE;PJE;OO;OPE;OQA;ORE;OSE;PHE;OTE;PHE;OU;OVE;OXE;OY;OZE;9SMALL LETTER A;MBBE;NE;MCE;NHE;MDE;NHE;ME
NI;MFE;MGA;MHA;NHA;MI;NJE;MJE;MKA;MLA;NLA;MME;MNE;NJE;MO;MPE;MQA;MRE;MSE;NHE;MTE;NHE;MU;MVE;MXE;MY
MZE;1OIDED GREEK CROSS;2LCANO;3LEYBALL;3UME INTEGRAL;1S1;30;40;41;42;43;44;45;46;47;48;49;31;40;41
42;43;44;45;46;47;48;49;32;40;41;42;43;44;45;46;47;48;49;33;40;41;42;43;44;45;46;47;48;49;34;40;41
42;43;44;45;46;47;48;49;35;40;41;42;43;44;45;46;47;48;49;36;40;41;42;43;44;45;46;47;48;49;37;40;41
42;43;44;45;46;47;48;49;38;40;41;42;43;44;45;46;47;48;49;39;40;41;42;43;44;45;46;47;48;49;22;30;40
41;42;43;44;45;46;47;48;49;31;40;41;42;43;44;45;46;47;48;49;32;40;41;42;43;44;45;46;47;48;49;33;40
41;42;43;44;45;46;47;48;49;34;40;41;42;43;44;45;46;47;48;49;35;40;41;42;43;44;45;46;36;37;38;39;23
30;31;32;33;34;35;36;37;38;39;24;30;31;32;33;34;35;36;37;38;39;25;30;31;32;33;34;35;36;37;38;39;26
30;31;32;33;34;35;36;37;38;39;27;30;31;32;33;34;35;36;37;38;39;28;30;31;32;33;34;35;36;37;38;39;29
30;31;32;33;34;35;36;37;38;39;1T;2S;1ULCANUS;3GAR FRACTION FIVE EIGHTHS;LSIXTHS;HOUR FIFTHS
GONE EIGHTH;KFIFTH;KHALF;KNINTH;KQUARTER;KSEVENTH;LIXTH;KTENTH;LHIRD;GSEVEN EIGHTHS;GTHREE EIGHTHS
MFIFTHS;MQUARTERS;HWO FIFTHS;KTHIRDS;GZERO THIRDS;0WAFFLE;2NCHO DIGIT EIGHT;DFIVE;EOUR;DNINE;DONE
DSEVEN;EIX;DTHREE;EWO;DZERO;7LETTER A;FA;GN;HG;FNG;FU;EBA;ECA;EDA;EE;FN;EFA;EGA;EHA;EI;FNG;EJA;EKA
FHA;ELA;FLHA;EMA;ENA;FGA;FYA;EO;FN;GG;EPA;FHA;ERA;ESA;FHA;ETA;FHA;FRA;FSA;EU;FEN;EVA;EWA;EYA;FIH
EZA;7NGUN SIGN;7TONE KOI;FNI;CTUP;FNI;3ING CRESCENT MOON SYMBOL;7GIBBOUS MOON SYMBOL
2RANG CITI CAPITAL LETTER A;SM;SNG;ST;RBU;RDA;RE;SNN;TY;RGA;RHAR;SIYO;SOLO;TRR;RII;RKO;RNGAA;SUNG
RO;SDD;RPU;RSII;SSUU;RTTE;RUC;SU;RVIYO;RWI;RYA;SO;SU;TJ;CDIGIT EIGHT;IFIVE;JOUR;ININE;IONE;ISEVEN
JIX;ITHREE;JWO;IZERO;CNUMBER EIGHTY;JFIFTY;KORTY;JNINETY;JSEVENTY;KIXTY;JTEN;KHIRTY;KWENTY;COM
CSMALL LETTER A;QM;QNG;QT;PBU;PDA;PE;QNN;RY;PGA;PHAR;QIYO;QOLO;RRR;PII;PKO;PNGAA;QUNG;PO;QDD;PPU
PSII;QSUU;PTTE;PUC;QU;PVIYO;PWI;PYA;QO;QU;RJ;3NING SIGN;2STEBASKET;2TCH;3ER BUFFALO;6CLOSET;6POLO
6WAVE;5MELON;2VE ARROW POINTING DIRECTLY LEFT;TRIGHT;5DASH;3ING BLACK FLAG;7HAND SIGN;7WHITE FLAG
3Y DASH;5LINE;6OW LINE;5OVERLINE;2XING CRESCENT MOON SYMBOL;7GIBBOUS MOON SYMBOL;1EARY CAT FACE
6FACE;2DDING;3GE-TAILED RIGHTWARDS ARROW;2IERSTRASS ELLIPTIC FUNCTION;3GHT LIFTER;2ST SYRIAC CROSS
1HALE;2EEL;5 OF DHARMA;5CHAIR SYMBOL;2ITE ARROW SHAFT WIDTH ONE;OTWO THIRDS;6BULLET;6CHESS BISHOP
I ROTATED NINETY DEGREES;RTWO HUNDRED SEVENTY DEGREES;CEQUIHOPPER;M ROTATED NINETY DEGREES;CKING
G ROTATED NINETY DEGREES;PTWO HUNDRED SEVENTY DEGREES;DNIGHT;I ROTATED FORTY-FIVE DEGREES
RNINETY DEGREES;RONE HUNDRED THIRTY-FIVE DEGREES;RTHREE HUNDRED FIFTEEN DEGREES
SWO HUNDRED SEVENTY DEGREES;dTWENTY-FIVE DEGREES;I-BISHOP;JQUEEN;JROOK;CPAWN
G ROTATED NINETY DEGREES;PTWO HUNDRED SEVENTY DEGREES;CQUEEN;H ROTATED NINETY DEGREES
QTWO HUNDRED SEVENTY DEGREES;CROOK;G ROTATED NINETY DEGREES;PTWO HUNDRED SEVENTY DEGREES
CTURNED BISHOP;JKING;KNIGHT;JPAWN;JQUEEN;JROOK;7IRCLE;C CONTAINING BLACK SMALL CIRCLE
DWITH DOT RIGHT;KWN ARROW;ILOWER LEFT QUADRANT;ORIGHT QUADRANT;ITWO DOTS;IUPPER LEFT QUADRANT
ORIGHT QUADRANT;7LUB SUIT;7ONCAVE-SIDED DIAMOND;R WITH LEFTWARDS TICK;XRIGHTWARDS TICK;6DIAMOND
D CONTAINING BLACK MEDIUM DIAMOND;VSMALL DIAMOND;VVERY SMALL DIAMOND;EIN SQUARE;ESUIT
EWITH CENTRED DOT;7OWN POINTING BACKHAND INDEX;KINDEX;KLEFT HAND INDEX;A-POINTING SMALL TRIANGLE
KTRIANGLE;7RAUGHTS KING;FMAN;6EXCLAMATION MARK ORNAMENT;6FLAG;A WITH HORIZONTAL MIDDLE BLACK STRIPE
8ORETTE;9WER;7OUR POINTED CUSP;JSTAR;7ROWNING FACE;6HARD SHELL FLOPPY DISK;7EART;B SUIT
9VY CHECK MARK;CSALTIRE WITH ROUNDED CORNERS;8XAGON;7ORIZONTAL ELLIPSE;8URGLASS;6LARGE SQUARE
8TIN CROSS;7EFT LANE MERGE;BPOINTING BACKHAND INDEX;KINDEX;A-POINTING POINTER;KSMALL TRIANGLE
KTRIANGLE;7OZENGE CONTAINING BLACK SMALL LOZENGE;6MEDIUM DIAMOND;DLOZENGE;DSMALL SQUARE;EQUARE;ETAR
7OON SELENA;6NIB;6PARALLELOGRAM;7ENNANT;9TAGON;6QUESTION MARK ORNAMENT;6RECTANGLE
7IGHT POINTING BACKHAND INDEX;LINDEX;B-POINTING PENTAGON;MOINTER;LSMALL TRIANGLE;LTRIANGLE
6SCISSORS;7ESAME DOT;7HOGI PIECE;7MALL LOZENGE;CSQUARE;DTAR;8ILING FACE;7PADE SUIT;7QUARE;C BUTTON
DCONTAINING BLACK MEDIUM SQUARE;USMALL SQUARE;UVERY SMALL SQUARE;DWITH CENTRE VERTICAL LINE
ILEFTWARDS TICK;JOWER LEFT QUADRANT;ORIGHT QUADRANT;IRIGHTWARDS TICK;JOUNDED CORNERS
IUPPER LEFT QUADRANT;ORIGHT QUADRANT;IVERTICAL BISECTING LINE;7TAR;7UN;9 BEHIND CLOUD;M WITH RAIN
AWITH RAYS;FSMALL CLOUD;6TELEPHONE;7OUCHTONE TELEPHONE;7RAPEZIUM
8IANGLE CONTAINING SMALL WHITE TRIANGLE;7WO-WAY LEFT WAY TRAFFIC;6UP POINTING BACKHAND INDEX;IINDEX
8-POINTING CHEVRON;ISMALL TRIANGLE;ITRIANGLE;Q WITH DOT;6VERTICAL BAR;FELLIPSE;FRECTANGLE
9Y SMALL SQUARE;5-FEATHERED RIGHTWARDS ARROW;1IDE-HEADED DOWNWARDS BARB ARROW;MHEAVY BARB ARROW
MLIGHT BARB ARROW;MMEDIUM BARB ARROW;MVERY HEAVY BARB ARROW;CLEFTWARDS BARB ARROW;MHEAVY BARB ARROW
MLIGHT BARB ARROW;MMEDIUM BARB ARROW;MVERY HEAVY BARB ARROW;CNORTH EAST BARB ARROW
NHEAVY BARB ARROW;NLIGHT BARB ARROW;NMEDIUM BARB ARROW;NVERY HEAVY BARB ARROW;IWEST BARB ARROW
NHEAVY BARB ARROW;NLIGHT BARB ARROW;NMEDIUM BARB ARROW;NVERY HEAVY BARB ARROW
CRIGHTWARDS BARB ARROW;NHEAVY BARB ARROW;NLIGHT BARB ARROW;NMEDIUM BARB ARROW
NVERY HEAVY BARB ARROW;CSOUTH EAST BARB ARROW;NHEAVY BARB ARROW;NLIGHT BARB ARROW
NMEDIUM BARB ARROW;NVERY HEAVY BARB ARROW;IWEST BARB ARROW;NHEAVY BARB ARROW;NLIGHT BARB ARROW
NMEDIUM BARB ARROW;NVERY HEAVY BARB ARROW;CUPWARDS BARB ARROW;KHEAVY BARB ARROW;KLIGHT BARB ARROW
KMEDIUM BARB ARROW;KVERY HEAVY BARB ARROW;2GGLY VERTICAL LINE;2LTED FLOWER;2ND BLOWING FACE;5CHIME
4OW;3E GLASS;3KING FACE;2RED KEYBOARD;1J;1OLF FACE;2MAN;5 WITH BUNNY EARS;5S BOOTS;7CLOTHES;7HAT
7SANDAL;3ENS SYMBOL;2N SIGN;2OD;2RD JOINER;5SEPARATOR MIDDLE DOT;3LD MAP;3M;3RIED FACE
1RAPPED PRESENT;2EATH PRODUCT;3NCH;3STLERS;2ITING HAND;0X IN A RECTANGLE BOX;1-RAY
1IANGQI BLACK CANNON;FHARIOT;EELEPHANT;EGENERAL;EHORSE;EMANDARIN;ESOLDIER;8RED CANNON;DHARIOT
CELEPHANT;CGENERAL;CHORSE;CMANDARIN;CSOLDIER;1OR;0YAWNING FACE;1ELLOW HEART;2N SIGN
2ZIDI COMBINING HAMZA MARK;HMADDA MARK;7HYPHENATION MARK;7LETTER BE;ECHHIM;GIM;FIM;EDAD;GL;EELIF;FT
FW;FYN;EFA;EGAF;EHAY;FHA;EJA;EKAF;FHAF;ELAM;H WITH DOT ABOVE;EMIM;ENUN;EOW;EPE;FHE;EQAF;ERA;FHA
ESAD;FE;FHIN;FIN;ETA;FHE;EUM;EVA;G ALTERNATE FORM;EWAW;EXA;FHEYN;EYOT;H WITH CIRCUMFLEX ABOVE;EZA
GL;FE;1I RADICAL BBUT;CUR;BCHE;CIP;CUOP;CY;DP;DT;BDDUR;CU;BGA;CEP;CGOP;DUO;COT;BHMO;CXIT;DOP;DUO
BJJIE;DUT;DY;CO;BKE;CIT;BLI;DE;CYR;BMI;COP;BNBIE;CYIP;DOP;CZUP;BOP;BPUT;CYT;BQOT;BSHAT;DOP;DUR;DY
CSI;BTAT;CU;BVEP;CUR;BWO;BYIT;CO;BZA;COT;CUP;DR;CZIET;3SYLLABLE A;DP;DT;DX;CBA;EP;ET;EX;DBA;FP;FT
FX;EE;FP;FX;EI;FE;GP;GT;GX;FP;FT;FX;EO;FP;FT;FX;EU;FO;GP;GX;FP;FR;GX;FT;FX;EY;FP;FT;FX;DE;EP;EX;DI
EE;FP;FT;FX;EP;ET;EX;DO;EP;ET;EX;DU;EO;FP;FX;EP;ER;FX;ET;EX;DY;EP;ER;FX;ET;EX;CCA;EP;ET;EX;DE;EP;EX
DHA;FP;FT;FX;EE;FP;FT;FX;EO;FP;FT;FX;EU;FO;GP;GT;GX;FP;FR;GX;FX;EY;FP;FR;GX;FT;FX;DI;EE;FP;FT;FX;EP
ET;EX;DO;EP;ET;EX;DU;EO;FP;FX;EP;ER;FX;ET;EX;DY;EP;ER;FX;ET;EX;CDA;EP;ET;EX;DDA;FP;FT;FX;EE;FP;FX
EI;FE;GP;GX;FP;FT;FX;EO;FP;FT;FX;EU;FO;GP;GX;FP;FR;GX;FT;FX;DE;EP;EX;DI;EE;FP;FX;EP;ET;EX;DO;EP;ET
EX;DU;EO;FX;EP;ER;FX;ET;EX;CE;DX;CFA;EP;ET;EX;DI;EP;ET;EX;DO;EP;EX;DU;EP;ER;FX;ET;EX;DY;EP;ET;EX
CGA;EP;ET;EX;DE;EP;ET;EX;DGA;FP;FT;FX;EE;FP;FT;FX;EI;FE;GP;GX;FT;FX;EO;FP;FT;FX;EU;FO;GP;GT;GX;FP
FR;GX;FT;FX;DI;EE;FP;FT;FX;EP;ET;EX;DO;EP;ET;EX;DU;EO;FP;FT;FX;EP;ER;FX;ET;EX;CHA;EP;ET;EX;DE;EP;EX
DIE;FX;ET;DLA;FP;FT;FX;EE;FP;FX;EI;FE;GP;GX;FP;FT;FX;EO;FP;FX;EU;FO;GP;GX;FP;FR;GX;FT;FX;EY;FP;FR
GX;FT;FX;DMA;FP;FT;FX;EI;FE;GP;GX;FP;FT;FX;EO;FP;FT;FX;EU;FO;GP;GX;FP;FR;GX;FT;FX;EY;FP;FR;GX;FX
DNA;FP;FT;FX;EE;FP;FX;EI;FE;GP;GT;GX;FP;FT;FX;EOP;FT;FX;EUO;GX;FT;DO;EP;ET;EX;DUO;FP;FT;FX;DXA;FP
FT;FX;EE;FP;FX;EI;FE;GP;GT;GX;FP;FT;FX;EO;FP;FT;FX;EUO;GP;GT;GX;CI;DE;EP;ET;EX;DP;DT;EERATION MARK
DX;CJI;EE;FP;FT;FX;EP;ET;EX;DJI;FE;GP;GT;GX;FP;FT;FX;EO;FP;FT;FX;EU;FO;GP;GX;FP;FR;GX;FT;FX;EY;FP
FT;FX;DO;EP;ET;EX;DU;EO;FP;FT;FX;EP;ER;FX;ET;EX;DY;EP;ER;FX;ET;EX;CKA;EP;ET;EX;DE;EP;ET;EX;DI;EE;FP
FX;EP;ET;EX;DO;EP;ET;EX;DU;EO;FP;FX;EP;ER;FX;ET;EX;CLA;EP;ET;EX;DE;EP;EX;DI;EE;FP;FT;FX;EP;ET;EX;DO
EP;ET;EX;DU;EO;FP;FT;FX;EP;ER;FX;ET;EX;DY;EP;ER;FX;ET;EX;CMA;EP;ET;EX;DE;EX;DGA;FP;FT;FX;EE;FP;FX
EIE;GX;EO;FP;FT;FX;EU;FO;GP;GX;FP;FR;GX;FT;FX;DI;EE;FP;FX;EP;ET;EX;DO;EP;ET;EX;DU;EO;FP;FT;FX;EP;ER
FX;ET;EX;DY;EP;ET;EX;CNA;EP;EX;DBA;FP;FT;FX;EI;FE;GP;GX;FP;FT;FX;EO;FP;FT;FX;EU;FP;FR;GX;FT;FX;EY
FP;FR;GX;FT;FX;DDA;FP;FT;FX;EE;FP;FX;EI;FE;GX;FP;FT;FX;EO;FP;FT;FX;EU;FP;FR;GX;FT;FX;DE;EP;EX;DGA
FP;FT;FX;EE;FP;FX;EIE;GP;GX;EO;FP;FT;FX;EUO;GT;GX;DI;EE;FP;FX;EP;ET;EX;DJI;FE;GP;GT;GX;FP;FT;FX;EO
FP;FT;FX;EU;FO;GX;FP;FR;GX;FX;EY;FP;FR;GX;FT;FX;DO;EP;ET;EX;DRA;FP;FT;FX;EE;FP;FT;FX;EO;FP;FX;EU;FP
FR;GX;FT;FX;EY;FP;FR;GX;FT;FX;DU;EO;FP;FX;EP;ER;FX;ET;EX;DYI;FE;GP;GT;GX;FP;FT;FX;EO;FP;FT;FX;EU;FO
GP;GX;FP;FT;FX;DZA;FP;FT;FX;EE;FX;EI;FE;GP;GX;FP;FT;FX;EOP;FX;EU;FO;GX;FP;FR;GX;FX;EY;FP;FR;GX;FT
FX;CO;DP;DT;DX;CPA;EP;ET;EX;DI;EE;FP;FX;EP;ET;EX;DO;EP;ET;EX;DU;EO;FP;FX;EP;ER;FX;ET;EX;DY;EP;ER;FX
ET;EX;CQI;EE;FP;FT;FX;EP;ET;EX;DO;EP;ET;EX;DU;EO;FP;FT;FX;EP;ER;FX;ET;EX;DY;EP;ER;FX;ET;EX;CRA;EP
ET;EX;DE;EP;EX;DO;EP;ET;EX;DRA;FX;EE;FP;FT;FX;EO;FP;FT;FX;EU;FO;GX;FP;FR;GX;FT;FX;EY;FP;FR;GX;FT;FX
DU;EO;FP;FX;EP;ER;FX;ET;EX;DY;EP;ER;FX;ET;EX;CSA;EP;ET;EX;DE;EP;EX;DHA;FP;FT;FX;EE;FP;FT;FX;EO;FP
FT;FX;EU;FO;GP;GX;FP;FR;GX;FT;FX;EY;FP;FR;GX;FT;FX;DI;EE;FP;FX;EP;ET;EX;DO;EP;ET;EX;DSA;FP;FT;FX;EE
FP;FX;EI;FE;GP;GX;FP;FT;FX;EO;FP;FT;FX;EU;FP;FT;FX;EY;FP;FR;GX;FT;FX;DU;EO;FP;FX;EP;ER;FX;ET;EX;DY
EP;ER;FX;ET;EX;CTA;EP;ET;EX;DE;EP;EX;DI;EE;FP;FX;EP;ET;EX;DO;EP;ET;EX;DU;EO;FP;FT;FX;EP;ER;FX;ET;EX
CUO;EP;EX;CVA;EP;ET;EX;DEP;EX;DI;EE;FP;FT;FX;EP;ET;EX;DO;EP;ET;EX;DU;EP;ER;FX;ET;EX;DY;EP;ER;FX;ET
EX;CWA;EP;ET;EX;DE;EP;EX;DO;EP;EX;DU;EO;FP;FX;CXI;EE;FP;FT;FX;EP;ET;EX;DO;EP;ET;EX;DUO;FX;DY;EP;ER
FX;ET;EX;CYI;EE;FP;FT;FX;EP;ET;EX;DO;EP;ET;EX;DU;EO;FP;FT;FX;EP;ER;FX;ET;EX;DY;EP;ER;FX;ET;EX;CZA
EP;ET;EX;DE;EP;EX;DHA;FP;FT;FX;EE;FP;FT;FX;EO;FP;FT;FX;EU;FO;GP;GX;FP;FR;GX;FT;FX;EY;FP;FR;GX;FT;FX
DI;EE;FP;FX;EP;ET;EX;DO;EP;ET;EX;DU;EO;FP;FX;EP;ER;FX;ET;EX;DY;EP;ER;FX;ET;EX;DZA;FP;FT;FX;EE;FP;FX
EI;FE;GP;GT;GX;FP;FT;FX;EO;FP;FX;EU;FP;FR;GX;FX;EY;FP;FR;GX;FT;FX;2N YANG;1O-YO
0Z NOTATION BAG MEMBERSHIP;BDOMAIN ANTIRESTRICTION;BLEFT BINDING BRACKET;GIMAGE BRACKET
BRANGE ANTIRESTRICTION;CELATIONAL COMPOSITION;CIGHT BINDING BRACKET;HIMAGE BRACKET
BSCHEMA COMPOSITION;IPIPING;JROJECTION;CPOT;BTYPE COLON
1ANABAZAR SQUARE CLOSING DOUBLE-LINED HEAD MARK;PHEAD MARK;JUSTER-FINAL LETTER LA;cRA;cVA;cYA
PINITIAL LETTER RA;HFINAL CONSONANT MARK;HINITIAL DOUBLE-LINED HEAD MARK;PHEAD MARK;HLETTER -A;OA
OBA;PHA;OCA;PHA;ODA;PDA;QHA;PHA;PZA;QHA;OGA;PHA;OHA;OJA;OKA;PHA;PSSA;OLA;OMA;ONA;PGA;PNA;PYA;OPA
PHA;ORA;OSA;PHA;PSA;OTA;PHA;PSA;QHA;PTA;QHA;OVA;OYA;OZA;PHA;HMARK DOUBLE SHAD;MLONG TSHEG;MSHAD
MTSHEG;HSIGN ANUSVARA;MCANDRA WITH ORNAMENT;SBINDU;X WITH ORNAMENT;MVIRAMA;OSARGA;IUBJOINER
HVOWEL LENGTH MARK;NSIGN AI;TU;SE;SI;SO;TE;SREVERSED I;SU;TE;1EBRA FACE;2RO WIDTH JOINER
BNO-BREAK SPACE;DN-JOINER;BSPACE;2US;1IPPER-MOUTH FACE;1NAMENNY COMBINING ATTACHING VERTICAL OMET
JLOWER TONAL RANGE INDICATOR;JMARK BORZAYA;OCHASHKA;V POLNAYA;PURVED OMET;ODEMESTVENNY ZADERZHKA
PVOETOCHIE;OGORAZDO NIZKO ON LEFT;fRIGHT;cS KRYZHEM ON LEFT;pRIGHT;WVYSOKO;OKACHKA;PRYZH;T ON LEFT
PUPNAYA;OLOMKA;OMALO POVYSHE ON LEFT;eRIGHT;bS KHOKHLOM ON LEFT;pRIGHT;eRYZHEM;cTRANNO
ONIZKO ON LEFT;XRIGHT;US KRYZHEM ON LEFT;hRIGHT;OOBLACHKO;PN;PTSECHKA;OPODCHASHIE
Y WITH VERTICAL STROKE;RVERTKA;QVYSHE ON LEFT;ZRIGHT;WS KHOKHLOM ON LEFT;kRIGHT;ZRYZHEM;XTRANNO
ORAVNO;QZSEKA;OSKOBA;POROCHYA NOZHKA;PREDNE ON LEFT;YRIGHT;PTRANNO MALO POVYSHE;OTIKHAYA;POCHKA
PSATA ON LEFT;XRIGHT;US KRYZHEM;OUDARKA;OVYSOKO ON LEFT;YRIGHT;VS KHOKHLOM ON LEFT;jRIGHT;YRYZHEM
OZADERZHKA;PELO;QVOK;JTONAL RANGE MARK MRACHNO;aSVETLO;aTRESVETLO;9NEUME CHASHKA;HELYUSTKA
FDEMESTVENNY KLYUCH;HRBITSA;GOUBLE ZAPYATAYA;GUDA;GVA V CHELNU;FFITA;FGOLUBCHIK BORZY;PMRACHNY
PSVETLY;PTIKHY;QRESVETLY;FKHAMILO;GLYUCH;GOBYLA;GRYUK;K TIKHY;IZH;GUFISMA;FMECHIK
L KLYUCHENEPOSTOYANNY;TPOVODNY;TVOY;MPOVODNY;FNEMKA;FOBLAKO;GSOKA;K KLYUCHEVAYA NEPOSTOYANNAYA
XSVETLAYA;MRYUKOVAYA SVETLAYA;LSVETLAYA;LTRESVETLAYA;FPALKA;HRAKLIT;HUK;GEREVODKA;O NEPOSTOYANNAYA
GODCHASHIE;HLKULIZMY;FREVERSED CHELYUSTKA;GOG;FSKAMEYTSA DVOECHELNAYA KLYUCHEVAYA;cNEPOSTOYANNAYA
cPROSTAYA;cSVETLAYA;PKLYUCHENEPOSTOYANNAYA;WVAYA SVETLAYA;bTIKHAYA;PMRACHNAYA;PSVETLAYA;PTIKHAYA
QRESVETLAYA;GLOZHITIE;O S KRYZHEM;RZAPYATOY;PZAKRYTOE;GTATYA;L NEPOSTOYANNAYA;MS DVUMYA ZAPYATYMI
OKRYZHEM;V I ZAPYATOY;OROGOM;OZAPYATOY;W I KRYZHEM;ZPODCHASHIEM;MZAKRYTAYA;V S ZAPYATOY;HOPITSA
N S OCHKOM;OWITH SOROCHYA NOZHKA;HRELA DVOECHELNAYA;Y KLYUCHEVAYA;VOKRYZHEVAYA;WPOVODNAYA
f KLYUCHEVAYA;MGROMNAYA;U WITH SINGLE ZAPYATAYA;QOKRYZHEVAYA;b POVODNAYA;RPOVODNAYA
a WITH DOUBLE ZAPYATAYA;gSINGLE ZAPYATAYA;MKLYUCHENEPOSTOYANNAYA;TPOVODNAYA;NRYUKOVAYA;W GROMNAYA
f WITH SINGLE ZAPYATAYA;bOKRYZHEVAYA;m POVODNAYA;cPOVODNAYA;l WITH DOUBLE ZAPYATAYA
rSINGLE ZAPYATAYA;XPOVODNAYA;XTRYASKA;PZHEVAYA;MMRACHNOTIKHAYA;MNEPOSTOYANNAYA;MPOLUPOVODNAYA
OVODNAYA;NROSTAYA;MTIKHAYA PUTNAYA;NRYASOGLASNAYA;SPOVODNAYA;SSTRELNAYA
FVRAKHIYA KLYUCHEVAYA MRACHNAYA;aPROSTAYA;aSVETLAYA;aTRESVETLAYA;OMRACHNAYA;OPROSTAYA;OSVETLAYA
OTRESVETLAYA;FZANOZHEK;HPYATAYA;GMEYTSA;9PRIZNAK MODIFIER DIRECTION FLIP;QKRYZH;QLEVEL-2;W3;QROG
1OMBIE;1WJ;2NBSP;3J;2SP"

end Bindery.Text
