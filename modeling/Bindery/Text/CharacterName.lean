import Bindery.Text.CharacterName.Table
import Bindery.Text.CodeRange

/-!
# Names of characters

Which texts name a character. Most names are kept in a table and may be written in any case; the
names of the unified ideographs end in the code point, and those of the Korean syllables are spelled
from the names of their letters. Names of sequences of characters do not count.
-/

namespace Bindery.Text

/-- How many characters a digit of the table stands for. -/
def sharedLength (digit : Char) : Nat :=
  if '0' ≤ digit ∧ digit ≤ '9' then digit.toNat - '0'.toNat
  else if 'A' ≤ digit ∧ digit ≤ 'Z' then digit.toNat - 'A'.toNat + 10
  else digit.toNat - 'a'.toNat + 36

/-- The name that an entry of the table stands for, by the name before it. -/
def nextName (previous : List Char) : List Char → List Char
  | [] => previous
  | digit :: rest => previous.take (sharedLength digit) ++ rest

/-- Whether a name is in a table. `previous` is the name before, and `entry` is what has been read
of the next entry, last character first. -/
def inNameTable (name previous entry : List Char) : List Char → Bool
  | [] => nextName previous entry.reverse == name
  | c :: cs =>
    if c = ';' ∨ c = '\n' then
      let current := nextName previous entry.reverse
      current == name || inNameTable name current [] cs
    else inNameTable name previous (c :: entry) cs

/-- The unified ideographs. -/
def unifiedIdeographs : List CodeRange := readRanges "
3400-4DBF 4E00-9FFF 20000-2A6DF 2A700-2B738 2B740-2B81D 2B820-2CEA1 2CEB0-2EBE0 30000-3134A"

/-- Whether a character is a hexadecimal digit of a name: a digit or a capital letter. -/
def isNameDigit (c : Char) : Bool :=
  ('0' ≤ c && c ≤ '9') || ('A' ≤ c && c ≤ 'F')

/-- Whether digits are the code point of a unified ideograph. -/
def isIdeographCode (digits : List Char) : Bool :=
  (digits.length == 4 || digits.length == 5) && digits.all isNameDigit &&
    inTable unifiedIdeographs (readHex digits)

/-- The names of the letters that start a syllable. -/
def leadingLetters : List String :=
  ["G", "GG", "N", "D", "DD", "R", "M", "B", "BB", "S", "SS", "", "J", "JJ", "C", "K", "T", "P",
    "H"]

/-- The names of the vowels of a syllable. -/
def syllableVowels : List String :=
  ["A", "AE", "YA", "YAE", "EO", "E", "YEO", "YE", "O", "WA", "WAE", "OE", "YO", "U", "WEO", "WE",
    "WI", "YU", "EU", "YI", "I"]

/-- The names of the letters that end a syllable. -/
def trailingLetters : List String :=
  ["", "G", "GG", "GS", "N", "NJ", "NH", "D", "L", "LG", "LM", "LB", "LS", "LT", "LP", "LH", "M",
    "B", "BS", "S", "SS", "NG", "J", "C", "K", "T", "P", "H"]

/-- What follows the longest of some names at the start of a text. -/
def dropLongest (names : List String) (cs : List Char) : Option (List Char) :=
  let found := names.filter fun n => n.toList.isPrefixOf cs
  (found.map (·.length)).max?.map cs.drop

/-- Whether a text spells a syllable. At each place the longest name is taken. -/
def isSyllable (cs : List Char) : Bool :=
  ((dropLongest leadingLetters cs).bind (dropLongest syllableVowels)).bind
    (dropLongest trailingLetters) == some []

/-- What the names of the Korean syllables start with. -/
def syllableStart : List Char := "HANGUL SYLLABLE ".toList

/-- What the names of the unified ideographs start with. -/
def ideographStart : List Char := "CJK UNIFIED IDEOGRAPH-".toList

/-- Whether a text names a character. -/
def isCharacterName (name : List Char) : Bool :=
  if syllableStart.isPrefixOf name then isSyllable (name.drop syllableStart.length)
  else if ideographStart.isPrefixOf name then isIdeographCode (name.drop ideographStart.length)
  else inNameTable (name.map Char.toUpper) [] [] characterNames.toList

end Bindery.Text
