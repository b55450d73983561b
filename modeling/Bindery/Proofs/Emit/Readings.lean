import Bindery.Naming.Basic
import Bindery.Proofs.Emit.Lines

/-!
# What is read off a module

Lines of a module that are not indented tell what the module defines. Whatever is read off lines,
as long as it is only read off lines that start with a name, is read off a module part by part:
empty lines, comments and everything inside blocks count for nothing, and each part has the lines
of its own that are left.
-/

namespace Bindery

open Bindery.Naming

/-! ### Reading lines -/

namespace Code

/-- The word at the start of a text, and what comes behind it. -/
theorem takeWhile_word {word : List Char} (h : word.all isNameChar = true) (rest : List Char)
    (hrest : rest.head?.any isNameChar = false) :
    (word ++ rest).takeWhile isNameChar = word ∧ (word ++ rest).dropWhile isNameChar = rest := by
  have hword := List.all_eq_true.1 h
  have hnone : rest.takeWhile isNameChar = [] ∧ rest.dropWhile isNameChar = rest := by
    cases rest with
    | nil => exact ⟨rfl, rfl⟩
    | cons c rest =>
      have hc : ¬isNameChar c = true := by simpa using hrest
      exact ⟨List.takeWhile_cons_of_neg hc, List.dropWhile_cons_of_neg hc⟩
  rw [List.takeWhile_append_of_pos hword, List.dropWhile_append_of_pos hword, hnone.1, hnone.2,
    List.append_nil]
  exact ⟨rfl, rfl⟩

variable {β : Type}

/-- Something that is read off lines, but off no line that starts with no name. -/
structure Reading (β : Type) where
  /-- What is read off a line. -/
  of? : String → Option β
  /-- Nothing is read off a line that starts with no name. -/
  nameless : ∀ line, line.toList.head?.any isNameChar = false → of? line = none

/-- The lines of a sort of which no line is that starts with no name. -/
def Reading.lines (p : String → Bool)
    (hp : ∀ line : String, line.toList.head?.any isNameChar = false → p line = false) :
    Reading String where
  of? line := if p line then some line else none
  nameless := fun line h => if_neg (by rw [hp line h]; exact Bool.false_ne_true)

theorem Reading.of?_lines {p : String → Bool}
    {hp : ∀ line : String, line.toList.head?.any isNameChar = false → p line = false}
    {line : String} : (Reading.lines p hp).of? line = none ↔ p line = false := by
  show (if p line = true then some line else none) = none ↔ _
  cases p line <;> simp

/-- What is read off the lines that were added to code. -/
def read (r : Reading β) (c c' : Code) : List β :=
  (added c c').filterMap r.of?

variable (r : Reading β) {c c' c'' : Code}

theorem read_self (c : Code) : read r c c = [] := by
  unfold read added
  rw [List.drop_length]
  rfl

theorem read_trans (h : c.lines <+: c'.lines) (h' : c'.lines <+: c''.lines) :
    read r c c'' = read r c c' ++ read r c' c'' := by
  unfold read
  rw [added_trans h h', List.filterMap_append]

/-- Nothing is read off lines that are indented. -/
theorem read_line (hunit : c.unit = "    ") (text : String) :
    read r c (c.line text) = if c.level = 0 then (r.of? text).toList else [] := by
  have hadded : added c (c.line text) =
      [if text = "" then "" else times c.level c.unit ++ text] := added_of_lines rfl
  have hempty : r.of? "" = none := r.nameless "" rfl
  unfold read
  rw [hadded, hunit]
  by_cases htext : text = ""
  · rw [if_pos htext, htext, hempty]
    simp [hempty]
  · rw [if_neg htext]
    cases hlevel : c.level with
    | zero =>
      have hsame : times 0 "    " ++ text = text := by simp [times]
      rw [hsame, if_pos rfl]
      cases hread : r.of? text <;> simp [hread]
    | succ n =>
      have hnone : r.of? (times (n + 1) "    " ++ text) = none := by
        refine r.nameless _ ?_
        simp [times, List.replicate_succ, String.join_cons, isNameChar, Text.isAsciiLetter,
          Text.isAsciiDigit]
      simp [hnone]

theorem read_addLines (hunit : c.unit = "    ") (texts : List String) :
    read r c (c.addLines texts) = if c.level = 0 then texts.filterMap r.of? else [] := by
  induction texts generalizing c with
  | nil =>
    rw [List.filterMap_nil, ite_self]
    exact read_self r c
  | cons text texts ih =>
    have hfirst := onto_line c text
    have hrest := onto_addLines (c.line text) texts
    show read r c ((c.line text).addLines texts) = _
    rw [read_trans r hfirst.lines hrest.lines, read_line r hunit, ih (hfirst.unit.trans hunit),
      hfirst.level, List.filterMap_cons]
    split_ifs
    · cases r.of? text <;> rfl
    · rfl

theorem read_blank (c : Code) (count : Int) : read r c (c.blank count) = [] := by
  unfold blank
  split_ifs
  · exact read_self r c
  · unfold read
    rw [added_of_lines rfl, List.filterMap_eq_nil_iff]
    intro text htext
    rw [List.eq_of_mem_replicate htext]
    exact r.nameless "" rfl

/-- A line of a comment starts with its mark, unless nothing is left of it. -/
theorem head?_commentLine (part : String) :
    (commentLine part).toList = [] ∨ (commentLine part).toList.head? = some '#' := by
  have hcut : Text.stripEnd ("# ".toList ++ part.toList) <+: '#' :: ' ' :: part.toList := by
    have hsuffix := ('#' :: ' ' :: part.toList).reverse.dropWhile_suffix Text.isBlank
    rw [← List.reverse_prefix, List.reverse_reverse] at hsuffix
    exact hsuffix
  unfold commentLine
  rw [String.toList_ofList]
  cases hline : Text.stripEnd ("# ".toList ++ part.toList) with
  | nil => exact .inl rfl
  | cons c cs =>
    rw [hline, List.cons_prefix_cons] at hcut
    exact .inr (congrArg some hcut.1)

/-- Nothing is read off comments. -/
theorem of?_commentLine (part : String) : r.of? (commentLine part) = none := by
  refine r.nameless _ ?_
  rcases head?_commentLine part with hnil | hmark
  · rw [hnil]
    rfl
  · rw [hmark]
    exact (by decide : isNameChar '#' = false)

end Code

namespace Writing

variable {α β ι : Type}

/-- A step that adds lines, off which just the given things are read where the step is made at the
outermost level or, as `top` tells, below it. -/
def ReadsAt (r : Code.Reading β) (top : Bool) (w : Writing α) (found : List β) : Prop :=
  ∀ c a c', c.unit = "    " → decide (c.level = 0) = top → w.run c = .ok (a, c') →
    c.Onto c' ∧ Code.read r c c' = found

namespace ReadsAt

variable {r : Code.Reading β} {top : Bool} {w : Writing α} {γ : Type} {k : α → Writing γ}
  {found more : List β}

theorem pure (a : α) : ReadsAt r top (Pure.pure a : Writing α) [] := by
  intro c b c' _ _ h
  cases h
  exact ⟨.refl c, c.read_self r⟩

theorem throw (f : Fault) : ReadsAt r top (throw f : Writing α) found := by
  intro c a c' _ _ h
  cases h

theorem bind (h : ReadsAt r top w found) (hk : ∀ a, ReadsAt r top (k a) more) :
    ReadsAt r top (w >>= k) (found ++ more) := by
  intro c b d hunit hlevel hrun
  obtain ⟨a, c', hw, hkrun⟩ := exists_of_run_bind hrun
  obtain ⟨hon, hfound⟩ := h c a c' hunit hlevel hw
  obtain ⟨hon', hmore⟩ := hk a c' b d (hon.unit.trans hunit) (hon.level ▸ hlevel) hkrun
  refine ⟨hon.trans hon', ?_⟩
  rw [Code.read_trans r hon.lines hon'.lines, hfound, hmore]

/-- What nothing is read off can be left out of account. -/
theorem nil_bind (h : ReadsAt r top w []) (hk : ∀ a, ReadsAt r top (k a) more) :
    ReadsAt r top (w >>= k) more :=
  h.bind hk

theorem lift_bind {x : Except Fault α} (hk : ∀ a, x = .ok a → ReadsAt r top (k a) found) :
    ReadsAt r top (liftM x >>= k) found := by
  intro c b d hunit hlevel hrun
  obtain ⟨a, c', hx, hkrun⟩ := exists_of_run_bind hrun
  obtain ⟨hok, rfl⟩ := eq_of_run_lift hx
  exact hk a hok c' b d hunit hlevel hkrun

/-- What nothing is read off, behind lines off which nothing is read. -/
theorem quietly (h : ReadsAt r true w []) {c mid d : Code} {a : α} (hunit : c.unit = "    ")
    (hlevel : c.level = 0) (hmid : c.Onto mid ∧ Code.read r c mid = [])
    (hrun : w.run mid = .ok (a, d)) : c.Onto d ∧ Code.read r c d = [] := by
  obtain ⟨hon, hread⟩ := hmid
  obtain ⟨hon', hread'⟩ :=
    h mid a d (hon.unit.trans hunit) (decide_eq_true (hon.level.trans hlevel)) hrun
  refine ⟨hon.trans hon', ?_⟩
  rw [Code.read_trans r hon.lines hon'.lines, hread, hread', List.append_nil]

theorem forM {f : ι → Writing PUnit} {g : ι → List β} {l : List ι}
    (h : ∀ i ∈ l, ReadsAt r top (f i) (g i)) : ReadsAt r top (l.forM f) (l.flatMap g) := by
  induction l with
  | nil => exact pure _
  | cons i l ih =>
    exact (h i (List.mem_cons_self ..)).bind fun _ =>
      ih fun j hj => h j (List.mem_cons_of_mem _ hj)

/-- Steps off which nothing is read, for the members of a list. -/
theorem forM_nil {f : ι → Writing PUnit} {l : List ι} (h : ∀ i ∈ l, ReadsAt r top (f i) []) :
    ReadsAt r top (l.forM f) [] := by
  have hall := forM h
  rwa [List.flatMap_eq_nil_iff.2 fun _ _ => rfl] at hall

theorem filterM {f : ι → Writing Bool} {l : List ι} (h : ∀ i ∈ l, ReadsAt r top (f i) []) :
    ReadsAt r top (l.filterM f) [] := by
  suffices haux : ∀ acc : List ι, ReadsAt r top (List.filterAuxM f l acc) [] from
    (haux []).nil_bind fun _ => pure _
  induction l with
  | nil => exact fun _ => pure _
  | cons i l ih =>
    intro acc
    unfold List.filterAuxM
    exact (h i (List.mem_cons_self ..)).nil_bind fun _ =>
      ih (fun j hj => h j (List.mem_cons_of_mem _ hj)) _

theorem addLines (texts : List String) :
    ReadsAt r true (write (·.addLines texts)) (texts.filterMap r.of?) := by
  intro c a c' hunit hlevel hrun
  cases hrun
  refine ⟨c.onto_addLines texts, ?_⟩
  rw [Code.read_addLines r hunit, if_pos (of_decide_eq_true hlevel)]

theorem addLines_below (texts : List String) : ReadsAt r false (write (·.addLines texts)) [] := by
  intro c a c' hunit hlevel hrun
  cases hrun
  refine ⟨c.onto_addLines texts, ?_⟩
  rw [Code.read_addLines r hunit, if_neg (of_decide_eq_false hlevel)]

theorem line (text : String) : ReadsAt r true (line text) (r.of? text).toList := by
  intro c a c' hunit hlevel hrun
  cases hrun
  refine ⟨c.onto_line text, ?_⟩
  rw [Code.read_line r hunit, if_pos (of_decide_eq_true hlevel)]

theorem line_below (text : String) : ReadsAt r false (Writing.line text) [] :=
  addLines_below [text]

theorem blank (count : Int) : ReadsAt r top (blank count) [] := by
  intro c a c' _ _ hrun
  cases hrun
  exact ⟨c.onto_blank count, c.read_blank r count⟩

theorem comment (text : String) : ReadsAt r top (comment text) [] := by
  cases top with
  | false => exact addLines_below _
  | true =>
    have hlines := addLines (r := r) ((Code.linesOf text).map Code.commentLine)
    have hnone : ((Code.linesOf text).map Code.commentLine).filterMap r.of? = [] := by
      rw [List.filterMap_eq_nil_iff]
      intro line hline
      obtain ⟨part, -, rfl⟩ := List.mem_map.1 hline
      exact Code.of?_commentLine r part
    rwa [hnone] at hlines

theorem docstring_below (text : String) : ReadsAt r false (docstring text) [] :=
  addLines_below _

/-- Off a block is read what is read off its header. -/
theorem block {header : String} {footer : Option String} {w : Writing Unit}
    (h : ReadsAt r false w []) (hfooter : ∀ f ∈ footer, r.of? f = none) :
    ReadsAt r top (block header footer w) (if top then (r.of? header).toList else []) := by
  intro c a c' hunit hlevel hrun
  unfold Writing.block at hrun
  obtain ⟨_, _, hopen, hrun⟩ := exists_of_run_bind hrun
  obtain ⟨_, c₂, hw, hclose⟩ := exists_of_run_bind hrun
  cases hopen
  cases hclose
  obtain ⟨hinside, hnone⟩ :=
    h (c.openBlock header) _ _ hunit (decide_eq_false c.level.succ_ne_zero) hw
  have hheader : Code.read r c (c.openBlock header) =
      if top then (r.of? header).toList else [] := by
    rw [← hlevel]
    simp only [decide_eq_true_eq]
    exact Code.read_line r hunit header
  have hclosed : Code.read r c₂ (c₂.closeBlock footer) = [] := by
    cases footer with
    | none => exact Code.read_self r c₂
    | some f =>
      have hline := Code.read_line (c := c₂.dedent) r (hinside.unit.trans hunit) f
      rw [hfooter f rfl] at hline
      exact hline.trans (ite_self _)
  have hfirst : c.lines <+: (c.openBlock header).lines := (c.onto_line header).lines
  have hlast : c₂.lines <+: (c₂.closeBlock footer).lines := by
    cases footer with
    | none => exact List.prefix_refl _
    | some f => exact List.prefix_append _ _
  refine ⟨hinside.block footer, ?_⟩
  rw [Code.read_trans r hfirst (hinside.lines.trans hlast),
    Code.read_trans r hinside.lines hlast, hheader, hnone, hclosed, List.append_nil,
    List.append_nil]

/-- A block that is opened and left again by a header alone. -/
theorem block_open {header : String} {w : Writing Unit} (h : ReadsAt r false w []) :
    ReadsAt r true (Writing.block header none w) (r.of? header).toList :=
  block h (by simp)

/-- A block that is closed by a bracket. -/
theorem block_closed (header : String) {w : Writing Unit} (h : ReadsAt r false w []) :
    ReadsAt r true (Writing.block header (some "]") w) (r.of? header).toList := by
  refine block h fun f hf => ?_
  cases hf
  exact r.nameless "]" (by decide)

end ReadsAt

end Writing

/-! ### Parts of a module -/

namespace Emission

open Writing Code

variable {β : Type} (r : Reading β) (e : Emission) (o : Options)

/-- The lines of the start of a module that are not indented, its documentation, comments and empty
lines apart. -/
def startLines : List String :=
  ["import ctypes", "import ctypes.util", "import enum"] ++
    (if o.libraryName.truthy then
      ["_library_path = ctypes.util.find_library(" ++ o.libraryName.literal ++ ")",
        "_lib = ctypes.CDLL(_library_path) if _library_path else None"]
    else ["_lib = None"]) ++
    ["def _bind(name, restype, argtypes):"]

theorem bindingFunction_reads : ReadsAt r true
    (block "def _bind(name, restype, argtypes):" none do
      block "if _lib is None:" none (line "return None")
      block "try:" none (line "func = getattr(_lib, name)")
      block "except AttributeError:" none (line "return None")
      line "func.restype = restype"
      line "func.argtypes = argtypes"
      line "return func") (r.of? "def _bind(name, restype, argtypes):").toList := by
  have hinside : ∀ header text, ReadsAt r false (block header none (line text)) [] :=
    fun header text => .block (.line_below text) (by simp)
  refine .block_open ?_
  exact (hinside "if _lib is None:" "return None").nil_bind fun _ =>
    (hinside "try:" "func = getattr(_lib, name)").nil_bind fun _ =>
    (hinside "except AttributeError:" "return None").nil_bind fun _ =>
    (ReadsAt.line_below "func.restype = restype").nil_bind fun _ =>
    (ReadsAt.line_below "func.argtypes = argtypes").nil_bind fun _ =>
    .line_below "return func"

/-- The start of a module is its documentation and what else is read off it. -/
theorem exists_writeStart_eq : ∃ rest : Writing Unit,
    ReadsAt r true rest ((startLines o).filterMap r.of?) ∧ writeStart o = (do
      docstring ("ctypes bindings for " ++ o.namespaceName.shown ++ ".")
      rest) := by
  refine ⟨_, ?_, rfl⟩
  have hone : ∀ text, [text].filterMap r.of? = (r.of? text).toList := by
    intro text
    cases h : r.of? text <;> simp [h]
  have htwo : ∀ a b, [a, b].filterMap r.of? = (r.of? a).toList ++ (r.of? b).toList := by
    intro a b
    rw [← hone a, ← hone b, ← List.filterMap_append]
    rfl
  unfold startLines
  rw [List.append_assoc, List.filterMap_append, List.filterMap_append, hone]
  refine (ReadsAt.comment _).nil_bind fun _ => (ReadsAt.blank 1).nil_bind fun _ =>
    (ReadsAt.addLines _).bind fun _ => (ReadsAt.blank 1).nil_bind fun _ => ?_
  split_ifs
  · rw [htwo, List.append_assoc]
    exact (ReadsAt.line _).bind fun _ => (ReadsAt.line _).bind fun _ =>
      (ReadsAt.blank 2).nil_bind fun _ => bindingFunction_reads r
  · rw [hone]
    exact (ReadsAt.line _).bind fun _ => (ReadsAt.blank 2).nil_bind fun _ => bindingFunction_reads r

/-- Behind its documentation the start of a module has just its lines. -/
theorem read_writeStart {c c' : Code} {u : Unit} (hunit : c.unit = "    ") (hlevel : c.level = 0)
    (h : (writeStart o).run c = .ok (u, c')) :
    (c.docstring ("ctypes bindings for " ++ o.namespaceName.shown ++ ".")).Onto c' ∧
      read r (c.docstring ("ctypes bindings for " ++ o.namespaceName.shown ++ ".")) c' =
        (startLines o).filterMap r.of? := by
  obtain ⟨rest, hreads, hsplit⟩ := exists_writeStart_eq r o
  rw [hsplit] at h
  generalize "ctypes bindings for " ++ o.namespaceName.shown ++ "." = text at h ⊢
  obtain ⟨_, documented, hdocumented, hrest⟩ := exists_of_run_bind h
  have hon := Appends.docstring text _ _ _ hdocumented
  have hwritten : (Writing.docstring text).run c = .ok ((), c.docstring text) := rfl
  have hsame : c.docstring text = documented := by
    rw [hwritten] at hdocumented
    exact (Prod.mk.inj (Except.ok.inj hdocumented)).2
  rw [hsame]
  exact hreads _ _ _ (hon.unit.trans hunit) (decide_eq_true (hon.level.trans hlevel)) hrest

variable {r}

theorem provenance_reads {top : Bool} (d : Decl) : ReadsAt r top (e.provenance o d) [] := by
  unfold provenance
  split_ifs
  · refine .lift_bind fun qualified _ => ?_
    cases d.location <;> exact .comment _
  · exact .pure _

theorem writeItem_reads (id : Nat) : ReadsAt r false (e.writeItem id) [] := by
  unfold writeItem
  split
  · exact .pure _
  · split
    · exact .lift_bind fun _ _ => (ReadsAt.line_below _).nil_bind fun _ => .pure _
    · exact (ReadsAt.comment _).nil_bind fun _ => .pure _
    · exact .pure _

theorem writeComment_reads (d : Decl) : ReadsAt r false (writeComment d) [] := by
  unfold writeComment
  split_ifs
  · exact (ReadsAt.docstring_below _).nil_bind fun _ => .pure _
  · exact .pure _

theorem mentionMethod_reads (id : Nat) : ReadsAt r false (e.mentionMethod id) [] := by
  unfold mentionMethod
  split
  · exact .pure _
  · split
    · exact .pure _
    · exact .comment _

/-- An enumeration has its header. -/
theorem writeEnum_reads (d : Decl) : ReadsAt r true (e.writeEnum o d)
    (r.of? ("class " ++ d.name ++ "(enum.IntEnum):")).toList := by
  unfold writeEnum
  refine (ReadsAt.blank 2).nil_bind fun _ => (e.provenance_reads o d).nil_bind fun _ =>
    .block_open ?_
  refine (writeComment_reads d).nil_bind fun isDescribed => ?_
  refine (ReadsAt.filterM fun id _ => e.writeItem_reads id).nil_bind fun written => ?_
  split_ifs
  · exact .line_below _
  · exact .pure _

/-- A class has its header. -/
theorem writeClass_reads (d : Decl) :
    ReadsAt r true (e.writeClass o d) (r.of? (classHeader d)).toList := by
  have hmethods : ReadsAt r false
      (((d.body.record?.map (·.methods)).getD []).forM e.mentionMethod) [] :=
    .forM_nil fun id _ => e.mentionMethod_reads id
  unfold writeClass
  refine (ReadsAt.blank 2).nil_bind fun _ => (e.provenance_reads o d).nil_bind fun _ =>
    .block_open ?_
  refine (writeComment_reads d).nil_bind fun isDescribed => ?_
  split_ifs
  · exact (ReadsAt.line_below _).nil_bind fun _ => hmethods
  · exact hmethods
  · exact (ReadsAt.line_below _).nil_bind fun _ => .pure _
  · exact .pure _

/-- A layout has nothing but attributes of its class. -/
theorem writeLayout_reads {d : Decl}
    (hanonymous : ∀ names, r.of? (d.name ++ "._anonymous_ = " ++ nameList names) = none)
    (hfields : r.of? (d.name ++ "._fields_ = [") = none) :
    ReadsAt r true (e.writeLayout d) [] := by
  have hblock : ∀ places : List (String × Decl), ReadsAt r true
      (block (d.name ++ "._fields_ = [") (some "]") do
        places.forM fun b => line ("(" ++ Text.quoted b.1 ++ ", " ++ b.2.name ++ "),")
        (e.fieldsOf d).forM fun f => do
          line ("(" ++ Text.quoted f.decl.name ++ ", " ++ (← liftM (e.fieldType f)).text ++ "),"))
      [] := by
    intro places
    have hinside := ReadsAt.block_closed (d.name ++ "._fields_ = [")
      (ReadsAt.nil_bind (r := r) (.forM_nil fun (p : String × Decl) (_ : p ∈ places) =>
          .line_below ("(" ++ Text.quoted p.1 ++ ", " ++ p.2.name ++ "),")) fun _ =>
        .forM_nil fun f (_ : f ∈ e.fieldsOf d) => .lift_bind (x := e.fieldType f) fun t _ =>
          .line_below ("(" ++ Text.quoted f.decl.name ++ ", " ++ t.text ++ "),"))
    rwa [hfields] at hinside
  unfold writeLayout
  refine (ReadsAt.blank 1).nil_bind fun _ => .lift_bind fun bases _ => ?_
  dsimp only
  split_ifs
  · have hline := ReadsAt.line (r := r) (d.name ++ "._anonymous_ = " ++
      nameList ((List.range bases.length).map baseField))
    rw [hanonymous] at hline
    exact hline.nil_bind fun _ => hblock _
  · exact hblock _

/-- Layouts have nothing if none of those that are written has. -/
theorem writeLayouts_reads {classes : List Decl}
    (h : ∀ laidOut ⊆ classes, ∀ ordered, e.layoutOrder laidOut = .ok ordered →
      ∀ d ∈ ordered, ReadsAt r true (e.writeLayout d) []) :
    ReadsAt r true (e.writeLayouts classes) [] := by
  unfold writeLayouts
  refine .lift_bind fun laidOut hlaidOut => ?_
  split_ifs
  · refine (ReadsAt.blank 2).nil_bind fun _ => .lift_bind fun ordered hordered => ?_
    exact .forM_nil fun d hd => h laidOut (subset_of_filterM_ok hlaidOut) ordered hordered d hd
  · exact .pure _

/-- The list of the names that are given away has its header. -/
theorem writeExports_reads (classes : List Decl) :
    ReadsAt r true (e.writeExports classes) (r.of? "__all__ = [").toList := by
  have hnames : ReadsAt r true (do
      blank 2
      block "__all__ = [" (some "]") do
        (e.exports classes).forM fun n => line (Text.quoted n ++ ","))
      (r.of? "__all__ = [").toList :=
    (ReadsAt.blank 2).nil_bind fun _ => .block_closed _ (.forM_nil fun n _ => .line_below _)
  unfold writeExports
  dsimp only
  split_ifs
  · exact ReadsAt.nil_bind (.throw _) fun _ => hnames
  · exact hnames

end Emission

end Bindery
