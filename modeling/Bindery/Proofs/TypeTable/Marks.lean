import Bindery.Emit.Layout
import Bindery.Proofs.Initializer.Spaced
import Bindery.Proofs.TypeTable.Founded

/-!
# Marks behind a name

Behind a name a type has marks: pointers, references and array sizes. The normal spelling of a name
with marks is the name with normal marks, and a search for its description peels the marks off one
by one from the end. What a type expression holds by value is under no pointer; so where it holds a
class, only array sizes were peeled off, and the description refers to what the name refers to.
-/

namespace Bindery

open Bindery.Text Bindery.Signature
open scoped Bindery.Initializer

/-- A mark behind a type. -/
inductive DeclaratorMark where
  /-- A pointer. -/
  | pointer
  /-- A reference. -/
  | reference
  /-- An array size, or a blank where a qualifier stood for one. -/
  | size (word : List Char)

namespace DeclaratorMark

/-- How a mark is written. -/
def text : DeclaratorMark → List Char
  | pointer => ['*']
  | reference => ['&']
  | size word => '[' :: (word ++ [']'])

/-- An array size is one word or nothing, or a blank. -/
def Fits : DeclaratorMark → Prop
  | size word => (∀ c ∈ word, isWord c = true) ∨ word = [' ']
  | _ => True

/-- A mark in its normal spelling. -/
def normal : DeclaratorMark → DeclaratorMark
  | size word => size (blankQualifier word)
  | m => m

/-- Marks in a row. -/
def row (ms : List DeclaratorMark) : List Char :=
  ms.flatMap text

theorem row_cons (m : DeclaratorMark) (ms : List DeclaratorMark) :
    row (m :: ms) = m.text ++ row ms :=
  rfl

theorem row_concat (ms : List DeclaratorMark) (m : DeclaratorMark) :
    row (ms ++ [m]) = row ms ++ m.text := by
  simp [row]

/-! ### Characters of marks -/

/-- The numbers of the blanks beyond ASCII. -/
def wideBlanks : List CodeRange :=
  [⟨0x85, 0x85⟩, ⟨0xA0, 0xA0⟩, ⟨0x1680, 0x1680⟩, ⟨0x2000, 0x200A⟩, ⟨0x2028, 0x2029⟩,
    ⟨0x202F, 0x202F⟩, ⟨0x205F, 0x205F⟩, ⟨0x3000, 0x3000⟩]

/-- No range of word characters meets one of blanks. Most of them begin behind the last blank. -/
theorem wordTable_disjoint : ∀ r ∈ wordTable, 0x3000 < r.first ∨
    ∀ b ∈ wideBlanks, r.last < b.first ∨ b.last < r.first := by
  have hall : (wordTable.all fun r => decide (0x3000 < r.first) || wideBlanks.all fun b =>
      decide (r.last < b.first) || decide (b.last < r.first)) = true := by
    -- the table is read once the characters of its text are a list
    unfold wordTable readRanges tableWords
    rw [String.toList_ofList]
    decide +kernel
  simpa only [List.all_eq_true, Bool.or_eq_true, decide_eq_true_eq] using hall

theorem isWord_of_isBlank {c : Char} (h : isBlank c = true) : isWord c = false := by
  simp only [isBlank, Bool.or_eq_true, Bool.and_eq_true, decide_eq_true_eq, beq_iff_eq] at h
  by_cases hascii : c.toNat < 128
  · have hall : ∀ n ∈ [9, 10, 11, 12, 13, 28, 29, 30, 31, 32], isWord (Char.ofNat n) = false := by
      decide
    have hc := hall c.toNat (by simp only [List.mem_cons, List.not_mem_nil, or_false]; omega)
    rwa [Char.ofNat_toNat] at hc
  · have hblank : c.toNat ≤ 0x3000 ∧ ∃ b ∈ wideBlanks, b.first ≤ c.toNat ∧ c.toNat ≤ b.last := by
      simp only [wideBlanks, List.mem_cons, List.not_mem_nil, or_false, exists_eq_or_imp,
        exists_eq_left]
      omega
    obtain ⟨hlast, b, hb, hfrom, hto⟩ := hblank
    rw [isWord, if_neg hascii, ← Bool.not_eq_true, inTable_iff]
    rintro ⟨r, hr, hfirst, hend⟩
    rcases wordTable_disjoint r hr with hbehind | hapart
    · omega
    · rcases hapart b hb with hbefore | hafter <;> omega

theorem isBlank_of_isWord {c : Char} (h : isWord c = true) : isBlank c = false := by
  by_contra hblank
  rw [isWord_of_isBlank (Bool.eq_true_of_not_eq_false hblank)] at h
  cases h

/-- There are no blanks in a mark, or it is the blank in brackets that a qualifier leaves. -/
theorem Fits.blanks {m : DeclaratorMark} (h : m.Fits) :
    (∀ c ∈ m.text, isBlank c = false) ∨ m = size [' '] := by
  cases m with
  | pointer => exact .inl (by decide)
  | reference => exact .inl (by decide)
  | size word =>
    rcases h with hword | rfl
    · refine .inl fun c hc => ?_
      rcases List.mem_cons.1 hc with rfl | hc
      · decide
      · rcases List.mem_append.1 hc with hc | hc
        · exact isBlank_of_isWord (hword c hc)
        · rw [List.mem_singleton.1 hc]
          decide
    · exact .inr rfl

/-- No mark opens a call. -/
theorem Fits.not_mem_call {m : DeclaratorMark} (h : m.Fits) : '(' ∉ m.text := by
  cases m with
  | pointer => decide
  | reference => decide
  | size word =>
    intro hmem
    have hword : '(' ∈ word := by simpa [text] using hmem
    rcases h with hisWord | rfl
    · exact absurd (hisWord _ hword) (by decide)
    · exact absurd hword (by decide)

theorem getLast?_text (m : DeclaratorMark) :
    ∃ last, m.text.getLast? = some last ∧ isBlank last = false := by
  cases m with
  | pointer => exact ⟨'*', rfl, by decide⟩
  | reference => exact ⟨'&', rfl, by decide⟩
  | size word =>
    refine ⟨']', ?_, by decide⟩
    show ('[' :: (word ++ [']'])).getLast? = some ']'
    rw [← List.cons_append, List.getLast?_concat]

theorem head?_row (ms : List DeclaratorMark) :
    ∀ c ∈ (row ms).head?, isBlank c = false ∧ isWord c = false ∧ c ≠ ':' := by
  cases ms with
  | nil => exact fun c hc => nomatch hc
  | cons m ms =>
    intro c hc
    cases m <;> cases hc <;> decide

/-! ### Normal marks -/

variable {ms : List DeclaratorMark}

theorem fits_normal {m : DeclaratorMark} (h : m.Fits) : m.normal.Fits := by
  cases m with
  | pointer => trivial
  | reference => trivial
  | size word =>
    show (size (blankQualifier word)).Fits
    unfold blankQualifier
    split_ifs
    · exact .inr rfl
    · exact h

theorem forall_fits_normal (h : ∀ m ∈ ms, m.Fits) : ∀ m ∈ ms.map normal, m.Fits := by
  intro m hm
  obtain ⟨m', hm', rfl⟩ := List.mem_map.1 hm
  exact fits_normal (h m' hm')

/-- Qualifiers in array sizes become blanks. -/
theorem mapWords_row (h : ∀ m ∈ ms, m.Fits) :
    mapWords blankQualifier (row ms) = row (ms.map normal) := by
  induction ms with
  | nil => rfl
  | cons m ms ih =>
    obtain ⟨hm, hms⟩ := List.forall_mem_cons.1 h
    rw [List.map_cons, row_cons, row_cons, ← ih hms]
    cases m with
    | pointer => exact mapWords_cons_of_not_isWord (by decide) _
    | reference => exact mapWords_cons_of_not_isWord (by decide) _
    | size word =>
      have hclose : ∀ rest, mapWords blankQualifier (']' :: rest) =
          ']' :: mapWords blankQualifier rest :=
        mapWords_cons_of_not_isWord (by decide)
      have hword : mapWords blankQualifier (word ++ ']' :: row ms) =
          blankQualifier word ++ ']' :: mapWords blankQualifier (row ms) := by
        rcases hm with hword | rfl
        · by_cases hempty : word = []
          · subst hempty
            exact hclose _
          · rw [mapWords_append hempty hword fun c hc => by cases hc; decide, hclose]
        · have hkept : blankQualifier [' '] = [' '] := by decide
          rw [hkept]
          show mapWords blankQualifier (' ' :: ']' :: row ms) = _
          rw [mapWords_cons_of_not_isWord (by decide), hclose]
          rfl
      show mapWords blankQualifier ('[' :: (word ++ [']']) ++ row ms) = _
      rw [List.cons_append, mapWords_cons_of_not_isWord (by decide), List.append_assoc,
        List.singleton_append, hword]
      simp [text, normal]

theorem collapseBlanks_append {cs : List Char} (h : ∀ c ∈ cs, isBlank c = false)
    (rest : List Char) : collapseBlanks (cs ++ rest) = cs ++ collapseBlanks rest := by
  induction cs with
  | nil => rfl
  | cons c cs ih =>
    obtain ⟨hc, hcs⟩ := List.forall_mem_cons.1 h
    rw [List.cons_append, collapseBlanks.eq_def]
    simp only [hc, Bool.false_eq_true, if_false]
    rw [ih hcs, List.cons_append]

/-- A single blank stays one. -/
theorem collapseBlanks_space {rest : List Char} (h : ∀ c ∈ rest.head?, isBlank c = false) :
    collapseBlanks (' ' :: rest) = ' ' :: collapseBlanks rest := by
  cases rest with
  | nil => rfl
  | cons c rest =>
    have hc : isBlank c = false := h c rfl
    conv_lhs => rw [collapseBlanks.eq_def]
    simp [isBlank_space, hc]

theorem collapseBlanks_row (h : ∀ m ∈ ms, m.Fits) : collapseBlanks (row ms) = row ms := by
  induction ms with
  | nil => rfl
  | cons m ms ih =>
    obtain ⟨hm, hms⟩ := List.forall_mem_cons.1 h
    rcases hm.blanks with hplain | rfl
    · rw [row_cons, collapseBlanks_append hplain, ih hms]
    · show collapseBlanks (['['] ++ ' ' :: ([']'] ++ row ms)) = _
      rw [collapseBlanks_append (by decide), collapseBlanks_space fun c hc => by cases hc; decide,
        collapseBlanks_append (by decide), ih hms]
      rfl

/-- Where there is no blank, blanks around marks need not be looked for. -/
theorem tightenMarks_append {cs rest : List Char} (h : ∀ c ∈ cs, isBlank c = false)
    (hrest : ∀ b, tightenMarks.go b rest = rest) (b : Bool) :
    tightenMarks.go b (cs ++ rest) = cs ++ rest := by
  induction cs generalizing b with
  | nil => exact hrest b
  | cons c cs ih =>
    obtain ⟨hc, hcs⟩ := List.forall_mem_cons.1 h
    rw [List.cons_append, tightenMarks.go, if_neg (by simp [hc]), ih hcs]

/-- The only blanks of marks are in brackets. -/
theorem tightenMarks_row (h : ∀ m ∈ ms, m.Fits) (b : Bool) :
    tightenMarks.go b (row ms) = row ms := by
  induction ms generalizing b with
  | nil => rfl
  | cons m ms ih =>
    obtain ⟨hm, hms⟩ := List.forall_mem_cons.1 h
    rcases hm.blanks with hplain | rfl
    · exact tightenMarks_append hplain (ih hms) b
    · have hclose : tightenMarks.go false ([']'] ++ row ms) = [']'] ++ row ms :=
        tightenMarks_append (by decide) (ih hms) false
      show tightenMarks.go b ('[' :: ' ' :: ([']'] ++ row ms)) = '[' :: ' ' :: ([']'] ++ row ms)
      rw [tightenMarks.go, if_neg (by decide), tightenMarks.go, if_pos (by decide),
        if_neg (by decide), if_neg ?_, hclose]
      show ¬((']' :: row ms).dropWhile isBlank).head?.any isMark = true
      rw [List.dropWhile_cons_of_neg (by decide)]
      show ¬isMark ']' = true
      decide

/-! ### Names with marks -/

/-- What the normal spelling leaves of a name: word characters that are no qualifier. -/
structure IsCore (core : List Char) : Prop where
  /-- All characters are in words. -/
  word : ∀ c ∈ core, isWord c = true
  /-- It is no qualifier. -/
  kept : blankQualifier core = core

variable {core : List Char}

theorem getLast?_row_isBlank (hcore : ∀ c ∈ core, isWord c = true) (ms : List DeclaratorMark) :
    ∀ c ∈ (core ++ row ms).getLast?, isBlank c = false := by
  intro c hc
  rcases List.eq_nil_or_concat ms with rfl | ⟨front, m, rfl⟩
  · rw [show row [] = [] from rfl, List.append_nil] at hc
    exact isBlank_of_isWord (hcore c (List.mem_of_getLast? hc))
  · obtain ⟨last, hlast, hblank⟩ := m.getLast?_text
    have hne : m.text ≠ [] := by
      intro hnil
      rw [hnil] at hlast
      cases hlast
    rw [List.concat_eq_append, row_concat, ← List.append_assoc,
      List.getLast?_append_of_ne_nil _ hne, hlast] at hc
    cases hc
    exact hblank

/-- What is left of a name has no blanks at its ends and no mark of the global scope, with marks or
without. -/
theorem strip_row (hcore : ∀ c ∈ core, isWord c = true) (ms : List DeclaratorMark) :
    strip (core ++ row ms) = core ++ row ms ∧
      dropGlobalScope (core ++ row ms) = core ++ row ms := by
  have hhead : ∀ c ∈ (core ++ row ms).head?, isBlank c = false ∧ c ≠ ':' := by
    intro c hc
    cases core with
    | nil => exact ⟨(head?_row ms c hc).1, (head?_row ms c hc).2.2⟩
    | cons d core =>
      obtain rfl : d = c := Option.some.inj hc
      have hd := hcore d (List.mem_cons_self ..)
      refine ⟨isBlank_of_isWord hd, ?_⟩
      rintro rfl
      exact absurd hd (by decide)
  refine ⟨strip_of_ends (fun c hc => (hhead c hc).1) (getLast?_row_isBlank hcore ms), ?_⟩
  unfold dropGlobalScope
  split
  · next heq =>
    rw [heq] at hhead
    exact absurd rfl (hhead ':' rfl).2
  · rfl

/-- Behind a name, marks are spelled normally on their own. -/
theorem normalizeChars_row (hcore : IsCore core) (hms : ∀ m ∈ ms, m.Fits) :
    normalizeChars (core ++ row ms) = core ++ row (ms.map normal) := by
  have hwords : mapWords blankQualifier (core ++ row ms) = core ++ row (ms.map normal) := by
    by_cases hempty : core = []
    · subst hempty
      exact mapWords_row hms
    · rw [mapWords_append hempty hcore.word fun c hc => (head?_row ms c hc).2.1, hcore.kept,
        mapWords_row hms]
  have hfits := forall_fits_normal hms
  have hplain : ∀ c ∈ core, isBlank c = false := fun c hc => isBlank_of_isWord (hcore.word c hc)
  unfold normalizeChars tightenMarks
  rw [hwords, collapseBlanks_append hplain, collapseBlanks_row hfits,
    (strip_row hcore.word _).1, tightenMarks_append hplain (tightenMarks_row hfits),
    (strip_row hcore.word _).2]

theorem isCore_nil : IsCore [] where
  word := List.forall_mem_nil _
  kept := by decide

/-- A name in front of marks is left as it is, or is a qualifier and dropped. -/
theorem exists_core {name : List Char} (hword : ∀ c ∈ name, isWord c = true) :
    ∃ core, IsCore core ∧ ∀ ms, (∀ m ∈ ms, m.Fits) →
      normalizeChars (name ++ row ms) = normalizeChars (core ++ row ms) := by
  by_cases hkept : blankQualifier name = name
  · exact ⟨name, ⟨hword, hkept⟩, fun _ _ => rfl⟩
  · have hblank : blankQualifier name = [' '] := by
      unfold blankQualifier at hkept ⊢
      split_ifs at hkept ⊢
      · rfl
      · exact absurd rfl hkept
    have hempty : name ≠ [] := by
      rintro rfl
      exact hkept (by decide)
    refine ⟨[], isCore_nil, fun ms hms => ?_⟩
    have hfits := forall_fits_normal hms
    have hstrip : strip (' ' :: row (ms.map normal)) = strip (row (ms.map normal)) := by
      unfold strip stripStart
      rw [List.dropWhile_cons_of_pos isBlank_space]
    unfold normalizeChars
    rw [mapWords_append hempty hword fun c hc => (head?_row ms c hc).2.1, hblank, mapWords_row hms,
      List.singleton_append, collapseBlanks_space fun c hc => (head?_row _ c hc).1,
      collapseBlanks_row hfits, hstrip, List.nil_append, mapWords_row hms, collapseBlanks_row hfits]

/-! ### Marks of a type -/

/-- Marks that are read from the end of a type stand in front of those that were read before. -/
theorem exists_row_of_go (cs : List Char) (hms : ∀ m ∈ ms, m.Fits) :
    (∃ front, (∀ m ∈ front, m.Fits) ∧
      declaratorMarks.go (row ms) none cs = row (front ++ ms)) ∧
    ∀ word, (∀ c ∈ word, isWord c = true) → ∃ front, (∀ m ∈ front, m.Fits) ∧
      declaratorMarks.go (row ms) (some (word ++ ']' :: row ms)) cs = row (front ++ ms) := by
  have hdone : ∃ front, (∀ m ∈ front, Fits m) ∧ row ms = row (front ++ ms) :=
    ⟨[], List.forall_mem_nil _, rfl⟩
  induction cs generalizing ms with
  | nil => exact ⟨hdone, fun _ _ => hdone⟩
  | cons c cs ih =>
    -- a mark that has been read is one of those that were read before for what is in front of it
    have hread : ∀ m : DeclaratorMark, m.Fits → ∃ front, (∀ m ∈ front, m.Fits) ∧
        declaratorMarks.go (m.text ++ row ms) none cs = row (front ++ ms) := by
      intro m hm
      have hcons : ∀ m' ∈ m :: ms, m'.Fits := List.forall_mem_cons.2 ⟨hm, hms⟩
      obtain ⟨front, hfront, heq⟩ := (ih hcons ⟨[], List.forall_mem_nil _, rfl⟩).1
      refine ⟨front ++ [m], fun m' hm' => ?_, ?_⟩
      · rcases List.mem_append.1 hm' with hm' | hm'
        · exact hfront m' hm'
        · rw [List.mem_singleton.1 hm']
          exact hm
      · rw [← row_cons, heq, List.append_assoc, List.singleton_append]
    constructor
    · rw [declaratorMarks.go]
      split_ifs with hmark hclose
      · rcases hmark with rfl | rfl
        · exact hread pointer trivial
        · exact hread reference trivial
      · subst hclose
        exact (ih hms hdone).2 [] (List.forall_mem_nil _)
      · exact hdone
    · intro word hword
      rw [declaratorMarks.go]
      split_ifs with hopen hc
      · subst hopen
        have heq : '[' :: (word ++ ']' :: row ms) = (size word).text ++ row ms := by simp [text]
        rw [heq]
        exact hread (size word) (.inl hword)
      · have hcons : ∀ d ∈ c :: word, isWord d = true := List.forall_mem_cons.2 ⟨hc, hword⟩
        exact (ih hms hdone).2 (c :: word) hcons
      · exact hdone

/-- The marks at the end of a type are marks in a row. -/
theorem exists_row (type : List Char) :
    ∃ ms, (∀ m ∈ ms, m.Fits) ∧ declaratorMarks type = row ms := by
  obtain ⟨⟨front, hfront, heq⟩, -⟩ :=
    exists_row_of_go (if type.getLast? = some '\n' then type.dropLast else type).reverse
      (List.forall_mem_nil Fits)
  exact ⟨front, hfront, by rw [List.append_nil] at heq; exact heq⟩

/-- The last mark of a type that ends in a pointer or a reference is that one. -/
theorem exists_row_of_endsInMark {type : String} (h : Emission.endsInMark type = true) :
    ∃ ms last, (∀ m ∈ ms, m.Fits) ∧ (last = pointer ∨ last = reference) ∧
      declaratorMarks type.toList = row (ms ++ [last]) := by
  obtain ⟨c, hc, hmark⟩ := (Option.any_eq_true _ _).1 h
  obtain ⟨init, hinit⟩ := List.getLast?_eq_some_iff.1 hc
  have hmark : c = '*' ∨ c = '&' := by simpa using hmark
  have hgo : declaratorMarks type.toList = declaratorMarks.go [c] none init.reverse := by
    have hline : c ≠ '\n' := by rcases hmark with rfl | rfl <;> decide
    have hrev : type.toList.reverse = c :: init.reverse := by
      rw [hinit, List.reverse_append]
      rfl
    unfold declaratorMarks
    rw [hc, if_neg fun heq => hline (Option.some.inj heq)]
    show declaratorMarks.go [] none type.toList.reverse = _
    rw [hrev, declaratorMarks.go]
    exact if_pos hmark
  obtain ⟨last, hlast, htext⟩ : ∃ last, (last = pointer ∨ last = reference) ∧
      row [last] = [c] := by
    rcases hmark with rfl | rfl
    · exact ⟨pointer, .inl rfl, rfl⟩
    · exact ⟨reference, .inr rfl, rfl⟩
  have hfits : ∀ m ∈ [last], m.Fits := by
    intro m hm
    rw [List.mem_singleton.1 hm]
    rcases hlast with rfl | rfl <;> trivial
  obtain ⟨⟨front, hfront, heq⟩, -⟩ := exists_row_of_go init.reverse hfits
  exact ⟨front, last, hfront, hlast, by rw [hgo, ← htext, heq]⟩

end DeclaratorMark

/-! ### What is held by value -/

/-- The class that a type expression mentions as a type outside pointers, if it does. -/
def ForeignType.heldName? : ForeignType → Option String
  | named name => some name.shown
  | array item _ => item.heldName?
  | _ => none

namespace TypeTable

/-- No line of a table mentions a class. -/
def Plain (t : TypeTable) : Prop :=
  ∀ d ∈ t.entries, d.foreignType.heldName? = none

theorem plain_standard : standard.Plain := by
  intro d hd
  rcases foreignType_builtin hd with hnothing | ⟨name, -, hbasic⟩
  · rw [hnothing]
    rfl
  · rw [hbasic]
    rfl

variable {t : TypeTable} {index : NameIndex}

theorem pointTo_heldName? (native : List Char) (inner : Descriptor) :
    (pointTo native inner).foreignType.heldName? = none := by
  rcases pointTo_cases native inner with huntyped | ⟨-, htyped⟩
  · rw [huntyped]
    rfl
  · rw [htyped]
    rfl

/-- An array mentions what its items mention, and refers to what they refer to. -/
theorem of_arrayOf_heldName? {native size : List Char} {inner : Descriptor} {name : String}
    (h : (arrayOf native size inner).foreignType.heldName? = some name) :
    inner.foreignType.heldName? = some name ∧ (arrayOf native size inner).kind = inner.kind ∧
      (arrayOf native size inner).declaration = inner.declaration := by
  unfold arrayOf at h ⊢
  split_ifs at h ⊢
  · cases h
  · exact ⟨h, rfl, rfl⟩
  · exact ⟨h, rfl, rfl⟩

/-- The class that a type mentions outside pointers is known by name and laid out, and it is what
the type refers to. -/
theorem exists_of_heldName? (ht : t.Plain) {signature : List Char} {name : String}
    (h : (t.describe index signature).foreignType.heldName? = some name)
    (hk : (t.describe index signature).kind ≠ .opaqueHandle) :
    (t.describe index signature).kind = .declaration ∧ ∃ entry ∈ index,
      entry.2.form = .layoutClass ∧ entry.2.name.shown = name ∧
        (t.describe index signature).declaration = entry.2.id := by
  fun_induction t.describe index signature with
  | case1 signature native d hs =>
    rw [ht d (mem_entries_of_shape (.inl hs))] at h
    cases h
  | case2 signature native hs => cases h
  | case3 signature native target hs ih =>
    rw [pointTo_heldName?] at h
    cases h
  | case4 signature native item size hs ih =>
    obtain ⟨hitem, hkind, hdeclaration⟩ := of_arrayOf_heldName? h
    rw [hkind] at hk ⊢
    rw [hdeclaration]
    exact ih hitem hk
  | case5 signature native d hs =>
    have hline : t.shape native = .known d ∨ t.shape native = .template d := .inr hs
    have hnone : d.foreignType.heldName? = none := ht d (mem_entries_of_shape hline)
    cases hnone.symm.trans h
  | case6 signature native hs =>
    rcases referTo_cases index native with ⟨_, _, hr, heq⟩ | ⟨hhandle, -⟩
    · obtain ⟨entry, hentry, rfl⟩ := exists_of_get? index hr
      rw [heq] at h hk ⊢
      cases hform : entry.2.form with
      | enumeration =>
        rw [hform] at h
        cases h
      | layoutClass =>
        rw [hform] at h
        exact ⟨rfl, entry, hentry, hform, Option.some.inj h, rfl⟩
      | other =>
        rw [hform] at hk
        exact absurd rfl hk
    · exact absurd hhandle hk

/-- A type that ends in the mark of a pointer or a reference mentions classes in pointers only. -/
theorem heldName?_of_mark (ht : t.Plain) {signature : List Char}
    (h : (normalizeChars signature).getLast?.any isMark = true) :
    (t.describe index signature).foreignType.heldName? = none := by
  rw [describe_eq]
  unfold shape
  cases he : t.entry? (String.ofList (normalizeChars signature)) with
  | some d => exact ht d (List.mem_of_find?_eq_some he)
  | none =>
    dsimp only
    split_ifs
    · rfl
    · exact pointTo_heldName? _ _

/-! ### Marks peeled off -/

open DeclaratorMark

/-- The item type of an array stands in front of its last mark. -/
theorem arrayParts?_concat (item : List Char) {word : List Char} (hfits : (size word).Fits) :
    arrayParts? (item ++ (size word).text) = some (stripEnd item, strip word) := by
  have hinside : ∀ c ∈ word, c ≠ '[' := by
    rintro c hc rfl
    rcases hfits with hword | rfl
    · exact absurd (hword _ hc) (by decide)
    · exact absurd hc (by decide)
  have hsize : (strip word).all isWord = true := by
    rcases hfits with hword | rfl
    · have hstrip : strip word = word :=
        strip_of_ends (fun c hc => isBlank_of_isWord (hword c (List.mem_of_head? hc)))
          fun c hc => isBlank_of_isWord (hword c (List.mem_of_getLast? hc))
      rw [hstrip]
      exact List.all_eq_true.2 hword
    · rfl
  have hrev : (item ++ (size word).text).reverse =
      ']' :: (word.reverse ++ '[' :: item.reverse) := by
    simp [text]
  have htake : (word.reverse ++ '[' :: item.reverse).takeWhile (· ≠ '[') = word.reverse := by
    rw [List.takeWhile_append_of_pos fun c hc => by simpa using hinside c (List.mem_reverse.1 hc)]
    simp
  have hdrop : (word.reverse ++ '[' :: item.reverse).dropWhile (· ≠ '[') =
      '[' :: item.reverse := by
    rw [List.dropWhile_append_of_pos fun c hc => by simpa using hinside c (List.mem_reverse.1 hc)]
    simp
  unfold arrayParts?
  rw [hrev]
  simp only [htake, hdrop, List.reverse_reverse, hsize, if_true]

/-- A type with an array size at its end is an array, unless it is taken for something else as a
whole. -/
theorem shape_concat_size (item : List Char) {word : List Char} (hfits : (size word).Fits) :
    (∃ d ∈ t.entries, t.entry? (String.ofList (item ++ (size word).text)) = some d ∧
        t.shape (item ++ (size word).text) = .known d) ∨
      '(' ∈ item ∧ t.shape (item ++ (size word).text) = .function ∨
      t.shape (item ++ (size word).text) = .array (stripEnd item) (strip word) := by
  have hclose : (item ++ (size word).text).getLast? = some ']' := by
    rw [show item ++ (size word).text = (item ++ '[' :: word) ++ [']'] by simp [text],
      List.getLast?_concat]
  have hmark : ¬(some ']').any isMark = true := by decide
  unfold shape
  cases he : t.entry? (String.ofList (item ++ (size word).text)) with
  | some d => exact .inl ⟨d, List.mem_of_find?_eq_some he, rfl, rfl⟩
  | none =>
    dsimp only
    rw [hclose, if_neg hmark, arrayParts?_concat item hfits]
    split_ifs with hcall
    · refine .inr (.inl ⟨?_, rfl⟩)
      rcases List.mem_append.1 (List.contains_iff_mem.1 hcall) with hitem | hsize
      · exact hitem
      · exact absurd hsize hfits.not_mem_call
    · exact .inr (.inr rfl)

/-- Where a name with marks mentions a class outside pointers, the marks are array sizes only, and
it refers to what the name refers to. -/
theorem declaration_row (ht : t.Plain) {core : List Char} (hcore : IsCore core)
    {ms : List DeclaratorMark} (hms : ∀ m ∈ ms, m.Fits) {name : String}
    (h : (t.describe index (core ++ row ms)).foreignType.heldName? = some name) :
    (t.describe index (core ++ row ms)).declaration = (t.describe index core).declaration := by
  induction hn : ms.length generalizing ms with
  | zero =>
    rw [List.length_eq_zero_iff.1 hn]
    show (t.describe index (core ++ [])).declaration = _
    rw [List.append_nil]
  | succ n ih =>
    obtain rfl | ⟨front, m, rfl⟩ := List.eq_nil_or_concat ms
    · cases hn
    rw [List.concat_eq_append] at *
    obtain ⟨hfront, hm⟩ := List.forall_mem_append.1 hms
    have hnormal : normalizeChars (core ++ row (front ++ [m])) =
        core ++ row (front.map normal) ++ m.normal.text := by
      rw [normalizeChars_row hcore hms, List.map_append, List.map_singleton, row_concat,
        List.append_assoc]
    have hmark : ∀ c, isMark c = true → m.normal.text.getLast? ≠ some c := by
      intro c hc hlast
      rw [heldName?_of_mark ht] at h
      · cases h
      · rw [hnormal]
        simp [hlast, hc]
    cases m with
    | pointer => exact absurd rfl (hmark '*' rfl)
    | reference => exact absurd rfl (hmark '&' rfl)
    | size word =>
      have hfits : (size (blankQualifier word)).Fits :=
        fits_normal (hm _ (List.mem_singleton_self _))
      have hlength : (front.map normal).length = n := by simpa using hn
      have hnormal : normalizeChars (core ++ row (front ++ [size word])) =
        core ++ row (front.map normal) ++ (size (blankQualifier word)).text := hnormal
      rw [describe_eq, hnormal] at h ⊢
      have hends := stripEnd_of_last (getLast?_row_isBlank hcore.word (front.map normal))
      rcases shape_concat_size (t := t) (core ++ row (front.map normal)) hfits with
        ⟨d, hd, -, hshape⟩ | ⟨-, hshape⟩ | hshape <;> rw [hshape] at h ⊢
      · rw [ht d hd] at h
        cases h
      · cases h
      · rw [hends] at h ⊢
        obtain ⟨hitem, -, hdeclaration⟩ := of_arrayOf_heldName? h
        rw [hdeclaration]
        exact ih (forall_fits_normal hfront) hitem hlength

/-- A name with the marks of a type mentions a class outside pointers only where the type ends in no
pointer and no reference, and then it refers to what the name refers to. -/
theorem declaration_of_declaratorMarks (ht : t.Plain) {word : List Char}
    (hword : ∀ c ∈ word, isWord c = true) {type name : String}
    (h : (t.describe index (word ++ declaratorMarks type.toList)).foreignType.heldName? =
      some name) :
    Emission.endsInMark type = false ∧
      (t.describe index (word ++ declaratorMarks type.toList)).declaration =
        (t.describe index word).declaration := by
  obtain ⟨core, hcore, hsame⟩ := exists_core hword
  have hdescribe : ∀ ms, (∀ m ∈ ms, m.Fits) →
      t.describe index (word ++ row ms) = t.describe index (core ++ row ms) := by
    intro ms hms
    rw [describe_eq, describe_eq, hsame ms hms]
  constructor
  · by_contra hends
    obtain ⟨ms, last, hms, hlast, heq⟩ :=
      exists_row_of_endsInMark (Bool.eq_true_of_not_eq_false hends)
    have hall : ∀ m ∈ ms ++ [last], m.Fits := by
      refine List.forall_mem_append.2 ⟨hms, fun m hm => ?_⟩
      rw [List.mem_singleton.1 hm]
      rcases hlast with rfl | rfl <;> trivial
    rw [heq, hdescribe _ hall, heldName?_of_mark ht] at h
    · cases h
    · rw [normalizeChars_row hcore hall, List.map_append, List.map_singleton, row_concat]
      rcases hlast with rfl | rfl <;> simp [DeclaratorMark.normal, text, isMark]
  · obtain ⟨ms, hms, heq⟩ := exists_row type.toList
    rw [heq, hdescribe ms hms] at h ⊢
    have hplain : t.describe index word = t.describe index core := by
      have hnil := hdescribe [] (List.forall_mem_nil _)
      rwa [show row [] = [] from rfl, List.append_nil, List.append_nil] at hnil
    rw [hplain]
    exact declaration_row ht hcore hms h

end TypeTable

end Bindery
