import Bindery.Proofs.TypeTable.Arrays

/-!
# Keys that are spelled normally

Four steps make the key of a spelling: dropped words become blanks, blanks side by side become one
space, blanks at the ends and around the marks of pointers go, and one mark of the global scope is
taken off the front. After the first three there is nothing left for them to do. The last one may
bring another mark of the global scope to the front, or a space: then a key is not its own key.

So a key is its own key just if it does not begin with a blank or with a mark of the global scope,
and then the types it is taken apart into are keys as well. Exactly the spellings with a mark of the
global scope at the front, and behind it another one or a blank before what is no mark of a pointer,
have other keys.
-/

namespace Bindery

open Bindery.Text

namespace Signature

/-! ### First characters -/

theorem stripStart_cons (c : Char) (cs : List Char) :
    stripStart (c :: cs) = if isBlank c = true then stripStart cs else c :: cs :=
  List.dropWhile_cons

/-- What is left without blanks at the start does not begin with one. -/
theorem head?_stripStart (cs : List Char) : ∀ c ∈ (stripStart cs).head?, isBlank c = false := by
  intro c hc
  have hhead := List.head?_dropWhile_not isBlank cs
  unfold stripStart at hc
  rw [hc] at hhead
  simpa using hhead

/-- A text that does not begin with a blank has none to remove there. -/
theorem stripStart_of_head {cs : List Char} (h : ∀ c ∈ cs.head?, isBlank c = false) :
    stripStart cs = cs := by
  cases cs with
  | nil => rfl
  | cons c cs => rw [stripStart_cons, if_neg (by simp [h c rfl])]

/-- What stays true without one blank at the start stays true without all of them. -/
theorem stripStart_of_forall_cons {p : List Char → Prop}
    (hcons : ∀ {c cs}, isBlank c = true → p (c :: cs) → p cs) {cs : List Char} (h : p cs) :
    p (stripStart cs) := by
  induction cs with
  | nil => exact h
  | cons c cs ih =>
    rw [stripStart_cons]
    split_ifs with hc
    · exact ih (hcons hc h)
    · exact h

/-- Collapsed blanks begin with a space. -/
theorem head?_collapseBlanks (cs : List Char) :
    (collapseBlanks cs).head? = cs.head?.map fun c => if isBlank c = true then ' ' else c := by
  induction cs with
  | nil => rfl
  | cons c cs ih =>
    rw [collapseBlanks_cons]
    split_ifs with hc hnext
    · obtain ⟨d, hd, hblank⟩ := (Option.any_eq_true _ _).1 hnext
      rw [ih, Option.mem_def.1 hd, List.head?_cons, Option.map_some, Option.map_some, if_pos hblank,
        if_pos hc]
    · rw [List.head?_cons, List.head?_cons, Option.map_some, if_pos hc]
    · rw [List.head?_cons, List.head?_cons, Option.map_some, if_neg hc]

/-- Blanks at the start are removed before or after blanks are collapsed. -/
theorem stripStart_collapseBlanks (cs : List Char) :
    stripStart (collapseBlanks cs) = collapseBlanks (stripStart cs) := by
  induction cs with
  | nil => rfl
  | cons c cs ih =>
    rw [collapseBlanks_cons, stripStart_cons]
    split_ifs with hc hnext
    · exact ih
    · rw [stripStart_cons, if_pos isBlank_space, ih]
    · rw [stripStart_cons, if_neg hc, collapseBlanks_cons, if_neg hc]

/-- The first blank is kept where neither a mark stands behind the blanks nor one in front of
them. -/
theorem head?_tightenMarks (b : Bool) (cs : List Char) :
    (tightenMarks.go b cs).head? =
      if b = false ∧ (stripStart cs).head?.any isMark = false then cs.head?
      else (stripStart cs).head? := by
  induction cs generalizing b with
  | nil => cases b <;> rfl
  | cons c cs ih =>
    rw [tightenMarks.go, stripStart_cons]
    by_cases hc : isBlank c = true
    · rw [if_pos hc, if_pos hc]
      cases b with
      | true => rw [if_pos rfl, ih, if_neg (by simp), if_neg (by simp)]
      | false =>
        rw [if_neg Bool.false_ne_true, show cs.dropWhile isBlank = stripStart cs from rfl]
        by_cases hmark : (stripStart cs).head?.any isMark = true
        · have hno : ¬(false = false ∧ (stripStart cs).head?.any isMark = false) := by simp [hmark]
          rw [if_pos hmark, ih, if_neg hno, if_neg hno]
        · rw [if_neg hmark, if_pos ⟨rfl, Bool.eq_false_of_not_eq_true hmark⟩]
          rfl
    · rw [if_neg hc, if_neg hc, ite_self]
      rfl

/-! ### Words -/

theorem isWord_of_isMark {c : Char} (h : isMark c = true) : isWord c = false := by
  rcases isMark_iff.1 h with rfl | rfl <;> decide

theorem isMark_of_isWord {c : Char} (h : isWord c = true) : isMark c = false := by
  by_contra hmark
  rw [isWord_of_isMark (Bool.eq_true_of_not_eq_false hmark)] at h
  cases h

/-- A text none of whose words is dropped, read word by word. -/
inductive Kept : List Char → Prop where
  /-- The end. -/
  | nil : Kept []
  /-- A character between words. -/
  | other {c : Char} {cs : List Char} (hc : isWord c = false) (h : Kept cs) : Kept (c :: cs)
  /-- A word that is kept. -/
  | word {word rest : List Char} (hne : word ≠ []) (hword : ∀ c ∈ word, isWord c = true)
      (hkept : blankQualifier word = word) (hrest : ∀ c ∈ rest.head?, isWord c = false)
      (h : Kept rest) : Kept (word ++ rest)

/-- Where dropped words have become blanks, all words are kept. -/
theorem kept_mapWords (cs : List Char) : Kept (mapWords blankQualifier cs) := by
  -- a word that has been read is kept, or has become a blank, in front of what is no word
  have hflush : ∀ word rest : List Char, word ≠ [] → (∀ c ∈ word, isWord c = true) →
      (∀ c ∈ rest.head?, isWord c = false) → Kept rest → Kept (blankQualifier word ++ rest) := by
    intro word rest hne hword hrest h
    unfold blankQualifier
    split_ifs with hdropped
    · exact .other (DeclaratorMark.isWord_of_isBlank isBlank_space) h
    · exact .word hne hword (by rw [blankQualifier, if_neg hdropped]) hrest h
  suffices hgo : ∀ word : List Char, (∀ c ∈ word, isWord c = true) →
      Kept (mapWords.go blankQualifier word cs) from hgo [] (List.forall_mem_nil _)
  induction cs with
  | nil =>
    intro word hword
    rw [mapWords.go]
    split_ifs with hempty
    · exact .nil
    · have hne : word.reverse ≠ [] := by simpa using hempty
      have hflushed := hflush _ [] hne (by simpa using hword) (by simp) .nil
      rwa [List.append_nil] at hflushed
  | cons c cs ih =>
    intro word hword
    have hnext : Kept (mapWords.go blankQualifier [] cs) := ih [] (List.forall_mem_nil _)
    rw [mapWords.go]
    split_ifs with hc hempty
    · exact ih _ (List.forall_mem_cons.2 ⟨hc, hword⟩)
    · exact .other (Bool.eq_false_of_not_eq_true hc) hnext
    · have hc : isWord c = false := Bool.eq_false_of_not_eq_true hc
      have hne : word.reverse ≠ [] := by simpa using hempty
      refine hflush _ _ hne (by simpa using hword) (fun d hd => ?_) (.other hc hnext)
      cases hd
      exact hc

theorem Kept.mapWords_eq {cs : List Char} (h : Kept cs) : mapWords blankQualifier cs = cs := by
  induction h with
  | nil => rfl
  | other hc _ ih => rw [mapWords_cons_of_not_isWord hc, ih]
  | word hne hword hkept hrest _ ih => rw [mapWords_append hne hword hrest, hkept, ih]

theorem kept_iff {cs : List Char} : Kept cs ↔ mapWords blankQualifier cs = cs :=
  ⟨Kept.mapWords_eq, fun h => h ▸ kept_mapWords cs⟩

namespace Kept

variable {cs : List Char}

/-- A text without its first character, which is in no word. -/
theorem of_cons {c : Char} (h : Kept (c :: cs)) (hc : isWord c = false) : Kept cs := by
  have hmap := h.mapWords_eq
  rw [mapWords_cons_of_not_isWord hc] at hmap
  exact kept_iff.2 (List.cons.inj hmap).2

/-- What stands in front of a place where no word goes on. -/
theorem of_append {rest : List Char} (h : Kept (cs ++ rest))
    (hrest : ∀ c ∈ rest.head?, isWord c = false) : Kept cs := by
  have hmap := h.mapWords_eq
  rw [mapWords_append_of_head cs hrest] at hmap
  -- neither half can be longer than before, so neither is shorter
  have hfront := mapWords_length_le blankQualifier_length_le cs
  have hback := mapWords_length_le blankQualifier_length_le rest
  have hlength := congrArg List.length hmap
  rw [List.length_append, List.length_append] at hlength
  exact kept_iff.2 (List.append_inj hmap (by omega)).1

/-- Words do not move when blanks are collapsed. -/
theorem collapseBlanks (h : Kept cs) : Kept (Text.collapseBlanks cs) := by
  induction h with
  | nil => exact .nil
  | other hc _ ih =>
    rw [collapseBlanks_cons]
    split_ifs
    · exact ih
    · exact .other (DeclaratorMark.isWord_of_isBlank isBlank_space) ih
    · exact .other hc ih
  | word hne hword hkept hrest _ ih =>
    rw [DeclaratorMark.collapseBlanks_append fun c hc =>
      DeclaratorMark.isBlank_of_isWord (hword c hc)]
    refine .word hne hword hkept (fun c hc => ?_) ih
    rw [head?_collapseBlanks] at hc
    obtain ⟨d, hd, rfl⟩ := Option.map_eq_some_iff.1 hc
    split_ifs
    · exact DeclaratorMark.isWord_of_isBlank isBlank_space
    · exact hrest d hd

theorem stripStart (h : Kept cs) : Kept (Text.stripStart cs) :=
  stripStart_of_forall_cons (fun hc h => h.of_cons (DeclaratorMark.isWord_of_isBlank hc)) h

theorem stripEnd (h : Kept cs) : Kept (Text.stripEnd cs) := by
  obtain ⟨bs, hbs, hcs⟩ := exists_blanks cs
  rw [hcs] at h
  exact h.of_append fun c hc => DeclaratorMark.isWord_of_isBlank (hbs c (List.mem_of_head? hc))

/-- Words do not move when blanks around marks are removed. -/
theorem tightenMarks (h : Kept cs) (b : Bool) : Kept (tightenMarks.go b cs) := by
  induction h generalizing b with
  | nil => exact .nil
  | other hc _ ih =>
    rw [tightenMarks.go]
    split_ifs
    · exact ih true
    · exact ih false
    · exact .other hc (ih false)
    · exact .other hc (ih _)
  | @word word rest hne hword hkept hrest h ih =>
    have hplain : ∀ c ∈ word, isBlank c = false ∧ isMark c = false := fun c hc =>
      ⟨DeclaratorMark.isBlank_of_isWord (hword c hc), isMark_of_isWord (hword c hc)⟩
    rw [tightenMarks_name hne hplain]
    refine .word hne hword hkept (fun c hc => ?_) (ih false)
    rw [head?_tightenMarks] at hc
    split_ifs at hc with hno
    · exact hrest c hc
    · -- the blanks in front of a mark are gone
      obtain ⟨d, hd, hmark⟩ := (Option.any_eq_true _ _).1
        (Bool.eq_true_of_not_eq_false fun hmark => hno ⟨rfl, hmark⟩)
      obtain rfl : d = c := Option.some.inj (hd.symm.trans hc)
      exact isWord_of_isMark hmark

end Kept

/-! ### Blanks -/

/-- What may stand side by side where blanks are collapsed, and removed around marks: there is
neither a blank nor a mark behind a blank, and no blank behind a mark. -/
structure Beside (c d : Char) : Prop where
  /-- What stands behind a blank. -/
  blank : isBlank c = true → isBlank d = false ∧ isMark d = false
  /-- What stands behind a mark. -/
  mark : isMark c = true → isBlank d = false

section beside

variable {cs : List Char}

theorem collapseBlanks_of_beside (hspaces : ∀ c ∈ cs, isBlank c = true → c = ' ')
    (hbeside : cs.IsChain Beside) : collapseBlanks cs = cs := by
  induction cs with
  | nil => rfl
  | cons c cs ih =>
    obtain ⟨hc, hspaces⟩ := List.forall_mem_cons.1 hspaces
    obtain ⟨hnext, hbeside⟩ := List.isChain_cons.1 hbeside
    rw [collapseBlanks_cons, ih hspaces hbeside]
    split_ifs with hblank hmore
    · obtain ⟨d, hd, hd'⟩ := (Option.any_eq_true _ _).1 hmore
      rw [((hnext d hd).blank hblank).1] at hd'
      cases hd'
    · rw [hc hblank]
    · rfl

theorem tightenMarks_of_beside (hbeside : cs.IsChain Beside) {b : Bool}
    (hfirst : b = true → ∀ c ∈ cs.head?, isBlank c = false) : tightenMarks.go b cs = cs := by
  induction cs generalizing b with
  | nil => rfl
  | cons c cs ih =>
    obtain ⟨hnext, hbeside⟩ := List.isChain_cons.1 hbeside
    rw [tightenMarks.go, show cs.dropWhile isBlank = stripStart cs from rfl]
    split_ifs with hblank hb hmark
    · rw [hfirst hb c rfl] at hblank
      cases hblank
    · -- no mark stands behind a blank
      rw [stripStart_of_head fun d hd => ((hnext d hd).blank hblank).1] at hmark
      obtain ⟨d, hd, hd'⟩ := (Option.any_eq_true _ _).1 hmark
      rw [((hnext d hd).blank hblank).2] at hd'
      cases hd'
    · rw [ih hbeside fun h => absurd h Bool.false_ne_true]
    · rw [ih hbeside fun h d hd => (hnext d hd).mark h]

/-- Once blanks are collapsed, all of them are spaces. -/
theorem spaces_collapseBlanks (cs : List Char) :
    ∀ c ∈ collapseBlanks cs, isBlank c = true → c = ' ' := by
  induction cs with
  | nil => exact List.forall_mem_nil _
  | cons c cs ih =>
    rw [collapseBlanks_cons]
    split_ifs with hc
    · exact ih
    · exact List.forall_mem_cons.2 ⟨fun _ => rfl, ih⟩
    · exact List.forall_mem_cons.2 ⟨fun h => absurd h hc, ih⟩

/-- Once blanks are collapsed, no two of them are side by side. -/
theorem apart_collapseBlanks (cs : List Char) :
    (collapseBlanks cs).IsChain fun c d => isBlank c = true → isBlank d = false := by
  induction cs with
  | nil => exact .nil
  | cons c cs ih =>
    rw [collapseBlanks_cons]
    split_ifs with hc hmore
    · exact ih
    · refine List.isChain_cons.2 ⟨fun d hd _ => ?_, ih⟩
      rw [head?_collapseBlanks] at hd
      obtain ⟨e, he, rfl⟩ := Option.map_eq_some_iff.1 hd
      have hsolid : ¬isBlank e = true := fun h => hmore ((Option.any_eq_true _ _).2 ⟨e, he, h⟩)
      rw [if_neg hsolid]
      exact Bool.eq_false_of_not_eq_true hsolid
    · exact List.isChain_cons.2 ⟨fun d _ h => absurd h hc, ih⟩

/-- Where blanks are not side by side, those that are left around marks may stand there. -/
theorem beside_tightenMarks (h : cs.IsChain fun c d => isBlank c = true → isBlank d = false)
    (b : Bool) : (tightenMarks.go b cs).IsChain Beside := by
  induction cs generalizing b with
  | nil => exact .nil
  | cons c cs ih =>
    obtain ⟨hnext, h⟩ := List.isChain_cons.1 h
    rw [tightenMarks.go, show cs.dropWhile isBlank = stripStart cs from rfl]
    split_ifs with hblank hb hmark
    · exact ih h true
    · exact ih h false
    · have hno : (stripStart cs).head?.any isMark = false := Bool.eq_false_of_not_eq_true hmark
      refine List.isChain_cons.2 ⟨fun d hd => ?_, ih h false⟩
      rw [head?_tightenMarks, if_pos ⟨rfl, hno⟩] at hd
      rw [stripStart_of_head fun d hd => hnext d hd hblank, Option.mem_def.1 hd] at hno
      have hplain : isBlank d = false ∧ isMark d = false := ⟨hnext d hd hblank, hno⟩
      have hc : isMark c = true → isBlank d = false := fun _ => hplain.1
      exact ⟨fun _ => hplain, hc⟩
    · refine List.isChain_cons.2 ⟨fun d hd => ⟨fun hc => absurd hc hblank, fun hc => ?_⟩, ih h _⟩
      rw [hc, head?_tightenMarks, if_neg (by simp)] at hd
      exact head?_stripStart cs d hd

theorem tightenMarks_sublist (b : Bool) (cs : List Char) : (tightenMarks.go b cs).Sublist cs := by
  induction cs generalizing b with
  | nil => exact .slnil
  | cons c cs ih =>
    rw [tightenMarks.go]
    split_ifs
    · exact (ih true).cons c
    · exact (ih false).cons c
    · exact (ih false).cons_cons c
    · exact (ih _).cons_cons c

end beside

/-! ### Tidy texts -/

/-- A text that the first three steps leave as it is, but for a space at its start. -/
structure Tidy (cs : List Char) : Prop where
  /-- Its words are kept. -/
  kept : Kept cs
  /-- Its blanks are spaces. -/
  spaces : ∀ c ∈ cs, isBlank c = true → c = ' '
  /-- They stand beside neither each other nor marks. -/
  beside : cs.IsChain Beside
  /-- There is none at the end. -/
  last : ∀ c ∈ cs.getLast?, isBlank c = false

namespace Tidy

variable {cs : List Char}

/-- A tidy text without its first character, which is in no word. -/
theorem of_cons {c : Char} (h : Tidy (c :: cs)) (hc : isWord c = false) : Tidy cs where
  kept := h.kept.of_cons hc
  spaces := (List.forall_mem_cons.1 h.spaces).2
  beside := (List.isChain_cons.1 h.beside).2
  last := by
    cases cs with
    | nil => exact fun d hd => nomatch hd
    | cons d cs => exact h.last

theorem stripStart (h : Tidy cs) : Tidy (Text.stripStart cs) :=
  stripStart_of_forall_cons (fun hc h => h.of_cons (DeclaratorMark.isWord_of_isBlank hc)) h

theorem dropGlobalScope (h : Tidy cs) : Tidy (Signature.dropGlobalScope cs) := by
  have hcolon : isWord ':' = false := by decide
  fun_cases Signature.dropGlobalScope cs with
  | case1 cs => exact (h.of_cons hcolon).of_cons hcolon
  | case2 => exact h

/-- What stands in front of a place where no word goes on, without a blank at its end. -/
theorem of_append {rest : List Char} (h : Tidy (cs ++ rest))
    (hrest : ∀ c ∈ rest.head?, isWord c = false) (hlast : ∀ c ∈ cs.getLast?, isBlank c = false) :
    Tidy cs where
  kept := h.kept.of_append hrest
  spaces := (List.forall_mem_append.1 h.spaces).1
  beside := h.beside.left_of_append
  last := hlast

/-- The normal spelling of a tidy text is the text without a space and a mark of the global scope at
its start. -/
theorem normalizeChars_eq (h : Tidy cs) :
    normalizeChars cs = Signature.dropGlobalScope (Text.stripStart cs) := by
  have hcollapse := collapseBlanks_of_beside h.spaces h.beside
  have hend := stripEnd_of_last h.stripStart.last
  have htighten := tightenMarks_of_beside h.stripStart.beside (b := false) fun h =>
    absurd h Bool.false_ne_true
  unfold normalizeChars strip tightenMarks
  rw [h.kept.mapWords_eq, hcollapse, hend, htighten]

end Tidy

/-- A spelling without the words that are dropped, and without blanks at its ends. -/
def bare (cs : List Char) : List Char :=
  strip (mapWords blankQualifier cs)

/-- Blanks at the end are removed before or after blanks are collapsed. -/
theorem stripEnd_collapseBlanks (cs : List Char) :
    stripEnd (collapseBlanks cs) = collapseBlanks (stripEnd cs) := by
  obtain ⟨bs, hbs, hcs⟩ := exists_blanks cs
  conv_lhs => rw [hcs, stripEnd_collapseBlanks_append hbs]
  refine stripEnd_of_last ?_
  obtain hnil | ⟨front, c, hfront⟩ := List.eq_nil_or_concat (stripEnd cs)
  · rw [hnil]
    exact fun c hc => nomatch hc
  · have hc : isBlank c = false := getLast?_stripEnd cs c (by simp [hfront])
    have hone : collapseBlanks [c] = [c] := by rw [collapseBlanks_cons, if_neg (by simp [hc])]; rfl
    have hhead : ∀ d ∈ [c].head?, isBlank d = false := by simpa using hc
    rw [hfront, List.concat_eq_append, collapseBlanks_append_of_head front hhead, hone,
      List.getLast?_concat]
    exact hhead

theorem normalizeChars_eq_bare (cs : List Char) :
    normalizeChars cs = dropGlobalScope (tightenMarks (collapseBlanks (bare cs))) := by
  unfold normalizeChars bare strip
  rw [stripStart_collapseBlanks, stripEnd_collapseBlanks]

/-- The first three steps leave nothing to do for themselves. -/
theorem tidy_bare (cs : List Char) : Tidy (tightenMarks (collapseBlanks (bare cs))) where
  kept := ((kept_mapWords cs).stripStart.stripEnd.collapseBlanks).tightenMarks false
  spaces := fun c hc => spaces_collapseBlanks _ c ((tightenMarks_sublist false _).subset hc)
  beside := beside_tightenMarks (apart_collapseBlanks _) false
  last := by
    have hidem : stripEnd (bare cs) = bare cs := stripEnd_of_last (getLast?_stripEnd _)
    have hend : stripEnd (tightenMarks (collapseBlanks (bare cs))) =
        tightenMarks (collapseBlanks (bare cs)) := by
      unfold tightenMarks
      rw [stripEnd_tightenMarks, stripEnd_collapseBlanks, hidem]
    rw [← hend]
    exact getLast?_stripEnd _

theorem tidy_normalizeChars (cs : List Char) : Tidy (normalizeChars cs) := by
  rw [normalizeChars_eq_bare]
  exact (tidy_bare cs).dropGlobalScope

/-! ### What the last step brings to the front -/

theorem head?_bare (cs : List Char) : ∀ c ∈ (bare cs).head?, isBlank c = false := by
  intro c hc
  obtain ⟨bs, -, hfront⟩ := exists_blanks (stripStart (mapWords blankQualifier cs))
  refine head?_stripStart (mapWords blankQualifier cs) c ?_
  rw [hfront]
  exact List.mem_head?_append_of_mem_head? hc

/-- A text begins with a space once it is tidied, if there are blanks at its start and no mark
behind them. -/
theorem head?_tidied (cs : List Char) : (tightenMarks (collapseBlanks cs)).head? =
    if cs.head?.any isBlank = true ∧ (stripStart cs).head?.any isMark = false then some ' '
    else (stripStart cs).head? := by
  have hstart : (collapseBlanks (stripStart cs)).head? = (stripStart cs).head? := by
    rw [head?_collapseBlanks]
    cases hhead : (stripStart cs).head? with
    | none => rfl
    | some c => rw [Option.map_some, if_neg (by simp [head?_stripStart cs c hhead])]
  unfold tightenMarks
  rw [head?_tightenMarks, stripStart_collapseBlanks, hstart, head?_collapseBlanks]
  cases cs with
  | nil => rfl
  | cons c cs =>
    by_cases hc : isBlank c = true
    · simp [hc]
    · have hkept : stripStart (c :: cs) = c :: cs := by rw [stripStart_cons, if_neg hc]
      simp [hc, hkept]

/-- A tidied text begins with a blank just if there are blanks at the start of the text and no mark
behind them. -/
theorem first_tidied_iff (cs : List Char) :
    (∀ c ∈ (tightenMarks (collapseBlanks cs)).head?, isBlank c = false) ↔
      ¬(cs.head?.any isBlank = true ∧ (stripStart cs).head?.any isMark = false) := by
  rw [head?_tidied]
  split_ifs with hspace
  · refine iff_of_false (fun h => ?_) (not_not_intro hspace)
    exact absurd (h ' ' rfl) (by decide)
  · exact iff_of_true (head?_stripStart cs) hspace

section solid

variable {c : Char} (hblank : isBlank c = false) (hmark : isMark c = false)
include hblank hmark

/-- A character that is neither a blank nor a mark stays in front. -/
theorem tidied_cons (cs : List Char) :
    tightenMarks (collapseBlanks (c :: cs)) = c :: tightenMarks (collapseBlanks cs) := by
  unfold tightenMarks
  rw [collapseBlanks_cons, if_neg (by simp [hblank]), tightenMarks.go, if_neg (by simp [hblank]),
    hmark]

/-- It is in front once a text is tidied just if it was before. -/
theorem cons_prefix_tidied_iff (front cs : List Char) :
    c :: front <+: tightenMarks (collapseBlanks cs) ↔
      ∃ rest, cs = c :: rest ∧ front <+: tightenMarks (collapseBlanks rest) := by
  constructor
  · intro h
    have hhead : (tightenMarks (collapseBlanks cs)).head? = some c := by
      obtain ⟨back, hback⟩ := h
      rw [← hback]
      rfl
    have hfirst : ¬(cs.head?.any isBlank = true ∧ (stripStart cs).head?.any isMark = false) := by
      rw [← first_tidied_iff, hhead]
      exact fun d hd => Option.some.inj hd ▸ hblank
    rw [head?_tidied, if_neg hfirst] at hhead
    have hplain : ∀ d ∈ cs.head?, isBlank d = false := by
      intro d hd
      by_contra hd'
      refine hfirst ⟨(Option.any_eq_true _ _).2 ⟨d, hd, Bool.eq_true_of_not_eq_false hd'⟩, ?_⟩
      rw [hhead]
      exact hmark
    rw [stripStart_of_head hplain] at hhead
    obtain ⟨rest, rfl⟩ := List.head?_eq_some_iff.1 hhead
    rw [tidied_cons hblank hmark, List.cons_prefix_cons] at h
    exact ⟨rest, rfl, h.2⟩
  · rintro ⟨rest, rfl, h⟩
    rw [tidied_cons hblank hmark]
    exact List.cons_prefix_cons.2 ⟨rfl, h⟩

end solid

/-- A text has a mark of the global scope at its front once it is tidied just if it had one
before. -/
theorem scope_prefix_tidied_iff (cs : List Char) :
    [':', ':'] <+: tightenMarks (collapseBlanks cs) ↔ [':', ':'] <+: cs := by
  have hblank : isBlank ':' = false := by decide
  have hmark : isMark ':' = false := by decide
  simp only [cons_prefix_tidied_iff hblank hmark, List.nil_prefix, and_true]
  constructor
  · rintro ⟨_, rfl, rest, rfl⟩
    exact ⟨rest, rfl⟩
  · rintro ⟨rest, rfl⟩
    exact ⟨_, rfl, rest, rfl⟩

/-- A text that begins with neither a blank nor a mark of the global scope. -/
structure Settled (cs : List Char) : Prop where
  /-- It does not begin with a blank. -/
  first : ∀ c ∈ cs.head?, isBlank c = false
  /-- It does not begin with a mark of the global scope. -/
  unscoped : ¬[':', ':'] <+: cs

/-- Whether what stands behind the first mark of the global scope is another one, or is parted from
it by blanks and no mark of a pointer or a reference. -/
def isUnsettled (cs : List Char) : Bool :=
  match bare cs with
  | ':' :: ':' :: rest => [':', ':'].isPrefixOf rest ||
      (rest.head?.any isBlank && !(stripStart rest).head?.any isMark)
  | _ => false

/-- Exactly the normal spellings of such texts begin with a blank or with a mark of the global
scope. -/
theorem settled_normalizeChars_iff (cs : List Char) :
    Settled (normalizeChars cs) ↔ isUnsettled cs = false := by
  rw [normalizeChars_eq_bare]
  by_cases hscope : [':', ':'] <+: bare cs
  · obtain ⟨rest, hrest⟩ := hscope
    have hblank : isBlank ':' = false := by decide
    have hmark : isMark ':' = false := by decide
    have hdrop : dropGlobalScope (tightenMarks (collapseBlanks (bare cs))) =
        tightenMarks (collapseBlanks rest) := by
      rw [← hrest, List.cons_append, List.cons_append, List.nil_append, tidied_cons hblank hmark,
        tidied_cons hblank hmark]
      rfl
    have hunsettled : isUnsettled cs = ([':', ':'].isPrefixOf rest ||
        (rest.head?.any isBlank && !(stripStart rest).head?.any isMark)) := by
      unfold isUnsettled
      rw [← hrest]
      rfl
    have hfirst := first_tidied_iff rest
    have hunscoped := scope_prefix_tidied_iff rest
    rw [hdrop, hunsettled, Bool.or_eq_false_iff, ← Bool.not_eq_true, List.isPrefixOf_iff_prefix,
      ← hunscoped, ← Bool.not_eq_true, Bool.and_eq_true, Bool.not_eq_true', ← hfirst]
    exact ⟨fun h => ⟨h.unscoped, h.first⟩, fun h => ⟨h.2, h.1⟩⟩
  · have hnot : ¬[':', ':'] <+: tightenMarks (collapseBlanks (bare cs)) := by
      rwa [scope_prefix_tidied_iff]
    have hfirst : ¬((bare cs).head?.any isBlank = true ∧
        (stripStart (bare cs)).head?.any isMark = false) := by
      rintro ⟨hany, -⟩
      obtain ⟨c, hc, hblank⟩ := (Option.any_eq_true _ _).1 hany
      rw [head?_bare cs c hc] at hblank
      cases hblank
    rw [dropGlobalScope_eq, if_neg hnot]
    refine iff_of_true ⟨(first_tidied_iff _).2 hfirst, hnot⟩ ?_
    unfold isUnsettled
    split
    · next rest hrest => exact absurd ⟨rest, hrest.symm⟩ hscope
    · rfl

/-- A text that is shortened by removing blanks or a mark of the global scope had one in front. -/
theorem settled_of_dropGlobalScope_stripStart {cs : List Char}
    (h : dropGlobalScope (stripStart cs) = cs) : Settled cs := by
  have hfirst : ∀ c ∈ cs.head?, isBlank c = false := by
    cases cs with
    | nil => exact fun c hc => nomatch hc
    | cons c cs =>
      rintro d hd
      obtain rfl := Option.some.inj hd
      by_contra hblank
      -- what is left is no longer than the text behind the blank
      have hdrop := dropGlobalScope_length_le (stripStart cs)
      have hstrip : (stripStart cs).length ≤ cs.length := (cs.dropWhile_suffix isBlank).length_le
      rw [stripStart_cons, if_pos (Bool.eq_true_of_not_eq_false hblank)] at h
      have hlength := congrArg List.length h
      rw [List.length_cons] at hlength
      omega
  refine ⟨hfirst, fun hscope => ?_⟩
  rw [stripStart_of_head hfirst, dropGlobalScope_eq, if_pos hscope] at h
  have hlength := congrArg List.length h
  have hlong := hscope.length_le
  rw [List.length_drop] at hlength
  simp only [List.length_cons, List.length_nil] at hlong
  omega

/-- A tidy text is its own normal spelling just if it is settled. -/
theorem Tidy.normalizeChars_eq_self_iff {cs : List Char} (h : Tidy cs) :
    normalizeChars cs = cs ↔ Settled cs := by
  rw [h.normalizeChars_eq]
  refine ⟨settled_of_dropGlobalScope_stripStart, fun hs => ?_⟩
  rw [stripStart_of_head hs.first, dropGlobalScope_eq, if_neg hs.unscoped]

theorem Settled.of_prefix {part cs : List Char} (h : Settled cs) (hpart : part <+: cs) :
    Settled part where
  first := by
    obtain ⟨rest, rfl⟩ := hpart
    exact fun c hc => h.first c (List.mem_head?_append_of_mem_head? hc)
  unscoped := fun hscope => h.unscoped (hscope.trans hpart)

end Signature

/-! ### Parts of a type -/

namespace TypeTable

open Bindery.Signature

/-- What a type in its normal spelling points to, or is an array of. -/
def part? (t : TypeTable) (native : List Char) : Option (List Char) :=
  match t.shape native with
  | .pointer target => some target
  | .array item _ => some item
  | _ => none

/-- A text that is looked up inside the search for a type: what the type is made of, what that is
made of, and so on. -/
inductive IsPart (t : TypeTable) : List Char → List Char → Prop where
  /-- What the type points to, or is an array of. -/
  | here {type part : List Char} (h : t.part? (normalizeChars type) = some part) :
    IsPart t type part
  /-- A part of that. -/
  | inside {type part inner : List Char} (h : t.part? (normalizeChars type) = some part)
      (hinner : IsPart t part inner) : IsPart t type inner

theorem of_part? {t : TypeTable} {native part : List Char} (h : t.part? native = some part) :
    (native.getLast?.any isMark = true ∧ part = pointee native) ∨
      ∃ size, arrayParts? native = some (part, size) := by
  unfold part? at h
  split at h
  · next target hshape =>
    cases h
    unfold shape at hshape
    split at hshape
    · cases hshape
    · split_ifs at hshape with hcall hmark
      · cases hshape
        exact .inl ⟨hmark, rfl⟩
      · split at hshape
        · cases hshape
        · split at hshape <;> cases hshape
  · next item size hshape =>
    cases h
    exact .inr ⟨size, arrayParts?_of_shape_array hshape⟩
  · cases h

/-- Behind what a pointer or a reference points to there are marks. -/
theorem exists_marks {native : List Char} (h : native.getLast?.any isMark = true) :
    ∃ marks, marks ≠ [] ∧ (∀ c ∈ marks, isMark c = true) ∧ native = pointee native ++ marks := by
  have hshort := pointee_length_lt h
  suffices hmarks : ∃ marks, (∀ c ∈ marks, isMark c = true) ∧ native = pointee native ++ marks by
    obtain ⟨marks, hall, heq⟩ := hmarks
    refine ⟨marks, ?_, hall, heq⟩
    rintro rfl
    have hlength := congrArg List.length heq
    rw [List.append_nil] at hlength
    omega
  obtain ⟨c, hlast, hmark⟩ := (Option.any_eq_true _ _).1 h
  unfold pointee
  split_ifs with hamp
  · obtain ⟨amps, hamps, hfront⟩ := exists_dropWhileEnd (· == '&') native
    obtain ⟨stars, hstars, hinner⟩ :=
      exists_dropWhileEnd (· == '*') (dropWhileEnd (· == '&') native)
    refine ⟨stars ++ amps, List.forall_mem_append.2 ⟨fun d hd => ?_, fun d hd => ?_⟩, ?_⟩
    · exact isMark_iff.2 (.inl (by simpa using hstars d hd))
    · exact isMark_iff.2 (.inr (by simpa using hamps d hd))
    · rw [← List.append_assoc, ← hinner, ← hfront]
  · refine ⟨[c], List.forall_mem_singleton.2 hmark, ?_⟩
    exact (List.dropLast_append_getLast? c hlast).symm

/-- Behind the type of the items there is no word. -/
theorem exists_of_arrayParts? {native item size : List Char}
    (h : arrayParts? native = some (item, size)) :
    (∀ c ∈ item.getLast?, isBlank c = false) ∧
      ∃ back, (∀ c ∈ back.head?, isWord c = false) ∧ native = item ++ back := by
  unfold arrayParts? at h
  split at h
  · next rest hrev =>
    dsimp only at h
    split at h
    · next front hfront =>
      split_ifs at h
      cases h
      refine ⟨getLast?_stripEnd _, ?_⟩
      obtain ⟨bs, hbs, hbefore⟩ := exists_blanks front.reverse
      -- behind the blanks in front of the bracket there are the bracket and all that it holds
      let inside := (rest.takeWhile (· ≠ '[')).reverse
      have hnative : native = front.reverse ++ '[' :: (inside ++ [']']) := by
        have hrest : rest = rest.takeWhile (· ≠ '[') ++ '[' :: front := by
          rw [← hfront, List.takeWhile_append_dropWhile]
        rw [← List.reverse_reverse native, hrev, hrest]
        simp [inside]
      refine ⟨bs ++ '[' :: (inside ++ [']']), fun c hc => ?_, ?_⟩
      · cases bs with
        | nil =>
          obtain rfl := Option.some.inj hc
          decide
        | cons b bs =>
          obtain rfl := Option.some.inj hc
          exact DeclaratorMark.isWord_of_isBlank (hbs _ (List.mem_cons_self ..))
      · rw [← List.append_assoc, ← hbefore, hnative]
    · cases h
  · cases h

/-- What a tidy type is made of stands at its start and is tidy. -/
theorem tidy_part {t : TypeTable} {native part : List Char} (h : Tidy native)
    (hpart : t.part? native = some part) : Tidy part ∧ part <+: native := by
  rcases of_part? hpart with ⟨hmark, rfl⟩ | ⟨size, harray⟩
  · obtain ⟨marks, hne, hmarks, hnative⟩ := exists_marks hmark
    refine ⟨?_, ⟨marks, hnative.symm⟩⟩
    rw [hnative] at h
    refine h.of_append (fun c hc => isWord_of_isMark (hmarks c (List.mem_of_head? hc))) ?_
    -- no blank stands in front of the marks
    intro c hc
    obtain ⟨mark, rest, rfl⟩ := List.exists_cons_of_ne_nil hne
    have hbeside : Beside c mark := (List.isChain_append.1 h.beside).2.2 c hc mark rfl
    by_contra hblank
    have hplain := (hbeside.blank (Bool.eq_true_of_not_eq_false hblank)).2
    rw [hmarks mark (List.mem_cons_self ..)] at hplain
    cases hplain
  · obtain ⟨hlast, back, hback, hnative⟩ := exists_of_arrayParts? harray
    refine ⟨?_, ⟨back, hnative.symm⟩⟩
    rw [hnative] at h
    exact h.of_append hback hlast

/-- Inside the search for a settled type all texts are their own normal spellings. -/
theorem IsPart.normalizeChars_eq {t : TypeTable} {type part : List Char}
    (h : t.IsPart type part) (hsettled : Settled (normalizeChars type)) :
    normalizeChars part = part := by
  have hnext : ∀ {type part : List Char}, Settled (normalizeChars type) →
      t.part? (normalizeChars type) = some part → normalizeChars part = part ∧ Settled part := by
    intro type part hsettled hpart
    obtain ⟨htidy, hprefix⟩ := tidy_part (tidy_normalizeChars type) hpart
    have hsettled : Settled part := hsettled.of_prefix hprefix
    exact ⟨htidy.normalizeChars_eq_self_iff.2 hsettled, hsettled⟩
  induction h with
  | here h => exact (hnext hsettled h).1
  | inside h _ ih =>
    obtain ⟨heq, hsettled⟩ := hnext hsettled h
    exact ih (heq.symm ▸ hsettled)

/-- The key of a spelling never ends in a blank, and its own key is what is left of it without a
blank and a mark of the global scope at its start. So a key is its own key, and begins with neither,
just if the spelling does not have such a mark with another one, or a blank, behind it. Then keys
have the lines and descriptions of what they are keys of, and all that is looked up in the search
for one is its own key. -/
theorem key_settled_iff (s : String) :
    let key := Signature.normalize s
    (∀ c ∈ key.toList.getLast?, isBlank c = false) ∧
      (Signature.normalize key).toList = dropGlobalScope (stripStart key.toList) ∧
      (Signature.normalize key = key ↔ isUnsettled s.toList = false) ∧
      (Settled key.toList ↔ isUnsettled s.toList = false) ∧
      (isUnsettled s.toList = false → ∀ t : TypeTable, t.find? key = t.find? s ∧
        (∀ used index, t.search used index key = t.search used index s) ∧
        ∀ part, t.IsPart key.toList part → normalizeChars part = part) := by
  intro key
  have hkey : key = Signature.normalize s := rfl
  have hchars : key.toList = normalizeChars s.toList := String.toList_ofList
  clear_value key
  have htidy : Tidy key.toList := by
    rw [hchars]
    exact tidy_normalizeChars s.toList
  have hagain : (Signature.normalize key).toList = normalizeChars key.toList := String.toList_ofList
  have hsettled : Settled key.toList ↔ isUnsettled s.toList = false := by
    rw [hchars]
    exact settled_normalizeChars_iff s.toList
  have hself : Signature.normalize key = key ↔ isUnsettled s.toList = false := by
    rw [← String.toList_inj, hagain, htidy.normalizeChars_eq_self_iff, hsettled]
  refine ⟨htidy.last, hagain.trans htidy.normalizeChars_eq, hself, hsettled, fun h t => ?_⟩
  have hsame : Signature.normalize key = Signature.normalize s := (hself.2 h).trans hkey
  have hfixed : normalizeChars key.toList = key.toList :=
    htidy.normalizeChars_eq_self_iff.2 (hsettled.2 h)
  refine ⟨?_, fun used index => search_congr hsame t used index, fun part hpart => ?_⟩
  · unfold find?
    rw [hsame]
  · refine hpart.normalizeChars_eq ?_
    rw [hfixed]
    exact hsettled.2 h

/-- The key of an array of pointers to a type of a scope is its own key, and so is what the array
and the pointer are made of. -/
theorem key_settled_iff_array :
    Signature.normalize "const ::ns::Foo *[2]" = "ns::Foo*[2]" ∧
      Signature.normalize "ns::Foo*[2]" = "ns::Foo*[2]" ∧
      (∀ t : TypeTable, t.find? "ns::Foo*[2]" = t.find? "const ::ns::Foo *[2]") ∧
      normalizeChars "ns::Foo*".toList = "ns::Foo*".toList ∧
      normalizeChars "ns::Foo".toList = "ns::Foo".toList := by
  have hkey : Signature.normalize "const ::ns::Foo *[2]" = "ns::Foo*[2]" := by decide
  have hgiven : isUnsettled "const ::ns::Foo *[2]".toList = false := by decide
  have harray : standard.part? (normalizeChars "ns::Foo*[2]".toList) = some "ns::Foo*".toList := by
    decide
  have hpointer : standard.part? (normalizeChars "ns::Foo*".toList) = some "ns::Foo".toList := by
    decide
  obtain ⟨-, -, hself, -, hsearch⟩ := key_settled_iff "const ::ns::Foo *[2]"
  rw [hkey] at hself hsearch
  obtain ⟨-, -, hparts⟩ := hsearch hgiven standard
  exact ⟨hkey, hself.2 hgiven, fun t => (hsearch hgiven t).1, hparts _ (.here harray),
    hparts _ (.inside harray (.here hpointer))⟩

/-- Behind a mark of the global scope, a blank or another mark of the global scope is kept in a key,
and is gone from the key of the key: what a pointer points to is looked up under another key. -/
theorem key_not_settled :
    Signature.normalize ":: Foo" = " Foo" ∧ Signature.normalize " Foo" = "Foo" ∧
      Signature.normalize "::::Foo" = "::Foo" ∧ Signature.normalize "::Foo" = "Foo" ∧
      standard.part? (normalizeChars ":: Foo*".toList) = some " Foo".toList ∧
      isUnsettled ":: Foo".toList = true ∧ isUnsettled "::::Foo".toList = true := by
  decide

end TypeTable

end Bindery
