import Bindery.Proofs.TypeTable.Founded
import Bindery.Proofs.TypeTable.Marks

/-!
# Pieces of a spelling

A spelling of a type is put together from names, from marks of pointers and references, from words
that are dropped, and from blanks. Names and marks are its tokens. Blanks and dropped words only
matter where they part two names: the normal spelling has one space there, and no blank anywhere
else. So it depends on the tokens only.
-/

namespace Bindery.Signature

open Bindery.Text
open scoped Bindery.Initializer

/-- A piece of a spelling. -/
inductive Piece where
  /-- A blank. -/
  | blank (c : Char)
  /-- A word that is dropped. -/
  | dropped (word : List Char)
  /-- A name, qualified or not. -/
  | name (text : List Char)
  /-- The mark of a pointer or a reference. -/
  | mark (c : Char)
deriving DecidableEq

/-- A name, perhaps qualified: between double colons it has words, none of which is dropped. -/
structure IsName (text : List Char) : Prop where
  /-- It has characters. -/
  nonempty : text ≠ []
  /-- Its parts are made of word characters. -/
  word : ∀ part ∈ scopeParts text, ∀ c ∈ part, isWord c = true
  /-- Its parts are no qualifiers. -/
  kept : ∀ part ∈ scopeParts text, blankQualifier part = part

instance (text : List Char) : Decidable (IsName text) :=
  decidable_of_iff
    (text ≠ [] ∧ (∀ part ∈ scopeParts text, ∀ c ∈ part, isWord c = true) ∧
      ∀ part ∈ scopeParts text, blankQualifier part = part)
    ⟨fun ⟨nonempty, word, kept⟩ => ⟨nonempty, word, kept⟩,
      fun ⟨nonempty, word, kept⟩ => ⟨nonempty, word, kept⟩⟩

namespace Piece

/-- How a piece is written. -/
def text : Piece → List Char
  | blank c => [c]
  | dropped word => word
  | name text => text
  | mark c => [c]

/-- Whether a piece is a name. -/
def isName : Piece → Bool
  | name _ => true
  | _ => false

/-- Whether a piece is made of words, so that it needs something between itself and others. -/
def isWordy : Piece → Bool
  | name _ | dropped _ => true
  | _ => false

/-- Whether a piece counts. -/
def isToken : Piece → Bool
  | name _ | mark _ => true
  | _ => false

/-- A piece is what it is meant to be. -/
def Fits : Piece → Prop
  | blank c => isBlank c = true
  | dropped word => qualifiers.contains (String.ofList word) = true
  | name text => IsName text
  | mark c => isMark c = true

instance : (p : Piece) → Decidable p.Fits
  | blank c => inferInstanceAs (Decidable (isBlank c = true))
  | dropped word => inferInstanceAs (Decidable (qualifiers.contains (String.ofList word) = true))
  | name text => inferInstanceAs (Decidable (IsName text))
  | mark c => inferInstanceAs (Decidable (isMark c = true))

/-- The text of pieces. -/
def join (ps : List Piece) : List Char :=
  ps.flatMap text

/-- The pieces that count. -/
def tokens (ps : List Piece) : List Piece :=
  ps.filter isToken

/-- Pieces with a space between names that stand side by side. -/
def spaced : List Piece → List Piece
  | [] => []
  | p :: ps => p :: (if p.isName && ps.head?.any isName then [blank ' '] else []) ++ spaced ps

/-- Pieces that make a spelling: between two words there is something else. -/
structure Spelled (ps : List Piece) : Prop where
  /-- The pieces are what they are meant to be. -/
  fits : ∀ p ∈ ps, p.Fits
  /-- No two words touch. -/
  apart : ps.IsChain fun p q => ¬(p.isWordy = true ∧ q.isWordy = true)

instance (ps : List Piece) : Decidable (Spelled ps) :=
  decidable_of_iff
    ((∀ p ∈ ps, p.Fits) ∧ ps.IsChain fun p q => ¬(p.isWordy = true ∧ q.isWordy = true))
    ⟨fun ⟨fits, apart⟩ => ⟨fits, apart⟩, fun ⟨fits, apart⟩ => ⟨fits, apart⟩⟩

theorem join_cons (p : Piece) (ps : List Piece) : join (p :: ps) = p.text ++ join ps :=
  rfl

theorem join_append (ps qs : List Piece) : join (ps ++ qs) = join ps ++ join qs :=
  List.flatMap_append

end Piece

/-! ### Names -/

theorem scopeParts_ne_nil (cs : List Char) : scopeParts cs ≠ [] := by
  fun_cases scopeParts cs <;> simp

/-- A qualified name is its parts with double colons between them. -/
theorem intercalate_scopeParts (cs : List Char) :
    [':', ':'].intercalate (scopeParts cs) = cs := by
  fun_induction scopeParts cs with
  | case1 => rfl
  | case2 cs ih =>
    obtain ⟨part, parts, hparts⟩ := List.exists_cons_of_ne_nil (scopeParts_ne_nil cs)
    rw [hparts, List.intercalate_cons_cons, ← hparts, ih]
    rfl
  | case3 c cs _ hparts ih => exact absurd hparts (scopeParts_ne_nil cs)
  | case4 c cs _ part parts hparts ih =>
    rw [hparts] at ih
    rw [← ih]
    cases parts with
    | nil => rfl
    | cons next parts => simp [List.intercalate_cons_cons]

/-- A word that is no qualifier is kept. -/
theorem mapWords_kept {word rest : List Char} (hword : ∀ c ∈ word, isWord c = true)
    (hkept : blankQualifier word = word) (hrest : ∀ c ∈ rest.head?, isWord c = false) :
    mapWords blankQualifier (word ++ rest) = word ++ mapWords blankQualifier rest := by
  by_cases hempty : word = []
  · subst hempty
    rfl
  · rw [mapWords_append hempty hword hrest, hkept]

theorem mapWords_parts {parts : List (List Char)} {rest : List Char}
    (hword : ∀ part ∈ parts, ∀ c ∈ part, isWord c = true)
    (hkept : ∀ part ∈ parts, blankQualifier part = part)
    (hrest : ∀ c ∈ rest.head?, isWord c = false) :
    mapWords blankQualifier ([':', ':'].intercalate parts ++ rest) =
      [':', ':'].intercalate parts ++ mapWords blankQualifier rest := by
  induction parts with
  | nil => rfl
  | cons part parts ih =>
    obtain ⟨hfirst, hword⟩ := List.forall_mem_cons.1 hword
    obtain ⟨hfirst', hkept⟩ := List.forall_mem_cons.1 hkept
    have ih := ih hword hkept
    cases parts with
    | nil => simpa using mapWords_kept hfirst hfirst' hrest
    | cons next parts =>
      have hcolon : isWord ':' = false := by decide
      rw [List.intercalate_cons_cons]
      simp only [List.append_assoc, List.cons_append, List.nil_append]
      rw [mapWords_kept hfirst hfirst' fun c hc => by cases hc; exact hcolon,
        mapWords_cons_of_not_isWord hcolon, mapWords_cons_of_not_isWord hcolon, ih]

namespace IsName

variable {text : List Char} (h : IsName text)
include h

/-- Names are left alone where qualifiers are dropped. -/
theorem mapWords {rest : List Char} (hrest : ∀ c ∈ rest.head?, isWord c = false) :
    mapWords blankQualifier (text ++ rest) = text ++ mapWords blankQualifier rest := by
  have hparts := mapWords_parts h.word h.kept hrest
  rwa [intercalate_scopeParts] at hparts

theorem isWord_or_colon : ∀ c ∈ text, isWord c = true ∨ c = ':' := by
  have hall : ∀ parts : List (List Char), (∀ part ∈ parts, ∀ c ∈ part, isWord c = true) →
      ∀ c ∈ [':', ':'].intercalate parts, isWord c = true ∨ c = ':' := by
    intro parts
    induction parts with
    | nil => exact fun _ c hc => absurd hc List.not_mem_nil
    | cons part parts ih =>
      intro hword c hc
      obtain ⟨hfirst, hword⟩ := List.forall_mem_cons.1 hword
      cases parts with
      | nil => exact .inl (hfirst c (by simpa using hc))
      | cons next parts =>
        rw [List.intercalate_cons_cons] at hc
        rcases List.mem_append.1 hc with hc | hc
        · rcases List.mem_append.1 hc with hc | hc
          · exact .inl (hfirst c hc)
          · exact .inr (by simpa using hc)
        · exact ih hword c hc
  have hparts := hall (scopeParts text) h.word
  rwa [intercalate_scopeParts] at hparts

/-- Names have no blanks and no marks. -/
theorem plain : ∀ c ∈ text, isBlank c = false ∧ isMark c = false := by
  intro c hc
  rcases h.isWord_or_colon c hc with hword | rfl
  · refine ⟨DeclaratorMark.isBlank_of_isWord hword, ?_⟩
    by_contra hmark
    rcases isMark_iff.1 (Bool.eq_true_of_not_eq_false hmark) with rfl | rfl <;>
      exact absurd hword (by decide)
  · decide

end IsName

/-! ### Blanks -/

theorem stripEnd_cons (c : Char) (cs : List Char) :
    stripEnd (c :: cs) = if stripEnd cs = [] ∧ isBlank c = true then [] else c :: stripEnd cs := by
  unfold stripEnd dropWhileEnd
  rw [List.reverse_cons, List.dropWhile_append]
  cases hrest : cs.reverse.dropWhile isBlank with
  | nil => cases hc : isBlank c <;> simp [hc]
  | cons d ds => simp

theorem stripEnd_cons_of_not_isBlank {c : Char} (h : isBlank c = false) (cs : List Char) :
    stripEnd (c :: cs) = c :: stripEnd cs := by
  rw [stripEnd_cons, if_neg (by simp [h])]

theorem stripEnd_append {cs : List Char} (h : ∀ c ∈ cs, isBlank c = false) (rest : List Char) :
    stripEnd (cs ++ rest) = cs ++ stripEnd rest := by
  induction cs with
  | nil => rfl
  | cons c cs ih =>
    obtain ⟨hc, hcs⟩ := List.forall_mem_cons.1 h
    rw [List.cons_append, stripEnd_cons_of_not_isBlank hc, ih hcs, List.cons_append]

/-- Blanks at the start of a text are like blanks behind a mark. -/
theorem tightenMarks_strip (cs : List Char) :
    tightenMarks (strip cs) = tightenMarks.go true (stripEnd cs) := by
  induction cs with
  | nil => rfl
  | cons c cs ih =>
    cases hc : isBlank c with
    | false =>
      have hstrip : strip (c :: cs) = c :: stripEnd cs := by
        unfold strip stripStart
        rw [List.dropWhile_cons_of_neg (by simp [hc]), stripEnd_cons_of_not_isBlank hc]
      unfold tightenMarks
      rw [hstrip, stripEnd_cons_of_not_isBlank hc, tightenMarks.go, tightenMarks.go,
        if_neg (by simp [hc]), if_neg (by simp [hc])]
    | true =>
      have hstrip : strip (c :: cs) = strip cs := by
        unfold strip stripStart
        rw [List.dropWhile_cons_of_pos hc]
      rw [hstrip, ih, stripEnd_cons]
      split_ifs with hempty
      · rw [hempty.1]
      · rw [tightenMarks.go, if_pos hc, if_pos rfl]

/-- Blanks behind a name are not behind a mark. -/
theorem tightenMarks_name {text : List Char} (hne : text ≠ [])
    (h : ∀ c ∈ text, isBlank c = false ∧ isMark c = false) (b : Bool) (rest : List Char) :
    tightenMarks.go b (text ++ rest) = text ++ tightenMarks.go false rest := by
  induction text generalizing b with
  | nil => exact absurd rfl hne
  | cons c cs ih =>
    obtain ⟨⟨hblank, hmark⟩, hcs⟩ := List.forall_mem_cons.1 h
    rw [List.cons_append, tightenMarks.go, if_neg (by simp [hblank]), hmark]
    by_cases hempty : cs = []
    · subst hempty
      rfl
    · rw [ih hempty hcs, List.cons_append]

/-! ### Pieces in a row -/

namespace Piece

variable {p : Piece} {ps : List Piece}

theorem Spelled.nil : Spelled [] where
  fits := List.forall_mem_nil _
  apart := .nil

theorem Spelled.tail (h : Spelled (p :: ps)) : Spelled ps where
  fits := (List.forall_mem_cons.1 h.fits).2
  apart := by
    cases ps with
    | nil => exact .nil
    | cons q qs => exact (List.isChain_cons_cons.1 h.apart).2

theorem Spelled.cons (hp : p.Fits) (h : Spelled ps)
    (happart : ∀ q ∈ ps.head?, ¬(p.isWordy = true ∧ q.isWordy = true)) : Spelled (p :: ps) where
  fits := List.forall_mem_cons.2 ⟨hp, h.fits⟩
  apart := by
    cases ps with
    | nil => exact List.isChain_singleton _
    | cons q qs => exact List.isChain_cons_cons.2 ⟨happart q rfl, h.apart⟩

/-- A piece that does not count is a blank, or becomes one. -/
def blanked : Piece → Piece
  | dropped _ => blank ' '
  | p => p

theorem exists_blanked (h : p.Fits) (ht : p.isToken = false) :
    ∃ c, isBlank c = true ∧ p.blanked = blank c := by
  cases p with
  | blank c => exact ⟨c, h, rfl⟩
  | dropped word => exact ⟨' ', isBlank_space, rfl⟩
  | name text => cases ht
  | mark c => cases ht

/-- What counts begins with no blank, and with a mark just if it is no name. -/
theorem exists_head (h : p.Fits) (ht : p.isToken = true) :
    p.blanked = p ∧ ∃ c cs, p.text = c :: cs ∧ isBlank c = false ∧ isMark c = !p.isName := by
  cases p with
  | blank c => cases ht
  | dropped word => cases ht
  | name text =>
    obtain ⟨c, cs, rfl⟩ := List.exists_cons_of_ne_nil h.nonempty
    obtain ⟨hblank, hmark⟩ := h.plain c (List.mem_cons_self ..)
    exact ⟨rfl, c, cs, rfl, hblank, hmark⟩
  | mark c =>
    have hc : isMark c = true := h
    refine ⟨rfl, c, [], rfl, ?_, hc⟩
    rcases isMark_iff.1 hc with rfl | rfl <;> decide

theorem Fits.dropped_word {word : List Char} (h : (dropped word).Fits) :
    word ≠ [] ∧ (∀ c ∈ word, isWord c = true) ∧ blankQualifier word = [' '] := by
  have hall : ∀ w ∈ qualifiers, w.toList ≠ [] ∧ ∀ c ∈ w.toList, isWord c = true := by
    decide +kernel
  obtain ⟨hne, hword⟩ := hall _ (List.contains_iff_mem.1 h)
  rw [String.toList_ofList] at hne hword
  exact ⟨hne, hword, if_pos h⟩

/-- Behind a word there is no word character. -/
theorem Spelled.head_not_isWord (h : Spelled (p :: ps)) (hp : p.isWordy = true) :
    ∀ c ∈ (join ps).head?, isWord c = false := by
  cases ps with
  | nil => exact fun c hc => nomatch hc
  | cons q qs =>
    have hq : q.Fits := h.fits q (by simp)
    have hwordy := fun hqw => (List.isChain_cons_cons.1 h.apart).1 ⟨hp, hqw⟩
    intro c hc
    cases q with
    | blank d =>
      cases hc
      exact DeclaratorMark.isWord_of_isBlank hq
    | dropped word => exact absurd rfl hwordy
    | name text => exact absurd rfl hwordy
    | mark d =>
      cases hc
      rcases isMark_iff.1 hq with rfl | rfl <;> decide

/-- Words that are dropped become blanks. -/
theorem mapWords_join (h : Spelled ps) :
    mapWords blankQualifier (join ps) = join (ps.map blanked) := by
  induction ps with
  | nil => rfl
  | cons p ps ih =>
    have ih := ih h.tail
    have hp : p.Fits := h.fits p (List.mem_cons_self ..)
    have hrest := h.head_not_isWord
    rw [List.map_cons, join_cons, join_cons, ← ih]
    cases p with
    | blank c => exact mapWords_cons_of_not_isWord (DeclaratorMark.isWord_of_isBlank hp) _
    | dropped word =>
      obtain ⟨hne, hword, hdropped⟩ := hp.dropped_word
      show mapWords blankQualifier (word ++ join ps) = [' '] ++ _
      rw [mapWords_append hne hword (hrest rfl), hdropped]
    | name text => exact IsName.mapWords hp (hrest rfl)
    | mark c =>
      refine mapWords_cons_of_not_isWord ?_ _
      rcases isMark_iff.1 hp with rfl | rfl <;> decide

/-- Between two names, pieces that do not count come to a space. -/
def gap (ps : List Piece) : List Piece :=
  if (ps.head?.any fun p => !p.isToken) && (tokens ps).head?.any isName then [blank ' '] else []

theorem gap_of_isToken {q : Piece} (h : q.isToken = true) (qs : List Piece) :
    gap (q :: qs) = [] := by
  simp [gap, h]

theorem tokens_of_isToken {q : Piece} (h : q.isToken = true) (qs : List Piece) :
    tokens (q :: qs) = q :: tokens qs :=
  List.filter_cons_of_pos h

theorem tokens_of_not_isToken {q : Piece} (h : q.isToken = false) (qs : List Piece) :
    tokens (q :: qs) = tokens qs :=
  List.filter_cons_of_neg (by simp [h])

/-- A space in front of what counts is kept in front of a name, unless it stands behind a mark. -/
theorem tightenMarks_space {c : Char} {cs : List Char} (hc : isBlank c = false) (b : Bool) :
    tightenMarks.go b (stripEnd (' ' :: c :: cs)) =
      (if b || isMark c then [] else [' ']) ++ tightenMarks.go b (stripEnd (c :: cs)) := by
  rw [stripEnd_cons, stripEnd_cons_of_not_isBlank hc, if_neg (by simp), tightenMarks.go,
    if_pos isBlank_space, List.dropWhile_cons_of_neg (by simp [hc])]
  cases b <;> cases hm : isMark c <;> simp [hm]

/-- Of blanks side by side the last one counts. -/
theorem collapseBlanks_blank {c d : Char} (hc : isBlank c = true) (hd : isBlank d = true)
    (cs : List Char) : collapseBlanks (c :: d :: cs) = collapseBlanks (d :: cs) := by
  rw [collapseBlanks, if_pos hc]
  exact if_pos hd

/-- The last of the blanks side by side becomes a space. -/
theorem collapseBlanks_other {c d : Char} (hc : isBlank c = true) (hd : isBlank d = false)
    (cs : List Char) : collapseBlanks (c :: d :: cs) = ' ' :: d :: collapseBlanks cs := by
  have hrest : collapseBlanks (d :: cs) = d :: collapseBlanks cs := by
    rw [collapseBlanks.eq_def]
    exact if_neg (by simp [hd])
  rw [collapseBlanks, if_pos hc, ← hrest]
  exact if_neg (by simp [hd])

/-- Behind a name the gap depends on what counts next. -/
theorem gap_behind_name {text : List Char} (h : Spelled (name text :: ps)) :
    gap ps = if (tokens ps).head?.any isName then [blank ' '] else [] := by
  cases ps with
  | nil => rfl
  | cons q qs =>
    have hwordy := fun hqw => (List.isChain_cons_cons.1 h.apart).1 ⟨rfl, hqw⟩
    cases q with
    | blank c => simp [gap, isToken]
    | dropped word => exact absurd rfl hwordy
    | name text => exact absurd rfl hwordy
    | mark c =>
      rw [gap_of_isToken rfl, tokens_of_isToken rfl]
      rfl

/-- What counts is kept, and blanks behind it are behind a mark if it is one. -/
theorem tightenMarks_token (h : p.Fits) (ht : p.isToken = true) (b : Bool) (cs : List Char) :
    tightenMarks.go b (stripEnd (collapseBlanks (p.text ++ cs))) =
      p.text ++ tightenMarks.go (!p.isName) (stripEnd (collapseBlanks cs)) := by
  cases p with
  | blank c => cases ht
  | dropped word => cases ht
  | name text =>
    have hplain := IsName.plain h
    show tightenMarks.go b (stripEnd (collapseBlanks (text ++ cs))) = _
    rw [DeclaratorMark.collapseBlanks_append fun c hc => (hplain c hc).1,
      stripEnd_append fun c hc => (hplain c hc).1, tightenMarks_name (IsName.nonempty h) hplain]
    rfl
  | mark c =>
    have hplain : ∀ d ∈ [c], isBlank d = false := by
      intro d hd
      rw [List.mem_singleton.1 hd]
      rcases isMark_iff.1 h with rfl | rfl <;> decide
    have hmark : isMark c = true := h
    show tightenMarks.go b (stripEnd (collapseBlanks ([c] ++ cs))) = _
    rw [DeclaratorMark.collapseBlanks_append hplain, stripEnd_append hplain,
      List.singleton_append, tightenMarks.go, if_neg (by simp [hplain]), hmark]
    rfl

/-- Between the tokens blanks come to single spaces between names, and there is one in front of the
first token if there is a blank and nothing takes it away. -/
theorem tightenMarks_join (h : Spelled ps) (b : Bool) :
    tightenMarks.go b (stripEnd (collapseBlanks (join (ps.map blanked)))) =
      join ((if b then [] else gap ps) ++ spaced (tokens ps)) := by
  induction ps generalizing b with
  | nil => cases b <;> rfl
  | cons p ps ih =>
    have ih := ih h.tail
    have hp : p.Fits := h.fits p (List.mem_cons_self ..)
    cases ht : p.isToken with
    | true =>
      obtain ⟨hblanked, -⟩ := exists_head hp ht
      rw [List.map_cons, join_cons, hblanked, tightenMarks_token hp ht, ih, gap_of_isToken ht,
        ite_self, List.nil_append, tokens_of_isToken ht, spaced, List.cons_append, join_cons]
      cases p with
      | blank c => cases ht
      | dropped word => cases ht
      | name text =>
        rw [gap_behind_name h]
        rfl
      | mark c => rfl
    | false =>
      obtain ⟨c, hc, hblanked⟩ := exists_blanked hp ht
      rw [List.map_cons, join_cons, hblanked, tokens_of_not_isToken ht]
      show tightenMarks.go b (stripEnd (collapseBlanks (c :: join (ps.map blanked)))) = _
      cases ps with
      | nil =>
        have hnone : stripEnd (collapseBlanks [c]) = [] := by
          rw [collapseBlanks, if_pos hc]
          decide
        have hgap : gap [p] = [] := by
          unfold gap
          rw [tokens_of_not_isToken ht, show tokens [] = [] from rfl, List.head?_nil,
            Option.any_none, Bool.and_false, if_neg Bool.false_ne_true]
        show tightenMarks.go b (stripEnd (collapseBlanks [c])) = _
        rw [hnone, hgap, ite_self]
        rfl
      | cons q qs =>
        have hq : q.Fits := h.fits q (by simp)
        cases hqt : q.isToken with
        | true =>
          obtain ⟨hqb, d, ds, htext, hd, hmark⟩ := exists_head hq hqt
          have hjoin : join ((q :: qs).map blanked) = d :: (ds ++ join (qs.map blanked)) := by
            rw [List.map_cons, join_cons, hqb, htext, List.cons_append]
          have hplain : ∀ e ∈ [d], isBlank e = false := by simpa using hd
          have hcollapse : collapseBlanks (d :: (ds ++ join (qs.map blanked))) =
              d :: collapseBlanks (ds ++ join (qs.map blanked)) :=
            DeclaratorMark.collapseBlanks_append hplain _
          have hgap : gap (p :: q :: qs) = if q.isName then [blank ' '] else [] := by
            unfold gap
            rw [tokens_of_not_isToken ht, tokens_of_isToken hqt]
            simp [ht]
          rw [hjoin] at ih ⊢
          rw [collapseBlanks_other hc hd, tightenMarks_space hd, ← hcollapse, ih b, hmark,
            hgap, gap_of_isToken hqt, ite_self]
          cases b <;> cases q.isName <;> rfl
        | false =>
          obtain ⟨d, hd, hqb⟩ := exists_blanked hq hqt
          have hjoin : join ((q :: qs).map blanked) = d :: join (qs.map blanked) := by
            rw [List.map_cons, join_cons, hqb]
            rfl
          have hgap : gap (p :: q :: qs) = gap (q :: qs) := by
            unfold gap
            rw [tokens_of_not_isToken ht]
            simp [ht, hqt]
          rw [hjoin] at ih ⊢
          rw [collapseBlanks_blank hc hd, ih b, hgap]

/-- The normal spelling depends on the tokens only: it has a space between names that stand side by
side, no other blank, and no mark of the global scope at its start. -/
theorem normalizeChars_join (h : Spelled ps) :
    normalizeChars (join ps) = dropGlobalScope (join (spaced (tokens ps))) := by
  unfold normalizeChars
  rw [mapWords_join h, tightenMarks_strip, tightenMarks_join h true]
  rfl

/-! ### Tokens laid out -/

variable {ts : List Piece}

/-- Spacing out adds spaces only. -/
theorem mem_spaced {p : Piece} (h : p ∈ spaced ts) : p ∈ ts ∨ p = blank ' ' := by
  induction ts with
  | nil => exact absurd h List.not_mem_nil
  | cons q qs ih =>
    rw [spaced, List.cons_append, List.mem_cons, List.mem_append] at h
    rcases h with rfl | h | h
    · exact .inl (List.mem_cons_self ..)
    · split_ifs at h
      · exact .inr (List.mem_singleton.1 h)
      · exact absurd h List.not_mem_nil
    · exact (ih h).imp_left (List.mem_cons_of_mem q)

/-- The tokens made of words are the names. -/
theorem isWordy_of_isToken {p : Piece} (h : p.isToken = true) : p.isWordy = p.isName := by
  cases p with
  | dropped word => cases h
  | _ => rfl

/-- Tokens that are spaced out are a spelling. -/
theorem spelled_spaced (h : ∀ p ∈ ts, p.Fits ∧ p.isToken = true) : Spelled (spaced ts) := by
  induction ts with
  | nil => exact .nil
  | cons p ps ih =>
    obtain ⟨⟨hp, ht⟩, hps⟩ := List.forall_mem_cons.1 h
    have hrest := ih hps
    have hhead : (spaced ps).head? = ps.head? := by cases ps <;> rfl
    rw [spaced]
    split_ifs with hnames
    · refine .cons hp (.cons isBlank_space hrest fun q _ hboth => Bool.false_ne_true hboth.1) ?_
      rintro q ⟨⟩ hboth
      exact Bool.false_ne_true hboth.2
    · refine .cons hp hrest fun q hq ⟨hpw, hqw⟩ => hnames ?_
      have hq : q ∈ ps.head? := hhead ▸ hq
      rw [Option.mem_def.1 hq, Option.any_some, ← isWordy_of_isToken ht,
        ← isWordy_of_isToken (hps q (List.mem_of_head? hq)).2, hpw, hqw]
      rfl

theorem tokens_spaced (h : ∀ p ∈ ts, p.isToken = true) : tokens (spaced ts) = ts := by
  induction ts with
  | nil => rfl
  | cons p ps ih =>
    obtain ⟨hp, hps⟩ := List.forall_mem_cons.1 h
    rw [spaced, List.cons_append, tokens_of_isToken hp]
    split_ifs
    · rw [List.singleton_append, tokens_of_not_isToken rfl, ih hps]
    · rw [List.nil_append, ih hps]

/-- Tokens that are spaced out are in their normal spelling. -/
theorem normalizeChars_spaced (h : ∀ p ∈ ts, p.Fits ∧ p.isToken = true) :
    normalizeChars (join (spaced ts)) = dropGlobalScope (join (spaced ts)) := by
  rw [normalizeChars_join (spelled_spaced h), tokens_spaced fun p hp => (h p hp).2]

/-- Marks stand behind tokens without a space. -/
theorem join_spaced_marks (ts : List Piece) (ms : List Char) :
    join (spaced (ts ++ ms.map mark)) = join (spaced ts) ++ ms := by
  induction ts with
  | nil =>
    induction ms with
    | nil => rfl
    | cons m ms ih => exact congrArg (m :: ·) ih
  | cons p ps ih =>
    have hhead : (ps ++ ms.map mark).head?.any isName = ps.head?.any isName := by
      cases ps with
      | nil => cases ms <;> rfl
      | cons q qs => rfl
    rw [List.cons_append, spaced, spaced, hhead, List.cons_append, List.cons_append, join_cons,
      join_cons, join_append, join_append, ih, List.append_assoc, List.append_assoc]

end Piece

end Bindery.Signature

/-!
## Keys of the table

A type may be spelled in many ways. Its key in the table is made of the tokens of the spelling: the
names have one space between them where they stand side by side, nothing stands beside a mark, and
one mark of the global scope is missing at the front. Blanks and words that are dropped leave no
trace, so spellings that differ in these only have one key and are described alike.
-/

namespace Bindery

open Bindery.Text Bindery.Signature Bindery.Signature.Piece

/-- Of marks of the global scope at the front the first one is removed. -/
theorem Signature.dropGlobalScope_eq (cs : List Char) :
    dropGlobalScope cs = if [':', ':'] <+: cs then cs.drop 2 else cs := by
  unfold dropGlobalScope
  split
  · next rest => rw [if_pos ⟨rest, rfl⟩, List.drop_succ_cons, List.drop_succ_cons, List.drop_zero]
  · next hother =>
    rw [if_neg]
    rintro ⟨rest, rfl⟩
    exact hother rest rfl

namespace TypeTable

/-- What is looked up does not depend on the spelling but on the key. -/
theorem search_congr {a b : String} (h : normalize a = normalize b) (t : TypeTable) (used : Nat)
    (index : NameIndex) : t.search used index a = t.search used index b := by
  have hchars : normalizeChars a.toList = normalizeChars b.toList := String.ofList_injective h
  have hfault : t.descentFault? used a.toList = t.descentFault? used b.toList := by
    rw [descentFault?.eq_def, descentFault?.eq_def t used b.toList, hchars]
  unfold search lookup
  rw [hfault, describe_congr hchars]

/-- The key of a spelling depends on its names and marks only: they stand in their order, with one
space between names that stand side by side and nothing beside marks, and without one mark of the
global scope at the front. So spellings with the same names and marks have the same key, the same
line of every table, and the same description. -/
theorem key_of_spelled {ps : List Piece} (h : Spelled ps) :
    let written := join (spaced (tokens ps))
    (normalize (String.ofList (join ps))).toList =
        (if [':', ':'] <+: written then written.drop 2 else written) ∧
      ∀ qs : List Piece, Spelled qs → tokens qs = tokens ps →
        normalize (String.ofList (join qs)) = normalize (String.ofList (join ps)) ∧
        ∀ t : TypeTable,
          t.find? (String.ofList (join qs)) = t.find? (String.ofList (join ps)) ∧
          ∀ used index, t.search used index (String.ofList (join qs)) =
            t.search used index (String.ofList (join ps)) := by
  intro written
  have hkey : ∀ qs : List Piece, Spelled qs → normalize (String.ofList (join qs)) =
      String.ofList (dropGlobalScope (join (spaced (tokens qs)))) := by
    intro qs hqs
    unfold Signature.normalize
    rw [String.toList_ofList, normalizeChars_join hqs]
  refine ⟨?_, fun qs hqs htokens => ?_⟩
  · rw [hkey ps h, String.toList_ofList, dropGlobalScope_eq]
  · have hsame : normalize (String.ofList (join qs)) = normalize (String.ofList (join ps)) := by
      rw [hkey qs hqs, hkey ps h, htokens]
    exact ⟨hsame, fun t => ⟨congrArg t.entry? hsame, fun _ _ => search_congr hsame t _ _⟩⟩

/-- Names that have dropped words as parts of theirs are kept, whatever stands between them. -/
theorem key_of_spelled_iterator :
    let name (text : String) : Piece := .name text.toList
    let dropped (text : String) : Piece := .dropped text.toList
    let spread : List Piece :=
      [.blank '\t', dropped "const", .blank ' ', .blank '\n', dropped "struct", .blank ' ',
        name "::ns::const_iterator", .blank ' ', dropped "volatile", .blank ' ',
        name "unionized", .blank ' ', .mark '*', dropped "const", .blank ' ', .mark '&',
        .blank ' ']
    let tight : List Piece :=
      [name "::ns::const_iterator", .blank ' ', name "unionized", .mark '*', .mark '&']
    Spelled spread ∧ Spelled tight ∧ tokens tight = tokens spread ∧
      normalize (String.ofList (join spread)) = "ns::const_iterator unionized*&" ∧
      normalize (String.ofList (join tight)) = normalize (String.ofList (join spread)) := by
  intro name dropped spread tight
  have hspread : Spelled spread := by decide +kernel
  have htight : Spelled tight := by decide +kernel
  have htokens : tokens tight = tokens spread := by decide +kernel
  obtain ⟨hkey, hsame⟩ := key_of_spelled hspread
  refine ⟨hspread, htight, htokens, ?_, (hsame tight htight htokens).1⟩
  rw [← String.toList_inj, hkey]
  decide +kernel

end TypeTable

end Bindery
