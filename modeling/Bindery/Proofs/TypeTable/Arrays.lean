import Bindery.Proofs.Header.Declarators
import Bindery.Proofs.TypeTable.Layers
import Mathlib.Data.List.TakeWhile

/-!
# Levels of arrays

Sizes in brackets behind a type are spelled normally on their own, and the type in front of them is
spelled as it is without them, up to blanks at its end. A search peels the last size off first, so
the last size becomes that of the outermost array; a declarator means the first one. The two agree
just if the sizes read the same from both ends.
-/

namespace Bindery

open Bindery.Text

namespace Signature

/-! ### Ends of a spelling -/

/-- Words end where no word character follows. -/
theorem mapWords_append_of_head {f : List Char → List Char} (cs : List Char) {rest : List Char}
    (hrest : ∀ c ∈ rest.head?, isWord c = false) :
    mapWords f (cs ++ rest) = mapWords f cs ++ mapWords f rest := by
  suffices hgo : ∀ word, mapWords.go f word (cs ++ rest) =
      mapWords.go f word cs ++ mapWords.go f [] rest from hgo []
  induction cs with
  | nil =>
    intro word
    cases rest with
    | nil => simp [mapWords.go]
    | cons c rest =>
      have hc : isWord c = false := hrest c rfl
      by_cases hword : word = [] <;> simp [mapWords.go, hc, hword]
  | cons c cs ih =>
    intro word
    by_cases hc : isWord c = true <;> by_cases hword : word = [] <;>
      simp [mapWords.go, hc, hword, ih]

/-- Of the blanks side by side the last one becomes a space. -/
theorem collapseBlanks_cons (c : Char) (cs : List Char) :
    collapseBlanks (c :: cs) =
      if isBlank c = true then
        if cs.head?.any isBlank = true then collapseBlanks cs else ' ' :: collapseBlanks cs
      else c :: collapseBlanks cs := by
  cases cs with
  | nil => rw [collapseBlanks.eq_def]; rfl
  | cons d cs => rw [collapseBlanks.eq_def]; rfl

/-- A run of blanks ends where no blank follows. -/
theorem collapseBlanks_append_of_head (cs : List Char) {rest : List Char}
    (hrest : ∀ c ∈ rest.head?, isBlank c = false) :
    collapseBlanks (cs ++ rest) = collapseBlanks cs ++ collapseBlanks rest := by
  induction cs with
  | nil => rfl
  | cons c cs ih =>
    have hhead : (cs ++ rest).head?.any isBlank = cs.head?.any isBlank := by
      cases cs with
      | nil => cases rest <;> simp_all
      | cons d cs => rfl
    rw [List.cons_append, collapseBlanks_cons, collapseBlanks_cons, hhead, ih]
    split_ifs <;> rfl

/-! ### Characters that are kept -/

/-- The characters of a text that are no blanks. -/
def solid (cs : List Char) : List Char :=
  cs.filter fun c => !isBlank c

theorem mem_solid_iff {c : Char} {cs : List Char} : c ∈ solid cs ↔ c ∈ cs ∧ isBlank c = false := by
  simp [solid]

theorem solid_cons (c : Char) (cs : List Char) :
    solid (c :: cs) = if isBlank c = true then solid cs else c :: solid cs := by
  unfold solid
  rw [List.filter_cons]
  cases isBlank c <;> rfl

theorem solid_append (cs ds : List Char) : solid (cs ++ ds) = solid cs ++ solid ds :=
  List.filter_append ..

theorem solid_eq_nil_iff {cs : List Char} : solid cs = [] ↔ ∀ c ∈ cs, isBlank c = true := by
  simp [solid]

theorem solid_collapseBlanks (cs : List Char) : solid (collapseBlanks cs) = solid cs := by
  induction cs with
  | nil => rfl
  | cons c cs ih =>
    rw [collapseBlanks_cons, solid_cons]
    split_ifs with hc
    · exact ih
    · rw [solid_cons, if_pos isBlank_space, ih]
    · rw [solid_cons, if_neg hc, ih]

theorem solid_tightenMarks (b : Bool) (cs : List Char) :
    solid (tightenMarks.go b cs) = solid cs := by
  induction cs generalizing b with
  | nil => rfl
  | cons c cs ih =>
    rw [tightenMarks.go, solid_cons]
    split_ifs with hc
    · exact ih true
    · exact ih false
    · rw [solid_cons, if_pos hc, ih]
    · rw [solid_cons, if_neg hc, ih]

/-- Characters between words are kept where words are replaced by words and blanks. -/
theorem mem_mapWords_iff {c : Char} (hword : isWord c = false) (hblank : isBlank c = false)
    (cs : List Char) : c ∈ mapWords blankQualifier cs ↔ c ∈ cs := by
  have hnot : ∀ word : List Char, (∀ d ∈ word, isWord d = true) →
      c ∉ blankQualifier word.reverse := by
    intro word hall hmem
    unfold blankQualifier at hmem
    split_ifs at hmem
    · rw [List.mem_singleton.1 hmem] at hblank
      exact absurd hblank (by decide)
    · have hc := hall c (List.mem_reverse.1 hmem)
      rw [hword] at hc
      cases hc
  suffices hgo : ∀ word : List Char, (∀ d ∈ word, isWord d = true) →
      (c ∈ mapWords.go blankQualifier word cs ↔ c ∈ cs) from hgo [] (List.forall_mem_nil _)
  induction cs with
  | nil =>
    intro word hall
    rw [mapWords.go]
    split_ifs
    · rfl
    · simp [hnot word hall]
  | cons d cs ih =>
    intro word hall
    rw [mapWords.go, List.mem_cons]
    split_ifs with hd hempty
    · have hne : c ≠ d := by
        rintro rfl
        rw [hword] at hd
        cases hd
      rw [ih _ (List.forall_mem_cons.2 ⟨hd, hall⟩)]
      simp [hne]
    · rw [List.mem_cons, ih [] (List.forall_mem_nil _)]
    · rw [List.mem_append, List.mem_cons, ih [] (List.forall_mem_nil _)]
      simp [hnot word hall]

theorem mem_dropGlobalScope_iff {c : Char} (hc : c ≠ ':') (cs : List Char) :
    c ∈ dropGlobalScope cs ↔ c ∈ cs := by
  fun_cases dropGlobalScope cs with
  | case1 cs => simp [hc]
  | case2 => rfl

/-! ### Blanks at the end -/

/-- A text is what is left of it without certain characters at its end, with these characters. -/
theorem exists_dropWhileEnd (p : Char → Bool) (cs : List Char) :
    ∃ back, (∀ c ∈ back, p c = true) ∧ cs = dropWhileEnd p cs ++ back := by
  refine ⟨(cs.reverse.takeWhile p).reverse, fun c hc => ?_, ?_⟩
  · exact List.mem_takeWhile_imp (List.mem_reverse.1 hc)
  · unfold dropWhileEnd
    rw [← List.reverse_append, List.takeWhile_append_dropWhile, List.reverse_reverse]

/-- A text is what is left of it without the blanks at its end, with these blanks. -/
theorem exists_blanks (cs : List Char) :
    ∃ bs, (∀ c ∈ bs, isBlank c = true) ∧ cs = stripEnd cs ++ bs :=
  exists_dropWhileEnd isBlank cs

section blanks

variable {bs : List Char} (hbs : ∀ c ∈ bs, isBlank c = true)
include hbs

theorem stripEnd_blanks : stripEnd bs = [] := by
  induction bs with
  | nil => rfl
  | cons c bs ih =>
    obtain ⟨hc, hbs⟩ := List.forall_mem_cons.1 hbs
    rw [stripEnd_cons, if_pos ⟨ih hbs, hc⟩]

theorem collapseBlanks_blanks : ∀ c ∈ collapseBlanks bs, isBlank c = true := by
  rw [← solid_eq_nil_iff, solid_collapseBlanks, solid_eq_nil_iff]
  exact hbs

/-- Blanks at the end are still at the end once they are collapsed. -/
theorem stripEnd_collapseBlanks_append (cs : List Char) :
    stripEnd (collapseBlanks (cs ++ bs)) = stripEnd (collapseBlanks cs) := by
  induction cs with
  | nil => exact stripEnd_blanks (collapseBlanks_blanks hbs)
  | cons c cs ih =>
    cases cs with
    | nil =>
      by_cases hc : isBlank c = true
      · have hone : ∀ d ∈ [c], isBlank d = true := List.forall_mem_singleton.2 hc
        have hall : ∀ d ∈ [c] ++ bs, isBlank d = true := List.forall_mem_append.2 ⟨hone, hbs⟩
        rw [stripEnd_blanks (collapseBlanks_blanks hall),
          stripEnd_blanks (collapseBlanks_blanks hone)]
      · rw [List.cons_append, collapseBlanks_cons, collapseBlanks_cons, if_neg hc, if_neg hc,
          stripEnd_cons, stripEnd_cons, ih]
    | cons d cs =>
      rw [List.cons_append, collapseBlanks_cons, collapseBlanks_cons]
      show stripEnd (if _ then if (some d).any isBlank = true then _ else _ else _) =
        stripEnd (if _ then if (some d).any isBlank = true then _ else _ else _)
      split_ifs
      · exact ih
      · rw [stripEnd_cons, stripEnd_cons, ih]
      · rw [stripEnd_cons, stripEnd_cons, ih]

/-- Blanks at the end are still at the end once blanks around marks are removed. -/
theorem stripEnd_tightenMarks_append (b : Bool) (cs : List Char) :
    stripEnd (tightenMarks.go b (cs ++ bs)) = stripEnd (tightenMarks.go b cs) := by
  induction cs generalizing b with
  | nil =>
    refine stripEnd_blanks (solid_eq_nil_iff.1 ?_)
    rw [List.nil_append, solid_tightenMarks, solid_eq_nil_iff]
    exact hbs
  | cons c cs ih =>
    have hnext : ((cs ++ bs).dropWhile isBlank).head?.any isMark =
        (cs.dropWhile isBlank).head?.any isMark := by
      rw [List.dropWhile_append]
      split_ifs with hempty
      · rw [List.isEmpty_iff.1 hempty, List.dropWhile_eq_nil_iff.2 hbs]
      · rw [List.head?_append_of_ne_nil _ (by simpa using hempty)]
    rw [List.cons_append, tightenMarks.go, tightenMarks.go, hnext]
    split_ifs
    · exact ih true
    · exact ih false
    · rw [stripEnd_cons, stripEnd_cons, ih]
    · rw [stripEnd_cons, stripEnd_cons, ih]

/-- Blanks at the end of a spelling do not matter. -/
theorem normalizeChars_append_blanks (cs : List Char) :
    normalizeChars (cs ++ bs) = normalizeChars cs := by
  have hhead : ∀ c ∈ bs.head?, isWord c = false := fun c hc =>
    DeclaratorMark.isWord_of_isBlank (hbs c (List.mem_of_head? hc))
  have hkept : mapWords blankQualifier bs = bs := by
    have hnil := mapWords_append_of_not_isWord (f := blankQualifier)
      (fun c hc => DeclaratorMark.isWord_of_isBlank (hbs c hc)) []
    simpa [mapWords, mapWords.go] using hnil
  unfold normalizeChars
  rw [mapWords_append_of_head cs hhead, hkept, tightenMarks_strip, tightenMarks_strip,
    stripEnd_collapseBlanks_append hbs]

end blanks

theorem solid_stripEnd (cs : List Char) : solid (stripEnd cs) = solid cs := by
  obtain ⟨bs, hbs, hcs⟩ := exists_blanks cs
  conv_rhs => rw [hcs, solid_append, solid_eq_nil_iff.2 hbs, List.append_nil]

/-- What is neither in words nor a blank nor a colon is kept in the normal spelling. -/
theorem mem_normalizeChars_iff {c : Char} (hword : isWord c = false) (hblank : isBlank c = false)
    (hcolon : c ≠ ':') (cs : List Char) : c ∈ normalizeChars cs ↔ c ∈ cs := by
  have hsolid : ∀ cs ds : List Char, solid cs = solid ds → (c ∈ cs ↔ c ∈ ds) := by
    intro cs ds heq
    have hmem : c ∈ solid cs ↔ c ∈ solid ds := by rw [heq]
    simpa [mem_solid_iff, hblank] using hmem
  unfold normalizeChars
  rw [mem_dropGlobalScope_iff hcolon, tightenMarks_strip, hsolid _ _ (solid_tightenMarks _ _),
    hsolid _ _ (solid_stripEnd _), hsolid _ _ (solid_collapseBlanks _),
    mem_mapWords_iff hword hblank]

theorem normalizeChars_stripEnd (cs : List Char) :
    normalizeChars (stripEnd cs) = normalizeChars cs := by
  obtain ⟨bs, hbs, hcs⟩ := exists_blanks cs
  have happend := normalizeChars_append_blanks hbs (stripEnd cs)
  rwa [← hcs, eq_comm] at happend

/-! ### Sizes behind a spelling -/

theorem getLast?_stripEnd (cs : List Char) : ∀ c ∈ (stripEnd cs).getLast?, isBlank c = false := by
  intro c hc
  unfold stripEnd dropWhileEnd at hc
  rw [List.getLast?_reverse] at hc
  have hhead := List.head?_dropWhile_not isBlank cs.reverse
  rw [hc] at hhead
  simpa using hhead

/-- The last character stays the last one if it is no blank. -/
theorem exists_tightenMarks_concat {c : Char} (hc : isBlank c = false) (b : Bool)
    (cs : List Char) : ∃ front, tightenMarks.go b (cs ++ [c]) = front ++ [c] := by
  induction cs generalizing b with
  | nil =>
    refine ⟨[], ?_⟩
    rw [List.nil_append, tightenMarks.go, if_neg (by simp [hc])]
    rfl
  | cons d cs ih =>
    rw [List.cons_append, tightenMarks.go]
    split_ifs
    · exact ih true
    · exact ih false
    · obtain ⟨front, hfront⟩ := ih false
      exact ⟨d :: front, by rw [hfront, List.cons_append]⟩
    · obtain ⟨front, hfront⟩ := ih (isMark d)
      exact ⟨d :: front, by rw [hfront, List.cons_append]⟩

/-- Blanks are removed at the end and around marks in either order. -/
theorem stripEnd_tightenMarks (b : Bool) (cs : List Char) :
    stripEnd (tightenMarks.go b cs) = tightenMarks.go b (stripEnd cs) := by
  obtain ⟨bs, hbs, hcs⟩ := exists_blanks cs
  conv_lhs => rw [hcs, stripEnd_tightenMarks_append hbs]
  refine stripEnd_of_last ?_
  obtain hnil | ⟨front, c, hfront⟩ := List.eq_nil_or_concat (stripEnd cs)
  · rw [hnil]
    exact fun c hc => nomatch hc
  · have hc : isBlank c = false := getLast?_stripEnd cs c (by simp [hfront])
    obtain ⟨front', hfront'⟩ := exists_tightenMarks_concat hc b front
    rw [hfront, List.concat_eq_append, hfront', List.getLast?_concat]
    intro d hd
    rwa [← Option.some.inj hd]

theorem stripEnd_dropGlobalScope (cs : List Char) :
    stripEnd (dropGlobalScope cs) = dropGlobalScope (stripEnd cs) := by
  have hcolon : isBlank ':' = false := by decide
  fun_cases dropGlobalScope cs with
  | case1 cs =>
    rw [stripEnd_cons_of_not_isBlank hcolon, stripEnd_cons_of_not_isBlank hcolon]
    rfl
  | case2 cs hplain =>
    obtain ⟨bs, hbs, hcs⟩ := exists_blanks cs
    unfold dropGlobalScope
    split
    · next rest hrest =>
      rw [hrest] at hcs
      exact (hplain (rest ++ bs) hcs).elim
    · rfl

/-- Blanks around marks end where neither a blank nor a mark follows. -/
theorem tightenMarks_append_of_head {rest : List Char}
    (hrest : ∀ c ∈ rest.head?, isBlank c = false ∧ isMark c = false)
    (hkept : ∀ b, tightenMarks.go b rest = rest) (b : Bool) (cs : List Char) :
    tightenMarks.go b (cs ++ rest) = tightenMarks.go b cs ++ rest := by
  induction cs generalizing b with
  | nil => exact hkept b
  | cons c cs ih =>
    have hnext : ((cs ++ rest).dropWhile isBlank).head?.any isMark =
        (cs.dropWhile isBlank).head?.any isMark := by
      rw [List.dropWhile_append]
      split_ifs with hempty
      · rw [List.isEmpty_iff.1 hempty]
        cases rest with
        | nil => rfl
        | cons d rest =>
          obtain ⟨hblank, hmark⟩ := hrest d rfl
          rw [List.dropWhile_cons_of_neg (by simp [hblank])]
          exact hmark
      · rw [List.head?_append_of_ne_nil _ (by simpa using hempty)]
    rw [List.cons_append, tightenMarks.go, tightenMarks.go, hnext]
    split_ifs
    · exact ih true
    · exact ih false
    · rw [ih false, List.cons_append]
    · rw [ih (isMark c), List.cons_append]

open DeclaratorMark

/-- Sizes in brackets. -/
def brackets (words : List (List Char)) : List Char :=
  row (words.map size)

theorem brackets_concat (words : List (List Char)) (word : List Char) :
    brackets (words ++ [word]) = brackets words ++ (size word).text := by
  unfold brackets
  rw [List.map_append, List.map_singleton, row_concat]

theorem head?_brackets (words : List (List Char)) : ∀ c ∈ (brackets words).head?, c = '[' := by
  cases words with
  | nil => exact fun c hc => nomatch hc
  | cons word words => exact fun c hc => (Option.some.inj hc).symm

theorem getLast?_append_brackets (cs : List Char) {words : List (List Char)} (hne : words ≠ []) :
    (cs ++ brackets words).getLast? = some ']' := by
  obtain rfl | ⟨front, word, rfl⟩ := List.eq_nil_or_concat words
  · exact absurd rfl hne
  · rw [List.concat_eq_append, brackets_concat]
    show (cs ++ (brackets front ++ ('[' :: (word ++ [']'])))).getLast? = some ']'
    rw [← List.cons_append, ← List.append_assoc, ← List.append_assoc, List.getLast?_concat]

/-- Behind a spelling, sizes are spelled normally on their own, and what stands in front of them is
its normal spelling up to blanks at the end. -/
theorem exists_normalizeChars_brackets (cs : List Char) {words : List (List Char)}
    (hne : words ≠ []) (hfits : ∀ word ∈ words, (size word).Fits) :
    ∃ front, stripEnd front = normalizeChars cs ∧
      normalizeChars (cs ++ brackets words) =
        front ++ brackets (words.map blankQualifier) := by
  have hms : ∀ m ∈ words.map size, m.Fits := by simpa using hfits
  have hnormal : (words.map size).map normal = (words.map blankQualifier).map size := by
    rw [List.map_map, List.map_map]
    rfl
  have hwords : mapWords blankQualifier (brackets words) = brackets (words.map blankQualifier) := by
    unfold brackets
    rw [mapWords_row hms, hnormal]
  have hblanks : collapseBlanks (brackets (words.map blankQualifier)) =
      brackets (words.map blankQualifier) := by
    unfold brackets
    rw [← hnormal, collapseBlanks_row (forall_fits_normal hms)]
  have hmarks : ∀ b, tightenMarks.go b (brackets (words.map blankQualifier)) =
      brackets (words.map blankQualifier) := by
    unfold brackets
    rw [← hnormal]
    exact tightenMarks_row (forall_fits_normal hms)
  have hhead {p : Char → Prop} (hopen : p '[') (words : List (List Char)) :
      ∀ c ∈ (brackets words).head?, p c := by
    intro c hc
    rwa [head?_brackets words c hc]
  have hne : words.map blankQualifier ≠ [] := by simpa
  have hlast := getLast?_append_brackets (collapseBlanks (mapWords blankQualifier cs)) hne
  refine ⟨dropGlobalScope (tightenMarks.go true (collapseBlanks (mapWords blankQualifier cs))),
    ?_, ?_⟩
  · rw [stripEnd_dropGlobalScope, stripEnd_tightenMarks, normalizeChars, tightenMarks_strip]
  · rw [normalizeChars, tightenMarks_strip, mapWords_append_of_head cs (hhead (by decide) words),
      hwords, collapseBlanks_append_of_head _ (hhead (by decide) _), hblanks,
      stripEnd_of_last fun c hc => by rw [hlast] at hc; cases hc; decide,
      tightenMarks_append_of_head (hhead (by decide) _) hmarks,
      TypeTable.dropGlobalScope_append _ (hhead (by decide) _)]

end Signature

namespace TypeTable

open Bindery.Signature Bindery.DeclaratorMark
open scoped Bindery.Initializer

variable {index : NameIndex} {cs : List Char} {words : List (List Char)}

/-! ### Descriptions with sizes -/

instance (core : List Char) : Decidable (IsCore core) :=
  decidable_of_iff ((∀ c ∈ core, isWord c = true) ∧ blankQualifier core = core)
    ⟨fun ⟨word, kept⟩ => ⟨word, kept⟩, fun ⟨word, kept⟩ => ⟨word, kept⟩⟩

/-- A size as type expressions show it. -/
def shownSize (word : List Char) : String :=
  let size := strip (blankQualifier word)
  if size.isEmpty then "0" else String.ofList size

/-- A qualifier in brackets is as good as a blank. -/
theorem shownSize_blankQualifier (word : List Char) :
    shownSize (blankQualifier word) = shownSize word := by
  have hkept : blankQualifier (blankQualifier word) = blankQualifier word := by
    by_cases hqualifier : qualifiers.contains (String.ofList word) = true
    · rw [show blankQualifier word = [' '] from if_pos hqualifier]
      decide
    · rw [show blankQualifier word = word from if_neg hqualifier]
      exact if_neg hqualifier
  rw [shownSize, shownSize, hkept]

/-- Arrays around a type expression, the first size innermost. -/
def arraysAround (t : ForeignType) (sizes : List String) : ForeignType :=
  sizes.foldl .array t

/-- An array of what a type expression stands for; an array of nothing is an untyped pointer. -/
def arrayOver (item : ForeignType) (size : String) : ForeignType :=
  if item.isVoid then .basic "c_void_p" else .array item size

/-- What sizes behind a type make of its type expression, the first size innermost. -/
def arraysOver (t : ForeignType) (sizes : List String) : ForeignType :=
  sizes.foldl arrayOver t

/-- The characters of an array. Comparing a literal with `++` is slow, so the parts are variables
where they are taken apart. -/
theorem toList_text_array (item : ForeignType) (size : String) :
    (ForeignType.array item size).text.toList =
      '(' :: (item.text.toList ++ (" * ".toList ++ (size.toList ++ ")".toList))) := by
  have hparts (a b c d e : String) : (a ++ b ++ c ++ d ++ e).toList =
      a.toList ++ (b.toList ++ (c.toList ++ (d.toList ++ e.toList))) := by
    simp only [String.toList_append, List.append_assoc]
  exact hparts "(" item.text " * " size ")"

theorem isVoid_array (item : ForeignType) (size : String) :
    (ForeignType.array item size).isVoid = false := by
  refine beq_false_of_ne fun htext => ?_
  have hchars := toList_text_array item size
  rw [Option.some.inj htext] at hchars
  cases hchars

theorem arraysOver_eq {t : ForeignType} (h : t.isVoid = false) (sizes : List String) :
    arraysOver t sizes = arraysAround t sizes := by
  unfold arraysOver arraysAround
  induction sizes generalizing t with
  | nil => rfl
  | cons size sizes ih =>
    have hitem : arrayOver t size = .array t size := if_neg (by simp [h])
    rw [List.foldl_cons, List.foldl_cons, hitem]
    exact ih (isVoid_array t size)

/-- Of an array of nothing only the sizes behind the first one are left. -/
theorem arraysOver_cons_of_isVoid {t : ForeignType} (h : t.isVoid = true) (size : String)
    (sizes : List String) :
    arraysOver t (size :: sizes) = arraysAround (.basic "c_void_p") sizes := by
  have hitem : arrayOver t size = .basic "c_void_p" := if_pos h
  have hsizes := arraysOver_eq (t := .basic "c_void_p") rfl sizes
  unfold arraysOver at hsizes ⊢
  rw [List.foldl_cons, hitem, hsizes]

theorem foreignType_arrayOf (inner : Descriptor) (native word : List Char) :
    (arrayOf native (strip (blankQualifier word)) inner).foreignType =
      arrayOver inner.foreignType (shownSize word) := by
  unfold arrayOf arrayOver
  rw [Descriptor.isVoid]
  cases inner.foreignType.isVoid <;> rfl

theorem not_mem_brackets (hfits : ∀ word ∈ words, (size word).Fits) : '(' ∉ brackets words := by
  intro hmem
  obtain ⟨m, hm, hcall⟩ := List.mem_flatMap.1 hmem
  obtain ⟨word, hword, rfl⟩ := List.mem_map.1 hm
  exact (hfits word hword).not_mem_call hcall

/-- A type with a size at its end that is no call is an array. -/
theorem shape_append_size {item word : List Char} (hcall : '(' ∉ item) (hfits : (size word).Fits) :
    standard.shape (item ++ (size word).text) = .array (stripEnd item) (strip word) := by
  rcases shape_concat_size (t := standard) item hfits with ⟨d, -, hline, -⟩ | ⟨hmem, -⟩ | hshape
  · have hnone : standard.entry? (String.ofList (item ++ (size word).text)) = none :=
      entry?_of_other (c := '[') (List.mem_append_right _ (List.mem_cons_self ..)) (by decide)
    rw [hnone] at hline
    cases hline
  · exact absurd hmem hcall
  · exact hshape

/-- Each size behind a type takes one place and is an array around those in front of it. -/
theorem describe_brackets (index : NameIndex)
    (hspelled : normalizeChars (normalizeChars cs) = normalizeChars cs)
    (hcall : '(' ∉ cs) (hfits : ∀ word ∈ words, (size word).Fits) :
    standard.depth (cs ++ brackets words) = standard.depth cs + words.length ∧
      (standard.describe index (cs ++ brackets words)).foreignType =
        arraysOver (standard.describe index cs).foreignType (words.map shownSize) := by
  induction hn : words.length generalizing cs words with
  | zero =>
    rw [List.length_eq_zero_iff.1 hn, show brackets [] = [] from rfl, List.append_nil]
    exact ⟨rfl, rfl⟩
  | succ n ih =>
    obtain rfl | ⟨front, word, rfl⟩ := List.eq_nil_or_concat words
    · cases hn
    rw [List.concat_eq_append] at *
    obtain ⟨stem, hstem, hnormal⟩ := exists_normalizeChars_brackets cs (by simp) hfits
    obtain ⟨hfront, hword⟩ := List.forall_mem_append.1 hfits
    have hfront' : ∀ word ∈ front.map blankQualifier, (size word).Fits := by
      intro w hw
      obtain ⟨w', hw', rfl⟩ := List.mem_map.1 hw
      exact fits_normal (hfront w' hw')
    have hword' : (size (blankQualifier word)).Fits :=
      fits_normal (hword word (List.mem_singleton_self _))
    -- the type in front of the last size is spelled with a stem that is as good as `cs`
    have hsame : normalizeChars stem = normalizeChars cs := by
      rw [← normalizeChars_stripEnd, hstem, hspelled]
    have hstemcall : '(' ∉ stem := by
      rw [← mem_normalizeChars_iff (by decide) (by decide) (by decide), hsame,
        mem_normalizeChars_iff (by decide) (by decide) (by decide)]
      exact hcall
    have hdescribe : standard.describe index stem = standard.describe index cs :=
      describe_congr hsame
    obtain ⟨hdepth, htype⟩ := ih (by rw [hsame, hspelled]) hstemcall hfront' (by simpa using hn)
    have hshape : standard.shape (normalizeChars (cs ++ brackets (front ++ [word]))) =
        .array (stripEnd (stem ++ brackets (front.map blankQualifier)))
          (strip (blankQualifier word)) := by
      rw [hnormal, List.map_append, List.map_singleton, brackets_concat, ← List.append_assoc]
      refine shape_append_size ?_ hword'
      simp [hstemcall, not_mem_brackets hfront']
    have hitem := normalizeChars_stripEnd (stem ++ brackets (front.map blankQualifier))
    constructor
    · rw [depth_eq, hshape]
      dsimp only
      rw [depth_congr hitem, hdepth, depth_congr hsame, Nat.add_assoc]
    · rw [describe_eq, hshape]
      dsimp only
      rw [describe_congr hitem, foreignType_arrayOf, htype, hdescribe]
      simp [arraysOver, Function.comp_def, shownSize_blankQualifier]

/-! ### Sizes of a description -/

theorem arrayParts?_of_shape_array {t : TypeTable} {native item size : List Char}
    (h : t.shape native = .array item size) : arrayParts? native = some (item, size) := by
  unfold shape at h
  split at h
  · cases h
  · split_ifs at h
    split at h
    · next hparts =>
      cases h
      exact hparts
    · split at h <;> cases h

theorem isWord_of_shape_array {t : TypeTable} {native item size : List Char}
    (h : t.shape native = .array item size) : ∀ c ∈ size, isWord c = true := by
  have hparts := arrayParts?_of_shape_array h
  unfold arrayParts? at hparts
  split at hparts
  · dsimp only at hparts
    split at hparts
    · split_ifs at hparts with hall
      cases hparts
      exact List.all_eq_true.1 hall
    · cases hparts
  · cases hparts

/-- The sizes of a description are words. -/
theorem isWord_of_mem_sizes (index : NameIndex) (signature : List Char) :
    ∀ size ∈ (standard.describe index signature).foreignType.sizes,
      ∀ c ∈ size.toList, isWord c = true := by
  have hline : ∀ d ∈ builtins, d.foreignType.sizes = [] := by
    intro d hd
    rcases foreignType_builtin hd with hnothing | ⟨name, -, hbasic⟩
    · rw [hnothing]
      rfl
    · rw [hbasic]
      rfl
  fun_induction standard.describe index signature with
  | case1 signature native d hs =>
    rw [hline d (mem_entries_of_shape (.inl hs))]
    exact List.forall_mem_nil _
  | case2 signature native hs => exact List.forall_mem_nil _
  | case3 signature native target hs ih =>
    rcases pointTo_cases native (standard.describe index target) with huntyped | ⟨-, htyped⟩
    · rw [huntyped]
      exact List.forall_mem_nil _
    · rw [htyped]
      exact ih
  | case4 signature native item size hs ih =>
    unfold arrayOf
    split_ifs with hvoid hempty
    · exact List.forall_mem_nil _
    · exact List.forall_mem_cons.2 ⟨by decide, ih⟩
    · refine List.forall_mem_cons.2 ⟨?_, ih⟩
      rw [String.toList_ofList]
      exact isWord_of_shape_array hs
  | case5 signature native d hs =>
    have hshape : standard.shape native = .known d ∨ standard.shape native = .template d := .inr hs
    show ∀ size ∈ d.foreignType.sizes, _
    rw [hline d (mem_entries_of_shape hshape)]
    exact List.forall_mem_nil _
  | case6 signature native hs =>
    have hnone : (referTo index native).foreignType.sizes = [] := by
      unfold referTo
      dsimp only
      split
      · split <;> rfl
      · rfl
    rw [hnone]
    exact List.forall_mem_nil _

theorem sizes_arraysAround (t : ForeignType) (sizes : List String) :
    (arraysAround t sizes).sizes = sizes.reverse ++ t.sizes := by
  induction sizes using List.reverseRecOn with
  | nil => rfl
  | append_singleton sizes size ih =>
    rw [arraysAround, List.foldl_append, List.reverse_append]
    exact congrArg (size :: ·) ih

/-- Arrays around a type expression differ if their sizes do. -/
theorem arraysAround_inj {t : ForeignType} {sizes others : List String}
    (h : arraysAround t sizes = arraysAround t others) : sizes = others := by
  have hsizes := congrArg ForeignType.sizes h
  rw [sizes_arraysAround, sizes_arraysAround] at hsizes
  exact List.reverse_injective (List.append_cancel_right hsizes)

/-! ### Sizes behind a declared name -/

/-- A size as a declarator gives it; where it gives none, the array has no items. -/
def givenSize (size : String) : String :=
  if size = "" then "0" else size

/-- The arrays that sizes behind a declared name mean, the first one outermost. -/
def declaredArrays (t : ForeignType) (sizes : List String) : ForeignType :=
  sizes.foldr (fun size item => .array item (givenSize size)) t

theorem declaredArrays_eq (t : ForeignType) (sizes : List String) :
    declaredArrays t sizes = arraysAround t (sizes.map givenSize).reverse := by
  rw [declaredArrays, arraysAround, List.foldl_reverse, List.foldr_map]

theorem shownSize_of_isCore {size : String} (h : IsCore size.toList) :
    shownSize size.toList = givenSize size := by
  have hstrip : strip size.toList = size.toList :=
    strip_of_ends (fun c hc => isBlank_of_isWord (h.word c (List.mem_of_head? hc)))
      fun c hc => isBlank_of_isWord (h.word c (List.mem_of_getLast? hc))
  unfold shownSize givenSize
  rw [h.kept, hstrip]
  simp

/-- Sizes that are words take one place each and are arrays around the type in front of them. -/
theorem describe_sizes (index : NameIndex) {base : List Char} {sizes : List String}
    (hspelled : normalizeChars (normalizeChars base) = normalizeChars base) (hcall : '(' ∉ base)
    (hcore : ∀ size ∈ sizes, IsCore size.toList) :
    standard.depth (base ++ brackets (sizes.map String.toList)) =
        standard.depth base + sizes.length ∧
      (standard.describe index (base ++ brackets (sizes.map String.toList))).foreignType =
        arraysOver (standard.describe index base).foreignType (sizes.map givenSize) := by
  have hfits : ∀ word ∈ sizes.map String.toList, (size word).Fits := by
    intro word hmem
    obtain ⟨size, hsize, rfl⟩ := List.mem_map.1 hmem
    exact .inl (hcore size hsize).word
  obtain ⟨hdepth, hdescribe⟩ := describe_brackets index hspelled hcall hfits
  have hshown : sizes.map (shownSize ∘ String.toList) = sizes.map givenSize := by
    refine List.map_congr_left fun size hsize => ?_
    rw [Function.comp_apply, shownSize_of_isCore (hcore size hsize)]
  rw [hdepth, hdescribe, List.map_map, List.length_map, hshown]
  exact ⟨rfl, rfl⟩

/-- No qualifier is shown as a size. -/
theorem kept_shownSize {word : List Char} (h : ∀ c ∈ word, isWord c = true) :
    blankQualifier (shownSize word).toList = (shownSize word).toList := by
  have hzero : blankQualifier "0".toList = "0".toList := by decide
  unfold shownSize
  by_cases hqualifier : qualifiers.contains (String.ofList word) = true
  · rw [show blankQualifier word = [' '] from if_pos hqualifier]
    exact hzero
  · have hkept : blankQualifier word = word := if_neg hqualifier
    have hstrip : strip word = word :=
      strip_of_ends (fun c hc => isBlank_of_isWord (h c (List.mem_of_head? hc)))
        fun c hc => isBlank_of_isWord (h c (List.mem_of_getLast? hc))
    dsimp only
    rw [hkept, hstrip]
    split_ifs
    · exact hzero
    · rw [String.toList_ofList, hkept]

theorem toList_sizes (sizes : List String) :
    (String.join (sizes.map fun size => "[" ++ size ++ "]")).toList =
      brackets (sizes.map String.toList) := by
  rw [String.toList_join]
  simp [brackets, row, text, List.flatMap_map]

/-- Sizes behind a declared name are spelled as they are declared. -/
theorem suffix_of_sizes {source : Source} {c : SyntaxNode} {sizes : List String}
    (h : Declarator.Declares source c (sizes.map .array)) :
    (Declarator.unwrap source c).function = none ∧
      (Declarator.unwrap source c).suffix =
        String.join (sizes.map fun size => "[" ++ size ++ "]") ∧
      (Declarator.unwrap source c).suffix.toList = brackets (sizes.map String.toList) := by
  obtain ⟨hnone, -, hsuffix⟩ := h.suffix_unwrap (by simp)
  have hmarks : TypePart.marks (sizes.map .array) = (sizes.map String.toList).map size := by
    simp [TypePart.marks, Function.comp_def]
  have hchars : (Declarator.unwrap source c).suffix.toList =
      brackets (sizes.map String.toList) := by
    rw [hsuffix, String.toList_ofList, hmarks, brackets]
  refine ⟨hnone, String.toList_injective ?_, hchars⟩
  rw [hchars, toList_sizes]

theorem shape_of_call {native : List Char} (h : '(' ∈ native) :
    standard.shape native = .function := by
  unfold shape
  rw [entry?_of_other h (by decide), List.contains_iff_mem.2 h]
  rfl

/-- A description of declared arrays shows that the type is no function, and that the sizes are
words that are kept. -/
theorem of_declaredArrays {t : ForeignType} {base : List Char} {sizes : List String}
    (hspelled : normalizeChars (normalizeChars base) = normalizeChars base)
    (ht : (standard.describe index base).foreignType = t) (hvoid : t.isVoid = false)
    (hne : sizes ≠ [])
    (h : (standard.describe index (base ++ brackets (sizes.map String.toList))).foreignType =
      declaredArrays t sizes) :
    '(' ∉ base ∧ (∀ size ∈ sizes, IsCore size.toList) ∧
      (sizes.map givenSize).reverse = sizes.map givenSize := by
  have hcall : '(' ∉ base := by
    intro hmem
    have hnormal : '(' ∈ normalizeChars (base ++ brackets (sizes.map String.toList)) := by
      rw [mem_normalizeChars_iff (by decide) (by decide) (by decide)]
      exact List.mem_append_left _ hmem
    rw [describe_eq, shape_of_call hnormal] at h
    obtain ⟨size, rest, rfl⟩ := List.exists_cons_of_ne_nil hne
    cases h
  have hword : ∀ size ∈ sizes, ∀ c ∈ size.toList, isWord c = true := by
    intro size hsize c hc
    have hgiven : givenSize size = size := by
      refine if_neg fun hempty => ?_
      rw [hempty] at hc
      cases hc
    refine isWord_of_mem_sizes index (base ++ brackets (sizes.map String.toList)) size ?_
      c hc
    rw [h, declaredArrays_eq, sizes_arraysAround, List.reverse_reverse]
    exact List.mem_append_left _ (List.mem_map.2 ⟨size, hsize, hgiven⟩)
  have hfits : ∀ word ∈ sizes.map String.toList, (size word).Fits := by
    intro word hmem
    obtain ⟨s, hs, rfl⟩ := List.mem_map.1 hmem
    exact .inl (hword s hs)
  have hdescribe := (describe_brackets index hspelled hcall hfits).2
  rw [h, ht, arraysOver_eq hvoid, declaredArrays_eq, List.map_map] at hdescribe
  have hshown : (sizes.map givenSize).reverse = sizes.map (shownSize ∘ String.toList) :=
    arraysAround_inj hdescribe
  have hcore : ∀ size ∈ sizes, IsCore size.toList := by
    intro size hsize
    refine ⟨hword size hsize, ?_⟩
    have hmem : givenSize size ∈ (sizes.map givenSize).reverse :=
      List.mem_reverse.2 (List.mem_map_of_mem hsize)
    rw [hshown] at hmem
    obtain ⟨other, hother, heq⟩ := List.mem_map.1 hmem
    rw [Function.comp_apply] at heq
    by_cases hempty : size = ""
    · rw [hempty]
      exact isCore_nil.kept
    · have hkept := kept_shownSize (hword other hother)
      rwa [heq, givenSize, if_neg hempty] at hkept
  refine ⟨hcall, hcore, hshown.trans ?_⟩
  refine List.map_congr_left fun size hsize => ?_
  rw [Function.comp_apply, shownSize_of_isCore (hcore size hsize)]

/-- Sizes that are declared behind a type are peeled off from the end, so the last one becomes
outermost where the declarator means the first one to be. The search comes to the type that is meant
just if there is room, the type is no function, each size is a word or nothing, and the sizes read
the same from both ends. -/
theorem search_arrays_iff {used : Nat} {base : String} {inner : Descriptor} {source : Source}
    {c : SyntaxNode} {sizes : List String} (hbase : standard.search used index base = .ok inner)
    (hvoid : inner.isVoid = false)
    (hspelled : Signature.normalize (Signature.normalize base) = Signature.normalize base)
    (hdeclares : Declarator.Declares source c (sizes.map .array)) (hne : sizes ≠ []) :
    let suffix := (Declarator.unwrap source c).suffix
    let room := used + standard.depth base.toList + sizes.length + 5 < DescentFault.room
    ((Declarator.unwrap source c).function = none ∧
      suffix = String.join (sizes.map fun size => "[" ++ size ++ "]")) ∧
    (room → '(' ∉ base.toList → (∀ size ∈ sizes, IsCore size.toList) → ∃ d,
      standard.search used index (base ++ suffix) = .ok d ∧
        d.foreignType = arraysAround inner.foreignType (sizes.map givenSize)) ∧
    ((∃ d, standard.search used index (base ++ suffix) = .ok d ∧
        d.foreignType = declaredArrays inner.foreignType sizes) ↔
      room ∧ '(' ∉ base.toList ∧ (∀ size ∈ sizes, IsCore size.toList) ∧
        (sizes.map givenSize).reverse = sizes.map givenSize) := by
  intro suffix room
  obtain ⟨hnone, hjoin, hchars⟩ := suffix_of_sizes hdeclares
  have htype : (base ++ suffix).toList = base.toList ++ brackets (sizes.map String.toList) := by
    rw [String.toList_append, hchars]
  have hinner : standard.describe index base.toList = inner := (eq_lookup_of_search hbase).symm
  have hstable : normalizeChars (normalizeChars base.toList) = normalizeChars base.toList := by
    have hchars := congrArg String.toList hspelled
    simpa only [Signature.normalize, String.toList_ofList] using hchars
  have harrays (hcall : '(' ∉ base.toList) (hcore : ∀ size ∈ sizes, IsCore size.toList) :
      standard.depth (base ++ suffix).toList = standard.depth base.toList + sizes.length ∧
        (standard.describe index (base ++ suffix).toList).foreignType =
          arraysAround inner.foreignType (sizes.map givenSize) := by
    have hsizes := describe_sizes index hstable hcall hcore
    rwa [hinner, arraysOver_eq hvoid, ← htype] at hsizes
  have hsearch (hroom : room) (hcall : '(' ∉ base.toList)
      (hcore : ∀ size ∈ sizes, IsCore size.toList) : ∃ d,
      standard.search used index (base ++ suffix) = .ok d ∧
        d.foreignType = arraysAround inner.foreignType (sizes.map givenSize) := by
    obtain ⟨hdepth, hdescribe⟩ := harrays hcall hcore
    refine ⟨_, search_eq_ok ?_, hdescribe⟩
    rw [hdepth, ← Nat.add_assoc]
    exact hroom
  refine ⟨⟨hnone, hjoin⟩, hsearch, ?_, ?_⟩
  · rintro ⟨d, hd, hmeant⟩
    have hlookup := eq_lookup_of_search hd
    rw [hlookup, lookup, htype] at hmeant
    obtain ⟨hcall, hcore, hsame⟩ :=
      of_declaredArrays hstable (by rw [hinner]) hvoid hne hmeant
    refine ⟨?_, hcall, hcore, hsame⟩
    have hroom := exists_search_iff.1 ⟨d, hd⟩
    rw [(harrays hcall hcore).1] at hroom
    omega
  · rintro ⟨hroom, hcall, hcore, hsame⟩
    obtain ⟨d, hd, hfound⟩ := hsearch hroom hcall hcore
    refine ⟨d, hd, ?_⟩
    rw [hfound, declaredArrays_eq, hsame]

/-! ### A plane and a space -/

/-- A header with an array in three directions. -/
def gridSource : Source :=
  "int a[2][3][2];".toUTF8.toList

/-- The declarator of the array without its last size. -/
def planeDeclarator : SyntaxNode :=
  ruleNode "array_declarator" 4 11 (some "declarator")
    [ruleNode "array_declarator" 4 8 (some "declarator")
        [ruleNode "identifier" 4 5 (some "declarator") [],
          ruleNode "number_literal" 6 7 (some "size") []],
      ruleNode "number_literal" 9 10 (some "size") []]

/-- The declarator of the array. -/
def gridDeclarator : SyntaxNode :=
  ruleNode "array_declarator" 4 14 (some "declarator")
    [planeDeclarator, ruleNode "number_literal" 12 13 (some "size") []]

/-- The sizes that stand in the header. -/
theorem sizes_gridSource :
    [ruleNode "number_literal" 6 7 (some "size") [],
      ruleNode "number_literal" 9 10 (some "size") [],
      ruleNode "number_literal" 12 13 (some "size") []].map (fun n => gridSource.textOf (some n)) =
        ["2", "3", "2"] := by
  decide +kernel

theorem declares_plane :
    Declarator.Declares gridSource planeDeclarator (["2", "3"].map .array) := by
  obtain ⟨hfirst, hsecond, -⟩ : _ = "2" ∧ _ = "3" ∧ _ := by simpa using sizes_gridSource
  rw [← hfirst, ← hsecond]
  show Declarator.Declares _ _ (([] ++ [.array _]) ++ [.array _])
  exact .array rfl rfl (.array rfl rfl (.name (.inl rfl)))

theorem declares_grid :
    Declarator.Declares gridSource gridDeclarator (["2", "3", "2"].map .array) := by
  obtain ⟨-, -, hlast⟩ : _ ∧ _ ∧ _ = "2" := by simpa using sizes_gridSource
  have hgrid : Declarator.Declares gridSource gridDeclarator
      (["2", "3"].map .array ++ [.array (gridSource.textOf (gridDeclarator.child? "size"))]) :=
    .array rfl rfl declares_plane
  rwa [show gridSource.textOf (gridDeclarator.child? "size") = "2" from hlast] at hgrid

theorem search_int : standard.search DescentFault.takenAlone [] "int" =
    .ok ⟨"int", .text "int", .basic "c_int", .primitive, .null⟩ := by
  have hroom : DescentFault.takenAlone + standard.depth "int".toList + 5 < DescentFault.room := by
    rw [pointedTo_int.describe.1]
    decide
  rw [search_eq_ok hroom, lookup, describe_eq]
  rfl

/-- Three sizes that read the same from both ends come to the array that is meant. -/
theorem search_arrays_grid :
    Declarator.Declares gridSource gridDeclarator (["2", "3", "2"].map .array) ∧ ∃ d,
      standard.search DescentFault.takenAlone []
          ("int" ++ (Declarator.unwrap gridSource gridDeclarator).suffix) = .ok d ∧
        d.foreignType = declaredArrays (.basic "c_int") ["2", "3", "2"] := by
  have hroom : DescentFault.takenAlone + standard.depth "int".toList + 3 + 5 <
      DescentFault.room := by
    rw [pointedTo_int.describe.1]
    decide
  obtain ⟨-, -, hiff⟩ := search_arrays_iff search_int rfl rfl declares_grid (List.cons_ne_nil _ _)
  exact ⟨declares_grid, hiff.2 ⟨hroom, by decide, by decide, rfl⟩⟩

/-- Two other sizes come to the array with the sizes the other way round. -/
theorem search_arrays_plane :
    Declarator.Declares gridSource planeDeclarator (["2", "3"].map .array) ∧
      (Declarator.unwrap gridSource planeDeclarator).suffix = "[2][3]" ∧ (∃ d,
      standard.search DescentFault.takenAlone [] "int[2][3]" = .ok d ∧
        d.foreignType.text = "((ctypes.c_int * 2) * 3)") ∧
      (declaredArrays (.basic "c_int") ["2", "3"]).text = "((ctypes.c_int * 3) * 2)" := by
  obtain ⟨-, hsuffix, -⟩ := suffix_of_sizes declares_plane
  have hint : standard.describe [] "int".toList =
      ⟨"int", .text "int", .basic "c_int", .primitive, .null⟩ :=
    (eq_lookup_of_search search_int).symm
  have hspelled : normalizeChars (normalizeChars "int".toList) = normalizeChars "int".toList := rfl
  obtain ⟨hdepth, hdescribe⟩ := describe_sizes [] hspelled (by decide)
    (by decide : ∀ size ∈ ["2", "3"], IsCore size.toList)
  refine ⟨declares_plane, hsuffix, ⟨_, search_eq_ok ?_, ?_⟩, rfl⟩
  · show DescentFault.takenAlone +
      standard.depth ("int".toList ++ brackets (["2", "3"].map String.toList)) + 5 < _
    rw [hdepth, pointedTo_int.describe.1]
    decide
  · show (standard.describe []
      ("int".toList ++ brackets (["2", "3"].map String.toList))).foreignType.text = _
    rw [hdescribe, hint]
    rfl

end TypeTable

end Bindery
