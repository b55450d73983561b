import Bindery.Proofs.Signature.Pieces
import Bindery.Proofs.TypeTable.Founded

/-!
# Levels of pointers

Stars behind a number, an enumeration or a class with a layout are pointers, one inside the other,
however the type is spelled: the first is a pointer to what is described, and each further one is a
pointer to a pointer. There are as many levels as there are stars as long as there is room for the
search, which takes two places for each of them; with more stars there is no description at all. A
reference behind stars takes the stars away: it is one pointer to the type itself.
-/

namespace Bindery.TypeTable

open Bindery.Text Bindery.Signature Bindery.Signature.Piece
open scoped Bindery.Initializer

variable {index : NameIndex} {base : String}

/-- The names that a type without marks is made of. -/
def nameTokens (base : List Char) : List Piece :=
  (blankWords base).map .name

/-- A type with typed pointers: a number or truth value of the table, or an enumeration or a class
with a layout that is known by name. -/
inductive PointedTo (index : NameIndex) (base : String) : Prop where
  /-- A type of the table that is neither nothing nor a character of text. -/
  | builtin {d : Descriptor} (line : standard.entry? base = some d) (kind : d.kind = .primitive)
      (other : base ∉ ["void", "char", "wchar_t"])
  /-- A type that a declaration of that name stands for. -/
  | declared {r : Referent} (name : IsName base.toList)
      (scope : dropGlobalScope base.toList = base.toList) (outside : standard.entry? base = none)
      (known : index.get? base = some r)
      (form : r.form = .enumeration ∨ r.form = .layoutClass ∧ r.id.isNull = false)

/-- The names of a type, side by side, are its normal spelling. -/
structure IsSpelling (base : List Char) : Prop where
  /-- Its words are names. -/
  names : ∀ word ∈ blankWords base, IsName word
  /-- There is one space between them. -/
  spaced : join (Piece.spaced (nameTokens base)) = base
  /-- It does not begin with the mark of the global scope. -/
  scope : dropGlobalScope base = base
  /-- It is not empty. -/
  nonempty : base ≠ []

theorem entry?_standard {native : String} {d : Descriptor} (h : standard.entry? native = some d) :
    d ∈ builtins ∧ d.native = native := by
  have hnative := List.find?_some h
  exact ⟨List.mem_of_find?_eq_some h, by simpa using hnative⟩

/-- How the lines of the table are written: with letters, digits, colons, stars and spaces; those of
primitive types in words that are no qualifiers, and other ones with a star for three types only.
Of primitive types only nothing and characters have untyped pointers. -/
theorem written_builtins :
    (∀ d ∈ builtins, ∀ c ∈ d.native.toList,
      Naming.isNameChar c = true ∨ c ∈ [':', '*', ' ']) ∧
    (∀ d ∈ builtins, d.kind = .primitive →
      (∀ word ∈ blankWords d.native.toList, word ≠ [] ∧ ∀ part ∈ scopeParts word,
        (∀ c ∈ part, Naming.isNameChar c = true) ∧ ∀ q ∈ qualifiers, q.toList ≠ part) ∧
      join (Piece.spaced (nameTokens d.native.toList)) = d.native.toList ∧
      dropGlobalScope d.native.toList = d.native.toList ∧ d.native.toList ≠ []) ∧
    (∀ d ∈ builtins, d.kind ≠ .primitive → d.native.toList.getLast? = some '*' →
      '*' ∉ d.native.toList.dropLast ∧
        String.ofList d.native.toList.dropLast ∈ ["void", "char", "wchar_t"]) ∧
    (∀ d ∈ builtins, d.kind = .primitive → d.native ∉ ["void", "char", "wchar_t"] →
      d.isVoid = false ∧ d.foreignType.isCharacter = false) := by
  refine ⟨?_, ?_, ?_, ?_⟩ <;> decide +kernel

/-- A type of the table is written with letters, digits, colons, stars and spaces. -/
theorem entry?_of_other {native : List Char} {c : Char} (hmem : c ∈ native)
    (hc : Naming.isNameChar c = false ∧ c ∉ [':', '*', ' ']) :
    standard.entry? (String.ofList native) = none := by
  by_contra hsome
  obtain ⟨d, hd⟩ := Option.ne_none_iff_exists'.1 hsome
  obtain ⟨hline, hnative⟩ := entry?_standard hd
  rw [← String.toList_ofList (l := native), ← hnative] at hmem
  obtain ⟨hchars, -⟩ := written_builtins
  rcases hchars d hline c hmem with hname | hother
  · exact Bool.false_ne_true (hc.1.symm.trans hname)
  · exact hc.2 hother

theorem isSpelling_builtin :
    ∀ d ∈ builtins, d.kind = .primitive → IsSpelling d.native.toList := by
  intro d hd hkind
  obtain ⟨-, hspelled, -⟩ := written_builtins
  obtain ⟨hwords, hspaced, hscope, hne⟩ := hspelled d hd hkind
  refine ⟨fun word hword => ?_, hspaced, hscope, hne⟩
  obtain ⟨hnonempty, hparts⟩ := hwords word hword
  refine ⟨hnonempty, fun part hpart c hc => ?_, fun part hpart => ?_⟩
  · exact Initializer.isWord_of_isNameChar ((hparts part hpart).1 c hc)
  · refine if_neg fun hqualifier => ?_
    exact (hparts part hpart).2 _ (List.contains_iff_mem.1 hqualifier) String.toList_ofList

/-- A spelling of names has word characters, colons and spaces only. -/
theorem IsSpelling.not_mem {base : List Char} (h : IsSpelling base) {c : Char}
    (hc : isWord c = false ∧ c ≠ ':' ∧ c ≠ ' ') : c ∉ base := by
  intro hmem
  rw [← h.spaced] at hmem
  obtain ⟨p, hp, hcp⟩ := List.mem_flatMap.1 hmem
  rcases mem_spaced hp with hp | rfl
  · obtain ⟨word, hword, rfl⟩ := List.mem_map.1 hp
    rcases (h.names word hword).isWord_or_colon c hcp with hisWord | hcolon
    · exact Bool.false_ne_true (hc.1.symm.trans hisWord)
    · exact hc.2.1 hcolon
  · exact hc.2.2 (List.mem_singleton.1 hcp)

/-- A text without blanks is one word. -/
theorem blankWords_of_plain {cs : List Char} (hne : cs ≠ []) (h : ∀ c ∈ cs, isBlank c = false) :
    blankWords cs = [cs] := by
  suffices hgo : ∀ word : List Char, word ≠ [] ∨ cs ≠ [] →
      blankWords.go word cs = [word.reverse ++ cs] from hgo [] (.inr hne)
  clear hne
  induction cs with
  | nil =>
    intro word hne
    have hword : word ≠ [] := hne.resolve_right fun h => h rfl
    simp [blankWords.go, hword]
  | cons c cs ih =>
    intro word _
    obtain ⟨hc, hcs⟩ := List.forall_mem_cons.1 h
    rw [blankWords.go, if_neg (by simp [hc]), ih hcs (c :: word) (.inl (List.cons_ne_nil _ _))]
    simp

theorem isSpelling_of_isName {base : List Char} (h : IsName base)
    (hscope : dropGlobalScope base = base) : IsSpelling base := by
  have hword : blankWords base = [base] :=
    blankWords_of_plain h.nonempty fun c hc => (h.plain c hc).1
  refine ⟨fun word hmem => ?_, ?_, hscope, h.nonempty⟩
  · rw [hword, List.mem_singleton] at hmem
    rwa [hmem]
  · unfold nameTokens
    rw [hword]
    exact List.append_nil base

theorem PointedTo.isSpelling (h : PointedTo index base) : IsSpelling base.toList := by
  cases h with
  | builtin line kind other =>
    obtain ⟨hd, rfl⟩ := entry?_standard line
    exact isSpelling_builtin _ hd kind
  | declared name scope outside known form => exact isSpelling_of_isName name scope

/-! ### The spelling with marks -/

/-- What begins with no colon does not change which mark of the global scope is dropped. -/
theorem dropGlobalScope_append (cs : List Char) {rest : List Char}
    (hrest : ∀ c ∈ rest.head?, c ≠ ':') :
    dropGlobalScope (cs ++ rest) = dropGlobalScope cs ++ rest := by
  fun_cases dropGlobalScope cs with
  | case1 cs => rfl
  | case2 cs hplain =>
    unfold dropGlobalScope
    split
    · next heq =>
      -- then two colons would stand in front of `rest`, or one would begin it
      rcases cs with _ | ⟨c, _ | ⟨d, cs⟩⟩
      · rw [List.nil_append] at heq
        rw [heq] at hrest
        exact absurd rfl (hrest ':' rfl)
      · simp only [List.cons_append, List.nil_append, List.cons.injEq] at heq
        rw [heq.2] at hrest
        exact absurd rfl (hrest ':' rfl)
      · simp only [List.cons_append, List.cons.injEq] at heq
        obtain ⟨rfl, rfl, -⟩ := heq
        exact (hplain cs rfl).elim
    · rfl

/-- However a type with marks is spelled, in its normal spelling the marks stand behind the type. -/
theorem normalizeChars_marks {base : List Char} (h : IsSpelling base) {ps : List Piece}
    (hps : Spelled ps) {ms : List Char} (hms : ∀ c ∈ ms, isMark c = true)
    (htokens : tokens ps = nameTokens base ++ ms.map .mark) :
    normalizeChars (join ps) = base ++ ms := by
  rw [normalizeChars_join hps, htokens, join_spaced_marks, h.spaced]
  rw [dropGlobalScope_append, h.scope]
  intro c hc
  rcases isMark_iff.1 (hms c (List.mem_of_head? hc)) with rfl | rfl <;> decide

theorem IsSpelling.spelled_marks {base : List Char} (h : IsSpelling base) {ms : List Char}
    (hms : ∀ c ∈ ms, isMark c = true) : normalizeChars (base ++ ms) = base ++ ms := by
  have hall : ∀ p ∈ nameTokens base ++ ms.map .mark, p.Fits ∧ p.isToken = true := by
    intro p hp
    rcases List.mem_append.1 hp with hp | hp
    · obtain ⟨word, hword, rfl⟩ := List.mem_map.1 hp
      exact ⟨h.names word hword, rfl⟩
    · obtain ⟨c, hc, rfl⟩ := List.mem_map.1 hp
      exact ⟨hms c hc, rfl⟩
  have hnormal := normalizeChars_marks h (spelled_spaced hall) hms
    (tokens_spaced fun p hp => (hall p hp).2)
  rwa [join_spaced_marks, h.spaced] at hnormal

theorem isMark_of_mem_stars {n : Nat} : ∀ c ∈ stars n, isMark c = true := by
  intro c hc
  rw [List.eq_of_mem_replicate hc]
  decide

/-- However a type with stars is spelled, in its normal spelling the stars stand behind the type. -/
theorem normalizeChars_stars {base : List Char} (h : IsSpelling base) {ps : List Piece}
    (hps : Spelled ps) {n : Nat}
    (htokens : tokens ps = nameTokens base ++ List.replicate n (.mark '*')) :
    normalizeChars (join ps) = base ++ stars n := by
  refine normalizeChars_marks h hps isMark_of_mem_stars ?_
  rw [htokens, stars, List.map_replicate]

theorem IsSpelling.spelled_stars {base : List Char} (h : IsSpelling base) (n : Nat) :
    normalizeChars (base ++ stars n) = base ++ stars n :=
  h.spelled_marks isMark_of_mem_stars

/-- Of the types with stars only three have a line. -/
theorem entry?_stars {base : List Char} (h : String.ofList base ∉ ["void", "char", "wchar_t"])
    (n : Nat) : standard.entry? (String.ofList (base ++ stars (n + 1))) = none := by
  by_contra hsome
  obtain ⟨d, hd⟩ := Option.ne_none_iff_exists'.1 hsome
  obtain ⟨hmem, hnative⟩ := entry?_standard hd
  have hchars : d.native.toList = base ++ stars n ++ ['*'] := by
    rw [hnative, String.toList_ofList, stars_succ, List.append_assoc]
  have hkind : d.kind ≠ .primitive := by
    intro hprimitive
    refine (isSpelling_builtin d hmem hprimitive).not_mem (by decide : _ ∧ '*' ≠ ':' ∧ _) ?_
    rw [hchars]
    exact List.mem_append_right _ (List.mem_singleton_self _)
  obtain ⟨-, -, hpointers, -⟩ := written_builtins
  obtain ⟨hstars, hline⟩ := hpointers d hmem hkind (by rw [hchars, List.getLast?_concat])
  rw [hchars, List.dropLast_concat] at hstars hline
  cases n with
  | zero =>
    rw [show stars 0 = [] from rfl, List.append_nil] at hline
    exact h hline
  | succ n => exact hstars (List.mem_append_right _ (List.mem_cons_self ..))

theorem PointedTo.isStem (h : PointedTo index base) : standard.IsStem base.toList where
  spelled := h.isSpelling.spelled_stars
  apart := by
    refine entry?_stars ?_
    rw [String.ofList_toList]
    cases h with
    | builtin line kind other => exact other
    | declared name scope outside known form =>
      have hlines : ∀ native ∈ ["void", "char", "wchar_t"],
          (standard.entry? native).isSome = true := by
        decide
      intro hmem
      have hline := hlines base hmem
      rw [outside] at hline
      cases hline
  plain := h.isSpelling.not_mem (by decide : _ ∧ '(' ≠ ':' ∧ _)

/-! ### Descriptions with stars -/

/-- A description whose pointers are typed. -/
def HasPointers (d : Descriptor) : Prop :=
  (d.kind = .primitive ∨ d.kind = .enumeration) ∧ d.isVoid = false ∧
    d.foreignType.isCharacter = false ∨
  d.kind = .declaration ∧ d.declaration.isNull = false

/-- A pointer to what has typed pointers is typed. -/
theorem pointTo_of_hasPointers {inner : Descriptor} (h : HasPointers inner) (native : List Char) :
    (pointTo native inner).kind = .pointer ∧
      (pointTo native inner).foreignType = .pointer inner.foreignType := by
  unfold pointTo
  rcases h with ⟨hkind | hkind, hvoid, hcharacter⟩ | ⟨hkind, hid⟩
  · simp [hkind, hvoid, hcharacter]
  · simp [hkind, hvoid, hcharacter]
  · simp [hkind, hid]

/-- A pointer to a pointer is typed. -/
theorem pointTo_of_pointer {inner : Descriptor} {native : List Char} (h : inner.kind = .pointer)
    (hlast : native.getLast? = some '*') :
    (pointTo native inner).kind = .pointer ∧
      (pointTo native inner).foreignType = .pointer inner.foreignType := by
  unfold pointTo
  simp [h, hlast]

/-- A type with typed pointers has no parts, and its description has typed pointers. -/
theorem PointedTo.describe (h : PointedTo index base) :
    standard.depth base.toList = 0 ∧ HasPointers (standard.describe index base.toList) := by
  have hnormal : normalizeChars base.toList = base.toList := by
    have hspelled := h.isSpelling.spelled_stars 0
    rwa [show stars 0 = [] from rfl, List.append_nil] at hspelled
  cases h with
  | builtin line kind other =>
    rename_i d
    have hshape : standard.shape base.toList = .known d := by
      unfold shape
      rw [String.ofList_toList, line]
    rw [depth_eq, describe_eq, hnormal, hshape]
    obtain ⟨hd, hnative⟩ := entry?_standard line
    obtain ⟨-, -, -, htyped⟩ := written_builtins
    exact ⟨rfl, .inl ⟨.inl kind, htyped d hd kind (hnative ▸ other)⟩⟩
  | declared name scope outside known form =>
    rename_i r
    have hshape : standard.shape base.toList = .name := by
      have hspelling := isSpelling_of_isName name scope
      refine shape_of_last (by rwa [String.ofList_toList])
        (hspelling.not_mem (by decide : _ ∧ '(' ≠ ':' ∧ _)) fun c hc => ?_
      have hmem := List.mem_of_getLast? hc
      refine ⟨(name.plain c hmem).2, ?_, ?_⟩
      · rintro rfl
        exact hspelling.not_mem (by decide : _ ∧ ']' ≠ ':' ∧ _) hmem
      · rintro rfl
        exact hspelling.not_mem (by decide : _ ∧ '>' ≠ ':' ∧ _) hmem
    rw [depth_eq, describe_eq, hnormal, hshape]
    refine ⟨rfl, ?_⟩
    show HasPointers (referTo index base.toList)
    unfold referTo
    dsimp only
    rw [String.ofList_toList, known, Option.orElse_some]
    rcases form with hform | ⟨hform, hid⟩
    · simp only [hform]
      exact .inl ⟨.inr rfl, rfl, rfl⟩
    · simp only [hform]
      exact .inr ⟨rfl, hid⟩

/-- Behind a type with typed pointers, stars are as many pointers, one inside the other. -/
theorem PointedTo.describe_stars (h : PointedTo index base) (n : Nat) :
    (standard.describe index (base.toList ++ stars n)).foreignType =
      ForeignType.pointer^[n] (standard.describe index base.toList).foreignType ∧
    ((standard.describe index (base.toList ++ stars n)).kind = .pointer ∨
      HasPointers (standard.describe index (base.toList ++ stars n))) := by
  induction n with
  | zero =>
    rw [show stars 0 = [] from rfl, List.append_nil]
    exact ⟨rfl, .inr h.describe.2⟩
  | succ n ih =>
    obtain ⟨htype, hpoints⟩ := ih
    have hlast : (base.toList ++ stars (n + 1)).getLast? = some '*' := by
      rw [stars_succ, ← List.append_assoc, List.getLast?_concat]
    obtain ⟨hkind, hpointer⟩ := hpoints.elim (fun hkind => pointTo_of_pointer hkind hlast)
      fun hpoints => pointTo_of_hasPointers hpoints (base.toList ++ stars (n + 1))
    rw [h.isStem.describe_stars, Function.iterate_succ_apply', ← htype]
    exact ⟨hpointer, .inl hkind⟩

/-- There is room for two places for each star, or there is no description. -/
theorem PointedTo.exists_search_stars_iff (h : PointedTo index base) {used n : Nat} :
    (∃ d, standard.search used index (String.ofList (base.toList ++ stars n)) = .ok d) ↔
      used + 2 * n + 5 < DescentFault.room := by
  rw [exists_search_iff, String.toList_ofList, h.isStem.depth_stars, h.describe.1, Nat.zero_add]

/-- However a type with stars is spelled, it is described by as many pointers around the type, as
long as there is room for two places for each of them; otherwise it has no description. -/
theorem search_stars (h : PointedTo index base) {n : Nat} {ps : List Piece} (hps : Spelled ps)
    (htokens : tokens ps = nameTokens base.toList ++ List.replicate n (.mark '*')) (used : Nat) :
    (used + 2 * n + 5 < DescentFault.room → ∃ inner d,
      standard.search used index base = .ok inner ∧
        standard.search used index (String.ofList (join ps)) = .ok d ∧
        d.foreignType = ForeignType.pointer^[n] inner.foreignType) ∧
    (DescentFault.room ≤ used + 2 * n + 5 →
      ∃ f, standard.search used index (String.ofList (join ps)) = .error f) := by
  have hnormal : normalizeChars (join ps) = normalizeChars (base.toList ++ stars n) := by
    rw [normalizeChars_stars h.isSpelling hps htokens, h.isSpelling.spelled_stars]
  have hbase := h.describe.1
  have hdepth : standard.depth (String.ofList (join ps)).toList = 2 * n := by
    rw [String.toList_ofList, depth_congr hnormal, h.isStem.depth_stars, hbase, Nat.zero_add]
  constructor
  · intro hroom
    refine ⟨_, _, search_eq_ok (by rw [hbase]; omega), search_eq_ok (by rw [hdepth]; omega), ?_⟩
    unfold lookup
    rw [String.toList_ofList, describe_congr hnormal]
    exact (h.describe_stars n).1
  · intro hroom
    cases hsearch : standard.search used index (String.ofList (join ps)) with
    | error f => exact ⟨f, rfl⟩
    | ok d =>
      have hfits := exists_search_iff.1 ⟨d, hsearch⟩
      rw [hdepth] at hfits
      omega

/-- Declarations with a complete class. -/
def spriteIndex : NameIndex :=
  [("gfx::Sprite", ⟨.int 4, .text "Sprite", .layoutClass⟩)]

/-- A pointer to a pointer, with blanks and dropped words between its tokens. -/
def spriteSpelling : List Piece :=
  [.dropped "const".toList, .blank ' ', .dropped "struct".toList, .blank '\t',
    .name "gfx::Sprite".toList, .mark '*', .dropped "const".toList, .blank ' ', .mark '*']

theorem search_sprite_stars :
    ∃ inner d, standard.search DescentFault.takenAlone spriteIndex "gfx::Sprite" = .ok inner ∧
      standard.search DescentFault.takenAlone spriteIndex "const struct\tgfx::Sprite*const *" =
        .ok d ∧
      d.foreignType = .pointer (.pointer inner.foreignType) := by
  have hsprite : PointedTo spriteIndex "gfx::Sprite" :=
    .declared (r := ⟨.int 4, .text "Sprite", .layoutClass⟩) (by decide +kernel)
      (by decide +kernel) (by decide +kernel) rfl (.inr ⟨rfl, rfl⟩)
  have hspelled : Spelled spriteSpelling := by decide +kernel
  have htokens : tokens spriteSpelling =
      nameTokens "gfx::Sprite".toList ++ List.replicate 2 (.mark '*') := by decide +kernel
  exact (search_stars hsprite hspelled htokens DescentFault.takenAlone).1 (by decide)

/-- There is no room for six hundred stars. -/
theorem not_exists_search_six_hundred_stars :
    PointedTo [] "int" ∧
      ¬∃ d, standard.search DescentFault.takenAlone []
        (String.ofList ("int".toList ++ stars 600)) = .ok d := by
  have hint : PointedTo [] "int" :=
    .builtin (d := ⟨"int", .text "int", .basic "c_int", .primitive, .null⟩) rfl rfl (by decide)
  refine ⟨hint, ?_⟩
  rw [hint.exists_search_stars_iff]
  decide

/-! ### References -/

/-- Of the characters that satisfy a test those at the end are dropped, up to one that does not. -/
theorem dropWhileEnd_append {p : Char → Bool} {cs marks : List Char}
    (hcs : ∀ c ∈ cs.getLast?, p c = false) (hmarks : ∀ c ∈ marks, p c = true) :
    dropWhileEnd p (cs ++ marks) = cs := by
  unfold dropWhileEnd
  rw [List.reverse_append,
    List.dropWhile_append_of_pos fun c hc => hmarks c (List.mem_reverse.1 hc)]
  obtain rfl | ⟨front, c, rfl⟩ := List.eq_nil_or_concat cs
  · rfl
  · have hc : p c = false := hcs c (by simp)
    simp [hc]

/-- What a reference refers to has none of the stars in front of the mark. -/
theorem pointee_reference {base : List Char} (hstar : '*' ∉ base) (hand : '&' ∉ base) (n : Nat) :
    pointee (base ++ stars n ++ ['&']) = base := by
  have hstars : dropWhileEnd (· == '&') (base ++ stars n ++ ['&']) = base ++ stars n := by
    refine dropWhileEnd_append (fun c hc => beq_false_of_ne ?_) (by decide)
    rintro rfl
    rcases List.mem_append.1 (List.mem_of_getLast? hc) with hmem | hmem
    · exact hand hmem
    · exact absurd (List.eq_of_mem_replicate hmem) (by decide)
  have hbase : dropWhileEnd (· == '*') (base ++ stars n) = base := by
    refine dropWhileEnd_append (fun c hc => beq_false_of_ne ?_) fun c hc => ?_
    · rintro rfl
      exact hstar (List.mem_of_getLast? hc)
    · rw [List.eq_of_mem_replicate hc]
      rfl
  unfold pointee
  rw [List.getLast?_concat, if_pos (by rfl), hstars, hbase]

/-- A reference refers to the type itself, however many stars stand in front of it. -/
theorem IsSpelling.shape_reference {base : List Char} (h : IsSpelling base) (n : Nat) :
    standard.shape (base ++ stars n ++ ['&']) = .pointer base := by
  have hcall : (base ++ stars n ++ ['&']).contains '(' = false := by
    rw [← Bool.not_eq_true, List.contains_iff_mem, List.append_assoc, List.mem_append]
    rintro (hmem | hmem)
    · exact h.not_mem (by decide : _ ∧ '(' ≠ ':' ∧ _) hmem
    · rcases List.mem_append.1 hmem with hstar | hand
      · exact absurd (List.eq_of_mem_replicate hstar) (by decide)
      · exact absurd hand (by decide)
  have hline : standard.entry? (String.ofList (base ++ stars n ++ ['&'])) = none :=
    entry?_of_other (List.mem_append_right _ (List.mem_singleton_self _)) (by decide)
  unfold shape
  rw [hline, hcall, List.getLast?_concat,
    pointee_reference (h.not_mem (by decide : _ ∧ '*' ≠ ':' ∧ _))
      (h.not_mem (by decide : _ ∧ '&' ≠ ':' ∧ _))]
  rfl

/-- A reference with stars in front of it is one pointer to the type. -/
theorem PointedTo.search_reference (h : PointedTo index base) (used n : Nat) :
    ((∃ d, standard.search used index (String.ofList (base.toList ++ stars n ++ ['&'])) = .ok d) ↔
      used + 7 < DescentFault.room) ∧
    ∀ d, standard.search used index (String.ofList (base.toList ++ stars n ++ ['&'])) = .ok d →
      d.foreignType = .pointer (standard.describe index base.toList).foreignType := by
  have hnormal : normalizeChars (base.toList ++ stars n ++ ['&']) =
      base.toList ++ stars n ++ ['&'] := by
    have hmarks : ∀ c ∈ stars n ++ ['&'], isMark c = true := by
      intro c hc
      rcases List.mem_append.1 hc with hc | hc
      · exact isMark_of_mem_stars c hc
      · rw [List.mem_singleton.1 hc]
        decide
    rw [List.append_assoc]
    exact h.isSpelling.spelled_marks hmarks
  have hshape := h.isSpelling.shape_reference n
  obtain ⟨hbase, hpoints⟩ := h.describe
  have hdepth : standard.depth (base.toList ++ stars n ++ ['&']) = 2 := by
    rw [depth_eq, hnormal, hshape]
    dsimp only
    rw [hbase]
  constructor
  · rw [exists_search_iff, String.toList_ofList, hdepth, Nat.add_assoc]
  · intro d hd
    rw [eq_lookup_of_search hd, lookup, String.toList_ofList, describe_eq, hnormal, hshape]
    exact (pointTo_of_hasPointers hpoints _).2

/-- Every pointer makes a type expression longer by the same text. -/
theorem length_text_pointers (t : ForeignType) (n : Nat) :
    (ForeignType.pointer^[n] t).text.length = t.text.length + 16 * n := by
  induction n with
  | zero => rfl
  | succ n ih =>
    have hstep : ForeignType.pointer^[n + 1] t = .pointer (ForeignType.pointer^[n] t) :=
      Function.iterate_succ_apply' ..
    calc (ForeignType.pointer^[n + 1] t).text.length
        = ("ctypes.POINTER(" ++ (ForeignType.pointer^[n] t).text ++ ")").length :=
          congrArg (fun t => t.text.length) hstep
      _ = ("ctypes.POINTER(" ++ (ForeignType.pointer^[n] t).text).length + 1 :=
          String.length_append ..
      _ = 15 + (ForeignType.pointer^[n] t).text.length + 1 :=
          congrArg (· + 1) (String.length_append ..)
      _ = t.text.length + 16 * (n + 1) := by omega

/-- A reference to a type with typed pointers is one pointer to the type, whatever stars stand in
front of it. So it is described as one more star is, just if there is no star, and room for
either. -/
theorem search_reference_iff (h : PointedTo index base) (used n : Nat) :
    (used + 7 < DescentFault.room → ∃ inner d,
      standard.search used index base = .ok inner ∧
        standard.search used index (String.ofList (base.toList ++ stars n ++ ['&'])) = .ok d ∧
        d.foreignType = .pointer inner.foreignType) ∧
    ((∃ d e,
      standard.search used index (String.ofList (base.toList ++ stars n ++ ['&'])) = .ok d ∧
        standard.search used index (String.ofList (base.toList ++ stars (n + 1))) = .ok e ∧
        d.foreignType.text = e.foreignType.text) ↔
      n = 0 ∧ used + 7 < DescentFault.room) := by
  obtain ⟨hroom, htype⟩ := h.search_reference used n
  have hstars : ∀ e,
      standard.search used index (String.ofList (base.toList ++ stars (n + 1))) = .ok e →
      e.foreignType =
        ForeignType.pointer^[n + 1] (standard.describe index base.toList).foreignType := by
    intro e he
    rw [eq_lookup_of_search he, lookup, String.toList_ofList]
    exact (h.describe_stars (n + 1)).1
  constructor
  · intro hused
    obtain ⟨d, hd⟩ := hroom.2 hused
    exact ⟨_, d, search_eq_ok (by rw [h.describe.1]; omega), hd, htype d hd⟩
  constructor
  · rintro ⟨d, e, hd, he, htext⟩
    refine ⟨?_, hroom.1 ⟨d, hd⟩⟩
    have hlength := congrArg String.length htext
    rw [htype d hd, hstars e he, length_text_pointers] at hlength
    have hone := length_text_pointers (standard.describe index base.toList).foreignType 1
    rw [Function.iterate_one] at hone
    omega
  · rintro ⟨rfl, hused⟩
    obtain ⟨d, hd⟩ := hroom.2 hused
    obtain ⟨e, he⟩ : ∃ e, standard.search used index (String.ofList (base.toList ++ stars 1)) =
        .ok e := h.exists_search_stars_iff.2 (by omega)
    exact ⟨d, e, hd, he, by rw [htype d hd, hstars e he, Function.iterate_one]⟩

theorem pointedTo_int : PointedTo [] "int" :=
  .builtin (d := ⟨"int", .text "int", .basic "c_int", .primitive, .null⟩) rfl rfl (by decide)

/-- A reference to a number is described as a pointer to it. -/
theorem search_reference_int : ∃ d e,
    standard.search DescentFault.takenAlone [] "int&" = .ok d ∧
      standard.search DescentFault.takenAlone [] "int*" = .ok e ∧
      d.foreignType.text = e.foreignType.text :=
  (search_reference_iff pointedTo_int DescentFault.takenAlone 0).2.2 ⟨rfl, by decide⟩

/-- A reference to a pointer is not described as a pointer to a pointer. -/
theorem search_reference_pointer : PointedTo [] "int" ∧ ∃ d e,
    standard.search DescentFault.takenAlone [] "int*&" = .ok d ∧
      standard.search DescentFault.takenAlone [] "int**" = .ok e ∧
      d.foreignType.text = "ctypes.POINTER(ctypes.c_int)" ∧
      e.foreignType.text = "ctypes.POINTER(ctypes.POINTER(ctypes.c_int))" := by
  obtain ⟨hroom, htype⟩ := pointedTo_int.search_reference DescentFault.takenAlone 1
  obtain ⟨d, hd⟩ := hroom.2 (by decide)
  obtain ⟨e, he⟩ : ∃ e, standard.search DescentFault.takenAlone []
      (String.ofList ("int".toList ++ stars 2)) = .ok e :=
    pointedTo_int.exists_search_stars_iff.2 (by decide)
  have hint : (standard.describe [] "int".toList).foreignType = .basic "c_int" := by
    rw [describe_eq]
    rfl
  refine ⟨pointedTo_int, d, e, hd, he, ?_, ?_⟩
  · rw [htype d hd, hint]
    rfl
  · rw [eq_lookup_of_search he, lookup, String.toList_ofList,
      (pointedTo_int.describe_stars 2).1, hint]
    rfl

end Bindery.TypeTable
