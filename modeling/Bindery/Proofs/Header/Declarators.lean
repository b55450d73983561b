import Bindery.Proofs.Header.Enumeration
import Bindery.Proofs.Header.Members
import Bindery.Proofs.TypeTable.Marks
import Mathlib.Data.List.Induction

/-!
# Types that declarators declare

A declarator is read from the name outward: the parts around the name say step by step what the name
is, a pointer, an array or a function, each of what comes next, and in the end of the type in front.
The type of a field keeps less of it. A pointer to a function is one, whatever else is around it;
otherwise the stars and the sizes are kept, but not how they lie inside each other. So a declarator
is told apart from all others exactly if it declares no function and does not mix pointers and
arrays.
-/

namespace Bindery

open Bindery.Text

/-- A part of a declared type. -/
inductive TypePart where
  /-- A pointer. -/
  | pointer
  /-- An array, by the text of its size. -/
  | array (size : String)
  /-- A function, without its parameters. -/
  | function
deriving DecidableEq

namespace TypePart

/-- The size of an array. -/
def size? : TypePart → Option String
  | array size => some size
  | _ => none

/-- Whether there can be what one part makes of another one: functions are not put into arrays, and
they give neither functions nor arrays. -/
def canHold : TypePart → TypePart → Bool
  | array _, function | function, function | function, array _ => false
  | _, _ => true

/-- The sizes of the arrays among some parts, in order. -/
def sizes (parts : List TypePart) : List String :=
  parts.filterMap size?

theorem sizes_append (parts others : List TypePart) :
    sizes (parts ++ others) = sizes parts ++ sizes others :=
  List.filterMap_append

theorem mem_sizes_iff {parts : List TypePart} {size : String} :
    size ∈ sizes parts ↔ .array size ∈ parts := by
  unfold sizes
  rw [List.mem_filterMap]
  constructor
  · rintro ⟨part, hpart, hsize⟩
    cases part with
    | array size' =>
      cases hsize
      exact hpart
    | pointer | function => cases hsize
  · exact fun h => ⟨_, h, rfl⟩

@[simp]
theorem sizes_replicate_pointer (n : Nat) : sizes (List.replicate n pointer) = [] := by
  induction n with
  | zero => rfl
  | succ n ih => exact ih

@[simp]
theorem sizes_map_array (dims : List String) : sizes (dims.map array) = dims := by
  induction dims with
  | nil => rfl
  | cons size dims ih => exact congrArg (size :: ·) ih

@[simp]
theorem count_map_array (dims : List String) : (dims.map array).count pointer = 0 :=
  List.count_eq_zero.2 (by simp)

/-- The marks that are left of the parts of a type: its stars, and behind them its sizes. -/
def marks (parts : List TypePart) : List DeclaratorMark :=
  List.replicate (parts.count pointer) .pointer ++ (sizes parts).map fun size => .size size.toList

/-- The text of a type behind the text of the type it is made of. -/
def spelling (base : String) (parts : List TypePart) : String :=
  if function ∈ parts then base ++ "(*)()"
  else base ++ String.ofList (DeclaratorMark.row (marks parts))

end TypePart

open TypePart

/-- A text in which each bracket that is opened is closed, and no other one. -/
inductive IsEnclosed : List Char → Prop where
  /-- No text. -/
  | nil : IsEnclosed []
  /-- A character that is no bracket. -/
  | char {c : Char} {cs : List Char} (other : c ≠ '[' ∧ c ≠ ']') (rest : IsEnclosed cs) :
    IsEnclosed (c :: cs)
  /-- A text in brackets. -/
  | brackets {inside cs : List Char} (inner : IsEnclosed inside) (rest : IsEnclosed cs) :
    IsEnclosed ('[' :: (inside ++ ']' :: cs))

/-- The bracket behind an enclosed text is the first one that closes what is not opened in it. -/
theorem IsEnclosed.eq_of_append {cs ds rest others : List Char} (h : IsEnclosed cs)
    (h' : IsEnclosed ds) (heq : cs ++ ']' :: rest = ds ++ ']' :: others) :
    cs = ds ∧ rest = others := by
  induction h generalizing ds rest others with
  | nil =>
    cases h' with
    | nil => exact ⟨rfl, List.tail_eq_of_cons_eq heq⟩
    | char other => exact absurd (List.head_eq_of_cons_eq heq).symm other.2
    | brackets => cases List.head_eq_of_cons_eq heq
  | char other _ ih =>
    cases h' with
    | nil => exact absurd (List.head_eq_of_cons_eq heq) other.2
    | char other' rest' =>
      obtain ⟨rfl, hrest⟩ := List.cons.inj heq
      obtain ⟨rfl, rfl⟩ := ih rest' hrest
      exact ⟨rfl, rfl⟩
    | brackets => exact absurd (List.head_eq_of_cons_eq heq) other.1
  | brackets _ _ ihinner ihrest =>
    cases h' with
    | nil => cases List.head_eq_of_cons_eq heq
    | char other => exact absurd (List.head_eq_of_cons_eq heq).symm other.1
    | brackets inner' rest' =>
      simp only [List.cons_append, List.append_assoc, List.cons.injEq, true_and] at heq
      obtain ⟨rfl, hrest⟩ := ihinner inner' heq
      obtain ⟨rfl, rfl⟩ := ihrest rest' hrest
      exact ⟨rfl, rfl⟩

/-- Sizes in brackets are told apart. -/
theorem DeclaratorMark.eq_of_row_sizes {sizes others : List String}
    (h : ∀ size ∈ sizes, IsEnclosed size.toList) (h' : ∀ size ∈ others, IsEnclosed size.toList)
    (heq : row (sizes.map fun size => .size size.toList) =
      row (others.map fun size => .size size.toList)) : sizes = others := by
  induction sizes generalizing others with
  | nil =>
    cases others with
    | nil => rfl
    | cons size others => cases heq
  | cons size sizes ih =>
    cases others with
    | nil => cases heq
    | cons size' others =>
      obtain ⟨hsize, hsizes⟩ := List.forall_mem_cons.1 h
      obtain ⟨hsize', hothers⟩ := List.forall_mem_cons.1 h'
      simp only [List.map_cons, row_cons, text, List.cons_append, List.append_assoc,
        List.nil_append, List.cons.injEq, true_and] at heq
      obtain ⟨hword, hrest⟩ := hsize.eq_of_append hsize' heq
      rw [String.toList_injective hword, ih hsizes hothers hrest]

/-- Stars in front of sizes are told apart from them. -/
theorem DeclaratorMark.eq_of_row_stars {sizes others : List String} {k l : Nat}
    (heq : row (List.replicate k .pointer ++ sizes.map fun size => .size size.toList) =
      row (List.replicate l .pointer ++ others.map fun size => .size size.toList)) :
    k = l ∧ row (sizes.map fun size => .size size.toList) =
      row (others.map fun size => .size size.toList) := by
  induction k generalizing l with
  | zero =>
    cases l with
    | zero => exact ⟨rfl, heq⟩
    | succ l => cases sizes <;> cases heq
  | succ k ih =>
    cases l with
    | zero => cases others <;> cases heq
    | succ l =>
      obtain ⟨rfl, hrest⟩ := ih (List.cons.inj heq).2
      exact ⟨rfl, hrest⟩

/-- The parts of the type of a data member, from the name outward. -/
structure IsFieldType (parts : List TypePart) : Prop where
  /-- Each part is of what it can be of. -/
  coherent : parts.IsChain fun inner outer => inner.canHold outer = true
  /-- It is no function. -/
  data : parts.head? ≠ some .function
  /-- The brackets of a size are those around it. -/
  enclosed : ∀ size ∈ sizes parts, IsEnclosed size.toList

namespace Declarator

/-- A node is a declarator around a name that makes parts of a type, from the name outward. -/
inductive Declares (source : Source) : SyntaxNode → List TypePart → Prop where
  /-- A name. -/
  | name {n : SyntaxNode} (kind : n.kind = "identifier" ∨ n.kind = "field_identifier") :
    Declares source n []
  /-- A pointer around a declarator. -/
  | pointer {n c : SyntaxNode} {parts : List TypePart} (kind : n.kind = "pointer_declarator")
    (inside : n.child? "declarator" = some c) (inner : Declares source c parts) :
    Declares source n (parts ++ [.pointer])
  /-- An array around a declarator. -/
  | array {n c : SyntaxNode} {parts : List TypePart} (kind : n.kind = "array_declarator")
    (inside : n.child? "declarator" = some c) (inner : Declares source c parts) :
    Declares source n (parts ++ [.array (source.textOf (n.child? "size"))])
  /-- A function around a declarator. -/
  | function {n c : SyntaxNode} {parts : List TypePart} (kind : n.kind = "function_declarator")
    (inside : n.child? "declarator" = some c) (inner : Declares source c parts) :
    Declares source n (parts ++ [.function])
  /-- A declarator in parentheses. -/
  | parens {n c : SyntaxNode} {parts : List TypePart}
    (kind : n.kind = "parenthesized_declarator") (inside : n.namedChildren.head? = some c)
    (inner : Declares source c parts) : Declares source n parts

/-! ### What unwrapping leaves of the parts -/

section unwrapping

variable {source : Source} {d : Declarator} {n c : SyntaxNode}

theorem unwrapFrom_name (h : n.kind = "identifier" ∨ n.kind = "field_identifier") :
    unwrapFrom source d n = { d with name := source.text n } := by
  rw [unwrapFrom]
  rcases h with h | h <;> simp only [h] <;> rfl

theorem unwrapFrom_pointer (h : n.kind = "pointer_declarator")
    (hc : n.child? "declarator" = some c) :
    unwrapFrom source d n = unwrapFrom source d.addPointer c := by
  rw [unwrapFrom]
  simp only [h]
  split <;> simp_all

theorem unwrapFrom_array (h : n.kind = "array_declarator")
    (hc : n.child? "declarator" = some c) :
    unwrapFrom source d n =
      unwrapFrom source (d.addArray (source.textOf (n.child? "size"))) c := by
  rw [unwrapFrom]
  simp only [h]
  split <;> simp_all

theorem unwrapFrom_function (h : n.kind = "function_declarator")
    (hc : n.child? "declarator" = some c) :
    unwrapFrom source d n = unwrapFrom source (d.addFunction n) c := by
  rw [unwrapFrom]
  simp only [h]
  split <;> simp_all

theorem unwrapFrom_parens (h : n.kind = "parenthesized_declarator")
    (hc : n.namedChildren.head? = some c) :
    unwrapFrom source d n = unwrapFrom source d c := by
  rw [unwrapFrom]
  simp only [h]
  split <;> simp_all


end unwrapping

/-- A declarator without functions leaves its stars and its sizes. -/
theorem Declares.unwrapFrom_data {source : Source} {n : SyntaxNode} {parts : List TypePart}
    (h : Declares source n parts) (hdata : .function ∉ parts) {d : Declarator}
    (hd : d.function = none) :
    ∃ name, unwrapFrom source d n =
      ⟨name, d.marks ++ String.ofList (List.replicate (parts.count .pointer) '*'),
        (sizes parts).map (fun size => "[" ++ size ++ "]") ++ d.arrays, none,
        d.isFunctionPointer⟩ := by
  induction h generalizing d with
  | @name n kind =>
    refine ⟨source.text n, ?_⟩
    rw [unwrapFrom_name kind, ← hd]
    simp [sizes]
  | pointer kind inside _ ih =>
    have hstar : d.addPointer = { d with marks := d.marks ++ "*" } := by simp [addPointer, hd]
    obtain ⟨name, hname⟩ :=
      ih (fun hf => hdata (List.mem_append_left _ hf)) (d := d.addPointer) (by rw [hstar]; exact hd)
    refine ⟨name, ?_⟩
    rw [unwrapFrom_pointer kind inside, hname, hstar, sizes_append, List.count_append,
      Nat.add_comm, List.count_singleton_self, List.replicate_add, String.ofList_append,
      String.append_assoc]
    simp [sizes, size?]
  | array kind inside _ ih =>
    obtain ⟨name, hname⟩ :=
      ih (fun hf => hdata (List.mem_append_left _ hf)) (d := d.addArray _) hd
    refine ⟨name, ?_⟩
    rw [unwrapFrom_array kind inside, hname, sizes_append, List.count_append]
    simp [sizes, size?, addArray]
  | function => exact absurd (List.mem_append_right _ (List.mem_singleton_self _)) hdata
  | parens kind inside _ ih =>
    rw [unwrapFrom_parens kind inside]
    exact ih hdata hd

/-- What a declarator without functions adds to the type in front of it. -/
theorem Declares.suffix_unwrap {source : Source} {n : SyntaxNode} {parts : List TypePart}
    (h : Declares source n parts) (hdata : .function ∉ parts) :
    (unwrap source n).function = none ∧ (unwrap source n).isFunctionPointer = false ∧
      (unwrap source n).suffix = String.ofList (DeclaratorMark.row (TypePart.marks parts)) := by
  obtain ⟨name, hname⟩ := h.unwrapFrom_data hdata (d := blank) rfl
  unfold unwrap suffix
  rw [hname]
  refine ⟨rfl, rfl, String.toList_injective ?_⟩
  have hstars : DeclaratorMark.row (List.replicate (parts.count .pointer) .pointer) =
      List.replicate (parts.count .pointer) '*' := by
    simp [DeclaratorMark.row, DeclaratorMark.text, List.flatMap_replicate]
  have hsizes : DeclaratorMark.row ((sizes parts).map fun size => .size size.toList) =
      (String.join ((sizes parts).map fun size => "[" ++ size ++ "]")).toList := by
    rw [String.toList_join]
    simp [DeclaratorMark.row, DeclaratorMark.text, List.flatMap_map]
  rw [String.toList_ofList, TypePart.marks, DeclaratorMark.row, List.flatMap_append]
  show _ = DeclaratorMark.row _ ++ DeclaratorMark.row _
  rw [hstars, hsizes]
  simp [blank]

/-- A part of a type is a function, and a pointer stands in front of it. -/
def PointsToFunction (parts : List TypePart) : Prop :=
  ∃ inner outer, parts = inner ++ .function :: outer ∧ .pointer ∈ inner

theorem PointsToFunction.of_concat {parts : List TypePart} {part : TypePart}
    (h : PointsToFunction (parts ++ [part])) :
    part = .function ∧ .pointer ∈ parts ∨ PointsToFunction parts := by
  obtain ⟨inner, outer, heq, hpointer⟩ := h
  obtain rfl | ⟨outer, last, rfl⟩ := List.eq_nil_or_concat outer
  · obtain ⟨rfl, rfl⟩ := List.append_singleton_inj.1 heq
    exact .inl ⟨rfl, hpointer⟩
  · rw [List.concat_eq_append, ← List.cons_append, ← List.append_assoc] at heq
    obtain ⟨rfl, -⟩ := List.append_singleton_inj.1 heq
    exact .inr ⟨inner, outer, rfl, hpointer⟩

/-- A pointer inside a function makes a pointer to a function, whatever is around them. -/
theorem Declares.isFunctionPointer_unwrapFrom {source : Source} {n : SyntaxNode}
    {parts : List TypePart} (h : Declares source n parts) {d : Declarator}
    (hd : d.isFunctionPointer = true ∨ (d.function.isSome = true ∧ .pointer ∈ parts) ∨
      PointsToFunction parts) :
    (unwrapFrom source d n).isFunctionPointer = true := by
  induction h generalizing d with
  | name kind =>
    rw [unwrapFrom_name kind]
    rcases hd with hd | ⟨-, hmem⟩ | ⟨inner, outer, heq, -⟩
    · exact hd
    · cases hmem
    · exact absurd heq.symm (List.append_ne_nil_of_right_ne_nil _ (List.cons_ne_nil _ _))
  | pointer kind inside _ ih =>
    rw [unwrapFrom_pointer kind inside]
    rcases hd with hd | ⟨hfunction, -⟩ | hd
    · refine ih (.inl ?_)
      unfold addPointer
      split
      · rfl
      · exact hd
    · refine ih (.inl ?_)
      rw [addPointer, if_pos hfunction]
    · rcases hd.of_concat with ⟨heq, -⟩ | hd
      · cases heq
      · exact ih (.inr (.inr hd))
  | array kind inside _ ih =>
    rw [unwrapFrom_array kind inside]
    rcases hd with hd | ⟨hfunction, hmem⟩ | hd
    · exact ih (.inl hd)
    · rcases List.mem_append.1 hmem with hmem | hmem
      · exact ih (.inr (.inl ⟨hfunction, hmem⟩))
      · cases List.mem_singleton.1 hmem
    · rcases hd.of_concat with ⟨heq, -⟩ | hd
      · cases heq
      · exact ih (.inr (.inr hd))
  | @function n c parts kind inside _ ih =>
    rw [unwrapFrom_function kind inside]
    have hsome : (d.addFunction n).function.isSome = true := by
      cases hf : d.function <;> simp [addFunction, hf]
    rcases hd with hd | ⟨-, hmem⟩ | hd
    · exact ih (.inl hd)
    · rcases List.mem_append.1 hmem with hmem | hmem
      · exact ih (.inr (.inl ⟨hsome, hmem⟩))
      · cases List.mem_singleton.1 hmem
    · rcases hd.of_concat with ⟨-, hmem⟩ | hd
      · exact ih (.inr (.inl ⟨hsome, hmem⟩))
      · exact ih (.inr (.inr hd))
  | parens kind inside _ ih =>
    rw [unwrapFrom_parens kind inside]
    exact ih hd

end Declarator

/-- Where there is a function in the type of a data member, there is a pointer to it. -/
theorem IsFieldType.pointsToFunction {parts : List TypePart} (h : IsFieldType parts)
    (hfunction : .function ∈ parts) : Declarator.PointsToFunction parts := by
  obtain ⟨inner, outer, rfl⟩ := List.append_of_mem hfunction
  refine ⟨inner, outer, rfl, ?_⟩
  obtain rfl | ⟨inner, last, rfl⟩ := List.eq_nil_or_concat inner
  · exact absurd rfl h.data
  · have hchain := h.coherent
    rw [List.concat_eq_append, List.append_assoc] at hchain
    have hlast := (List.isChain_append_cons_cons.1 hchain).2.1
    cases last with
    | pointer => simp
    | array | function => cases hlast

/-- The marks of types without functions are spelled alike just if the types have as many pointers,
and the same sizes in the same order. -/
theorem row_marks_eq_iff {parts others : List TypePart} (h : IsFieldType parts)
    (h' : IsFieldType others) :
    DeclaratorMark.row (marks parts) = DeclaratorMark.row (marks others) ↔
      parts.count .pointer = others.count .pointer ∧ sizes parts = sizes others := by
  constructor
  · intro heq
    obtain ⟨hcount, hrow⟩ := DeclaratorMark.eq_of_row_stars heq
    exact ⟨hcount, DeclaratorMark.eq_of_row_sizes h.enclosed h'.enclosed hrow⟩
  · rintro ⟨hcount, hsizes⟩
    rw [marks, hcount, hsizes]
    rfl

/-- No marks are spelled like a pointer to a function. -/
theorem row_marks_ne_function (parts : List TypePart) :
    String.ofList (DeclaratorMark.row (marks parts)) ≠ "(*)()" := by
  intro heq
  have hrow : DeclaratorMark.row (marks parts) = "(*)()".toList := by
    rw [← heq, String.toList_ofList]
  unfold marks at hrow
  revert hrow
  cases parts.count .pointer with
  | zero => cases sizes parts <;> exact fun h => by cases h
  | succ k => exact fun h => by cases h

/-- Types are spelled alike just if both have a function, or none has one and they have as many
pointers, and the same sizes in the same order. -/
theorem spelling_eq_iff {parts others : List TypePart} (h : IsFieldType parts)
    (h' : IsFieldType others) (base : String) :
    spelling base parts = spelling base others ↔
      (.function ∈ parts ↔ .function ∈ others) ∧
        (.function ∉ parts →
          parts.count .pointer = others.count .pointer ∧ sizes parts = sizes others) := by
  unfold spelling
  split_ifs with hfunction hfunction' hfunction'
  · simp [hfunction, hfunction']
  · simp [String.append_right_inj, hfunction, hfunction', (row_marks_ne_function others).symm]
  · simp [String.append_right_inj, hfunction, hfunction', row_marks_ne_function parts]
  · have hmarks : String.ofList (DeclaratorMark.row (marks parts)) =
        String.ofList (DeclaratorMark.row (marks others)) ↔
          DeclaratorMark.row (marks parts) = DeclaratorMark.row (marks others) :=
      ⟨fun heq => by simpa using congrArg String.toList heq, congrArg _⟩
    rw [String.append_right_inj, hmarks, row_marks_eq_iff h h']
    simp [hfunction, hfunction']

/-! ### Types that are told apart -/

theorem isFieldType_of_data {parts : List TypePart} (hdata : .function ∉ parts)
    (henclosed : ∀ size ∈ sizes parts, IsEnclosed size.toList) : IsFieldType parts where
  coherent := by
    refine (List.pairwise_of_forall_mem_list fun inner hinner outer houter => ?_).isChain
    cases inner <;> cases outer <;> first
      | rfl
      | exact absurd hinner hdata
      | exact absurd houter hdata
  data := fun hhead => hdata (List.mem_of_head? hhead)
  enclosed := henclosed

/-- Anything can be pointed to. -/
theorem IsFieldType.concat_pointer {parts : List TypePart} (h : IsFieldType parts)
    (hne : parts ≠ []) : IsFieldType (parts ++ [.pointer]) where
  coherent := by
    refine List.isChain_append.2 ⟨h.coherent, List.isChain_singleton _, ?_⟩
    intro inner _ outer houter
    cases houter
    cases inner <;> rfl
  data := by
    rw [List.head?_append_of_ne_nil _ hne]
    exact h.data
  enclosed := by
    rw [sizes_append]
    exact fun size hsize => h.enclosed size (by simpa [sizes, size?] using hsize)

namespace TypePart

/-- Arrays without pointers are what their sizes say. -/
theorem eq_map_sizes {parts : List TypePart} (hdata : function ∉ parts)
    (hpointer : pointer ∉ parts) : parts = (sizes parts).map array := by
  induction parts with
  | nil => rfl
  | cons part parts ih =>
    rw [List.mem_cons, not_or] at hdata hpointer
    cases part with
    | pointer => exact absurd rfl hpointer.1
    | function => exact absurd rfl hdata.1
    | array size => exact congrArg (array size :: ·) (ih hdata.2 hpointer.2)

/-- Pointers without arrays are as many as there are. -/
theorem eq_replicate {parts : List TypePart} (hdata : function ∉ parts)
    (hsizes : sizes parts = []) : parts = List.replicate (parts.count pointer) pointer := by
  have hall : ∀ part ∈ parts, part = pointer := by
    intro part hpart
    cases part with
    | pointer => rfl
    | function => exact absurd hpart hdata
    | array size =>
      have hsize := mem_sizes_iff.2 hpart
      rw [hsizes] at hsize
      cases hsize
  rw [List.count_eq_length.2 fun part hpart => (hall part hpart).symm]
  exact List.eq_replicate_of_mem hall

/-- Types without functions that do not mix pointers and arrays are told apart by the number of
their pointers and by their sizes. -/
theorem eq_of_unmixed {parts others : List TypePart} (hdata : function ∉ parts)
    (hdata' : function ∉ others) (hunmixed : pointer ∉ parts ∨ sizes parts = [])
    (hcount : parts.count pointer = others.count pointer) (hsizes : sizes parts = sizes others) :
    parts = others := by
  rcases hunmixed with hpointer | hnone
  · have hpointer' : pointer ∉ others := by
      rwa [← List.count_eq_zero, ← hcount, List.count_eq_zero]
    rw [eq_map_sizes hdata hpointer, hsizes, ← eq_map_sizes hdata' hpointer']
  · rw [eq_replicate hdata hnone, hcount, ← eq_replicate hdata' (hsizes ▸ hnone)]

end TypePart

/-- Where there is a function, or pointers and arrays, another type is spelled alike. -/
theorem IsFieldType.exists_other {parts : List TypePart} (h : IsFieldType parts)
    (hmixed : ¬(.function ∉ parts ∧ (.pointer ∉ parts ∨ sizes parts = []))) (base : String) :
    ∃ others, IsFieldType others ∧ others ≠ parts ∧ sizes others = sizes parts ∧
      spelling base others = spelling base parts := by
  by_cases hfunction : .function ∈ parts
  · refine ⟨parts ++ [.pointer], h.concat_pointer (List.ne_nil_of_mem hfunction), ?_, ?_, ?_⟩
    · simp
    · rw [sizes_append]
      exact List.append_nil _
    · rw [spelling, spelling, if_pos hfunction, if_pos (List.mem_append_left _ hfunction)]
  · have hboth : .pointer ∈ parts ∧ sizes parts ≠ [] := by tauto
    have halike : ∀ others, .function ∉ others →
        others.count .pointer = parts.count .pointer → sizes others = sizes parts →
        IsFieldType others ∧ spelling base others = spelling base parts := by
      intro others hdata hcount hsizes
      have hothers := isFieldType_of_data hdata (hsizes ▸ h.enclosed)
      refine ⟨hothers, (spelling_eq_iff hothers h base).2 ⟨?_, fun _ => ⟨hcount, hsizes⟩⟩⟩
      simp [hdata, hfunction]
    -- of the two ways to order pointers and arrays one is another type
    let stars := List.replicate (parts.count .pointer) TypePart.pointer
    let arrays := (sizes parts).map TypePart.array
    have hne : arrays ++ stars ≠ stars ++ arrays := by
      obtain ⟨k, hk⟩ := Nat.exists_eq_succ_of_ne_zero
        (List.count_pos_iff.2 hboth.1 : 0 < parts.count .pointer).ne'
      obtain ⟨size, rest, hsizes⟩ := List.exists_cons_of_ne_nil hboth.2
      simp [stars, arrays, hk, hsizes, List.replicate_succ]
    by_cases hparts : parts = stars ++ arrays
    · obtain ⟨htype, hspelling⟩ := halike (arrays ++ stars) (by simp [stars, arrays])
        (by simp [stars, arrays]) (by simp [stars, arrays, sizes_append])
      exact ⟨_, htype, fun heq => hne (heq.trans hparts), by simp [stars, arrays, sizes_append],
        hspelling⟩
    · obtain ⟨htype, hspelling⟩ := halike (stars ++ arrays) (by simp [stars, arrays])
        (by simp [stars, arrays]) (by simp [stars, arrays, sizes_append])
      exact ⟨_, htype, Ne.symm hparts, by simp [stars, arrays, sizes_append], hspelling⟩

/-! ### Declarators of all types -/

namespace Declarator

/-- Sizes are texts of the source. -/
theorem Declares.exists_size {source : Source} {n : SyntaxNode} {parts : List TypePart}
    (h : Declares source n parts) {size : String} (hsize : size ∈ sizes parts) :
    ∃ o, source.textOf o = size := by
  induction h with
  | name => cases hsize
  | array kind inside _ ih =>
    rw [sizes_append] at hsize
    rcases List.mem_append.1 hsize with hsize | hsize
    · exact ih hsize
    · exact ⟨_, (List.mem_singleton.1 hsize).symm⟩
  | pointer _ _ _ ih | function _ _ _ ih =>
    rw [sizes_append] at hsize
    rcases List.mem_append.1 hsize with hsize | hsize
    · exact ih hsize
    · cases hsize
  | parens _ _ _ ih => exact ih hsize

/-- A declarator inside another one. -/
def layerNode (kind : String) (inside : List SyntaxNode) : SyntaxNode :=
  ⟨kind, 0, 0, true, false, some "declarator", inside⟩

/-- Any parts are declared by some tree if their sizes are texts of the source. Each part is in
parentheses, so that the tree is one of the grammar. -/
theorem exists_declares {source : Source} {parts : List TypePart}
    (h : ∀ size ∈ sizes parts, ∃ o, source.textOf o = size) :
    ∃ n, n.named = true ∧ Declares source n parts := by
  induction parts using List.reverseRecOn with
  | nil => exact ⟨layerNode "field_identifier" [], rfl, .name (.inr rfl)⟩
  | append_singleton parts part ih =>
    rw [sizes_append] at h
    obtain ⟨c, hnamed, hc⟩ := ih fun size hsize => h size (List.mem_append_left _ hsize)
    let parens := layerNode "parenthesized_declarator" [c]
    have hparens : Declares source parens parts :=
      .parens rfl (by simp [SyntaxNode.namedChildren, parens, layerNode, hnamed]) hc
    cases part with
    | pointer => exact ⟨layerNode "pointer_declarator" [parens], rfl, .pointer rfl rfl hparens⟩
    | function => exact ⟨layerNode "function_declarator" [parens], rfl, .function rfl rfl hparens⟩
    | array size =>
      obtain ⟨o, rfl⟩ := h size (List.mem_append_right _ (List.mem_singleton_self _))
      let n := layerNode "array_declarator"
        (parens :: o.toList.map fun n => { n with field := some "size" })
      have htext : source.textOf (n.child? "size") = source.textOf o := by
        cases o <;> rfl
      exact ⟨n, rfl, htext ▸ .array rfl rfl hparens⟩

end Declarator

/-! ### Fields -/

namespace Header

open Library

/-- What a declarator of a member declares, behind the text of a type, is a field of a class, and it
has a text as its type. -/
def TypesField (h : Header) (lib : Library) (owner : Nat) (base : String) (c : SyntaxNode)
    (type : String) : Prop :=
  ∀ n access comment defined, ∃ out d,
    outcomeOf (h.readMember n owner access comment defined base c) lib = (.ok (), out) ∧
      out.decl? lib.created = some d ∧ d.body = .field type access

variable {h : Header} {lib : Library} {owner : Nat} {c : SyntaxNode} {parts : List TypePart}

/-- A class takes in a field, and a note on it leaves its type. -/
theorem exists_createField (howner : lib.HasForm owner [.record]) (name type comment : String)
    (access : Access) (defined : Option Nat) : ∃ out d,
    outcomeOf (do
      let id ← h.create (.field type access) owner name c comment
      match defined with
      | none => pure ()
      | some t =>
        modify (·.update id fun f =>
          { f with notes := f.notes.put "type_declaration_id" (.int t) }) : Build Unit) lib =
        (.ok (), out) ∧
      out.decl? lib.created = some d ∧ d.body = .field type access := by
  obtain ⟨o, ho, hform⟩ := howner
  let d := h.describe name c comment (lib.blankDecl (some owner) (.field type access))
  obtain ⟨b, hb⟩ : ∃ b, o.body.insert? d.body lib.created = some b := by
    refine Option.isSome_iff_exists.1 (Body.insert?_isSome_iff.2 ?_)
    rw [List.mem_singleton.1 hform]
    rfl
  have hcreate : outcomeOf (h.create (.field type access) owner name c comment) lib =
      (.ok lib.created, (lib.append d).update owner fun o => { o with body := b }) := by
    have hedit := Edit.outcomeOf_create (.field type access) (h.describe name c comment) ho
      (show d = h.describe name c comment (lib.blankDecl (some owner) _) from rfl)
    rw [hb] at hedit
    unfold create
    rw [outcomeOf_buildEdit, hedit]
    rfl
  have hnew : ((lib.append d).update owner fun o => { o with body := b }).decl? lib.created =
      some d := by
    rw [decl?_update, if_neg (Nat.ne_of_lt (lt_created_of_decl? ho)), decl?_append, if_pos rfl]
  rw [outcomeOf_bind_ok hcreate]
  cases defined with
  | none => exact ⟨_, d, rfl, hnew, rfl⟩
  | some t =>
    refine ⟨_, { d with notes := d.notes.put "type_declaration_id" (.int t) }, rfl, ?_, rfl⟩
    rw [decl?_update, if_pos rfl, hnew]
    rfl

/-- The type of a field is the spelling of what its declarator declares. -/
theorem typesField_spelling (howner : lib.HasForm owner [.record])
    (hparts : Declarator.Declares h.source c parts) (htype : IsFieldType parts) (base : String) :
    h.TypesField lib owner base c (spelling base parts) := by
  intro n access comment defined
  unfold readMember spelling
  dsimp only
  by_cases hfunction : .function ∈ parts
  · have hpointer := hparts.isFunctionPointer_unwrapFrom (d := .blank)
      (.inr (.inr (htype.pointsToFunction hfunction)))
    rw [show (Declarator.unwrap h.source c).isFunctionPointer = true from hpointer,
      if_pos hfunction]
    cases (Declarator.unwrap h.source c).function <;>
      exact exists_createField howner _ _ comment access defined
  · obtain ⟨hnone, hpointer, hsuffix⟩ := hparts.suffix_unwrap hfunction
    rw [hnone, hpointer, hsuffix, if_neg hfunction]
    exact exists_createField howner _ _ comment access defined

/-- A declarator gives its field one type. -/
theorem typesField_iff (howner : lib.HasForm owner [.record])
    (hparts : Declarator.Declares h.source c parts) (htype : IsFieldType parts) {base : String}
    {type : String} : h.TypesField lib owner base c type ↔ type = spelling base parts := by
  have hspelling := typesField_spelling howner hparts htype base
  constructor
  · intro hother
    obtain ⟨out, d, hrun, hd, hbody⟩ := hspelling c .everyone "" none
    obtain ⟨out', d', hrun', hd', hbody'⟩ := hother c .everyone "" none
    rw [hrun] at hrun'
    cases hrun'
    rw [hd] at hd'
    cases hd'
    rw [hbody] at hbody'
    cases hbody'
    rfl
  · rintro rfl
    exact hspelling

/-- Every data member is a field whose type has one text. Two of them with one base type have the
same text just if both have a function among their parts, or none has one and they have as many
pointers, and the same sizes in the same order. So a member is told apart from all those of another
type just if there is no function among its parts, and not both pointers and arrays. -/
theorem typesField_apart_iff (howner : lib.HasForm owner [.record])
    (hparts : Declarator.Declares h.source c parts) (htype : IsFieldType parts) (base : String) :
    ∃ type, h.TypesField lib owner base c type ∧
      (∀ (h' : Header) lib' owner' c' parts', Library.HasForm lib' owner' [.record] →
        Declarator.Declares h'.source c' parts' → IsFieldType parts' →
        (h'.TypesField lib' owner' base c' type ↔
          (.function ∈ parts ↔ .function ∈ parts') ∧
            (.function ∉ parts →
              parts.count .pointer = parts'.count .pointer ∧ sizes parts = sizes parts'))) ∧
      ((∀ c' parts', Declarator.Declares h.source c' parts' → IsFieldType parts' →
          parts' ≠ parts → ¬h.TypesField lib owner base c' type) ↔
        .function ∉ parts ∧ (.pointer ∉ parts ∨ sizes parts = [])) := by
  refine ⟨spelling base parts, typesField_spelling howner hparts htype base, ?_, ?_⟩
  · intro h' lib' owner' c' parts' howner' hparts' htype'
    rw [typesField_iff howner' hparts' htype', spelling_eq_iff htype htype']
  constructor
  · intro happart
    by_contra hmixed
    obtain ⟨others, hothers, hne, hsizes, halike⟩ := htype.exists_other hmixed base
    obtain ⟨c', -, hc'⟩ := Declarator.exists_declares fun size hsize =>
      hparts.exists_size (hsizes ▸ hsize)
    exact happart c' others hc' hothers hne
      ((typesField_iff howner hc' hothers).2 halike.symm)
  · rintro ⟨hdata, hunmixed⟩ c' parts' hc' htype' hne hfield
    rw [typesField_iff howner hc' htype', spelling_eq_iff htype htype'] at hfield
    obtain ⟨hfunction, hsame⟩ := hfield
    obtain ⟨hcount, hsizes⟩ := hsame hdata
    exact hne (eq_of_unmixed hdata (fun hf => hdata (hfunction.2 hf)) hunmixed hcount hsizes).symm

/-! ### A pointer and an array -/

/-- A library with a class. -/
def oneClass : Library :=
  (Library.empty .null .null).append (.blank 0 none (.blank .record))

/-- A header with an array of pointers, and with a pointer to an array. -/
def marksHeader : Header :=
  ⟨"a.h", "struct S { int *a[3]; int (*b)[3]; };".toUTF8.toList⟩

/-- The declarator of an array, without the star in front of it. -/
def plainArray : SyntaxNode :=
  ruleNode "array_declarator" 16 20 (some "declarator")
    [ruleNode "field_identifier" 16 17 (some "declarator") [],
      ruleNode "number_literal" 18 19 (some "size") []]

/-- The declarator of the array of pointers. -/
def arrayOfPointers : SyntaxNode :=
  ruleNode "pointer_declarator" 15 20 (some "declarator") [plainArray]

/-- The declarator of the pointer to an array. -/
def pointerToArray : SyntaxNode :=
  ruleNode "array_declarator" 26 33 (some "declarator")
    [ruleNode "parenthesized_declarator" 26 30 (some "declarator")
        [ruleNode "pointer_declarator" 27 29 none
          [ruleNode "field_identifier" 28 29 (some "declarator") []]],
      ruleNode "number_literal" 31 32 (some "size") []]

/-- Both arrays are declared with the same size. -/
theorem sizes_marksHeader : marksHeader.source.textOf (plainArray.child? "size") = "3" ∧
    marksHeader.source.textOf (pointerToArray.child? "size") = "3" := by
  decide +kernel

theorem declares_plainArray : Declarator.Declares marksHeader.source plainArray [.array "3"] := by
  rw [← sizes_marksHeader.1]
  exact .array rfl rfl (.name (.inr rfl))

theorem declares_arrayOfPointers :
    Declarator.Declares marksHeader.source arrayOfPointers [.array "3", .pointer] :=
  .pointer rfl rfl declares_plainArray

theorem declares_pointerToArray :
    Declarator.Declares marksHeader.source pointerToArray [.pointer, .array "3"] := by
  rw [← sizes_marksHeader.2]
  exact .array rfl rfl (.parens rfl rfl (.pointer rfl rfl (.name (.inr rfl))))

theorem oneClass_hasForm : oneClass.HasForm 0 [.record] :=
  ⟨_, rfl, by decide⟩

theorem isEnclosed_three : ∀ size ∈ ["3"], IsEnclosed size.toList := by
  intro size hsize
  rw [List.mem_singleton.1 hsize]
  exact .char (by decide) .nil

/-- An array is told apart from all members of other types. -/
theorem typesField_apart_plainArray :
    oneClass.HasForm 0 [.record] ∧
      Declarator.Declares marksHeader.source plainArray [.array "3"] ∧
      IsFieldType [.array "3"] ∧
      ∃ type, marksHeader.TypesField oneClass 0 "int" plainArray type ∧
        ∀ c' parts', Declarator.Declares marksHeader.source c' parts' → IsFieldType parts' →
          parts' ≠ [.array "3"] → ¬marksHeader.TypesField oneClass 0 "int" c' type := by
  have htype : IsFieldType [.array "3"] := isFieldType_of_data (by decide) isEnclosed_three
  obtain ⟨type, hfield, -, happart⟩ :=
    typesField_apart_iff oneClass_hasForm declares_plainArray htype "int"
  exact ⟨oneClass_hasForm, declares_plainArray, htype, type, hfield, happart.2 (by decide)⟩

/-- An array of pointers and a pointer to an array have the same text. -/
theorem arrayOfPointers_not_apart : ∃ parts parts' : List TypePart,
    Declarator.Declares marksHeader.source arrayOfPointers parts ∧ IsFieldType parts ∧
      Declarator.Declares marksHeader.source pointerToArray parts' ∧ IsFieldType parts' ∧
      parts ≠ parts' ∧
      marksHeader.TypesField oneClass 0 "int" arrayOfPointers "int*[3]" ∧
      marksHeader.TypesField oneClass 0 "int" pointerToArray "int*[3]" := by
  have harray : IsFieldType [.array "3", .pointer] :=
    isFieldType_of_data (by decide) isEnclosed_three
  have hpointer : IsFieldType [.pointer, .array "3"] :=
    isFieldType_of_data (by decide) isEnclosed_three
  exact ⟨_, _, declares_arrayOfPointers, harray, declares_pointerToArray, hpointer, by decide,
    typesField_spelling oneClass_hasForm declares_arrayOfPointers harray "int",
    typesField_spelling oneClass_hasForm declares_pointerToArray hpointer "int"⟩

end Header

end Bindery
