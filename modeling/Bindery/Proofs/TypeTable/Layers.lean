import Bindery.Proofs.TypeTable.Pointers

/-!
# Layers of a description

A type expression is a core with layers around it: pointers, and arrays of some size. Whatever text
a type is given by, and whatever declarations are known, a search that has room comes to an end with
a description that says how the type is spelled normally. If the description is no opaque handle,
its core has a meaning of its own: it is a type of the table, the type of enumerations, the untyped
pointer, or a class with a layout that is known by name. Only a class like that, by itself or in
arrays, makes a description refer to a declaration by value, and then it refers to that class.
-/

namespace Bindery

/-- What a type expression puts around another one. -/
inductive TypeLayer where
  /-- A pointer to it. -/
  | pointer
  /-- An array of it. -/
  | array (size : String)
deriving DecidableEq

/-- A layer as generated code writes it around a type expression. -/
def TypeLayer.around : TypeLayer → String → String
  | pointer, inner => "ctypes.POINTER(" ++ inner ++ ")"
  | array size, inner => "(" ++ inner ++ " * " ++ size ++ ")"

namespace ForeignType

/-- What is left of a type expression without its pointers and arrays. -/
def core : ForeignType → ForeignType
  | pointer target => target.core
  | array item _ => item.core
  | t => t

/-- The pointers and arrays of a type expression, from the outside in. -/
def layers : ForeignType → List TypeLayer
  | pointer target => .pointer :: target.layers
  | array item size => .array size :: item.layers
  | _ => []

/-- A type expression is written as its core with its layers around it. -/
theorem foldr_around (t : ForeignType) : t.layers.foldr TypeLayer.around t.core.text = t.text := by
  induction t with
  | nothing => rfl
  | basic name => rfl
  | named name => rfl
  | pointer target ih => exact congrArg (TypeLayer.around .pointer) ih
  | array item size ih => exact congrArg (TypeLayer.around (.array size)) ih

end ForeignType

/-- A class with a layout that is known by name. -/
def NameIndex.HasClass (index : NameIndex) (r : Referent) : Prop :=
  r.form = .layoutClass ∧ ∃ name, index.get? name = some r

namespace TypeTable

open Bindery.Signature

variable {index : NameIndex}

/-- The type expressions that are meaningful cores. -/
inductive IsHeart (index : NameIndex) : ForeignType → Prop where
  /-- A type of the table. -/
  | line {d : Descriptor} (h : d ∈ builtins) : IsHeart index d.foreignType
  /-- The type of enumerations. -/
  | enumeration : IsHeart index (.basic "c_int")
  /-- The untyped pointer. -/
  | untyped : IsHeart index (.basic "c_void_p")
  /-- A class with a layout that is known by name. -/
  | layoutClass {r : Referent} (h : index.HasClass r) : IsHeart index (.named r.name)

/-- A description with a meaningful core, which refers to a declaration by value just if the core is
a class that is under no pointer. -/
structure IsLayered (index : NameIndex) (d : Descriptor) : Prop where
  /-- Its core has a meaning. -/
  heart : IsHeart index d.foreignType.core
  /-- Its kind shows whether it is a class, by itself or in arrays. -/
  kind_iff : d.kind = .declaration ↔
    (∃ r, index.HasClass r ∧ d.foreignType.core = .named r.name) ∧
      .pointer ∉ d.foreignType.layers
  /-- A class is what it refers to. -/
  refers : d.kind = .declaration →
    ∃ r, index.HasClass r ∧ d.foreignType.core = .named r.name ∧ d.declaration = r.id

namespace IsLayered

variable {d inner : Descriptor}

/-- What is no class, or is under a pointer, refers to nothing by value. -/
theorem of_kind_ne (hheart : IsHeart index d.foreignType.core) (hkind : d.kind ≠ .declaration)
    (hclass : (∀ name, d.foreignType.core ≠ .named name) ∨ .pointer ∈ d.foreignType.layers) :
    IsLayered index d where
  heart := hheart
  kind_iff := by
    refine iff_of_false hkind ?_
    rintro ⟨⟨r, -, hcore⟩, hpointer⟩
    exact hclass.elim (fun hname => hname _ hcore) hpointer
  refers := fun h => absurd h hkind

theorem untyped (htype : d.foreignType = .basic "c_void_p") (hkind : d.kind = .pointer) :
    IsLayered index d := by
  refine of_kind_ne ?_ ?_ (.inl ?_)
  · rw [htype]
    exact .untyped
  · rw [hkind]
    exact nofun
  · rw [htype]
    exact fun _ => nofun

/-- The lines of the table have no layers, and none of them is a class. -/
theorem line (h : d ∈ builtins) : IsLayered index d := by
  have hkind : ∀ d ∈ builtins, d.kind ≠ .declaration := by
    decide
  rcases foreignType_builtin h with hnothing | ⟨name, -, hbasic⟩
  · have hheart : IsHeart index d.foreignType := .line h
    rw [hnothing] at hheart
    exact of_kind_ne (hnothing ▸ hheart) (hkind d h) (.inl fun _ => hnothing ▸ nofun)
  · have hheart : IsHeart index d.foreignType := .line h
    rw [hbasic] at hheart
    exact of_kind_ne (hbasic ▸ hheart) (hkind d h) (.inl fun _ => hbasic ▸ nofun)

/-- A pointer is untyped, or one layer more. -/
theorem pointTo (native : List Char) (h : inner.kind ≠ .opaqueHandle → IsLayered index inner) :
    IsLayered index (pointTo native inner) := by
  have hkind : (TypeTable.pointTo native inner).kind = .pointer := by
    unfold TypeTable.pointTo
    cases inner.kind <;> dsimp only <;> (try split_ifs) <;> rfl
  rcases pointTo_cases native inner with huntyped | ⟨hk, htyped⟩
  · exact .untyped huntyped hkind
  · refine of_kind_ne ?_ ?_ (.inr ?_)
    · rw [htyped]
      exact (h hk).heart
    · rw [hkind]
      exact nofun
    · rw [htyped]
      exact List.mem_cons_self ..

/-- An array is of the kind of its items, with one layer more. -/
theorem arrayOf (native size : List Char)
    (h : inner.kind ≠ .opaqueHandle → IsLayered index inner)
    (hk : (arrayOf native size inner).kind ≠ .opaqueHandle) :
    IsLayered index (arrayOf native size inner) := by
  unfold TypeTable.arrayOf at hk ⊢
  split_ifs at hk ⊢ with hvoid
  · exact .untyped rfl rfl
  all_goals
    obtain ⟨hheart, hiff, hrefers⟩ := h hk
    refine ⟨hheart, hiff.trans (and_congr_right fun _ => not_congr ?_), hrefers⟩
    exact ⟨List.mem_cons_of_mem _, fun hmem => (List.mem_cons.1 hmem).resolve_left nofun⟩

theorem referTo {native : List Char} (hk : (referTo index native).kind ≠ .opaqueHandle) :
    IsLayered index (referTo index native) := by
  rcases referTo_cases index native with ⟨name, r, hr, heq⟩ | ⟨hhandle, -⟩
  · rw [heq] at hk ⊢
    cases hform : r.form with
    | enumeration => exact of_kind_ne .enumeration nofun (.inl fun _ => nofun)
    | layoutClass =>
      have hclass : index.HasClass r := ⟨hform, name, hr⟩
      exact ⟨.layoutClass hclass, iff_of_true rfl ⟨⟨r, hclass, rfl⟩, List.not_mem_nil⟩,
        fun _ => ⟨r, hclass, rfl, rfl⟩⟩
    | other =>
      rw [hform] at hk
      exact absurd rfl hk
  · exact absurd hhandle hk

end IsLayered

/-- A description that is no opaque handle is layered. -/
theorem isLayered_describe (signature : List Char)
    (hk : (standard.describe index signature).kind ≠ .opaqueHandle) :
    IsLayered index (standard.describe index signature) := by
  fun_induction standard.describe index signature with
  | case1 signature native d hs => exact .line (mem_entries_of_shape (.inl hs))
  | case2 signature native hs => exact .untyped rfl rfl
  | case3 signature native target hs ih => exact .pointTo native ih
  | case4 signature native item size hs ih => exact .arrayOf native size ih hk
  | case5 signature native d hs =>
    have hline : standard.shape native = .known d ∨ standard.shape native = .template d := .inr hs
    have hlayered : IsLayered index d := .line (mem_entries_of_shape hline)
    exact ⟨hlayered.heart, hlayered.kind_iff, hlayered.refers⟩
  | case6 signature native hs => exact .referTo hk

/-! ### Searches -/

theorem native_of_known {t : TypeTable} {native : List Char} {d : Descriptor}
    (h : t.shape native = .known d) : d.native = String.ofList native := by
  unfold shape at h
  cases he : t.entry? (String.ofList native) with
  | some e =>
    rw [he] at h
    cases h
    have hnative := List.find?_some he
    simpa using hnative
  | none =>
    rw [he] at h
    dsimp only at h
    split_ifs at h
    split at h
    · cases h
    · split at h <;> cases h

/-- A description says how the type is spelled normally. -/
theorem native_describe (signature : List Char) :
    (standard.describe index signature).native = String.ofList (normalizeChars signature) := by
  rw [describe_eq]
  split
  · next d hs => exact native_of_known hs
  · rfl
  · unfold pointTo
    dsimp only
    split <;> (try split_ifs) <;> rfl
  · unfold arrayOf
    split_ifs <;> rfl
  · rfl
  · unfold referTo
    dsimp only
    split
    · split <;> rfl
    · rfl

/-- A search for a type comes to its end just if there is room for the pointers and arrays that the
type is made of, two places or one for each; there are never more than two for each character.
Whatever the type and the declarations are, the description then says how the type is spelled
normally; its type expression is a core with layers, and they are meaningful unless the description
is an opaque handle. -/
theorem search_layered (index : NameIndex) (used : Nat) (signature : String) :
    standard.depth signature.toList ≤ 2 * signature.length ∧
    (DescentFault.room ≤ used + standard.depth signature.toList + 5 ∧
        (∃ f, standard.search used index signature = .error f) ∨
      used + standard.depth signature.toList + 5 < DescentFault.room ∧
        ∃ d, standard.search used index signature = .ok d ∧
          d.native = normalize signature ∧
          d.foreignType.text =
            d.foreignType.layers.foldr TypeLayer.around d.foreignType.core.text ∧
          (d.kind ≠ .opaqueHandle → IsLayered index d)) := by
  refine ⟨depth_le standard signature.toList, ?_⟩
  by_cases hroom : used + standard.depth signature.toList + 5 < DescentFault.room
  · exact .inr ⟨hroom, standard.lookup index signature, search_eq_ok hroom, native_describe _,
      (ForeignType.foldr_around _).symm, isLayered_describe _⟩
  · refine .inl ⟨Nat.le_of_not_lt hroom, ?_⟩
    cases hsearch : standard.search used index signature with
    | error f => exact ⟨f, rfl⟩
    | ok d => exact absurd (exists_search_iff.1 ⟨d, hsearch⟩) hroom

/-- There is no room for five hundred stars. -/
theorem not_exists_search_five_hundred_stars :
    ¬∃ d, standard.search DescentFault.takenAlone []
      (String.ofList ("double".toList ++ stars 500)) = .ok d := by
  have hdouble : PointedTo [] "double" :=
    .builtin (d := ⟨"double", .text "float", .basic "c_double", .primitive, .null⟩) rfl rfl
      (by decide)
  rw [hdouble.exists_search_stars_iff]
  decide

end TypeTable

end Bindery
