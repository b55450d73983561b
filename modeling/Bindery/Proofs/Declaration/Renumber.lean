import Bindery.Proofs.Declaration.Lists
import Mathlib.Data.List.Basic

/-!
# Other numbers

What declarations say of each other they say by number. Here all numbers in a declaration are
replaced: its own, which is also its place in the order, that of its scope, those on its lists, that
of its definition, and the one noted down for the type that was defined together with it. Replacing
numbers twice is replacing them once, and lists take declarations in as before.
-/

namespace Bindery

/-! ### Bodies -/

/-- A scope with other numbers. -/
def Scope.renumber (ρ : Nat → Nat) (s : Scope) : Scope :=
  ⟨s.namespaces.map ρ, s.classes.map ρ, s.enums.map ρ, s.functions.map ρ⟩

/-- A prototype with other numbers. -/
def Prototype.renumber (ρ : Nat → Nat) (p : Prototype) : Prototype :=
  { p with parameters := p.parameters.map ρ }

/-- A class with other numbers. -/
def Record.renumber (ρ : Nat → Nat) (r : Record) : Record :=
  { r with
    fields := r.fields.map ρ
    methods := r.methods.map ρ
    classes := r.classes.map ρ
    enums := r.enums.map ρ
    definition := r.definition.map ρ }

namespace Body

/-- A body with other numbers. -/
def renumber (ρ : Nat → Nat) : Body → Body
  | unit s file => unit (s.renumber ρ) file
  | space s => space (s.renumber ρ)
  | record r => record (r.renumber ρ)
  | method p t => method (p.renumber ρ) t
  | function p => function (p.renumber ρ)
  | enumeration items u s => enumeration (items.map ρ) u s
  | b => b

variable (ρ σ : Nat → Nat)

@[simp] theorem form_renumber (b : Body) : (b.renumber ρ).form = b.form := by
  cases b <;> rfl

@[simp] theorem isRecord_renumber (b : Body) : (b.renumber ρ).isRecord = b.isRecord := by
  cases b <;> rfl

theorem listOf_renumber (b : Body) (list : String) :
    (b.renumber ρ).listOf list = (b.listOf list).map ρ := by
  cases b <;> simp only [renumber, listOf_unit, listOf_space, listOf_record, listOf_method,
    listOf_function, listOf_enumeration]
  case plain | field | parameter | enumItem => rfl
  all_goals split_ifs <;> rfl

theorem children_renumber (b : Body) : (b.renumber ρ).children = b.children.map ρ := by
  rw [children_eq_flatMap_listOf, children_eq_flatMap_listOf, form_renumber, List.map_flatMap]
  exact congrArg b.form.lists.flatMap (funext (listOf_renumber ρ b))

theorem renumber_renumber (b : Body) : (b.renumber σ).renumber ρ = b.renumber (ρ ∘ σ) := by
  cases b <;> simp [renumber, Scope.renumber, Record.renumber, Prototype.renumber]

/-- The numbers inside a body are all that matters. -/
theorem renumber_congr {ρ σ : Nat → Nat} {b : Body} (h : ∀ c ∈ b.children, ρ c = σ c)
    (hdef : b.record?.bind (·.definition) = none) : b.renumber ρ = b.renumber σ := by
  have hmap : ∀ ids : List Nat, (∀ c ∈ ids, c ∈ b.children) → ids.map ρ = ids.map σ :=
    fun ids hids => List.map_congr_left fun c hc => h c (hids c hc)
  cases b with
  | unit s file | space s =>
    simp [renumber, Scope.renumber, hmap s.namespaces (by simp +contextual [children]),
      hmap s.classes (by simp +contextual [children]),
      hmap s.enums (by simp +contextual [children]),
      hmap s.functions (by simp +contextual [children])]
  | record r =>
    have hnone : r.definition = none := hdef
    simp [renumber, Record.renumber, hnone, hmap r.fields (by simp +contextual [children]),
      hmap r.methods (by simp +contextual [children]),
      hmap r.classes (by simp +contextual [children]),
      hmap r.enums (by simp +contextual [children])]
  | method p t | function p =>
    simp [renumber, Prototype.renumber, hmap p.parameters (by simp [children])]
  | enumeration items u s => simp [renumber, hmap items (by simp [children])]
  | _ => rfl

/-- Lists take declarations in as before. -/
theorem insert?_renumber (b child : Body) (id : Nat) :
    (b.renumber ρ).insert? (child.renumber ρ) (ρ id) = (b.insert? child id).map (renumber ρ) := by
  cases b <;> cases child <;>
    simp [renumber, insert?, insertIntoScope?, insertIntoRecord?, Scope.renumber, Record.renumber,
      Prototype.renumber]

/-- Lists give declarations up as before, if different numbers stay different. -/
theorem erase?_renumber {ρ : Nat → Nat} (hρ : Function.Injective ρ) (b : Body) (id : Nat) :
    (b.renumber ρ).erase? (ρ id) = (b.erase? id).map (renumber ρ) := by
  have hcontains : ∀ ids : List Nat, (ids.map ρ).contains (ρ id) = ids.contains id := by
    intro ids
    rw [Bool.eq_iff_iff, List.contains_iff_mem, List.contains_iff_mem, List.mem_map_of_injective hρ]
  have herase : ∀ ids : List Nat, (ids.map ρ).erase (ρ id) = (ids.erase id).map ρ :=
    fun ids => (List.map_erase hρ ids).symm
  cases b <;> simp only [renumber, erase?, eraseFromScope?, eraseFromRecord?, eraseNumber?,
    Scope.renumber, Record.renumber, Prototype.renumber, hcontains, herase, Option.map_none]
  all_goals split_ifs <;> rfl

end Body

/-! ### Declarations -/

/-- A number as a value, replaced by another one. -/
def Value.renumber (ρ : Nat → Nat) : Value → Value
  | .int n => .int (ρ n.toNat)
  | v => v

namespace Value

variable (ρ σ : Nat → Nat)

@[simp] theorem renumber_int (n : Nat) : (int n).renumber ρ = int (ρ n) := rfl

@[simp] theorem renumber_renumber (v : Value) :
    (v.renumber σ).renumber ρ = v.renumber (ρ ∘ σ) := by
  cases v <;> rfl

end Value

/-- Notes with another number for the type that was defined together with a declaration. -/
def Fields.renumber (ρ : Nat → Nat) : Fields → Fields
  | [] => []
  | (key, v) :: rest =>
    if key = "type_declaration_id" then (key, v.renumber ρ) :: rest
    else (key, v) :: renumber ρ rest

namespace Decl

/-- A declaration with other numbers. -/
def renumber (ρ : Nat → Nat) (d : Decl) : Decl :=
  { d with
    id := ρ d.id
    order := ρ d.order.toNat
    parent := d.parent.map ρ
    notes := Fields.renumber ρ d.notes
    body := d.body.renumber ρ }

end Decl

/-- A slot whose declaration has other numbers. -/
def Slot.renumber (ρ : Nat → Nat) (s : Slot) : Slot :=
  { s with decl := s.decl.renumber ρ }

namespace Fields

variable (ρ σ : Nat → Nat)

theorem renumber_renumber (notes : Fields) :
    (notes.renumber σ).renumber ρ = notes.renumber (ρ ∘ σ) := by
  induction notes with
  | nil => rfl
  | cons entry rest ih =>
    obtain ⟨key, v⟩ := entry
    by_cases hk : key = "type_declaration_id" <;> simp [renumber, hk, ih]

/-- What number is noted down is all that matters. -/
theorem renumber_congr {ρ σ : Nat → Nat} {notes : Fields}
    (h : ∀ v, notes.get? "type_declaration_id" = some v → v.renumber ρ = v.renumber σ) :
    notes.renumber ρ = notes.renumber σ := by
  induction notes with
  | nil => rfl
  | cons entry rest ih =>
    obtain ⟨key, v⟩ := entry
    by_cases hk : key = "type_declaration_id"
    · have hv := h v (by simp [get?, hk])
      simp [renumber, hk, hv]
    · have hrest := ih fun w hw => h w (by simp [get?, hk, hw])
      simp [renumber, hk, hrest]

/-- A number that is noted down is replaced with the others. -/
theorem renumber_put (notes : Fields) (n : Nat) :
    (notes.put "type_declaration_id" (.int n)).renumber ρ =
      (notes.renumber ρ).put "type_declaration_id" (.int (ρ n)) := by
  induction notes with
  | nil => simp [put, renumber]
  | cons entry rest ih =>
    obtain ⟨key, v⟩ := entry
    by_cases hk : key = "type_declaration_id" <;> simp [put, renumber, hk, ih]

/-- What else is noted down can be looked up as before. -/
theorem get?_renumber (notes : Fields) {name : String} (h : name ≠ "type_declaration_id") :
    (notes.renumber ρ).get? name = notes.get? name := by
  induction notes with
  | nil => rfl
  | cons entry rest ih =>
    obtain ⟨key, v⟩ := entry
    by_cases hk : key = "type_declaration_id"
    · have hne : "type_declaration_id" ≠ name := h.symm
      simp [renumber, get?, hk, hne]
    · simp [renumber, get?, hk, ih]

/-- A number that is noted down is found replaced. -/
theorem get?_renumber_self (notes : Fields) : (notes.renumber ρ).get? "type_declaration_id" =
    (notes.get? "type_declaration_id").map (Value.renumber ρ) := by
  induction notes with
  | nil => rfl
  | cons entry rest ih =>
    obtain ⟨key, v⟩ := entry
    by_cases hk : key = "type_declaration_id" <;> simp [renumber, get?, hk, ih]

end Fields

namespace Decl

variable (ρ σ : Nat → Nat)

theorem renumber_renumber (d : Decl) : (d.renumber σ).renumber ρ = d.renumber (ρ ∘ σ) := by
  simp [renumber, Body.renumber_renumber, Fields.renumber_renumber]

/-- Names are given as before. -/
theorem rename_renumber (d : Decl) (name : String) :
    (d.renumber ρ).rename name = (d.rename name).renumber ρ := by
  unfold rename
  split_ifs with hname hname'
  · rfl
  · exact absurd hname hname'
  · next hname' => exact absurd hname' hname
  · rfl

end Decl

end Bindery
