import Bindery.Proofs.Declaration.Removal

/-!
# Libraries with leaves taken out

A body can be left with part of what is on its lists. Giving one declaration up is such a case, and
so is giving up several, one after the other. Where all lists lose declarations that hold nothing
themselves, a walk meets all else as before.
-/

namespace Bindery

/-- A scope with just those declarations that are kept. -/
def Scope.keep (keep : Nat → Bool) (s : Scope) : Scope :=
  ⟨s.namespaces.filter keep, s.classes.filter keep, s.enums.filter keep, s.functions.filter keep⟩

/-- A class with just those members that are kept. -/
def Record.keep (keep : Nat → Bool) (r : Record) : Record :=
  { r with
    fields := r.fields.filter keep, methods := r.methods.filter keep
    classes := r.classes.filter keep, enums := r.enums.filter keep }

/-- A prototype with just those parameters that are kept. -/
def Prototype.keep (keep : Nat → Bool) (p : Prototype) : Prototype :=
  { p with parameters := p.parameters.filter keep }

namespace Body

/-- A body with just those declarations inside that are kept. -/
def keep (keep : Nat → Bool) : Body → Body
  | unit s file => unit (s.keep keep) file
  | space s => space (s.keep keep)
  | record r => record (r.keep keep)
  | method p t => method (p.keep keep) t
  | function p => function (p.keep keep)
  | enumeration items underlying isScoped => enumeration (items.filter keep) underlying isScoped
  | b => b

variable {p q : Nat → Bool} {b : Body} {id : Nat}

@[simp] theorem form_keep (p : Nat → Bool) (b : Body) : (b.keep p).form = b.form := by
  cases b <;> rfl

@[simp] theorem children_keep (p : Nat → Bool) (b : Body) :
    (b.keep p).children = b.children.filter p := by
  cases b <;> simp [keep, children, Scope.keep, Record.keep, Prototype.keep]

/-- Every list loses what is not kept. -/
theorem listOf_keep (p : Nat → Bool) (b : Body) (list : String) :
    (b.keep p).listOf list = (b.listOf list).filter p := by
  cases b with
  | unit s file =>
    rw [keep, listOf_unit, listOf_unit]
    split_ifs <;> rfl
  | space s =>
    rw [keep, listOf_space, listOf_space, listOf_unit, listOf_unit]
    split_ifs <;> rfl
  | record r =>
    rw [keep, listOf_record, listOf_record]
    split_ifs <;> rfl
  | method f t =>
    rw [keep, listOf_method, listOf_method]
    split_ifs <;> rfl
  | function f =>
    rw [keep, listOf_function, listOf_function]
    split_ifs <;> rfl
  | enumeration items underlying isScoped =>
    rw [keep, listOf_enumeration, listOf_enumeration]
    split_ifs <;> rfl
  | _ => rfl

/-- A class that loses members stays as complete as it is and keeps its definition. -/
theorem record?_keep (p : Nat → Bool) (b : Body) :
    (b.keep p).record?.any (·.incomplete) = b.record?.any (·.incomplete) ∧
      (b.keep p).record?.bind (·.definition) = b.record?.bind (·.definition) := by
  cases b <;> exact ⟨rfl, rfl⟩

@[simp] theorem keep_true (b : Body) : b.keep (fun _ => true) = b := by
  cases b <;> simp [keep, Scope.keep, Record.keep, Prototype.keep]

/-- What is kept matters for what is inside only. -/
theorem keep_congr (h : ∀ x ∈ b.children, p x = q x) : b.keep p = b.keep q := by
  have hlist : ∀ l : List Nat, (∀ x ∈ l, x ∈ b.children) → l.filter p = l.filter q :=
    fun l hl => List.filter_congr fun x hx => h x (hl x hx)
  cases b with
  | unit s file | space s =>
    simp only [keep, Scope.keep, hlist s.namespaces (by simp +contextual [children]),
      hlist s.classes (by simp +contextual [children]),
      hlist s.enums (by simp +contextual [children]),
      hlist s.functions (by simp +contextual [children])]
  | record r =>
    simp only [keep, Record.keep, hlist r.fields (by simp +contextual [children]),
      hlist r.methods (by simp +contextual [children]),
      hlist r.classes (by simp +contextual [children]),
      hlist r.enums (by simp +contextual [children])]
  | method f t | function f => simp only [keep, Prototype.keep, hlist f.parameters fun _ hx => hx]
  | enumeration items underlying isScoped => simp only [keep, hlist items fun _ hx => hx]
  | _ => rfl

/-- Nothing is lost where nothing is inside. -/
theorem keep_of_nil (h : b.children = []) : b.keep p = b := by
  rw [keep_congr (q := fun _ => true) (by simp [h]), keep_true]

/-- Keeping part of what was kept. -/
theorem keep_keep (p q : Nat → Bool) (b : Body) :
    (b.keep p).keep q = b.keep fun x => p x && q x := by
  cases b <;> simp [keep, Scope.keep, Record.keep, Prototype.keep, List.filter_filter, Bool.and_comm]

/-- A scope that gives a declaration up keeps all others. -/
theorem eraseFromScope?_eq_keep {s : Scope}
    (hnodup : (s.namespaces ++ s.classes ++ s.enums ++ s.functions).Nodup)
    (hmem : id ∈ s.namespaces ++ s.classes ++ s.enums ++ s.functions) :
    eraseFromScope? s id = some (s.keep (· != id)) := by
  simp only [List.nodup_append, List.mem_append] at hnodup hmem
  have ⟨⟨⟨hnamespaces, hclasses, _⟩, henums, _⟩, hfunctions, _⟩ := hnodup
  have hkeep : s.keep (· != id) = ⟨s.namespaces.erase id, s.classes.erase id, s.enums.erase id,
      s.functions.erase id⟩ := by
    rw [hnamespaces.erase_eq_filter, hclasses.erase_eq_filter, henums.erase_eq_filter,
      hfunctions.erase_eq_filter]
    rfl
  rw [hkeep]
  unfold eraseFromScope?
  simp only [List.contains_iff_mem]
  grind [List.erase_of_not_mem]

/-- A class that gives a member up keeps all others. -/
theorem eraseFromRecord?_eq_keep {r : Record}
    (hnodup : (r.classes ++ r.enums ++ r.fields ++ r.methods).Nodup)
    (hmem : id ∈ r.classes ++ r.enums ++ r.fields ++ r.methods) :
    eraseFromRecord? r id = some (r.keep (· != id)) := by
  simp only [List.nodup_append, List.mem_append] at hnodup hmem
  have ⟨⟨⟨hclasses, henums, _⟩, hfields, _⟩, hmethods, _⟩ := hnodup
  have hkeep : r.keep (· != id) = { r with
      fields := r.fields.erase id, methods := r.methods.erase id
      classes := r.classes.erase id, enums := r.enums.erase id } := by
    rw [hclasses.erase_eq_filter, henums.erase_eq_filter, hfields.erase_eq_filter,
      hmethods.erase_eq_filter]
    rfl
  rw [hkeep]
  unfold eraseFromRecord?
  simp only [List.contains_iff_mem]
  grind [List.erase_of_not_mem]

/-- A list that gives a number up keeps all others. -/
theorem eraseNumber?_eq_filter {ids : List Nat} (hnodup : ids.Nodup) (hmem : id ∈ ids) :
    eraseNumber? ids id = some (ids.filter (· != id)) := by
  unfold eraseNumber?
  rw [if_pos (List.contains_iff_mem.2 hmem), hnodup.erase_eq_filter]

/-- A body that gives a declaration up keeps all others. -/
theorem erase?_eq_keep (hnodup : b.children.Nodup) (hmem : id ∈ b.children) :
    b.erase? id = some (b.keep (· != id)) := by
  cases b with
  | unit s file | space s =>
    simp only [erase?, eraseFromScope?_eq_keep hnodup hmem]
    rfl
  | record r =>
    simp only [erase?, eraseFromRecord?_eq_keep hnodup hmem]
    rfl
  | method f t | function f =>
    have hparameters : f.parameters.Nodup := hnodup
    simp only [erase?, eraseNumber?_eq_filter hparameters hmem]
    rfl
  | enumeration items underlying isScoped =>
    have hitems : items.Nodup := hnodup
    simp only [erase?, eraseNumber?_eq_filter hitems hmem]
    rfl
  | _ => cases hmem

end Body

namespace Library

variable {lib out : Library}

/-- Everything on the way down to a declaration is kept, itself included. -/
def KeptDownTo (lib : Library) (keep : Nat → Bool) (id : Nat) : Prop :=
  ∀ a ∈ lib.walk, id ∈ lib.subtreeIds a.id → keep a.id = true

instance (lib : Library) (keep : Nat → Bool) (id : Nat) : Decidable (lib.KeptDownTo keep id) :=
  inferInstanceAs (Decidable (∀ a ∈ lib.walk, id ∈ lib.subtreeIds a.id → keep a.id = true))

namespace IsTree

variable (h : lib.IsTree)
include h

theorem mem_subtreeIds {a x : Nat} (ha : lib.Attached a) :
    x ∈ lib.subtreeIds a ↔ ∃ level, lib.Below a level x := by
  constructor
  · exact h.mem_map_id_walkFrom ha
  · rintro ⟨level, hb⟩
    obtain ⟨d, hd, rfl⟩ := h.decl_of_attached (ha.below hb)
    exact List.mem_map_of_mem (mem_walkFrom.2 ⟨level, _, h.shallow_created ha _ _ hb, hb, hd⟩)

/-- What is taken away takes along all that lies below it. -/
theorem not_keptDownTo {keep : Nat → Bool} {a level x : Nat} (ha : lib.Attached a)
    (hb : lib.Below a level x) (hk : keep a = false) : ¬ lib.KeptDownTo keep x := by
  intro hdown
  obtain ⟨d, hd, rfl⟩ := h.decl_of_attached ha
  have hkept := hdown d (h.mem_walk.2 ⟨_, ha, hd⟩) ((h.mem_subtreeIds ha).2 ⟨level, hb⟩)
  rw [hk] at hkept
  cases hkept

/-- A walk from a declaration that is taken away meets nothing that is left. -/
theorem filter_keptDownTo_eq_nil {keep : Nat → Bool} (n : Nat) {a : Nat} (ha : lib.Attached a)
    (hk : keep a = false) :
    ((lib.walkFrom n a).map (·.id)).filter (lib.KeptDownTo keep ·) = [] := by
  rw [List.filter_eq_nil_iff]
  intro x hx
  obtain ⟨level, hb⟩ := h.mem_map_id_walkFrom ha hx
  simpa using h.not_keptDownTo ha hb hk

/-- What is listed on the way down is reached if it is kept itself. -/
theorem keptDownTo_of_lists {keep : Nat → Bool} {a c : Nat} (ha : lib.Attached a)
    (hl : lib.Lists a c) (hdown : lib.KeptDownTo keep a) (hk : keep c = true) :
    lib.KeptDownTo keep c := by
  intro b hb hmem
  have hba := (h.decl?_of_mem_walk hb).1
  obtain ⟨level, hbelow⟩ := (h.mem_subtreeIds hba).1 hmem
  cases hbelow with
  | self => exact hk
  | step hbelow hl' =>
    have howner := h.one_owner _ _ _ ha (hba.below hbelow) hl hl'
    exact hdown b hb ((h.mem_subtreeIds hba).2 ⟨_, howner ▸ hbelow⟩)

theorem keptDownTo_of_mem_units {keep : Nat → Bool} {u : Nat} (hu : u ∈ lib.units)
    (hk : keep u = true) : lib.KeptDownTo keep u := by
  intro b hb hmem
  have hba := (h.decl?_of_mem_walk hb).1
  obtain ⟨level, hbelow⟩ := (h.mem_subtreeIds hba).1 hmem
  cases hbelow with
  | self => exact hk
  | step hbelow hl => exact absurd hu (h.unit_apart _ _ (hba.below hbelow) hl)

/-- Where lists just lose declarations, a walk meets all else as before, but for what lay below
those that are lost. -/
theorem walk_keep {keep : Nat → Bool} (hunits : out.units = lib.units.filter keep)
    (hcreated : out.created = lib.created)
    (hdecl : ∀ k, lib.Attached k → keep k = true → ∀ d, lib.decl? k = some d →
      ∃ e, out.decl? k = some e ∧ e.id = d.id ∧ e.body.children = d.body.children.filter keep) :
    out.walk.map (·.id) = (lib.walk.map (·.id)).filter (lib.KeptDownTo keep ·) := by
  have hfrom : ∀ n a, lib.Attached a → keep a = true → lib.KeptDownTo keep a →
      (out.walkFrom n a).map (·.id) =
        ((lib.walkFrom n a).map (·.id)).filter (lib.KeptDownTo keep ·) := by
    intro n
    induction n with
    | zero => exact fun _ _ _ _ => rfl
    | succ n ih =>
      intro a ha hk hdown
      obtain ⟨d, hd, hself⟩ := h.decl_of_attached ha
      obtain ⟨e, he, hid, hchildren⟩ := hdecl a ha hk d hd
      simp only [walkFrom, hd, he, List.map_cons, List.map_flatMap, List.filter_cons,
        List.filter_flatMap, hid, hself, hdown, decide_true, if_true, List.cons.injEq, true_and]
      rw [hchildren]
      refine (flatMap_eq_flatMap_filter ?_ ?_).symm
      · intro c hc hkc
        have hl : lib.Lists a c := ⟨d, hd, hc⟩
        exact (ih c (ha.lists hl) hkc (h.keptDownTo_of_lists ha hl hdown hkc)).symm
      · exact fun c hc hkc => h.filter_keptDownTo_eq_nil n (ha.lists ⟨d, hd, hc⟩) hkc
  unfold walk subtree
  rw [hunits, hcreated, List.map_flatMap, List.map_flatMap, List.filter_flatMap]
  refine (flatMap_eq_flatMap_filter ?_ ?_).symm
  · exact fun u hu hk =>
      (hfrom _ u (attached_of_mem_units hu) hk (h.keptDownTo_of_mem_units hu hk)).symm
  · exact fun u hu hk => h.filter_keptDownTo_eq_nil _ (attached_of_mem_units hu) hk

/-- Where lists just lose declarations that hold nothing, a walk meets all but these as before. -/
theorem walk_without_leaves {gone : List Nat}
    (hunits : out.units = lib.units) (hcreated : out.created = lib.created)
    (hstay : ∀ u ∈ lib.units, u ∉ gone)
    (hleaf : ∀ k ∈ gone, ∀ d, lib.decl? k = some d → d.body.children = [])
    (hdecl : ∀ k, lib.Attached k → k ∉ gone → ∀ d, lib.decl? k = some d →
      ∃ e, out.decl? k = some e ∧ e.id = d.id ∧
        e.body.children = d.body.children.filter (· ∉ gone)) :
    out.walk.map (·.id) = (lib.walk.map (·.id)).filter (· ∉ gone) := by
  have hall : out.units = lib.units.filter (· ∉ gone) := by
    rw [hunits]
    exact (List.filter_eq_self.2 fun u hu => by simpa using hstay u hu).symm
  rw [h.walk_keep hall hcreated fun k ha hk => hdecl k ha (by simpa using hk)]
  refine List.filter_congr fun x hx => ?_
  obtain ⟨d, hd, rfl⟩ := List.mem_map.1 hx
  have hda := (h.decl?_of_mem_walk hd).1
  rw [decide_eq_decide]
  constructor
  · intro hdown
    simpa using hdown d hd ((h.mem_subtreeIds hda).2 ⟨0, .self⟩)
  · -- nothing but the declaration itself lies below one that is lost
    intro hkept b hb hmem
    obtain ⟨hba, hbd⟩ := h.decl?_of_mem_walk hb
    obtain ⟨level, hbelow⟩ := (h.mem_subtreeIds hba).1 hmem
    cases level with
    | zero =>
      rw [below_zero_iff] at hbelow
      simpa [← hbelow] using hkept
    | succ level =>
      obtain ⟨c, ⟨e, he, hc⟩, -⟩ := below_succ_iff.1 hbelow
      rw [decide_eq_true_eq]
      intro hgone
      rw [hleaf b.id hgone e he] at hc
      cases hc

end IsTree

end Library

end Bindery
