import Bindery.Naming.Basic
import Bindery.Pass.Incomplete
import Bindery.Proofs.Declaration.Ranked

/-!
# Libraries with declarations taken out

Taking declarations out of the lists that hold them leaves numbers, forms and scopes alone.
What is left of a tree is a tree, and every qualified name that could be told can still be told,
also for what has been taken out.
-/

namespace Bindery

/-- What a declaration keeps when things are taken off its lists. Marks and all names but the first
are left open, so that what only changes those counts as well. -/
structure Decl.PrunedTo (d e : Decl) : Prop where
  /-- The number stays. -/
  id : e.id = d.id
  /-- The place in the order stays. -/
  order : e.order = d.order
  /-- The scope it was created in stays. -/
  parent : e.parent = d.parent
  /-- The notes stay. -/
  notes : e.notes = d.notes
  /-- The name it was created with stays. -/
  firstName : e.firstName = d.firstName
  /-- The form stays. -/
  form : e.body.form = d.body.form
  /-- Lists only lose what they hold. -/
  lists : ∀ list, (e.body.listOf list).Sublist (d.body.listOf list)

theorem Decl.PrunedTo.refl (d : Decl) : d.PrunedTo d :=
  ⟨rfl, rfl, rfl, rfl, rfl, rfl, fun _ => List.Sublist.refl _⟩

theorem Decl.PrunedTo.trans (c d e : Decl) (h : c.PrunedTo d) (h' : d.PrunedTo e) :
    c.PrunedTo e :=
  ⟨h'.id.trans h.id, h'.order.trans h.order, h'.parent.trans h.parent, h'.notes.trans h.notes,
    h'.firstName.trans h.firstName, h'.form.trans h.form,
    fun list => (h'.lists list).trans (h.lists list)⟩

/-- Any other name leaves all else alone. -/
theorem Decl.prunedTo_rename (d : Decl) (name : String) : d.PrunedTo (d.rename name) := by
  have hfirst := d.firstName_rename name
  unfold Decl.rename at hfirst ⊢
  split_ifs at hfirst ⊢
  · exact .refl d
  · exact ⟨rfl, rfl, rfl, rfl, hfirst, rfl, fun _ => List.Sublist.refl _⟩

theorem Decl.PrunedTo.narrows {d e : Decl} (h : d.PrunedTo e) : d.Narrows e :=
  ⟨h.id, h.order, h.parent, h.form, h.lists⟩

theorem Decl.PrunedTo.children {d e : Decl} (h : d.PrunedTo e) :
    e.body.children.Sublist d.body.children :=
  Body.children_sublist h.form h.lists

namespace Library

/-- A library with declarations taken off lists, and perhaps off the list of units. -/
structure PrunedTo (lib out : Library) : Prop where
  /-- Declarations only lose what is on their lists. -/
  slots : lib.Matches Decl.PrunedTo out
  /-- So does the list of units. -/
  units : out.units.Sublist lib.units

variable {lib mid out : Library}

namespace PrunedTo

theorem refl (lib : Library) : lib.PrunedTo lib :=
  ⟨.refl Decl.PrunedTo.refl lib, List.Sublist.refl _⟩

theorem trans (h : lib.PrunedTo mid) (h' : mid.PrunedTo out) : lib.PrunedTo out :=
  ⟨h.slots.trans Decl.PrunedTo.trans h'.slots, h'.units.trans h.units⟩

theorem update {id : Nat} {f : Decl → Decl} (hf : ∀ d, lib.decl? id = some d → d.PrunedTo (f d)) :
    lib.PrunedTo (lib.update id f) :=
  ⟨matches_update Decl.PrunedTo.refl hf, List.Sublist.refl _⟩

variable (h : lib.PrunedTo out)
include h

theorem lists {p id : Nat} (hl : out.Lists p id) : lib.Lists p id := by
  obtain ⟨e, he, hid⟩ := hl
  obtain ⟨d, hd, hde⟩ := h.slots.exists_of_decl?_out he
  exact ⟨d, hd, hde.children.subset hid⟩

theorem below {top level id : Nat} (hb : out.Below top level id) : lib.Below top level id := by
  induction hb with
  | self => exact .self
  | step _ hl ih => exact ih.step (h.lists hl)

theorem attached {id : Nat} (ha : out.Attached id) : lib.Attached id := by
  obtain ⟨u, hu, level, hb⟩ := ha
  exact ⟨u, h.units.subset hu, level, h.below hb⟩

theorem registered (ht : lib.IsTree) {id : Nat} (ha : lib.Attached id) :
    ∃ e, out.registered? id = some e ∧ e.id = id := by
  obtain ⟨d, hd, hid⟩ := ht.registered id ha
  have hrel := h.slots.registered? id
  rw [hd] at hrel
  cases he : out.registered? id with
  | none => rw [he] at hrel; cases hrel
  | some e =>
    rw [he] at hrel
    cases hrel with
    | some hde => exact ⟨e, rfl, hde.id.trans hid⟩

/-- What is left of a tree is a tree. -/
theorem isTree (ht : lib.IsTree) : out.IsTree where
  units_nodup := ht.units_nodup.sublist h.units
  unit_form := by
    intro u hu
    obtain ⟨d, hd, hf⟩ := ht.unit_form u (h.units.subset hu)
    obtain ⟨e, he, hde⟩ := h.slots.exists_of_decl? hd
    exact ⟨e, he, hde.form.trans hf⟩
  registered := fun id ha => h.registered ht (h.attached ha)
  children_nodup := by
    intro id e ha he
    obtain ⟨d, hd, hde⟩ := h.slots.exists_of_decl?_out he
    exact (ht.children_nodup id d (h.attached ha) hd).sublist hde.children
  one_owner := by
    intro p q id hp hq hl hl'
    exact ht.one_owner p q id (h.attached hp) (h.attached hq) (h.lists hl) (h.lists hl')
  unit_apart := by
    intro p u hp hl hu
    exact ht.unit_apart p u (h.attached hp) (h.lists hl) (h.units.subset hu)
  forms := by
    intro p e list id f hp he hid hf
    obtain ⟨d, hd, hde⟩ := h.slots.exists_of_decl?_out he
    obtain ⟨c, hc, hcf⟩ := h.slots.exists_of_decl?_out hf
    rw [hde.form, hcf.form]
    exact ht.forms p d list id c (h.attached hp) hd ((hde.lists list).subset hid) hc

theorem scopesAgree (hs : lib.ScopesAgree) : out.ScopesAgree where
  unit_parent := by
    intro u hu e he
    obtain ⟨d, hd, hde⟩ := h.slots.exists_of_decl?_out he
    rw [hde.parent]
    exact hs.unit_parent u (h.units.subset hu) d hd
  listed_parent := by
    intro p id e hp hl he
    obtain ⟨d, hd, hde⟩ := h.slots.exists_of_decl?_out he
    rw [hde.parent]
    exact hs.listed_parent p id d (h.attached hp) (h.lists hl) hd

/-- A qualified name that could be told can still be told. -/
theorem exists_qualifiedName {id : Nat} {e : Decl} (he : out.decl? id = some e)
    (hq : ∀ d, lib.decl? id = some d → ∃ q, lib.qualifiedName d = .ok q) :
    ∃ q, out.qualifiedName e = .ok q := by
  obtain ⟨d, hd, hde⟩ := h.slots.exists_of_decl?_out he
  obtain ⟨q, hq⟩ := hq d hd
  have := h.slots.qualifiedName (fun _ _ hr => hr.parent) hde
  rw [hq] at this
  obtain ⟨q', hq', -⟩ := this.exists_ok
  exact ⟨q', hq'⟩

end PrunedTo

end Library

/-! ### Taking a declaration out -/

theorem Decl.prunedTo_erase {d : Decl} {b : Body} {id : Nat} (h : d.body.erase? id = some b) :
    d.PrunedTo { d with body := b } := by
  obtain ⟨list, -, hform, hlists⟩ := Body.erase?_eq_some h
  refine ⟨rfl, rfl, rfl, rfl, rfl, hform, fun l => ?_⟩
  show (b.listOf l).Sublist _
  rw [hlists l]
  split_ifs
  · exact List.erase_sublist
  · exact List.Sublist.refl _

/-- Everything but the declaration that is taken out stays listed. -/
theorem Library.lists_update_erase {lib : Library} {owner child : Nat} {o : Decl} {b : Body}
    (ho : lib.decl? owner = some o) (hb : o.body.erase? child = some b) {p id : Nat}
    (hne : id ≠ child) (hl : lib.Lists p id) :
    (lib.update owner fun d => { d with body := b }).Lists p id := by
  obtain ⟨d, hd, hid⟩ := hl
  unfold Library.Lists
  rw [Library.decl?_update, hd]
  by_cases he : owner = p
  · subst he
    rw [ho] at hd
    cases hd
    refine ⟨{ o with body := b }, by simp, ?_⟩
    obtain ⟨list, -, hform, hlists⟩ := Body.erase?_eq_some hb
    obtain ⟨l, hl, hmem⟩ := Body.mem_children_iff.1 hid
    refine Body.mem_children_iff.2 ⟨l, hform ▸ hl, ?_⟩
    rw [hlists l]
    split_ifs
    · exact (List.mem_erase_of_ne hne).2 hmem
    · exact hmem
  · exact ⟨d, by simp [he], hid⟩

namespace Edit

/-- Taking a declaration out of another one gives it up there, or is refused. -/
theorem outcomeOf_removeChild {lib : Library} {owner child : Nat} {o c : Decl}
    (ho : lib.decl? owner = some o) (hc : lib.decl? child = some c) :
    match o.body.erase? child with
    | some b => outcomeOf (removeChild owner child) lib =
        (.ok (), lib.update owner fun d => { d with body := b })
    | none => ∃ f, outcomeOf (removeChild owner child) lib = (.error f, lib) := by
  unfold removeChild
  rw [outcomeOf_bind_ok (outcomeOf_get lib)]
  simp only [ho, hc]
  cases hb : o.body with
  | unit s file =>
    cases he : Body.eraseFromScope? s child with
    | none => simp [Body.erase?, he]
    | some t => simp [Body.erase?, he, update]
  | space s =>
    cases he : Body.eraseFromScope? s child with
    | none => simp [Body.erase?, he]
    | some t => simp [Body.erase?, he, update]
  | record r =>
    cases he : Body.eraseFromRecord? r child with
    | none => simp [Body.erase?, he]
    | some t => simp [Body.erase?, he, update]
  | method p t =>
    cases he : Body.eraseNumber? p.parameters child with
    | none => simp [Body.erase?, he]
    | some t => simp [Body.erase?, he, update]
  | function p =>
    cases he : Body.eraseNumber? p.parameters child with
    | none => simp [Body.erase?, he]
    | some t => simp [Body.erase?, he, update]
  | enumeration items u s =>
    cases he : Body.eraseNumber? items child with
    | none => simp [Body.erase?, he]
    | some t => simp [Body.erase?, he, update]
  | _ => simp [Body.erase?]

theorem outcomeOf_removeChild_of_none {lib : Library} {owner child : Nat}
    (h : lib.decl? owner = none ∨ lib.decl? child = none) :
    outcomeOf (removeChild owner child) lib = (.ok (), lib) := by
  unfold removeChild
  rw [outcomeOf_bind_ok (outcomeOf_get lib)]
  rcases h with h | h
  · simp only [h]
    rfl
  · cases ho : lib.decl? owner <;> simp only [h] <;> rfl

/-- What taking a declaration out of another one can come to. -/
theorem removeChild_cases (lib : Library) (owner child : Nat) :
    (outcomeOf (removeChild owner child) lib).2 = lib ∨
      ∃ o b, lib.decl? owner = some o ∧ o.body.erase? child = some b ∧
        (outcomeOf (removeChild owner child) lib).2 =
          lib.update owner fun d => { d with body := b } := by
  cases ho : lib.decl? owner with
  | none =>
    rw [outcomeOf_removeChild_of_none (.inl ho)]
    exact .inl rfl
  | some o =>
    cases hc : lib.decl? child with
    | none =>
      rw [outcomeOf_removeChild_of_none (.inr hc)]
      exact .inl rfl
    | some c =>
      have hout := outcomeOf_removeChild ho hc
      cases hb : o.body.erase? child with
      | none =>
        rw [hb] at hout
        obtain ⟨f, hout⟩ := hout
        rw [hout]
        exact .inl rfl
      | some b =>
        rw [hb] at hout
        simp only at hout
        rw [hout]
        exact .inr ⟨o, b, rfl, hb, rfl⟩

/-- What taking a declaration out of its scope can come to: nothing, a unit less, or a list that has
lost the declaration. -/
theorem remove_cases (lib : Library) (id : Nat) :
    (outcomeOf (remove id) lib).2 = lib ∨
      (outcomeOf (remove id) lib).2 = { lib with units := lib.units.erase id } ∨
      ∃ p o b, lib.decl? p = some o ∧ o.body.erase? id = some b ∧
        (outcomeOf (remove id) lib).2 = lib.update p fun d => { d with body := b } := by
  unfold remove
  rw [outcomeOf_bind_ok (outcomeOf_get lib)]
  cases hd : lib.decl? id with
  | none => exact .inl rfl
  | some d =>
    cases hp : d.parent with
    | none =>
      simp only [hp]
      exact .inr (.inl rfl)
    | some p =>
      simp only [hp]
      rw [outcomeOf_bind, outcomeOf_editLook]
      cases hg : lib.get p with
      | error f => exact .inl rfl
      | ok owner =>
        rcases removeChild_cases lib owner.id id with hout | ⟨o, b, ho, hb, hout⟩
        · exact .inl hout
        · exact .inr (.inr ⟨owner.id, o, b, ho, hb, hout⟩)

/-- Taking a declaration out of its scope prunes the library, and leaves everything else where it
was. -/
theorem remove_prunedTo (lib : Library) (id : Nat) :
    lib.PrunedTo (outcomeOf (remove id) lib).2 ∧
      ∀ p x, x ≠ id → lib.Lists p x → (outcomeOf (remove id) lib).2.Lists p x := by
  rcases remove_cases lib id with hout | hout | ⟨p, o, b, ho, hb, hout⟩ <;> rw [hout]
  · exact ⟨.refl lib, fun _ _ _ hl => hl⟩
  · exact ⟨⟨.refl Decl.PrunedTo.refl lib, List.erase_sublist⟩, fun _ _ _ hl => hl⟩
  · refine ⟨Library.PrunedTo.update fun d hd => ?_, fun q x hne hl =>
      Library.lists_update_erase ho hb hne hl⟩
    rw [ho] at hd
    cases hd
    exact Decl.prunedTo_erase hb

end Edit

end Bindery

/-!
## Libraries with other names

Giving declarations other names leaves everything but the names alone: what lies below what, the
scopes, the forms and the marks. A name that can be used is only ever given up for another one that
can be used.
-/

namespace Bindery

open Bindery.Naming

/-- What becomes of a declaration when it gets another name. -/
structure Decl.RenamedTo (d e : Decl) : Prop where
  /-- The number stays. -/
  id : e.id = d.id
  /-- The place in the order stays. -/
  order : e.order = d.order
  /-- The scope it was created in stays. -/
  parent : e.parent = d.parent
  /-- Whether it is left out stays. -/
  ignored : e.ignored = d.ignored
  /-- The notes stay. -/
  notes : e.notes = d.notes
  /-- The name it was created with stays. -/
  firstName : e.firstName = d.firstName
  /-- What its form adds stays. -/
  body : e.body = d.body
  /-- A name that can be used becomes one that can be used. -/
  valid : isValid d.name = true → isValid e.name = true

theorem Decl.RenamedTo.refl (d : Decl) : d.RenamedTo d :=
  ⟨rfl, rfl, rfl, rfl, rfl, rfl, rfl, fun hv => hv⟩

theorem Decl.RenamedTo.trans (c d e : Decl) (h : c.RenamedTo d) (h' : d.RenamedTo e) :
    c.RenamedTo e :=
  ⟨h'.id.trans h.id, h'.order.trans h.order, h'.parent.trans h.parent, h'.ignored.trans h.ignored,
    h'.notes.trans h.notes, h'.firstName.trans h.firstName, h'.body.trans h.body,
    fun hv => h'.valid (h.valid hv)⟩

theorem Decl.renamedTo_rename {d : Decl} {name : String}
    (h : isValid d.name = true → isValid name = true) : d.RenamedTo (d.rename name) := by
  have hv : isValid d.name = true → isValid (d.rename name).name = true := by
    rw [Decl.name_rename]
    exact h
  unfold Decl.rename at hv ⊢
  split_ifs at hv ⊢
  · exact .refl d
  · exact ⟨rfl, rfl, rfl, rfl, rfl, rfl, rfl, hv⟩

theorem Decl.RenamedTo.prunedTo {d e : Decl} (h : d.RenamedTo e) : d.PrunedTo e :=
  ⟨h.id, h.order, h.parent, h.notes, h.firstName, by rw [h.body], fun list => by rw [h.body]⟩

namespace Library

/-- A library with the same declarations under other names. -/
structure RenamedTo (lib out : Library) : Prop where
  /-- Declarations only change their names. -/
  slots : lib.Matches Decl.RenamedTo out
  /-- The units stay. -/
  units : out.units = lib.units

variable {lib mid out : Library}

namespace RenamedTo

theorem refl (lib : Library) : lib.RenamedTo lib :=
  ⟨.refl Decl.RenamedTo.refl lib, rfl⟩

theorem trans (h : lib.RenamedTo mid) (h' : mid.RenamedTo out) : lib.RenamedTo out :=
  ⟨h.slots.trans Decl.RenamedTo.trans h'.slots, h'.units.trans h.units⟩

/-- Giving one declaration another name. -/
theorem update {id : Nat} {name : String}
    (h : ∀ d, lib.decl? id = some d → isValid d.name = true → isValid name = true) :
    lib.RenamedTo (lib.update id (·.rename name)) :=
  ⟨matches_update Decl.RenamedTo.refl fun d hd => Decl.renamedTo_rename (h d hd), rfl⟩

variable (h : lib.RenamedTo out)
include h

theorem lists_iff {p id : Nat} : out.Lists p id ↔ lib.Lists p id := by
  constructor
  · rintro ⟨e, he, hid⟩
    obtain ⟨d, hd, hde⟩ := h.slots.exists_of_decl?_out he
    exact ⟨d, hd, hde.body ▸ hid⟩
  · rintro ⟨d, hd, hid⟩
    obtain ⟨e, he, hde⟩ := h.slots.exists_of_decl? hd
    exact ⟨e, he, hde.body ▸ hid⟩

theorem below_iff {top level id : Nat} : out.Below top level id ↔ lib.Below top level id := by
  constructor
  · intro hb
    induction hb with
    | self => exact .self
    | step _ hl ih => exact ih.step (h.lists_iff.1 hl)
  · intro hb
    induction hb with
    | self => exact .self
    | step _ hl ih => exact ih.step (h.lists_iff.2 hl)

theorem attached_iff {id : Nat} : out.Attached id ↔ lib.Attached id := by
  unfold Attached
  rw [h.units]
  simp only [h.below_iff]

theorem prunedTo : lib.PrunedTo out :=
  ⟨h.slots.mono fun _ _ hde => hde.prunedTo, h.units ▸ List.Sublist.refl _⟩

end RenamedTo

end Library

end Bindery
