import Bindery.Proofs.Declaration.Lists
import Bindery.Proofs.Declaration.Slots

/-!
# Trees told from scopes

Where every declaration names the one that lists it as its scope, and units name none, declarations
form a tree: nothing can be listed in two places. It is enough to look at the units and at what
can be reached from them.
-/

namespace Bindery.Library

variable {lib : Library}

/-- A declaration is registered under its number and lists each declaration once, on the list that
takes its form in, and as one that was created in it. -/
structure Homely (lib : Library) (id : Nat) (d : Decl) : Prop where
  /-- It is registered. -/
  registered : lib.registered? id = some d
  /-- Its number is its own. -/
  number : d.id = id
  /-- Nothing is listed twice. -/
  nodup : d.body.children.Nodup
  /-- What it lists was created in it, and is of a form that the list takes in. -/
  lists : ∀ list ∈ d.body.form.lists, ∀ c ∈ d.body.listOf list, ∃ e, lib.decl? c = some e ∧
    e.parent = some id ∧ d.body.form.listFor? e.body.form = some list

/-- Units without a scope, with declarations in order all the way down, form a tree. `P` tells the
numbers that are looked at. -/
theorem isTree_of_parents {P : Nat → Prop} (hnodup : lib.units.Nodup)
    (hunits : ∀ unit ∈ lib.units, P unit ∧
      ∃ d, lib.decl? unit = some d ∧ d.body.form = .unit ∧ d.parent = none)
    (hhomely : ∀ id, P id → ∃ d, lib.Homely id d)
    (hdown : ∀ p id, P p → lib.Lists p id → P id) : lib.IsTree ∧ lib.ScopesAgree := by
  have hreached : ∀ id, lib.Attached id → P id := by
    rintro id ⟨u, hu, level, hb⟩
    induction hb with
    | self => exact (hunits u hu).1
    | step hb hl ih => exact hdown _ _ ih hl
  have hlisted : ∀ p id e, lib.Attached p → lib.Lists p id → lib.decl? id = some e →
      e.parent = some p := by
    rintro p id e hp ⟨d, hd, hid⟩ he
    obtain ⟨d', hd'⟩ := hhomely p (hreached p hp)
    rw [decl?_of_registered? hd'.registered] at hd
    cases hd
    obtain ⟨list, hlist, hmem⟩ := Body.mem_children_iff.1 hid
    obtain ⟨e', he', hparent, -⟩ := hd'.lists list hlist id hmem
    rw [he] at he'
    cases he'
    exact hparent
  have hunit : ∀ u ∈ lib.units, ∀ e, lib.decl? u = some e → e.parent = none := by
    intro u hu e he
    obtain ⟨-, d, hd, -, hparent⟩ := hunits u hu
    rw [hd] at he
    cases he
    exact hparent
  have hdecl : ∀ p id, lib.Attached p → lib.Lists p id → ∃ e, lib.decl? id = some e := by
    intro p id hp hl
    obtain ⟨e, he⟩ := hhomely id (hreached id (hp.lists hl))
    exact ⟨e, decl?_of_registered? he.registered⟩
  refine ⟨⟨hnodup, ?_, ?_, ?_, ?_, ?_, ?_⟩, ⟨hunit, hlisted⟩⟩
  · intro u hu
    obtain ⟨-, d, hd, hf, -⟩ := hunits u hu
    exact ⟨d, hd, hf⟩
  · intro id ha
    obtain ⟨d, hd⟩ := hhomely id (hreached id ha)
    exact ⟨d, hd.registered, hd.number⟩
  · intro id d ha hd
    obtain ⟨d', hd'⟩ := hhomely id (hreached id ha)
    rw [decl?_of_registered? hd'.registered] at hd
    cases hd
    exact hd'.nodup
  · intro p q id hp hq hl hl'
    obtain ⟨e, he⟩ := hdecl p id hp hl
    have hpq := (hlisted p id e hp hl he).symm.trans (hlisted q id e hq hl' he)
    exact Option.some.inj hpq
  · intro p u hp hl hu
    obtain ⟨e, he⟩ := hdecl p u hp hl
    have := (hlisted p u e hp hl he).symm.trans (hunit u hu e he)
    exact absurd this (Option.some_ne_none p)
  · intro p d list id e hp hd hid he
    obtain ⟨d', hd'⟩ := hhomely p (hreached p hp)
    rw [decl?_of_registered? hd'.registered] at hd
    cases hd
    obtain ⟨e', he', -, hform⟩ := hd'.lists list (Body.mem_lists_of_mem_listOf hid) id hid
    rw [he] at he'
    cases he'
    exact hform

/-! ### Trees that are checked -/

/-- Whether a declaration has its own number and lists each declaration once, on the list that takes
its form in, and as one that was created in it. -/
def isHomely (lib : Library) (id : Nat) (d : Decl) : Bool :=
  d.id == id && decide d.body.children.Nodup &&
    d.body.form.lists.all fun list => (d.body.listOf list).all fun c =>
      (lib.decl? c).any fun e =>
        e.parent == some id && d.body.form.listFor? e.body.form == some list

/-- Whether all declarations are registered and in order, and the units among them without a
scope. -/
def isRegular (lib : Library) : Bool :=
  decide lib.units.Nodup &&
    (lib.units.all fun u => (lib.decl? u).any fun d => d.body.form == .unit && d.parent.isNone) &&
    lib.slots.zipIdx.all fun (s, id) => s.registered && lib.isHomely id s.decl

theorem homely_of_isHomely {id : Nat} {d : Decl} (hr : lib.registered? id = some d)
    (h : lib.isHomely id d = true) : lib.Homely id d := by
  unfold isHomely at h
  simp only [Bool.and_eq_true, beq_iff_eq, decide_eq_true_iff, List.all_eq_true,
    Option.any_eq_true] at h
  obtain ⟨⟨hid, hnodup⟩, hlists⟩ := h
  exact ⟨hr, hid, hnodup, hlists⟩

/-- A library whose declarations are in order is a tree. -/
theorem isTree_of_isRegular (h : lib.isRegular = true) : lib.IsTree ∧ lib.ScopesAgree := by
  unfold isRegular at h
  simp only [Bool.and_eq_true, decide_eq_true_iff, List.all_eq_true, Option.any_eq_true] at h
  obtain ⟨⟨hnodup, hunits⟩, hslots⟩ := h
  have hhomely : ∀ id, id < lib.created → ∃ d, lib.Homely id d := by
    intro id hid
    have hmem : (lib.slots[id], id) ∈ lib.slots.zipIdx :=
      List.mem_zipIdx_iff_getElem?.2 (List.getElem?_eq_getElem hid)
    obtain ⟨hregistered, hcheck⟩ : lib.slots[id].registered = true ∧ _ := hslots _ hmem
    refine ⟨lib.slots[id].decl, homely_of_isHomely ?_ hcheck⟩
    unfold registered?
    rw [List.getElem?_eq_getElem hid]
    simp [Option.filter, hregistered]
  refine isTree_of_parents (P := (· < lib.created)) hnodup ?_ hhomely ?_
  · intro u hu
    obtain ⟨d, hd, hcheck⟩ := hunits u hu
    simp only [beq_iff_eq, Option.isNone_iff_eq_none] at hcheck
    exact ⟨lt_created_of_decl? hd, d, hd, hcheck⟩
  · rintro p id hp ⟨d, hd, hid⟩
    obtain ⟨d', hd'⟩ := hhomely p hp
    rw [decl?_of_registered? hd'.registered] at hd
    cases hd
    obtain ⟨list, hlist, hmem⟩ := Body.mem_children_iff.1 hid
    obtain ⟨e, he, -⟩ := hd'.lists list hlist id hmem
    exact lt_created_of_decl? he

/-! ### Trees in another order -/

/-- A library whose lists hold the same under the same numbers, in whatever order and whatever
scopes its declarations name. -/
structure Rearranged (lib out : Library) : Prop where
  /-- The units stay. -/
  units : out.units = lib.units
  /-- Numbers and forms stay, and so does what lists hold. -/
  slots : lib.Matches (fun d e => e.id = d.id ∧ e.body.form = d.body.form ∧
    ∀ list, (e.body.listOf list).Perm (d.body.listOf list)) out

namespace Rearranged

variable {out : Library}

theorem symm (h : lib.Rearranged out) : out.Rearranged lib := by
  refine ⟨h.units.symm, fun id => ?_⟩
  have hid := h.slots id
  revert hid
  cases lib.slots[id]? <;> cases out.slots[id]? <;> intro hid <;> cases hid
  · exact .none
  · next hs =>
    obtain ⟨hregistered, hnumber, hform, hlists⟩ := hs
    exact .some ⟨hregistered.symm, hnumber.symm, hform.symm, fun list => (hlists list).symm⟩

theorem lists (h : lib.Rearranged out) {p id : Nat} (hl : lib.Lists p id) : out.Lists p id := by
  obtain ⟨d, hd, hid⟩ := hl
  obtain ⟨e, he, -, hform, hlists⟩ := h.slots.exists_of_decl? hd
  exact ⟨e, he, (Body.children_perm hform hlists).symm.subset hid⟩

theorem below (h : lib.Rearranged out) {top level id : Nat} (hb : lib.Below top level id) :
    out.Below top level id := by
  induction hb with
  | self => exact .self
  | step _ hl ih => exact ih.step (h.lists hl)

theorem attached (h : lib.Rearranged out) {id : Nat} (ha : lib.Attached id) : out.Attached id := by
  obtain ⟨u, hu, level, hb⟩ := ha
  exact ⟨u, h.units.symm ▸ hu, level, h.below hb⟩

/-- Whether declarations form a tree depends neither on the order of lists nor on the scopes that
declarations name. -/
theorem isTree (h : lib.Rearranged out) (ht : lib.IsTree) : out.IsTree where
  units_nodup := h.units ▸ ht.units_nodup
  unit_form := by
    intro u hu
    obtain ⟨d, hd, hf⟩ := ht.unit_form u (h.units ▸ hu)
    obtain ⟨e, he, -, hform, -⟩ := h.slots.exists_of_decl? hd
    exact ⟨e, he, hform.trans hf⟩
  registered := by
    intro id ha
    obtain ⟨d, hd, hid⟩ := ht.registered id (h.symm.attached ha)
    obtain ⟨e, he, hnumber, -⟩ := h.slots.exists_of_registered? hd
    exact ⟨e, he, hnumber.trans hid⟩
  children_nodup := by
    intro id e ha he
    obtain ⟨d, hd, -, hform, hlists⟩ := h.slots.exists_of_decl?_out he
    exact (Body.children_perm hform hlists).nodup_iff.2
      (ht.children_nodup id d (h.symm.attached ha) hd)
  one_owner := fun p q id hp hq hl hl' => ht.one_owner p q id (h.symm.attached hp)
    (h.symm.attached hq) (h.symm.lists hl) (h.symm.lists hl')
  unit_apart := fun p u hp hl hu =>
    ht.unit_apart p u (h.symm.attached hp) (h.symm.lists hl) (h.units ▸ hu)
  forms := by
    intro p e list id f hp he hid hf
    obtain ⟨d, hd, -, hform, hlists⟩ := h.slots.exists_of_decl?_out he
    obtain ⟨c, hc, -, hcform, -⟩ := h.slots.exists_of_decl?_out hf
    rw [hform, hcform]
    exact ht.forms p d list id c (h.symm.attached hp) hd ((hlists list).subset hid) hc

end Rearranged

end Bindery.Library
