import Bindery.Declaration.Walk
import Mathlib.Data.Fintype.Card

/-!
# Trees of declarations

A library is a tree when the declarations below its units hang in one place each: every one of them
is registered under its own number, no list names a declaration twice, no two declarations list the
same one, no unit lies inside anything, and every list holds the forms it is meant for. The place of
a declaration is then unique, its depth included, and it never lies deeper than there are
declarations. Whether the scopes that declarations name as their own agree with the lists is a
matter of its own.
-/

namespace Bindery.Library

variable {lib : Library}

/-- A declaration lists another one among those inside it. -/
def Lists (lib : Library) (owner id : Nat) : Prop :=
  ∃ d, lib.decl? owner = some d ∧ id ∈ d.body.children

/-- A declaration lies a number of levels below another one. -/
inductive Below (lib : Library) (top : Nat) : Nat → Nat → Prop where
  /-- A declaration lies no level below itself. -/
  | self : Below lib top 0 top
  /-- What a declaration lists lies one level further down. -/
  | step {level owner id : Nat} :
      Below lib top level owner → lib.Lists owner id → Below lib top (level + 1) id

/-- A declaration can be reached from a unit. -/
def Attached (lib : Library) (id : Nat) : Prop :=
  ∃ unit ∈ lib.units, ∃ level, lib.Below unit level id

/-- The declarations below the units form a tree. -/
structure IsTree (lib : Library) : Prop where
  /-- No unit is listed twice. -/
  units_nodup : lib.units.Nodup
  /-- What is listed as a unit is one. -/
  unit_form : ∀ unit ∈ lib.units, ∃ d, lib.decl? unit = some d ∧ d.body.form = .unit
  /-- What can be reached is registered under its own number. -/
  registered : ∀ id, lib.Attached id → ∃ d, lib.registered? id = some d ∧ d.id = id
  /-- No declaration lists another one twice. -/
  children_nodup : ∀ id d, lib.Attached id → lib.decl? id = some d → d.body.children.Nodup
  /-- No two declarations list the same one. -/
  one_owner : ∀ p q id, lib.Attached p → lib.Attached q → lib.Lists p id → lib.Lists q id → p = q
  /-- No unit lies inside another declaration. -/
  unit_apart : ∀ p unit, lib.Attached p → lib.Lists p unit → unit ∉ lib.units
  /-- Lists hold the forms they are meant for. -/
  forms : ∀ p d list id e, lib.Attached p → lib.decl? p = some d → id ∈ d.body.listOf list →
    lib.decl? id = some e → d.body.form.listFor? e.body.form = some list

/-- Every declaration names the one that lists it as the scope it was created in, and units name
none. -/
structure ScopesAgree (lib : Library) : Prop where
  /-- Units were created in no scope. -/
  unit_parent : ∀ unit ∈ lib.units, ∀ d, lib.decl? unit = some d → d.parent = none
  /-- What a declaration lists was created in it. -/
  listed_parent : ∀ p id d, lib.Attached p → lib.Lists p id → lib.decl? id = some d →
    d.parent = some p

theorem decl?_of_registered? {id : Nat} {d : Decl} (h : lib.registered? id = some d) :
    lib.decl? id = some d := by
  unfold registered? at h
  unfold decl?
  cases hs : lib.slots[id]? with
  | none => simp [hs] at h
  | some s =>
    rw [hs] at h
    simp only [Option.filter] at h
    split at h
    · simpa using h
    · simp at h

theorem lt_created_of_decl? {id : Nat} {d : Decl} (h : lib.decl? id = some d) :
    id < lib.created := by
  unfold decl? at h
  by_contra hge
  have hn : lib.slots[id]? = none := List.getElem?_eq_none (Nat.le_of_not_lt hge)
  simp [hn] at h

/-- Numbers that were given out and are all different are not more than were given out. -/
theorem length_le_created {ids : List Nat} (hnodup : ids.Nodup)
    (hids : ∀ id ∈ ids, id < lib.created) : ids.length ≤ lib.created := by
  have hsub : ids.Subperm (List.range lib.created) :=
    List.subperm_of_subset hnodup fun id hid => List.mem_range.2 (hids id hid)
  have hle := hsub.length_le
  rwa [List.length_range] at hle

/-! ### Levels -/

theorem Below.trans {a b c m n : Nat} (h : lib.Below a m b) (h' : lib.Below b n c) :
    lib.Below a (m + n) c := by
  induction h' with
  | self => exact h
  | step _ hl ih => exact ih.step hl

/-- What lies further down than a declaration itself lies below one that it lists. -/
theorem below_succ_iff {a n x : Nat} :
    lib.Below a (n + 1) x ↔ ∃ c, lib.Lists a c ∧ lib.Below c n x := by
  constructor
  · intro h
    induction n generalizing x with
    | zero =>
      cases h with
      | step ha hl =>
        cases ha
        exact ⟨x, hl, .self⟩
    | succ n ih =>
      cases h with
      | step ha hl =>
        obtain ⟨c, hc, hb⟩ := ih ha
        exact ⟨c, hc, hb.step hl⟩
  · rintro ⟨c, hc, hb⟩
    have := Below.trans (Below.self.step hc) hb
    rwa [Nat.add_comm] at this

theorem below_zero_iff {a x : Nat} : lib.Below a 0 x ↔ x = a := by
  constructor
  · intro h
    cases h
    rfl
  · rintro rfl
    exact .self

theorem attached_of_mem_units {unit : Nat} (h : unit ∈ lib.units) : lib.Attached unit :=
  ⟨unit, h, 0, .self⟩

theorem Attached.lists {p id : Nat} (h : lib.Attached p) (hl : lib.Lists p id) :
    lib.Attached id := by
  obtain ⟨u, hu, n, hb⟩ := h
  exact ⟨u, hu, n + 1, hb.step hl⟩

theorem Attached.below {a n x : Nat} (h : lib.Attached a) (hb : lib.Below a n x) :
    lib.Attached x := by
  obtain ⟨u, hu, m, hm⟩ := h
  exact ⟨u, hu, m + n, hm.trans hb⟩

/-! ### Places in a tree -/

namespace IsTree

variable (h : lib.IsTree)
include h

theorem decl_of_attached {id : Nat} (ha : lib.Attached id) :
    ∃ d, lib.decl? id = some d ∧ d.id = id := by
  obtain ⟨d, hd, hid⟩ := h.registered id ha
  exact ⟨d, decl?_of_registered? hd, hid⟩

theorem id_of_decl? {id : Nat} {d : Decl} (ha : lib.Attached id) (hd : lib.decl? id = some d) :
    d.id = id := by
  obtain ⟨e, he, hid⟩ := h.decl_of_attached ha
  rw [he] at hd
  cases hd
  exact hid

/-- A declaration lies below one unit only, and at one level only. -/
theorem place_unique {u v m n x : Nat} (hu : u ∈ lib.units) (hv : v ∈ lib.units)
    (hm : lib.Below u m x) (hn : lib.Below v n x) : u = v ∧ m = n := by
  induction m generalizing n x with
  | zero =>
    cases hm
    cases hn with
    | self => exact ⟨rfl, rfl⟩
    | step hb hl => exact absurd hu (h.unit_apart _ _ ⟨v, hv, _, hb⟩ hl)
  | succ m ih =>
    cases hm with
    | step hb hl =>
      cases hn with
      | self => exact absurd hv (h.unit_apart _ _ ⟨u, hu, _, hb⟩ hl)
      | step hb' hl' =>
        have hpq := h.one_owner _ _ _ ⟨u, hu, _, hb⟩ ⟨v, hv, _, hb'⟩ hl hl'
        subst hpq
        obtain ⟨huv, hmn⟩ := ih hb hb'
        exact ⟨huv, by rw [hmn]⟩

/-- Below one declaration, another one lies at one level only. -/
theorem level_unique {a m n x : Nat} (ha : lib.Attached a) (hm : lib.Below a m x)
    (hn : lib.Below a n x) : m = n := by
  obtain ⟨u, hu, k, hk⟩ := ha
  have := (h.place_unique hu hu (hk.trans hm) (hk.trans hn)).2
  omega

/-- Two declarations with a common one at the same level below them are the same. -/
theorem top_unique {a b n x : Nat} (ha : lib.Attached a) (hb : lib.Attached b)
    (hx : lib.Below a n x) (hy : lib.Below b n x) : a = b := by
  induction n generalizing x with
  | zero =>
    cases hx
    cases hy
    rfl
  | succ n ih =>
    cases hx with
    | step hp hl =>
      cases hy with
      | step hq hl' =>
        have hpq := h.one_owner _ _ _ (ha.below hp) (hb.below hq) hl hl'
        subst hpq
        exact ih hp hq

/-- What two declarations of one list have below them is apart. -/
theorem sibling_unique {p a b m n x : Nat} (hp : lib.Attached p) (ha : lib.Lists p a)
    (hb : lib.Lists p b) (hx : lib.Below a m x) (hy : lib.Below b n x) : a = b := by
  have hmn := h.level_unique hp (below_succ_iff.2 ⟨a, ha, hx⟩) (below_succ_iff.2 ⟨b, hb, hy⟩)
  obtain rfl : m = n := by omega
  exact h.top_unique (hp.lists ha) (hp.lists hb) hx hy

/-- No declaration lies inside itself. -/
theorem not_below_self {a n : Nat} (ha : lib.Attached a) : ¬ lib.Below a (n + 1) a := by
  intro hb
  have := h.level_unique ha .self hb
  omega

end IsTree

/-- Where no declaration lies inside itself, nothing lies deeper than there are declarations. -/
theorem level_lt_created_of_acyclic (hdecl : ∀ id, lib.Attached id → id < lib.created)
    (hacyclic : ∀ id n, lib.Attached id → ¬ lib.Below id (n + 1) id) {unit n x : Nat}
    (hu : unit ∈ lib.units) (hb : lib.Below unit n x) : n < lib.created := by
  -- the declarations on the way down are different from each other
  have hway : ∃ way : List Nat, way.length = n + 1 ∧ way.Nodup ∧
      ∀ y ∈ way, lib.Attached y ∧ ∃ k, lib.Below y k x := by
    induction hb with
    | self =>
      refine ⟨[unit], rfl, List.nodup_singleton _, fun y hy => ?_⟩
      rw [List.mem_singleton.1 hy]
      exact ⟨attached_of_mem_units hu, 0, .self⟩
    | @step level owner id hb hl ih =>
      obtain ⟨way, hlength, hnodup, hway⟩ := ih
      refine ⟨id :: way, by rw [List.length_cons, hlength], List.nodup_cons.2 ⟨?_, hnodup⟩, ?_⟩
      · intro hmem
        obtain ⟨ha, k, hk⟩ := hway id hmem
        exact hacyclic id k ha (hk.step hl)
      · rintro y (_ | ⟨_, hy⟩)
        · exact ⟨Attached.lists ⟨unit, hu, level, hb⟩ hl, 0, .self⟩
        · obtain ⟨ha, k, hk⟩ := hway y hy
          exact ⟨ha, k + 1, hk.step hl⟩
  obtain ⟨way, hlength, hnodup, hway⟩ := hway
  have hle := length_le_created hnodup fun y hy => hdecl y (hway y hy).1
  omega

/-- In a tree nothing lies deeper than there are declarations. -/
theorem IsTree.level_lt_created (h : lib.IsTree) {unit n x : Nat} (hu : unit ∈ lib.units)
    (hb : lib.Below unit n x) : n < lib.created := by
  refine level_lt_created_of_acyclic (fun id ha => ?_) (fun id n ha => h.not_below_self ha) hu hb
  obtain ⟨d, hd, -⟩ := h.decl_of_attached ha
  exact lt_created_of_decl? hd

end Bindery.Library
