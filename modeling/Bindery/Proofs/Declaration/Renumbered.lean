import Bindery.Declaration.Walk
import Bindery.Proofs.Declaration.Renumber
import Bindery.Proofs.Declaration.Slots
import Bindery.Proofs.Declaration.Walk
import Mathlib.Order.WellFounded

/-!
# Libraries with other numbers

Two libraries that declare the same things under different numbers, in the same order. The one with
the greater numbers may have declarations between and behind that the other one has not; nothing
that counts refers to them. What is found in one library by number is found in the other one under
the number that takes its place, and a walk through one is a walk through the other. How far a walk
may go depends on how many declarations there are, so walks are compared where both go far enough.

From a declaration that can be reached, the way outward through the scopes in which declarations
were created comes to a unit, after no more steps than the declaration has levels above it. The ways
outward in the two libraries meet the same declarations, and qualified names are the same.
-/

namespace Bindery.Library

variable {ρ : Nat → Nat} {lib out : Library}

/-- A library has the declarations of another one under other numbers, and perhaps further ones that
it does not list. -/
structure Renumbered (ρ : Nat → Nat) (lib out : Library) : Prop where
  /-- The order of numbers is kept. -/
  mono : StrictMono ρ
  /-- Slots differ in numbers only. -/
  slots : ∀ id : Nat, out.slots[ρ id]? = lib.slots[id]?.map (Slot.renumber ρ)
  /-- So do the units. -/
  units : out.units = lib.units.map ρ

namespace Renumbered

variable (h : lib.Renumbered ρ out)
include h

theorem decl? (id : Nat) : out.decl? (ρ id) = (lib.decl? id).map (Decl.renumber ρ) := by
  unfold Library.decl?
  rw [h.slots]
  cases lib.slots[id]? <;> rfl

theorem registered? (id : Nat) :
    out.registered? (ρ id) = (lib.registered? id).map (Decl.renumber ρ) := by
  unfold Library.registered?
  rw [h.slots]
  cases lib.slots[id]? with
  | none => rfl
  | some s => cases hs : s.registered <;> simp [Slot.renumber, Option.filter, hs]

/-- Looking a declaration up comes to the same under either number. -/
theorem get (id : Nat) : Agree (fun d d' => lib.registered? id = some d ∧ d' = d.renumber ρ)
    (lib.get id) (out.get (ρ id)) := by
  unfold Library.get
  rw [h.registered?]
  cases hd : lib.registered? id with
  | none => exact .error _ _
  | some d => exact .ok ⟨rfl, rfl⟩

theorem contains (id : Nat) : out.contains (ρ id) = lib.contains id := by
  unfold Library.contains
  rw [h.slots]
  cases lib.slots[id]? <;> rfl

/-- There are as many declarations at least. -/
theorem created_le : lib.created ≤ out.created := by
  cases hc : lib.created with
  | zero => exact Nat.zero_le _
  | succ n =>
    have hlt : n < lib.slots.length := by
      show n < lib.created
      omega
    have hlast := h.slots n
    rw [List.getElem?_eq_getElem hlt] at hlast
    have hin : ρ n < out.created := (List.getElem?_eq_some_iff.1 hlast).1
    have hle : n ≤ ρ n := StrictMono.le_apply h.mono
    omega

/-- A change that does the same under either number. -/
theorem update {id : Nat} {f g : Decl → Decl}
    (hfg : ∀ d, lib.decl? id = some d → g (d.renumber ρ) = (f d).renumber ρ) :
    (lib.update id f).Renumbered ρ (out.update (ρ id) g) := by
  refine ⟨h.mono, fun k => ?_, h.units⟩
  simp only [Library.update, List.getElem?_modify, h.slots k, h.mono.injective.eq_iff]
  cases hk : lib.slots[k]? with
  | none => rfl
  | some s =>
    by_cases he : id = k
    · subst he
      have hd : lib.decl? id = some s.decl := by simp [Library.decl?, hk]
      simp only [if_true, Option.map_some, Option.map_eq_map, Slot.renumber, hfg _ hd]
    · simp only [if_neg he, Option.map_some, Option.map_eq_map]

theorem filterMap_decl? (ids : List Nat) :
    (ids.map ρ).filterMap out.decl? = (ids.filterMap lib.decl?).map (Decl.renumber ρ) := by
  rw [List.filterMap_map, List.map_filterMap]
  exact congrArg (ids.filterMap ·) (funext fun id => h.decl? id)

/-! ### Down -/

/-- Where both go far enough, the same is found below a declaration. -/
theorem belowFrom {pick : Body → List Nat} (hpick : ∀ b, pick (b.renumber ρ) = (pick b).map ρ)
    (hsub : ∀ b, pick b ⊆ b.children) {n m a : Nat} (hn : lib.Shallow n a)
    (hm : lib.Shallow m a) :
    out.belowFrom pick m (ρ a) = (lib.belowFrom pick n a).map (Decl.renumber ρ) := by
  induction n generalizing m a with
  | zero => exact absurd (hn 0 a .self) (by omega)
  | succ n ih =>
    cases m with
    | zero => exact absurd (hm 0 a .self) (by omega)
    | succ m =>
      unfold Library.belowFrom
      rw [h.decl?]
      cases ha : lib.decl? a with
      | none => rfl
      | some d =>
        have hstep : ∀ c ∈ pick d.body, out.belowFrom pick m (ρ c) =
            (lib.belowFrom pick n c).map (Decl.renumber ρ) := by
          intro c hc
          have hl : lib.Lists a c := ⟨d, ha, hsub _ hc⟩
          exact ih (hn.lists hl) (hm.lists hl)
        show d.renumber ρ :: (pick (d.body.renumber ρ)).flatMap _ = _
        rw [hpick, List.flatMap_map, List.flatMap_congr hstep, List.map_cons, List.map_flatMap]

variable (ht : lib.IsTree)
include ht

theorem shallow {a : Nat} (ha : lib.Attached a) : lib.Shallow out.created a :=
  fun k x hx => Nat.lt_of_lt_of_le (ht.shallow_created ha k x hx) h.created_le

theorem below {pick : Body → List Nat} (hpick : ∀ b, pick (b.renumber ρ) = (pick b).map ρ)
    (hsub : ∀ b, pick b ⊆ b.children) {a : Nat} (ha : lib.Attached a) :
    out.below pick (ρ a) = (lib.below pick a).map (Decl.renumber ρ) :=
  h.belowFrom hpick hsub (ht.shallow_created ha) (h.shallow ht ha)

/-- A walk meets the same declarations in the same order. -/
theorem walk : out.walk = lib.walk.map (Decl.renumber ρ) := by
  unfold Library.walk
  rw [h.units, List.flatMap_map, List.map_flatMap]
  refine List.flatMap_congr fun u hu => ?_
  unfold subtree
  rw [← belowFrom_children, ← belowFrom_children]
  exact h.below ht (Body.children_renumber ρ) (fun _ => List.Subset.refl _)
    (attached_of_mem_units hu)

theorem namespaces : out.namespaces = lib.namespaces.map (Decl.renumber ρ) := by
  unfold Library.namespaces
  rw [h.units, List.flatMap_map, List.map_flatMap]
  refine List.flatMap_congr fun u hu => ?_
  exact h.below ht (fun b => Body.listOf_renumber ρ b "namespaces") namespaces_subset_children
    (attached_of_mem_units hu)

theorem classesOf {id : Nat} {d : Decl} (ha : lib.Attached id) (hd : lib.decl? id = some d) :
    out.classesOf (d.renumber ρ) = (lib.classesOf d).map (Decl.renumber ρ) := by
  unfold Library.classesOf
  show (d.body.renumber ρ).classes.flatMap _ = _
  rw [show (d.body.renumber ρ).classes = d.body.classes.map ρ from
    Body.listOf_renumber ρ d.body "classes", List.flatMap_map, List.map_flatMap]
  refine List.flatMap_congr fun c hc => ?_
  exact h.below ht (fun b => Body.listOf_renumber ρ b "classes") classes_subset_children
    (ha.lists ⟨d, hd, classes_subset_children _ hc⟩)

/-- The same classes are found, in the same order. -/
theorem classes : out.classes = lib.classes.map (Decl.renumber ρ) := by
  unfold Library.classes
  rw [h.namespaces ht, List.flatMap_map, List.map_flatMap]
  refine List.flatMap_congr fun d hd => ?_
  obtain ⟨id, ha, hid⟩ := attached_of_mem_namespaces hd
  exact h.classesOf ht ha hid

end Renumbered

/-! ### Ways outward -/

/-- The way outward from a declaration comes to an end within a number of steps. -/
inductive Rises (lib : Library) : Nat → Decl → Prop where
  /-- What was created in no scope has nowhere to go. -/
  | top {n : Nat} {d : Decl} : d.parent = none → Rises lib n d
  /-- What was created in a scope goes on from there. -/
  | scope {n p : Nat} {d e : Decl} :
      d.parent = some p → lib.registered? p = some e → Rises lib n e → Rises lib (n + 1) d

theorem Rises.mono {n m : Nat} {d : Decl} (h : lib.Rises n d) (hnm : n ≤ m) : lib.Rises m d := by
  induction h generalizing m with
  | top hp => exact .top hp
  | scope hp he _ ih =>
    cases m with
    | zero => exact absurd hnm (by omega)
    | succ m => exact .scope hp he (ih (by omega))

/-- Changes that leave the scopes of declarations alone leave the ways outward alone. -/
theorem Rises.of_matches {R : Decl → Decl → Prop} (hm : lib.Matches R out)
    (hR : ∀ d e, R d e → e.parent = d.parent) {n : Nat} {d e : Decl} (hde : R d e)
    (h : lib.Rises n d) : out.Rises n e := by
  induction h generalizing e with
  | top hp => exact .top ((hR _ _ hde).trans hp)
  | @scope n p d c hp hc _ ih =>
    have hreg := hm.registered? p
    rw [hc] at hreg
    cases hr : out.registered? p with
    | none =>
      rw [hr] at hreg
      cases hreg
    | some c' =>
      rw [hr] at hreg
      cases hreg with
      | some hcc => exact .scope ((hR _ _ hde).trans hp) hr (ih hcc)

/-- Every scope around the declaration of a number can be told. -/
def Grounded (lib : Library) (id : Nat) : Prop :=
  ∀ d, lib.decl? id = some d → lib.Rises lib.created d

theorem Grounded.of_matches {R : Decl → Decl → Prop} {id : Nat} (h : lib.Grounded id)
    (hm : lib.Matches R out) (hR : ∀ d e, R d e → e.parent = d.parent) : out.Grounded id := by
  intro e he
  obtain ⟨d, hd, hde⟩ := hm.exists_of_decl?_out he
  rw [hm.created]
  exact (h d hd).of_matches hm hR hde

/-- What can be reached is grounded, where scopes agree with lists. -/
theorem IsTree.grounded (h : lib.IsTree) (hs : lib.ScopesAgree) {id : Nat}
    (ha : lib.Attached id) : lib.Grounded id := by
  suffices hrises : ∀ u ∈ lib.units, ∀ level id, lib.Below u level id →
      ∀ d, lib.decl? id = some d → lib.Rises level d by
    obtain ⟨u, hu, level, hb⟩ := ha
    intro d hd
    exact (hrises u hu level id hb d hd).mono (Nat.le_of_lt (h.level_lt_created hu hb))
  intro u hu level id hb
  induction hb with
  | self => exact fun d hd => .top (hs.unit_parent u hu d hd)
  | @step level owner id hb hl ih =>
    intro d hd
    obtain ⟨o, ho, -⟩ := h.registered owner ⟨u, hu, level, hb⟩
    exact .scope (hs.listed_parent owner id d ⟨u, hu, level, hb⟩ hl hd) ho
      (ih o (decl?_of_registered? ho))

namespace Renumbered

variable (h : lib.Renumbered ρ out)
include h

/-- The same declarations are met on the way outward. -/
theorem outwardFrom {k n m : Nat} {d : Decl} (hd : lib.Rises k d) (hn : k ≤ n) (hm : k ≤ m) :
    ∃ ds, lib.outwardFrom n d = .ok ds ∧
      out.outwardFrom m (d.renumber ρ) = .ok (ds.map (Decl.renumber ρ)) := by
  induction hd generalizing n m with
  | @top k d hp =>
    have hp' : (d.renumber ρ).parent = none := by
      show d.parent.map ρ = none
      rw [hp]
      rfl
    refine ⟨[d], ?_, ?_⟩
    · cases n with
      | zero => rfl
      | succ n =>
        simp only [Library.outwardFrom, parentOf, hp]
        rfl
    · cases m with
      | zero => rfl
      | succ m =>
        simp only [Library.outwardFrom, parentOf, hp']
        rfl
  | @scope k p d e hp he _ ih =>
    cases n with
    | zero => exact absurd hn (by omega)
    | succ n =>
      cases m with
      | zero => exact absurd hm (by omega)
      | succ m =>
        obtain ⟨ds, hds, hds'⟩ := ih (n := n) (m := m) (by omega) (by omega)
        have hp' : (d.renumber ρ).parent = some (ρ p) := by
          show d.parent.map ρ = _
          rw [hp]
          rfl
        have he' : out.registered? (ρ p) = some (e.renumber ρ) := by
          rw [h.registered?, he]
          rfl
        refine ⟨d :: ds, ?_, ?_⟩
        · simp only [Library.outwardFrom, parentOf, hp, Library.get, he]
          show (do let rest ← lib.outwardFrom n e; pure (d :: rest)) = _
          rw [hds]
          rfl
        · simp only [Library.outwardFrom, parentOf, hp', Library.get, he']
          show (do
            let rest ← out.outwardFrom m (e.renumber ρ)
            pure (d.renumber ρ :: rest)) = _
          rw [hds']
          rfl

/-- Names joined from the outside in do not depend on numbers. -/
theorem joined {nameOf : Decl → String} (hname : ∀ d, nameOf (d.renumber ρ) = nameOf d)
    {id : Nat} {d : Decl} (hd : lib.decl? id = some d) (hg : lib.Grounded id) :
    ∃ q, (lib.outward d).map (joinNames nameOf) = .ok q ∧
      (out.outward (d.renumber ρ)).map (joinNames nameOf) = .ok q := by
  obtain ⟨ds, hds, hds'⟩ := h.outwardFrom (hg d hd) (Nat.le_refl _) h.created_le
  refine ⟨joinNames nameOf ds, ?_, ?_⟩
  · unfold outward
    rw [hds]
    rfl
  · have hjoin : joinNames nameOf (ds.map (Decl.renumber ρ)) = joinNames nameOf ds := by
      have hkind : ∀ d : Decl, (d.renumber ρ).kind = d.kind :=
        fun d => congrArg Form.kind (Body.form_renumber ρ d.body)
      unfold joinNames
      rw [List.filter_map, List.map_map]
      simp only [Function.comp_def, hkind, hname]
    unfold outward
    rw [hds', ← hjoin]
    rfl

theorem qualifiedName {id : Nat} {d : Decl} (hd : lib.decl? id = some d) (hg : lib.Grounded id) :
    ∃ q, lib.qualifiedName d = .ok q ∧ out.qualifiedName (d.renumber ρ) = .ok q :=
  h.joined (fun _ => rfl) hd hg

theorem qualifiedFirstName {id : Nat} {d : Decl} (hd : lib.decl? id = some d)
    (hg : lib.Grounded id) :
    ∃ q, lib.qualifiedFirstName d = .ok q ∧ out.qualifiedFirstName (d.renumber ρ) = .ok q :=
  h.joined (fun _ => rfl) hd hg

end Renumbered

end Bindery.Library
