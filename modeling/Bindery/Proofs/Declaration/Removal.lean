import Bindery.Proofs.Declaration.Coherent
import Bindery.Proofs.Declaration.Pruned
import Mathlib.Data.List.Pairwise

/-!
# What a removal takes away

Taking a declaration out of its scope takes it and all below it out of the walk, and nothing else:
what stays is met in the order in which it was met before, everything stays registered, and no
declaration but the one that gave it up is changed. A removal that is refused changes nothing.
-/

namespace Bindery

/-- A body that gives a declaration up has all others on its lists, in the order they were in. -/
theorem Body.children_erase? {b c : Body} {id : Nat} (h : b.erase? id = some c)
    (hnodup : b.children.Nodup) : c.children = b.children.filter (· != id) := by
  obtain ⟨list, hmem, hform, hlists⟩ := Body.erase?_eq_some h
  rw [children_eq_flatMap_listOf, List.nodup_flatMap] at hnodup
  obtain ⟨hnodups, hdisjoint⟩ := hnodup
  have hlist := mem_lists_of_mem_listOf hmem
  rw [children_eq_flatMap_listOf, children_eq_flatMap_listOf, hform, List.filter_flatMap]
  refine List.flatMap_congr fun l hl => ?_
  rw [hlists l]
  split_ifs with heq
  · exact (hnodups l hl).erase_eq_filter id
  · have hout : id ∉ b.listOf l := by
      intro hid
      have hsymm : Std.Symm (Function.onFun List.Disjoint b.listOf) := ⟨fun _ _ hd => hd.symm⟩
      exact hdisjoint.forall hl hlist heq hid hmem
    refine (List.filter_eq_self.2 fun x hx => ?_).symm
    rw [bne_iff_ne]
    rintro rfl
    exact hout hx

/-- Lists that come from the members of a list that are left, where the others give none. -/
theorem flatMap_eq_flatMap_filter {α β : Type} {l : List α} {keep : α → Bool} {f g : α → List β}
    (hkept : ∀ a ∈ l, keep a = true → f a = g a) (hgone : ∀ a ∈ l, keep a = false → f a = []) :
    l.flatMap f = (l.filter keep).flatMap g := by
  induction l with
  | nil => rfl
  | cons a l ih =>
    have hrest := ih (fun b hb => hkept b (List.mem_cons_of_mem _ hb))
      (fun b hb => hgone b (List.mem_cons_of_mem _ hb))
    rw [List.flatMap_cons, List.filter_cons, hrest]
    cases ha : keep a with
    | false => simp [hgone a (List.mem_cons_self ..) ha]
    | true => simp [hkept a (List.mem_cons_self ..) ha]

namespace Library

variable {lib out : Library}

/-- The numbers of a declaration and all below it. -/
def subtreeIds (lib : Library) (id : Nat) : List Nat :=
  (lib.subtree id).map (·.id)

/-- The same declarations, none of which lists the one of a number. -/
def ListsWithout (lib : Library) (id : Nat) (out : Library) : Prop :=
  ∀ k, Option.Rel (fun d e => e.id = d.id ∧ e.body.children = d.body.children.filter (· != id))
    (lib.decl? k) (out.decl? k)

/-- What is left of a library when a declaration was taken out of its scope. -/
structure TakenOut (lib : Library) (id : Nat) (out : Library) : Prop where
  /-- The walk meets all but the declaration and what lies below it, in the same order. -/
  walk : out.walk.map (·.id) = (lib.walk.map (·.id)).filter (· ∉ lib.subtreeIds id)
  /-- What is registered stays so, and nothing else is. -/
  contains : ∀ k, out.contains k = lib.contains k
  /-- Declarations stay as they are, but for the one that gives the declaration up. -/
  others : ∀ k, (lib.decl? id).bind (·.parent) ≠ some k → out.decl? k = lib.decl? k
  /-- That one only loses the declaration. -/
  owner : ∀ p o, (lib.decl? id).bind (·.parent) = some p → lib.decl? p = some o →
    ∃ b, o.body.erase? id = some b ∧ out.decl? p = some { o with body := b }

/-- A walk from outside of what is taken away meets all else as before. -/
theorem Ranked.walkFrom_without (h : lib.Ranked) {id : Nat} (hid : id < lib.created)
    (hw : lib.ListsWithout id out) (n : Nat) {a : Nat} (ha : a ∉ lib.subtreeIds id) :
    (out.walkFrom n a).map (·.id) =
      ((lib.walkFrom n a).map (·.id)).filter (· ∉ lib.subtreeIds id) := by
  have hin : ∀ x, x ∈ lib.subtreeIds id ↔ ∃ level, lib.Below id level x :=
    fun x => h.mem_map_id_subtree hid
  induction n generalizing a with
  | zero => rfl
  | succ n ih =>
    have hrel := hw a
    cases hd : lib.decl? a with
    | none =>
      rw [hd] at hrel
      cases he : out.decl? a with
      | none => simp [walkFrom, hd, he]
      | some e => rw [he] at hrel; cases hrel
    | some d =>
      rw [hd] at hrel
      cases he : out.decl? a with
      | none => rw [he] at hrel; cases hrel
      | some e =>
        rw [he] at hrel
        obtain ⟨hnumber, hchildren⟩ : e.id = d.id ∧
            e.body.children = d.body.children.filter (· != id) := by
          cases hrel
          assumption
        have hself : d.id = a := (h.number a d hd).1
        simp only [walkFrom, hd, he, List.map_cons, List.map_flatMap, List.filter_cons,
          List.filter_flatMap, hnumber, hself, ha, not_false_eq_true, decide_true, if_true,
          List.cons.injEq, true_and]
        rw [hchildren]
        refine (flatMap_eq_flatMap_filter ?_ ?_).symm
        · -- what is listed beside the declaration lies outside of what is taken away
          intro c hc hne
          refine (ih fun hcin => ?_).symm
          obtain ⟨level, hb⟩ := (hin c).1 hcin
          cases hb with
          | self => simp at hne
          | step hb hl =>
            have howner := h.owner_unique hl ⟨d, hd, hc⟩
            exact ha ((hin a).2 ⟨_, howner ▸ hb⟩)
        · intro c _ heq
          obtain rfl : c = id := by simpa using heq
          rw [List.filter_eq_nil_iff]
          intro x hx
          obtain ⟨y, hy, rfl⟩ := List.mem_map.1 hx
          obtain ⟨level, z, -, hb, hz⟩ := mem_walkFrom.1 hy
          have hmem : y.id ∈ lib.subtreeIds c := by
            rw [hin, (h.number z y hz).1]
            exact ⟨level, hb⟩
          simp [hmem]

/-- The walk through all units meets all but what is taken away, also if that is a unit. -/
theorem Coherent.walk_without (h : lib.Coherent) {id : Nat} (hid : id < lib.created)
    (hw : lib.ListsWithout id out) (hcreated : out.created = lib.created)
    (hunits : out.units = lib.units.filter (· != id)) :
    out.walk.map (·.id) = (lib.walk.map (·.id)).filter (· ∉ lib.subtreeIds id) := by
  unfold walk subtree
  rw [List.map_flatMap, List.map_flatMap, List.filter_flatMap, hunits, hcreated]
  refine (flatMap_eq_flatMap_filter ?_ ?_).symm
  · intro u hu hne
    refine (h.walkFrom_without hid hw lib.created fun hin => ?_).symm
    obtain ⟨level, hb⟩ := (h.mem_map_id_subtree hid).1 hin
    obtain ⟨d, hd, -, hp⟩ := h.unit u hu
    have heq := h.eq_of_below (decl?_of_registered? hd) hp hb
    simp [heq] at hne
  · intro u _ heq
    obtain rfl : u = id := by simpa using heq
    rw [List.filter_eq_nil_iff]
    intro x hx
    have hmem : x ∈ lib.subtreeIds u := hx
    simp [hmem]

/-- Taking a declaration out of its scope, whether it can be reached there or not. -/
theorem Coherent.takenOut_update (h : lib.Coherent) {p id : Nat} {o d : Decl} {b : Body}
    (hd : lib.decl? id = some d) (hscope : d.parent = some p) (ho : lib.decl? p = some o)
    (hb : o.body.erase? id = some b) :
    lib.TakenOut id (lib.update p fun o => { o with body := b }) := by
  have hparent : (lib.decl? id).bind (·.parent) = some p := by
    rw [hd]
    exact hscope
  have hlists : lib.ListsWithout id (lib.update p fun o => { o with body := b }) := by
    intro k
    rw [decl?_update]
    split_ifs with hk
    · subst hk
      rw [ho]
      exact .some ⟨rfl, Body.children_erase? hb (h.children_nodup ho)⟩
    · cases hc : lib.decl? k with
      | none => exact .none
      | some c =>
        have hout : id ∉ c.body.children := by
          intro hmem
          have hother := h.parent_of_lists ⟨c, hc, hmem⟩ hd
          rw [hscope] at hother
          exact hk (Option.some.inj hother)
        refine .some ⟨rfl, (List.filter_eq_self.2 fun x hx => ?_).symm⟩
        rw [bne_iff_ne]
        rintro rfl
        exact hout hx
  have hunits : lib.units = lib.units.filter (· != id) := by
    refine (List.filter_eq_self.2 fun u hu => ?_).symm
    rw [bne_iff_ne]
    rintro rfl
    obtain ⟨e, he, -, hroot⟩ := h.unit u hu
    rw [decl?_of_registered? he] at hd
    cases hd
    rw [hroot] at hscope
    cases hscope
  refine ⟨h.walk_without (lt_created_of_decl? hd) hlists (created_update ..) hunits,
    fun _ => contains_update .., ?_, ?_⟩
  · intro k hk
    rw [hparent] at hk
    rw [decl?_update, if_neg fun heq => hk (congrArg some heq)]
  · intro q a hq ha
    rw [hparent] at hq
    cases hq
    rw [ho] at ha
    cases ha
    exact ⟨b, hb, by rw [decl?_update, if_pos rfl, ho]; rfl⟩

/-- Taking what was created in no scope off the list of units, where it may stand or not. -/
theorem Coherent.takenOut_units (h : lib.Coherent) {id : Nat} {d : Decl}
    (hd : lib.decl? id = some d) (hroot : d.parent = none) :
    lib.TakenOut id { lib with units := lib.units.erase id } := by
  have hparent : (lib.decl? id).bind (·.parent) = none := by
    rw [hd]
    exact hroot
  have hlists : lib.ListsWithout id { lib with units := lib.units.erase id } := by
    intro k
    show Option.Rel _ (lib.decl? k) (lib.decl? k)
    cases hc : lib.decl? k with
    | none => exact .none
    | some c =>
      refine .some ⟨rfl, (List.filter_eq_self.2 fun x hx => ?_).symm⟩
      rw [bne_iff_ne]
      rintro rfl
      rw [h.parent_of_lists ⟨c, hc, hx⟩ hd] at hroot
      cases hroot
  refine ⟨h.walk_without (lt_created_of_decl? hd) hlists rfl (h.units_nodup.erase_eq_filter id),
    fun _ => rfl, fun _ _ => rfl, ?_⟩
  intro p o hp
  rw [hparent] at hp
  cases hp

end Library

/-- A removal takes a declaration out, or is refused and changes nothing. -/
theorem Edit.outcomeOf_remove {lib : Library} (h : lib.Coherent) (id : Nat) :
    (∃ out, outcomeOf (remove id) lib = (.ok (), out) ∧ lib.TakenOut id out) ∨
      ∃ f, outcomeOf (remove id) lib = (.error f, lib) := by
  unfold remove
  rw [outcomeOf_bind_ok (outcomeOf_get lib)]
  cases hd : lib.decl? id with
  | none => exact .inr ⟨_, rfl⟩
  | some d =>
    cases hp : d.parent with
    | none =>
      simp only [hp]
      exact .inl ⟨_, rfl, h.takenOut_units hd hp⟩
    | some p =>
      simp only [hp]
      rw [outcomeOf_bind, outcomeOf_editLook]
      unfold Library.get
      cases hr : lib.registered? p with
      | none =>
        exact .inr ⟨_, rfl⟩
      | some o =>
        have ho := Library.decl?_of_registered? hr
        have hself : o.id = p := (h.number p o ho).1
        simp only [hself]
        have hout := outcomeOf_removeChild ho hd
        cases hb : o.body.erase? id with
        | none =>
          rw [hb] at hout
          obtain ⟨f, hout⟩ := hout
          exact .inr ⟨f, hout⟩
        | some b =>
          rw [hb] at hout
          exact .inl ⟨_, hout, h.takenOut_update hd hp ho hb⟩

end Bindery
