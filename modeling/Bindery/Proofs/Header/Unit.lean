import Bindery.Header.Parse
import Bindery.Proofs.Declaration.Walk
import Bindery.Proofs.Header.Readers

/-!
# Units behind other declarations

A header is read as a unit of its own, whatever the library holds: reading it behind other
declarations leaves those alone and adds what reading it alone gives, with numbers moved up. The
declarations that are added are those below the new unit, each once.
-/

namespace Bindery

namespace Library

/-- A walk does not depend on what is listed as a unit. -/
theorem walkFrom_units (lib : Library) (units : List Nat) (n id : Nat) :
    ({ lib with units := units } : Library).walkFrom n id = lib.walkFrom n id := by
  induction n generalizing id with
  | zero => rfl
  | succ n ih =>
    have hd : ({ lib with units := units } : Library).decl? id = lib.decl? id := rfl
    unfold walkFrom
    rw [hd]
    cases lib.decl? id with
    | none => rfl
    | some d => exact congrArg (d :: d.body.children.flatMap ·) (funext ih)

variable {old lib : Library}

/-- The unit alone, behind other declarations. -/
def alone (old lib : Library) : Library :=
  { old.graft lib with units := [old.created] }

theorem decl?_alone (id : Nat) :
    (old.alone lib).decl? (old.up id) = (lib.decl? id).map (Decl.renumber old.up) :=
  decl?_graft old lib id

theorem Growing.homely_alone (h : lib.Growing) {id : Nat} {d : Decl} (hd : lib.decl? id = some d) :
    (old.alone lib).Homely (old.up id) (d.renumber old.up) := by
  have hinj : Function.Injective old.up := fun a b hab => Nat.add_right_cancel hab
  refine ⟨?_, ?_, ?_, ?_⟩
  · have hreg := registered?_graft old lib id
    rw [h.registered id d hd] at hreg
    exact hreg
  · exact congrArg old.up (h.number id d hd).1
  · show (d.body.renumber old.up).children.Nodup
    rw [Body.children_renumber]
    exact (h.orderly.children_nodup hd).map hinj
  · intro list _ c hc
    have hc' : c ∈ (d.body.listOf list).map old.up := by
      rw [← Body.listOf_renumber]
      exact hc
    obtain ⟨c, hmem, rfl⟩ := List.mem_map.1 hc'
    obtain ⟨e, he, hp, hf⟩ := (h.lists id d list hd).2 c hmem
    refine ⟨e.renumber old.up, ?_, ?_, ?_⟩
    · rw [decl?_alone, he]
      rfl
    · show e.parent.map old.up = _
      rw [hp]
      rfl
    · show (d.body.renumber old.up).form.listFor? (e.body.renumber old.up).form = _
      rw [Body.form_renumber, Body.form_renumber]
      exact hf

theorem lists_alone_iff {p id : Nat} :
    (old.alone lib).Lists (old.up p) id ↔ ∃ c, id = old.up c ∧ lib.Lists p c := by
  unfold Lists
  rw [decl?_alone]
  cases lib.decl? p with
  | none => simp
  | some d =>
    simp only [Option.map_some, Option.some.injEq, exists_eq_left', Decl.renumber,
      Body.children_renumber, List.mem_map]
    constructor
    · rintro ⟨c, hc, rfl⟩
      exact ⟨c, rfl, hc⟩
    · rintro ⟨c, rfl, hc⟩
      exact ⟨c, hc, rfl⟩

theorem below_alone {level id : Nat} (hb : (old.alone lib).Below old.created level id) :
    ∃ k, id = old.up k := by
  induction hb with
  | self => exact ⟨0, (Nat.zero_add _).symm⟩
  | step _ hl ih =>
    obtain ⟨p, rfl⟩ := ih
    obtain ⟨c, rfl, -⟩ := lists_alone_iff.1 hl
    exact ⟨c, rfl⟩

theorem Growing.exists_of_lists (h : lib.Growing) {p c : Nat} (hl : lib.Lists p c) :
    ∃ d, lib.decl? c = some d := by
  obtain ⟨d, hd, hc⟩ := hl
  obtain ⟨list, -, hmem⟩ := Body.mem_children_iff.1 hc
  obtain ⟨e, he, -⟩ := (h.lists p d list hd).2 c hmem
  exact ⟨e, he⟩

/-- Behind other declarations, what grows from a unit is a tree below the unit. -/
theorem Growing.isTree_alone (h : lib.Growing) :
    (old.alone lib).IsTree ∧ (old.alone lib).ScopesAgree := by
  let There : Nat → Prop := fun id => ∃ k, id = old.up k ∧ ∃ d, lib.decl? k = some d
  refine isTree_of_parents (P := There) (List.nodup_singleton _) ?_ ?_ ?_
  · intro u hu
    obtain ⟨d, hd, hf, hp⟩ := h.root
    have hzero : u = old.up 0 := by
      rw [List.mem_singleton.1 hu]
      exact (Nat.zero_add _).symm
    refine ⟨⟨0, hzero, d, hd⟩, d.renumber old.up, ?_, ?_, ?_⟩
    · rw [hzero, decl?_alone, hd]
      rfl
    · exact (Body.form_renumber _ _).trans hf
    · show d.parent.map old.up = none
      rw [hp]
      rfl
  · rintro id ⟨k, rfl, d, hd⟩
    exact ⟨_, h.homely_alone hd⟩
  · rintro p id ⟨k, rfl, d, hd⟩ hl
    obtain ⟨c, rfl, hc⟩ := lists_alone_iff.1 hl
    exact ⟨c, rfl, h.exists_of_lists hc⟩

/-- Everything that grows from a unit lies below it. -/
theorem Growing.exists_below (h : lib.Growing) {id : Nat} (hid : id < lib.created) :
    ∃ level, (old.alone lib).Below old.created level (old.up id) := by
  induction id using Nat.strong_induction_on with
  | _ id ih =>
    by_cases hzero : id = 0
    · subst hzero
      refine ⟨0, ?_⟩
      rw [below_zero_iff]
      exact Nat.zero_add _
    · obtain ⟨d, hd⟩ : ∃ d, lib.decl? id = some d := by
        unfold decl?
        rw [List.getElem?_eq_getElem hid]
        exact ⟨_, rfl⟩
      obtain ⟨p, hp, -, hl⟩ := h.inScope id d hd hzero
      obtain ⟨level, hb⟩ := ih p hp (Nat.lt_trans hp hid)
      exact ⟨level + 1, hb.step (lists_alone_iff.2 ⟨id, rfl, hl⟩)⟩

/-- Behind other declarations, what grows from a unit lies below it, and nothing else does. -/
theorem Growing.mem_subtree_graft (h : lib.Growing) {id : Nat} :
    id ∈ ((old.graft lib).subtree old.created).map (·.id) ↔
      old.created ≤ id ∧ id < (old.graft lib).created := by
  have htree : (old.alone lib).IsTree := h.isTree_alone.1
  have hunit : old.created ∈ (old.alone lib).units := List.mem_singleton.2 rfl
  have hsub : (old.graft lib).subtree old.created =
      (old.alone lib).walkFrom (old.graft lib).created old.created :=
    (walkFrom_units _ _ _ _).symm
  rw [hsub]
  constructor
  · intro hid
    obtain ⟨level, hb⟩ := htree.mem_map_id_walkFrom (attached_of_mem_units hunit) hid
    obtain ⟨k, rfl⟩ := below_alone hb
    obtain ⟨d, hd, -⟩ := htree.decl_of_attached ⟨_, hunit, level, hb⟩
    exact ⟨Nat.le_add_left _ _, lt_created_of_decl? hd⟩
  · rintro ⟨hle, hlt⟩
    obtain ⟨k, rfl⟩ : ∃ k, id = old.up k := ⟨id - old.created, (Nat.sub_add_cancel hle).symm⟩
    have hk : k < lib.created := by
      rw [created_graft] at hlt
      have : k + old.created < old.created + lib.created := hlt
      omega
    obtain ⟨level, hb⟩ : ∃ level, (old.alone lib).Below old.created level (old.up k) :=
      h.exists_below hk
    obtain ⟨d, hd, hid⟩ := htree.decl_of_attached ⟨_, hunit, level, hb⟩
    refine List.mem_map.2 ⟨d, mem_walkFrom.2 ⟨level, _, ?_, hb, hd⟩, hid⟩
    exact htree.level_lt_created hunit hb

/-- What lies below the unit is registered under its number. -/
theorem Growing.registered_of_mem_subtree (h : lib.Growing) {d : Decl}
    (hd : d ∈ (old.graft lib).subtree old.created) : (old.graft lib).registered? d.id = some d := by
  have htree : (old.alone lib).IsTree := h.isTree_alone.1
  have hunit : old.created ∈ (old.alone lib).units := List.mem_singleton.2 rfl
  have hsub : (old.graft lib).subtree old.created =
      (old.alone lib).walkFrom (old.graft lib).created old.created :=
    (walkFrom_units _ _ _ _).symm
  rw [hsub, mem_walkFrom] at hd
  obtain ⟨level, id, -, hb, hd⟩ := hd
  obtain ⟨e, he, hid⟩ := htree.registered id ⟨_, hunit, level, hb⟩
  rw [decl?_of_registered? he] at hd
  cases hd
  rw [hid]
  exact he

theorem Growing.subtree_graft_nodup (h : lib.Growing) :
    (((old.graft lib).subtree old.created).map (·.id)).Nodup := by
  have hunit : (old.alone lib).Attached old.created :=
    attached_of_mem_units (List.mem_singleton.2 rfl)
  have hnodup := h.isTree_alone.1.walkFrom_nodup (old.graft lib).created hunit
  unfold alone at hnodup
  rwa [walkFrom_units] at hnodup

/-- Giving up what was read behind other declarations leaves those alone and nothing else. -/
theorem Growing.discard_graft (h : lib.Growing) :
    ((old.graft lib).discard old.created).units = old.units ∧
      (∀ id < old.created, ((old.graft lib).discard old.created).slots[id]? = old.slots[id]?) ∧
      ∀ id, old.created ≤ id →
        ((old.graft lib).discard old.created).registered? id = none := by
  have hslots : ∀ id, ((old.graft lib).discard old.created).slots[id]? =
      ((old.graft lib).slots[id]?).map fun s =>
        if (((old.graft lib).subtree old.created).map (·.id)).contains id then
          { s with registered := false } else s := by
    intro id
    unfold discard
    rw [List.getElem?_mapIdx]
  refine ⟨rfl, fun id hid => ?_, fun id hid => ?_⟩
  · have hout : (((old.graft lib).subtree old.created).map (·.id)).contains id = false := by
      rw [← Bool.not_eq_true, List.contains_iff_mem, h.mem_subtree_graft]
      omega
    rw [hslots, slots_graft_of_lt old lib hid, hout]
    simp
  · unfold registered?
    rw [hslots]
    cases hs : (old.graft lib).slots[id]? with
    | none => rfl
    | some s =>
      have hlt : id < (old.graft lib).created := (List.getElem?_eq_some_iff.1 hs).1
      have hin : (((old.graft lib).subtree old.created).map (·.id)).contains id = true := by
        rw [List.contains_iff_mem, h.mem_subtree_graft]
        exact ⟨hid, hlt⟩
      simp only [Option.map_some, hin, if_true]
      rfl

end Library

/-! ### Reading a unit -/

namespace Header

variable (h : Header) (name : String) (defines : List Value) (tree : SyntaxNode)

/-- The unit of a header before its contents are read, as the only declaration of a library. -/
def emptyUnit : Library :=
  (Library.empty .null .null).append
    { Decl.blank 0 none (.unit .empty h.file) with
      name := name, notes := Fields.put [] "defines" (.list defines) }

/-- What is read of a header in a library of its own. -/
def draft : Except Fault Unit × Library :=
  outcomeOf (h.readItems (tree.size + 1) (h.commented none tree.children) 0)
    (h.emptyUnit name defines)

theorem emptyUnit_decl? (id : Nat) : (h.emptyUnit name defines).decl? id =
    if id = 0 then
      some { Decl.blank 0 none (.unit .empty h.file) with
        name := name, notes := Fields.put [] "defines" (.list defines) }
    else none :=
  Library.decl?_append _ _ id

theorem emptyUnit_growing : (h.emptyUnit name defines).Growing := by
  have hlists : ∀ list, (Body.unit .empty h.file).listOf list = [] := by
    intro list
    rw [Body.listOf_unit]
    split_ifs <;> rfl
  have honly : ∀ id d, (h.emptyUnit name defines).decl? id = some d → id = 0 ∧
      d = { Decl.blank 0 none (.unit .empty h.file) with
        name := name, notes := Fields.put [] "defines" (.list defines) } := by
    intro id d hd
    rw [emptyUnit_decl?] at hd
    split_ifs at hd with hid
    cases hd
    exact ⟨hid, rfl⟩
  refine ⟨⟨_, rfl, rfl, rfl⟩, ?_, ?_, ?_, ?_, ?_, ?_⟩
  · intro id d hd
    obtain ⟨rfl, rfl⟩ := honly id d hd
    rfl
  · intro id d hd
    obtain ⟨rfl, rfl⟩ := honly id d hd
    exact ⟨rfl, rfl⟩
  · intro id d hd hne
    exact absurd (honly id d hd).1 hne
  · intro p o list ho
    obtain ⟨rfl, rfl⟩ := honly p o ho
    show ((Body.unit .empty h.file).listOf list).Pairwise _ ∧
      ∀ c ∈ (Body.unit .empty h.file).listOf list, _
    rw [hlists]
    exact ⟨List.Pairwise.nil, fun c hc => absurd hc List.not_mem_nil⟩
  · intro id d hd
    obtain ⟨rfl, rfl⟩ := honly id d hd
    rfl
  · intro id d v hd hv
    obtain ⟨rfl, rfl⟩ := honly id d hd
    cases hv

theorem readItems_draft (old : Library) :
    Reads old [(0, Form.spaces)] id
      (h.readItems (tree.size + 1) (h.commented none tree.children) 0)
      (h.readItems (tree.size + 1) (h.commented none tree.children) (old.up 0)) fun _ => [] :=
  h.readItems_reads _ _ 0

theorem draft_growing : (h.draft name defines tree).2.Growing := by
  have hreads := h.readItems_draft tree (h.emptyUnit name defines)
  refine (hreads.grows _ (h.emptyUnit_growing name defines) ?_).1
  intro x hx
  obtain rfl := List.mem_singleton.1 hx
  exact ⟨_, h.emptyUnit_decl? name defines 0, List.mem_cons_self ..⟩

theorem outcomeOf_openUnit (old : Library) :
    outcomeOf (h.openUnit name defines) old =
      (.ok old.created, old.graft (h.emptyUnit name defines)) := by
  have hempty : old.graft (Library.empty .null .null) = old := by
    simp [Library.graft, Library.empty]
  unfold openUnit emptyUnit
  rw [outcomeOf_buildEdit, Library.graft_append, hempty]
  simp only [Decl.renumber, Decl.blank, Library.up, Nat.zero_add, Int.toNat_natCast]
  rfl

/-- Reading a header behind other declarations is reading it alone and putting the result behind
them. -/
theorem readUnit_eq (old : Library) :
    h.readUnit name defines tree old =
      match h.draft name defines tree with
      | (.ok (), lib) =>
        (.parsed, { old.graft lib with units := old.units ++ [old.created] })
      | (.error f, lib) =>
        if f.isHeldBack then
          (.failed (f.label ++ ": " ++ f.message), (old.graft lib).discard old.created)
        else (.aborted f, old.graft lib) := by
  have hread := (h.readItems_draft tree old).movesUp (h.emptyUnit name defines)
  have hzero : old.up 0 = old.created := Nat.zero_add _
  rw [hzero] at hread
  unfold readUnit
  rw [build_perform, outcomeOf_openUnit]
  simp only [build_perform]
  rw [hread]
  unfold draft
  cases outcomeOf (h.readItems (tree.size + 1) (h.commented none tree.children) 0)
      (h.emptyUnit name defines) with
  | mk r lib => cases r <;> rfl

end Header

end Bindery

/-!
## Parsing is all or nothing

Parsing a header lists one more unit, with everything below it newly registered, or it leaves the
library as it was but for numbers that nothing is registered under. What was declared before is not
touched in any case, also where the run is to end.
-/

namespace Bindery

namespace Library

variable {old lib : Library}

theorem contains_iff (lib : Library) (id : Nat) :
    lib.contains id = true ↔ ∃ d, lib.registered? id = some d := by
  unfold contains registered?
  cases lib.slots[id]? with
  | none => simp
  | some s => cases hs : s.registered <;> simp [Option.filter, hs]

/-- What grows from a unit is registered behind other declarations. -/
theorem Growing.contains_graft_iff (h : lib.Growing) (id : Nat) :
    ((old.graft lib).contains id = true ∧ old.contains id = false) ↔
      old.created ≤ id ∧ id < (old.graft lib).created := by
  constructor
  · rintro ⟨hnew, hold⟩
    obtain ⟨d, hd⟩ := (contains_iff _ _).1 hnew
    refine ⟨?_, lt_created_of_decl? (decl?_of_registered? hd)⟩
    by_contra hlt
    have hsame := slots_graft_of_lt old lib (Nat.lt_of_not_le hlt)
    unfold contains at hnew hold
    rw [hsame, hold] at hnew
    cases hnew
  · intro hid
    obtain ⟨d, hd, rfl⟩ := List.mem_map.1 (h.mem_subtree_graft.2 hid)
    refine ⟨(contains_iff _ _).2 ⟨d, h.registered_of_mem_subtree hd⟩, ?_⟩
    rw [← Bool.not_eq_true, contains_iff]
    rintro ⟨e, he⟩
    have := lt_created_of_decl? (decl?_of_registered? he)
    omega

theorem registered?_eq_none (lib : Library) {id : Nat} (h : lib.created ≤ id) :
    lib.registered? id = none := by
  unfold registered?
  rw [List.getElem?_eq_none h]
  rfl

/-- One unit was added to a library, with everything below it, and nothing else happened. -/
structure AddsUnit (lib out : Library) : Prop where
  /-- One unit is listed more, behind the others, and what is newly registered is what lies below
  it, each declaration once and under its number. -/
  added : ∃ unit, out.units = lib.units ++ [unit] ∧ ((out.subtree unit).map (·.id)).Nodup ∧
    (∀ d ∈ out.subtree unit, out.registered? d.id = some d) ∧
    ∀ id, id ∈ (out.subtree unit).map (·.id) ↔ out.contains id = true ∧ lib.contains id = false
  /-- What was there before stays as it was. -/
  kept : ∀ id < lib.created, out.slots[id]? = lib.slots[id]?

/-- A library shows nothing of what was tried on it. -/
structure ShowsNothing (lib out : Library) : Prop where
  /-- The units are the same. -/
  units : out.units = lib.units
  /-- So are the registered declarations. -/
  registered : ∀ id, out.registered? id = lib.registered? id
  /-- What was there before stays as it was. -/
  kept : ∀ id < lib.created, out.slots[id]? = lib.slots[id]?

theorem ShowsNothing.refl (lib : Library) : lib.ShowsNothing lib :=
  ⟨rfl, fun _ => rfl, fun _ _ => rfl⟩

theorem Growing.addsUnit (h : lib.Growing) :
    old.AddsUnit { old.graft lib with units := old.units ++ [old.created] } := by
  have hsub : ({ old.graft lib with units := old.units ++ [old.created] } : Library).subtree
      old.created = (old.graft lib).subtree old.created := walkFrom_units _ _ _ _
  refine ⟨⟨old.created, rfl, ?_, ?_, fun id => ?_⟩, fun id hid => slots_graft_of_lt old lib hid⟩
  · rw [hsub]
    exact h.subtree_graft_nodup
  · rw [hsub]
    exact fun d hd => h.registered_of_mem_subtree hd
  · rw [hsub, h.mem_subtree_graft]
    exact (h.contains_graft_iff id).symm

theorem Growing.showsNothing (h : lib.Growing) :
    old.ShowsNothing ((old.graft lib).discard old.created) := by
  obtain ⟨hunits, hkept, hnone⟩ := @Growing.discard_graft old lib h
  refine ⟨hunits, fun id => ?_, hkept⟩
  by_cases hid : id < old.created
  · unfold registered?
    rw [hkept id hid]
  · rw [hnone id (Nat.le_of_not_lt hid), registered?_eq_none old (Nat.le_of_not_lt hid)]

/-- What becomes of a header, whatever library it is parsed into. -/
inductive HeaderFate (parse : Library → HeaderOutcome × Library) : Prop where
  /-- What was read of it is put behind the library, as one more unit. -/
  | parsed (new : Library) (growing : new.Growing) (same : ∀ lib, parse lib =
      (.parsed, { lib.graft new with units := lib.units ++ [lib.created] }))
  /-- It is given up before anything is read. -/
  | unread (reason : String) (same : ∀ lib, parse lib = (.failed reason, lib))
  /-- It is given up with what was read of it. -/
  | discarded (reason : String) (new : Library) (growing : new.Growing) (same : ∀ lib, parse lib =
      (.failed reason, (lib.graft new).discard lib.created))
  /-- The run is to end. -/
  | aborted (f : Fault) (same : ∀ lib, (parse lib).1 = .aborted f ∧
      ∀ id < lib.created, (parse lib).2.slots[id]? = lib.slots[id]?)

theorem parseHeader_fate (files : FileTree) (grammar : Grammar) (options : HeaderOptions)
    (header : Value) : HeaderFate fun lib => lib.parseHeader files grammar options header := by
  unfold parseHeader
  cases files.findHeader header options.includeDirs with
  | error f => exact .aborted f fun _ => ⟨rfl, fun _ _ => rfl⟩
  | ok found =>
    cases found with
    | none => exact .unread _ fun _ => rfl
    | some path =>
      dsimp only
      cases files.read path with
      | error f => exact .unread _ fun _ => rfl
      | ok source =>
        dsimp only
        cases (grammar source).firstFault? with
        | some n => exact .unread _ fun _ => rfl
        | none =>
          simp only [Header.readUnit_eq]
          have hgrowing := Header.draft_growing ⟨path.text, source⟩ path.name options.defines
            (grammar source)
          revert hgrowing
          cases Header.draft ⟨path.text, source⟩ path.name options.defines (grammar source) with
          | mk r new =>
            intro hgrowing
            cases r with
            | ok a => exact .parsed new hgrowing fun _ => rfl
            | error f =>
              cases hheld : f.isHeldBack with
              | true =>
                refine .discarded (f.label ++ ": " ++ f.message) new hgrowing fun lib => ?_
                simp only [hheld, if_true]
              | false =>
                refine .aborted f fun lib => ?_
                simp only [hheld]
                exact ⟨rfl, fun id hid => slots_graft_of_lt lib new hid⟩

/-- Parsing a header is all or nothing: the library has one unit more, or shows nothing of the
header. What was declared before stays as it is, also where the run is to end. -/
theorem parseHeader_all_or_nothing (lib : Library) (files : FileTree) (grammar : Grammar)
    (options : HeaderOptions) (header : Value) :
    match lib.parseHeader files grammar options header with
    | (.parsed, out) => lib.AddsUnit out
    | (.failed _, out) => lib.ShowsNothing out
    | (.aborted _, out) => ∀ id < lib.created, out.slots[id]? = lib.slots[id]? := by
  cases parseHeader_fate files grammar options header with
  | parsed new hgrowing hsame =>
    rw [hsame lib]
    exact hgrowing.addsUnit
  | unread reason hsame =>
    rw [hsame lib]
    exact .refl lib
  | discarded reason new hgrowing hsame =>
    rw [hsame lib]
    exact hgrowing.showsNothing
  | aborted f hsame =>
    obtain ⟨hfault, hkept⟩ := hsame lib
    revert hfault hkept
    cases lib.parseHeader files grammar options header with
    | mk r out =>
      rintro rfl hkept
      exact hkept

end Library

end Bindery
