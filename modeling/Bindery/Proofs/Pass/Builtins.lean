import Bindery.Pass.Schedule
import Bindery.Proofs.Pass.CleanNames
import Bindery.Proofs.Pass.Incomplete
import Bindery.Proofs.Pass.ModuleNames

/-!
# The passes of every run

The passes that every run makes, one after the other: forward declarations are merged, names that
cannot be used are replaced, overloads are numbered, and the names of the module are told apart. In
a tree of declarations only the first takes anything out, the others change names, and behind all
of them everything but the units has a usable name, and the names of the module differ.
-/

namespace Bindery

open Bindery.Naming

/-! ### Passes over a graph -/

namespace PassM

variable {L : Type}

theorem outcomeOf_onPart (wrap : L → Graph) (lib : L) (m : PassM L Unit) (s : PassState Graph) :
    outcomeOf (onPart wrap lib m) s =
      ((outcomeOf m ⟨lib, s.log, s.tally⟩).1,
        ⟨wrap (outcomeOf m ⟨lib, s.log, s.tally⟩).2.library,
          (outcomeOf m ⟨lib, s.log, s.tally⟩).2.log,
          (outcomeOf m ⟨lib, s.log, s.tally⟩).2.tally⟩) := by
  unfold onPart
  rw [outcomeOf_bind_ok (outcomeOf_get s)]
  simp only [pass_perform]
  rw [outcomeOf_bind_ok (outcomeOf_set s _)]
  cases (outcomeOf m ⟨lib, s.log, s.tally⟩).1 <;> rfl

/-- A pass over a typed graph that goes on is the pass over its library. -/
theorem outcomeOf_either_typed {typedly : PassM Library Unit} {m : PassM LooseLibrary Unit}
    {s : PassState Graph} {lib : Library} (hg : s.library = .typed lib) :
    outcomeOf (either typedly m) s =
      ((outcomeOf typedly ⟨lib, s.log, s.tally⟩).1,
        ⟨.typed (outcomeOf typedly ⟨lib, s.log, s.tally⟩).2.library,
          (outcomeOf typedly ⟨lib, s.log, s.tally⟩).2.log,
          (outcomeOf typedly ⟨lib, s.log, s.tally⟩).2.tally⟩) := by
  unfold either
  rw [outcomeOf_bind_ok (outcomeOf_get s)]
  simp only [hg]
  exact outcomeOf_onPart .typed lib typedly s

end PassM

namespace Schedule

/-- The schedule of the passes that every run makes. -/
def builtin : Schedule :=
  ⟨Pass.builtins.map (⟨·, .empty⟩), false, []⟩

theorem addAll_builtins : empty.addAll Pass.builtins = .ok builtin := rfl

variable (p : ScheduledPass) (ps : List ScheduledPass) {typedly : PassM Library Unit}
  {m : PassM LooseLibrary Unit} {lib : Library} {log : List Value} {s : PassState Library}

/-- A schedule goes on behind a pass that is made. -/
theorem runFrom_cons_ok (hp : p.pass.action = .either typedly m)
    (h : outcomeOf typedly ⟨lib, log, p.tally⟩ = (.ok (), s)) :
    (runFrom (.typed lib) log (p :: ps)).1 = (runFrom (.typed s.library) s.log ps).1 ∧
      (runFrom (.typed lib) log (p :: ps)).2.1 = (runFrom (.typed s.library) s.log ps).2.1 := by
  have hout : outcomeOf p.pass.action ⟨.typed lib, log, p.tally⟩ =
      (.ok (), ⟨.typed s.library, s.log, s.tally⟩) := by
    rw [hp, PassM.outcomeOf_either_typed rfl, h]
  rw [runFrom, pass_perform, hout]
  exact ⟨rfl, rfl⟩

/-- A schedule ends with the pass that is refused. -/
theorem runFrom_cons_error (hp : p.pass.action = .either typedly m) {f : Fault}
    (h : outcomeOf typedly ⟨lib, log, p.tally⟩ = (.error f, s)) :
    (runFrom (.typed lib) log (p :: ps)).1 ≠ none := by
  have hout : outcomeOf p.pass.action ⟨.typed lib, log, p.tally⟩ =
      (.error f, ⟨.typed s.library, s.log, s.tally⟩) := by
    rw [hp, PassM.outcomeOf_either_typed rfl, h]
  rw [runFrom, pass_perform, hout]
  exact Option.some_ne_none _

end Schedule

/-! ### What the passes come to -/

namespace Library

/-- A library whose names are ready for a module: a tree in which everything but the units has a
usable name and the names of the module differ from each other and from the words of the module. -/
structure Settled (lib : Library) : Prop where
  /-- The declarations form a tree. -/
  isTree : lib.IsTree
  /-- Names can be used. -/
  clean : ∀ id, lib.Attached id → id ∉ lib.units → lib.Clean id
  /-- Names of the module differ. -/
  apart : (lib.moduleLevel.map (·.name) ++ moduleWords).Nodup

/-- What is named in the module depends on names only by whether there is one. -/
theorem isModuleLevel_renamed {d e : Decl} (h : d.RenamedTo e) (hd : isValid d.name = true) :
    isModuleLevel e = isModuleLevel d := by
  have hne : (d.name != "") = true := by simpa using ne_empty_of_isValid hd
  have hne' : (e.name != "") = true := by simpa using ne_empty_of_isValid (h.valid hd)
  unfold isModuleLevel Decl.isIncomplete Decl.kind
  rw [h.ignored, h.body, hne, hne']

/-- What is named in the module is no unit and no parameter. -/
theorem form_of_isModuleLevel {d : Decl} (h : isModuleLevel d = true) :
    d.body.form ≠ .unit ∧ d.body.form ≠ .parameter := by
  unfold isModuleLevel Decl.kind Body.kind at h
  simp only [Bool.and_eq_true, decide_eq_true_eq] at h
  obtain ⟨-, hkind⟩ := h
  constructor <;> intro hf <;> rw [hf] at hkind <;> simp [Form.kind] at hkind

/-- The declarations of a module are attached and are no units. -/
theorem attached_of_mem_moduleLevel {lib : Library} (h : lib.IsTree) {d : Decl}
    (hd : d ∈ lib.moduleLevel) : lib.Attached d.id ∧ lib.decl? d.id = some d ∧
      d.id ∉ lib.units ∧ isModuleLevel d = true := by
  obtain ⟨hw, hm⟩ := List.mem_filter.1 (List.mem_mergeSort.1 hd)
  obtain ⟨ha, hd'⟩ := h.decl?_of_mem_walk hw
  refine ⟨ha, hd', fun hu => ?_, hm⟩
  obtain ⟨e, he, hf⟩ := h.unit_form _ hu
  rw [hd'] at he
  cases he
  exact (form_of_isModuleLevel hm).1 hf

/-- Where names can be used, other names leave it to the same numbers to be named in the module. -/
theorem mem_moduleLevel_of_renamed {lib out : Library} (h : lib.IsTree)
    (hclean : ∀ id, lib.Attached id → id ∉ lib.units → lib.Clean id) (hrenamed : lib.RenamedTo out)
    {id : Nat} (hid : id ∈ out.moduleLevel.map (·.id)) : id ∈ lib.moduleLevel.map (·.id) := by
  obtain ⟨e, he, rfl⟩ := List.mem_map.1 hid
  obtain ⟨ha, he', hu, hm⟩ := attached_of_mem_moduleLevel (hrenamed.prunedTo.isTree h) he
  obtain ⟨d, hd, hde⟩ := hrenamed.slots.exists_of_decl?_out he'
  rw [hrenamed.attached_iff] at ha
  rw [hrenamed.units] at hu
  have hvalid := hclean e.id ha hu d hd (hde.body ▸ (form_of_isModuleLevel hm).2)
  rw [isModuleLevel_renamed hde hvalid] at hm
  have hmem : d ∈ lib.walk := h.mem_walk.2 ⟨e.id, ha, hd⟩
  exact List.mem_map.2 ⟨d, List.mem_mergeSort.2 (List.mem_filter.2 ⟨hmem, hm⟩), h.id_of_decl? ha hd⟩

/-- The names of the module, told apart in a tree with usable names, are ready. -/
theorem settled_of_outcomeOf {s t : PassState Library} (h : s.library.IsTree)
    (hclean : ∀ id, s.library.Attached id → id ∉ s.library.units → s.library.Clean id)
    (ho : outcomeOf PassM.separateModuleNames s = (.ok (), t)) :
    s.library.RenamedTo t.library ∧ t.library.Settled := by
  obtain ⟨hrenamed, hapart⟩ := PassM.outcomeOf_separateModuleNames h ho
  have htree := hrenamed.prunedTo.isTree h
  refine ⟨hrenamed, htree, fun id ha hu => ?_, ?_⟩
  · rw [hrenamed.attached_iff] at ha
    rw [hrenamed.units] at hu
    exact (hclean id ha hu).renamed hrenamed
  · have hnames : t.library.moduleLevel.map (·.name) =
        (t.library.moduleLevel.map (·.id)).map t.library.nameOf := by
      rw [List.map_map]
      refine List.map_congr_left fun d hd => ?_
      exact (nameOf_of_decl? (attached_of_mem_moduleLevel htree hd).2.1).symm
    -- the numbers are among those that were given names of their own
    have hsub := List.Nodup.subperm (PassM.moduleLevel_nodup htree)
      fun _ hid => mem_moduleLevel_of_renamed h hclean hrenamed hid
    obtain ⟨ids, hperm, hids⟩ := hsub
    rw [hnames]
    refine ((hperm.map _).append_right _).nodup_iff.1 ?_
    exact hapart.sublist ((hids.map _).append (List.Sublist.refl _))

end Library

namespace Schedule

/-- The passes of every run, where the first three are made, end as the last one does. -/
theorem run_builtin_of_separated {lib : Library} {s u : PassState Library}
    (h : outcomeOf PassM.resolveIncomplete ⟨lib, [], .empty⟩ = (.ok (), s))
    (hover : outcomeOf PassM.separateOverloads ⟨s.library.cleanNames.1, s.log, .empty⟩ =
      (.ok (), u)) :
    match outcomeOf PassM.separateModuleNames ⟨u.library, u.log, .empty⟩ with
    | (.ok (), t) => (builtin.run (.typed lib)).1 = none ∧
        (builtin.run (.typed lib)).2.1 = .typed t.library
    | (.error _, _) => (builtin.run (.typed lib)).1 ≠ none := by
  have hrun : (builtin.run (.typed lib)).1 = (runFrom (.typed lib) [] builtin.passes).1 ∧
      (builtin.run (.typed lib)).2.1 = (runFrom (.typed lib) [] builtin.passes).2.1 := ⟨rfl, rfl⟩
  rw [hrun.1, hrun.2]
  obtain ⟨hfault₁, hgraph₁⟩ :=
    runFrom_cons_ok ⟨.resolveIncomplete, .empty⟩ builtin.passes.tail rfl h
  have hclean : outcomeOf PassM.cleanNames ⟨s.library, s.log, .empty⟩ =
      (.ok (), ⟨s.library.cleanNames.1, s.log, { Tally.empty with
        renamed := Tally.empty.renamed + s.library.cleanNames.2 }⟩) := rfl
  obtain ⟨hfault₂, hgraph₂⟩ :=
    runFrom_cons_ok ⟨.cleanNames, .empty⟩ builtin.passes.tail.tail rfl hclean
  obtain ⟨hfault₃, hgraph₃⟩ :=
    runFrom_cons_ok ⟨.separateOverloads, .empty⟩ builtin.passes.tail.tail.tail rfl hover
  cases hlast : outcomeOf PassM.separateModuleNames ⟨u.library, u.log, .empty⟩ with
  | mk r t =>
    cases r with
    | ok a =>
      obtain ⟨hfault₄, hgraph₄⟩ := runFrom_cons_ok ⟨.separateModuleNames, .empty⟩ [] rfl hlast
      exact ⟨hfault₁.trans (hfault₂.trans (hfault₃.trans hfault₄)),
        hgraph₁.trans (hgraph₂.trans (hgraph₃.trans hgraph₄))⟩
    | error f =>
      have hfault₄ := runFrom_cons_error ⟨.separateModuleNames, .empty⟩ [] rfl hlast
      intro hnone
      exact hfault₄ ((hfault₁.trans (hfault₂.trans hfault₃)).symm.trans hnone)

/-- The passes of every run come down to the first and the last of them: those between are never
refused and only change names. -/
theorem run_builtin_of_resolved {lib : Library} {s : PassState Library}
    (h : outcomeOf PassM.resolveIncomplete ⟨lib, [], .empty⟩ = (.ok (), s)) :
    ∃ mid : PassState Library, s.library.cleanNames.1.RenamedTo mid.library ∧
      match outcomeOf PassM.separateModuleNames mid with
      | (.ok (), t) => (builtin.run (.typed lib)).1 = none ∧
          (builtin.run (.typed lib)).2.1 = .typed t.library
      | (.error _, _) => (builtin.run (.typed lib)).1 ≠ none := by
  obtain ⟨u, hover, hrenamed⟩ :=
    PassM.outcomeOf_separateOverloads ⟨s.library.cleanNames.1, s.log, .empty⟩
  exact ⟨⟨u.library, u.log, .empty⟩, hrenamed, run_builtin_of_separated h hover⟩

/-- What the passes of every run leave of a tree when all of them are made: forward declarations are
merged, and then declarations are renamed until the names are ready. -/
theorem exists_of_run_builtin {lib : Library} (h : lib.IsTree)
    (hrun : (builtin.run (.typed lib)).1 = none) :
    ∃ (s : PassState Library) (out : Library),
      outcomeOf PassM.resolveIncomplete ⟨lib, [], .empty⟩ = (.ok (), s) ∧
        s.library.RenamedTo out ∧ out.Settled ∧ (builtin.run (.typed lib)).2.1 = .typed out := by
  have hpruned := PassM.resolveIncomplete_prunedTo ⟨lib, [], .empty⟩
  cases hfirst : outcomeOf PassM.resolveIncomplete ⟨lib, [], .empty⟩ with
  | mk r s =>
    rw [hfirst] at hpruned
    cases r with
    | error f =>
      exact absurd hrun (runFrom_cons_error ⟨.resolveIncomplete, .empty⟩ _ rfl hfirst)
    | ok a =>
      have htree : s.library.IsTree := hpruned.isTree h
      obtain ⟨mid, hmid, hlast⟩ := run_builtin_of_resolved hfirst
      have hcleaned := Library.renamedTo_cleanNames s.library
      have hclean : ∀ id, mid.library.Attached id → id ∉ mid.library.units →
          mid.library.Clean id := by
        intro id ha hu
        have hall := hcleaned.trans hmid
        rw [hall.attached_iff] at ha
        rw [hall.units] at hu
        exact (htree.clean_cleanNames ha hu).renamed hmid
      have hmidTree := (hcleaned.trans hmid).prunedTo.isTree htree
      cases hout : outcomeOf PassM.separateModuleNames mid with
      | mk r t =>
        rw [hout] at hlast
        cases r with
        | error f => exact absurd hrun hlast
        | ok b =>
          obtain ⟨hrenamed, hsettled⟩ := Library.settled_of_outcomeOf hmidTree hclean hout
          exact ⟨s, t.library, rfl, (hcleaned.trans hmid).trans hrenamed, hsettled, hlast.2⟩

/-- In a tree whose scopes agree with its lists no pass is refused. -/
theorem run_builtin_of_scopesAgree {lib : Library} (h : lib.IsTree) (hs : lib.ScopesAgree) :
    (builtin.run (.typed lib)).1 = none := by
  let start : PassState Library := ⟨lib, [], .empty⟩
  have hpruned := PassM.resolveIncomplete_prunedTo start
  obtain ⟨s, hfirst⟩ := PassM.exists_resolveIncomplete (s := start) h hs
  rw [hfirst] at hpruned
  obtain ⟨mid, hmid, hlast⟩ := run_builtin_of_resolved hfirst
  have hall := hpruned.trans ((Library.renamedTo_cleanNames s.library).trans hmid).prunedTo
  obtain ⟨t, ht⟩ := PassM.exists_separateModuleNames (hall.isTree h) (hall.scopesAgree hs)
  rw [ht] at hlast
  exact hlast.1

end Schedule

end Bindery
