import Bindery.Declaration.Walk
import Bindery.Proofs.Declaration.Parents
import Bindery.Proofs.Declaration.Walk
import Bindery.Proofs.Step

/-!
# Classes in definition order

Sorting goes from scope to scope and from class to class and sorts the list of classes of each. In a
tree it comes to everything that a walk meets and that has such a list, so it is the same as sorting
all these lists at once. Each list is left in definition order, with what it held before and
declarations of one order as they were, and nothing else changes. Sorting again finds all lists in
order.
-/

namespace Bindery

/-- A body with another list of classes, if it has one. -/
def Body.withClasses (b : Body) (classes : List Nat) : Body :=
  (b.mapScope fun s => { s with classes := classes }).mapRecord fun r =>
    { r with classes := classes }

namespace Body

variable {b : Body} {cs : List Nat}

@[simp] theorem form_withClasses (b : Body) (cs : List Nat) : (b.withClasses cs).form = b.form := by
  cases b <;> rfl

theorem withClasses_withClasses (b : Body) (cs ds : List Nat) :
    (b.withClasses cs).withClasses ds = b.withClasses ds := by
  cases b <;> rfl

theorem withClasses_classes (b : Body) : b.withClasses b.classes = b := by
  cases b <;> rfl

/-- Only the list of classes is another one. -/
theorem listOf_withClasses (b : Body) (cs : List Nat) {list : String} (h : list ≠ "classes") :
    (b.withClasses cs).listOf list = b.listOf list := by
  cases b with
  | unit s file =>
    show (unit _ file).listOf list = _
    rw [listOf_unit, listOf_unit]
    simp only [if_neg h]
  | space s =>
    show (space _).listOf list = _
    rw [listOf_space, listOf_space, listOf_unit, listOf_unit]
    simp only [if_neg h]
  | record r =>
    show (record _).listOf list = _
    rw [listOf_record, listOf_record]
    simp only [if_neg h]
  | _ => rfl

theorem classes_eq_nil (h : "classes" ∉ b.form.lists) : b.classes = [] :=
  listOf_eq_nil h

end Body

namespace Library

variable {lib out : Library}

/-! ### Sorting one list -/

theorem sortByOrder_perm (lib : Library) (ids : List Nat) : (lib.sortByOrder ids).Perm ids :=
  List.mergeSort_perm ids _

theorem sortByOrder_pairwise (lib : Library) (ids : List Nat) :
    (lib.sortByOrder ids).Pairwise fun a b => lib.orderOf a ≤ lib.orderOf b := by
  have hsorted : (lib.sortByOrder ids).Pairwise
      fun a b => decide (lib.orderOf a ≤ lib.orderOf b) = true :=
    List.pairwise_mergeSort (fun a b c hab hbc => by simp at hab hbc ⊢; omega)
      (fun a b => by simp; omega) ids
  exact hsorted.imp fun hab => by simpa using hab

/-- What is in order stays as it is. -/
theorem sortByOrder_of_pairwise {ids : List Nat}
    (h : ids.Pairwise fun a b => lib.orderOf a ≤ lib.orderOf b) : lib.sortByOrder ids = ids :=
  List.mergeSort_of_pairwise (h.imp fun hab => by simpa using hab)

/-- Declarations of one order stay in the order they were in. -/
theorem filter_sortByOrder (lib : Library) (ids : List Nat) (order : Int) :
    (lib.sortByOrder ids).filter (lib.orderOf · = order) =
      ids.filter (lib.orderOf · = order) := by
  have hequal : (ids.filter (lib.orderOf · = order)).Pairwise
      fun a b => decide (lib.orderOf a ≤ lib.orderOf b) = true := by
    refine List.pairwise_iff_forall_sublist.2 fun {a b} hab => ?_
    have ha := hab.subset (List.mem_cons_self ..)
    have hb := hab.subset (List.mem_cons_of_mem _ (List.mem_cons_self ..))
    simp only [List.mem_filter, decide_eq_true_eq] at ha hb ⊢
    omega
  have hsub : (ids.filter (lib.orderOf · = order)).Sublist (lib.sortByOrder ids) :=
    List.sublist_mergeSort (fun a b c hab hbc => by simp at hab hbc ⊢; omega)
      (fun a b => by simp; omega) hequal List.filter_sublist
  have hkept := hsub.filter (lib.orderOf · = order)
  rw [List.filter_filter] at hkept
  simp only [Bool.and_self] at hkept
  exact (hkept.eq_of_length ((lib.sortByOrder_perm ids).symm.filter _).length_eq).symm

/-! ### Sorting the lists of several declarations -/

theorem sortClassesOf_eq_withClasses (lib : Library) (b : Body) :
    lib.sortClassesOf b = b.withClasses (lib.sortByOrder b.classes) := by
  cases b <;> rfl

theorem classes_sortClassesOf (lib : Library) (b : Body) :
    (lib.sortClassesOf b).classes = lib.sortByOrder b.classes := by
  cases b <;> first | rfl | exact (List.mergeSort_nil).symm

theorem decl?_sortClassLists (lib : Library) (owners : List Nat) (id : Nat) :
    (lib.sortClassLists owners).decl? id = (lib.decl? id).map fun d =>
      if d.id ∈ owners then { d with body := lib.sortClassesOf d.body } else d := by
  unfold decl? sortClassLists
  simp only [List.getElem?_map, List.contains_iff_mem, Option.map_map]
  congr 1
  funext s
  simp only [Function.comp_apply]
  split_ifs <;> rfl

@[simp] theorem orderOf_sortClassLists (lib : Library) (owners : List Nat) (id : Nat) :
    (lib.sortClassLists owners).orderOf id = lib.orderOf id := by
  unfold orderOf
  rw [decl?_sortClassLists, Option.map_map]
  congr 2
  funext d
  simp only [Function.comp_apply]
  split_ifs <;> rfl

/-- It matters only whose lists are sorted. -/
theorem sortClassLists_congr {a b : List Nat} (h : ∀ id, id ∈ a ↔ id ∈ b) :
    lib.sortClassLists a = lib.sortClassLists b := by
  unfold sortClassLists
  simp only [List.contains_iff_mem, h]

theorem sortClassLists_nil (lib : Library) : lib.sortClassLists [] = lib := by
  unfold sortClassLists
  simp

/-- A list that has been sorted stays as it is when it is sorted again. -/
theorem sortClassesOf_sortClassesOf (lib : Library) (b : Body) :
    lib.sortClassesOf (lib.sortClassesOf b) = lib.sortClassesOf b := by
  rw [sortClassesOf_eq_withClasses lib (lib.sortClassesOf b), classes_sortClassesOf,
    sortByOrder_of_pairwise (lib.sortByOrder_pairwise _), sortClassesOf_eq_withClasses,
    Body.withClasses_withClasses]

@[simp] theorem sortClassesOf_sortClassLists (lib : Library) (owners : List Nat) (b : Body) :
    (lib.sortClassLists owners).sortClassesOf b = lib.sortClassesOf b := by
  simp only [sortClassesOf_eq_withClasses, sortByOrder, orderOf_sortClassLists]

/-- Lists are sorted one after the other as all at once. -/
theorem sortClassLists_append (lib : Library) (a b : List Nat) :
    (lib.sortClassLists a).sortClassLists b = lib.sortClassLists (a ++ b) := by
  have hslots : ((lib.sortClassLists a).sortClassLists b).slots =
      (lib.sortClassLists (a ++ b)).slots := by
    show ((lib.slots.map _).map _) = lib.slots.map _
    rw [List.map_map]
    refine List.map_congr_left fun s _ => ?_
    by_cases ha : s.decl.id ∈ a <;> by_cases hb : s.decl.id ∈ b <;>
      simp [ha, hb, sortClassesOf_sortClassesOf]
  exact congrArg (fun slots => { lib with slots := slots }) hslots

/-! ### Whose lists are sorted -/

/-- A step further down on the chosen lists. -/
theorem mem_belowFrom_step {pick : Body → List Nat} {n a c : Nat} {d e : Decl}
    (hd : d ∈ lib.belowFrom pick n a) (hc : c ∈ pick d.body) (he : lib.decl? c = some e) :
    e ∈ lib.belowFrom pick (n + 1) a := by
  induction n generalizing a with
  | zero => cases hd
  | succ n ih =>
    unfold belowFrom at hd
    cases ha : lib.decl? a with
    | none =>
      rw [ha] at hd
      cases hd
    | some o =>
      rw [ha] at hd
      unfold belowFrom
      rw [ha]
      refine List.mem_cons_of_mem _ (List.mem_flatMap.2 ?_)
      rcases List.mem_cons.1 hd with rfl | hd
      · refine ⟨c, hc, ?_⟩
        unfold belowFrom
        rw [he]
        exact List.mem_cons_self ..
      · obtain ⟨x, hx, hd⟩ := List.mem_flatMap.1 hd
        exact ⟨x, hx, ih hd⟩

/-- Scopes and classes hold classes, and nothing else does. -/
theorem classes_mem_lists_iff {f : Form} :
    "classes" ∈ f.lists ↔ f.isScope = true ∨ f = .record := by
  cases f <;> simp [Form.lists, Form.isScope]

theorem mem_below_self {pick : Body → List Nat} {a : Nat} {d : Decl}
    (hd : lib.decl? a = some d) : d ∈ lib.below pick a := by
  obtain ⟨n, hn⟩ := Nat.exists_eq_add_of_lt (lt_created_of_decl? hd)
  unfold below
  rw [hn]
  simp [belowFrom, hd]

namespace IsTree

variable (h : lib.IsTree)
include h

theorem mem_below_step {pick : Body → List Nat} (hp : ∀ b, pick b ⊆ b.children) {a c : Nat}
    {d e : Decl} (ha : lib.Attached a) (hd : d ∈ lib.below pick a) (hc : c ∈ pick d.body)
    (he : lib.decl? c = some e) : e ∈ lib.below pick a := by
  rw [← h.belowFrom_succ_created hp ha]
  exact mem_belowFrom_step hd hc he

/-- The scopes below a unit are found on the lists of scopes. -/
theorem mem_below_namespaces {u level x : Nat} {d : Decl} (hu : u ∈ lib.units)
    (hb : lib.Below u level x) (hd : lib.decl? x = some d) (hf : d.body.form.isScope = true) :
    d ∈ lib.below Body.namespaces u := by
  induction hb generalizing d with
  | self => exact mem_below_self hd
  | @step level p x hb hl ih =>
    obtain ⟨o, ho, hmem⟩ := hl
    obtain ⟨list, hlist, hmem⟩ := Body.mem_children_iff.1 hmem
    have hform := h.forms p o list x d ⟨u, hu, level, hb⟩ ho hmem hd
    have hscope : o.body.form.isScope = true ∧ list = "namespaces" := by
      revert hform hf
      cases o.body.form <;> cases d.body.form <;> simp +contextual [Form.listFor?, Form.isScope]
    obtain ⟨hscope, rfl⟩ := hscope
    exact h.mem_below_step namespaces_subset_children (attached_of_mem_units hu) (ih ho hscope)
      hmem hd

/-- What is found on lists of scopes is a scope. -/
theorem isScope_of_mem_belowFrom {n a : Nat} {d e : Decl} (ha : lib.Attached a)
    (hd : lib.decl? a = some d) (hf : d.body.form.isScope = true)
    (he : e ∈ lib.belowFrom Body.namespaces n a) : e.body.form.isScope = true := by
  obtain ⟨x, -, -, hscope⟩ := h.isHierarchy.exists_of_mem_belowFrom ha hd hf he
  exact hscope

/-- Sorting a unit comes to what lies below it and has a list of classes. -/
theorem mem_classListOwners {u x : Nat} (hu : u ∈ lib.units) :
    x ∈ (lib.classListOwners u).map (·.id) ↔
      ∃ level d, lib.Below u level x ∧ lib.decl? x = some d ∧ "classes" ∈ d.body.form.lists := by
  have hua := attached_of_mem_units hu
  obtain ⟨top, htop, hunit⟩ := h.unit_form u hu
  have hscope : top.body.form.isScope = true := by rw [hunit]; rfl
  have hrecords := h.isHierarchy.filter_isRecord_of_isScope hua htop hscope (h.shallow_created hua)
  simp only [classes_mem_lists_iff]
  unfold classListOwners
  constructor
  · intro hx
    obtain ⟨e, he, rfl⟩ := List.mem_map.1 hx
    obtain ⟨s, hs, he⟩ := List.mem_flatMap.1 he
    rcases List.mem_cons.1 he with rfl | he
    · obtain ⟨level, y, hb, hy⟩ := exists_below_of_mem_belowFrom namespaces_subset_children hs
      rw [h.id_of_decl? (hua.below hb) hy]
      exact ⟨level, e, hb, hy, .inl (h.isScope_of_mem_belowFrom hua htop hscope hs)⟩
    · have hmem := hrecords.symm.subset (List.mem_flatMap.2 ⟨s, hs, he⟩)
      obtain ⟨hwalk, hrecord⟩ := List.mem_filter.1 hmem
      obtain ⟨level, y, -, hb, hy⟩ := mem_walkFrom.1 hwalk
      rw [h.id_of_decl? (hua.below hb) hy]
      refine ⟨level, e, hb, hy, .inr ?_⟩
      cases hbody : e.body <;> simp [hbody, Body.isRecord, Body.record?] at hrecord
      rfl
  · rintro ⟨level, d, hb, hd, hf⟩
    rw [← h.id_of_decl? (hua.below hb) hd]
    refine List.mem_map_of_mem ?_
    rcases hf with hf | hf
    · exact List.mem_flatMap.2 ⟨d, h.mem_below_namespaces hu hb hd hf, List.mem_cons_self ..⟩
    · have hrecord : d.body.isRecord = true := by
        cases hbody : d.body <;> simp [hbody, Body.form] at hf
        rfl
      have hwalk : d ∈ lib.walkFrom lib.created u :=
        mem_walkFrom.2 ⟨level, x, h.level_lt_created hu hb, hb, hd⟩
      obtain ⟨s, hs, hmem⟩ := List.mem_flatMap.1
        (hrecords.subset (List.mem_filter.2 ⟨hwalk, hrecord⟩))
      exact List.mem_flatMap.2 ⟨s, hs, List.mem_cons_of_mem _ hmem⟩

end IsTree

/-! ### Sorting a library -/

theorem listOf_sortClassesOf_perm (lib : Library) (b : Body) (list : String) :
    ((lib.sortClassesOf b).listOf list).Perm (b.listOf list) := by
  by_cases hlist : list = "classes"
  · subst hlist
    show (lib.sortClassesOf b).classes.Perm _
    rw [classes_sortClassesOf]
    exact lib.sortByOrder_perm _
  · rw [sortClassesOf_eq_withClasses, Body.listOf_withClasses _ _ hlist]

/-- The lists of classes hold what they held before, and all other lists are as they were. -/
theorem rearranged_sortClassLists (lib : Library) (owners : List Nat) :
    lib.Rearranged (lib.sortClassLists owners) := by
  refine ⟨rfl, fun id => ?_⟩
  unfold sortClassLists
  simp only [List.getElem?_map]
  cases lib.slots[id]? with
  | none => exact .none
  | some s =>
    refine .some ?_
    dsimp only
    split_ifs
    · refine ⟨rfl, rfl, ?_, lib.listOf_sortClassesOf_perm _⟩
      simp only [sortClassesOf_eq_withClasses, Body.form_withClasses]
    · exact ⟨rfl, rfl, rfl, fun _ => .refl _⟩

/-- Everything that can be reached and has a list of classes. -/
def classHolders (lib : Library) : List Nat :=
  (lib.walk.filter fun d => d.body.form.lists.contains "classes").map (·.id)

theorem IsTree.mem_classHolders (h : lib.IsTree) {x : Nat} : x ∈ lib.classHolders ↔
    ∃ d, lib.Attached x ∧ lib.decl? x = some d ∧ "classes" ∈ d.body.form.lists := by
  unfold classHolders
  simp only [List.mem_map, List.mem_filter, List.contains_iff_mem]
  constructor
  · rintro ⟨d, ⟨hd, hf⟩, rfl⟩
    exact ⟨d, (h.decl?_of_mem_walk hd).1, (h.decl?_of_mem_walk hd).2, hf⟩
  · rintro ⟨d, ha, hd, hf⟩
    exact ⟨d, ⟨h.mem_walk.2 ⟨x, ha, hd⟩, hf⟩, h.id_of_decl? ha hd⟩

/-- A declaration lies below a unit and has a list of classes. -/
def HoldsClasses (lib : Library) (unit id : Nat) : Prop :=
  ∃ level d, lib.Below unit level id ∧ lib.decl? id = some d ∧ "classes" ∈ d.body.form.lists

theorem Rearranged.holdsClasses (h : lib.Rearranged out) {unit id : Nat}
    (hc : lib.HoldsClasses unit id) : out.HoldsClasses unit id := by
  obtain ⟨level, d, hb, hd, hf⟩ := hc
  obtain ⟨e, he, -, hform, -⟩ := h.slots.exists_of_decl? hd
  exact ⟨level, e, h.below hb, he, hform ▸ hf⟩

/-- The units of a tree are sorted one after the other. -/
theorem IsTree.outcomeOf_forM_sortBelow (h : lib.IsTree) {us : List Nat} (hus : us ⊆ lib.units)
    (done : List Nat) : ∃ owners,
      outcomeOf (us.forM Edit.sortBelow) (lib.sortClassLists done) =
        (.ok (), lib.sortClassLists (done ++ owners)) ∧
      ∀ x, x ∈ owners ↔ ∃ u ∈ us, lib.HoldsClasses u x := by
  induction us generalizing done with
  | nil => exact ⟨[], by rw [List.append_nil]; rfl, by simp⟩
  | cons u us ih =>
    obtain ⟨hu, hus⟩ := List.cons_subset.1 hus
    -- what has been sorted before holds the same in another order
    have hsame := lib.rearranged_sortClassLists done
    have howners : ∀ x, x ∈ ((lib.sortClassLists done).classListOwners u).map (·.id) ↔
        lib.HoldsClasses u x := by
      intro x
      rw [(hsame.isTree h).mem_classListOwners (hsame.units ▸ hu)]
      exact ⟨fun hx => hsame.symm.holdsClasses hx, hsame.holdsClasses⟩
    obtain ⟨owners, hrun, hrest⟩ := ih hus
      (done ++ ((lib.sortClassLists done).classListOwners u).map (·.id))
    refine ⟨((lib.sortClassLists done).classListOwners u).map (·.id) ++ owners, ?_, fun x => ?_⟩
    · rw [outcomeOf_forM_cons, outcomeOf_bind, Edit.sortBelow, outcomeOf_modify,
        sortClassLists_append, ← List.append_assoc]
      exact hrun
    · rw [List.mem_append, howners, hrest, List.exists_mem_cons_iff]

/-- Sorting comes to everything that can be reached and has a list of classes. -/
theorem IsTree.outcomeOf_sort (h : lib.IsTree) :
    outcomeOf Edit.sort lib = (.ok (), lib.sortClassLists lib.classHolders) := by
  obtain ⟨owners, hrun, howners⟩ := h.outcomeOf_forM_sortBelow (List.Subset.refl lib.units) []
  rw [sortClassLists_nil, List.nil_append] at hrun
  unfold Edit.sort
  rw [outcomeOf_bind_ok (outcomeOf_get lib), hrun, sortClassLists_congr]
  intro x
  rw [howners, h.mem_classHolders]
  constructor
  · rintro ⟨u, hu, level, d, hb, hd, hf⟩
    exact ⟨d, ⟨u, hu, level, hb⟩, hd, hf⟩
  · rintro ⟨d, ⟨u, hu, level, hb⟩, hd, hf⟩
    exact ⟨u, hu, level, d, hb, hd, hf⟩

/-- Sorting once more finds everything sorted. -/
theorem IsTree.sort_again (h : lib.IsTree) :
    outcomeOf Edit.sort (lib.sortClassLists lib.classHolders) =
      (.ok (), lib.sortClassLists lib.classHolders) := by
  have hsame := lib.rearranged_sortClassLists lib.classHolders
  rw [(hsame.isTree h).outcomeOf_sort, sortClassLists_append, sortClassLists_congr]
  intro x
  rw [List.mem_append, or_iff_left_iff_imp, (hsame.isTree h).mem_classHolders, h.mem_classHolders]
  rintro ⟨e, ha, he, hf⟩
  obtain ⟨d, hd, -, hform, -⟩ := hsame.slots.exists_of_decl?_out he
  exact ⟨d, hsame.symm.attached ha, hd, hform ▸ hf⟩

/-- What sorting leaves: everything as it was but the lists of classes below the units, which are in
order. -/
structure SortedInto (lib out : Library) : Prop where
  /-- The names of the library stay. -/
  names : out.namespaceName = lib.namespaceName ∧ out.libraryName = lib.libraryName
  /-- The units stay, in their order. -/
  units : out.units = lib.units
  /-- There are as many declarations. -/
  created : out.created = lib.created
  /-- What is registered stays so, and nothing else is. -/
  contains : ∀ id, out.contains id = lib.contains id
  /-- Declarations stay as they are but for their lists of classes. -/
  decl : ∀ id d, lib.decl? id = some d →
    ∃ classes, out.decl? id = some { d with body := d.body.withClasses classes }
  /-- What is not numbered like something that can be reached stays as it is. -/
  others : ∀ id d, lib.decl? id = some d → ¬ lib.Attached d.id → out.decl? id = some d
  /-- Classes are in definition order. -/
  sorted : ∀ id e, lib.Attached id → out.decl? id = some e →
    e.body.classes.Pairwise fun a b => lib.orderOf a ≤ lib.orderOf b
  /-- They are the same classes. -/
  perm : ∀ id d e, lib.decl? id = some d → out.decl? id = some e →
    e.body.classes.Perm d.body.classes
  /-- Classes of one order are as they were. -/
  stable : ∀ id d e, lib.decl? id = some d → out.decl? id = some e → ∀ order,
    e.body.classes.filter (lib.orderOf · = order) = d.body.classes.filter (lib.orderOf · = order)

/-- A declaration has its classes sorted, if it is numbered like something that can be reached. -/
theorem decl?_sorted {id : Nat} {d : Decl} (hd : lib.decl? id = some d) :
    (lib.sortClassLists lib.classHolders).decl? id = some
      (if d.id ∈ lib.classHolders then { d with body := lib.sortClassesOf d.body } else d) := by
  rw [decl?_sortClassLists, hd]
  rfl

theorem classes_sorted {id : Nat} {d e : Decl} (hd : lib.decl? id = some d)
    (he : (lib.sortClassLists lib.classHolders).decl? id = some e) :
    e.body.classes = lib.sortByOrder d.body.classes ∨
      d.id ∉ lib.classHolders ∧ e.body.classes = d.body.classes := by
  rw [decl?_sorted hd] at he
  cases he
  split_ifs with hmem
  · exact .inl (lib.classes_sortClassesOf d.body)
  · exact .inr ⟨hmem, rfl⟩

theorem contains_sortClassLists (lib : Library) (owners : List Nat) (id : Nat) :
    (lib.sortClassLists owners).contains id = lib.contains id := by
  unfold contains sortClassLists
  rw [List.getElem?_map]
  cases lib.slots[id]? with
  | none => rfl
  | some s =>
    show (if _ then _ else s : Slot).registered = s.registered
    split_ifs <;> rfl

/-- With the lists of everything that can be reached sorted, a tree is sorted. -/
theorem IsTree.sortedInto_sortClassLists (h : lib.IsTree) :
    lib.SortedInto (lib.sortClassLists lib.classHolders) where
  names := ⟨rfl, rfl⟩
  units := rfl
  created := List.length_map _
  contains := lib.contains_sortClassLists _
  decl := by
    intro id d hd
    rw [decl?_sorted hd]
    split_ifs
    · exact ⟨_, by rw [sortClassesOf_eq_withClasses]⟩
    · exact ⟨d.body.classes, by rw [Body.withClasses_classes]⟩
  others := by
    intro id d hd ha
    rw [decl?_sorted hd, if_neg]
    intro hmem
    exact ha (h.mem_classHolders.1 hmem).choose_spec.1
  sorted := by
    intro id e ha he
    obtain ⟨d, hd, hid⟩ := h.decl_of_attached ha
    rcases classes_sorted hd he with hsorted | ⟨hmem, hsame⟩
    · rw [hsorted]
      exact lib.sortByOrder_pairwise _
    · rw [hsame, Body.classes_eq_nil]
      · exact .nil
      · exact fun hf => hmem (h.mem_classHolders.2 ⟨d, hid ▸ ha, hid ▸ hd, hf⟩)
  perm := by
    intro id d e hd he
    rcases classes_sorted hd he with hsorted | ⟨-, hsame⟩
    · rw [hsorted]
      exact lib.sortByOrder_perm _
    · rw [hsame]
  stable := by
    intro id d e hd he order
    rcases classes_sorted hd he with hsorted | ⟨-, hsame⟩
    · rw [hsorted]
      exact lib.filter_sortByOrder ..
    · rw [hsame]

/-- Sorting the classes of a tree leaves every list of classes in definition order, and nothing else
changed; sorting again changes nothing. -/
theorem IsTree.sort_sortedInto (h : lib.IsTree) :
    ∃ out, outcomeOf Edit.sort lib = (.ok (), out) ∧ lib.SortedInto out ∧
      outcomeOf Edit.sort out = (.ok (), out) :=
  ⟨_, h.outcomeOf_sort, h.sortedInto_sortClassLists, h.sort_again⟩

/-- A unit and a scope in it with their classes out of order, and a class with two of one order
inside. -/
def shuffled : Library :=
  ⟨.text "", .text "", [0],
    [⟨{ Decl.blank 0 none (.unit ⟨[1], [4, 3], [], []⟩ "a.h") with name := "a.h" }, true⟩,
      ⟨{ Decl.blank 1 (some 0) (.space ⟨[], [7, 2], [], []⟩) with name := "n" }, true⟩,
      ⟨{ Decl.blank 2 (some 1) (.record ⟨false, true, false, false, [], [], [], [], [], none⟩) with
        name := "A" }, true⟩,
      ⟨{ Decl.blank 3 (some 0) (.record ⟨false, true, false, false, [], [], [], [], [], none⟩) with
        name := "B" }, true⟩,
      ⟨{ Decl.blank 4 (some 0) (.record ⟨false, true, false, false, [], [], [], [6, 8, 5], [],
          none⟩) with name := "C" }, true⟩,
      ⟨{ Decl.blank 5 (some 4) (.record ⟨false, true, false, false, [], [], [], [], [], none⟩) with
        name := "D" }, true⟩,
      ⟨{ Decl.blank 6 (some 4) (.record ⟨false, true, false, false, [], [], [], [], [], none⟩) with
        name := "E", order := 8 }, true⟩,
      ⟨{ Decl.blank 7 (some 1) (.record ⟨false, true, false, false, [], [], [], [], [], none⟩) with
        name := "F" }, true⟩,
      ⟨{ Decl.blank 8 (some 4) (.record ⟨false, true, false, false, [], [], [], [], [], none⟩) with
        name := "G" }, true⟩]⟩

theorem sort_sortedInto_shuffled :
    shuffled.IsTree ∧ ∃ out, outcomeOf Edit.sort shuffled = (.ok (), out) ∧
      shuffled.SortedInto out ∧ outcomeOf Edit.sort out = (.ok (), out) := by
  obtain ⟨htree, -⟩ := isTree_of_isRegular (by decide +kernel : shuffled.isRegular = true)
  exact ⟨htree, htree.sort_sortedInto⟩

end Library

end Bindery
