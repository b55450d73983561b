import Bindery.Emit.NameIndex
import Bindery.Pass.Names
import Bindery.Proofs.Declaration.Walk

/-!
# What goes through a library

Some of what works on a library goes through its scopes and the classes and functions in them:
emission collects classes so, as do the answers to requests and the pass that merges forward
declarations. The rest follows the walk: the index of names, and the pass that keeps the names of a
module apart. Both see the same declarations, each equally often.
-/

namespace Bindery.Library

variable {lib : Library}

/-- What goes through the scopes of a library and what follows its walk see the same. -/
structure TraversalsAgree (lib : Library) : Prop where
  /-- The classes found scope by scope are those of the walk. -/
  classes : lib.classes.Perm (lib.walk.filter (·.body.isRecord))
  /-- The scopes are those of the walk, in the same order. -/
  namespaces : lib.namespaces = lib.walk.filter (·.body.form.isScope)
  /-- The functions on the lists of the scopes are those of the walk. -/
  functions : lib.functions.Perm (lib.walk.filter (·.body.isFunction))
  /-- Classes with a name are the classes that are known by name. -/
  named : (lib.classes.filter (·.name != "")).Perm (lib.namedTypes.filter (·.body.isRecord))
  /-- Classes are emitted if they are known by name, complete and not ignored. -/
  emitted : lib.emittedClasses.Perm
    (lib.namedTypes.filter fun d => d.body.isRecord && !d.isIncomplete && !d.ignored)
  /-- What is emitted of the classes is what the module has of them. -/
  moduleClasses : lib.emittedClasses.Perm (lib.moduleLevel.filter (·.body.isRecord))
  /-- What has a name and is not ignored of the functions is what the module has of them. -/
  moduleFunctions : (lib.functions.filter fun d => !d.ignored && d.name != "").Perm
    (lib.moduleLevel.filter (·.body.isFunction))

/-! ### One selection from both -/

/-- From a walk and from what is wanted of it in another order the same is selected, if the same is
asked of it. -/
theorem perm_filter_of_perm {ds walk : List Decl} {wanted p q r : Decl → Bool}
    (hds : ds.Perm (walk.filter wanted)) (h : ∀ d, (wanted d && p d) = (q d && r d)) :
    (ds.filter p).Perm ((walk.filter q).filter r) := by
  have hsame : (walk.filter wanted).filter p = (walk.filter q).filter r := by
    rw [List.filter_filter, List.filter_filter]
    refine List.filter_congr fun d _ => ?_
    rw [Bool.and_comm, h d, Bool.and_comm]
  rw [← hsame]
  exact hds.filter p

/-- A class is emitted if it is complete, has a name and is not ignored. -/
theorem isEmitted_eq (d : Decl) : isEmitted d = (!d.ignored && !d.isIncomplete && d.name != "") :=
  rfl

/-- A module has the classes that are emitted. -/
theorem isRecord_and_isEmitted (d : Decl) :
    (d.body.isRecord && isEmitted d) = (isModuleLevel d && d.body.isRecord) := by
  rw [isEmitted_eq, isModuleLevel]
  cases hb : d.body <;>
    simp [Decl.kind, hb, Body.kind, Body.form, Form.kind, Body.isRecord, Body.record?]
  simp only [Bool.and_assoc, Bool.and_comm]

/-- A module has the functions that have a name and are not ignored. -/
theorem isFunction_and_named (d : Decl) :
    (d.body.isFunction && (!d.ignored && d.name != "")) =
      (isModuleLevel d && d.body.isFunction) := by
  rw [isModuleLevel]
  cases hb : d.body <;>
    simp [Decl.kind, Decl.isIncomplete, hb, Body.kind, Body.form, Form.kind, Body.isFunction,
      Body.record?]

/-- The two ways through a hierarchy see the same. -/
theorem traversals_agree (h : lib.IsHierarchy) : lib.TraversalsAgree := by
  have hclasses := h.classes_perm
  have hsorted : ∀ (ds : List Decl) (le : Decl → Decl → Bool) (p : Decl → Bool),
      (ds.filter p).Perm ((ds.mergeSort le).filter p) := fun ds le p =>
    ((List.mergeSort_perm ds le).filter p).symm
  have hemitted : lib.emittedClasses.Perm (lib.classes.filter isEmitted) :=
    List.mergeSort_perm _ _
  refine ⟨hclasses, h.namespaces_eq, h.functions_perm, ?_, hemitted.trans ?_, hemitted.trans ?_, ?_⟩
  · refine perm_filter_of_perm hclasses fun d => ?_
    cases d.body.isRecord <;> simp
  · refine perm_filter_of_perm hclasses fun d => ?_
    rw [isEmitted_eq]
    cases d.body.isRecord <;> cases d.ignored <;> cases d.isIncomplete <;> simp
  · exact (perm_filter_of_perm hclasses isRecord_and_isEmitted).trans (hsorted _ _ _)
  · exact (perm_filter_of_perm h.functions_perm isFunction_and_named).trans (hsorted _ _ _)

/-! ### Hierarchies that are checked -/

/-- Whether units are scopes and lists hold what they are meant for, and nothing that was created
earlier. -/
def isRising (lib : Library) : Bool :=
  (lib.units.all fun u => (lib.decl? u).any (·.body.form.isScope)) &&
    lib.slots.zipIdx.all fun (s, id) => s.decl.body.form.lists.all fun list =>
      (s.decl.body.listOf list).all fun c => decide (id < c) &&
        (lib.decl? c).any fun e => s.decl.body.form.listFor? e.body.form == some list

theorem isHierarchy_of_isRising (h : lib.isRising = true) : lib.IsHierarchy := by
  unfold isRising at h
  simp only [Bool.and_eq_true, List.all_eq_true, Option.any_eq_true, decide_eq_true_iff,
    beq_iff_eq] at h
  obtain ⟨hunits, hslots⟩ := h
  have hlisted : ∀ {p d list c}, lib.decl? p = some d → c ∈ d.body.listOf list →
      p < c ∧ ∃ e, lib.decl? c = some e ∧ d.body.form.listFor? e.body.form = some list := by
    intro p d list c hd hc
    obtain ⟨s, hs, rfl⟩ := Option.map_eq_some_iff.1 hd
    exact hslots (s, p) (List.mem_zipIdx_iff_getElem?.2 hs) list (Body.mem_lists_of_mem_listOf hc)
      c hc
  have hrise : ∀ {a n x}, lib.Below a n x → a + n ≤ x := by
    intro a n x hb
    induction hb with
    | self => exact Nat.le_refl _
    | step _ hl ih =>
      obtain ⟨d, hd, hmem⟩ := hl
      obtain ⟨list, -, hc⟩ := Body.mem_children_iff.1 hmem
      have hlt := (hlisted hd hc).1
      omega
  refine ⟨hunits, fun p d list c _ hd hc => (hlisted hd hc).2, fun id n _ hb => ?_⟩
  have hle := hrise hb
  omega

/-- A class in a scope, a class in that class, a function and a scope further in, which has the
first class as well. -/
def shared : Library :=
  { empty .null .null with
    units := [0]
    slots :=
      [⟨.blank 0 none (.unit ⟨[1], [5], [], []⟩ "shared.h"), true⟩,
        ⟨{ Decl.blank 1 (some 0) (.space ⟨[2], [3], [], [6]⟩) with name := "n" }, true⟩,
        ⟨{ Decl.blank 2 (some 1) (.space ⟨[], [3], [], []⟩) with name := "m" }, true⟩,
        ⟨{ Decl.blank 3 (some 1) (.record ⟨false, false, false, false, [], [], [], [4], [], none⟩)
            with name := "A" }, true⟩,
        ⟨{ Decl.blank 4 (some 3) (.record ⟨true, false, false, false, [], [], [], [], [], none⟩)
            with name := "B" }, true⟩,
        ⟨{ Decl.blank 5 (some 0) (.record ⟨false, false, false, false, [], [], [], [], [], none⟩)
            with name := "C" }, false⟩,
        ⟨{ Decl.blank 6 (some 1) (.function ⟨"void", [7], false⟩) with name := "f" }, true⟩,
        ⟨{ Decl.blank 7 (some 6) (.parameter "int" 0) with name := "x" }, true⟩] }

theorem traversals_agree_shared :
    shared.IsHierarchy ∧
    shared.walk.map (·.id) = [0, 1, 2, 3, 4, 3, 4, 6, 7, 5] ∧
    shared.classes.map (·.id) = [5, 3, 4, 3, 4] ∧
    shared.TraversalsAgree := by
  have h : shared.IsHierarchy := isHierarchy_of_isRising (by decide)
  exact ⟨h, by decide, by decide, traversals_agree h⟩

end Bindery.Library
