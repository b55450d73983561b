import Bindery.Emit.BindingModule
import Bindery.Proofs.Declaration.Parents
import Bindery.Proofs.Pass.Builtins

/-!
# The names that a module gives away

Behind the passes of every run the names that a binding module gives away differ from each other and
from the words of the module, and all of them can be used. The list of these names is then always
written.
-/

namespace Bindery

open Bindery.Naming

/-! ### What is given away is named in the module -/

namespace Library

variable {lib : Library}

/-- What a module gives away. -/
def given (lib : Library) : List Decl :=
  lib.emittedEnums ++ lib.emittedClasses ++ lib.emittedFunctions

theorem mem_emittedEnums {d : Decl} : d ∈ lib.emittedEnums ↔
    d ∈ lib.walk ∧ d.body.isEnumeration = true ∧ d.name ≠ "" ∧ d.ignored = false := by
  simp [emittedEnums, inOrder, List.mem_mergeSort, and_assoc]

theorem mem_emittedFunctions {d : Decl} : d ∈ lib.emittedFunctions ↔
    d ∈ lib.walk ∧ d.body.isFunction = true ∧ d.ignored = false := by
  simp [emittedFunctions, inOrder, List.mem_mergeSort]

theorem mem_emittedClasses (h : lib.IsTree) {d : Decl} : d ∈ lib.emittedClasses ↔
    d ∈ lib.walk ∧ d.body.isRecord = true ∧ d.ignored = false ∧ d.isIncomplete = false ∧
      d.name ≠ "" := by
  simp [emittedClasses, inOrder, List.mem_mergeSort, h.classes_perm.mem_iff, isEmitted, and_assoc,
    Decl.isIncomplete]

/-- What can be reached and is no unit and no parameter has a usable name. -/
theorem Settled.isValid_name (h : lib.Settled) {d : Decl} (hw : d ∈ lib.walk)
    (hu : d.body.form ≠ .unit) (hp : d.body.form ≠ .parameter) : isValid d.name = true := by
  obtain ⟨ha, hd⟩ := h.isTree.decl?_of_mem_walk hw
  refine h.clean d.id ha (fun hmem => ?_) d hd hp
  obtain ⟨e, he, hf⟩ := h.isTree.unit_form d.id hmem
  rw [hd] at he
  cases he
  exact hu hf

/-- What is given away is named in the module, if everything has a usable name. -/
theorem mem_moduleLevel_of_given (h : lib.Settled) {d : Decl} (hd : d ∈ lib.given) :
    d ∈ lib.moduleLevel := by
  suffices hm : d ∈ lib.walk ∧ isModuleLevel d = true from
    List.mem_mergeSort.2 (List.mem_filter.2 hm)
  rcases List.mem_append.1 hd with hd | hd
  · rcases List.mem_append.1 hd with hd | hd
    · obtain ⟨hw, hb, hn, hi⟩ := mem_emittedEnums.1 hd
      refine ⟨hw, ?_⟩
      cases hbody : d.body <;> simp [hbody, Body.isEnumeration] at hb
      simp [isModuleLevel, hi, hn, Decl.isIncomplete, hbody, Body.record?, Decl.kind, Body.kind,
        Body.form, Form.kind]
    · obtain ⟨hw, hb, hi, hc, hn⟩ := (mem_emittedClasses h.isTree).1 hd
      refine ⟨hw, ?_⟩
      cases hbody : d.body <;> simp [hbody, Body.isRecord, Body.record?] at hb
      simp [isModuleLevel, hi, hn, hc, hbody, Decl.kind, Body.kind, Body.form, Form.kind]
  · obtain ⟨hw, hb, hi⟩ := mem_emittedFunctions.1 hd
    refine ⟨hw, ?_⟩
    cases hbody : d.body <;> simp [hbody, Body.isFunction] at hb
    have hn := ne_empty_of_isValid
      (h.isValid_name hw (by simp [hbody, Body.form]) (by simp [hbody, Body.form]))
    simp [isModuleLevel, hi, hn, Decl.isIncomplete, hbody, Body.record?, Decl.kind, Body.kind,
      Body.form, Form.kind]

/-- Nothing is given away twice. -/
theorem given_nodup (h : lib.IsTree) : lib.given.Nodup := by
  have hwalk : lib.walk.Nodup := List.Nodup.of_map _ h.walk_nodup
  have hsorted : ∀ ds : List Decl, ds.Nodup → (inOrder ds).Nodup := by
    intro ds hds
    exact (List.mergeSort_perm ds _).nodup_iff.2 hds
  have henums : lib.emittedEnums.Nodup := hsorted _ (hwalk.filter _)
  have hclasses : lib.emittedClasses.Nodup :=
    hsorted _ ((h.classes_perm.nodup_iff.2 (hwalk.filter _)).filter _)
  have hfunctions : lib.emittedFunctions.Nodup := hsorted _ (hwalk.filter _)
  refine List.nodup_append.2 ⟨List.nodup_append.2 ⟨henums, hclasses, ?_⟩, hfunctions, ?_⟩
  · rintro d hd e he rfl
    have hb := (mem_emittedEnums.1 hd).2.1
    have hb' := ((mem_emittedClasses h).1 he).2.1
    cases hbody : d.body <;> simp [hbody, Body.isEnumeration, Body.isRecord, Body.record?] at hb hb'
  · rintro d hd e he rfl
    have hb := (mem_emittedFunctions.1 he).2.1
    rcases List.mem_append.1 hd with hd | hd
    · have hb' := (mem_emittedEnums.1 hd).2.1
      cases hbody : d.body <;> simp [hbody, Body.isEnumeration, Body.isFunction] at hb hb'
    · have hb' := ((mem_emittedClasses h).1 hd).2.1
      cases hbody : d.body <;> simp [hbody, Body.isFunction, Body.isRecord, Body.record?] at hb hb'

/-- What is named in the module is given away. -/
theorem mem_given_of_moduleLevel (h : lib.IsTree) {d : Decl} (hd : d ∈ lib.moduleLevel) :
    d ∈ lib.given := by
  obtain ⟨hw, hm⟩ := List.mem_filter.1 (List.mem_mergeSort.1 hd)
  simp only [isModuleLevel, Bool.and_eq_true, bne_iff_ne, ne_eq, Bool.not_eq_true',
    Decl.kind, Body.kind] at hm
  obtain ⟨⟨⟨hi, hn⟩, hc⟩, hkind⟩ := hm
  refine List.mem_append.2 ?_
  cases hbody : d.body <;> simp [hbody, Body.form, Form.kind] at hkind
  · refine .inl (List.mem_append.2 (.inr ((mem_emittedClasses h).2 ⟨hw, ?_, hi, hc, hn⟩)))
    rw [hbody]
    rfl
  · refine .inr (mem_emittedFunctions.2 ⟨hw, ?_, hi⟩)
    rw [hbody]
    rfl
  · refine .inl (List.mem_append.2 (.inl (mem_emittedEnums.2 ⟨hw, ?_, hn, hi⟩)))
    rw [hbody]
    rfl

/-- A module gives away exactly what is named in it. -/
theorem Settled.given_perm (h : lib.Settled) : lib.given.Perm lib.moduleLevel := by
  have hlevel : lib.moduleLevel.Nodup := List.Nodup.of_map _ (PassM.moduleLevel_nodup h.isTree)
  refine (List.perm_ext_iff_of_nodup (given_nodup h.isTree) hlevel).2 fun d => ?_
  exact ⟨mem_moduleLevel_of_given h, mem_given_of_moduleLevel h.isTree⟩

/-- Behind the passes, the names given away and the words of the module all differ. -/
theorem Settled.given_apart (h : lib.Settled) :
    (lib.given.map (·.name) ++ moduleWords).Nodup :=
  ((h.given_perm.map _).append_right _).nodup_iff.2 h.apart

/-- What is given away is known by its name. -/
theorem Settled.eq_of_name (h : lib.Settled) {d e : Decl} (hd : d ∈ lib.given) (he : e ∈ lib.given)
    (hname : d.name = e.name) : d = e :=
  List.inj_on_of_nodup_map (List.nodup_append.1 h.given_apart).1 hd he hname

theorem Settled.given_valid (h : lib.Settled) {d : Decl} (hd : d ∈ lib.given) :
    isValid d.name = true := by
  obtain ⟨hw, hm⟩ := List.mem_filter.1 (List.mem_mergeSort.1 (mem_moduleLevel_of_given h hd))
  exact h.isValid_name hw (form_of_isModuleLevel hm).1 (form_of_isModuleLevel hm).2

end Library

/-! ### The list of names is written -/

namespace Writing

/-- Lines are always written. -/
theorem exists_run_forM_line (texts : List String) (f : String → String) (c : Code) :
    ∃ c', (texts.forM fun n => line (f n)).run c = .ok ((), c') := by
  induction texts generalizing c with
  | nil => exact ⟨c, rfl⟩
  | cons t texts ih =>
    obtain ⟨c', hc'⟩ := ih (c.line (f t))
    exact ⟨c', hc'⟩

end Writing

namespace Emission

/-- No name occurs more than once just if all of them differ. -/
theorem duplicatesOf_eq_nil_iff {names : List String} : duplicatesOf names = [] ↔ names.Nodup := by
  unfold duplicatesOf
  rw [List.eq_nil_iff_forall_not_mem, List.nodup_iff_count_le_one]
  simp only [List.mem_mergeSort, List.mem_eraseDups, List.mem_filter, decide_eq_true_eq, not_and,
    Nat.not_lt]
  refine forall_congr' fun n => ⟨fun h => ?_, fun h _ => h⟩
  by_cases hn : n ∈ names
  · exact h hn
  · rw [List.count_eq_zero.2 hn]
    exact Nat.zero_le 1

/-- Without a name that occurs twice the list of names is written. -/
theorem exists_run_writeExports (e : Emission) {classes : List Decl}
    (h : (e.exports classes).Nodup) (c : Code) :
    ∃ c', (e.writeExports classes).run c = .ok ((), c') := by
  have hnone : duplicatesOf (e.exports classes) = [] := duplicatesOf_eq_nil_iff.2 h
  obtain ⟨c', hc'⟩ := Writing.exists_run_forM_line (e.exports classes)
    (fun n => Text.quoted n ++ ",") ((c.blank 2).openBlock "__all__ = [")
  unfold writeExports
  simp only [hnone]
  refine ⟨c'.closeBlock (some "]"), ?_⟩
  show (do
    let r ← ((e.exports classes).forM fun n => Writing.line (Text.quoted n ++ ",")).run
      ((c.blank 2).openBlock "__all__ = [")
    pure ((), r.2.closeBlock (some "]"))) = _
  rw [hc']
  rfl

/-- Behind the passes of every run a module gives away exactly what is named in it. The names differ
from each other and from the words of the module, all of them can be used, and their list is
written. -/
theorem exports_apart {lib : Library} (h : lib.IsTree) :
    (lib.ScopesAgree → (Schedule.builtin.run (.typed lib)).1 = none) ∧
      ((Schedule.builtin.run (.typed lib)).1 = none →
        ∃ out, (Schedule.builtin.run (.typed lib)).2.1 = .typed out ∧ ∀ table,
          let e := ofLibrary out table
          (e.exports out.emittedClasses).Perm
              ((out.walk.filter Library.isModuleLevel).map (·.name)) ∧
            (e.exports out.emittedClasses).Nodup ∧
            (∀ n ∈ e.exports out.emittedClasses, isValid n = true ∧ n ∉ moduleWords) ∧
            ∀ c, ∃ c', (e.writeExports out.emittedClasses).run c = .ok ((), c')) := by
  refine ⟨Schedule.run_builtin_of_scopesAgree h, fun hrun => ?_⟩
  obtain ⟨-, out, -, -, hsettled, hout⟩ := Schedule.exists_of_run_builtin h hrun
  refine ⟨out, hout, fun table => ?_⟩
  have hexports : (ofLibrary out table).exports out.emittedClasses = out.given.map (·.name) := rfl
  have hperm := hsettled.given_perm.trans (List.mergeSort_perm _ _)
  have hapart := List.nodup_append.1 hsettled.given_apart
  dsimp only
  rw [hexports]
  refine ⟨hperm.map _, hapart.1, fun n hn => ⟨?_, fun hw => hapart.2.2 n hn n hw rfl⟩, fun c => ?_⟩
  · obtain ⟨d, hd, rfl⟩ := List.mem_map.1 hn
    exact hsettled.given_valid hd
  · exact exists_run_writeExports _ (hexports ▸ hapart.1) c

/-- A unit with a class and a function, both under names that a module cannot give away. -/
def crowded : Library :=
  ⟨.text "", .text "", [0],
    [⟨{ Decl.blank 0 none (.unit ⟨[], [1], [], [2]⟩ "a.h") with name := "a.h" }, true⟩,
      ⟨{ Decl.blank 1 (some 0) (.blank .record) with name := "class" }, true⟩,
      ⟨{ Decl.blank 2 (some 0) (.blank .function) with name := "ctypes" }, true⟩]⟩

theorem crowded_isTree : crowded.IsTree ∧ crowded.ScopesAgree :=
  Library.isTree_of_isRegular (by decide +kernel)

theorem exports_apart_crowded : ∃ out,
    (Schedule.builtin.run (.typed crowded)).2.1 = .typed out ∧
      ((ofLibrary out .standard).exports out.emittedClasses).Nodup := by
  obtain ⟨hmade, hgiven⟩ := exports_apart crowded_isTree.1
  obtain ⟨out, hout, hall⟩ := hgiven (hmade crowded_isTree.2)
  exact ⟨out, hout, (hall .standard).2.1⟩

end Emission

end Bindery
