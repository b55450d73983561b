import Bindery.Declaration.Library
import Mathlib.Data.List.Flatten
import Mathlib.Data.List.Perm.Basic
import Mathlib.Tactic.SplitIfs

/-!
# Lists of a body

A body takes a declaration in at the end of the one list that is meant for its form, and gives a
declaration up from the first list that has it. All other lists stay, and so does the form.
-/

namespace Bindery.Body

/-- A body without one of the declarations inside, if it is there. -/
def erase? (b : Body) (id : Nat) : Option Body :=
  match b with
  | unit s file => (eraseFromScope? s id).map (unit · file)
  | space s => (eraseFromScope? s id).map space
  | record r => (eraseFromRecord? r id).map record
  | method p t =>
    (eraseNumber? p.parameters id).map fun ids => method { p with parameters := ids } t
  | function p =>
    (eraseNumber? p.parameters id).map fun ids => function { p with parameters := ids }
  | enumeration items u s => (eraseNumber? items id).map fun items => enumeration items u s
  | _ => none

/-! ### The lists by name -/

theorem listOf_unit (s : Scope) (file l : String) : (unit s file).listOf l =
    if l = "namespaces" then s.namespaces else if l = "classes" then s.classes
    else if l = "enums" then s.enums else if l = "functions" then s.functions else [] := by
  unfold listOf
  split <;> simp_all

theorem listOf_space (s : Scope) (l : String) :
    (space s).listOf l = (unit s "").listOf l := by
  rw [listOf_unit]
  unfold listOf
  split <;> simp_all

theorem listOf_record (r : Record) (l : String) : (record r).listOf l =
    if l = "classes" then r.classes else if l = "enums" then r.enums
    else if l = "fields" then r.fields else if l = "methods" then r.methods else [] := by
  unfold listOf
  split <;> simp_all

theorem listOf_method (p : Prototype) (t : MethodTraits) (l : String) :
    (method p t).listOf l = if l = "parameters" then p.parameters else [] := by
  unfold listOf
  split <;> simp_all

theorem listOf_function (p : Prototype) (l : String) :
    (function p).listOf l = if l = "parameters" then p.parameters else [] := by
  unfold listOf
  split <;> simp_all

theorem listOf_enumeration (items : List Nat) (u : String) (s : Bool) (l : String) :
    (enumeration items u s).listOf l = if l = "items" then items else [] := by
  unfold listOf
  split <;> simp_all

/-- A declaration inside a body stands on one of the lists of its form. -/
theorem mem_children_iff {b : Body} {id : Nat} :
    id ∈ b.children ↔ ∃ list ∈ b.form.lists, id ∈ b.listOf list := by
  rw [children_eq_flatMap_listOf, List.mem_flatMap]

/-- A list that a form does not have is empty. -/
theorem listOf_eq_nil {b : Body} {list : String} (h : list ∉ b.form.lists) :
    b.listOf list = [] := by
  cases b <;> simp [form, Form.lists] at h <;> unfold listOf <;> split <;> simp_all

/-- Where a declaration stands on a list, the form has that list. -/
theorem mem_lists_of_mem_listOf {b : Body} {list : String} {id : Nat} (h : id ∈ b.listOf list) :
    list ∈ b.form.lists := by
  by_cases hl : list ∈ b.form.lists
  · exact hl
  · rw [listOf_eq_nil hl] at h
    cases h

/-- Bodies of one form whose lists are part of others have part of what is inside those. -/
theorem children_sublist {b c : Body} (hf : c.form = b.form)
    (h : ∀ list, (c.listOf list).Sublist (b.listOf list)) : c.children.Sublist b.children := by
  rw [children_eq_flatMap_listOf, children_eq_flatMap_listOf, hf]
  exact List.Sublist.flatMap_right _ fun list _ => h list

/-- Bodies of one form whose lists hold the same hold the same. -/
theorem children_perm {b c : Body} (hf : c.form = b.form)
    (h : ∀ list, (c.listOf list).Perm (b.listOf list)) : c.children.Perm b.children := by
  rw [children_eq_flatMap_listOf, children_eq_flatMap_listOf, hf]
  exact List.Perm.flatMap_left _ fun list _ => h list

/-! ### Taking in -/

/-- A body takes in what one of its lists is meant for. -/
theorem insert?_isSome_iff {b child : Body} {id : Nat} :
    (b.insert? child id).isSome = true ↔ (b.form.listFor? child.form).isSome = true := by
  cases b <;> cases child <;>
    simp [insert?, insertIntoScope?, insertIntoRecord?, form, Form.listFor?]

/-- What a scope takes in stands at the end of the list for it. -/
theorem listOf_of_insertIntoScope? {s t : Scope} {child : Body} {id : Nat}
    (h : insertIntoScope? s child id = some t) : ∃ list, ∀ file,
      (unit s file).form.listFor? child.form = some list ∧
      ∀ l, (unit t file).listOf l =
        if l = list then (unit s file).listOf l ++ [id] else (unit s file).listOf l := by
  cases child <;> simp only [insertIntoScope?, Option.some.injEq, reduceCtorEq] at h <;> subst h <;>
    refine ⟨_, fun file => ⟨rfl, fun l => ?_⟩⟩ <;> rw [listOf_unit, listOf_unit] <;> split_ifs <;>
    simp_all

/-- What a class takes in stands at the end of the list for it. -/
theorem listOf_of_insertIntoRecord? {r s : Record} {child : Body} {id : Nat}
    (h : insertIntoRecord? r child id = some s) : ∃ list,
      (record r).form.listFor? child.form = some list ∧
      ∀ l, (record s).listOf l =
        if l = list then (record r).listOf l ++ [id] else (record r).listOf l := by
  cases child <;> simp only [insertIntoRecord?, Option.some.injEq, reduceCtorEq] at h <;>
    subst h <;>
    refine ⟨_, rfl, fun l => ?_⟩ <;> rw [listOf_record, listOf_record] <;> split_ifs <;> simp_all

/-- What completes a class stays when it takes something in. -/
theorem definition_insert? {b child c : Body} {id : Nat} (h : b.insert? child id = some c) :
    c.record?.bind (·.definition) = b.record?.bind (·.definition) := by
  cases b <;> cases child <;>
    simp only [insert?, insertIntoScope?, insertIntoRecord?, Option.map_some, Option.map_none,
      Option.some.injEq, reduceCtorEq] at h <;>
    subst h <;> rfl

/-- What a body takes in stands at the end of the list for it. -/
theorem insert?_eq_some {b child c : Body} {id : Nat} (h : b.insert? child id = some c) :
    ∃ list, b.form.listFor? child.form = some list ∧ c.form = b.form ∧
      ∀ l, c.listOf l = if l = list then b.listOf l ++ [id] else b.listOf l := by
  cases b with
  | unit s file =>
    obtain ⟨t, ht, rfl⟩ := Option.map_eq_some_iff.1 h
    obtain ⟨list, hlist⟩ := listOf_of_insertIntoScope? ht
    exact ⟨list, (hlist file).1, rfl, (hlist file).2⟩
  | space s =>
    obtain ⟨t, ht, rfl⟩ := Option.map_eq_some_iff.1 h
    obtain ⟨list, hlist⟩ := listOf_of_insertIntoScope? ht
    refine ⟨list, ?_, rfl, fun l => ?_⟩
    · have := (hlist "").1
      cases child <;> exact this
    · rw [listOf_space, listOf_space]
      exact (hlist "").2 l
  | record r =>
    obtain ⟨t, ht, rfl⟩ := Option.map_eq_some_iff.1 h
    obtain ⟨list, hform, hlist⟩ := listOf_of_insertIntoRecord? ht
    exact ⟨list, hform, rfl, hlist⟩
  | method p t =>
    cases child <;> simp only [insert?, Option.some.injEq, reduceCtorEq] at h
    subst h
    refine ⟨_, rfl, rfl, fun l => ?_⟩
    rw [listOf_method, listOf_method]
    split_ifs <;> rfl
  | function p =>
    cases child <;> simp only [insert?, Option.some.injEq, reduceCtorEq] at h
    subst h
    refine ⟨_, rfl, rfl, fun l => ?_⟩
    rw [listOf_function, listOf_function]
    split_ifs <;> rfl
  | enumeration items u s =>
    cases child <;> simp only [insert?, Option.some.injEq, reduceCtorEq] at h
    subst h
    refine ⟨_, rfl, rfl, fun l => ?_⟩
    rw [listOf_enumeration, listOf_enumeration]
    split_ifs <;> rfl
  | _ => simp [insert?] at h

/-! ### Giving up -/

theorem eraseNumber?_eq_some {ids rest : List Nat} {id : Nat}
    (h : eraseNumber? ids id = some rest) : id ∈ ids ∧ rest = ids.erase id := by
  unfold eraseNumber? at h
  split at h
  · next hc => exact ⟨List.contains_iff_mem.1 hc, (Option.some.inj h).symm⟩
  · simp at h

/-- What a scope gives up leaves one list. -/
theorem listOf_of_eraseFromScope? {s t : Scope} {id : Nat} (h : eraseFromScope? s id = some t) :
    ∃ list, ∀ file, id ∈ (unit s file).listOf list ∧
      ∀ l, (unit t file).listOf l =
        if l = list then ((unit s file).listOf l).erase id else (unit s file).listOf l := by
  unfold eraseFromScope? at h
  split_ifs at h with h1 h2 h3 h4 <;> cases h
  · refine ⟨"namespaces", fun file => ⟨List.contains_iff_mem.1 h1, fun l => ?_⟩⟩
    rw [listOf_unit, listOf_unit]
    split_ifs <;> rfl
  · refine ⟨"classes", fun file => ⟨List.contains_iff_mem.1 h2, fun l => ?_⟩⟩
    rw [listOf_unit, listOf_unit]
    split_ifs <;> simp_all
  · refine ⟨"enums", fun file => ⟨List.contains_iff_mem.1 h3, fun l => ?_⟩⟩
    rw [listOf_unit, listOf_unit]
    split_ifs <;> simp_all
  · refine ⟨"functions", fun file => ⟨List.contains_iff_mem.1 h4, fun l => ?_⟩⟩
    rw [listOf_unit, listOf_unit]
    split_ifs <;> simp_all

/-- What a class gives up leaves one list. -/
theorem listOf_of_eraseFromRecord? {r s : Record} {id : Nat}
    (h : eraseFromRecord? r id = some s) : ∃ list, id ∈ (record r).listOf list ∧
      ∀ l, (record s).listOf l =
        if l = list then ((record r).listOf l).erase id else (record r).listOf l := by
  unfold eraseFromRecord? at h
  split_ifs at h with h1 h2 h3 h4 <;> cases h
  · refine ⟨"fields", List.contains_iff_mem.1 h1, fun l => ?_⟩
    rw [listOf_record, listOf_record]
    split_ifs <;> simp_all
  · refine ⟨"methods", List.contains_iff_mem.1 h2, fun l => ?_⟩
    rw [listOf_record, listOf_record]
    split_ifs <;> simp_all
  · refine ⟨"classes", List.contains_iff_mem.1 h3, fun l => ?_⟩
    rw [listOf_record, listOf_record]
    split_ifs <;> rfl
  · refine ⟨"enums", List.contains_iff_mem.1 h4, fun l => ?_⟩
    rw [listOf_record, listOf_record]
    split_ifs <;> simp_all

/-- What a body gives up leaves one list. -/
theorem erase?_eq_some {b c : Body} {id : Nat} (h : b.erase? id = some c) :
    ∃ list, id ∈ b.listOf list ∧ c.form = b.form ∧
      ∀ l, c.listOf l = if l = list then (b.listOf l).erase id else b.listOf l := by
  cases b with
  | unit s file =>
    obtain ⟨t, ht, rfl⟩ := Option.map_eq_some_iff.1 h
    obtain ⟨list, hlist⟩ := listOf_of_eraseFromScope? ht
    exact ⟨list, (hlist file).1, rfl, (hlist file).2⟩
  | space s =>
    obtain ⟨t, ht, rfl⟩ := Option.map_eq_some_iff.1 h
    obtain ⟨list, hlist⟩ := listOf_of_eraseFromScope? ht
    refine ⟨list, ?_, rfl, fun l => ?_⟩
    · rw [listOf_space]
      exact (hlist "").1
    · rw [listOf_space, listOf_space]
      exact (hlist "").2 l
  | record r =>
    obtain ⟨t, ht, rfl⟩ := Option.map_eq_some_iff.1 h
    obtain ⟨list, hmem, hlist⟩ := listOf_of_eraseFromRecord? ht
    exact ⟨list, hmem, rfl, hlist⟩
  | method p t =>
    obtain ⟨ids, hids, rfl⟩ := Option.map_eq_some_iff.1 h
    obtain ⟨hmem, rfl⟩ := eraseNumber?_eq_some hids
    refine ⟨"parameters", hmem, rfl, fun l => ?_⟩
    rw [listOf_method, listOf_method]
    split_ifs <;> rfl
  | function p =>
    obtain ⟨ids, hids, rfl⟩ := Option.map_eq_some_iff.1 h
    obtain ⟨hmem, rfl⟩ := eraseNumber?_eq_some hids
    refine ⟨"parameters", hmem, rfl, fun l => ?_⟩
    rw [listOf_function, listOf_function]
    split_ifs <;> rfl
  | enumeration items u s =>
    obtain ⟨ids, hids, rfl⟩ := Option.map_eq_some_iff.1 h
    obtain ⟨hmem, rfl⟩ := eraseNumber?_eq_some hids
    refine ⟨"items", hmem, rfl, fun l => ?_⟩
    rw [listOf_enumeration, listOf_enumeration]
    split_ifs <;> rfl
  | _ => simp [erase?] at h

/-- A body gives up whatever is inside it. -/
theorem erase?_isSome_of_mem {b : Body} {id : Nat} (h : id ∈ b.children) :
    (b.erase? id).isSome = true := by
  cases b <;> simp only [children, List.mem_append, List.not_mem_nil] at h <;>
    simp only [erase?, eraseFromScope?, eraseFromRecord?, eraseNumber?, Option.isSome_map,
      List.contains_iff_mem] <;> split_ifs <;> simp_all

/-- What gives something up stays as complete as it is and keeps its definition. -/
theorem record?_erase? {b c : Body} {id : Nat} (h : b.erase? id = some c) :
    c.record?.any (·.incomplete) = b.record?.any (·.incomplete) ∧
      c.record?.bind (·.definition) = b.record?.bind (·.definition) := by
  cases b with
  | record r =>
    obtain ⟨t, ht, rfl⟩ := Option.map_eq_some_iff.1 h
    unfold eraseFromRecord? at ht
    split_ifs at ht <;> cases ht <;> exact ⟨rfl, rfl⟩
  | plain | field | parameter | enumItem => cases h
  | unit | space | method | function | enumeration =>
    obtain ⟨t, -, rfl⟩ := Option.map_eq_some_iff.1 h
    exact ⟨rfl, rfl⟩

end Bindery.Body
