import Bindery.Proofs.Declaration.Lists
import Bindery.Proofs.Declaration.Tree
import Mathlib.Data.List.Nodup
import Mathlib.Data.List.Perm.Basic

/-!
# Walks through trees

In a tree a walk meets everything that can be reached from the units, and each of it once. The
scopes, classes and functions that are collected list by list are those that the walk meets, so that
whatever goes through the classes of a library sees what the walk sees. For that the declarations
need not form a tree: it is enough that lists hold what they are meant for and that nothing lies
inside itself. Walks are cut off at a number of levels that is not reached then.
-/

namespace Bindery.Library

variable {lib : Library}

/-! ### What a walk meets -/

theorem mem_walkFrom {n a : Nat} {d : Decl} :
    d ∈ lib.walkFrom n a ↔ ∃ k x, k < n ∧ lib.Below a k x ∧ lib.decl? x = some d := by
  induction n generalizing a with
  | zero => simp [walkFrom]
  | succ n ih =>
    unfold walkFrom
    cases ha : lib.decl? a with
    | none =>
      constructor
      · simp
      · rintro ⟨k, x, -, hb, hx⟩
        cases k with
        | zero =>
          rw [below_zero_iff] at hb
          subst hb
          rw [ha] at hx
          cases hx
        | succ k =>
          obtain ⟨c, ⟨e, he, -⟩, -⟩ := below_succ_iff.1 hb
          rw [ha] at he
          cases he
    | some e =>
      simp only [List.mem_cons, List.mem_flatMap]
      constructor
      · rintro (rfl | ⟨c, hc, hd⟩)
        · exact ⟨0, a, by omega, .self, ha⟩
        · obtain ⟨k, x, hk, hb, hx⟩ := ih.1 hd
          exact ⟨k + 1, x, by omega, below_succ_iff.2 ⟨c, ⟨e, ha, hc⟩, hb⟩, hx⟩
      · rintro ⟨k, x, hk, hb, hx⟩
        cases k with
        | zero =>
          rw [below_zero_iff] at hb
          subst hb
          rw [ha] at hx
          cases hx
          exact Or.inl rfl
        | succ k =>
          obtain ⟨c, ⟨e', he', hc⟩, hb⟩ := below_succ_iff.1 hb
          rw [ha] at he'
          cases he'
          exact Or.inr ⟨c, hc, ih.2 ⟨k, x, by omega, hb, hx⟩⟩

/-- What a walk meets can be reached. -/
theorem exists_of_mem_walk {d : Decl} (hd : d ∈ lib.walk) :
    ∃ id, lib.Attached id ∧ lib.decl? id = some d := by
  simp only [walk, subtree, List.mem_flatMap, mem_walkFrom] at hd
  obtain ⟨u, hu, k, x, -, hb, hx⟩ := hd
  exact ⟨x, ⟨u, hu, k, hb⟩, hx⟩

theorem IsTree.mem_walk (h : lib.IsTree) {d : Decl} :
    d ∈ lib.walk ↔ ∃ id, lib.Attached id ∧ lib.decl? id = some d := by
  refine ⟨exists_of_mem_walk, ?_⟩
  simp only [walk, subtree, List.mem_flatMap, mem_walkFrom]
  rintro ⟨x, ⟨u, hu, k, hb⟩, hx⟩
  exact ⟨u, hu, k, x, h.level_lt_created hu hb, hb, hx⟩

/-- A walk meets a declaration under its own number. -/
theorem IsTree.decl?_of_mem_walk (h : lib.IsTree) {d : Decl} (hd : d ∈ lib.walk) :
    lib.Attached d.id ∧ lib.decl? d.id = some d := by
  obtain ⟨x, hx, hdx⟩ := h.mem_walk.1 hd
  rw [h.id_of_decl? hx hdx]
  exact ⟨hx, hdx⟩

/-- What a walk meets under one number is one declaration. -/
theorem IsTree.eq_of_mem_walk (h : lib.IsTree) {d e : Decl} (hd : d ∈ lib.walk) (he : e ∈ lib.walk)
    (hid : d.id = e.id) : d = e := by
  have hd' := (h.decl?_of_mem_walk hd).2
  rw [hid, (h.decl?_of_mem_walk he).2] at hd'
  exact (Option.some.inj hd').symm

/-- The numbers of what a walk meets, read off the levels below a declaration. -/
theorem IsTree.mem_map_id_walkFrom (h : lib.IsTree) {n a x : Nat} (ha : lib.Attached a)
    (hx : x ∈ (lib.walkFrom n a).map (·.id)) : ∃ k, lib.Below a k x := by
  obtain ⟨d, hd, rfl⟩ := List.mem_map.1 hx
  obtain ⟨k, y, -, hb, hy⟩ := mem_walkFrom.1 hd
  rw [h.id_of_decl? (ha.below hb) hy]
  exact ⟨k, hb⟩

/-- A walk meets nothing twice. -/
theorem IsTree.walkFrom_nodup (h : lib.IsTree) {a : Nat} (n : Nat) (ha : lib.Attached a) :
    ((lib.walkFrom n a).map (·.id)).Nodup := by
  induction n generalizing a with
  | zero => simp [walkFrom]
  | succ n ih =>
    obtain ⟨d, hd, hid⟩ := h.decl_of_attached ha
    have hlists : ∀ c ∈ d.body.children, lib.Lists a c := fun c hc => ⟨d, hd, hc⟩
    simp only [walkFrom, hd, List.map_cons, List.map_flatMap, List.nodup_cons]
    refine ⟨?_, List.nodup_flatMap.2 ⟨fun c hc => ih (ha.lists (hlists c hc)), ?_⟩⟩
    · rw [hid, List.mem_flatMap]
      rintro ⟨c, hc, hx⟩
      obtain ⟨k, hb⟩ := h.mem_map_id_walkFrom (ha.lists (hlists c hc)) hx
      exact h.not_below_self ha (below_succ_iff.2 ⟨c, hlists c hc, hb⟩)
    · refine (h.children_nodup a d ha hd).imp_of_mem ?_
      intro b c hb hc hne
      refine List.disjoint_left.2 fun x hx hy => ?_
      obtain ⟨m, hm⟩ := h.mem_map_id_walkFrom (ha.lists (hlists b hb)) hx
      obtain ⟨k, hk⟩ := h.mem_map_id_walkFrom (ha.lists (hlists c hc)) hy
      exact hne (h.sibling_unique ha (hlists b hb) (hlists c hc) hm hk)

theorem IsTree.walk_nodup (h : lib.IsTree) : (lib.walk.map (·.id)).Nodup := by
  simp only [walk, List.map_flatMap]
  refine List.nodup_flatMap.2 ⟨?_, ?_⟩
  · intro u hu
    exact h.walkFrom_nodup _ (attached_of_mem_units hu)
  · refine h.units_nodup.imp_of_mem ?_
    intro u v hu hv hne
    refine List.disjoint_left.2 fun x hx hy => ?_
    obtain ⟨m, hm⟩ := h.mem_map_id_walkFrom (attached_of_mem_units hu) hx
    obtain ⟨k, hk⟩ := h.mem_map_id_walkFrom (attached_of_mem_units hv) hy
    exact hne (h.place_unique hu hv hm hk).1

/-! ### Levels that are enough -/

/-- Nothing lies so many levels below a declaration. -/
def Shallow (lib : Library) (n a : Nat) : Prop :=
  ∀ k x, lib.Below a k x → k < n

/-- What a declaration lists has one level less below it. -/
theorem Shallow.lists {n a c : Nat} (h : lib.Shallow (n + 1) a) (hl : lib.Lists a c) :
    lib.Shallow n c := by
  intro k x hx
  have := h (k + 1) x (below_succ_iff.2 ⟨c, hl, hx⟩)
  omega

theorem IsTree.shallow (h : lib.IsTree) {unit level a : Nat} (hu : unit ∈ lib.units)
    (hb : lib.Below unit level a) : lib.Shallow (lib.created - level) a := by
  intro k x hx
  have := h.level_lt_created hu (hb.trans hx)
  omega

theorem IsTree.shallow_created (h : lib.IsTree) {a : Nat} (ha : lib.Attached a) :
    lib.Shallow lib.created a := by
  obtain ⟨u, hu, level, hb⟩ := ha
  intro k x hx
  have := h.shallow hu hb k x hx
  omega

/-- Once there are levels enough for what lies below a declaration, further ones find nothing. -/
theorem belowFrom_of_shallow {pick : Body → List Nat} (hp : ∀ b, pick b ⊆ b.children) {n m a : Nat}
    (hn : lib.Shallow n a) (hm : lib.Shallow m a) :
    lib.belowFrom pick n a = lib.belowFrom pick m a := by
  induction n generalizing m a with
  | zero => exact absurd (hn 0 a .self) (by omega)
  | succ n ih =>
    cases m with
    | zero => exact absurd (hm 0 a .self) (by omega)
    | succ m =>
      unfold belowFrom
      cases ha : lib.decl? a with
      | none => rfl
      | some d =>
        have hstep : ∀ c ∈ pick d.body, lib.belowFrom pick n c = lib.belowFrom pick m c := by
          intro c hc
          have hl : lib.Lists a c := ⟨d, ha, hp _ hc⟩
          exact ih (hn.lists hl) (hm.lists hl)
        simp only [List.flatMap_congr hstep]

/-- In a tree a level more finds nothing. -/
theorem IsTree.belowFrom_succ_created (h : lib.IsTree) {pick : Body → List Nat}
    (hp : ∀ b, pick b ⊆ b.children) {a : Nat} (ha : lib.Attached a) :
    lib.belowFrom pick (lib.created + 1) a = lib.below pick a := by
  have hn := h.shallow_created ha
  exact belowFrom_of_shallow hp (fun k x hb => Nat.lt_succ_of_lt (hn k x hb)) hn

theorem belowFrom_children (n a : Nat) : lib.belowFrom Body.children n a = lib.walkFrom n a := by
  induction n generalizing a with
  | zero => rfl
  | succ n ih =>
    unfold belowFrom walkFrom
    cases lib.decl? a with
    | none => rfl
    | some d => simp only [funext ih]

theorem walkFrom_of_shallow {n m a : Nat} (hn : lib.Shallow n a) (hm : lib.Shallow m a) :
    lib.walkFrom n a = lib.walkFrom m a := by
  rw [← belowFrom_children, ← belowFrom_children]
  exact belowFrom_of_shallow (fun _ => List.Subset.refl _) hn hm

/-! ### Forms and lists -/

/-- Lists of classes hold classes. -/
theorem form_of_listFor?_classes {owner child : Form} (h : owner.listFor? child = some "classes") :
    child = .record := by
  revert h
  cases owner <;> cases child <;> simp [Form.listFor?]

/-- Lists of functions hold functions. -/
theorem form_of_listFor?_functions {owner child : Form}
    (h : owner.listFor? child = some "functions") : child = .function := by
  revert h
  cases owner <;> cases child <;> simp [Form.listFor?]

/-- Lists of scopes hold scopes. -/
theorem isScope_of_listFor?_namespaces {owner child : Form}
    (h : owner.listFor? child = some "namespaces") : child.isScope = true := by
  revert h
  cases owner <;> cases child <;> simp [Form.listFor?, Form.isScope]

/-- What any other list holds is no scope. -/
theorem isScope_of_listFor? {owner child : Form} {list : String}
    (h : owner.listFor? child = some list) (hn : list ≠ "namespaces") : child.isScope = false := by
  revert h
  cases owner <;> cases child <;> simp [Form.listFor?, Form.isScope] <;> exact fun h => hn h.symm

/-- What any other list holds takes no classes in. -/
theorem listFor?_record_of_listFor? {owner child : Form} {list : String}
    (h : owner.listFor? child = some list) (hc : list ≠ "classes") (hn : list ≠ "namespaces") :
    child.listFor? .record = none := by
  revert h
  cases owner <;> cases child <;> simp [Form.listFor?] <;> intro h <;> simp_all

/-- What any other list holds is no function. -/
theorem ne_function_of_listFor? {owner child : Form} {list : String}
    (h : owner.listFor? child = some list) (hf : list ≠ "functions") : child ≠ .function := by
  rintro rfl
  revert h
  cases owner <;> simp [Form.listFor?] <;> exact fun h => hf h.symm

theorem lists_of_isScope {f : Form} (h : f.isScope = true) :
    f.lists = ["namespaces", "classes", "enums", "functions"] := by
  cases f <;> simp [Form.isScope] at h <;> rfl

theorem classes_subset_children (b : Body) : b.classes ⊆ b.children := by
  cases b <;> simp [Body.classes, Body.listOf, Body.children]

theorem namespaces_subset_children (b : Body) : b.namespaces ⊆ b.children := by
  cases b <;> simp [Body.namespaces, Body.listOf, Body.children]

/-- What is found below a declaration can be reached from it. -/
theorem exists_below_of_mem_belowFrom {pick : Body → List Nat} (hsub : ∀ b, pick b ⊆ b.children)
    {n a : Nat} {d : Decl} (hd : d ∈ lib.belowFrom pick n a) :
    ∃ k x, lib.Below a k x ∧ lib.decl? x = some d := by
  induction n generalizing a with
  | zero => cases hd
  | succ n ih =>
    unfold belowFrom at hd
    cases ha : lib.decl? a with
    | none =>
      rw [ha] at hd
      cases hd
    | some e =>
      rw [ha] at hd
      rcases List.mem_cons.1 hd with rfl | hd
      · exact ⟨0, a, .self, ha⟩
      · obtain ⟨c, hc, hd⟩ := List.mem_flatMap.1 hd
        obtain ⟨k, x, hb, hx⟩ := ih hd
        exact ⟨k + 1, x, below_succ_iff.2 ⟨c, ⟨e, ha, hsub _ hc⟩, hb⟩, hx⟩

/-- Scopes can be reached. -/
theorem attached_of_mem_namespaces {d : Decl} (hd : d ∈ lib.namespaces) :
    ∃ id, lib.Attached id ∧ lib.decl? id = some d := by
  obtain ⟨u, hu, hd⟩ := List.mem_flatMap.1 hd
  obtain ⟨k, x, hb, hx⟩ := exists_below_of_mem_belowFrom namespaces_subset_children hd
  exact ⟨x, ⟨u, hu, k, hb⟩, hx⟩

theorem walkFrom_by_lists (n : Nat) {a : Nat} {d : Decl} (hd : lib.decl? a = some d) :
    lib.walkFrom (n + 1) a =
      d :: d.body.form.lists.flatMap fun list => (d.body.listOf list).flatMap (lib.walkFrom n) := by
  simp only [walkFrom, hd]
  rw [Body.children_eq_flatMap_listOf, List.flatMap_assoc]

/-- What is wanted of a walk is looked for list by list. -/
theorem filter_walkFrom_by_lists (wanted : Decl → Bool) (n : Nat) {a : Nat} {d : Decl}
    (hd : lib.decl? a = some d) :
    (lib.walkFrom (n + 1) a).filter wanted =
      [d].filter wanted ++ d.body.form.lists.flatMap fun list =>
        ((d.body.listOf list).flatMap (lib.walkFrom n)).filter wanted := by
  rw [walkFrom_by_lists n hd, ← List.singleton_append, List.filter_append, List.filter_flatMap]

/-! ### Hierarchies -/

/-- The declarations below the units form a hierarchy: lists hold declarations of the forms they are
meant for, and nothing lies inside itself. A hierarchy need not be a tree, as a declaration may be
listed more than once, and what lies in it need not be registered. -/
structure IsHierarchy (lib : Library) : Prop where
  /-- What is listed as a unit is a scope. -/
  unit_scope : ∀ unit ∈ lib.units, ∃ d, lib.decl? unit = some d ∧ d.body.form.isScope = true
  /-- What stands on a list is a declaration of a form for that list. -/
  listed : ∀ p d list c, lib.Attached p → lib.decl? p = some d → c ∈ d.body.listOf list →
    ∃ e, lib.decl? c = some e ∧ d.body.form.listFor? e.body.form = some list
  /-- No declaration lies inside itself. -/
  acyclic : ∀ id n, lib.Attached id → ¬ lib.Below id (n + 1) id

/-- Some forms are apart from what is looked for: it is none of them, and they list nothing but
forms that are apart as well. -/
structure Apart (wanted : Decl → Bool) (forms : Form → Prop) : Prop where
  /-- It is none of the forms. -/
  self : ∀ d, forms d.body.form → wanted d = false
  /-- The forms list only each other. -/
  listed : ∀ owner child list, forms owner → owner.listFor? child = some list → forms child

theorem apart_isScope : Apart (·.body.form.isScope) fun f => f.isScope = false where
  self _ hf := hf
  listed owner child list hf hl := by
    revert hf hl
    cases owner <;> cases child <;> simp [Form.listFor?, Form.isScope]

theorem apart_isRecord : Apart (·.body.isRecord) fun f => f.listFor? .record = none where
  self d hf := by
    cases hb : d.body <;> simp [hb, Body.form, Form.listFor?] at hf <;> rfl
  listed owner child list hf hl := by
    revert hf hl
    cases owner <;> cases child <;> simp [Form.listFor?]

theorem apart_isFunction :
    Apart (·.body.isFunction) fun f => f.isScope = false ∧ f ≠ .function where
  self d hf := by
    cases hb : d.body <;> simp [hb, Body.form, Form.isScope] at hf <;> rfl
  listed owner child list hf hl := by
    revert hf hl
    cases owner <;> cases child <;> simp [Form.listFor?, Form.isScope]

/-- A scope and what lies below it, the scopes inside it aside. -/
def scopeWalk (lib : Library) (d : Decl) : List Decl :=
  d :: ["classes", "enums", "functions"].flatMap fun list =>
    (d.body.listOf list).flatMap lib.subtree

/-- What is wanted of a scope is looked for behind its lists, if it is not the scope itself. -/
theorem filter_scopeWalk {wanted : Decl → Bool} {d : Decl} (hself : wanted d = false) :
    (lib.scopeWalk d).filter wanted = ["classes", "enums", "functions"].flatMap fun list =>
      ((d.body.listOf list).flatMap lib.subtree).filter wanted := by
  unfold scopeWalk
  rw [List.filter_cons, hself, List.filter_flatMap]
  rfl

namespace IsHierarchy

variable (h : lib.IsHierarchy)
include h

theorem lt_created_of_attached {id : Nat} (ha : lib.Attached id) : id < lib.created := by
  obtain ⟨u, hu, level, hb⟩ := ha
  cases hb with
  | self =>
    obtain ⟨d, hd, -⟩ := h.unit_scope _ hu
    exact lt_created_of_decl? hd
  | step hb hl =>
    obtain ⟨d, hd, hmem⟩ := hl
    rw [Body.children_eq_flatMap_listOf, List.mem_flatMap] at hmem
    obtain ⟨list, -, hc⟩ := hmem
    obtain ⟨e, he, -⟩ := h.listed _ d list id ⟨u, hu, _, hb⟩ hd hc
    exact lt_created_of_decl? he

theorem shallow_created {a : Nat} (ha : lib.Attached a) : lib.Shallow lib.created a := by
  obtain ⟨u, hu, level, hb⟩ := ha
  intro k x hx
  have hlt := level_lt_created_of_acyclic (fun _ ha => h.lt_created_of_attached ha) h.acyclic hu
    (hb.trans hx)
  omega

/-- What stands on a list of a declaration can be reached and has a form for that list. -/
theorem exists_of_mem_listOf {a : Nat} {d : Decl} {list : String} {c : Nat} (ha : lib.Attached a)
    (hd : lib.decl? a = some d) (hc : c ∈ d.body.listOf list) :
    ∃ e, lib.decl? c = some e ∧ lib.Attached c ∧
      d.body.form.listFor? e.body.form = some list := by
  have hmem : c ∈ d.body.children :=
    Body.mem_children_iff.2 ⟨list, Body.mem_lists_of_mem_listOf hc, hc⟩
  obtain ⟨e, he, hform⟩ := h.listed a d list c ha hd hc
  exact ⟨e, he, ha.lists ⟨d, hd, hmem⟩, hform⟩

/-- A walk meets nothing of what is wanted below forms that are apart from it. -/
theorem filter_walkFrom_eq_nil {wanted : Decl → Bool} {forms : Form → Prop}
    (hapart : Apart wanted forms) (n : Nat) {a : Nat} {d : Decl} (ha : lib.Attached a)
    (hd : lib.decl? a = some d) (hf : forms d.body.form) :
    (lib.walkFrom n a).filter wanted = [] := by
  induction n generalizing a d with
  | zero => rfl
  | succ n ih =>
    have hself : [d].filter wanted = [] := by
      rw [List.filter_cons, hapart.self d hf]
      rfl
    rw [filter_walkFrom_by_lists wanted n hd, hself, List.nil_append]
    simp only [List.filter_flatMap, List.flatMap_eq_nil_iff]
    intro list _ c hc
    obtain ⟨e, he, hca, hform⟩ := h.exists_of_mem_listOf ha hd hc
    exact ih hca he (hapart.listed _ _ list hf hform)

/-- Nothing of what is wanted is found behind a list of forms that are apart from it. -/
theorem filter_listOf_eq_nil {wanted : Decl → Bool} {forms : Form → Prop}
    (hapart : Apart wanted forms) (n : Nat) {a : Nat} {d : Decl} {list : String}
    (ha : lib.Attached a) (hd : lib.decl? a = some d)
    (hforms : ∀ child, d.body.form.listFor? child = some list → forms child) :
    ((d.body.listOf list).flatMap (lib.walkFrom n)).filter wanted = [] := by
  rw [List.filter_flatMap, List.flatMap_eq_nil_iff]
  intro c hc
  obtain ⟨e, he, hca, hform⟩ := h.exists_of_mem_listOf ha hd hc
  exact h.filter_walkFrom_eq_nil hapart n hca he (hforms _ hform)

/-! ### Scopes -/

/-- The scopes that a walk meets from a scope on are those on the lists of scopes. -/
theorem filter_isScope_walkFrom (n : Nat) {a : Nat} {d : Decl} (ha : lib.Attached a)
    (hd : lib.decl? a = some d) (hf : d.body.form.isScope = true) :
    (lib.walkFrom n a).filter (·.body.form.isScope) = lib.belowFrom Body.namespaces n a := by
  induction n generalizing a d with
  | zero => rfl
  | succ n ih =>
    have hspaces : ((d.body.listOf "namespaces").flatMap (lib.walkFrom n)).filter
        (·.body.form.isScope) =
          (d.body.listOf "namespaces").flatMap (lib.belowFrom Body.namespaces n) := by
      rw [List.filter_flatMap]
      refine List.flatMap_congr fun c hc => ?_
      obtain ⟨e, he, hca, hform⟩ := h.exists_of_mem_listOf ha hd hc
      exact ih hca he (isScope_of_listFor?_namespaces hform)
    have hnil : ∀ list ∈ ["classes", "enums", "functions"],
        ((d.body.listOf list).flatMap (lib.walkFrom n)).filter (·.body.form.isScope) = [] := by
      intro list hl
      refine h.filter_listOf_eq_nil apart_isScope n ha hd fun child hform => ?_
      refine isScope_of_listFor? hform ?_
      rintro rfl
      simp at hl
    rw [filter_walkFrom_by_lists _ n hd, lists_of_isScope hf]
    simp only [List.flatMap_cons, List.flatMap_nil, List.append_nil, List.filter_cons, hf, if_true,
      List.filter_nil, hspaces, hnil "classes" (by simp), hnil "enums" (by simp),
      hnil "functions" (by simp), List.singleton_append, belowFrom, hd, Body.namespaces]

/-- The scopes of a hierarchy are those that the walk meets, in the order of the walk. -/
theorem namespaces_eq : lib.namespaces = lib.walk.filter (·.body.form.isScope) := by
  simp only [namespaces, walk, List.filter_flatMap]
  refine List.flatMap_congr fun u hu => ?_
  obtain ⟨d, hd, hf⟩ := h.unit_scope u hu
  exact (h.filter_isScope_walkFrom _ (attached_of_mem_units hu) hd hf).symm

/-- What is found on the lists of scopes below a scope is a scope that can be reached. -/
theorem exists_of_mem_belowFrom {n a : Nat} {d e : Decl} (ha : lib.Attached a)
    (hd : lib.decl? a = some d) (hf : d.body.form.isScope = true)
    (he : e ∈ lib.belowFrom Body.namespaces n a) :
    ∃ x, lib.Attached x ∧ lib.decl? x = some e ∧ e.body.form.isScope = true := by
  obtain ⟨k, x, hb, hx⟩ := exists_below_of_mem_belowFrom namespaces_subset_children he
  rw [← h.filter_isScope_walkFrom n ha hd hf] at he
  exact ⟨x, ha.below hb, hx, (List.mem_filter.1 he).2⟩

/-- What a walk meets from a scope on is what lies in the scopes below it, scope by scope. -/
theorem perm_walkFrom {n a : Nat} {d : Decl} (ha : lib.Attached a) (hd : lib.decl? a = some d)
    (hf : d.body.form.isScope = true) (hn : lib.Shallow n a) :
    (lib.walkFrom n a).Perm ((lib.belowFrom Body.namespaces n a).flatMap lib.scopeWalk) := by
  induction n generalizing a d with
  | zero => exact List.Perm.refl _
  | succ n ih =>
    have hlisted : ∀ {list c}, c ∈ d.body.listOf list → lib.Lists a c := fun hc =>
      ⟨d, hd, Body.mem_children_iff.2 ⟨_, Body.mem_lists_of_mem_listOf hc, hc⟩⟩
    have hspaces : ((d.body.listOf "namespaces").flatMap (lib.walkFrom n)).Perm
        ((d.body.listOf "namespaces").flatMap
          fun c => (lib.belowFrom Body.namespaces n c).flatMap lib.scopeWalk) := by
      refine List.Perm.flatMap_left _ fun c hc => ?_
      obtain ⟨e, he, hca, hform⟩ := h.exists_of_mem_listOf ha hd hc
      exact ih hca he (isScope_of_listFor?_namespaces hform) (hn.lists (hlisted hc))
    have hrest : (["classes", "enums", "functions"].flatMap fun list =>
        (d.body.listOf list).flatMap (lib.walkFrom n)) =
          ["classes", "enums", "functions"].flatMap fun list =>
            (d.body.listOf list).flatMap lib.subtree := by
      refine List.flatMap_congr fun list _ => List.flatMap_congr fun c hc => ?_
      obtain ⟨e, he, hca, -⟩ := h.exists_of_mem_listOf ha hd hc
      exact walkFrom_of_shallow (hn.lists (hlisted hc)) (h.shallow_created hca)
    -- the scopes inside a scope come before all else in it on one side and behind it on the other
    rw [walkFrom_by_lists n hd, lists_of_isScope hf, List.flatMap_cons, hrest]
    simp only [belowFrom, hd, List.flatMap_cons, List.flatMap_assoc, scopeWalk, List.cons_append]
    exact (List.perm_append_comm.trans ((List.Perm.refl _).append hspaces)).cons d

/-! ### Classes -/

/-- The classes that a walk meets from a class on are those on the lists of classes. -/
theorem filter_isRecord_of_record (n : Nat) {a : Nat} {d : Decl} (ha : lib.Attached a)
    (hd : lib.decl? a = some d) (hf : d.body.form = .record) :
    (lib.walkFrom n a).filter (·.body.isRecord) = lib.belowFrom Body.classes n a := by
  induction n generalizing a d with
  | zero => rfl
  | succ n ih =>
    have hself : d.body.isRecord = true := by
      cases hb : d.body <;> simp [hb, Body.form] at hf
      rfl
    have hclasses : ((d.body.listOf "classes").flatMap (lib.walkFrom n)).filter (·.body.isRecord) =
        (d.body.listOf "classes").flatMap (lib.belowFrom Body.classes n) := by
      rw [List.filter_flatMap]
      refine List.flatMap_congr fun c hc => ?_
      obtain ⟨e, he, hca, hform⟩ := h.exists_of_mem_listOf ha hd hc
      exact ih hca he (form_of_listFor?_classes hform)
    have hnil : ∀ list ∈ ["enums", "fields", "methods"],
        ((d.body.listOf list).flatMap (lib.walkFrom n)).filter (·.body.isRecord) = [] := by
      intro list hl
      refine h.filter_listOf_eq_nil apart_isRecord n ha hd fun child hform => ?_
      refine listFor?_record_of_listFor? hform ?_ ?_ <;> rintro rfl <;> simp at hl
    rw [filter_walkFrom_by_lists _ n hd, hf]
    simp only [Form.lists, List.flatMap_cons, List.flatMap_nil, List.append_nil, List.filter_cons,
      hself, if_true, List.filter_nil, hclasses, hnil "enums" (by simp), hnil "fields" (by simp),
      hnil "methods" (by simp), List.singleton_append, belowFrom, hd, Body.classes]

/-- The classes in a scope are those on its list of classes and those inside them. -/
theorem filter_isRecord_scopeWalk {a : Nat} {d : Decl} (ha : lib.Attached a)
    (hd : lib.decl? a = some d) (hf : d.body.form.isScope = true) :
    (lib.scopeWalk d).filter (·.body.isRecord) = lib.classesOf d := by
  have hself : d.body.isRecord = false := by
    cases hb : d.body <;> simp [hb, Body.form, Form.isScope] at hf <;> rfl
  have hclasses : ((d.body.listOf "classes").flatMap lib.subtree).filter (·.body.isRecord) =
      lib.classesOf d := by
    rw [List.filter_flatMap]
    refine List.flatMap_congr fun c hc => ?_
    obtain ⟨e, he, hca, hform⟩ := h.exists_of_mem_listOf ha hd hc
    exact h.filter_isRecord_of_record _ hca he (form_of_listFor?_classes hform)
  have hnil : ∀ list ∈ ["enums", "functions"],
      ((d.body.listOf list).flatMap lib.subtree).filter (·.body.isRecord) = [] := by
    intro list hl
    refine h.filter_listOf_eq_nil apart_isRecord _ ha hd fun child hform => ?_
    refine listFor?_record_of_listFor? hform ?_ ?_ <;> rintro rfl <;> simp at hl
  rw [filter_scopeWalk hself]
  simp only [List.flatMap_cons, List.flatMap_nil, List.append_nil, hclasses,
    hnil "enums" (by simp), hnil "functions" (by simp)]

/-- The classes that a walk meets from a scope on are those of the scopes below it. -/
theorem filter_isRecord_of_isScope {n a : Nat} {d : Decl} (ha : lib.Attached a)
    (hd : lib.decl? a = some d) (hf : d.body.form.isScope = true) (hn : lib.Shallow n a) :
    ((lib.walkFrom n a).filter (·.body.isRecord)).Perm
      ((lib.belowFrom Body.namespaces n a).flatMap lib.classesOf) := by
  have hclasses : ((lib.belowFrom Body.namespaces n a).flatMap lib.scopeWalk).filter
      (·.body.isRecord) = (lib.belowFrom Body.namespaces n a).flatMap lib.classesOf := by
    rw [List.filter_flatMap]
    refine List.flatMap_congr fun e he => ?_
    obtain ⟨x, hx, hex, hscope⟩ := h.exists_of_mem_belowFrom ha hd hf he
    exact h.filter_isRecord_scopeWalk hx hex hscope
  rw [← hclasses]
  exact (h.perm_walkFrom ha hd hf hn).filter _

/-- The classes of a hierarchy are those that the walk meets. -/
theorem classes_perm : lib.classes.Perm (lib.walk.filter (·.body.isRecord)) := by
  simp only [classes, namespaces, walk, List.filter_flatMap, List.flatMap_assoc]
  refine List.Perm.flatMap_left _ fun u hu => ?_
  obtain ⟨d, hd, hf⟩ := h.unit_scope u hu
  have ha := attached_of_mem_units hu
  exact (h.filter_isRecord_of_isScope ha hd hf (h.shallow_created ha)).symm

/-! ### Functions -/

/-- The functions in a scope are those on its list of functions. -/
theorem filter_isFunction_scopeWalk {a : Nat} {d : Decl} (ha : lib.Attached a)
    (hd : lib.decl? a = some d) (hf : d.body.form.isScope = true) :
    (lib.scopeWalk d).filter (·.body.isFunction) = d.body.functions.filterMap lib.decl? := by
  have hself : d.body.isFunction = false := by
    cases hb : d.body <;> simp [hb, Body.form, Form.isScope] at hf <;> rfl
  have hfunctions : ((d.body.listOf "functions").flatMap lib.subtree).filter (·.body.isFunction) =
      d.body.functions.filterMap lib.decl? := by
    rw [List.filter_flatMap, List.filterMap_eq_flatMap_toList]
    refine List.flatMap_congr fun c hc => ?_
    obtain ⟨e, he, hca, hform⟩ := h.exists_of_mem_listOf ha hd hc
    have hfunction := form_of_listFor?_functions hform
    have hwanted : e.body.isFunction = true := by
      cases hb : e.body <;> simp [hb, Body.form] at hfunction
      rfl
    obtain ⟨levels, hlevels⟩ := Nat.exists_eq_add_one_of_ne_zero
      (Nat.ne_of_gt (Nat.zero_lt_of_lt (h.lt_created_of_attached hca)))
    have hnil : ((e.body.listOf "parameters").flatMap (lib.walkFrom levels)).filter
        (·.body.isFunction) = [] := h.filter_listOf_eq_nil apart_isFunction levels hca he
      fun child hparameter =>
        ⟨isScope_of_listFor? hparameter (by decide), ne_function_of_listFor? hparameter (by decide)⟩
    unfold subtree
    rw [hlevels, filter_walkFrom_by_lists _ levels he, hfunction, he]
    simp only [Form.lists, List.flatMap_cons, List.flatMap_nil, List.append_nil, List.filter_cons,
      hwanted, if_true, List.filter_nil, hnil, Option.toList_some]
  have hnil : ∀ list ∈ ["classes", "enums"],
      ((d.body.listOf list).flatMap lib.subtree).filter (·.body.isFunction) = [] := by
    intro list hl
    refine h.filter_listOf_eq_nil apart_isFunction _ ha hd fun child hform =>
      ⟨isScope_of_listFor? hform ?_, ne_function_of_listFor? hform ?_⟩ <;>
      rintro rfl <;> simp at hl
  rw [filter_scopeWalk hself]
  simp only [List.flatMap_cons, List.flatMap_nil, List.append_nil, List.nil_append, hfunctions,
    hnil "classes" (by simp), hnil "enums" (by simp)]

/-- The functions of a hierarchy are those that the walk meets. -/
theorem functions_perm : lib.functions.Perm (lib.walk.filter (·.body.isFunction)) := by
  simp only [functions, namespaces, walk, List.filter_flatMap, List.flatMap_assoc]
  refine List.Perm.flatMap_left _ fun u hu => ?_
  obtain ⟨d, hd, hf⟩ := h.unit_scope u hu
  have ha := attached_of_mem_units hu
  have hperm := (h.perm_walkFrom ha hd hf (h.shallow_created ha)).filter (·.body.isFunction)
  rw [List.filter_flatMap] at hperm
  refine (hperm.trans (List.Perm.of_eq (List.flatMap_congr fun e he => ?_))).symm
  obtain ⟨x, hx, hex, hscope⟩ := h.exists_of_mem_belowFrom ha hd hf he
  exact h.filter_isFunction_scopeWalk hx hex hscope

end IsHierarchy

/-! ### Trees -/

namespace IsTree

variable (h : lib.IsTree)
include h

/-- A tree is a hierarchy. -/
theorem isHierarchy : lib.IsHierarchy where
  unit_scope unit hu := by
    obtain ⟨d, hd, hf⟩ := h.unit_form unit hu
    exact ⟨d, hd, by rw [hf]; rfl⟩
  listed p d list c ha hd hc := by
    have hmem : c ∈ d.body.children :=
      Body.mem_children_iff.2 ⟨list, Body.mem_lists_of_mem_listOf hc, hc⟩
    obtain ⟨e, he, -⟩ := h.decl_of_attached (ha.lists ⟨d, hd, hmem⟩)
    exact ⟨e, he, h.forms p d list c e ha hd hc he⟩
  acyclic _ _ ha := h.not_below_self ha

/-- The classes of a tree are those that the walk meets. -/
theorem classes_perm : lib.classes.Perm (lib.walk.filter (·.body.isRecord)) :=
  h.isHierarchy.classes_perm

/-- A class is found under its own number. -/
theorem attached_of_mem_classes {d : Decl} (hd : d ∈ lib.classes) :
    lib.Attached d.id ∧ lib.decl? d.id = some d :=
  h.decl?_of_mem_walk (List.mem_filter.1 (h.classes_perm.subset hd)).1

/-- A class is listed by something. -/
theorem exists_owner_of_mem_classes {d : Decl} (hd : d ∈ lib.classes) :
    ∃ p, lib.Attached p ∧ lib.Lists p d.id := by
  obtain ⟨hw, hrecord⟩ := List.mem_filter.1 (h.classes_perm.subset hd)
  obtain ⟨⟨u, hu, level, hb⟩, hd'⟩ := h.decl?_of_mem_walk hw
  cases hb with
  | self =>
    obtain ⟨e, he, hf⟩ := h.unit_form _ hu
    rw [hd'] at he
    cases he
    cases hbody : d.body <;> simp [hbody, Body.form, Body.isRecord, Body.record?] at hf hrecord
  | step hb hl => exact ⟨_, ⟨u, hu, _, hb⟩, hl⟩

end IsTree

end Bindery.Library
