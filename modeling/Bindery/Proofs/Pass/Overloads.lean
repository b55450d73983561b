import Bindery.Proofs.Declaration.Parents
import Bindery.Proofs.Pass.CleanNames
import Bindery.Proofs.Pass.ModuleNames

/-!
# Overloads with names of their own

The functions of a scope and the methods of a class are gone through in order, scope by scope. The
first one of a name keeps it, and a later one gets a number that nothing in the scope has, neither by
its old name nor by a new one. So the names of each list differ in the end, and where they differ
there is nothing to do. What is told apart in one scope lies in no other one, so that the scopes do
not disturb each other.
-/

namespace Bindery

open Bindery.Naming

/-- Whether overloads are told apart in a form. -/
def Form.hasOverloads : Form → Bool
  | .unit | .space | .record => true
  | _ => false

/-- The declarations of a scope or a class that are told apart. -/
def Body.overloads : Body → List Nat
  | .unit s _ | .space s => s.functions
  | .record r => r.methods
  | _ => []

theorem Body.overloads_sublist_children (b : Body) : b.overloads.Sublist b.children := by
  cases b with
  | unit | space | record => exact List.sublist_append_right ..
  | _ => exact List.nil_sublist _

/-- A list that ends with an element, told from any place in it. -/
theorem concat_eq_append_cons {α : Type} {p before after : List α} {a x : α}
    (h : p ++ [a] = before ++ x :: after) :
    (before = p ∧ x = a ∧ after = []) ∨ ∃ rest, p = before ++ x :: rest := by
  rcases List.eq_nil_or_concat after with rfl | ⟨rest, b, rfl⟩
  · obtain ⟨rfl, hlast⟩ := List.append_inj' h rfl
    exact .inl ⟨rfl, (List.cons.inj hlast).1.symm, rfl⟩
  · rw [List.concat_eq_append, ← List.cons_append, ← List.append_assoc] at h
    exact .inr ⟨rest, (List.append_inj' h rfl).1⟩

namespace Library

variable {lib cur out : Library} {children ids : List Nat}

/-- Some of what lies in a scope was told apart. -/
structure ToldApart (lib out : Library) (children ids : List Nat) : Prop where
  /-- The names differ. -/
  nodup : (ids.map out.nameOf).Nodup
  /-- All else stays as it is. -/
  others : ∀ x ∈ children, x ∉ ids → out.decl? x = lib.decl? x
  /-- What is told apart has another name at most. -/
  renamed : ∀ x ∈ ids, out.decl? x = (lib.decl? x).map (·.rename (out.nameOf x))
  /-- The first declaration of a name keeps it. -/
  first : ∀ before id after, ids = before ++ id :: after →
    lib.nameOf id ∉ before.map lib.nameOf → out.decl? id = lib.decl? id
  /-- A later one gets a number, and nothing in the scope had this name before. -/
  later : ∀ before id after, ids = before ++ id :: after →
    lib.nameOf id ∈ before.map lib.nameOf →
      (∃ n ≥ 1, out.nameOf id = numbered (lib.nameOf id) n) ∧
        out.nameOf id ∉ children.map lib.nameOf

namespace ToldApart

/-- What becomes of declarations elsewhere does not matter. -/
theorem congr {lib' : Library} (h : lib.ToldApart cur children ids) (hsub : ids ⊆ children)
    (hlib : ∀ x ∈ children, lib'.decl? x = lib.decl? x)
    (hout : ∀ x ∈ children, out.decl? x = cur.decl? x) : lib'.ToldApart out children ids := by
  have hold : ∀ l ⊆ children, l.map lib'.nameOf = l.map lib.nameOf := fun l hl =>
    List.map_congr_left fun x hx => nameOf_congr (hlib x (hl hx))
  have hnew : ∀ x ∈ children, out.nameOf x = cur.nameOf x := fun x hx => nameOf_congr (hout x hx)
  have hpart : ∀ {before id after}, ids = before ++ id :: after →
      id ∈ children ∧ before ⊆ children := by
    rintro before id after rfl
    exact ⟨hsub (List.mem_append_right _ (List.mem_cons_self ..)),
      fun x hx => hsub (List.mem_append_left _ hx)⟩
  refine ⟨?_, ?_, ?_, ?_, ?_⟩
  · rw [List.map_congr_left fun x hx => hnew x (hsub hx)]
    exact h.nodup
  · intro x hx hnone
    rw [hout x hx, hlib x hx, h.others x hx hnone]
  · intro x hx
    rw [hout x (hsub hx), hlib x (hsub hx), hnew x (hsub hx), ← h.renamed x hx]
  · intro before id after hsplit hnone
    obtain ⟨hid, hbefore⟩ := hpart hsplit
    rw [hold before hbefore, nameOf_congr (hlib id hid)] at hnone
    rw [hout id hid, hlib id hid, h.first before id after hsplit hnone]
  · intro before id after hsplit hmet
    obtain ⟨hid, hbefore⟩ := hpart hsplit
    rw [hold before hbefore, nameOf_congr (hlib id hid)] at hmet
    rw [hnew id hid, hold children (List.Subset.refl _), nameOf_congr (hlib id hid)]
    exact h.later before id after hsplit hmet

/-- Each declaration keeps its name or gets one that nothing in the scope had. -/
theorem kept_or_new (h : lib.ToldApart out children ids) {x : Nat} (hx : x ∈ ids) :
    out.nameOf x = lib.nameOf x ∨ out.nameOf x ∉ children.map lib.nameOf := by
  obtain ⟨before, after, hsplit⟩ := List.append_of_mem hx
  by_cases hmet : lib.nameOf x ∈ before.map lib.nameOf
  · exact .inr (h.later before x after hsplit hmet).2
  · exact .inl (nameOf_congr (h.first before x after hsplit hmet))

/-- A new name is that of nothing else in the scope. -/
theorem nameOf_ne (h : lib.ToldApart out children ids) {before after : List Nat} {id x : Nat}
    (hsplit : ids = before ++ id :: after) (hmet : lib.nameOf id ∈ before.map lib.nameOf)
    (hx : x ∈ children) (hne : x ≠ id) : out.nameOf x ≠ out.nameOf id := by
  have hid : id ∈ ids := hsplit ▸ List.mem_append_right _ (List.mem_cons_self ..)
  have hnew := (h.later before id after hsplit hmet).2
  by_cases hin : x ∈ ids
  · exact fun hsame => hne (List.inj_on_of_nodup_map h.nodup hin hid hsame)
  · rw [nameOf_congr (h.others x hx hin)]
    intro hsame
    exact hnew (hsame ▸ List.mem_map_of_mem hx)

end ToldApart

/-! ### One scope -/

/-- How far the declarations of a scope were told apart. -/
structure Telling (lib : Library) (children told : List Nat) (o : Overloads) : Prop where
  /-- They were told apart. -/
  apart : lib.ToldApart o.library children told
  /-- Nothing else was changed. -/
  outside : ∀ x ∉ told, o.library.decl? x = lib.decl? x
  /-- Their old names were met. -/
  met : ∀ name, o.met.count name = (told.map lib.nameOf).count name
  /-- All old names of the scope are taken. -/
  taken_old : ∀ x ∈ children, lib.nameOf x ∈ o.taken
  /-- So are the new ones. -/
  taken_new : ∀ x ∈ told, o.library.nameOf x ∈ o.taken

theorem telling_nil {taken : List String} (h : ∀ x ∈ children, lib.nameOf x ∈ taken) :
    lib.Telling children [] ⟨lib, taken, []⟩ where
  apart := by
    refine ⟨.nil, fun _ _ _ => rfl, fun _ hx => absurd hx List.not_mem_nil, ?_, ?_⟩ <;>
    · intro before id after hsplit
      simp at hsplit
  outside := fun _ _ => rfl
  met := fun _ => rfl
  taken_old := h
  taken_new := fun _ hx => absurd hx List.not_mem_nil

namespace Telling

variable {told : List Nat} {o : Overloads} {id : Nat} {d : Decl}
  (h : lib.Telling children told o) (hsub : told ⊆ children) (hid : id ∈ children)
  (hnew : id ∉ told) (hd : lib.decl? id = some d)
include h hsub hid hnew hd

omit hsub in
/-- The first declaration of a name. -/
theorem step_first (hfirst : lib.nameOf id ∉ told.map lib.nameOf) :
    lib.Telling children (told ++ [id]) (o.step id) := by
  have hname := nameOf_of_decl? hd
  have hcur : o.library.decl? id = some d := (h.outside id hnew).trans hd
  have hstep : o.step id = { o with met := d.name :: o.met } := by
    unfold Overloads.step
    rw [hcur]
    dsimp only
    rw [if_pos (by rw [h.met, ← hname]; exact List.count_eq_zero.2 hfirst)]
  rw [hstep]
  have hstill : o.library.nameOf id = lib.nameOf id := nameOf_congr (h.outside id hnew)
  refine ⟨⟨?_, ?_, ?_, ?_, ?_⟩, ?_, ?_, h.taken_old, ?_⟩
  · -- another one has this name neither from before nor by now
    rw [List.map_append, List.map_singleton, List.nodup_append]
    refine ⟨h.apart.nodup, List.nodup_singleton _, ?_⟩
    rintro _ hx _ hy rfl
    obtain ⟨x, hx, heq⟩ := List.mem_map.1 hx
    rw [List.mem_singleton.1 hy, hstill] at heq
    rcases h.apart.kept_or_new hx with hkept | hfresh
    · exact hfirst (heq ▸ hkept ▸ List.mem_map_of_mem hx)
    · exact hfresh (heq ▸ List.mem_map_of_mem hid)
  · exact fun x hx hout => h.apart.others x hx fun hin => hout (List.mem_append_left _ hin)
  · intro x hx
    rcases List.mem_append.1 hx with hx | hx
    · exact h.apart.renamed x hx
    · rw [List.mem_singleton.1 hx, hstill, hcur, hd, hname]
      simp [Decl.rename]
  · intro before x after hsplit hnone
    rcases concat_eq_append_cons hsplit with ⟨rfl, rfl, -⟩ | ⟨rest, hrest⟩
    · exact h.outside x hnew
    · exact h.apart.first before x rest hrest hnone
  · intro before x after hsplit hmet
    rcases concat_eq_append_cons hsplit with ⟨rfl, rfl, -⟩ | ⟨rest, hrest⟩
    · exact absurd hmet hfirst
    · exact h.apart.later before x rest hrest hmet
  · exact fun x hx => h.outside x fun hin => hx (List.mem_append_left _ hin)
  · intro name
    rw [List.map_append, List.map_singleton, List.count_append, List.count_cons, h.met, hname,
      List.count_singleton]
  · intro x hx
    rcases List.mem_append.1 hx with hx | hx
    · exact h.taken_new x hx
    · rw [List.mem_singleton.1 hx, hstill]
      exact h.taken_old id hid

/-- A later declaration of a name. -/
theorem step_later (hmet : lib.nameOf id ∈ told.map lib.nameOf) :
    lib.Telling children (told ++ [id]) (o.step id) := by
  have hname := nameOf_of_decl? hd
  have hcur : o.library.decl? id = some d := (h.outside id hnew).trans hd
  have hcount : o.met.count d.name ≠ 0 := by
    rw [h.met, ← hname]
    exact fun hzero => List.count_eq_zero.1 hzero hmet
  obtain ⟨n, hn, hfound⟩ :=
    exists_firstFree_eq_numbered o.taken d.name o.taken.length (o.met.count d.name)
  have hfree := firstFree_not_mem o.taken d.name (o.met.count d.name)
  rw [hfound] at hfree
  have hstep : o.step id = ⟨o.library.update id (·.rename (numbered d.name n)),
      numbered d.name n :: o.taken, d.name :: o.met⟩ := by
    unfold Overloads.step
    rw [hcur]
    dsimp only
    rw [if_neg hcount, hfound]
  rw [hstep]
  clear hstep
  set out := o.library.update id (·.rename (numbered d.name n)) with hout
  have hself : out.nameOf id = numbered d.name n := nameOf_rename hcur _
  have helse : ∀ x ≠ id, out.decl? x = o.library.decl? x := fun x hx => by
    rw [hout, decl?_update, if_neg hx.symm]
  have hne : ∀ x ∈ told, x ≠ id := fun x hx heq => hnew (heq ▸ hx)
  have hstill : ∀ x ∈ told, out.nameOf x = o.library.nameOf x := fun x hx =>
    nameOf_congr (helse x (hne x hx))
  refine ⟨⟨?_, ?_, ?_, ?_, ?_⟩, ?_, ?_, ?_, ?_⟩
  · rw [List.map_append, List.map_singleton, List.map_congr_left hstill, hself, List.nodup_append]
    refine ⟨h.apart.nodup, List.nodup_singleton _, ?_⟩
    rintro _ hx _ hy rfl
    obtain ⟨x, hx, heq⟩ := List.mem_map.1 hx
    exact hfree (List.mem_singleton.1 hy ▸ heq ▸ h.taken_new x hx)
  · intro x hx hnone
    have hxid : x ≠ id := fun heq => hnone (heq ▸ List.mem_append_right _ (List.mem_singleton.2 rfl))
    rw [helse x hxid]
    exact h.apart.others x hx fun hin => hnone (List.mem_append_left _ hin)
  · intro x hx
    rcases List.mem_append.1 hx with hx | hx
    · rw [helse x (hne x hx), hstill x hx]
      exact h.apart.renamed x hx
    · rw [List.mem_singleton.1 hx, hself, hd, hout, decl?_update, if_pos rfl, hcur]
  · intro before x after hsplit hnone
    rcases concat_eq_append_cons hsplit with ⟨rfl, rfl, -⟩ | ⟨rest, hrest⟩
    · exact absurd hmet hnone
    · have hx : x ∈ told := hrest ▸ List.mem_append_right _ (List.mem_cons_self ..)
      rw [helse x (hne x hx)]
      exact h.apart.first before x rest hrest hnone
  · intro before x after hsplit hagain
    rcases concat_eq_append_cons hsplit with ⟨rfl, rfl, -⟩ | ⟨rest, hrest⟩
    · rw [hself, hname]
      refine ⟨⟨n, by omega, rfl⟩, fun hin => ?_⟩
      obtain ⟨y, hy, heq⟩ := List.mem_map.1 hin
      exact hfree (heq ▸ h.taken_old y hy)
    · have hx : x ∈ told := hrest ▸ List.mem_append_right _ (List.mem_cons_self ..)
      rw [hstill x hx]
      exact h.apart.later before x rest hrest hagain
  · intro x hx
    have hxid : x ≠ id := fun heq => hx (heq ▸ List.mem_append_right _ (List.mem_singleton.2 rfl))
    rw [helse x hxid]
    exact h.outside x fun hin => hx (List.mem_append_left _ hin)
  · intro name
    rw [List.map_append, List.map_singleton, List.count_append, List.count_cons, h.met, hname,
      List.count_singleton]
  · exact fun x hx => List.mem_cons_of_mem _ (h.taken_old x hx)
  · intro x hx
    rcases List.mem_append.1 hx with hx | hx
    · rw [hstill x hx]
      exact List.mem_cons_of_mem _ (h.taken_new x hx)
    · rw [List.mem_singleton.1 hx, hself]
      exact List.mem_cons_self ..

/-- One declaration more. -/
theorem step : lib.Telling children (told ++ [id]) (o.step id) := by
  by_cases hmet : lib.nameOf id ∈ told.map lib.nameOf
  · exact h.step_later hsub hid hnew hd hmet
  · exact h.step_first hid hnew hd hmet

end Telling

/-- The declarations of a list in a scope are told apart. -/
theorem telling_separate {scope : Decl} (hids : ids.Nodup) (hsub : ids ⊆ scope.body.children)
    (hdecl : ∀ x ∈ scope.body.children, ∃ d, lib.decl? x = some d) :
    lib.ToldApart (lib.separate scope ids) scope.body.children ids ∧
      ∀ x ∉ ids, (lib.separate scope ids).decl? x = lib.decl? x := by
  have htaken : ∀ x ∈ scope.body.children, lib.nameOf x ∈ (lib.childrenOf scope).map (·.name) := by
    intro x hx
    obtain ⟨d, hd⟩ := hdecl x hx
    rw [nameOf_of_decl? hd]
    exact List.mem_map_of_mem (List.mem_filterMap.2 ⟨x, hx, hd⟩)
  have hfold : ∀ told rest o, ids = told ++ rest → lib.Telling scope.body.children told o →
      lib.Telling scope.body.children ids (rest.foldl Overloads.step o) := by
    intro told rest
    induction rest generalizing told with
    | nil =>
      intro o hsplit ho
      rw [List.append_nil] at hsplit
      exact hsplit ▸ ho
    | cons id rest ih =>
      intro o hsplit ho
      have hid : id ∈ ids := hsplit ▸ List.mem_append_right _ (List.mem_cons_self ..)
      obtain ⟨d, hd⟩ := hdecl id (hsub hid)
      have hnew : id ∉ told := by
        intro hin
        rw [hsplit, List.nodup_append] at hids
        exact hids.2.2 id hin id (List.mem_cons_self ..) rfl
      refine ih (told ++ [id]) _ (by rw [hsplit, List.append_assoc]; rfl)
        (ho.step (fun x hx => hsub (hsplit ▸ List.mem_append_left _ hx)) (hsub hid) hnew hd)
  have hdone := hfold [] ids _ rfl (telling_nil htaken)
  exact ⟨hdone.apart, hdone.outside⟩

/-- Where the names of a list differ there is nothing to tell apart. -/
theorem separate_of_nodup {scope : Decl} (hnames : (ids.map lib.nameOf).Nodup) :
    lib.separate scope ids = lib := by
  have hfold : ∀ (rest : List Nat) (taken met : List String), (rest.map lib.nameOf).Nodup →
      (∀ x ∈ rest, lib.nameOf x ∉ met) →
        (rest.foldl Overloads.step ⟨lib, taken, met⟩).library = lib := by
    intro rest
    induction rest with
    | nil => exact fun _ _ _ _ => rfl
    | cons id rest ih =>
      intro taken met hnodup hmet
      obtain ⟨hnew, hnodup⟩ := List.nodup_cons.1 hnodup
      have hrest : ∀ x ∈ rest, lib.nameOf x ∉ met := fun x hx =>
        hmet x (List.mem_cons_of_mem _ hx)
      rw [List.foldl_cons]
      cases hd : lib.decl? id with
      | none =>
        have hstep : Overloads.step ⟨lib, taken, met⟩ id = ⟨lib, taken, met⟩ := by
          simp only [Overloads.step, hd]
        rw [hstep]
        exact ih taken met hnodup hrest
      | some d =>
        have hname := nameOf_of_decl? hd
        have hzero : met.count d.name = 0 :=
          List.count_eq_zero.2 (hname ▸ hmet id (List.mem_cons_self ..))
        have hstep : Overloads.step ⟨lib, taken, met⟩ id = ⟨lib, taken, d.name :: met⟩ := by
          simp only [Overloads.step, hd, hzero, if_true]
        rw [hstep]
        refine ih taken _ hnodup fun x hx hin => ?_
        rcases List.mem_cons.1 hin with heq | hin
        · exact hnew (hname ▸ heq ▸ List.mem_map_of_mem hx)
        · exact hrest x hx hin
  exact hfold ids _ [] hnames fun _ _ => List.not_mem_nil

theorem separateIn_eq {a : Nat} {d : Decl} (hd : lib.decl? a = some d) :
    lib.separateIn a = lib.separate d d.body.overloads := by
  unfold separateIn
  rw [hd]
  cases hb : d.body <;> simp only [hb] <;> rfl

/-! ### All scopes -/

/-- The scopes and classes below a declaration, those of one level more. -/
theorem overloadScopes_succ (n : Nat) {a : Nat} {d : Decl} (hd : lib.decl? a = some d) :
    lib.overloadScopes (n + 1) a =
      if d.body.form.hasOverloads then
        a :: (d.body.namespaces ++ d.body.classes).flatMap (lib.overloadScopes n)
      else [] := by
  unfold overloadScopes
  rw [hd]
  cases hb : d.body <;>
    simp [hb, Body.form, Form.hasOverloads, Body.namespaces, Body.classes, Body.listOf]

/-- The same scopes are gone through under other names. -/
theorem RenamedTo.overloadScopes (h : lib.RenamedTo out) (n a : Nat) :
    out.overloadScopes n a = lib.overloadScopes n a := by
  induction n generalizing a with
  | zero => rfl
  | succ n ih =>
    have hdecl := h.slots.decl? a
    cases hd : lib.decl? a with
    | none =>
      rw [hd] at hdecl
      cases he : out.decl? a with
      | none => simp [Library.overloadScopes, hd, he]
      | some e => rw [he] at hdecl; cases hdecl
    | some d =>
      obtain ⟨e, he, hde⟩ := h.slots.exists_of_decl? hd
      rw [overloadScopes_succ n hd, overloadScopes_succ n he, hde.body, funext ih]

/-- What is gone through lies below the declaration that is begun with. -/
theorem exists_below_of_mem_overloadScopes {n a x : Nat} (hx : x ∈ lib.overloadScopes n a) :
    ∃ k, lib.Below a k x := by
  induction n generalizing a with
  | zero => cases hx
  | succ n ih =>
    cases hd : lib.decl? a with
    | none => simp [Library.overloadScopes, hd] at hx
    | some d =>
      rw [overloadScopes_succ n hd] at hx
      split_ifs at hx
      · rcases List.mem_cons.1 hx with rfl | hx
        · exact ⟨0, .self⟩
        · obtain ⟨c, hc, hx⟩ := List.mem_flatMap.1 hx
          obtain ⟨k, hb⟩ := ih hx
          have hl : lib.Lists a c := ⟨d, hd, by
            rcases List.mem_append.1 hc with hc | hc
            · exact namespaces_subset_children _ hc
            · exact classes_subset_children _ hc⟩
          exact ⟨k + 1, below_succ_iff.2 ⟨c, hl, hb⟩⟩
      · cases hx

/-- Scopes and classes stand on the lists for scopes and classes of scopes and classes. -/
theorem IsTree.mem_nested (h : lib.IsTree) {a c : Nat} {d e : Decl} (ha : lib.Attached a)
    (hd : lib.decl? a = some d) (hc : c ∈ d.body.children) (he : lib.decl? c = some e)
    (hform : e.body.form.hasOverloads = true) :
    d.body.form.hasOverloads = true ∧ c ∈ d.body.namespaces ++ d.body.classes := by
  obtain ⟨list, hlist, hc⟩ := Body.mem_children_iff.1 hc
  have hfor := h.forms a d list c e ha hd hc he
  have hnamed : d.body.form.hasOverloads = true ∧ (list = "namespaces" ∨ list = "classes") := by
    revert hfor hform
    cases d.body.form <;> cases e.body.form <;> simp [Form.listFor?, Form.hasOverloads] <;>
      rintro rfl <;> simp
  refine ⟨hnamed.1, List.mem_append.2 ?_⟩
  rcases hnamed.2 with rfl | rfl
  · exact .inl hc
  · exact .inr hc

/-- Every scope and every class below a declaration is gone through. -/
theorem IsTree.mem_overloadScopes (h : lib.IsTree) {n a k x : Nat} {e : Decl}
    (ha : lib.Attached a) (hk : k < n) (hb : lib.Below a k x) (he : lib.decl? x = some e)
    (hform : e.body.form.hasOverloads = true) : x ∈ lib.overloadScopes n a := by
  -- everything above a scope or a class is one
  have habove : ∀ {k a d}, lib.Attached a → lib.Below a k x → lib.decl? a = some d →
      d.body.form.hasOverloads = true := by
    intro k
    induction k with
    | zero =>
      intro a d _ hb hd
      rw [below_zero_iff] at hb
      subst hb
      rw [he] at hd
      exact Option.some.inj hd ▸ hform
    | succ k ih =>
      intro a d ha hb hd
      obtain ⟨c, ⟨d', hd', hc⟩, hb⟩ := below_succ_iff.1 hb
      rw [hd] at hd'
      cases hd'
      have hca := ha.lists ⟨d, hd, hc⟩
      obtain ⟨e', he', -⟩ := h.decl_of_attached hca
      exact (h.mem_nested ha hd hc he' (ih hca hb he')).1
  induction n generalizing a k with
  | zero => omega
  | succ n ih =>
    obtain ⟨d, hd, -⟩ := h.decl_of_attached ha
    rw [overloadScopes_succ n hd, if_pos (habove ha hb hd)]
    cases k with
    | zero =>
      rw [below_zero_iff] at hb
      exact hb ▸ List.mem_cons_self ..
    | succ k =>
      obtain ⟨c, ⟨d', hd', hc⟩, hb⟩ := below_succ_iff.1 hb
      rw [hd] at hd'
      cases hd'
      have hca := ha.lists ⟨d, hd, hc⟩
      obtain ⟨e', he', -⟩ := h.decl_of_attached hca
      have hnested := (h.mem_nested ha hd hc he' (habove hca hb he')).2
      exact List.mem_cons_of_mem _
        (List.mem_flatMap.2 ⟨c, hnested, ih hca (by omega) hb⟩)

/-- How far the overloads of a library were told apart. -/
structure Separating (lib cur : Library) : Prop where
  /-- Only names were changed. -/
  renamedTo : lib.RenamedTo cur
  /-- In each scope nothing was done yet, or all. -/
  scopes : ∀ a d, lib.Attached a → lib.decl? a = some d →
    (∀ x ∈ d.body.children, cur.decl? x = lib.decl? x) ∨
      lib.ToldApart cur d.body.children d.body.overloads
  /-- What is no overload stays as it is. -/
  rest : ∀ x, (∀ a d, lib.Attached a → lib.decl? a = some d → x ∉ d.body.overloads) →
    cur.decl? x = lib.decl? x

theorem separating_refl (lib : Library) : lib.Separating lib :=
  ⟨.refl lib, fun _ _ _ _ => .inl fun _ _ => rfl, fun _ _ => rfl⟩

/-- Telling one scope more apart, where those that are told apart stay so. -/
theorem Separating.separateIn (h : lib.IsTree) (hs : lib.Separating cur) {b : Nat} {d : Decl}
    (hb : lib.Attached b) (hd : lib.decl? b = some d) :
    lib.Separating (cur.separateIn b) ∧
      lib.ToldApart (cur.separateIn b) d.body.children d.body.overloads ∧
      ∀ a c, lib.Attached a → lib.decl? a = some c →
        lib.ToldApart cur c.body.children c.body.overloads →
          lib.ToldApart (cur.separateIn b) c.body.children c.body.overloads := by
  obtain ⟨e, he, hde⟩ := hs.renamedTo.slots.exists_of_decl? hd
  have hsub := d.body.overloads_sublist_children
  -- this scope is told apart, and nothing but its overloads is changed
  obtain ⟨hmade, helse⟩ : lib.ToldApart (cur.separateIn b) d.body.children d.body.overloads ∧
      ∀ x ∉ d.body.overloads, (cur.separateIn b).decl? x = cur.decl? x := by
    rw [separateIn_eq he, hde.body]
    rcases hs.scopes b d hb hd with hnone | hdone
    · have hdecl : ∀ x ∈ e.body.children, ∃ c, cur.decl? x = some c := by
        intro x hx
        rw [hde.body] at hx
        obtain ⟨c, hc, -⟩ := h.decl_of_attached (hb.lists ⟨d, hd, hx⟩)
        exact ⟨c, (hnone x hx).trans hc⟩
      have hnodup : d.body.overloads.Nodup := (h.children_nodup b d hb hd).sublist hsub
      have hin : d.body.overloads ⊆ e.body.children := hde.body ▸ hsub.subset
      obtain ⟨hapart, hrest⟩ := telling_separate hnodup hin hdecl
      rw [hde.body] at hapart
      exact ⟨hapart.congr hsub.subset (fun x hx => (hnone x hx).symm) fun _ _ => rfl, hrest⟩
    · rw [separate_of_nodup hdone.nodup]
      exact ⟨hdone, fun _ _ => rfl⟩
  have hapart : ∀ a c, lib.Attached a → lib.decl? a = some c → a ≠ b →
      ∀ x ∈ c.body.children, (cur.separateIn b).decl? x = cur.decl? x := by
    intro a c ha hc hab x hx
    refine helse x fun hin => hab ?_
    exact h.one_owner a b x ha hb ⟨c, hc, hx⟩ ⟨d, hd, hsub.subset hin⟩
  have hkept : ∀ a c, lib.Attached a → lib.decl? a = some c →
      lib.ToldApart cur c.body.children c.body.overloads →
        lib.ToldApart (cur.separateIn b) c.body.children c.body.overloads := by
    intro a c ha hc hdone
    by_cases hab : a = b
    · subst hab
      rw [hd] at hc
      exact Option.some.inj hc ▸ hmade
    · exact hdone.congr c.body.overloads_sublist_children.subset (fun _ _ => rfl)
        (hapart a c ha hc hab)
  refine ⟨⟨hs.renamedTo.trans (renamedTo_separateIn cur b), ?_, ?_⟩, hmade, hkept⟩
  · intro a c ha hc
    by_cases hab : a = b
    · subst hab
      rw [hd] at hc
      exact .inr (Option.some.inj hc ▸ hmade)
    · rcases hs.scopes a c ha hc with hnone | hdone
      · exact .inl fun x hx => (hapart a c ha hc hab x hx).trans (hnone x hx)
      · exact .inr (hkept a c ha hc hdone)
  · intro x hx
    rw [helse x (hx b d hb hd), hs.rest x hx]

/-- Telling some scopes apart, one after the other. -/
theorem Separating.foldl (h : lib.IsTree) {l : List Nat} (hl : ∀ a ∈ l, lib.Attached a)
    (hs : lib.Separating cur) : lib.Separating (l.foldl Library.separateIn cur) ∧
      ∀ a d, lib.Attached a → lib.decl? a = some d →
        (a ∈ l ∨ lib.ToldApart cur d.body.children d.body.overloads) →
          lib.ToldApart (l.foldl Library.separateIn cur) d.body.children d.body.overloads := by
  induction l generalizing cur with
  | nil => exact ⟨hs, fun a d _ _ hdone => hdone.resolve_left List.not_mem_nil⟩
  | cons b l ih =>
    have hb := hl b (List.mem_cons_self ..)
    obtain ⟨e, he, -⟩ := h.decl_of_attached hb
    obtain ⟨hnext, hmade, hkept⟩ := hs.separateIn h hb he
    obtain ⟨hend, hall⟩ := ih (fun a ha => hl a (List.mem_cons_of_mem _ ha)) hnext
    refine ⟨hend, fun a d ha hd hdone => hall a d ha hd ?_⟩
    rcases hdone with hin | hdone
    · rcases List.mem_cons.1 hin with rfl | hin
      · rw [he] at hd
        exact .inr (Option.some.inj hd ▸ hmade)
      · exact .inl hin
    · exact .inr (hkept a d ha hd hdone)

/-- The scopes and classes whose overloads are told apart. -/
def scopesInside (lib : Library) : List Nat :=
  lib.units.flatMap (lib.overloadScopes lib.created)

/-- A library whose overloads are all told apart. -/
def separated (lib : Library) : Library :=
  lib.scopesInside.foldl separateIn lib

/-- The overloads of all units are told apart in the order of the scopes. -/
theorem foldl_separateBelow (lib : Library) :
    lib.units.foldl separateBelow lib = lib.separated := by
  have hfold : ∀ (units : List Nat) (cur : Library), lib.RenamedTo cur →
      units.foldl separateBelow cur =
        (units.flatMap (lib.overloadScopes lib.created)).foldl separateIn cur := by
    intro units
    induction units with
    | nil => exact fun _ _ => rfl
    | cons u units ih =>
      intro cur hcur
      rw [List.foldl_cons, List.flatMap_cons, List.foldl_append,
        ih _ (hcur.trans (renamedTo_separateBelow cur u))]
      unfold separateBelow
      rw [hcur.overloadScopes, hcur.slots.created]
  exact hfold lib.units lib (.refl lib)

/-- All overloads of a tree are told apart. -/
theorem IsTree.separating_separated (h : lib.IsTree) : lib.Separating lib.separated ∧
    ∀ a d, lib.Attached a → lib.decl? a = some d →
      lib.ToldApart lib.separated d.body.children d.body.overloads := by
  have hattached : ∀ a ∈ lib.scopesInside, lib.Attached a := by
    intro a ha
    obtain ⟨u, hu, ha⟩ := List.mem_flatMap.1 ha
    obtain ⟨k, hb⟩ := exists_below_of_mem_overloadScopes ha
    exact ⟨u, hu, k, hb⟩
  obtain ⟨hend, hall⟩ := Separating.foldl h hattached (separating_refl lib)
  refine ⟨hend, fun a d ha hd => hall a d ha hd ?_⟩
  by_cases hform : d.body.form.hasOverloads = true
  · obtain ⟨u, hu, k, hb⟩ := ha
    exact .inl (List.mem_flatMap.2 ⟨u, hu, h.mem_overloadScopes (attached_of_mem_units hu)
      (h.level_lt_created hu hb) hb hd hform⟩)
  · -- elsewhere there are no overloads
    have hnone : d.body.overloads = [] := by
      cases hbody : d.body <;> simp [hbody, Body.form, Form.hasOverloads] at hform <;> rfl
    rw [hnone]
    refine .inr ⟨.nil, fun _ _ _ => rfl, fun _ hx => absurd hx List.not_mem_nil, ?_, ?_⟩ <;>
    · intro before id after hsplit
      simp at hsplit

/-- Where all overloads have names of their own nothing is done. -/
theorem separated_of_nodup (h : ∀ a d, lib.decl? a = some d → lib.Attached a →
    (d.body.overloads.map lib.nameOf).Nodup) : lib.separated = lib := by
  have hstay : ∀ a, lib.Attached a → lib.separateIn a = lib := by
    intro a ha
    cases hd : lib.decl? a with
    | none =>
      unfold separateIn
      rw [hd]
    | some d => rw [separateIn_eq hd, separate_of_nodup (h a d hd ha)]
  have hfold : ∀ l : List Nat, (∀ a ∈ l, lib.Attached a) → l.foldl separateIn lib = lib := by
    intro l
    induction l with
    | nil => exact fun _ => rfl
    | cons a l ih =>
      intro hl
      rw [List.foldl_cons, hstay a (hl a (List.mem_cons_self ..))]
      exact ih fun b hb => hl b (List.mem_cons_of_mem _ hb)
  refine hfold _ fun a ha => ?_
  obtain ⟨u, hu, ha⟩ := List.mem_flatMap.1 ha
  obtain ⟨k, hb⟩ := exists_below_of_mem_overloadScopes ha
  exact ⟨u, hu, k, hb⟩

end Library

namespace PassM

/-- Telling overloads apart is done scope by scope. -/
theorem outcomeOf_separateOverloads_eq (s : PassState Library) :
    outcomeOf separateOverloads s = (.ok (), { s with library := s.library.separated }) := by
  have hforM : ∀ (units : List Nat) (s : PassState Library),
      outcomeOf (units.forM fun id => edit (modify (·.separateBelow id))) s =
        (.ok (), { s with library := units.foldl Library.separateBelow s.library }) := by
    intro units
    induction units with
    | nil => exact fun _ => rfl
    | cons u units ih =>
      intro s
      have hfirst : outcomeOf (edit (modify (·.separateBelow u))) s =
          (.ok (), { s with library := s.library.separateBelow u }) := by
        rw [outcomeOf_edit, outcomeOf_modify]
        rfl
      rw [outcomeOf_forM_cons, outcomeOf_bind_ok hfirst, ih]
      rfl
  unfold separateOverloads
  rw [outcomeOf_bind_ok (outcomeOf_get s), hforM, Library.foldl_separateBelow]

/-- Telling overloads apart leaves the functions of each scope and the methods of each class with
names that differ: the first of a name keeps it, a later one gets a number with which it differs from
all in the scope, and nothing else is changed. Done again, it changes nothing. -/
theorem separateOverloads_toldApart {s : PassState Library} (h : s.library.IsTree) :
    ∃ t, outcomeOf separateOverloads s = (.ok (), t) ∧
      (∀ a d, s.library.Attached a → s.library.decl? a = some d →
        (d.body.overloads.map t.library.nameOf).Nodup ∧
        ∀ before id after, d.body.overloads = before ++ id :: after →
          (s.library.nameOf id ∉ before.map s.library.nameOf →
            t.library.decl? id = s.library.decl? id) ∧
          (s.library.nameOf id ∈ before.map s.library.nameOf →
            t.library.decl? id = (s.library.decl? id).map (·.rename (t.library.nameOf id)) ∧
            (∃ n ≥ 1, t.library.nameOf id = numbered (s.library.nameOf id) n) ∧
            ∀ x ∈ d.body.children, x ≠ id → t.library.nameOf x ≠ t.library.nameOf id)) ∧
      (∀ x, (∀ a d, s.library.Attached a → s.library.decl? a = some d → x ∉ d.body.overloads) →
        t.library.decl? x = s.library.decl? x) ∧
      outcomeOf separateOverloads t = (.ok (), t) := by
  obtain ⟨hend, hall⟩ := h.separating_separated
  refine ⟨_, outcomeOf_separateOverloads_eq s, fun a d ha hd => ?_, hend.rest, ?_⟩
  · have hapart := hall a d ha hd
    refine ⟨hapart.nodup, fun before id after hsplit =>
      ⟨hapart.first before id after hsplit, fun hmet => ?_⟩⟩
    have hid : id ∈ d.body.overloads := hsplit ▸ List.mem_append_right _ (List.mem_cons_self ..)
    exact ⟨hapart.renamed id hid, (hapart.later before id after hsplit hmet).1,
      fun x hx hne => hapart.nameOf_ne hsplit hmet hx hne⟩
  · rw [outcomeOf_separateOverloads_eq]
    have hstay : s.library.separated.separated = s.library.separated := by
      refine Library.separated_of_nodup fun a e he ha => ?_
      obtain ⟨d, hd, hde⟩ := hend.renamedTo.slots.exists_of_decl?_out he
      rw [hde.body]
      exact (hall a d (hend.renamedTo.attached_iff.1 ha) hd).nodup
    simp only [hstay]

/-- A unit with three functions of one name, a function that has this name with a number, and a class
that has it with another number. -/
def drawings : Library :=
  ⟨.text "", .text "", [0],
    [⟨{ Decl.blank 0 none (.unit ⟨[], [5], [], [1, 2, 3, 4]⟩ "a.h") with name := "a.h" }, true⟩,
      ⟨{ Decl.blank 1 (some 0) (.blank .function) with name := "draw" }, true⟩,
      ⟨{ Decl.blank 2 (some 0) (.blank .function) with name := "draw" }, true⟩,
      ⟨{ Decl.blank 3 (some 0) (.blank .function) with name := "draw" }, true⟩,
      ⟨{ Decl.blank 4 (some 0) (.blank .function) with name := "draw_1" }, true⟩,
      ⟨{ Decl.blank 5 (some 0) (.blank .record) with name := "draw_2" }, true⟩]⟩

theorem separateOverloads_drawings :
    ∃ t, outcomeOf separateOverloads ⟨drawings, [], .empty⟩ = (.ok (), t) ∧
      ([1, 2, 3, 4].map t.library.nameOf).Nodup ∧
      (∀ id ∈ [1, 4], t.library.nameOf id = drawings.nameOf id) ∧
      ∀ id ∈ [2, 3], (∃ n ≥ 1, t.library.nameOf id = numbered "draw" n) ∧
        t.library.nameOf 5 ≠ t.library.nameOf id := by
  obtain ⟨htree, -⟩ := Library.isTree_of_isRegular (by decide +kernel : drawings.isRegular = true)
  obtain ⟨t, ht, hall, -, -⟩ := separateOverloads_toldApart (s := ⟨drawings, [], .empty⟩) htree
  obtain ⟨hnodup, hsplit⟩ := hall 0 _ (Library.attached_of_mem_units (List.mem_singleton.2 rfl)) rfl
  have hfirst := fun before id after heq hnew =>
    Library.nameOf_congr ((hsplit before id after heq).1 hnew)
  have hlater := fun before id after heq hmet => ((hsplit before id after heq).2 hmet).2
  refine ⟨t, ht, hnodup, ?_, ?_⟩
  · simp only [List.mem_cons, List.not_mem_nil, or_false, forall_eq_or_imp, forall_eq]
    exact ⟨hfirst [] 1 [2, 3, 4] rfl (by decide +kernel),
      hfirst [1, 2, 3] 4 [] rfl (by decide +kernel)⟩
  · simp only [List.mem_cons, List.not_mem_nil, or_false, forall_eq_or_imp, forall_eq]
    have hsecond := hlater [1] 2 [3, 4] rfl (by decide +kernel)
    have hthird := hlater [1, 2] 3 [4] rfl (by decide +kernel)
    exact ⟨⟨hsecond.1, hsecond.2 5 (by decide) (by decide)⟩,
      ⟨hthird.1, hthird.2 5 (by decide) (by decide)⟩⟩

end PassM

end Bindery
