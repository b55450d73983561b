import Bindery.Proofs.Sorting
import Bindery.Proofs.Transform.Loading

/-!
# Tables and selections over whole histories

A table is made by calls that register transforms one after the other, and those that are refused
leave no trace in it. Its names are those of the others, each once where it came up first, and every
name stays bound to the definition it was first registered for. What a load selects from such a
table comes from the module of its target: the transform of the name that is given, or else the only
one there is. Modules are known by their names, as definitions are.
-/

namespace Bindery

open Bindery.Text
open Registry (Offer)

namespace Registry

variable {α : Type} {r r' : Registry α}

/-! ### Calls one after the other -/

/-- A call to register a transform: a refused one leaves the table. -/
def call (r : Registry α) (o : Offer α) : Registry α :=
  match r.register o.1 o.2 with
  | .ok r => r
  | .error _ => r

/-- The table after calls one after the other. -/
def afterCalls (r : Registry α) (os : List (Offer α)) : Registry α :=
  os.foldl call r

/-- The calls that succeed, of some one after the other. -/
def succeeded (r : Registry α) : List (Offer α) → List (Offer α)
  | [] => []
  | o :: os =>
    match r.register o.1 o.2 with
    | .ok r => o :: succeeded r os
    | .error _ => succeeded r os

/-- Names with further names behind them, each once. -/
def eachOnce (ns more : List Value) : List Value :=
  more.foldl (fun ns n => if ns.any (·.same n) then ns else ns ++ [n]) ns

theorem call_of_ok {o : Offer α} (h : r.register o.1 o.2 = .ok r') : r.call o = r' := by
  unfold call
  rw [h]

theorem call_of_error {o : Offer α} {f : RegistryFault} (h : r.register o.1 o.2 = .error f) :
    r.call o = r := by
  unfold call
  rw [h]

theorem names_put (r : Registry α) (name : Value) (c : Candidate α) :
    (r.put name c).names = eachOnce r.names [name] := by
  show _ = if r.names.any (·.same name) then r.names else r.names ++ [name]
  rw [← contains_eq_any]
  cases h : r.contains name with
  | true => exact names_put_of_contains r name c h
  | false => exact names_put_of_not_contains h c

/-- The names of a table are those of the calls that succeeded, each where it came up first. -/
theorem names_afterCalls (r : Registry α) (os : List (Offer α)) :
    (r.afterCalls os).names = eachOnce r.names ((r.succeeded os).map (·.1)) := by
  induction os generalizing r with
  | nil => rfl
  | cons o os ih =>
    show ((r.call o).afterCalls os).names = _
    unfold succeeded
    cases h : r.register o.1 o.2 with
    | ok r' =>
      rw [call_of_ok h, ih, eq_put_of_register h, names_put]
      rfl
    | error f => rw [call_of_error h, ih]

/-- No two names are the same. -/
theorem pairwise_eachOnce {ns : List Value} (h : ns.Pairwise fun a b => a.same b = false)
    (more : List Value) : (eachOnce ns more).Pairwise fun a b => a.same b = false := by
  induction more generalizing ns with
  | nil => exact h
  | cons n more ih =>
    refine ih (?_ : (if ns.any (·.same n) then ns else ns ++ [n]).Pairwise _)
    split
    · exact h
    · next hnew =>
      refine List.pairwise_append.2 ⟨h, List.pairwise_singleton .., fun a ha b hb => ?_⟩
      rw [List.mem_singleton.1 hb]
      exact Bool.eq_false_iff.2 fun hsame => hnew (List.any_eq_true.2 ⟨a, ha, hsame⟩)

/-- No two names of a table are the same. -/
def IsApart (r : Registry α) : Prop :=
  r.names.Pairwise fun a b => a.same b = false

theorem isApart_nil : IsApart ([] : Registry α) :=
  List.Pairwise.nil

theorem IsApart.afterCalls (h : r.IsApart) (os : List (Offer α)) : (r.afterCalls os).IsApart := by
  unfold IsApart
  rw [names_afterCalls]
  exact pairwise_eachOnce h _

theorem afterCalls_append (r : Registry α) (os more : List (Offer α)) :
    r.afterCalls (os ++ more) = (r.afterCalls os).afterCalls more :=
  List.foldl_append

/-- The calls that are refused leave no trace. -/
theorem afterCalls_succeeded (r : Registry α) (os : List (Offer α)) :
    r.afterCalls (r.succeeded os) = r.afterCalls os := by
  induction os generalizing r with
  | nil => rfl
  | cons o os ih =>
    show _ = (r.call o).afterCalls os
    unfold succeeded
    cases h : r.register o.1 o.2 with
    | error f => rw [call_of_error h, ← ih]
    | ok r' =>
      show (r.call o).afterCalls _ = _
      rw [call_of_ok h, ih]

/-- Calls that all succeed put everything under its name. -/
theorem afterCalls_accepted (r : Registry α) (os : List (Offer α)) :
    r.afterCalls (r.accepted os) = r.putAll (r.accepted os) := by
  induction os generalizing r with
  | nil => rfl
  | cons o os ih =>
    cases h : r.register o.1 o.2 with
    | error f => rw [accepted_cons_of_error h]; rfl
    | ok r' =>
      rw [accepted_cons_of_ok h]
      show (r.call o).afterCalls _ = (r.put o.1 o.2).putAll _
      rw [call_of_ok h, eq_put_of_register h]
      exact ih _

/-! ### What names are bound to -/

theorem get?_cons_of_same {e : Value × Candidate α} {name : Value} (h : e.1.same name = true)
    (r : Registry α) : get? (e :: r) name = some e.2 := by
  unfold get?
  rw [List.find?_cons, h]
  rfl

theorem get?_cons_of_not_same {e : Value × Candidate α} {name : Value}
    (h : e.1.same name = false) (r : Registry α) : get? (e :: r) name = get? r name := by
  unfold get?
  rw [List.find?_cons, h]

/-- The entry that goes by a key is the only one. -/
theorem get?_of_mem (hapart : r.IsApart) {name : Value} (hkey : name.keyFault? = none)
    {e : Value × Candidate α} (he : e ∈ r) (hsame : e.1.same name = true) :
    r.get? name = some e.2 := by
  induction r with
  | nil => cases he
  | cons f r ih =>
    obtain ⟨hfirst, hrest⟩ := List.pairwise_cons.1 hapart
    cases he with
    | head => exact get?_cons_of_same hsame r
    | tail _ he =>
      have hother : f.1.same name = false := by
        refine Bool.eq_false_iff.2 fun h => ?_
        have hdiffer := hfirst e.1 (List.mem_map_of_mem he)
        rw [Value.same_of_same hkey h hsame] at hdiffer
        cases hdiffer
      rw [get?_cons_of_not_same hother]
      exact ih hrest he

/-- What names are bound to. -/
def bindings (r : Registry α) : List (Value × Definition) :=
  r.map fun e => (e.1, e.2.definition)

/-- A name is registered if it can be a key, and only for the definition it has, if it has one. -/
theorem of_register {name : Value} {c : Candidate α} (h : r.register name c = .ok r') :
    name.keyFault? = none ∧ ∀ d, r.get? name = some d → d.definition = c.definition := by
  unfold register lookUp at h
  split at h
  · cases h
  cases hkey : name.keyFault? with
  | some m =>
    rw [hkey] at h
    cases h
  | none =>
    refine ⟨rfl, fun d hd => ?_⟩
    rw [hkey, hd] at h
    by_contra hother
    dsimp only at h
    rw [if_neg hother] at h
    cases h

/-- A call leaves what is bound. -/
theorem bindings_prefix_call (hapart : r.IsApart) (o : Offer α) :
    r.bindings <+: (r.call o).bindings := by
  cases h : r.register o.1 o.2 with
  | error f => exact (call_of_error h).symm ▸ List.prefix_refl _
  | ok r' =>
    obtain ⟨hkey, howner⟩ := of_register h
    rw [call_of_ok h, eq_put_of_register h]
    cases hknown : r.contains o.1 with
    | false =>
      unfold put bindings
      rw [hknown, if_neg Bool.false_ne_true, List.map_append]
      exact List.prefix_append _ _
    | true =>
      -- The new transform goes to the only entry of its name, which was bound to its definition.
      rw [put_of_contains hknown]
      unfold bindings
      rw [List.map_map]
      refine (List.map_congr_left fun e he => ?_) ▸ List.prefix_refl _
      simp only [Function.comp_apply]
      split
      · next hsame => rw [howner e.2 (get?_of_mem hapart hkey he hsame)]
      · rfl

/-- Calls leave what is bound. -/
theorem bindings_prefix_afterCalls (hapart : r.IsApart) (os : List (Offer α)) :
    r.bindings <+: (r.afterCalls os).bindings := by
  induction os generalizing r with
  | nil => exact List.prefix_refl _
  | cons o os ih => exact (bindings_prefix_call hapart o).trans (ih (hapart.afterCalls [o]))

/-- Where bindings are left, a name goes for the same definition. -/
theorem get?_of_bindings_prefix (h : r.bindings <+: r'.bindings) {name : Value} {c : Candidate α}
    (hc : r.get? name = some c) : ∃ c', r'.get? name = some c' ∧ c'.definition = c.definition := by
  have hbinding (r : Registry α) : (r.get? name).map (·.definition) =
      (r.bindings.find? (·.1.same name)).map (·.2) := by
    unfold get? bindings
    rw [List.find?_map, Option.map_map, Option.map_map]
    rfl
  obtain ⟨more, hmore⟩ := h
  have hfound := hbinding r
  have hafter := hbinding r'
  rw [hc] at hfound
  obtain ⟨b, hb, hdefinition⟩ := Option.map_eq_some_iff.1 hfound.symm
  rw [← hmore, List.find?_append, hb, Option.some_or, Option.map_some, hdefinition] at hafter
  exact Option.map_eq_some_iff.1 hafter

/-- A name goes for the definition that it was registered for in any call that succeeded. -/
theorem get?_of_mem_succeeded (hapart : r.IsApart) {os : List (Offer α)} {o : Offer α}
    (ho : o ∈ r.succeeded os) (hself : o.1.same o.1 = true) :
    ∃ c, (r.afterCalls os).get? o.1 = some c ∧ c.definition = o.2.definition := by
  induction os generalizing r with
  | nil => cases ho
  | cons p os ih =>
    show ∃ c, ((r.call p).afterCalls os).get? o.1 = some c ∧ _
    have hnext : (r.call p).IsApart := hapart.afterCalls [p]
    unfold succeeded at ho
    cases h : r.register p.1 p.2 with
    | error f =>
      rw [h] at ho
      rw [call_of_error h]
      exact ih hapart ho
    | ok r' =>
      rw [h] at ho
      rw [call_of_ok h] at hnext ⊢
      cases ho with
      | head =>
        refine get?_of_bindings_prefix (bindings_prefix_afterCalls hnext os) ?_
        rw [eq_put_of_register h]
        exact get?_put_self r hself o.2
      | tail _ ho => exact ih hnext ho

/-- Among the transforms of a module, a name goes for what it goes for in the table, if that is one
of the module. -/
theorem get?_definedIn (hapart : r.IsApart) (module : String) {name : Value}
    (hkey : name.keyFault? = none) :
    (r.definedIn module).get? name = (r.get? name).filter (·.definition.module == module) := by
  induction r with
  | nil => rfl
  | cons e r ih =>
    obtain ⟨hfirst, hrest⟩ := List.pairwise_cons.1 hapart
    have hdefined : definedIn (e :: r) module =
        if e.2.definition.module == module then e :: definedIn r module else definedIn r module :=
      List.filter_cons
    rw [hdefined]
    cases hname : e.1.same name with
    | false =>
      rw [get?_cons_of_not_same hname, ← ih hrest]
      split
      · exact get?_cons_of_not_same hname _
      · rfl
    | true =>
      -- No further entry goes by the name, so nothing stands in for one of another module.
      have hnone : (definedIn r module).get? name = none := by
        unfold get?
        rw [Option.map_eq_none_iff, List.find?_eq_none]
        intro f hf hsame
        have hdiffer := hfirst f.1 (List.mem_map_of_mem (List.mem_filter.1 hf).1)
        rw [Value.same_of_same hkey hname hsame] at hdiffer
        cases hdiffer
      rw [get?_cons_of_same hname]
      split
      · next hmodule => simp only [get?_cons_of_same hname, Option.filter, hmodule, if_true]
      · next hmodule => simp [hnone, Option.filter, hmodule]

end Registry

/-! ### The module of a target -/

section

variable (files : FileTree) (scripts : ModuleScripts)

/-- The name of the module of a target: a file gives a name of its own to its module, and any other
target is the name of one. -/
def moduleName? (target : String) : Option String :=
  match isPathTarget files target with
  | .ok true => (modulePath files.here (.ofText target)).toOption.map fileModuleName
  | .ok false => some target
  | .error _ => none

/-- The name of the module of a target that a loader may have loaded. -/
def Loader.moduleOf? (l : Loader) (target : String) : Option String :=
  ((l.loaded.find? (·.1 == target)).map (·.2)).or (moduleName? files target)

theorem Loading.exists_of_loadFile {l after : Loader} {path : Path} {m : String}
    (h : outcomeOf (loadFile files scripts path) l = (.ok m, after)) :
    ∃ full, modulePath files.here path = .ok full ∧ m = fileModuleName full := by
  unfold loadFile at h
  obtain ⟨full, t, hsettled, h⟩ := exists_of_outcomeOf_bind h
  obtain ⟨hpath, -⟩ := Prod.mk.inj hsettled
  refine ⟨full, hpath, ?_⟩
  obtain ⟨finds, u, -, h⟩ := exists_of_outcomeOf_bind h
  cases finds with
  | false => cases h
  | true =>
    rw [if_neg (by decide)] at h
    split at h
    · cases h
    · obtain ⟨-, v, -, h⟩ := exists_of_outcomeOf_bind h
      cases h
      rfl

/-- A target is loaded as its module. -/
theorem Loading.moduleOf?_of_loadModule {l after : Loader} {target m : String}
    (h : outcomeOf (loadModule files scripts target) l = (.ok m, after)) :
    l.moduleOf? files target = some m := by
  unfold loadModule at h
  rw [outcomeOf_bind_ok (outcomeOf_get l)] at h
  unfold Loader.moduleOf?
  cases hfound : l.loaded.find? (·.1 == target) with
  | some entry =>
    rw [hfound] at h
    cases h
    rfl
  | none =>
    rw [hfound] at h
    dsimp only at h
    obtain ⟨isPath, t, hsettled, h⟩ := exists_of_outcomeOf_bind h
    obtain ⟨hpath, -⟩ := Prod.mk.inj hsettled
    unfold moduleName?
    rw [hpath]
    cases isPath with
    | true =>
      obtain ⟨name, u, hname, h⟩ := exists_of_outcomeOf_bind h
      obtain ⟨full, hfull, rfl⟩ := exists_of_loadFile files scripts hname
      cases h
      rw [hfull]
      rfl
    | false =>
      obtain ⟨-, u, -, h⟩ := exists_of_outcomeOf_bind h
      cases h
      rfl

/-! ### What is selected -/

/-- What is selected among the transforms of a module. -/
inductive Selected (table : Registry TransformScript) (module : String) (s : Selector) :
    Except LoadFault LoadedTransform → Prop where
  /-- The name that is given goes for a transform of the module, which is made. -/
  | named {name : String} {c : Candidate TransformScript} (hname : s.name = some name)
      (hget : table.get? (.text name) = some c) (hmodule : c.definition.module = module) :
      Selected table module s (Loader.make name c)
  /-- The name that is given goes for no transform of the module. -/
  | missing {name : String} (hname : s.name = some name)
      (hother : ∀ c, table.get? (.text name) = some c → c.definition.module ≠ module) :
      Selected table module s (.error (.notRegistered s.target name))
  /-- No name is given, and the module has no transform. -/
  | nothing (hname : s.name = none) (hnone : table.definedIn module = []) :
      Selected table module s (.ok ⟨"NullTransform", true, .idle "none"⟩)
  /-- No name is given, and the only transform of the module is made. -/
  | only {name : Value} {c : Candidate TransformScript} (hname : s.name = none)
      (honly : table.definedIn module = [(name, c)]) (hmodule : c.definition.module = module) :
      Selected table module s (Loader.make name.shown c)
  /-- No name is given, and the module has several transforms. -/
  | several {names : List String} (hname : s.name = none)
      (hseveral : 2 ≤ (table.definedIn module).length)
      (hnames : (names.map .text).Perm (table.definedIn module).names) :
      Selected table module s (.error (.ambiguous s.target names))
  /-- No name is given, and the module has several transforms whose names are not all texts. -/
  | unordered {m : Misfit} (hname : s.name = none)
      (hseveral : 2 ≤ (table.definedIn module).length)
      (hnotText : ∃ name ∈ (table.definedIn module).names, name.text? = none) :
      Selected table module s (.error (.misfit m))

/-- The choice among the transforms of a module is a selection. -/
theorem selected_choose {table : Registry TransformScript} (hapart : table.IsApart)
    (module : String) (s : Selector) :
    Selected table module s (Loader.choose (table.definedIn module) s) := by
  unfold Loader.choose
  cases hname : s.name with
  | some name =>
    have hkey : (Value.text name).keyFault? = none := rfl
    have hget := Registry.get?_definedIn hapart module hkey
    dsimp only
    split
    · next c hc =>
      rw [hget, Option.filter_eq_some_iff, beq_iff_eq] at hc
      exact .named hname hc.1 hc.2
    · next hnone =>
      rw [hget, Option.filter_eq_none_iff] at hnone
      exact .missing hname fun c hc => by simpa using hnone c hc
  | none =>
    dsimp only
    split
    · next hnone => exact .nothing hname hnone
    · next name c honly =>
      have hmem : (name, c) ∈ table.definedIn module := honly ▸ List.mem_singleton_self _
      exact .only hname honly (beq_iff_eq.1 (List.mem_filter.1 hmem).2)
    · next hnotNil hnotOne =>
      have hseveral : 2 ≤ (table.definedIn module).length := by
        match hfound : table.definedIn module with
        | [] => exact absurd hfound hnotNil
        | [(name, c)] => exact absurd hfound (hnotOne name c)
        | _ :: _ :: _ => exact Nat.le_add_left 2 _
      unfold Loader.ambiguity
      by_cases htexts : ∀ name ∈ (table.definedIn module).names, ∃ t, name = .text t
      · obtain ⟨names, htold, hnames⟩ := Value.exists_told htexts
        rw [htold]
        exact .several hname hseveral hnames
      · simp only [not_forall] at htexts
        obtain ⟨name, hmem, hother⟩ := htexts
        have hnotText : name.text? = none := by
          cases name with
          | text t => exact absurd ⟨t, rfl⟩ hother
          | _ => rfl
        obtain ⟨m, hm⟩ := Value.exists_not_told ⟨name, hmem, hnotText⟩
        rw [hm]
        exact .unordered hname hseveral ⟨name, hmem, hnotText⟩

theorem Loader.of_make {shown : String} {c : Candidate TransformScript} {t : LoadedTransform}
    (h : make shown c = .ok t) : t.className = c.definition.name ∧ t.script = c.content := by
  unfold make at h
  split at h
  · split at h <;> cases h
  · cases h
    exact ⟨rfl, rfl⟩

/-- What is made of a selection is of a transform of the module, or it does nothing where the module
has none. -/
theorem Selected.of_ok {table : Registry TransformScript} {module : String} {s : Selector}
    {t : LoadedTransform} (h : Selected table module s (.ok t)) :
    (∃ e ∈ table, e.2.definition.module = module ∧ t.className = e.2.definition.name ∧
        t.script = e.2.content) ∨
      table.definedIn module = [] ∧ t = ⟨"NullTransform", true, .idle "none"⟩ := by
  generalize houtcome : Except.ok t = outcome at h
  cases h with
  | named hname hget hmodule =>
    obtain ⟨e, he, rfl⟩ := Option.map_eq_some_iff.1 hget
    exact .inl ⟨e, List.mem_of_find?_eq_some he, hmodule, Loader.of_make houtcome.symm⟩
  | @only name c hname honly hmodule =>
    have hmem : (name, c) ∈ table.definedIn module := honly ▸ List.mem_singleton_self _
    exact .inl ⟨_, (List.mem_filter.1 hmem).1, hmodule, Loader.of_make houtcome.symm⟩
  | nothing hname hnone => exact .inr ⟨hnone, Except.ok.inj houtcome⟩
  | missing => cases houtcome
  | several => cases houtcome
  | unordered => cases houtcome

namespace Loader

/-- What a load leaves of the table is what further calls make of it. -/
theorem registry_load (l : Loader) (spec : Value) : (l.load files scripts spec).2.registry =
    l.registry.afterCalls (l.registry.accepted (l.offered files scripts spec)) := by
  obtain ⟨later, hleaves, -⟩ := l.load_leaves files scripts spec
  rw [hleaves, Registry.afterCalls_accepted]
  rfl

/-- A load that goes for a module loads it and chooses among what the table has of it then. -/
theorem load_of_goesFor? {l : Loader} {s target : String}
    (hgoes : l.goesFor? (.text s) = some target) :
    target = (Selector.ofText (stripText s)).target ∧
      l.load files scripts (.text s) =
        match (Loading.loadModule files scripts target).perform l with
        | (.error f, l) => (.error f, l)
        | (.ok m, l) => (choose (l.registry.definedIn m) (Selector.ofText (stripText s)), l) := by
  unfold goesFor? at hgoes
  dsimp only at hgoes
  split_ifs at hgoes with hempty hknown
  refine ⟨(Option.some.inj hgoes).symm, ?_⟩
  rw [← Option.some.inj hgoes, load_text]
  unfold loadText
  dsimp only
  rw [if_neg hempty]
  split
  · next c hname hget =>
    exact absurd ⟨by rw [hname]; rfl, by unfold Registry.contains; rw [hget]; rfl⟩ hknown
  · rfl

/-- A load that goes for a module fails as the module does, or it selects among the transforms that
the table has of the module then. -/
theorem load_selected {l : Loader} {s target : String} (hgoes : l.goesFor? (.text s) = some target)
    (hapart : (l.load files scripts (.text s)).2.registry.IsApart) :
    (∃ f, (l.load files scripts (.text s)).1 = .error f ∧
        ((Loading.loadModule files scripts target).perform l).1 = .error f) ∨
      ∃ m, l.moduleOf? files target = some m ∧
        Selected (l.load files scripts (.text s)).2.registry m (Selector.ofText (stripText s))
          (l.load files scripts (.text s)).1 := by
  obtain ⟨-, hload⟩ := load_of_goesFor? files scripts hgoes
  cases hmodule : (Loading.loadModule files scripts target).perform l with
  | mk outcome after =>
    rw [hmodule] at hload
    cases outcome with
    | error f =>
      refine .inl ⟨f, ?_, rfl⟩
      rw [hload]
    | ok m =>
      have hmoduleOf := Loading.moduleOf?_of_loadModule files scripts hmodule
      refine .inr ⟨m, hmoduleOf, ?_⟩
      rw [hload] at hapart ⊢
      dsimp only at hapart ⊢
      exact selected_choose hapart m _

/-- Over calls one after the other every name is once in the table, where it first came up, and it
goes for the definition it was first registered for; calls that are refused leave no trace. A load
that goes for a module leaves such a table again. It fails as the module does, or it selects among
the transforms of the module, so that what comes of it is a transform of this module, or one that
does nothing where the module has none. -/
theorem load_afterCalls (calls : List (Offer TransformScript)) :
    let table := Registry.afterCalls [] calls
    (∀ o f, table.register o.1 o.2 = .error f → Registry.afterCalls [] (calls ++ [o]) = table) ∧
      Registry.afterCalls [] (Registry.succeeded [] calls) = table ∧
      (∀ o ∈ Registry.succeeded [] calls, o.1.same o.1 = true →
        ∃ c, table.get? o.1 = some c ∧ c.definition = o.2.definition) ∧
      (∀ more, table.bindings <+: (Registry.afterCalls [] (calls ++ more)).bindings) ∧
      table.names = Registry.eachOnce [] ((Registry.succeeded [] calls).map (·.1)) ∧
      (table.names.Pairwise fun a b => a.same b = false) ∧
      ∀ (files : FileTree) (scripts : ModuleScripts) (l : Loader) (s target : String),
        l.registry = table → l.goesFor? (.text s) = some target →
        let outcome := (l.load files scripts (.text s)).1
        let after := (l.load files scripts (.text s)).2.registry
        (∃ more, after = Registry.afterCalls [] (calls ++ more)) ∧
          ((∃ f, outcome = .error f ∧
              ((Loading.loadModule files scripts target).perform l).1 = .error f) ∨
            ∃ m, l.moduleOf? files target = some m ∧
              Selected after m (Selector.ofText (stripText s)) outcome ∧
              ∀ t, outcome = .ok t →
                (∃ e ∈ after, e.2.definition.module = m ∧ t.className = e.2.definition.name ∧
                  t.script = e.2.content) ∨
                after.definedIn m = [] ∧ t = ⟨"NullTransform", true, .idle "none"⟩) := by
  intro table
  have hapart (os : List (Offer TransformScript)) : (Registry.afterCalls [] os).IsApart :=
    Registry.isApart_nil.afterCalls os
  refine ⟨fun o f h => ?_, Registry.afterCalls_succeeded [] calls, fun o ho hself => ?_,
    fun more => ?_, Registry.names_afterCalls [] calls, hapart calls, ?_⟩
  · rw [Registry.afterCalls_append]
    exact Registry.call_of_error h
  · exact Registry.get?_of_mem_succeeded Registry.isApart_nil ho hself
  · rw [Registry.afterCalls_append]
    exact Registry.bindings_prefix_afterCalls (hapart calls) more
  · intro files scripts l s target htable hgoes outcome after
    have hafter : after = Registry.afterCalls []
        (calls ++ l.registry.accepted (l.offered files scripts (.text s))) := by
      rw [Registry.afterCalls_append]
      show after = table.afterCalls _
      rw [← htable]
      exact l.registry_load files scripts (.text s)
    refine ⟨⟨_, hafter⟩, ?_⟩
    have hafterApart : after.IsApart := by
      rw [hafter]
      exact hapart _
    refine (load_selected files scripts hgoes hafterApart).imp_right ?_
    rintro ⟨m, hm, hselected⟩
    refine ⟨m, hm, hselected, fun t ht => ?_⟩
    rw [show (l.load files scripts (.text s)).1 = .ok t from ht] at hselected
    exact hselected.of_ok

/-- The module of the workbench, which registers its class and does not fail. -/
def earlyModule : ModuleScripts :=
  [(⟨.absolute, ["late.py"]⟩, ⟨none, [slowClass], none⟩)]

theorem load_afterCalls_slow :
    let load := Loader.start.load workbench earlyModule (.text "late.py:slow")
    Loader.start.registry = Registry.afterCalls [] [(.text "none", nullTransform)] ∧
      Loader.start.goesFor? (.text "late.py:slow") = some "late.py" ∧
      ∃ m t, Loader.start.moduleOf? workbench "late.py" = some m ∧ load.1 = .ok t ∧
        t.className = "Slow" ∧ Selected load.2.registry m ⟨"late.py", some "slow"⟩ (.ok t) := by
  intro load
  have htable : Loader.start.registry = Registry.afterCalls [] [(.text "none", nullTransform)] :=
    rfl
  have hgoes : Loader.start.goesFor? (.text "late.py:slow") = some "late.py" := rfl
  have hselector : Selector.ofText (stripText "late.py:slow") = ⟨"late.py", some "slow"⟩ := rfl
  have hclass : load.1.toOption.map (·.className) = some "Slow" := by decide +kernel
  obtain ⟨-, -, -, -, -, -, hloads⟩ := load_afterCalls [(.text "none", nullTransform)]
  have hload := (hloads workbench earlyModule _ _ _ htable hgoes).2
  rw [hselector] at hload
  refine ⟨htable, hgoes, ?_⟩
  obtain ⟨t, hmade, hslow⟩ : ∃ t, load.1 = .ok t ∧ t.className = "Slow" := by
    generalize load.1 = outcome at hclass
    cases outcome with
    | error f => cases hclass
    | ok t => exact ⟨t, rfl, Option.some.inj hclass⟩
  rcases hload with ⟨f, hf, -⟩ | ⟨m, hm, hselected, -⟩
  · have hboth : Except.error f = Except.ok t := hf.symm.trans hmade
    cases hboth
  · exact ⟨m, t, hm, hmade, hslow, hmade ▸ hselected⟩

end Loader

end

end Bindery
