import Bindery.Proofs.Step
import Bindery.Proofs.Transform.Registry
import Bindery.Transform.Loader

/-!
# What loading leaves behind

Loading a target runs the modules on its way one after the other, and each registers its transforms
one after the other. Where this ends with a failure, everything that was registered before it stays:
the table has the transforms that the modules offered up to the failure, as far as they were
accepted. So a failure leaves the table alone only if nothing new was registered before it, and what
was registered can be loaded by its name afterwards.
-/

namespace Bindery

open Bindery.Text
open Registry (Offer)

/-! ### What modules offer -/

/-- A class of a module as it is offered for registration. -/
def ModuleClass.offer (module : String) (c : ModuleClass) : Offer TransformScript :=
  (Definition.registeredName ⟨module, c.className⟩ c.asked,
    ⟨⟨module, c.className⟩, true, c.script⟩)

/-- A module that is run under a name. -/
structure ModuleRun where
  /-- The module. -/
  script : ModuleScript
  /-- The name. -/
  name : String

namespace ModuleRun

/-- Whether a module raises a failure, at its start or at its end. -/
def raises (m : ModuleRun) : Bool :=
  m.script.raiseFirst.isSome || m.script.raiseLast.isSome

/-- What a module offers: all of its classes, unless it fails at its start. -/
def offers (m : ModuleRun) : List (Offer TransformScript) :=
  if m.script.raiseFirst.isSome then [] else m.script.classes.map (ModuleClass.offer m.name)

/-- What modules offer that are run one after the other, up to the first that raises a failure. -/
def allOffers : List ModuleRun → List (Offer TransformScript)
  | [] => []
  | m :: ms => m.offers ++ if m.raises then [] else allOffers ms

end ModuleRun

/-- The loader after some transforms were offered one after the other. -/
def Loader.taking (l : Loader) (os : List (Offer TransformScript)) : Loader :=
  { l with registry := l.registry.putAll (l.registry.accepted os) }

theorem Loader.taking_append_of_eq {l : Loader} {os : List (Offer TransformScript)}
    (h : l.registry.accepted os = os) (ps : List (Offer TransformScript)) :
    l.taking (os ++ ps) = (l.taking os).taking ps := by
  unfold taking
  rw [Registry.accepted_append_of_eq h, h]
  simp only [Registry.putAll, List.foldl_append]

theorem Loader.taking_append_of_ne {l : Loader} {os : List (Offer TransformScript)}
    (h : l.registry.accepted os ≠ os) (ps : List (Offer TransformScript)) :
    l.taking (os ++ ps) = l.taking os := by
  unfold taking
  rw [Registry.accepted_append_of_ne h]

/-! ### Running modules -/

namespace Running

theorem outcomeOf_registerClass (module : String) (c : ModuleClass) (l : Loader) :
    outcomeOf (registerClass module c) l =
      match l.registry.register (c.offer module).1 (c.offer module).2 with
      | .ok _ => (.ok ⟨⟩, l.taking [c.offer module])
      | .error f => (.error (.cause f.message), l) := by
  unfold registerClass
  rw [outcomeOf_bind_ok (outcomeOf_get l)]
  show outcomeOf (match l.registry.register (c.offer module).1 (c.offer module).2 with
    | .ok r => set { l with registry := r }
    | .error f => throw (ModuleFault.cause f.message)) l = _
  cases hc : l.registry.register (c.offer module).1 (c.offer module).2 with
  | error f => rfl
  | ok r =>
    unfold Loader.taking
    rw [Registry.accepted_cons_of_ok hc, Registry.eq_put_of_register hc]
    rfl

/-- Classes are registered up to the first that is refused. -/
theorem outcomeOf_registerClasses (module : String) (cs : List ModuleClass) (l : Loader) :
    ∃ outcome, outcomeOf (cs.forM (registerClass module)) l =
        (outcome, l.taking (cs.map (ModuleClass.offer module))) ∧
      (outcome = .ok ⟨⟩ ↔ l.registry.accepted (cs.map (ModuleClass.offer module)) =
        cs.map (ModuleClass.offer module)) := by
  induction cs generalizing l with
  | nil => exact ⟨.ok ⟨⟩, rfl, iff_of_true rfl rfl⟩
  | cons c cs ih =>
    rw [outcomeOf_forM_cons, List.map_cons]
    have hstep := outcomeOf_registerClass module c l
    cases hc : l.registry.register (c.offer module).1 (c.offer module).2 with
    | error f =>
      rw [hc] at hstep
      have hnone := Registry.accepted_cons_of_error hc (cs.map (ModuleClass.offer module))
      refine ⟨.error (.cause f.message), ?_, iff_of_false nofun ?_⟩
      · rw [outcomeOf_bind_error hstep]
        unfold Loader.taking
        rw [hnone]
        rfl
      · rw [hnone]
        exact nofun
    | ok r =>
      rw [hc] at hstep
      have hone : l.registry.accepted [c.offer module] = [c.offer module] :=
        Registry.accepted_cons_of_ok hc []
      obtain ⟨outcome, hrest, hiff⟩ := ih (l.taking [c.offer module])
      refine ⟨outcome, ?_, hiff.trans ?_⟩
      · rw [outcomeOf_bind_ok hstep, hrest, ← Loader.taking_append_of_eq hone]
        rfl
      · rw [Registry.accepted_cons_of_ok hc]
        have htaken : (l.taking [c.offer module]).registry =
            l.registry.put (c.offer module).1 (c.offer module).2 := by
          unfold Loader.taking
          rw [hone]
          rfl
        rw [htaken, List.cons_eq_cons]
        exact (and_iff_right rfl).symm

theorem outcomeOf_raise (r : Option Raised) (l : Loader) :
    ∃ outcome, outcomeOf (raise r) l = (outcome, l) ∧ (outcome = .ok ⟨⟩ ↔ r.isSome = false) := by
  cases r with
  | none => exact ⟨.ok ⟨⟩, rfl, iff_of_true rfl rfl⟩
  | some r => exact ⟨.error _, rfl, iff_of_false nofun nofun⟩

/-- Running a module registers what it offers, up to the first that is refused, and it comes to its
end exactly if it raises no failure and nothing is refused. -/
theorem outcomeOf_runModule (m : ModuleRun) (l : Loader) :
    ∃ outcome, outcomeOf (runModule m.script m.name) l = (outcome, l.taking m.offers) ∧
      (outcome = .ok ⟨⟩ ↔ m.raises = false ∧ l.registry.accepted m.offers = m.offers) := by
  unfold runModule ModuleRun.offers ModuleRun.raises
  obtain ⟨first, hfirst, hfirstOk⟩ := outcomeOf_raise m.script.raiseFirst l
  cases h : m.script.raiseFirst.isSome with
  | true =>
    rw [h] at hfirstOk
    obtain ⟨e, rfl⟩ : ∃ e, first = .error e := by
      cases first with
      | error e => exact ⟨e, rfl⟩
      | ok _ => exact absurd (hfirstOk.1 rfl) nofun
    exact ⟨.error e, outcomeOf_bind_error hfirst _, iff_of_false nofun nofun⟩
  | false =>
    rw [h] at hfirstOk
    obtain rfl : first = .ok ⟨⟩ := hfirstOk.2 rfl
    rw [outcomeOf_bind_ok hfirst]
    simp only [Bool.false_eq_true, if_false, Bool.false_or]
    obtain ⟨outcome, hclasses, hok⟩ := outcomeOf_registerClasses m.name m.script.classes l
    cases outcome with
    | error e =>
      refine ⟨.error e, outcomeOf_bind_error hclasses _, iff_of_false nofun fun h => ?_⟩
      exact absurd (hok.2 h.2) nofun
    | ok u =>
      obtain ⟨last, hlast, hlastOk⟩ := outcomeOf_raise m.script.raiseLast
        (l.taking (m.script.classes.map (ModuleClass.offer m.name)))
      refine ⟨last, (outcomeOf_bind_ok hclasses _).trans hlast, hlastOk.trans ?_⟩
      exact (and_iff_left (hok.1 rfl)).symm

end Running

/-- What is done behind a module registers what the modules behind it offer, unless the module
fails. -/
theorem taking_runModule (m : ModuleRun) {ms : List ModuleRun} {rest : Running Unit}
    (h : ∀ l, (outcomeOf rest l).2 = l.taking (ModuleRun.allOffers ms)) (l : Loader) :
    (outcomeOf (Running.runModule m.script m.name >>= fun _ => rest) l).2 =
      l.taking (ModuleRun.allOffers (m :: ms)) := by
  obtain ⟨outcome, hm, hok⟩ := Running.outcomeOf_runModule m l
  unfold ModuleRun.allOffers
  cases outcome with
  | ok u =>
    obtain ⟨hraises, haccepted⟩ := hok.1 rfl
    rw [outcomeOf_bind_ok hm, h, hraises, if_neg Bool.false_ne_true,
      Loader.taking_append_of_eq haccepted]
  | error e =>
    rw [outcomeOf_bind_error hm]
    by_cases haccepted : l.registry.accepted m.offers = m.offers
    · have hraises : m.raises = true := by
        by_contra h
        exact absurd (hok.2 ⟨Bool.eq_false_iff.2 h, haccepted⟩) nofun
      rw [hraises, if_pos rfl, List.append_nil]
    · exact (Loader.taking_append_of_ne haccepted _).symm

/-! ### The modules of a target -/

section

variable (files : FileTree) (scripts : ModuleScripts)

namespace Running

/-- The modules that importing a dotted name runs one after the other, if none of them fails. The
parts of the name before the point are in `outer`. -/
def route (outer : List String) (inside : Container) : List String → List ModuleRun
  | [] => []
  | part :: rest =>
    let parts := outer ++ [part]
    let name := ".".intercalate parts
    if Installed.ready.contains name then route parts (.ofInstalled name) rest
    else
      match inside with
      | .plain => []
      | .installed =>
        if Installed.hasPart (".".intercalate outer) part then route parts (.ofInstalled name) rest
        else []
      | .directory dir =>
        let place := dir.join (.ofText part)
        let package := place.join (.ofText "__init__.py")
        let file := dir.join (.ofText (part ++ ".py"))
        if part ≠ "" ∧ (files.isFile package).toOption = some true then
          ⟨scripts.at package, name⟩ :: route parts (.directory place) rest
        else if part ≠ "" ∧ (files.isFile file).toOption = some true then
          ⟨scripts.at file, name⟩ :: route parts .plain rest
        else if Installed.modules.contains name then route parts (.ofInstalled name) rest
        else if part ≠ "" ∧ files.isDir place then route parts (.directory place) rest
        else []

/-- Importing a dotted name registers what the modules on its way offer up to the first failure. -/
theorem outcomeOf_importParts (outer : List String) (inside : Container) (parts : List String)
    (l : Loader) : (outcomeOf (importParts files scripts outer inside parts) l).2 =
      l.taking (ModuleRun.allOffers (route files scripts outer inside parts)) := by
  induction parts generalizing outer inside l with
  | nil => rfl
  | cons part rest ih =>
    unfold importParts route
    dsimp only
    by_cases hready : Installed.ready.contains (".".intercalate (outer ++ [part]))
    · rw [if_pos hready, if_pos hready]
      exact ih _ _ l
    · rw [if_neg hready, if_neg hready]
      cases inside with
      | plain => rfl
      | installed =>
        dsimp only
        split_ifs
        · exact ih _ _ l
        · rfl
      | directory dir =>
        dsimp only
        split_ifs
        · exact taking_runModule ⟨scripts.at _, _⟩ (ih _ _) l
        · exact taking_runModule ⟨scripts.at _, _⟩ (ih _ _) l
        · exact ih _ _ l
        · exact ih _ _ l
        · rfl

/-- The modules that importing the module of a dotted name runs, if none of them fails. -/
def routeOf (target : String) : List ModuleRun :=
  match target.toList with
  | '.' :: _ => []
  | cs => route files scripts [] (.directory files.here) ((dottedParts cs).map String.ofList)

theorem outcomeOf_importModule (target : String) (l : Loader) :
    (outcomeOf (importModule files scripts target) l).2 =
      l.taking (ModuleRun.allOffers (routeOf files scripts target)) := by
  by_cases hpoint : ∃ rest, target.toList = '.' :: rest
  · obtain ⟨rest, hrest⟩ := hpoint
    unfold importModule routeOf
    rw [hrest]
    rfl
  · have himport : importModule files scripts target = importParts files scripts []
        (.directory files.here) ((dottedParts target.toList).map String.ofList) := by
      unfold importModule
      split
      · next rest hrest => exact absurd ⟨rest, hrest⟩ hpoint
      · rfl
    have hroute : routeOf files scripts target = route files scripts []
        (.directory files.here) ((dottedParts target.toList).map String.ofList) := by
      unfold routeOf
      split
      · next rest hrest => exact absurd ⟨rest, hrest⟩ hpoint
      · rfl
    rw [himport, hroute]
    exact outcomeOf_importParts files scripts _ _ _ l

end Running

/-- The module of a file, if there is one. -/
def fileModule? (path : Path) : Option ModuleRun :=
  match modulePath files.here path with
  | .error _ => none
  | .ok full =>
    match findsModule files full with
    | .ok true =>
      if ".py".toList.isSuffixOf full.text.toList then
        some ⟨scripts.at full, fileModuleName full⟩
      else none
    | _ => none

/-- The modules that loading a target runs, if none of them fails. -/
def modulesOf (target : String) : List ModuleRun :=
  match isPathTarget files target with
  | .error _ => []
  | .ok true => (fileModule? files scripts (.ofText target)).toList
  | .ok false => Running.routeOf files scripts target

/-- The modules that a loader runs to load a target, which was not loaded before. -/
def Loader.modulesFor (l : Loader) (target : String) : List ModuleRun :=
  if (l.loaded.find? (·.1 == target)).isSome then [] else modulesOf files scripts target

namespace Loading

theorem outcomeOf_settle {α : Type} (x : Except LoadFault α) (l : Loader) :
    outcomeOf (settle x) l = (x, l) := rfl

theorem outcomeOf_ofTarget {α : Type} (target : String) (m : Running α) (l : Loader) :
    (outcomeOf (ofTarget target m) l).2 = (outcomeOf m l).2 := rfl

/-- Loading a module file registers what the module offers up to the first failure. -/
theorem outcomeOf_loadFile (path : Path) (l : Loader) :
    (outcomeOf (loadFile files scripts path) l).2 =
      l.taking (ModuleRun.allOffers (fileModule? files scripts path).toList) := by
  unfold loadFile fileModule?
  cases hpath : modulePath files.here path with
  | error f => rfl
  | ok full =>
    rw [outcomeOf_bind_ok (outcomeOf_settle _ l)]
    dsimp only
    cases hfinds : findsModule files full with
    | error f => rfl
    | ok finds =>
      rw [outcomeOf_bind_ok (outcomeOf_settle _ l)]
      cases finds with
      | false => rfl
      | true =>
        dsimp only
        cases hsuffix : ".py".toList.isSuffixOf full.text.toList with
        | false => rfl
        | true =>
          have hnothing (l : Loader) : (outcomeOf (pure ⟨⟩ : Running Unit) l).2 =
              l.taking (ModuleRun.allOffers []) := rfl
          have hrun := taking_runModule ⟨scripts.at full, fileModuleName full⟩ hnothing l
          rw [bind_pure] at hrun
          have hadapted := (outcomeOf_ofTarget path.text _ l).trans hrun
          exact outcomeOf_bind_leaves (P := (· = _)) (Q := (· = _)) hadapted (fun _ h => h)
            fun _ _ h => h

/-- What is loaded is remembered, and what fails is not. -/
theorem outcomeOf_remember (target : String) {m : Loading String} {l t : Loader}
    (h : (outcomeOf m l).2 = t) : ∃ outcome later, outcomeOf (do
        let name ← m
        modify fun l => { l with loaded := l.loaded ++ [(target, name)] }
        return name) l = (outcome, { t with loaded := t.loaded ++ later }) ∧
      (∀ f, outcome = .error f → later = []) := by
  subst h
  cases hm : outcomeOf m l with
  | mk outcome t =>
    cases outcome with
    | error f =>
      refine ⟨.error f, [], ?_, fun _ _ => rfl⟩
      rw [outcomeOf_bind_error hm, List.append_nil]
    | ok name =>
      refine ⟨.ok name, [(target, name)], ?_, nofun⟩
      rw [outcomeOf_bind_ok hm]
      rfl

/-- Loading the module of a target registers what the modules on its way offer up to the first
failure, unless the target was loaded already. A target that fails is not loaded then. -/
theorem outcomeOf_loadModule (target : String) (l : Loader) :
    ∃ outcome later, outcomeOf (loadModule files scripts target) l =
        (outcome, { l.taking (ModuleRun.allOffers (l.modulesFor files scripts target)) with
          loaded := l.loaded ++ later }) ∧ (∀ f, outcome = .error f → later = []) := by
  unfold loadModule Loader.modulesFor
  rw [outcomeOf_bind_ok (outcomeOf_get l)]
  cases hfound : l.loaded.find? (·.1 == target) with
  | some entry =>
    refine ⟨.ok entry.2, [], ?_, fun _ _ => rfl⟩
    rw [List.append_nil]
    rfl
  | none =>
    unfold modulesOf
    cases hpath : isPathTarget files target with
    | error f =>
      refine ⟨.error f, [], ?_, fun _ _ => rfl⟩
      rw [List.append_nil]
      rfl
    | ok isPath =>
      dsimp only
      rw [outcomeOf_bind_ok (outcomeOf_settle _ l)]
      cases isPath with
      | true => exact outcomeOf_remember target (outcomeOf_loadFile files scripts _ l)
      | false =>
        have himport := (outcomeOf_ofTarget target _ l).trans
          (Running.outcomeOf_importModule files scripts target l)
        have hstep := outcomeOf_bind_leaves (P := (· = _)) (Q := (· = _))
          (f := fun _ => pure target) himport (fun _ h => h) fun _ _ h => h
        have hremembered := outcomeOf_remember target hstep
        rw [bind_assoc] at hremembered
        exact hremembered

end Loading

/-! ### What a load leaves -/

namespace Loader

/-- The target whose module a load goes for. There is none if nothing is named, or if the name of a
registered transform is. -/
def goesFor? (l : Loader) (spec : Value) : Option String :=
  match spec with
  | .text s =>
    let s := stripText s
    let selector := Selector.ofText s
    if s = "" then none
    else if selector.name.isNone ∧ l.registry.contains (.text selector.target) then none
    else some selector.target
  | _ => none

/-- What the modules offer that a load runs, up to the first that raises a failure. -/
def offered (l : Loader) (spec : Value) : List (Offer TransformScript) :=
  match l.goesFor? spec with
  | none => []
  | some target => ModuleRun.allOffers (l.modulesFor files scripts target)

theorem make_ne_notLoaded (shown : String) (c : Candidate TransformScript)
    (target cause : String) : make shown c ≠ .error (.notLoaded target cause) := by
  unfold make
  split
  · split <;> nofun
  · nofun

/-- A choice among transforms that are there does not fail for a module. -/
theorem choose_ne_notLoaded (found : Registry TransformScript) (s : Selector)
    (target cause : String) : choose found s ≠ .error (.notLoaded target cause) := by
  unfold choose
  split
  · split
    · exact make_ne_notLoaded _ _ _ _
    · nofun
  · split
    · exact make_ne_notLoaded _ _ _ _
    · exact make_ne_notLoaded _ _ _ _
    · unfold ambiguity
      split <;> nofun

/-- A load does for a text what is done for its name. -/
theorem load_text (l : Loader) (s : String) :
    l.load files scripts (.text s) = l.loadText files scripts s := by
  unfold load
  cases htruthy : (Value.text s).truthy with
  | true => rfl
  | false =>
    obtain rfl : s = "" := by simpa [Value.truthy] using htruthy
    rfl

theorem loadText_leaves (l : Loader) (s : String) :
    ∃ later, (l.loadText files scripts s).2 =
        { l.taking (l.offered files scripts (.text s)) with loaded := l.loaded ++ later } ∧
      ∀ target cause, (l.loadText files scripts s).1 = .error (.notLoaded target cause) →
        later = [] := by
  unfold loadText offered goesFor?
  dsimp only
  by_cases hempty : stripText s = ""
  · rw [if_pos hempty, if_pos hempty]
    exact ⟨[], by rw [List.append_nil]; rfl, fun _ _ _ => rfl⟩
  rw [if_neg hempty, if_neg hempty]
  generalize Selector.ofText (stripText s) = selector
  split
  · next c hname hget =>
    rw [if_pos ⟨Option.isNone_iff_eq_none.2 hname, by unfold Registry.contains; rw [hget]; rfl⟩]
    refine ⟨[], by rw [List.append_nil]; rfl, fun target cause h => ?_⟩
    exact absurd h (make_ne_notLoaded _ _ _ _)
  · next hmodule =>
    have hunknown : ¬ (selector.name.isNone ∧ l.registry.contains (.text selector.target)) := by
      rintro ⟨hname, hknown⟩
      obtain ⟨c, hget⟩ := Option.isSome_iff_exists.1 hknown
      exact hmodule c (Option.isNone_iff_eq_none.1 hname) hget
    rw [if_neg hunknown]
    obtain ⟨outcome, later, houtcome, hlater⟩ :=
      Loading.outcomeOf_loadModule files scripts selector.target l
    rw [show (Loading.loadModule files scripts selector.target).perform l = _ from houtcome]
    refine ⟨later, by cases outcome <;> rfl, fun target cause h => ?_⟩
    cases outcome with
    | error f => exact hlater f rfl
    | ok name => exact absurd h (choose_ne_notLoaded _ _ _ _)

/-- Any load leaves in the table what the modules it runs offer up to the first failure; if it fails
for a module the target is not loaded. -/
theorem load_leaves (l : Loader) (spec : Value) :
    ∃ later, (l.load files scripts spec).2 =
        { l.taking (l.offered files scripts spec) with loaded := l.loaded ++ later } ∧
      ∀ target cause, (l.load files scripts spec).1 = .error (.notLoaded target cause) →
        later = [] := by
  cases spec with
  | text s =>
    rw [load_text]
    exact l.loadText_leaves files scripts s
  | _ =>
    refine ⟨[], ?_, fun _ _ _ => rfl⟩
    rw [List.append_nil]
    unfold load
    split <;> rfl

/-- A name that goes for a registered transform as it stands: nothing is stripped off, and no colon
takes it apart. -/
def IsPlainName (name : String) : Prop :=
  name ≠ "" ∧ stripText name = name ∧ Selector.ofText name = ⟨name, none⟩

/-- A plain name that is registered is loaded from the table. -/
theorem load_of_get? {l : Loader} {name : String} {c : Candidate TransformScript}
    (hname : IsPlainName name) (h : l.registry.get? (.text name) = some c) :
    l.load files scripts (.text name) = (make name c, l) := by
  obtain ⟨hne, hstrip, hselector⟩ := hname
  rw [load_text]
  unfold loadText
  simp only [hstrip, hselector, h, if_neg hne]

/-- A load that fails for a module leaves everything in the table that the modules registered before
the failure. So it leaves the table as it was exactly if that brought no further name and the last
transforms for the known names are those that were there, and whatever was registered under a plain
name can be loaded by this name from then on. -/
theorem failed_load_leaves (l : Loader) (spec : Value) {target cause : String}
    (h : (l.load files scripts spec).1 = .error (.notLoaded target cause)) :
    let accepted := l.registry.accepted (l.offered files scripts spec)
    let after := (l.load files scripts spec).2
    after.loaded = l.loaded ∧ after.registry = l.registry.putAll accepted ∧
      (after.registry = l.registry ↔ (∀ o ∈ accepted, l.registry.contains o.1 = true) ∧
        ∀ e ∈ l.registry, ∀ c, Registry.lastFor accepted e.1 = some c → c = e.2) ∧
      ∀ name c, Registry.lastFor accepted (.text name) = some c → IsPlainName name →
        ∀ files scripts, after.load files scripts (.text name) = (make name c, after) := by
  intro accepted after
  obtain ⟨later, hafter, hlater⟩ := l.load_leaves files scripts spec
  have hregistry : after.registry = l.registry.putAll accepted := by
    show (l.load files scripts spec).2.registry = _
    rw [hafter]
    rfl
  have hloaded : after.loaded = l.loaded := by
    show (l.load files scripts spec).2.loaded = _
    rw [hafter, hlater target cause h]
    exact List.append_nil _
  refine ⟨hloaded, hregistry, ?_, fun name c hc hname files scripts => ?_⟩
  · rw [hregistry]
    exact Registry.putAll_eq_self_iff
  · refine load_of_get? files scripts hname ?_
    rw [hregistry, Registry.get?_putAll_text, hc]
    rfl

/-- A directory with one module. -/
def workbench : FileTree :=
  ⟨⟨.absolute, []⟩, [], [(["late.py"], [])]⟩

/-- A class that the module registers. -/
def slowClass : ModuleClass := ⟨"Slow", .text "slow", .idle "slow"⟩

/-- The module, which registers its class and fails then. -/
def lateModule : ModuleScripts :=
  [(⟨.absolute, ["late.py"]⟩, ⟨none, [slowClass], some ⟨"ValueError", [.text "too late"]⟩⟩)]

theorem failed_load_leaves_slow :
    let failed := Loader.start.load workbench lateModule (.text "late.py")
    failed.1 = .error (.notLoaded "late.py" "too late") ∧ failed.2.loaded = [] ∧
      failed.2.registry = Loader.start.registry.putAll
        [slowClass.offer (fileModuleName ⟨.absolute, ["late.py"]⟩)] := by
  have h : (Loader.start.load workbench lateModule (.text "late.py")).1 =
      .error (.notLoaded "late.py" "too late") := rfl
  obtain ⟨hloaded, hregistry, -, -⟩ :=
    failed_load_leaves workbench lateModule Loader.start (.text "late.py") h
  exact ⟨h, hloaded, hregistry⟩

/-- A module that fails behind the registration of a transform is reported as not loadable, and its
transform is in the table then and can be loaded by its name. -/
theorem failed_module_registered :
    ∃ (files : FileTree) (scripts : ModuleScripts) (cause : String) (t : LoadedTransform),
      let failed := Loader.start.load files scripts (.text "late.py")
      failed.1 = .error (.notLoaded "late.py" cause) ∧
        failed.2.registry ≠ Loader.start.registry ∧
        (failed.2.load files scripts (.text "slow")).1 = .ok t ∧ t.className = "Slow" := by
  have hlength : (Loader.start.load workbench lateModule (.text "late.py")).2.registry.length =
      2 := rfl
  refine ⟨workbench, lateModule, "too late", ⟨"Slow", false, .idle "slow"⟩, rfl, fun h => ?_,
    rfl, rfl⟩
  rw [h] at hlength
  cases hlength

end Loader

end

end Bindery
