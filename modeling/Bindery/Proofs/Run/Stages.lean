import Bindery.Proofs.Header.Grown
import Bindery.Proofs.Pass.Renumbered
import Bindery.Run

/-!
# Stages of a run

What each stage does to a run whose transform is idle, in terms of what it calls: parsing goes
through the headers one after the other, processing comes to what the passes of every run make of
the library, and generating writes what the template makes of that.
-/

namespace Bindery.Run

/-- A step of a run as a step on a state. -/
theorem run_perform {α : Type} (r : Run) (m : RunM α) : r.perform m = outcomeOf m r := rfl

theorem outcomeOf_enter {r : Run} {expected : Stage} (h : r.stage = expected) (target : Stage) :
    outcomeOf (enter expected target) r = (.ok (), { r with stage := target }) := by
  unfold enter
  rw [outcomeOf_bind_ok (outcomeOf_get r), if_pos h]
  rfl

theorem outcomeOf_settle {α : Type} (outcome : Except Fault α) (r : Run) :
    outcomeOf (settle outcome) r = (outcome, r) := by
  cases outcome <;> rfl

/-- What becomes of a run when a header is parsed into its library. -/
def afterHeader (r : Run) (header : Value) :
    HeaderOutcome × Library → Except Fault Library × Run
  | (.parsed, lib) =>
    (.ok lib, { r with graph := some (.typed lib), parsed := r.parsed ++ [header.shown] })
  | (.failed reason, lib) =>
    (.ok lib, { r with
      graph := some (.typed lib)
      failures := r.failures ++ [⟨header.shown, reason⟩] })
  | (.aborted f, lib) => (.error f, { r with graph := some (.typed lib) })

theorem outcomeOf_parseOne (grammar : Grammar) (o : HeaderOptions) (lib : Library) (header : Value)
    (r : Run) : outcomeOf (parseOne grammar o lib header) r =
      r.afterHeader header (lib.parseHeader r.files grammar o header) := by
  unfold parseOne
  rw [outcomeOf_bind_ok (outcomeOf_get r)]
  cases lib.parseHeader r.files grammar o header with
  | mk outcome out => cases outcome <;> rfl

/-- What the transform and the options give for parsing: the settings of the parser and the headers
that the options name. -/
def settingsOf (options : Options) : Except Fault (HeaderOptions × List Value) := do
  let dirs ← Options.itemsOf options.includeDirs
  let defines ← Options.itemsOf options.defines
  let headers ← headersOf options.headers
  pure (⟨dirs, defines⟩, headers)

/-- The first stage goes through the headers of the transform and those that the options name, unless
the transform fails or the options are no lists. -/
theorem outcomeOf_parse {r : Run} (grammar : Grammar) (h : r.stage = .idle) :
    outcomeOf (parse grammar) r =
      outcomeOf (do
        match r.transform.failHeaders with
        | some f => throw (.raised f)
        | none =>
          let s ← settle (settingsOf r.options)
          let _ ← (r.transform.headers ++ s.2).foldlM (parseOne grammar s.1) (newLibrary r.options))
        { r with
          stage := .parsed
          graph := some (.typed (newLibrary r.options))
          hooks := r.hooks ++ [.text "setup_headers"] } := by
  unfold parse
  rw [outcomeOf_bind_ok (outcomeOf_enter h .parsed), outcomeOf_bind_ok (outcomeOf_get _),
    outcomeOf_bind_ok (outcomeOf_set _ _)]
  unfold log settingsOf
  rw [outcomeOf_bind_ok (outcomeOf_modify _ _)]
  cases hfail : r.transform.failHeaders with
  | some f => rfl
  | none =>
    simp only
    cases Options.itemsOf r.options.includeDirs with
    | error f => rfl
    | ok dirs =>
      cases Options.itemsOf r.options.defines with
      | error f => rfl
      | ok defines => cases headersOf r.options.headers <;> rfl

theorem currentGraph_eq {r : Run} {g : Graph} (h : r.graph = some g) : r.currentGraph = g := by
  unfold currentGraph
  rw [h]
  rfl

/-- A transform that asks for nothing leaves the library as it is. -/
theorem outcomeOf_consult {r : Run} {g : Graph} (h : r.graph = some g) (place : String) :
    outcomeOf (consult place []) r = (.ok (), { r with hooks := r.hooks ++ [.text place] }) := by
  unfold consult log
  rw [outcomeOf_bind_ok (outcomeOf_modify _ _), outcomeOf_bind_ok (outcomeOf_get _)]
  show (Except.ok (), { r with
    graph := some r.currentGraph, hooks := (r.hooks ++ [Value.text place]) ++ [] }) = _
  rw [currentGraph_eq h, List.append_nil, ← h]

/-- A transform that adds no passes leaves those of every run. -/
theorem outcomeOf_setUpPasses {r : Run} (h : r.transform.passes = []) :
    outcomeOf setUpPasses r = (.ok (), { r with
      schedule := some .builtin
      hooks := r.hooks ++ [.text "setup_passes"] }) := by
  unfold setUpPasses
  rw [Schedule.addAll_builtins, outcomeOf_bind_ok (outcomeOf_settle _ _)]
  unfold log
  rw [outcomeOf_bind_ok (outcomeOf_modify _ _), outcomeOf_bind_ok (outcomeOf_modify _ _),
    outcomeOf_bind_ok (outcomeOf_get _)]
  simp only [h]
  rfl

theorem outcomeOf_makePasses {r : Run} {s : Schedule} {g : Graph} (hs : r.schedule = some s)
    (hg : r.graph = some g) (hnone : (s.run g).1 = none) :
    outcomeOf makePasses r = (.ok (), { r with
      graph := some (s.run g).2.1
      schedule := some (s.run g).2.2 }) := by
  unfold makePasses
  rw [outcomeOf_bind_ok (outcomeOf_get _)]
  simp only [currentGraph_eq hg, hs, Option.getD_some]
  rw [outcomeOf_bind_ok (outcomeOf_set _ _), hnone]
  rfl

/-- A change that a typed library can make keeps it typed. -/
theorem change_perform {α : Type} (edit : Edit α) (m : LooseM α) (lib : Library) :
    (GraphM.change edit m).perform (.typed lib) =
      ((edit.perform lib).1.mapError Fault.graph, .typed (edit.perform lib).2) := by
  show outcomeOf (GraphM.change edit m) (.typed lib) = _
  unfold GraphM.change
  rw [outcomeOf_bind_ok (outcomeOf_get _)]
  dsimp only
  rw [outcomeOf_bind_ok (outcomeOf_set _ _)]
  cases (edit.perform lib).1 <;> rfl

/-- What headers declare is in order as it is. -/
theorem outcomeOf_sortLibrary {r : Run} {lib : Library} (hg : r.graph = some (.typed lib))
    (h : lib.Orderly) : outcomeOf sortLibrary r = (.ok (), r) := by
  have hsort : GraphM.sort.perform (.typed lib) = (.ok (), .typed lib) := by
    unfold GraphM.sort
    rw [change_perform, edit_perform, h.sort_eq]
    rfl
  unfold sortLibrary
  rw [outcomeOf_bind_ok (outcomeOf_get _), currentGraph_eq hg, hsort]
  rw [outcomeOf_bind_ok (outcomeOf_set _ _), outcomeOf_settle, ← hg]

/-- The second stage comes to what the passes make of the library that was read. -/
theorem outcomeOf_process {r : Run} {name : String} {lib : Library} (hstage : r.stage = .parsed)
    (htransform : r.transform = .idle name) (hgraph : r.graph = some (.typed lib))
    (horderly : lib.Orderly) (hnone : (Schedule.builtin.run (.typed lib)).1 = none) :
    outcomeOf process r = (.ok (), { r with
      stage := .processed
      graph := some (Schedule.builtin.run (.typed lib)).2.1
      schedule := some (Schedule.builtin.run (.typed lib)).2.2
      hooks := r.hooks ++ [.text "preprocess"] ++ [.text "setup_passes"] ++
        [.text "postprocess"] }) := by
  have hbefore : r.transform.before = [] := by
    rw [htransform]
    rfl
  have hafter : r.transform.after = [] := by
    rw [htransform]
    rfl
  have hpasses : r.transform.passes = [] := by
    rw [htransform]
    rfl
  let sorted : Run := { r with stage := .processed }
  let consulted : Run := { sorted with hooks := sorted.hooks ++ [.text "preprocess"] }
  let ready : Run := { consulted with
    schedule := some .builtin
    hooks := consulted.hooks ++ [.text "setup_passes"] }
  have hsort : outcomeOf sortLibrary sorted = (.ok (), sorted) :=
    outcomeOf_sortLibrary hgraph horderly
  have hpre : outcomeOf (consult "preprocess" []) sorted = (.ok (), consulted) :=
    outcomeOf_consult (r := sorted) hgraph _
  have hready : outcomeOf setUpPasses consulted = (.ok (), ready) := outcomeOf_setUpPasses hpasses
  have hmade := outcomeOf_makePasses (r := ready) rfl hgraph hnone
  unfold process
  rw [outcomeOf_bind_ok (outcomeOf_enter hstage _), outcomeOf_bind_ok hsort,
    outcomeOf_bind_ok (outcomeOf_get _)]
  simp only [hbefore, hafter, sorted]
  rw [outcomeOf_bind_ok hpre, outcomeOf_bind_ok hready, outcomeOf_bind_ok hmade]
  exact outcomeOf_consult rfl _

/-- What becomes of a run when its output is generated. -/
def afterOutput (r : Run) : Except Fault (List Path × FileTree) → Except Fault Unit × Run
  | .ok (paths, files) => (.ok (), { r with outputs := paths, files := files })
  | .error f => (.error f, r)

/-- The last stage writes what the template makes of the library, if there are units. -/
theorem outcomeOf_generate {r : Run} {g : Graph} (hstage : r.stage = .processed)
    (hgraph : r.graph = some g) :
    outcomeOf generate r =
      if g.units.isEmpty then (.ok (), { r with stage := .generated })
      else afterOutput { r with stage := .generated } (emit g .standard r.options r.files) := by
  have hg : currentGraph { r with stage := .generated } = g := currentGraph_eq hgraph
  unfold generate
  rw [outcomeOf_bind_ok (outcomeOf_enter hstage _), outcomeOf_bind_ok (outcomeOf_get _), hg]
  cases g.units.isEmpty with
  | true => rfl
  | false =>
    show outcomeOf (settle (emit g .standard r.options r.files) >>= fun a => _) _ = _
    rw [outcomeOf_bind, outcomeOf_settle]
    cases emit g .standard r.options r.files <;> rfl

end Bindery.Run
