import Bindery.Proofs.Run.Protocol
import Bindery.Proofs.Run.Stages

/-!
# Runs as courses

A run with a transform described by data is the course of a company of its own: its parser, its
passes and its template work on the files, the library and the logs, and each stage of the run does
what the call of that stage does to the course.
-/

namespace Bindery

/-- What the company of a run works on. -/
structure Workshop where
  /-- The files. -/
  files : FileTree
  /-- What was declared, once parsing has begun. -/
  graph : Option Graph
  /-- Where the transform was called and what it was answered. -/
  hooks : List Value
  /-- Entries written by passes described by data. -/
  log : List Value
  /-- What the passes that were made have done. -/
  tallies : List Tally

namespace Workshop

/-- The world of a run before its first stage. -/
def start (files : FileTree) : Workshop :=
  ⟨files, none, [], [], []⟩

/-- The graph, which is empty before parsing has begun. -/
def currentGraph (w : Workshop) : Graph :=
  w.graph.getD (.empty (.text "") (.text ""))

/-- The typed library. -/
def library (w : Workshop) : Library :=
  match w.graph with
  | some (.typed lib) => lib
  | _ => .empty (.text "") (.text "")

/-- Passes with what those that were made have done. -/
def tallied : List Pass → List Tally → List ScheduledPass
  | [], _ => []
  | p :: ps, [] => ⟨p, .empty⟩ :: tallied ps []
  | p :: ps, t :: ts => ⟨p, t⟩ :: tallied ps ts

theorem tallied_nil (ps : List Pass) : tallied ps [] = ps.map (⟨·, .empty⟩) := by
  induction ps with
  | nil => rfl
  | cons p ps ih => exact congrArg (_ :: ·) ih

theorem tallied_append (ps rest : List Pass) :
    tallied (ps ++ rest) [] = tallied ps [] ++ tallied rest [] := by
  rw [tallied_nil, tallied_nil, tallied_nil, List.map_append]

/-- A roster as a schedule. -/
def schedule (w : Workshop) (roster : Roster Pass) : Schedule :=
  ⟨tallied roster.passes w.tallies, roster.sealed, w.log⟩

/-- Writes entries into the log of the transform. -/
def logged (w : Workshop) (entries : List Value) : Workshop :=
  { w with hooks := w.hooks ++ entries }

/-- Lets the transform work on the library. -/
def consult (place : String) (calls : List LoggedRequest) : Act Workshop Unit := do
  modify (logged · [.text place])
  let w ← get
  let (fault, g, entries) := w.currentGraph.answer calls
  set { w with graph := some g, hooks := w.hooks ++ entries }
  match fault with
  | some f => throw f
  | none => pure ()

/-- The passes that a transform asks for. -/
def registering : List PassRequest → Registering Workshop Pass
  | [] => .leave (.ok ())
  | .refused f :: _ => .leave (.error f)
  | .value v :: _ => .add (throw (.notAPass v.typeName)) .leave
  | .pass p :: rest => .add (pure p) fun
    | .ok () => registering rest
    | .error f => .leave (.error f)

end Workshop

open Workshop

/-- The company of a run. -/
def Run.company (grammar : Grammar) (options : Options) (transform : TransformScript) :
    Company Workshop Value HeaderOptions Pass where
  begin w := { w with graph := some (.typed (newLibrary options)) }
  setupHeaders := do
    modify (logged · [.text "setup_headers"])
    match transform.failHeaders with
    | some f => throw (.raised f)
    | none => pure transform.headers
  settings := do
    let dirs ← given (Options.itemsOf options.includeDirs)
    let defines ← given (Options.itemsOf options.defines)
    let headers ← given (headersOf options.headers)
    pure (⟨dirs, defines⟩, headers)
  parseHeader o header := do
    let w ← get
    let (outcome, lib) := w.library.parseHeader w.files grammar o header
    set { w with graph := some (.typed lib) }
    match outcome with
    | .parsed => pure none
    | .failed reason => pure (some reason)
    | .aborted f => throw f
  sort := do
    let w ← get
    let (outcome, g) := GraphM.sort.perform w.currentGraph
    set { w with graph := some g }
    given outcome
  preprocess := Workshop.consult "preprocess" transform.before
  builtin i := Pass.builtins[i]
  setupPasses := .work (fun w => { w with
    hooks := w.hooks ++ [.text "setup_passes"]
    log := []
    tallies := [] }) fun _ => registering transform.passes
  name p := p.name.shown
  make p := do
    let w ← get
    let (outcome, s) := p.action.perform ⟨w.currentGraph, w.log, .empty⟩
    set { w with graph := some s.library, log := s.log, tallies := w.tallies ++ [s.tally] }
    given outcome
  postprocess := Workshop.consult "postprocess" transform.after
  bare w := w.currentGraph.units.isEmpty
  emit := do
    let w ← get
    let (paths, files) ← given (Bindery.emit w.currentGraph .standard options w.files)
    set { w with files := files }
    pure paths

/-- The run that a course is. -/
def Course.toRun (options : Options) (transform : TransformScript)
    (c : Course Workshop Value Pass) : Run where
  options := options
  transform := transform
  files := c.world.files
  stage := c.stage
  graph := c.world.graph
  schedule := c.roster.map c.world.schedule
  parsed := c.parsed.map (·.shown)
  failures := c.failures.map fun failure => ⟨failure.1.shown, failure.2⟩
  outputs := c.outputs
  hooks := c.world.hooks

namespace Run

open Course (outcomeOf_act outcomeOf_note outcomeOf_enroll outcomeOf_makePass outcomeOf_runPasses)

/-- The stage that a call is for. -/
def stageFor (grammar : Grammar) : Call → RunM Unit
  | .parse => parse grammar
  | .process => process
  | .generate => generate

/-- The run when calls were made one after the other, whatever came of each. -/
def after (grammar : Grammar) (r : Run) (calls : List Call) : Run :=
  calls.foldl (fun r call => (r.perform (stageFor grammar call)).2) r

variable {grammar : Grammar} {options : Options} {transform : TransformScript} {α β γ δ : Type}

/-- A step of a run goes as a step in its course goes. -/
inductive Enacts (options : Options) (transform : TransformScript)
    (R : α → β → Course Workshop Value Pass → Prop) :
    Except Fault α × Run → Except Fault β × Course Workshop Value Pass → Prop where
  /-- Both are made. -/
  | ok {a b c} : R a b c → Enacts options transform R (.ok a, c.toRun options transform) (.ok b, c)
  /-- Both fail in the same way. -/
  | error (f : Fault) (c : Course Workshop Value Pass) :
    Enacts options transform R (.error f, c.toRun options transform) (.error f, c)

namespace Enacts

variable {R : α → β → Course Workshop Value Pass → Prop}
  {Q : γ → δ → Course Workshop Value Pass → Prop}

theorem ok_of {a : α} {b : β} {r : Run} {c : Course Workshop Value Pass}
    (h : r = c.toRun options transform) (hab : R a b c) :
    Enacts options transform R (.ok a, r) (.ok b, c) := by
  rw [h]
  exact .ok hab

theorem eq {x : Except Fault Unit × Run} {y : Except Fault Unit × Course Workshop Value Pass}
    {R : Unit → Unit → Course Workshop Value Pass → Prop} (h : Enacts options transform R x y) :
    x = (y.1, y.2.toRun options transform) := by
  cases h <;> rfl

theorem bind {m : RunM α} {n : CourseM Workshop Value Pass β} {f : α → RunM γ}
    {g : β → CourseM Workshop Value Pass δ} {r : Run} {c : Course Workshop Value Pass}
    (h : Enacts options transform R (outcomeOf m r) (outcomeOf n c))
    (hnext : ∀ a b d, R a b d → Enacts options transform Q
      (outcomeOf (f a) (d.toRun options transform)) (outcomeOf (g b) d)) :
    Enacts options transform Q (outcomeOf (m >>= f) r) (outcomeOf (n >>= g) c) := by
  rw [outcomeOf_bind, outcomeOf_bind]
  revert h
  cases outcomeOf m r
  cases outcomeOf n c
  intro h
  cases h with
  | ok hab => exact hnext _ _ _ hab
  | error e => exact .error e _

theorem weaken {x : Except Fault α × Run} {y : Except Fault β × Course Workshop Value Pass}
    (h : Enacts options transform R x y) : Enacts options transform (fun _ _ _ => True) x y := by
  cases h with
  | ok => exact .ok trivial
  | error f => exact .error f _

/-- What a step comes to is left out. -/
theorem discard {m : RunM α} {n : CourseM Workshop Value Pass Unit} {r : Run}
    {R : α → Unit → Course Workshop Value Pass → Prop} {c : Course Workshop Value Pass}
    (h : Enacts options transform R (outcomeOf m r) (outcomeOf n c)) :
    Enacts options transform (fun _ _ _ => True) (outcomeOf (m >>= fun _ => pure ()) r)
      (outcomeOf n c) := by
  rw [outcomeOf_bind]
  revert h
  cases outcomeOf m r
  cases outcomeOf n c
  intro h
  cases h with
  | ok => exact .ok trivial
  | error f => exact .error f _

end Enacts

/-! ### Parsing -/

/-- What a course comes to when a header was read. -/
def headerRead (c : Course Workshop Value Pass) (header : Value) :
    HeaderOutcome × Library → Except Fault Unit × Course Workshop Value Pass
  | (.parsed, lib) => (.ok (), { c with
      world := { c.world with graph := some (.typed lib) }
      parsed := c.parsed ++ [header] })
  | (.failed reason, lib) => (.ok (), { c with
      world := { c.world with graph := some (.typed lib) }
      failures := c.failures ++ [(header, reason)] })
  | (.aborted f, lib) => (.error f, { c with
      world := { c.world with graph := some (.typed lib) } })

/-- Parsing a header into the library goes as in the course. -/
theorem parseOne_enacts (o : HeaderOptions) (header : Value) (lib : Library)
    {c : Course Workshop Value Pass} (h : c.world.graph = some (.typed lib)) :
    Enacts options transform (fun lib _ c => c.world.graph = some (.typed lib))
      (outcomeOf (parseOne grammar o lib header) (c.toRun options transform))
      (outcomeOf ((company grammar options transform).parseOne o header) c) := by
  have hlib : c.world.library = lib := by
    unfold Workshop.library
    rw [h]
  have hcourse : outcomeOf ((company grammar options transform).parseOne o header) c =
      headerRead c header (lib.parseHeader c.world.files grammar o header) := by
    unfold Company.parseOne
    rw [outcomeOf_bind, outcomeOf_act]
    unfold company
    dsimp only
    rw [outcomeOf_bind_ok (outcomeOf_get _), hlib]
    rcases lib.parseHeader c.world.files grammar o header with ⟨_ | reason | f, out⟩ <;> rfl
  rw [outcomeOf_parseOne, hcourse]
  show Enacts options transform _ ((c.toRun options transform).afterHeader header
    (lib.parseHeader c.world.files grammar o header)) _
  rcases lib.parseHeader c.world.files grammar o header with ⟨_ | reason | f, out⟩
  · refine .ok_of ?_ rfl
    unfold Course.toRun
    rw [List.map_append]
    rfl
  · refine .ok_of ?_ rfl
    unfold Course.toRun
    rw [List.map_append]
    rfl
  · exact .error f { c with world := { c.world with graph := some (.typed out) } }

/-- Parsing headers one after the other goes as in the course. -/
theorem parseHeaders_enacts (o : HeaderOptions) (headers : List Value) (lib : Library)
    {c : Course Workshop Value Pass} (h : c.world.graph = some (.typed lib)) :
    Enacts options transform (fun _ _ _ => True)
      (outcomeOf (headers.foldlM (parseOne grammar o) lib) (c.toRun options transform))
      (outcomeOf (headers.forM ((company grammar options transform).parseOne o)) c) := by
  induction headers generalizing lib c with
  | nil => exact .ok trivial
  | cons header headers ih =>
    rw [List.foldlM_cons, outcomeOf_forM_cons]
    exact (parseOne_enacts o header lib h).bind fun lib _ _ h => ih lib h

/-- A call that does not come next is refused and changes nothing. -/
theorem outcomeOf_enter_of_ne {r : Run} {expected : Stage} (h : r.stage ≠ expected)
    (target : Stage) :
    outcomeOf (enter expected target) r =
      (.error (.stageOrder target.word r.stage.word expected.word), r) := by
  unfold enter
  rw [outcomeOf_bind_ok (outcomeOf_get r), if_neg h]
  rfl

theorem outcomeOf_setupHeaders (c : Course Workshop Value Pass) :
    outcomeOf (Course.act (company grammar options transform).setupHeaders) c =
      (match transform.failHeaders with
        | some f => .error (.raised f)
        | none => .ok transform.headers,
      { c with world := c.world.logged [.text "setup_headers"] }) := by
  rw [outcomeOf_act]
  unfold company
  dsimp only
  rw [outcomeOf_bind_ok (outcomeOf_modify _ _)]
  cases transform.failHeaders <;> rfl

theorem outcomeOf_settings (c : Course Workshop Value Pass) :
    outcomeOf (Course.act (company grammar options transform).settings) c =
      (settingsOf options, c) := by
  rw [outcomeOf_act]
  unfold company settingsOf
  cases Options.itemsOf options.includeDirs with
  | error f => rfl
  | ok dirs =>
    cases Options.itemsOf options.defines with
    | error f => rfl
    | ok defines => cases headersOf options.headers <;> rfl

/-- Parsing goes as in the course. -/
theorem parse_enacts {c : Course Workshop Value Pass} (h : c.stage = .idle) :
    Enacts options transform (fun _ _ _ => True)
      (outcomeOf (parse grammar) (c.toRun options transform))
      (outcomeOf (company grammar options transform).parseBody (Company.entered .parse c)) := by
  let begun : Course Workshop Value Pass := { Company.entered .parse c with
    world := { c.world with
      graph := some (.typed (newLibrary options))
      hooks := c.world.hooks ++ [.text "setup_headers"] }
    events := c.events ++ [.entered .parse] ++ [.hook .setupHeaders] }
  rw [outcomeOf_parse (r := c.toRun options transform) grammar h]
  unfold Company.parseBody
  rw [outcomeOf_bind_ok (outcomeOf_modify _ _), outcomeOf_bind_ok (outcomeOf_note _ _),
    outcomeOf_bind (Course.act _), outcomeOf_setupHeaders]
  show Enacts options transform _ (outcomeOf (match transform.failHeaders with
    | some f => throw (.raised f)
    | none => settle (settingsOf options) >>= fun s => _ >>= fun _ => pure ())
    (begun.toRun options transform)) _
  cases transform.failHeaders with
  | some f => exact .error _ begun
  | none =>
    show Enacts options transform _ _ (outcomeOf (Course.act _ >>= fun _ => _) begun)
    rw [outcomeOf_bind (Course.act _), outcomeOf_settings, outcomeOf_bind, outcomeOf_settle]
    cases settingsOf options with
    | error f => exact .error _ begun
    | ok s => exact (parseHeaders_enacts s.1 _ _ rfl).discard

/-! ### Processing -/

/-- A course whose library has begun. -/
def Begun (c : Course Workshop Value Pass) : Prop :=
  ∃ g, c.world.graph = some g

theorem sort_enacts (c : Course Workshop Value Pass) :
    Enacts options transform (fun _ _ c => Begun c)
      (outcomeOf sortLibrary (c.toRun options transform))
      (outcomeOf (Course.act (company grammar options transform).sort) c) := by
  rw [outcomeOf_act]
  unfold sortLibrary company
  dsimp only
  rw [outcomeOf_bind_ok (outcomeOf_get _), outcomeOf_bind_ok (outcomeOf_get _)]
  show Enacts options transform _ (outcomeOf (do
    set { c.toRun options transform with
      graph := some (GraphM.sort.perform c.world.currentGraph).2 }
    settle (GraphM.sort.perform c.world.currentGraph).1) (c.toRun options transform)) _
  rcases GraphM.sort.perform c.world.currentGraph with ⟨f | u, g⟩
  · exact .error f { c with world := { c.world with graph := some g } }
  · exact .ok (c := { c with world := { c.world with graph := some g } }) ⟨g, rfl⟩

/-- The transform works on the library as in the course. -/
theorem consult_enacts (hook : Hook) (place : String) (calls : List LoggedRequest)
    (c : Course Workshop Value Pass) :
    Enacts options transform (fun _ _ c => Begun c)
      (outcomeOf (consult place calls) (c.toRun options transform))
      (outcomeOf (Course.act (Workshop.consult place calls))
        { c with events := c.events ++ [.hook hook] }) := by
  rw [outcomeOf_act]
  unfold consult log Workshop.consult
  rw [outcomeOf_bind_ok (outcomeOf_modify _ _), outcomeOf_bind_ok (outcomeOf_get _),
    outcomeOf_bind_ok (outcomeOf_modify _ _), outcomeOf_bind_ok (outcomeOf_get _)]
  let w := c.world.logged [.text place]
  let noted : Course Workshop Value Pass := { c with events := c.events ++ [.hook hook] }
  show Enacts options transform _ (outcomeOf (do
    set { ({ noted with world := w }).toRun options transform with
      graph := some (w.currentGraph.answer calls).2.1
      hooks := w.hooks ++ (w.currentGraph.answer calls).2.2 }
    match (w.currentGraph.answer calls).1 with
    | some f => throw f
    | none => pure ()) _) _
  rcases w.currentGraph.answer calls with ⟨_ | f, g, entries⟩
  · exact .ok (c := { noted with
      world := { w with graph := some g, hooks := w.hooks ++ entries } }) ⟨g, rfl⟩
  · exact .error f { noted with world := { w with graph := some g, hooks := w.hooks ++ entries } }

/-- A failure, if there is one, as an outcome. -/
def ended : Option Fault → Except Fault Unit
  | none => .ok ()
  | some f => .error f

/-- A transform described by data registers passes as it requests them for a schedule. -/
theorem outcomeOf_register (co : Company Workshop Value HeaderOptions Pass)
    (requests : List PassRequest) (ps : List Pass) {c : Course Workshop Value Pass}
    (hroster : c.roster = some ⟨ps, false⟩) (htallies : c.world.tallies = []) :
    let r := (c.world.schedule ⟨ps, false⟩).request requests
    ∃ added, r.2 = c.world.schedule ⟨ps ++ added, false⟩ ∧
      outcomeOf (co.register (registering requests)) c =
        (ended r.1, { c with roster := some ⟨ps ++ added, false⟩ }) := by
  induction requests generalizing ps c with
  | nil =>
    refine ⟨[], by rw [List.append_nil]; rfl, ?_⟩
    rw [List.append_nil, ← hroster]
    rfl
  | cons request requests ih =>
    cases request with
    | refused f =>
      refine ⟨[], by rw [List.append_nil]; rfl, ?_⟩
      rw [List.append_nil, ← hroster]
      rfl
    | value v =>
      refine ⟨[], by rw [List.append_nil]; rfl, ?_⟩
      rw [List.append_nil, ← hroster]
      unfold registering Company.register
      rw [outcomeOf_bind_ok (Course.outcomeOf_caught _ _), outcomeOf_enroll hroster,
        if_neg Bool.false_ne_true]
      rfl
    | pass p =>
      let grown : Course Workshop Value Pass := { c with roster := some ⟨ps ++ [p], false⟩ }
      have hadd : (c.world.schedule ⟨ps, false⟩).add p =
          .ok (c.world.schedule ⟨ps ++ [p], false⟩) := by
        unfold Workshop.schedule
        rw [htallies, tallied_append]
        rfl
      have henroll : outcomeOf (Course.enroll (H := Value) (pure (f := Act Workshop) p)) c =
          (.ok (), grown) := by
        rw [outcomeOf_enroll hroster]
        rfl
      obtain ⟨added, hrequest, hregister⟩ := ih (ps ++ [p]) (c := grown) rfl htallies
      refine ⟨p :: added, ?_, ?_⟩
      · unfold Schedule.request
        rw [hadd, List.append_cons ps p added]
        exact hrequest
      · unfold Schedule.request registering Company.register
        rw [hadd, outcomeOf_bind_ok (Course.outcomeOf_caught _ _), henroll,
          List.append_cons ps p added]
        exact hregister

/-- A schedule takes the passes that the transform requests. -/
theorem outcomeOf_setUpPasses_any (r : Run) :
    outcomeOf setUpPasses r =
      (ended (Schedule.builtin.request r.transform.passes).1, { r with
        schedule := some (Schedule.builtin.request r.transform.passes).2
        hooks := r.hooks ++ [.text "setup_passes"] }) := by
  unfold setUpPasses log
  rw [Schedule.addAll_builtins, outcomeOf_bind_ok (outcomeOf_settle _ _),
    outcomeOf_bind_ok (outcomeOf_modify _ _), outcomeOf_bind_ok (outcomeOf_modify _ _),
    outcomeOf_bind_ok (outcomeOf_get _), outcomeOf_bind_ok (outcomeOf_modify _ _)]
  cases (Schedule.builtin.request r.transform.passes).1 <;> rfl

/-- Setting up the passes goes as in the course. -/
theorem setUp_enacts {c : Course Workshop Value Pass} (h : Begun c) :
    Enacts options transform
      (fun _ _ c => Begun c ∧ (∃ ps, c.roster = some ⟨ps, false⟩) ∧ c.world.tallies = [])
      (outcomeOf setUpPasses (c.toRun options transform))
      (outcomeOf (company grammar options transform).setUpBody c) := by
  let ready : Course Workshop Value Pass := { c with
    world := { c.world with
      hooks := c.world.hooks ++ [.text "setup_passes"]
      log := []
      tallies := [] }
    roster := some ⟨Pass.builtins, false⟩
    events := c.events ++ [.hook .setupPasses] }
  obtain ⟨added, hrequest, hregister⟩ := outcomeOf_register (company grammar options transform)
    transform.passes Pass.builtins (c := ready) rfl rfl
  have hsetUp : outcomeOf (company grammar options transform).setUpBody c =
      (ended (Schedule.builtin.request transform.passes).1,
        { ready with roster := some ⟨Pass.builtins ++ added, false⟩ }) := by
    rw [Company.outcomeOf_setUpBody]
    exact hregister
  rw [outcomeOf_setUpPasses_any, hsetUp]
  have hrun : { c.toRun options transform with
      schedule := some (Schedule.builtin.request transform.passes).2
      hooks := c.world.hooks ++ [.text "setup_passes"] } =
      Course.toRun options transform
        { ready with roster := some ⟨Pass.builtins ++ added, false⟩ } := by
    unfold Course.toRun
    rw [show (Schedule.builtin.request transform.passes).2 = _ from hrequest]
    rfl
  show Enacts options transform _ (ended (Schedule.builtin.request transform.passes).1,
    { c.toRun options transform with
      schedule := some (Schedule.builtin.request transform.passes).2
      hooks := c.world.hooks ++ [.text "setup_passes"] }) _
  rw [hrun]
  cases (Schedule.builtin.request transform.passes).1 with
  | none => exact .ok ⟨h, ⟨_, rfl⟩, rfl⟩
  | some f => exact .error f _

/-! ### Passes -/

theorem outcomeOf_make (p : Pass) (w : Workshop) :
    outcomeOf ((company grammar options transform).make p) w =
      let r := p.action.perform ⟨w.currentGraph, w.log, .empty⟩
      (r.1, { w with
        graph := some r.2.library
        log := r.2.log
        tallies := w.tallies ++ [r.2.tally] }) := by
  unfold company
  dsimp only
  rw [outcomeOf_bind_ok (outcomeOf_get _), outcomeOf_bind_ok (outcomeOf_set _ _), outcomeOf_given]

/-- The passes of a schedule are made as those of the roster. -/
theorem outcomeOf_makePasses_forM (grammar : Grammar) (options : Options)
    (transform : TransformScript) (ps : List Pass) {c : Course Workshop Value Pass} {g : Graph}
    (h : c.world.graph = some g) :
    let r := Schedule.runFrom g c.world.log (ps.map (⟨·, .empty⟩))
    ∃ tallies events, r.2.2.2 = tallied ps tallies ∧
      outcomeOf (ps.forM (company grammar options transform).makePass) c =
        (ended r.1, { c with
          world := { c.world with
            graph := some r.2.1
            log := r.2.2.1
            tallies := c.world.tallies ++ tallies }
          events := c.events ++ events }) := by
  induction ps generalizing c g with
  | nil =>
    refine ⟨[], [], rfl, ?_⟩
    rw [List.append_nil, List.append_nil]
    show _ = (_, { c with world := { c.world with graph := some g } })
    rw [← h]
    rfl
  | cons p ps ih =>
    have hgraph : c.world.currentGraph = g := by
      unfold Workshop.currentGraph
      rw [h]
      rfl
    rw [outcomeOf_forM_cons, outcomeOf_bind, outcomeOf_makePass, outcomeOf_make, hgraph,
      List.map_cons]
    unfold Schedule.runFrom
    dsimp only
    rcases p.action.perform ⟨g, c.world.log, .empty⟩ with ⟨f | ⟨⟩, s⟩
    · refine ⟨[s.tally], [.made p false], ?_, rfl⟩
      exact congrArg (_ :: ·) (tallied_nil ps).symm
    · obtain ⟨tallies, events, htallies, hmade⟩ := ih (g := s.library) (c := { c with
        world := { c.world with
          graph := some s.library
          log := s.log
          tallies := c.world.tallies ++ [s.tally] }
        events := c.events ++ [.made p true] }) rfl
      refine ⟨s.tally :: tallies, .made p true :: events, congrArg (_ :: ·) htallies, ?_⟩
      rw [List.append_cons c.world.tallies s.tally tallies,
        List.append_cons c.events (.made p true) events]
      exact hmade

/-- Making the passes goes as in the course. -/
theorem makePasses_enacts {c : Course Workshop Value Pass} (h : Begun c)
    (hroster : ∃ ps, c.roster = some ⟨ps, false⟩) (htallies : c.world.tallies = []) :
    Enacts options transform (fun _ _ _ => True)
      (outcomeOf makePasses (c.toRun options transform))
      (outcomeOf (company grammar options transform).runPasses c) := by
  obtain ⟨g, hg⟩ := h
  obtain ⟨ps, hroster⟩ := hroster
  let sealed : Course Workshop Value Pass := { c with roster := some ⟨ps, true⟩ }
  obtain ⟨tallies, events, htallied, hmade⟩ :=
    outcomeOf_makePasses_forM grammar options transform ps (c := sealed) hg
  have hgraph : (c.toRun options transform).currentGraph = g := currentGraph_eq hg
  have hschedule : (c.toRun options transform).schedule.getD .empty =
      ⟨ps.map (⟨·, .empty⟩), false, c.world.log⟩ := by
    show (c.roster.map c.world.schedule).getD .empty = _
    rw [hroster, ← tallied_nil, ← htallies]
    rfl
  rw [outcomeOf_runPasses _ hroster, if_neg Bool.false_ne_true, hmade]
  unfold makePasses
  rw [outcomeOf_bind_ok (outcomeOf_get _), hgraph, hschedule]
  show Enacts options transform _ (outcomeOf (do
    set { c.toRun options transform with
      graph := some (Schedule.runFrom g c.world.log (ps.map (⟨·, .empty⟩))).2.1
      schedule := some ⟨(Schedule.runFrom g c.world.log (ps.map (⟨·, .empty⟩))).2.2.2, true,
        (Schedule.runFrom g c.world.log (ps.map (⟨·, .empty⟩))).2.2.1⟩ }
    match (Schedule.runFrom g c.world.log (ps.map (⟨·, .empty⟩))).1 with
    | some f => throw f
    | none => pure ()) _) _
  revert htallied
  dsimp only [sealed]
  rcases Schedule.runFrom g c.world.log (ps.map (⟨·, .empty⟩)) with ⟨fault, g, log, passes⟩
  rintro rfl
  let made : Course Workshop Value Pass := { sealed with
    world := { c.world with graph := some g, log := log, tallies := c.world.tallies ++ tallies }
    events := c.events ++ events }
  have hrun : { c.toRun options transform with
      graph := some g
      schedule := some ⟨tallied ps tallies, true, log⟩ } = made.toRun options transform := by
    unfold Course.toRun
    dsimp only [made]
    rw [htallies]
    rfl
  show Enacts options transform _ (outcomeOf (match fault with
    | some f => throw f
    | none => pure ()) { c.toRun options transform with
      graph := some g
      schedule := some ⟨tallied ps tallies, true, log⟩ }) (ended fault, made)
  rw [hrun]
  cases fault with
  | none => exact .ok trivial
  | some f => exact .error f _

/-- Processing goes as in the course. -/
theorem process_enacts {c : Course Workshop Value Pass} (h : c.stage = .parsed) :
    Enacts options transform (fun _ _ _ => True)
      (outcomeOf process (c.toRun options transform))
      (outcomeOf (company grammar options transform).processBody (Company.entered .process c)) := by
  unfold process Company.processBody
  rw [outcomeOf_bind_ok (outcomeOf_enter (r := c.toRun options transform) h .processed)]
  refine (sort_enacts (Company.entered .process c)).bind fun _ _ c h => ?_
  rw [outcomeOf_bind_ok (outcomeOf_get _), outcomeOf_bind_ok (outcomeOf_note _ _)]
  refine (consult_enacts .preprocess "preprocess" _ c).bind fun _ _ c h => ?_
  refine (setUp_enacts h).bind fun _ _ c h => ?_
  refine (makePasses_enacts h.1 h.2.1 h.2.2).bind fun _ _ c h => ?_
  rw [outcomeOf_bind_ok (outcomeOf_note _ _)]
  exact (consult_enacts .postprocess "postprocess" _ c).weaken

/-! ### Generating -/

/-- The last stage writes what the template makes of the library, if there are units. -/
theorem outcomeOf_generate_any {r : Run} (h : r.stage = .processed) :
    outcomeOf generate r =
      if r.currentGraph.units.isEmpty then (.ok (), { r with stage := .generated })
      else afterOutput { r with stage := .generated }
        (Bindery.emit r.currentGraph .standard r.options r.files) := by
  have hgraph : currentGraph { r with stage := .generated } = r.currentGraph := rfl
  unfold generate
  rw [outcomeOf_bind_ok (outcomeOf_enter h _), outcomeOf_bind_ok (outcomeOf_get _), hgraph]
  cases r.currentGraph.units.isEmpty with
  | true => rfl
  | false =>
    show outcomeOf (settle (Bindery.emit r.currentGraph .standard r.options r.files) >>=
      fun a => _) _ = _
    rw [outcomeOf_bind, outcomeOf_settle]
    cases Bindery.emit r.currentGraph .standard r.options r.files <;> rfl

theorem outcomeOf_emit (w : Workshop) :
    outcomeOf (company grammar options transform).emit w =
      match Bindery.emit w.currentGraph .standard options w.files with
      | .ok (paths, files) => (Except.ok paths, { w with files := files })
      | .error f => (Except.error f, w) := by
  unfold company
  dsimp only
  rw [outcomeOf_bind_ok (outcomeOf_get _), outcomeOf_bind, outcomeOf_given]
  cases Bindery.emit w.currentGraph .standard options w.files <;> rfl

/-- Generating goes as in the course. -/
theorem generate_enacts {c : Course Workshop Value Pass} (h : c.stage = .processed) :
    Enacts options transform (fun _ _ _ => True)
      (outcomeOf generate (c.toRun options transform))
      (outcomeOf (company grammar options transform).generateBody (Company.entered .generate c)) := by
  let begun := Company.entered .generate c
  rw [outcomeOf_generate_any (r := c.toRun options transform) h]
  unfold Company.generateBody
  rw [outcomeOf_bind_ok (outcomeOf_get _)]
  show Enacts options transform _ (if c.world.currentGraph.units.isEmpty then _ else
      afterOutput (begun.toRun options transform)
        (Bindery.emit c.world.currentGraph .standard options c.world.files))
    (outcomeOf (if c.world.currentGraph.units.isEmpty then _ else _) begun)
  cases c.world.currentGraph.units.isEmpty with
  | true => exact .ok (c := begun) trivial
  | false =>
    let noted : Course Workshop Value Pass := { begun with events := begun.events ++ [.emitting] }
    have hact := outcomeOf_act (company grammar options transform).emit noted
    have hworld : noted.world = c.world := rfl
    rw [outcomeOf_emit, hworld] at hact
    rw [if_neg Bool.false_ne_true, if_neg Bool.false_ne_true,
      outcomeOf_bind_ok (outcomeOf_note _ _)]
    show Enacts options transform _ _ (outcomeOf (Course.act _ >>= fun _ => _) noted)
    rw [outcomeOf_bind, hact]
    cases Bindery.emit c.world.currentGraph .standard options c.world.files with
    | error f => exact .error f noted
    | ok written =>
      exact .ok (c := { noted with
        world := { c.world with files := written.2 }
        outputs := written.1 }) trivial

/-! ### Calls -/

/-- Each call does to a run what it does to its course. -/
theorem perform_toRun (grammar : Grammar) (options : Options) (transform : TransformScript)
    (call : Call) (c : Course Workshop Value Pass) :
    (c.toRun options transform).perform (stageFor grammar call) =
      let r := (company grammar options transform).attempt call c
      (r.1, r.2.toRun options transform) := by
  rw [run_perform]
  by_cases h : c.stage = call.expected
  · rw [Company.attempt_of_eq h]
    cases call with
    | parse => exact (parse_enacts h).eq
    | process => exact (process_enacts h).eq
    | generate => exact (generate_enacts h).eq
  · rw [Company.attempt_of_ne h]
    cases call with
    | parse =>
      exact outcomeOf_bind_error
        (outcomeOf_enter_of_ne (r := c.toRun options transform) h .parsed) _
    | process =>
      exact outcomeOf_bind_error
        (outcomeOf_enter_of_ne (r := c.toRun options transform) h .processed) _
    | generate =>
      exact outcomeOf_bind_error
        (outcomeOf_enter_of_ne (r := c.toRun options transform) h .generated) _

/-- A run is a course at every call. -/
theorem after_eq (grammar : Grammar) (options : Options) (transform : TransformScript)
    (files : FileTree) (calls : List Call) :
    after grammar (start options transform files) calls =
      ((company grammar options transform).after (.start files) calls).toRun options transform := by
  induction calls using List.reverseRecOn with
  | nil => rfl
  | append_singleton calls call ih =>
    have hlast : after grammar (start options transform files) (calls ++ [call]) =
        ((after grammar (start options transform files) calls).perform
          (stageFor grammar call)).2 := by
      unfold after
      rw [List.foldl_append]
      rfl
    rw [hlast, ih, perform_toRun, Company.after_append]

/-- The stages keep to their protocol in every course, whatever is called and whatever fails, and
every run is a course whose first passes are those of every run. -/
theorem stages_in_order (calls : List Call) :
    (∀ (W H S P : Type) (co : Company W H S P) (w : W), (co.after w calls).Orderly co) ∧
      ∀ (grammar : Grammar) (options : Options) (transform : TransformScript) (files : FileTree),
        let co := company grammar options transform
        let c := co.after (.start files) calls
        let r := after grammar (start options transform files) calls
        co.builtins = Pass.builtins ∧ r = c.toRun options transform ∧
          ∀ call, r.perform (stageFor grammar call) =
            ((co.attempt call c).1, (co.attempt call c).2.toRun options transform) := by
  refine ⟨fun W H S P co w => co.after_orderly w calls, fun grammar options transform files => ?_⟩
  refine ⟨rfl, after_eq grammar options transform files calls, fun call => ?_⟩
  rw [after_eq]
  exact perform_toRun grammar options transform call _

end Run

end Bindery
