import Bindery.Emit.Template
import Bindery.Graph.Change
import Bindery.Header.Parse
import Bindery.Transform.Script

/-!
# Runs

A run goes through three stages, each once and in order: it parses headers, those of the transform
first; it processes the library, which sorts it, makes the passes and lets the transform work on it;
and it generates output, unless no header was parsed. A header that cannot be parsed is noted and
does not end the run. A stage counts as entered even if it fails. What headers declare is typed;
only a transform can loosen it.
-/

namespace Bindery

/-- How far a run has come. -/
inductive Stage where
  /-- Nothing was done yet. -/
  | idle
  /-- Headers were parsed. -/
  | parsed
  /-- The library was processed. -/
  | processed
  /-- Output was generated. -/
  | generated
deriving DecidableEq, Repr, Inhabited

/-- The word for a stage. -/
def Stage.word : Stage → String
  | idle => "idle"
  | parsed => "parsed"
  | processed => "processed"
  | generated => "generated"

/-- A header that could not be parsed. -/
structure HeaderFailure where
  /-- The header. -/
  header : String
  /-- Why it could not be parsed. -/
  reason : String
deriving DecidableEq, Repr, Inhabited

/-- The message of a header that could not be parsed. -/
def HeaderFailure.message (f : HeaderFailure) : String :=
  headerMessage f.header f.reason

/-- A run. -/
structure Run where
  /-- Its options. -/
  options : Options
  /-- Its transform. -/
  transform : TransformScript
  /-- The files it works on. -/
  files : FileTree
  /-- How far it has come. -/
  stage : Stage
  /-- What was declared, once parsing has begun. -/
  graph : Option Graph
  /-- The passes, once processing has come to them. -/
  schedule : Option Schedule
  /-- The headers that were parsed. -/
  parsed : List String
  /-- The headers that could not be parsed. -/
  failures : List HeaderFailure
  /-- The files that were written. -/
  outputs : List Path
  /-- Where the transform was called and what it was answered. -/
  hooks : List Value
deriving Repr, Inhabited

/-- A step of a run. -/
abbrev RunM := ExceptT Fault (StateM Run)

namespace Run

/-- A run before its first stage. -/
def start (options : Options) (transform : TransformScript) (files : FileTree) : Run :=
  ⟨options, transform, files, .idle, none, none, [], [], [], []⟩

/-- Makes a step of a run: its outcome and the run then. -/
def perform {α : Type} (r : Run) (m : RunM α) : Except Fault α × Run :=
  (ExceptT.run m).run r

/-- The graph of a run, which is empty before parsing has begun. -/
def currentGraph (r : Run) : Graph :=
  r.graph.getD (.empty (.text "") (.text ""))

/-- A value, or the empty text where it does not count as true. -/
def orEmpty (v : Value) : Value :=
  if v.truthy then v else .text ""

/-- What a library is made for by options. -/
def newLibrary (o : Options) : Library :=
  .empty (orEmpty o.namespaceName) (orEmpty o.libraryName)

/-- Enters a stage from the one before it. -/
def enter (expected target : Stage) : RunM Unit := do
  let r ← get
  if r.stage = expected then set { r with stage := target }
  else throw (.stageOrder target.word r.stage.word expected.word)

/-- Writes entries into the log of the transform. -/
def log (entries : List Value) : RunM Unit :=
  modify fun r => { r with hooks := r.hooks ++ entries }

/-- An outcome as a step. -/
def settle {α : Type} (outcome : Except Fault α) : RunM α :=
  match outcome with
  | .ok a => pure a
  | .error f => throw f

/-- The headers that options name. -/
def headersOf (v : Value) : Except Fault (List Value) :=
  match v.items? with
  | some items => .ok items
  | none => .error (.misfit (.notSpreadable v.typeName))

/-- Parses one header into a library. -/
def parseOne (grammar : Grammar) (options : HeaderOptions) (lib : Library) (header : Value) :
    RunM Library := do
  let (outcome, lib) := lib.parseHeader (← get).files grammar options header
  modify fun r => { r with graph := some (.typed lib) }
  match outcome with
  | .parsed => modify fun r => { r with parsed := r.parsed ++ [header.shown] }
  | .failed reason =>
    modify fun r => { r with failures := r.failures ++ [⟨header.shown, reason⟩] }
  | .aborted f => throw f
  return lib

/-- Parses the headers of the transform and those of the options. -/
def parse (grammar : Grammar) : RunM Unit := do
  enter .idle .parsed
  let r ← get
  let lib := newLibrary r.options
  set { r with graph := some (.typed lib) }
  log [.text "setup_headers"]
  match r.transform.failHeaders with
  | some f => throw (.raised f)
  | none => pure ()
  let dirs ← settle (Options.itemsOf r.options.includeDirs)
  let defines ← settle (Options.itemsOf r.options.defines)
  let headers ← settle (headersOf r.options.headers)
  let _ ← (r.transform.headers ++ headers).foldlM (parseOne grammar ⟨dirs, defines⟩) lib

/-- Lets the transform work on the library. -/
def consult (place : String) (calls : List LoggedRequest) : RunM Unit := do
  log [.text place]
  let r ← get
  let (fault, g, entries) := r.currentGraph.answer calls
  set { r with graph := some g, hooks := r.hooks ++ entries }
  match fault with
  | some f => throw f
  | none => pure ()

/-- Sets up the passes: those of every run, and then those of the transform. -/
def setUpPasses : RunM Unit := do
  let s ← settle (Schedule.empty.addAll Pass.builtins)
  modify fun r => { r with schedule := some s }
  log [.text "setup_passes"]
  let (fault, s) := s.request (← get).transform.passes
  modify fun r => { r with schedule := some s }
  match fault with
  | some f => throw f
  | none => pure ()

/-- Makes the passes. -/
def makePasses : RunM Unit := do
  let r ← get
  let (fault, g, s) := (r.schedule.getD .empty).run r.currentGraph
  set { r with graph := some g, schedule := some s }
  match fault with
  | some f => throw f
  | none => pure ()

/-- Puts the classes of the library into order. -/
def sortLibrary : RunM Unit := do
  let r ← get
  let (outcome, g) := GraphM.sort.perform r.currentGraph
  set { r with graph := some g }
  settle outcome

/-- Processes the library. -/
def process : RunM Unit := do
  enter .parsed .processed
  sortLibrary
  let transform := (← get).transform
  consult "preprocess" transform.before
  setUpPasses
  makePasses
  consult "postprocess" transform.after

/-- Generates output. -/
def generate : RunM Unit := do
  enter .processed .generated
  let r ← get
  if !r.currentGraph.units.isEmpty then
    let (paths, files) ← settle (emit r.currentGraph .standard r.options r.files)
    set { r with outputs := paths, files := files }

/-- All stages. -/
def all (grammar : Grammar) : RunM Unit := do
  parse grammar
  process
  generate

end Run

end Bindery
