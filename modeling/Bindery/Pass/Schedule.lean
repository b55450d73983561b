import Bindery.Graph.Basic
import Bindery.Loose.Passes
import Bindery.Pass.Names

/-!
# Schedules of passes

Passes are added to a schedule in order and run once, in that order. When the run starts the
schedule is sealed: no pass can be added afterwards and the run cannot be repeated. A pass that
fails ends the run; its failure is reported under the name of the pass, unless it is worded as a
failed pass already or nothing holds it back. A pass works on a typed or a loose library as the
graph has it; only a visitor that gives names that are no texts loosens the graph first.
-/

namespace Bindery

/-- The passes. -/
inductive Pass where
  /-- Merges forward declarations into their definitions. -/
  | resolveIncomplete
  /-- Replaces names that cannot be used. -/
  | cleanNames
  /-- Tells overloads apart. -/
  | separateOverloads
  /-- Tells the names of the module apart. -/
  | separateModuleNames
  /-- Visits declarations as data tell. -/
  | visitor (script : VisitScript)
  /-- Calls a function with the library. -/
  | call (script : CallScript)
deriving Repr, Inhabited

namespace Pass

/-- The passes that every run makes, in order. -/
def builtins : List Pass :=
  [resolveIncomplete, cleanNames, separateOverloads, separateModuleNames]

/-- The name of a pass. Only a pass described by data can have one that is no text. -/
def name : Pass → Value
  | resolveIncomplete => .text "resolve_incomplete_decls"
  | cleanNames => .text "clean_invalid_decl_names"
  | separateOverloads => .text "check_duplicate_names"
  | separateModuleNames => .text "check_module_names"
  | visitor script => script.name
  | call script => if script.named.truthy then script.named else .text script.name

/-- The sort of a pass. -/
def sortName : Pass → String
  | resolveIncomplete => "ResolveIncompleteDeclsPass"
  | cleanNames => "CleanInvalidDeclNamesPass"
  | separateOverloads => "CheckDuplicateNamesPass"
  | separateModuleNames => "CheckModuleNamesPass"
  | visitor _ => "VisitorPass"
  | call _ => "FunctionPass"

/-- The pass that every run makes under a name. -/
def ofName? (name : String) : Option Pass :=
  builtins.find? (·.name.text? == some name)

end Pass

namespace PassM

/-- A step on the library that a graph is, of whichever sort that is. -/
def onPart {L : Type} (wrap : L → Graph) (lib : L) (m : PassM L Unit) : PassM Graph Unit := do
  let s ← get
  let (outcome, t) := m.perform ⟨lib, s.log, s.tally⟩
  set (⟨wrap t.library, t.log, t.tally⟩ : PassState Graph)
  match outcome with
  | .ok () => pure ()
  | .error f => throw f

/-- A step on a loose library, as a step on a graph that loosens it. -/
def loosely (m : PassM LooseLibrary Unit) : PassM Graph Unit := do
  onPart .loose (← get).library.loosened m

/-- A step on a graph, in the way that fits it. -/
def either (typedly : PassM Library Unit) (m : PassM LooseLibrary Unit) : PassM Graph Unit := do
  match (← get).library with
  | .typed lib => onPart .typed lib typedly
  | .loose _ => loosely m

end PassM

namespace Pass

open PassM

/-- What a pass does. -/
def action : Pass → PassM Graph Unit
  | resolveIncomplete => either PassM.resolveIncomplete resolveLoose
  | cleanNames => either PassM.cleanNames cleanLoose
  | separateOverloads => either PassM.separateOverloads separateLooseOverloads
  | separateModuleNames => either PassM.separateModuleNames separateLooseModuleNames
  | visitor script =>
    match script.newNames? with
    | some names => either (visitLibrary script names) (visitLooseLibrary script)
    | none => loosely (visitLooseLibrary script)
  | call script => do PassM.call script (← get).library.size

end Pass

/-- A pass of a schedule and what it has done. -/
structure ScheduledPass where
  /-- The pass. -/
  pass : Pass
  /-- What it has done. -/
  tally : Tally
deriving Repr, Inhabited

/-- A schedule of passes. -/
structure Schedule where
  /-- The passes, in order. -/
  passes : List ScheduledPass
  /-- Whether the run has started. -/
  sealed : Bool
  /-- Entries written by passes described by data. -/
  log : List Value
deriving Repr, Inhabited

namespace Schedule

/-- A schedule without passes. -/
def empty : Schedule := ⟨[], false, []⟩

/-- The names of the passes, in order. -/
def names (s : Schedule) : List Value :=
  s.passes.map (·.pass.name)

/-- Adds a pass behind all others. -/
def add (s : Schedule) (p : Pass) : Except Fault Schedule :=
  if s.sealed then .error .passesStarted
  else .ok { s with passes := s.passes ++ [⟨p, .empty⟩] }

/-- Adds passes one after the other. -/
def addAll (s : Schedule) (ps : List Pass) : Except Fault Schedule :=
  ps.foldlM add s

/-- How the failure of a pass is reported. -/
def wrap (pass : Pass) (f : Fault) : Fault :=
  if f.label = "PassError" ∨ f.isUnheld then f else .passFailed pass.name.shown f.message

/-- Runs passes in order until one fails. -/
def runFrom (g : Graph) (log : List Value) :
    List ScheduledPass → Option Fault × Graph × List Value × List ScheduledPass
  | [] => (none, g, log, [])
  | p :: ps =>
    let (outcome, s) := p.pass.action.perform ⟨g, log, p.tally⟩
    match outcome with
    | .error f => (some (wrap p.pass f), s.library, s.log, ⟨p.pass, s.tally⟩ :: ps)
    | .ok () =>
      let (fault, g, log, rest) := runFrom s.library s.log ps
      (fault, g, log, ⟨p.pass, s.tally⟩ :: rest)

/-- Runs the schedule on a graph: the failure that ended it, if any, and what it leaves. -/
def run (s : Schedule) (g : Graph) : Option Fault × Graph × Schedule :=
  if s.sealed then (some .passesExecuted, g, s)
  else
    let (fault, g, log, passes) := runFrom g s.log s.passes
    (fault, g, ⟨passes, true, log⟩)

end Schedule

end Bindery
