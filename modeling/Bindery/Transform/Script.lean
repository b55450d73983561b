import Bindery.Loose.Request
import Bindery.Pass.Schedule

/-!
# Transforms

A transform takes part in a run at four places: it adds headers, it works on the library before the
passes and after them, and it adds passes of its own. Here a transform is described by what it does
at each place. It keeps a log of the places it was called at and of what its requests were answered.
-/

namespace Bindery

/-- What a transform adds to the schedule. -/
inductive PassRequest where
  /-- A pass. -/
  | pass (p : Pass)
  /-- A value that is no pass. -/
  | value (v : Value)
  /-- Something that cannot be asked for. -/
  | refused (f : Fault)
deriving Repr, Inhabited

/-- A request with the words that the log has for it. -/
structure LoggedRequest where
  /-- The words of the request. -/
  words : String
  /-- The request, or why there is no such request. -/
  request : Except Fault (Request Value)
deriving Repr, Inhabited

/-- A transform described by data. -/
structure TransformScript where
  /-- Its name. -/
  name : Value
  /-- How making it fails, if it does. -/
  failInit : Option Raised
  /-- How adding headers fails, if it does. -/
  failHeaders : Option Raised
  /-- The headers it adds. -/
  headers : List Value
  /-- What it asks before the passes. -/
  before : List LoggedRequest
  /-- The passes it adds. -/
  passes : List PassRequest
  /-- What it asks after the passes. -/
  after : List LoggedRequest
deriving Repr, Inhabited

namespace TransformScript

/-- A transform that does nothing. -/
def idle (name : String) : TransformScript := ⟨.text name, none, none, [], [], [], []⟩

end TransformScript

/-- Adds what a transform asks for to a schedule, up to the first refusal. -/
def Schedule.request (s : Schedule) : List PassRequest → Option Fault × Schedule
  | [] => (none, s)
  | .refused f :: _ => (some f, s)
  | .value v :: _ => if s.sealed then (some .passesStarted, s) else (some (.notAPass v.typeName), s)
  | .pass p :: rest =>
    match s.add p with
    | .error f => (some f, s)
    | .ok s => s.request rest

/-- Answers a request. A request about what is no text loosens the graph. -/
def GraphM.answer (request : Request Value) : GraphM Answer :=
  match request.mapM? (·.text?) with
  | some typed => change (Edit.answer typed) (LooseM.answer request)
  | none => loosely (LooseM.answer request)

/-- Answers requests one after the other, up to the first that fails: the failure, the graph, and
the answers for the log. -/
def Graph.answer (g : Graph) : List LoggedRequest → Option Fault × Graph × List Value
  | [] => (none, g, [])
  | c :: rest =>
    match c.request with
    | .error f => (some f, g, [])
    | .ok request =>
      match (GraphM.answer request).perform g with
      | (.error f, g) => (some f, g, [])
      | (.ok r, answered) =>
        let (fault, g, log) := answered.answer rest
        (fault, g, .list [.text c.words, r.toValue answered.idOf] :: log)

end Bindery
