import Bindery.Proofs.Step
import Bindery.Run

/-!
# Courses

What a run does is laid out here for any company that it keeps: a transform, a parser, passes and a
template that do as they like with a world of their own and may fail anywhere. A course is how far
such a run has come, with the events on the way. Whoever calls the stages goes on calling after a
failure, in any order.
-/

namespace Bindery

variable {W H S P α : Type}

/-- A call of a stage. -/
inductive Call where
  /-- To parse headers. -/
  | parse
  /-- To process the library. -/
  | process
  /-- To generate output. -/
  | generate
deriving DecidableEq, Repr, Inhabited

namespace Call

/-- The stage that a run must have come to. -/
def expected : Call → Stage
  | parse => .idle
  | process => .parsed
  | generate => .processed

/-- The stage that a run comes to. -/
def target : Call → Stage
  | parse => .parsed
  | process => .processed
  | generate => .generated

end Call

/-- How many stages lie behind a run. -/
def Stage.rank : Stage → Nat
  | idle => 0
  | parsed => 1
  | processed => 2
  | generated => 3

/-- The places at which a transform is called. -/
inductive Hook where
  /-- To name headers. -/
  | setupHeaders
  /-- To work on the library before the passes. -/
  | preprocess
  /-- To register passes. -/
  | setupPasses
  /-- To work on the library after the passes. -/
  | postprocess
deriving DecidableEq, Repr, Inhabited

/-- What happens in a course. -/
inductive Event (P : Type) where
  /-- A call gets past the check of the stage. -/
  | entered (call : Call)
  /-- A call that got past the check ends, well or in a failure. -/
  | ended (call : Call) (well : Bool)
  /-- The transform is called. -/
  | hook (hook : Hook)
  /-- A pass is made, well or up to a failure. -/
  | made (pass : P) (well : Bool)
  /-- The library is handed to the template. -/
  | emitting
deriving Repr

/-- A step on the world that a company works on. -/
abbrev Act (W : Type) := ExceptT Fault (StateM W)

/-- The passes that were registered, in order. -/
structure Roster (P : Type) where
  /-- The passes. -/
  passes : List P
  /-- Whether they were started, so that no pass can be added. -/
  sealed : Bool

/-- What a transform does with the roster that it is handed. It goes on from what each step comes
to, also from a failure. -/
inductive Registering (W P : Type) where
  /-- Leaves, well or in a failure. -/
  | leave (outcome : Except Fault Unit)
  /-- Works on the world. -/
  | work (step : W → W) (next : W → Registering W P)
  /-- Looks at the roster. -/
  | look (next : Roster P → Registering W P)
  /-- Adds a pass, which is made ready first if passes can still be added. -/
  | add (ready : Act W P) (next : Except Fault Unit → Registering W P)
  /-- Seals the roster. -/
  | close (next : Registering W P)
  /-- Runs the passes. -/
  | run (next : Except Fault Unit → Registering W P)

/-- What a run works with, on a world of its own: a transform, a parser of headers, passes and a
template. -/
structure Company (W H S P : Type) where
  /-- Starts a library. -/
  begin : W → W
  /-- The headers that the transform names. -/
  setupHeaders : Act W (List H)
  /-- The settings of the parser and the headers that the options name. -/
  settings : Act W (S × List H)
  /-- Parses a header, or tells why it could not be parsed. -/
  parseHeader : S → H → Act W (Option String)
  /-- Puts the library into order. -/
  sort : Act W Unit
  /-- What the transform does before the passes. -/
  preprocess : Act W Unit
  /-- The passes of every run. -/
  builtin : Fin 4 → P
  /-- How the transform registers passes. -/
  setupPasses : Registering W P
  /-- What a pass is called. -/
  name : P → String
  /-- Makes a pass. -/
  make : P → Act W Unit
  /-- What the transform does after the passes. -/
  postprocess : Act W Unit
  /-- Whether no header was parsed. -/
  bare : W → Bool
  /-- Writes the output. -/
  emit : Act W (List Path)

/-- How far a run has come. -/
structure Course (W H P : Type) where
  /-- Its stage. -/
  stage : Stage
  /-- The world that its company works on. -/
  world : W
  /-- The passes, once processing has come to them. -/
  roster : Option (Roster P)
  /-- The headers that were parsed. -/
  parsed : List H
  /-- The headers that could not be parsed, with the reasons. -/
  failures : List (H × String)
  /-- The files that were written. -/
  outputs : List Path
  /-- What has happened. -/
  events : List (Event P)

/-- A step in a course. -/
abbrev CourseM (W H P : Type) := ExceptT Fault (StateM (Course W H P))

/-- An outcome as a step. -/
def given {σ : Type} : Except Fault α → ExceptT Fault (StateM σ) α
  | .ok a => pure a
  | .error f => throw f

namespace Course

/-- A course before its first stage. -/
def start (w : W) : Course W H P :=
  ⟨.idle, w, none, [], [], [], []⟩

/-- The passes that were registered. -/
def registered (c : Course W H P) : List P :=
  (c.roster.map (·.passes)).getD []

/-- Notes what happens. -/
def note (e : Event P) : CourseM W H P Unit :=
  modify fun c => { c with events := c.events ++ [e] }

/-- A step on the world as a step in a course. -/
def act (m : Act W α) : CourseM W H P α := do
  let c ← get
  set { c with world := (outcomeOf m c.world).2 }
  given (outcomeOf m c.world).1

/-- A step whose failure is caught. -/
def caught (m : CourseM W H P α) : CourseM W H P (Except Fault α) := do
  let c ← get
  set (outcomeOf m c).2
  pure (outcomeOf m c).1

/-- Registers a pass behind all others. -/
def enroll (ready : Act W P) : CourseM W H P Unit := do
  let roster := (← get).roster.getD ⟨[], false⟩
  if roster.sealed then throw .passesStarted
  else
    let p ← act ready
    modify fun c => { c with roster := some { roster with passes := roster.passes ++ [p] } }

end Course

open Course

namespace Company

variable (co : Company W H S P)

/-- The passes of every run, in order. -/
def builtins : List P := List.ofFn co.builtin

/-- How the failure of a pass is reported: under its name, unless it is worded as a failed pass
already or nothing holds it back. -/
def reported (p : P) (f : Fault) : Fault :=
  if f.label = "PassError" ∨ f.isUnheld then f else .passFailed (co.name p) f.message

/-- Makes a pass. -/
def makePass (p : P) : CourseM W H P Unit := do
  let outcome ← caught (act (co.make p))
  note (.made p outcome.isOk)
  given (outcome.mapError (co.reported p))

/-- Seals the roster and makes its passes, in order, up to the first that fails. -/
def runPasses : CourseM W H P Unit := do
  let roster := (← get).roster.getD ⟨[], false⟩
  if roster.sealed then throw .passesExecuted
  else
    modify fun c => { c with roster := some { roster with sealed := true } }
    roster.passes.forM co.makePass

/-- What a transform does with the roster. -/
def register : Registering W P → CourseM W H P Unit
  | .leave outcome => given outcome
  | .work step next => do
    modify fun c => { c with world := step c.world }
    register (next (← get).world)
  | .look next => do register (next ((← get).roster.getD ⟨[], false⟩))
  | .add ready next => do register (next (← caught (enroll ready)))
  | .close next => do
    modify fun c => { c with roster := c.roster.map ({ · with sealed := true }) }
    register next
  | .run next => do register (next (← caught co.runPasses))

/-- Parses one header. -/
def parseOne (s : S) (header : H) : CourseM W H P Unit := do
  match ← act (co.parseHeader s header) with
  | none => modify fun c => { c with parsed := c.parsed ++ [header] }
  | some reason => modify fun c => { c with failures := c.failures ++ [(header, reason)] }

/-- What is done to parse headers. -/
def parseBody : CourseM W H P Unit := do
  modify fun c => { c with world := co.begin c.world }
  note (.hook .setupHeaders)
  let extra ← act co.setupHeaders
  let (s, named) ← act co.settings
  (extra ++ named).forM (co.parseOne s)

/-- What is done to set up the passes. -/
def setUpBody : CourseM W H P Unit := do
  modify fun c => { c with roster := some ⟨[], false⟩ }
  co.builtins.forM fun p => enroll (pure p)
  note (.hook .setupPasses)
  co.register co.setupPasses

/-- What is done to process the library. -/
def processBody : CourseM W H P Unit := do
  act co.sort
  note (.hook .preprocess)
  act co.preprocess
  co.setUpBody
  co.runPasses
  note (.hook .postprocess)
  act co.postprocess

/-- What is done to generate output. -/
def generateBody : CourseM W H P Unit := do
  if co.bare (← get).world then pure ()
  else
    note .emitting
    let paths ← act co.emit
    modify fun c => { c with outputs := paths }

/-- What a call does once it is past the check of the stage. -/
def body : Call → CourseM W H P Unit
  | .parse => co.parseBody
  | .process => co.processBody
  | .generate => co.generateBody

end Company

/-- Checks the stage, which counts as reached from then on. -/
def Course.enter (call : Call) : CourseM W H P Unit := do
  let c ← get
  if c.stage = call.expected then
    set { c with stage := call.target, events := c.events ++ [Event.entered call] }
  else throw (.stageOrder call.target.word c.stage.word call.expected.word)

namespace Company

variable (co : Company W H S P)

/-- Makes a call: its outcome and the course then. -/
def attempt (call : Call) (c : Course W H P) : Except Fault Unit × Course W H P :=
  match outcomeOf (enter call) c with
  | (.error f, c) => (.error f, c)
  | (.ok (), c) =>
    let (outcome, c) := outcomeOf (co.body call) c
    (outcome, { c with events := c.events ++ [.ended call outcome.isOk] })

/-- The course when calls were made one after the other, whatever came of each. -/
def after (w : W) (calls : List Call) : Course W H P :=
  calls.foldl (fun c call => (co.attempt call c).2) (start w)

end Company

/-! ### What steps do to a course -/

theorem outcomeOf_given {σ : Type} (outcome : Except Fault α) (s : σ) :
    outcomeOf (given outcome) s = (outcome, s) := by
  cases outcome <;> rfl

namespace Course

theorem outcomeOf_note (e : Event P) (c : Course W H P) :
    outcomeOf (note e) c = (.ok (), { c with events := c.events ++ [e] }) := rfl

theorem outcomeOf_act (m : Act W α) (c : Course W H P) :
    outcomeOf (act m) c =
      ((outcomeOf m c.world).1, { c with world := (outcomeOf m c.world).2 }) := by
  unfold act
  rw [outcomeOf_bind_ok (outcomeOf_get c), outcomeOf_bind_ok (outcomeOf_set _ _), outcomeOf_given]

theorem outcomeOf_caught (m : CourseM W H P α) (c : Course W H P) :
    outcomeOf (caught m) c = (.ok (outcomeOf m c).1, (outcomeOf m c).2) := by
  unfold caught
  rw [outcomeOf_bind_ok (outcomeOf_get c), outcomeOf_bind_ok (outcomeOf_set _ _)]
  rfl

/-- A pass is registered only as long as the roster is not sealed. -/
theorem outcomeOf_enroll {c : Course W H P} {roster : Roster P} (h : c.roster = some roster)
    (ready : Act W P) :
    outcomeOf (enroll ready) c =
      if roster.sealed then (.error .passesStarted, c)
      else outcomeOf (act ready >>= fun p => modify fun c =>
        { c with roster := some { roster with passes := roster.passes ++ [p] } }) c := by
  unfold enroll
  rw [outcomeOf_bind_ok (outcomeOf_get c), h, Option.getD_some]
  split <;> rename_i hsealed <;> simp only [hsealed] <;> rfl

theorem outcomeOf_makePass (co : Company W H S P) (p : P) (c : Course W H P) :
    outcomeOf (co.makePass p) c =
      let r := outcomeOf (co.make p) c.world
      (r.1.mapError (co.reported p),
        { c with world := r.2, events := c.events ++ [.made p r.1.isOk] }) := by
  unfold Company.makePass
  rw [outcomeOf_bind_ok (outcomeOf_caught _ _), outcomeOf_bind_ok (outcomeOf_note _ _),
    outcomeOf_given, outcomeOf_act]

/-- The passes are made only as long as the roster is not sealed. -/
theorem outcomeOf_runPasses (co : Company W H S P) {c : Course W H P} {roster : Roster P}
    (h : c.roster = some roster) :
    outcomeOf co.runPasses c =
      if roster.sealed then (.error .passesExecuted, c)
      else outcomeOf (roster.passes.forM co.makePass)
        { c with roster := some { roster with sealed := true } } := by
  unfold Company.runPasses
  rw [outcomeOf_bind_ok (outcomeOf_get c), h, Option.getD_some]
  split <;> rename_i hsealed <;> simp only [hsealed] <;> rfl

/-- A call that does not come next is refused and changes nothing. -/
theorem outcomeOf_enter_of_ne {call : Call} {c : Course W H P} (h : c.stage ≠ call.expected) :
    outcomeOf (enter call) c =
      (.error (.stageOrder call.target.word c.stage.word call.expected.word), c) := by
  unfold enter
  rw [outcomeOf_bind_ok (outcomeOf_get c), if_neg h]
  rfl

/-- A call that comes next gets past the check. -/
theorem outcomeOf_enter_of_eq {call : Call} {c : Course W H P} (h : c.stage = call.expected) :
    outcomeOf (enter call) c =
      (.ok (), { c with stage := call.target, events := c.events ++ [.entered call] }) := by
  unfold enter
  rw [outcomeOf_bind_ok (outcomeOf_get c), if_pos h]
  rfl

end Course

end Bindery
