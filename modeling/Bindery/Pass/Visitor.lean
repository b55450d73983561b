import Bindery.Pass.Basic

/-!
# Passes described by data

A visitor goes through the declarations of every unit. At each it writes an entry into the log, may
rename or remove the declaration or fail, all by the name of the declaration, and then goes on
inside it unless it is told to skip that kind. A unit is visited once as a unit and once as a scope.
The lists of a declaration are read when the visitor comes to them, so a declaration that is removed
while it is visited is neither visited twice nor hides another one.
-/

namespace Bindery

/-- A visitor. -/
structure VisitScript where
  /-- Its name. -/
  name : Value
  /-- The words of the kinds inside which it does not go on. -/
  skip : List String
  /-- New names by name. -/
  rename : List (String × Value)
  /-- The names of declarations that it removes. -/
  remove : List Value
  /-- Failures by name. -/
  fail : List (String × Raised)
deriving Repr, Inhabited

/-- The new names by name, if all of them are texts. -/
def VisitScript.newNames? (script : VisitScript) : Option (List (String × String)) :=
  script.rename.mapM fun e => e.2.text?.map fun name => (e.1, name)

/-- A function that is called once with the whole library. -/
structure CallScript where
  /-- The name of the function. -/
  name : String
  /-- The name it is added under, if it is given one. -/
  named : Value
  /-- How it fails, if it does. -/
  fail : Option Raised
deriving Repr, Inhabited

namespace PassM

/-- The name of a declaration now. -/
def nameNow (id : Nat) : PassM Library String := do
  return (((← get).library.decl? id).map (·.name)).getD ""

/-- Writes down that a visitor has come to a declaration. -/
def arrive (visitor : Value) (label : Kind) (id : Nat) : PassM Library Unit := do
  note (.list [visitor, .text label.word, .int id, .text (← nameNow id)])

/-- What a visitor does to a declaration itself, and whether it goes on inside it; `newNames` has
its new names. -/
def act (script : VisitScript) (newNames : List (String × String)) (label : Kind) (id : Nat) :
    PassM Library Bool := do
  let name ← nameNow id
  arrive script.name label id
  match newNames.find? (·.1 == name) with
  | some (_, new) => edit (Edit.rename id new)
  | none => pure ()
  if (script.remove.filterMap (·.text?)).contains (← nameNow id) then edit (Edit.remove id)
  match script.fail.find? (·.1 == (← nameNow id)) with
  | some (_, failure) => throw (.raised failure)
  | none => pure ()
  return !script.skip.contains label.word

/-- The lists that a visitor goes through inside a declaration, and the kinds it visits their items
as, in order. -/
def listsOf : Kind → List (String × Kind)
  | .unit => []
  | .space =>
    [("namespaces", .space), ("classes", .record), ("enums", .enumeration),
      ("functions", .function)]
  | .record =>
    [("classes", .record), ("enums", .enumeration), ("fields", .field), ("methods", .method)]
  | .method | .function => [("parameters", .parameter)]
  | .enumeration => [("items", .enumItem)]
  | .field | .parameter | .enumItem => []

/-- Visits a declaration and what lies inside it, down to a number of levels. What is done at a
declaration comes before what lies inside it and tells whether the visitor goes on there. -/
def visit (hook : Kind → Nat → PassM Library Bool) : Nat → Kind → Nat → PassM Library Unit
  | 0, _, _ => pure ()
  | levels + 1, label, id => do
    if ← hook label id then
      if label = .unit then visit hook levels .space id
      (listsOf label).forM fun (list, kind) => do
        let inside := (((← get).library.decl? id).map (·.body.listOf list)).getD []
        inside.forM (visit hook levels kind)

/-- Visits every unit. A unit is visited twice, which takes a level more. -/
def visitUnits (hook : Kind → Nat → PassM Library Bool) : PassM Library Unit := do
  let lib := (← get).library
  lib.units.forM (visit hook (lib.created + 2) .unit)

/-- Visits every unit as data tell. -/
def visitLibrary (script : VisitScript) (newNames : List (String × String)) :
    PassM Library Unit :=
  visitUnits (act script newNames)

/-- Calls a function with the whole library, which has so many declarations registered. -/
def call {L : Type} (script : CallScript) (size : Nat) : PassM L Unit := do
  note (.list [.text script.name, .int size])
  match script.fail with
  | some failure => throw (.raised failure)
  | none => pure ()

end PassM

end Bindery
