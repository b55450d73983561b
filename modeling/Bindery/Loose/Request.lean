import Bindery.Loose.Edit
import Bindery.Transform.Request

/-!
# Requests about loose libraries

What a transform can ask of a loose library. Names are compared as values, so a request can be about
any value. A search takes the declarations one by one and goes no further than it has to.
-/

namespace Bindery

namespace LooseLibrary

variable (l : LooseLibrary)

/-- Whether a value is the plain or the qualified name of an item. -/
def isCalled (name : Value) (item : Item) : Except Fault Bool := do
  if (← l.value item "name").same name then return true
  return (Value.text (← l.qualifiedName false item)).same name

/-- Whether a value is the plain name of an item. -/
def isPlainly (name : Value) (item : Item) : Except Fault Bool := do
  return (← l.value item "name").same name

/-- The classes of a name. -/
def classesCalled (name : Value) : Sweep :=
  l.classes.filter (l.isCalled name)

/-- The first complete class of a name, or else the first class. -/
def classCalled (name : Value) : Except Fault (Option Item) := do
  let found ← (l.classesCalled name).all
  let complete ← found.findM? fun i => return !(← l.truth i "is_incomplete")
  return complete.orElse fun _ => found.head?

/-- The first scope of a qualified name. -/
def namespaceCalled (name : Value) : Except Fault (Option Item) :=
  l.namespaces.find? fun i => do
    if !(← l.truth i "name") then return false
    return (Value.text (← l.qualifiedName false i)).same name

/-- The first function of a name. -/
def functionCalled (name : Value) : Except Fault (Option Item) :=
  l.functions.find? (l.isCalled name)

/-- The enumerations, in the order of the walk. -/
def enumerations : Sweep :=
  l.walk.filter fun i => .ok (l.hasForm .enumeration i)

/-- Whether an enumeration has an item of a name. -/
def hasItem (name : Value) (item : Item) : Except Fault Bool := do
  return (← (← l.inside item "items").findM? (l.isPlainly name)).isSome

end LooseLibrary

namespace LooseM

open LooseLibrary

/-- Leaves out what a sweep finds, one after the other, and counts it. -/
def ignoreAll (s : Sweep) : LooseM Nat := do
  s.found.forM fun i => assign i "ignored" (.value (.bool true))
  match s.fault with
  | some f => throw f
  | none => return s.found.length

/-- Changes a class of a name, if there is one. -/
def changeClass (name : Value) (change : Item → LooseM Unit) : LooseM Answer := do
  match ← look (·.classCalled name) with
  | none => return .done false
  | some item => do
    change item
    return .done true

/-- Marks an item as one that is not laid out. -/
def markOpaque (item : Item) : LooseM Unit := do
  match ← look (·.content item "metadata") with
  | .value (.object fields) =>
    assign item "metadata" (.value (.object (Fields.put fields "opaque" (.bool true))))
  | .list _ => throw (.misfit (.notAListPlace "str"))
  | c => throw (.misfit (.fixedItems c.typeName))

/-- Answers a request. -/
def answer : Request Value → LooseM Answer
  | .findClasses name => do
    return .declarations ((← look fun l => (l.classesCalled name).all).filterMap (·.number?))
  | .findClass name => do
    return .declaration ((← look (·.classCalled name)).bind (·.number?))
  | .findNamespace name => do
    return .declaration ((← look (·.namespaceCalled name)).bind (·.number?))
  | .findFunction name => do
    return .declaration ((← look (·.functionCalled name)).bind (·.number?))
  | .findEnums => do
    return .declarations ((← look (·.enumerations.all)).filterMap (·.number?))
  | .ignoreClasses name => do
    return .count (← ignoreAll ((← get).classesCalled name))
  | .ignoreFunctions name => do
    let l ← get
    return .count (← ignoreAll (l.functions.filter (l.isPlainly name)))
  | .markValueType name =>
    changeClass name fun i => assign i "is_value_type" (.value (.bool true))
  | .markOpaque name => changeClass name markOpaque
  | .renameClass name new => changeClass name fun i => rename i new
  | .removeClass name => do
    let found ← look fun l => (l.classesCalled name).all
    (found.filterMap (·.number?)).forM remove
    return .count found.length
  | .nameEnum item new => do
    let l ← get
    match ← look fun _ => l.enumerations.find? (l.hasItem item) with
    | none => return .done false
    | some e => do
      rename e new
      return .done true

end LooseM

end Bindery
