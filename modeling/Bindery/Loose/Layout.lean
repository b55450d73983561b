import Bindery.Emit.Layout
import Bindery.Loose.NameIndex

/-!
# Layouts of loose classes

Which classes of a loose library are laid out and in which order. Classes are told apart by their
attributes `id`, which have to be keys; of two classes with the same one, the later counts.
-/

namespace Bindery

namespace LooseLibrary

variable (l : LooseLibrary)

/-- A note attached to an item; nothing where there is none. -/
def noteOf (item : Item) (name : String) : Except Fault Value := do
  match ← l.content item "metadata" with
  | .value (.object fields) => return (Fields.get? fields name).getD .null
  | c => throw (.misfit (.noOperation c.typeName "get"))

/-- Whether an item is laid out. -/
def hasLayout (item : Item) : Except Fault Bool := do
  if (← l.noteOf item "opaque").truthy then return false
  if ← l.truth item "is_value_type" then return true
  return (← (← l.inside item "methods").findM? (l.truth · "is_virtual")).isNone

end LooseLibrary

namespace LooseEmission

open LooseLibrary

variable (e : LooseEmission)

/-- The fields of a class that are not ignored. -/
def fieldsOf (item : Item) : Sweep :=
  (Sweep.ofItems (e.library.inside item "fields")).filter fun f => do
    return !(← e.library.truth f "ignored")

/-- The number of the type that was defined together with a field, if it is registered. -/
def definedType? (field : Item) : Except Fault (Option Value) := do
  match ← e.library.noteOf field "type_declaration_id" with
  | .null => return none
  | v => return if (← e.library.registered? v).isSome then some v else none

/-- The item that the name of a base refers to, if there is one. -/
def baseOf? (base : Item) : Except Fault (Option Item) := do
  let index ← e.index
  match base with
  | .value (.text s) => return (index.find? (·.1 == Emission.baseName s)).map (·.2)
  | .value v => throw (.misfit (.noOperation v.typeName "split"))
  | .declaration _ => return none

/-- The bases of a class that are laid out. -/
def basesOf (item : Item) : Except Fault (List Item) := do
  (← e.library.inside item "bases").filterMapM fun base => do
    match ← e.baseOf? base with
    | none => return none
    | some b =>
      if !e.library.hasForm .record b then return none
      return if ← e.library.hasLayout (← e.resolved b) then some b else none

/-- What identifies the class that a field holds by value, if it does. -/
def fieldDependency (field : Item) : Except Fault (Option Value) := do
  if let some number ← e.definedType? field then
    match ← e.library.value field "type" with
    | .text type =>
      if !Emission.endsInMark type then
        let item ← e.library.resolve number
        return some (← e.library.value item "id")
    | v => throw (.misfit (.noOperation v.typeName "endswith"))
  let t ← e.lookup (← e.library.value field "type")
  return if t.kind = .declaration && !t.declaration.isNull then some t.declaration else none

/-- What identifies the classes whose layouts a class needs, each once and without its own. -/
def dependencies (item : Item) : Except Fault (List Value) := do
  let bases ← (← e.basesOf item).mapM fun b => do
    key (← e.library.value (← e.resolved b) "id")
  let held ← (e.fieldsOf item).mapM fun f => do
    (← e.fieldDependency f).mapM key
  let own ← key (← e.library.value item "id")
  let needed := bases ++ held.filterMap id
  return (needed.foldl (fun ids v => if ids.any (·.same v) then ids else ids ++ [v]) []).filter
    fun v => !v.same own

end LooseEmission

/-- How far the order of loose layouts has come. -/
structure LooseLayoutState where
  /-- What identifies the classes that have their place. -/
  done : List Value
  /-- What identifies the classes whose needs are being placed. -/
  visiting : List Value
  /-- The classes in the order of their places. -/
  ordered : List Item
deriving Repr, Inhabited

namespace LooseEmission

open LooseLibrary

variable (e : LooseEmission)

/-- The class that a value identifies, if there is one. -/
def classOf? (classes : List (Value × Item)) (id : Value) : Option Item :=
  (classes.reverse.find? fun c => c.1.same id).map (·.2)

/-- Those of `classes` that some values identify, in definition order. What identifies none of them
comes before all that have a place in the order. -/
def pick (classes : List (Value × Item)) (ids : List Value) : Except Fault (List Item) := do
  let keyed ← ids.mapM fun id => do
    match classOf? classes id with
    | some c => return (some c, ← e.library.value c "definition_order")
    | none => return (none, .int (-1))
  let before (a b : Option Item × Value) : Except Misfit Bool := a.2.before b.2
  match (Sorted.ofList before keyed).outcome with
  | .ok sorted => return sorted.filterMap (·.1)
  | .error m => throw (.misfit m)

/-- Places a class behind the classes it needs, down to a number of levels. -/
def placeLayout (classes : List (Value × Item)) :
    Nat → LooseLayoutState → Item → Except Fault LooseLayoutState
  | 0, s, _ => .ok s
  | levels + 1, s, item => do
    let id ← e.library.value item "id"
    if s.done.any (·.same id) || s.visiting.any (·.same id) then return s
    let ids ← e.dependencies item
    let ascending := ids.mergeSort fun a b => (b.before a).toOption != some true
    let needed ← e.pick classes ascending
    let s ← needed.foldlM (placeLayout classes levels) { s with visiting := id :: s.visiting }
    return ⟨id :: s.done, s.visiting.filter fun v => !v.same id, s.ordered ++ [item]⟩

/-- Classes in the order of their layouts. -/
def layoutOrder (classes : List Item) : Except Fault (List Item) := do
  let identified ← classes.mapM fun c => return (← key (← e.library.value c "id"), c)
  let s ← classes.foldlM (e.placeLayout identified (classes.length + 1)) ⟨[], [], []⟩
  return s.ordered

end LooseEmission

end Bindery
