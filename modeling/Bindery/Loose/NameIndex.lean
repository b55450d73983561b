import Bindery.Loose.Basic
import Bindery.Loose.Sweep
import Bindery.Value.Misfit

/-!
# The names of a loose library

What types of a loose library refer to. A class or enumeration whose name counts is known by its
qualified and plain names, present and first, and all of these have to be texts. What is emitted
comes in the order of the attributes `definition_order`.
-/

namespace Bindery

namespace LooseLibrary

variable (l : LooseLibrary)

/-- The names of an item. -/
def keysOf (item : Item) : Except Fault (List String) := do
  let qualified ← l.qualifiedName false item
  let name ← l.value item "name"
  let first ← l.value item "original_name"
  let qualifiedFirst ← l.qualifiedName true item
  let plain := [name, if first.truthy then first else name].filterMap (·.text?)
  return qualified :: plain ++ [qualifiedFirst]

/-- Whether an item is known by name. -/
def isNamedType (item : Item) : Except Fault Bool := do
  if l.hasForm .record item || l.hasForm .enumeration item then l.truth item "name"
  else return false

/-- Items by name; a name that is known already stays with its item. -/
def nameIndex : Except Fault (List (String × Item)) := do
  let named ← l.walk.mapM fun i => do
    if ← l.isNamedType i then return (← l.keysOf i).map fun key => (key, i)
    return []
  return named.flatten.foldl
    (fun index e => if index.any (·.1 == e.1) then index else index ++ [e]) []

/-- An item as a type sees it. -/
def referent (item : Item) : Except Fault Referent := do
  let id ← l.value item "id"
  let name ← l.value item "name"
  if l.hasForm .enumeration item then return ⟨id, name, .enumeration⟩
  let isHidden := (← l.truth item "is_incomplete") || (← l.truth item "ignored")
  return ⟨id, name, if isHidden then .other else .layoutClass⟩

/-- The classes that are emitted. -/
def emittedClasses : Except Fault (List Item) := do
  let emitted := l.classes.filter fun i => do
    if ← l.truth i "ignored" then return false
    if ← l.truth i "is_incomplete" then return false
    l.truth i "name"
  l.inOrder (← emitted.all)

/-- The enumerations that are emitted. -/
def emittedEnums : Except Fault (List Item) := do
  let emitted := l.walk.filter fun i => do
    if !l.hasForm .enumeration i then return false
    if !(← l.truth i "name") then return false
    return !(← l.truth i "ignored")
  l.inOrder (← emitted.all)

/-- The functions that are emitted. -/
def emittedFunctions : Except Fault (List Item) := do
  let emitted := l.walk.filter fun i => do
    if !l.hasForm .function i then return false
    return !(← l.truth i "ignored")
  l.inOrder (← emitted.all)

end LooseLibrary

/-- What a template works from, for a loose library. -/
structure LooseEmission where
  /-- The library. -/
  library : LooseLibrary
  /-- The table of types. -/
  table : TypeTable
  /-- Its items by name, as far as they can be named. -/
  index : Except Fault (List (String × Item))

namespace LooseEmission

/-- What a template works from, for a loose library. -/
def ofLibrary (l : LooseLibrary) (table : TypeTable) : LooseEmission :=
  ⟨l, table, l.nameIndex⟩

/-- The description of a type, which has to be a text. -/
def lookup (e : LooseEmission) (signature : Value) : Except Fault Descriptor := do
  let index ← (← e.index).mapM fun (name, item) => return (name, ← e.library.referent item)
  let s ← signature.searched.mapError .misfit
  (e.table.search DescentFault.takenByEmission index s).mapError .tooDeep

/-- The complete definition behind an item. -/
def resolved (e : LooseEmission) (item : Item) : Except Fault Item := do
  e.library.resolve (← e.library.value item "id")

end LooseEmission

end Bindery
