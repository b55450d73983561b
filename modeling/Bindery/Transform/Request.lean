import Bindery.Declaration.Walk

/-!
# Requests of transforms

What a transform can ask of the library before and after the passes: finding declarations by plain
or qualified name, leaving them out of the output, marking classes, renaming and removing. A
qualified name is only made where the plain name does not match.
-/

namespace Bindery

/-- The requests of transforms, about names of a type. -/
inductive Request (N : Type) where
  /-- All classes of a name. -/
  | findClasses (name : N)
  /-- The first complete class of a name, or else the first class. -/
  | findClass (name : N)
  /-- The first scope of a qualified name. -/
  | findNamespace (name : N)
  /-- The first function of a name. -/
  | findFunction (name : N)
  /-- All enumerations. -/
  | findEnums
  /-- Leaves all classes of a name out of the output. -/
  | ignoreClasses (name : N)
  /-- Leaves all functions of a plain name out of the output. -/
  | ignoreFunctions (name : N)
  /-- Has a class laid out although it has virtual methods. -/
  | markValueType (name : N)
  /-- Has a class not laid out. -/
  | markOpaque (name : N)
  /-- Renames a class. -/
  | renameClass (name new : N)
  /-- Takes all classes of a name out of their scopes. -/
  | removeClass (name : N)
  /-- Renames the first enumeration that has an item of a name. -/
  | nameEnum (item new : N)
deriving DecidableEq, Repr

instance {N : Type} : Inhabited (Request N) := ⟨.findEnums⟩

/-- A request about other names, if all of its names have one. -/
def Request.mapM? {N N' : Type} (f : N → Option N') : Request N → Option (Request N')
  | findClasses name => (f name).map findClasses
  | findClass name => (f name).map findClass
  | findNamespace name => (f name).map findNamespace
  | findFunction name => (f name).map findFunction
  | findEnums => some findEnums
  | ignoreClasses name => (f name).map ignoreClasses
  | ignoreFunctions name => (f name).map ignoreFunctions
  | markValueType name => (f name).map markValueType
  | markOpaque name => (f name).map markOpaque
  | renameClass name new => (f name).bind fun n => (f new).map (renameClass n)
  | removeClass name => (f name).map removeClass
  | nameEnum item new => (f item).bind fun n => (f new).map (nameEnum n)

theorem Request.mapM?_some {N : Type} (r : Request N) : r.mapM? some = some r := by
  cases r <;> rfl

/-- What a request answers. -/
inductive Answer where
  /-- Declarations, by number. -/
  | declarations (ids : List Nat)
  /-- A declaration, if there is one. -/
  | declaration (id : Option Nat)
  /-- How many declarations were changed. -/
  | count (n : Nat)
  /-- Whether a declaration was changed. -/
  | done (b : Bool)
deriving DecidableEq, Repr, Inhabited

/-- An answer as a value; `shown` tells what identifies the declaration of a number. -/
def Answer.toValue (shown : Nat → Value) : Answer → Value
  | declarations ids => .list (ids.map shown)
  | declaration (some id) => .object [("id", shown id)]
  | declaration none => .null
  | count n => .int n
  | done b => .bool b

namespace Library

/-- Whether a name is the plain or the qualified name of a declaration. -/
def isCalled (lib : Library) (name : String) (d : Decl) : Except GraphFault Bool :=
  if d.name = name then .ok true else (lib.qualifiedName d).map (· == name)

/-- The classes of a name. -/
def classesCalled (lib : Library) (name : String) : Except GraphFault (List Decl) :=
  lib.classes.filterM (lib.isCalled name)

/-- The first complete class of a name, or else the first class. -/
def classCalled (lib : Library) (name : String) : Except GraphFault (Option Decl) := do
  let found ← lib.classesCalled name
  return (found.find? fun d => !d.body.record?.any (·.incomplete)).orElse fun _ => found.head?

/-- The first scope of a qualified name. -/
def namespaceCalled (lib : Library) (name : String) : Except GraphFault (Option Decl) :=
  lib.namespaces.findM? fun d =>
    if d.name = "" then .ok false else (lib.qualifiedName d).map (· == name)

/-- The first function of a name. -/
def functionCalled (lib : Library) (name : String) : Except GraphFault (Option Decl) :=
  lib.functions.findM? (lib.isCalled name)

/-- The enumerations, in the order of the walk. -/
def enumerations (lib : Library) : List Decl :=
  lib.walk.filter (·.body.isEnumeration)

/-- Whether an enumeration has an item of a name. -/
def hasItem (lib : Library) (item : String) (d : Decl) : Bool :=
  (d.body.listOf "items").any fun id => (lib.decl? id).any (·.name == item)

end Library

namespace Edit

/-- Leaves out those of some declarations that pass a test, one after the other. -/
def ignoreAll (ds : List Decl) (test : Decl → Library → Except GraphFault Bool) : Edit Nat :=
  ds.foldlM
    (fun n d => do
      if ← look (test d) then
        update d.id fun d => { d with ignored := true }
        return n + 1
      else return n)
    0

/-- Changes a class of a name, if there is one. -/
def changeClass (name : String) (change : Nat → Edit Unit) : Edit Answer := do
  match ← look (·.classCalled name) with
  | none => return .done false
  | some d => do
    change d.id
    return .done true

/-- Answers a request. -/
def answer : Request String → Edit Answer
  | .findClasses name => do
    return .declarations ((← look (·.classesCalled name)).map (·.id))
  | .findClass name => do
    return .declaration ((← look (·.classCalled name)).map (·.id))
  | .findNamespace name => do
    return .declaration ((← look (·.namespaceCalled name)).map (·.id))
  | .findFunction name => do
    return .declaration ((← look (·.functionCalled name)).map (·.id))
  | .findEnums => do
    return .declarations ((← get).enumerations.map (·.id))
  | .ignoreClasses name => do
    return .count (← ignoreAll (← get).classes fun d lib => lib.isCalled name d)
  | .ignoreFunctions name => do
    return .count (← ignoreAll (← get).functions fun d _ => .ok (d.name == name))
  | .markValueType name =>
    changeClass name fun id =>
      update id fun d => { d with body := d.body.mapRecord fun r => { r with valueType := true } }
  | .markOpaque name =>
    changeClass name fun id =>
      update id fun d => { d with notes := d.notes.put "opaque" (.bool true) }
  | .renameClass name new => changeClass name fun id => rename id new
  | .removeClass name => do
    let found ← look (·.classesCalled name)
    found.forM fun d => remove d.id
    return .count found.length
  | .nameEnum item new => do
    let lib ← get
    match lib.enumerations.find? (lib.hasItem item) with
    | none => return .done false
    | some d => do
      rename d.id new
      return .done true

end Edit

end Bindery
