import Bindery.Declaration.Dump
import Bindery.Declaration.Walk
import Bindery.Emit.NameIndex
import Bindery.Graph.Basic
import Bindery.Loose.NameIndex
import Bindery.Loose.Sweep

/-!
# Views of graphs

What data can ask of a graph without changing it. Declarations are told by what identifies them, and
names are given as they are.
-/

namespace Bindery

/-- A declaration as a walk tells of it. -/
structure WalkEntry where
  /-- What identifies it. -/
  id : Value
  /-- Its kind. -/
  kind : Kind
  /-- Its name. -/
  name : Value
deriving Repr, Inhabited

namespace Graph

variable (g : Graph)

/-- What identifies declarations. -/
def idsOf (ds : List Decl) : List Value :=
  ds.map fun d => .int d.id

/-- What identifies what a sweep finds. -/
def sweptIds (sweep : LooseLibrary → Sweep) (l : LooseLibrary) : Except Fault (List Value) :=
  (sweep l).mapM (l.value · "id")

/-- What identifies an item. -/
def itemId (l : LooseLibrary) (item : Option Item) : Except Fault Value :=
  match item with
  | none => .ok .null
  | some i => l.value i "id"

/-- What identifies a declaration, if there is one. -/
def declId (d : Option Decl) : Value :=
  (d.map fun d => .int d.id).getD .null

/-- A registered declaration of a typed library, by a value that stands for its number. -/
def registered (lib : Library) (v : Value) : Except Fault Decl := do
  let key ← LooseLibrary.key v
  match key.asNumber?.bind lib.registered? with
  | some d => return d
  | none => throw (.graph (.missing v.shown))

/-- The declaration of a number of a typed library. -/
def created (lib : Library) (id : Nat) : Except GraphFault Decl :=
  match lib.decl? id with
  | some d => .ok d
  | none => .error (.missing (toString id))

/-- Whether a value stands for a registered number. -/
def hasRegistered (v : Value) : Except Fault Bool := do
  return (← LooseLibrary.key v).asNumber?.any g.contains

/-- The name of what is registered under a number. -/
def registeredName (v : Value) : Except Fault Value :=
  match g with
  | typed lib => do return .text (← registered lib v).name
  | loose l => do l.value (← l.get v) "name"

/-- What identifies the complete definition behind what is registered under a number. -/
def resolvedId (v : Value) : Except Fault Value :=
  match g with
  | typed lib => do
    let d ← registered lib v
    return .int (← (lib.resolve d.id).mapError .graph).id
  | loose l => do l.value (← l.resolve v) "id"

/-- What an attribute of a declaration holds, as a value. -/
def value (id : Nat) (name : String) : Except Fault Value :=
  match g with
  | typed lib => do
    let d ← (created lib id).mapError Fault.graph
    return (((LooseDecl.ofDecl d).get? name).map (·.toValue)).getD .null
  | loose l => l.value (.declaration id) name

/-- The kind of a declaration. -/
def kindOf (id : Nat) : Except Fault Kind :=
  g.ask (fun lib => (created lib id).map (·.kind)) (·.kindOf (.declaration id))

/-- What identifies the declarations inside a declaration. -/
def childIds (id : Nat) : Except Fault (List Value) :=
  g.ask (fun lib => (created lib id).map fun d => idsOf (lib.childrenOf d))
    fun l => do (← l.children (.declaration id)).mapM (l.value · "id")

/-- What identifies the declaration that a declaration lies in. -/
def parentId (id : Nat) : Except Fault Value :=
  g.ask (fun lib => do return declId (← lib.parentOf (← created lib id)))
    fun l => do itemId l (← l.parentOf (.declaration id))

/-- What identifies the unit that a declaration lies in. -/
def unitId (id : Nat) : Except Fault Value :=
  g.ask (fun lib => do return declId (← lib.unitOf (← created lib id)))
    fun l => do itemId l (← l.unitOf (.declaration id))

/-- The qualified name of a declaration, with the names everything was created with if `first` says
so. -/
def qualifiedName (first : Bool) (id : Nat) : Except Fault String :=
  g.ask
    (fun lib => do
      let d ← created lib id
      if first then lib.qualifiedFirstName d else lib.qualifiedName d)
    (·.qualifiedName first (.declaration id))

/-- What identifies the units and the scopes below them. -/
def namespaceIds : Except Fault (List Value) :=
  g.ask (fun lib => .ok (idsOf lib.namespaces)) (sweptIds (·.namespaces))

/-- What identifies the classes. -/
def classIds : Except Fault (List Value) :=
  g.ask (fun lib => .ok (idsOf lib.classes)) (sweptIds (·.classes))

/-- What identifies the units. -/
def unitIds : List Value :=
  g.units.map g.idOf

/-- The walk through a graph. -/
def walk : Except Fault (List WalkEntry) :=
  g.ask (fun lib => .ok (lib.walk.map fun d => ⟨.int d.id, d.kind, .text d.name⟩)) fun l =>
    l.walk.mapM fun i => return ⟨← l.value i "id", ← l.kindOf i, ← l.value i "name"⟩

/-- The dump of a declaration. -/
def dumpDecl (id : Nat) : Except Fault Value :=
  g.ask (fun lib => .ok (lib.dumpDecl id)) (·.dumpDecl id)

/-- The dump of a graph. -/
def dump : Except Fault Value :=
  g.ask (fun lib => .ok lib.dump) (·.dump)

/-- What identifies the classes and enumerations that are known by name, by name. -/
def nameIndex : Except Fault (List (String × Value)) :=
  g.ask (fun lib => do return (← lib.nameIndex).map fun e => (e.1, .int e.2)) fun l => do
    (← l.nameIndex).mapM fun (name, i) => return (name, ← l.value i "id")

/-- What identifies the classes that are emitted. -/
def emittedClassIds : Except Fault (List Value) :=
  g.ask (fun lib => .ok (idsOf lib.emittedClasses)) fun l => do
    (← l.emittedClasses).mapM (l.value · "id")

/-- What identifies the enumerations that are emitted. -/
def emittedEnumIds : Except Fault (List Value) :=
  g.ask (fun lib => .ok (idsOf lib.emittedEnums)) fun l => do
    (← l.emittedEnums).mapM (l.value · "id")

/-- The description of a type, which has to be a text. -/
def lookup (table : TypeTable) (signature : Value) : Except Fault Descriptor :=
  match g with
  | loose l => (LooseEmission.ofLibrary l table).lookup signature
  | typed lib =>
    let e := Emission.ofLibrary lib table
    match signature with
    | .text s => e.lookup s
    | v => do
      let _ ← e.names
      throw (.misfit (.notAText v.typeName))

end Graph

end Bindery
