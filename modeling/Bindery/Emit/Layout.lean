import Bindery.Declaration.Basic
import Bindery.Emit.NameIndex

/-!
# Layouts of classes

Which classes are laid out and in which order. A class is laid out unless it is marked as opaque or
has virtual methods without being marked as a value type. The layout of a class needs those of its
bases and of the classes that its fields hold by value; these come first, and otherwise definition
order is kept. Classes that need each other in a circle are taken as they come.
-/

namespace Bindery

open Bindery.Text

namespace Library

/-- Whether a declaration is a virtual method. -/
def isVirtualMethod (lib : Library) (id : Nat) : Bool :=
  (lib.decl? id).any fun d =>
    match d.body with
    | .method _ traits => traits.isVirtual
    | _ => false

/-- Whether a class is laid out. -/
def hasLayout (lib : Library) (d : Decl) : Except GraphFault Bool :=
  if (d.notes.get? "opaque").any (·.truthy) then .ok false
  else
    match d.body with
    | .record r => .ok (r.valueType || !r.methods.any lib.isVirtualMethod)
    | b => .error (.noPart b.form.name "is_value_type")

end Library

/-- The marks at the end of a type: pointers, references and array sizes. -/
def declaratorMarks (type : List Char) : List Char :=
  let cs := if type.getLast? = some '\n' then type.dropLast else type
  go [] none cs.reverse
where
  /-- Goes through a type from its end. `marks` are the marks behind; `size` is the array size being
  read, with what follows it, if there is one. -/
  go (marks : List Char) (size : Option (List Char)) : List Char → List Char
    | [] => marks
    | c :: cs =>
      match size with
      | none =>
        if c = '*' ∨ c = '&' then go (c :: marks) none cs
        else if c = ']' then go marks (some (c :: marks)) cs
        else marks
      | some size =>
        if c = '[' then go (c :: size) none cs
        else if isWord c then go marks (some (c :: size)) cs
        else marks

/-- A field of a class. -/
structure FieldMember where
  /-- Its declaration. -/
  decl : Decl
  /-- Its type. -/
  type : String
deriving Repr, Inhabited

namespace Emission

variable (e : Emission)

/-- The fields of a class that are not ignored. -/
def fieldsOf (d : Decl) : List FieldMember :=
  ((d.body.record?.map (·.fields)).getD []).filterMap fun id =>
    match e.library.decl? id with
    | none => none
    | some f =>
      match f.body with
      | .field type _ => if f.ignored then none else some ⟨f, type⟩
      | _ => none

/-- The number of the type that was defined together with a field, if it is registered. -/
def definedType? (f : FieldMember) : Except Fault (Option Nat) :=
  match f.decl.notes.get? "type_declaration_id" with
  | none => .ok none
  | some (.list _) => .error (.misfit (.notAKey "list"))
  | some (.object _) => .error (.misfit (.notAKey "dict"))
  | some v => .ok (v.asNumber?.filter e.library.contains)

/-- The name of a base without the arguments of a template. -/
def baseName (base : String) : String :=
  String.ofList (strip (base.toList.takeWhile (· ≠ '<')))

/-- The bases of a class that are laid out. -/
def basesOf (d : Decl) : Except Fault (List Decl) :=
  ((d.body.record?.map (·.bases)).getD []).foldlM
    (fun found base => do
      match (Library.findIn (← e.names) (baseName base)).bind e.library.decl? with
      | none => return found
      | some b =>
        if b.body.isRecord then
          let laidOut ← (e.library.hasLayout (← e.resolve b.id)).mapError .graph
          return if laidOut then found ++ [b] else found
        else return found)
    []

/-- Whether a type ends in the mark of a pointer or a reference. -/
def endsInMark (type : String) : Bool :=
  type.toList.getLast?.any fun c => c = '*' ∨ c = '&'

/-- The number of the class that a field holds by value, if it does. -/
def fieldDependency (f : FieldMember) : Except Fault (Option Nat) := do
  match ← e.definedType? f with
  | some id => if endsInMark f.type then byType else return some (← e.resolve id).id
  | none => byType
where
  /-- The class that the type of the field refers to. -/
  byType : Except Fault (Option Nat) := do
    let t ← e.lookup f.type
    return if t.kind = .declaration then t.declaration.asNumber? else none

/-- The numbers of the classes whose layouts a class needs, without its own. -/
def dependencies (d : Decl) : Except Fault (List Nat) := do
  let bases ← (← e.basesOf d).mapM fun b => return (← e.resolve b.id).id
  let held ← (e.fieldsOf d).filterMapM e.fieldDependency
  return (bases ++ held).filter (· ≠ d.id)

end Emission

/-- How far the order of layouts has come. -/
structure LayoutState where
  /-- The classes that have their place. -/
  done : List Nat
  /-- The classes whose needs are being placed. -/
  visiting : List Nat
  /-- The classes in the order of their places. -/
  ordered : List Decl
deriving Repr, Inhabited

namespace Emission

variable (e : Emission)

/-- The classes of `classes` with the given numbers, in definition order, each once. -/
def pick (classes : List Decl) (ids : List Nat) : List Decl :=
  Library.inOrder ((ids.eraseDups.mergeSort (· ≤ ·)).filterMap fun id =>
    classes.find? (·.id == id))

/-- Places a class behind the classes it needs, down to a number of levels. -/
def placeLayout (classes : List Decl) : Nat → LayoutState → Decl → Except Fault LayoutState
  | 0, s, _ => .ok s
  | levels + 1, s, d =>
    if s.done.contains d.id || s.visiting.contains d.id then .ok s
    else do
      let needed := pick classes (← e.dependencies d)
      let s ← needed.foldlM (placeLayout classes levels) { s with visiting := d.id :: s.visiting }
      return ⟨d.id :: s.done, s.visiting.erase d.id, s.ordered ++ [d]⟩

/-- Classes in the order of their layouts. -/
def layoutOrder (classes : List Decl) : Except Fault (List Decl) := do
  let s ← classes.foldlM (e.placeLayout classes (classes.length + 1)) ⟨[], [], []⟩
  return s.ordered

end Emission

end Bindery
