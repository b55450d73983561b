import Bindery.Loose.Basic
import Bindery.Loose.Sweep

/-!
# Changes of loose libraries

Creating declarations and giving them attributes, putting them into each other and taking them out,
listing units, renaming and discarding. Everything asks the attributes as they are: the list that
would take a declaration in may be no list, and the number by which one is discarded is what its
attribute `id` holds.
-/

namespace Bindery.LooseM

open LooseLibrary

/-- Puts an item at the end of a list of another one. -/
def appendTo (owner : Item) (list : String) (child : Item) : LooseM Unit := do
  match ← look (·.content owner list) with
  | .list items => assign owner list (.list (items ++ [child]))
  | c => throw (.misfit (.noOperation c.typeName "append"))

/-- Puts an item into another one, on the list for its form. -/
def addChild (owner child : Item) : LooseM Unit := do
  look (·.canDo owner "add_child")
  let l ← get
  match l.formOf? owner, l.formOf? child with
  | some o, some c =>
    match o.listFor? c with
    | some list => appendTo owner list child
    | none => do
      let ownerKind ← look (·.kindOf owner)
      throw (.graph (.refuses ownerKind (← look (·.kindOf child))))
  | _, _ => pure ()

/-- Creates a declaration of a form inside another one. Its number is used up even when the other
one refuses it. -/
def create (form : Form) (parent : Option Item) (given : List (String × Content)) :
    LooseM Nat := do
  let id := (← get).created
  let outer ←
    match parent with
    | none => pure Content.ofNothing
    | some p => look (·.content p "id")
  let blank := (LooseDecl.ofDecl (.blank id none (.blank form))).put "parent_id" outer
  let decl := given.foldl (fun d e => d.put e.1 e.2) blank
  modify fun l => { l with slots := l.slots ++ [⟨decl, true⟩] }
  match parent with
  | none => pure ()
  | some p => addChild p (.declaration id)
  return id

/-- Whether a content has a declaration among its items. -/
def holds (c : Content) (id : Nat) (form : Form) : Except Fault Bool :=
  match c with
  | .list items =>
    .ok (items.any fun i =>
      match i with
      | .declaration other => other == id
      | .value _ => false)
  | .value (.object _) => .ok false
  | .value (.text _) => .error (.misfit (.notAPart form.name))
  | c => .error (.misfit (.holdsNothing c.typeName))

/-- A list without the first occurrence of a declaration. -/
def without (id : Nat) : List Item → List Item
  | [] => []
  | .declaration other :: rest =>
    if other = id then rest else .declaration other :: without id rest
  | i :: rest => i :: without id rest

/-- Takes a declaration off the first of some lists that has it. Tells whether one has. -/
def takeOff (owner : Item) (id : Nat) (form : Form) : List String → LooseM Bool
  | [] => return false
  | list :: rest => do
    let c ← look (·.content owner list)
    if ← look fun _ => holds c id form then
      match c with
      | .list items => assign owner list (.list (without id items))
      | _ => pure ()
      return true
    else takeOff owner id form rest

/-- The lists of a form from which a declaration is taken, in the order in which they are tried. -/
def searched : Form → List String
  | .record => ["fields", "methods", "classes", "enums"]
  | form => form.lists

/-- The literal of the name of an item. -/
def nameLiteral (item : Item) : LooseM String :=
  return (← look (·.value item "name")).literal

/-- Takes a declaration of a form out of another one, which has only one list. -/
def takeFromList (owner : Item) (list : String) (id : Nat) (form : Form) : LooseM Unit := do
  match ← look (·.content owner list) with
  | .list items =>
    if ← look fun _ => holds (.list items) id form then
      assign owner list (.list (without id items))
    else throw (.graph .notListed)
  | c => throw (.misfit (.noOperation c.typeName "remove"))

/-- Takes a declaration out of another one. -/
def removeChild (owner : Item) (child : Nat) : LooseM Unit := do
  look (·.canDo owner "remove_child")
  let l ← get
  let form := (l.formOf? (.declaration child)).getD .plain
  match l.formOf? owner with
  | some .method | some .function => takeFromList owner "parameters" child form
  | some .enumeration => takeFromList owner "items" child form
  | some o =>
    if o.lists.isEmpty then throw (.graph (.childless (← look (·.kindOf owner))))
    if ← takeOff owner child form (searched o) then return
    let childName ← nameLiteral (.declaration child)
    let ownerName ← nameLiteral owner
    throw (.graph (if o = .record then .notMember childName ownerName
      else .notDeclared childName ownerName))
  | none => pure ()

/-- Lists a declaration as a unit. -/
def addUnit (id : Nat) : LooseM Unit := do
  let number ← look (·.value (.declaration id) "id")
  match ← look (·.registered? number) with
  | some _ => modify fun l => { l with units := l.units ++ [id] }
  | none => throw (.graph (.foreignUnit (← look (·.value (.declaration id) "file_path")).literal))

/-- Takes a declaration out of the scope it lies in; it stays registered. A declaration without one
is taken off the list of units. -/
def remove (id : Nat) : LooseM Unit := do
  match ← look (·.parentOf (.declaration id)) with
  | none => modify fun l => { l with units := l.units.erase id }
  | some owner => removeChild owner id

/-- Gives an item another name; the first name is remembered. -/
def rename (item : Item) (name : Value) : LooseM Unit := do
  look (·.canDo item "rename")
  let old ← look (·.value item "name")
  if name.same old then return
  if (← look (·.value item "original_name")).isNull then
    assign item "original_name" (.ofValue old)
  assign item "name" (.ofValue name)

/-- Unregisters an item and all below it, down to a number of levels, from the inside out. -/
def discardFrom : Nat → Item → LooseM Unit
  | 0, _ => throw (.graph .endless)
  | levels + 1, item => do
    (← look (·.children item)).forM (discardFrom levels)
    let number ← look (·.value item "id")
    match ← look (·.registered? number) with
    | some id => modify (·.unregister id)
    | none => pure ()

/-- Unregisters an item and all below it. -/
def discard (item : Item) : LooseM Unit := do
  discardFrom (← get).levels item

end Bindery.LooseM
