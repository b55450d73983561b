import Bindery.Declaration.Attribute
import Bindery.Declaration.Library
import Bindery.Declaration.Walk
import Bindery.Graph.Basic
import Bindery.Loose.Edit
import Bindery.Loose.Rearrange
import Bindery.Loose.Sweep

/-!
# Changes of graphs

Everything that data can ask of a graph by way of changing it. A change that a typed library can
make keeps it typed; the first one that it cannot make loosens it. Putting a declaration into a
second list, rearranging a list and listing what is no unit are such changes, and so are all
contents that have another type than their attribute and declarations that lie so deep that a way
down may not reach them.
-/

namespace Bindery

namespace GraphM

/-- Creates a declaration of a form with attributes by name. -/
def create (form : Form) (parent : Option Nat) (attributes : Fields) : GraphM Nat := do
  match form.given attributes with
  | .error f => throw (.graph f)
  | .ok given =>
    let loose := LooseM.create form (parent.map .declaration) given
    match ← get with
    | .loose _ => loosely loose
    | .typed lib =>
      match lib.newDecl? form parent given with
      | none => loosely loose
      | some d =>
        if parent.any lib.isDeep then loosely loose
        else change (Edit.create d.body parent fun _ => d) loose

/-- Gives an attribute of a declaration a value. -/
def assign (id : Nat) (name v : Value) : GraphM Unit := do
  let some name := name.text? | throw (.misfit (.notAnAttribute name.typeName))
  match Content.ofGiven name v with
  | .error f => throw (.graph f)
  | .ok c =>
    let loose := LooseM.assign (.declaration id) name c
    match ← get with
    | .loose _ => loosely loose
    | .typed lib =>
      match (lib.decl? id).bind (·.assign? name c) with
      | none => loosely loose
      | some d => change (Edit.update id fun _ => d) loose

/-- Gives a declaration another name. -/
def rename (id : Nat) (name : Value) : GraphM Unit :=
  let loose := LooseM.rename (.declaration id) name
  match name.text? with
  | none => loosely loose
  | some s => change (Edit.rename id s) loose

/-- Puts a declaration into another one. -/
def addChild (owner child : Nat) : GraphM Unit :=
  loosely (LooseM.addChild (.declaration owner) (.declaration child))

/-- Takes a declaration out of another one. -/
def removeChild (owner child : Nat) : GraphM Unit :=
  change (Edit.removeChild owner child) (LooseM.removeChild (.declaration owner) child)

/-- Gives a list of a declaration the items at some places of it. -/
def rearrange (id : Nat) (list places : Value) : GraphM Unit :=
  loosely (LooseM.rearrange id list places)

/-- Lists a declaration as a unit. -/
def addUnit (id : Nat) : GraphM Unit := do
  match ← get with
  | .loose _ => loosely (LooseM.addUnit id)
  | .typed lib =>
    if (lib.decl? id).any (·.body.form = .unit) then
      change (Edit.addUnit id) (LooseM.addUnit id)
    else loosely (LooseM.addUnit id)

/-- Takes a declaration out of the scope it lies in. -/
def remove (id : Nat) : GraphM Unit :=
  change (Edit.remove id) (LooseM.remove id)

/-- Unregisters a declaration and all below it. -/
def discard (id : Nat) : GraphM Unit :=
  change (Edit.discard id) (LooseM.discard (.declaration id))

/-- Sorts the classes below a declaration. -/
def sortBelow (id : Nat) : GraphM Unit := do
  match ← get with
  | .loose _ => loosely (LooseM.sortBelow id)
  | .typed lib =>
    if (lib.decl? id).any (·.body.form.isScope) then
      change (Edit.sortBelow id) (LooseM.sortBelow id)
    else loosely (LooseM.sortBelow id)

/-- Sorts the classes of every unit. -/
def sort : GraphM Unit :=
  change Edit.sort LooseM.sort

end GraphM

end Bindery
