import Bindery.Declaration.Library

/-!
# Walks through a library

The declarations that can be reached from the units, depth first. A walk goes down at most as many
levels as there are declarations, which is enough because a declaration is created after the one
that holds it and so never lies inside itself. Besides walking down, a declaration's scopes can be
climbed outward, and links from forward declarations can be followed.
-/

namespace Bindery.Library

/-- A declaration and all below it, down to a number of levels. -/
def walkFrom (lib : Library) : Nat → Nat → List Decl
  | 0, _ => []
  | levels + 1, id =>
    match lib.decl? id with
    | none => []
    | some d => d :: d.body.children.flatMap (walkFrom lib levels)

/-- A declaration and all below it. -/
def subtree (lib : Library) (id : Nat) : List Decl :=
  lib.walkFrom lib.created id

/-- Every declaration below the units. -/
def walk (lib : Library) : List Decl :=
  lib.units.flatMap lib.subtree

/-- The declarations inside a declaration. -/
def childrenOf (lib : Library) (d : Decl) : List Decl :=
  d.body.children.filterMap lib.decl?

/-- The declaration a declaration was created in. -/
def parentOf (lib : Library) (d : Decl) : Except GraphFault (Option Decl) :=
  match d.parent with
  | none => .ok none
  | some p => (lib.get p).map some

/-- A declaration and its scopes outward, up to a number of levels. -/
def outwardFrom (lib : Library) : Nat → Decl → Except GraphFault (List Decl)
  | 0, d => .ok [d]
  | levels + 1, d => do
    match ← lib.parentOf d with
    | none => return [d]
    | some p => return d :: (← outwardFrom lib levels p)

/-- A declaration and its scopes outward. -/
def outward (lib : Library) (d : Decl) : Except GraphFault (List Decl) :=
  lib.outwardFrom lib.created d

/-- The names of a declaration and its scopes, joined from the outside in. Units have no part in
it. -/
def joinNames (nameOf : Decl → String) (ds : List Decl) : String :=
  "::".intercalate ((ds.filter (·.kind ≠ .unit)).map nameOf).reverse

/-- The qualified name of a declaration. -/
def qualifiedName (lib : Library) (d : Decl) : Except GraphFault String :=
  (lib.outward d).map (joinNames (·.name))

/-- The qualified name of a declaration with the names everything was created with. -/
def qualifiedFirstName (lib : Library) (d : Decl) : Except GraphFault String :=
  (lib.outward d).map (joinNames (·.firstName))

/-- The unit a declaration lies in, looking at most a number of levels outward. -/
def unitFrom (lib : Library) : Nat → Decl → Except GraphFault (Option Decl)
  | 0, _ => .ok none
  | levels + 1, d =>
    match d.body with
    | .unit .. => .ok (some d)
    | _ => do
      match ← lib.parentOf d with
      | none => return none
      | some p => unitFrom lib levels p

/-- The unit a declaration lies in. -/
def unitOf (lib : Library) (d : Decl) : Except GraphFault (Option Decl) :=
  lib.unitFrom (lib.created + 1) d

/-- Follows links from forward declarations. `seen` holds the numbers met so far; a number met twice
ends the search. -/
def resolveFrom (lib : Library) : Nat → List Nat → Decl → Except GraphFault Decl
  | 0, _, d => .ok d
  | steps + 1, seen, d =>
    match d.body.record?.bind (·.definition) with
    | none => .ok d
    | some target => do
      let e ← lib.get target
      if seen.contains e.id then return e else resolveFrom lib steps (e.id :: seen) e

/-- The complete definition behind a declaration. -/
def resolve (lib : Library) (id : Nat) : Except GraphFault Decl := do
  let d ← lib.get id
  lib.resolveFrom (lib.created + 1) [d.id] d

/-- Unregisters a declaration and all below it. -/
def discard (lib : Library) (id : Nat) : Library :=
  let ids := (lib.subtree id).map (·.id)
  { lib with
    slots := lib.slots.mapIdx fun k s =>
      if ids.contains k then { s with registered := false } else s }

end Bindery.Library

namespace Bindery

/-- Unregisters a declaration and all below it. -/
def Edit.discard (id : Nat) : Edit Unit :=
  modify (·.discard id)

end Bindery

/-!
## Scopes and what they hold

The scopes, the classes and the functions that can be reached from the units, scope by scope. Like a
walk, a way down goes through at most as many levels as there are declarations.
-/

namespace Bindery

namespace Body

/-- The scopes of a scope. -/
def namespaces (b : Body) : List Nat :=
  b.listOf "namespaces"

/-- The classes of a scope or a class. -/
def classes (b : Body) : List Nat :=
  b.listOf "classes"

/-- The functions of a scope. -/
def functions (b : Body) : List Nat :=
  b.listOf "functions"

end Body

namespace Library

/-- A declaration and those below it on the lists that `pick` chooses, down to a number of
levels. -/
def belowFrom (lib : Library) (pick : Body → List Nat) : Nat → Nat → List Decl
  | 0, _ => []
  | levels + 1, id =>
    match lib.decl? id with
    | none => []
    | some d => d :: (pick d.body).flatMap (belowFrom lib pick levels)

/-- A declaration and those below it on the lists that `pick` chooses. -/
def below (lib : Library) (pick : Body → List Nat) (id : Nat) : List Decl :=
  lib.belowFrom pick lib.created id

/-- The classes of a declaration and the classes inside them. -/
def classesOf (lib : Library) (d : Decl) : List Decl :=
  d.body.classes.flatMap (lib.below Body.classes)

/-- The units and every scope below them. -/
def namespaces (lib : Library) : List Decl :=
  lib.units.flatMap (lib.below Body.namespaces)

/-- Every class, nested ones included. -/
def classes (lib : Library) : List Decl :=
  lib.namespaces.flatMap lib.classesOf

/-- The functions of every scope. -/
def functions (lib : Library) : List Decl :=
  lib.namespaces.flatMap fun d => d.body.functions.filterMap lib.decl?

end Library

end Bindery

/-!
## Definition order

Classes are put back into the order in which they were met. Only the lists of classes are sorted, in
every scope and every class below the units; a stable sort keeps classes of equal order apart as
they were.
-/

namespace Bindery.Library

/-- The order of the declaration of a number. -/
def orderOf (lib : Library) (id : Nat) : Int :=
  ((lib.decl? id).map (·.order)).getD 0

/-- Numbers sorted by the order of their declarations. -/
def sortByOrder (lib : Library) (ids : List Nat) : List Nat :=
  ids.mergeSort fun a b => lib.orderOf a ≤ lib.orderOf b

/-- A body with its list of classes sorted. -/
def sortClassesOf (lib : Library) (b : Body) : Body :=
  (b.mapScope fun s => { s with classes := lib.sortByOrder s.classes }).mapRecord fun r =>
    { r with classes := lib.sortByOrder r.classes }

/-- Sorts the list of classes of the declarations with the given numbers. -/
def sortClassLists (lib : Library) (owners : List Nat) : Library :=
  { lib with
    slots := lib.slots.map fun s =>
      if owners.contains s.decl.id then
        { s with decl := { s.decl with body := lib.sortClassesOf s.decl.body } }
      else s }

/-- The scopes below a declaration and the classes in them, whose lists of classes are sorted. -/
def classListOwners (lib : Library) (id : Nat) : List Decl :=
  (lib.below Body.namespaces id).flatMap fun d => d :: lib.classesOf d

end Bindery.Library

namespace Bindery.Edit

/-- Sorts the classes below a scope. -/
def sortBelow (id : Nat) : Edit Unit :=
  modify fun lib => lib.sortClassLists ((lib.classListOwners id).map (·.id))

/-- Sorts the classes of every unit. -/
def sort : Edit Unit := do
  (← get).units.forM sortBelow

end Bindery.Edit
