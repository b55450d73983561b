import Bindery.Declaration.Walk
import Bindery.Naming.Basic
import Bindery.Pass.Basic
import Bindery.Pass.Incomplete

/-!
# Names in the generated module

Three passes give other names: to what cannot be named as it is, to overloads, and to what shares a
name of the module.

## Names that cannot be used

Names that cannot stand in the generated module are replaced scope by scope. A parameter without a
name is numbered by its place; any other name is made usable character by character; and where
nothing usable is left, the declaration is named after its scope, its kind and how many nameless
ones of that kind came before it in the scope. A name that is taken in the scope gets a number.
-/

namespace Bindery

open Bindery.Naming

/-- The word in made-up names for what has no word of its own. -/
def Kind.unknownLabel : String := "Decl"

/-- The word for a kind in made-up names. -/
def Kind.label : Kind → String
  | .space => "Namespace"
  | .record => "Class"
  | .field => "Field"
  | .method => "Method"
  | .parameter => "Parameter"
  | .enumeration => "Enum"
  | .enumItem => "Item"
  | .function => "Function"
  | .unit => unknownLabel

/-- The word for a declaration in made-up names. -/
def Decl.kindLabel (d : Decl) : String :=
  match d.body with
  | .record r => if r.isUnion then "Union" else if r.isStruct then "Struct" else d.kind.label
  | _ => d.kind.label

/-- How many nameless declarations of each kind a scope has had so far. -/
abbrev Ordinals := List (String × Nat)

/-- How many there were of one kind. -/
def Ordinals.of (o : Ordinals) (label : String) : Nat :=
  ((o.find? (·.1 == label)).map (·.2)).getD 0

/-- One more of one kind. -/
def Ordinals.next (o : Ordinals) (label : String) : Ordinals :=
  (label, o.of label + 1) :: o.filter (·.1 != label)

/-- The name made for a declaration of a scope whose own name cannot be used. -/
def deriveName (scope d : Decl) (ordinals : Ordinals) : String × Ordinals :=
  let made : String × Ordinals :=
    let usable := sanitize d.name
    if usable ≠ "" then (usable, ordinals)
    else
      let label := d.kindLabel
      let tail := "Anonymous" ++ label ++ toString (ordinals.of label)
      let inUnit := scope.kind = .unit
      (if inUnit ∨ scope.name = "" then tail else scope.name ++ "_" ++ tail, ordinals.next label)
  match d.body with
  | .parameter _ index => if d.name = "" then ("arg" ++ toString index, ordinals) else made
  | _ => made

/-- What cleaning a scope keeps track of. -/
structure Cleaning where
  /-- The library. -/
  library : Library
  /-- How many declarations were renamed. -/
  renamed : Nat
  /-- The names of the scope that are taken. -/
  taken : List String
  /-- The nameless declarations of the scope so far. -/
  ordinals : Ordinals
deriving Inhabited

/-- Gives a declaration of a scope a usable name if it has none. -/
def Cleaning.cleanChild (c : Cleaning) (scope : Decl) (id : Nat) : Cleaning :=
  match c.library.decl? id with
  | none => c
  | some d =>
    if isValid d.name then c
    else
      let (name, ordinals) := deriveName scope d c.ordinals
      let name := unique c.taken name 1
      ⟨c.library.update id (·.rename name), c.renamed + 1, name :: c.taken, ordinals⟩

namespace Library

/-- Cleans the names inside a declaration, down to a number of levels, and counts the new names. -/
def cleanFrom : Nat → Nat → Library × Nat → Library × Nat
  | 0, _, s => s
  | levels + 1, id, (lib, renamed) =>
    match lib.decl? id with
    | none => (lib, renamed)
    | some scope =>
      let taken := ((lib.childrenOf scope).map (·.name)).filter isValid
      let done := scope.body.children.foldl
        (fun (c : Cleaning) child =>
          let c := c.cleanChild scope child
          let (lib, renamed) := cleanFrom levels child (c.library, c.renamed)
          { c with library := lib, renamed := renamed })
        ⟨lib, renamed, taken, []⟩
      (done.library, done.renamed)

/-- Cleans the names of every unit and counts the new names. -/
def cleanNames (lib : Library) : Library × Nat :=
  lib.units.foldl (fun s id => cleanFrom lib.created id s) (lib, 0)

end Library

/-- Cleans the names of every unit. -/
def PassM.cleanNames : PassM Library Unit :=
  modify fun s =>
    let (lib, renamed) := s.library.cleanNames
    { s with library := lib, tally := { s.tally with renamed := s.tally.renamed + renamed } }

end Bindery

/-!
## Overloads

Functions of one scope, and methods of one class, that share a name are told apart: the first keeps
the name, a later one gets a number that no declaration of the scope has.
-/

namespace Bindery

open Bindery.Naming

/-- What telling overloads apart keeps track of. -/
structure Overloads where
  /-- The library. -/
  library : Library
  /-- The names of the scope that are taken. -/
  taken : List String
  /-- The names met so far, once for each declaration that had it. -/
  met : List String
deriving Inhabited

/-- Gives one declaration a number if its name was met before. -/
def Overloads.step (o : Overloads) (id : Nat) : Overloads :=
  match o.library.decl? id with
  | none => o
  | some d =>
    let before := o.met.count d.name
    let met := d.name :: o.met
    if before = 0 then { o with met := met }
    else
      let name := firstFree o.taken d.name o.taken.length before
      ⟨o.library.update id (·.rename name), name :: o.taken, met⟩

namespace Library

/-- Tells the declarations of a list apart, all of one scope. -/
def separate (lib : Library) (scope : Decl) (ids : List Nat) : Library :=
  (ids.foldl Overloads.step ⟨lib, (lib.childrenOf scope).map (·.name), []⟩).library

/-- Tells the functions of a scope, or the methods of a class, apart. -/
def separateIn (lib : Library) (id : Nat) : Library :=
  match lib.decl? id with
  | none => lib
  | some d =>
    match d.body with
    | .unit s _ | .space s => lib.separate d s.functions
    | .record r => lib.separate d r.methods
    | _ => lib

/-- The scopes and classes below a scope, each before those inside it, down to a number of
levels. -/
def overloadScopes (lib : Library) : Nat → Nat → List Nat
  | 0, _ => []
  | levels + 1, id =>
    match lib.decl? id with
    | none => []
    | some d =>
      match d.body with
      | .unit s _ | .space s =>
        id :: (s.namespaces.flatMap (overloadScopes lib levels) ++
          s.classes.flatMap (overloadScopes lib levels))
      | .record r => id :: r.classes.flatMap (overloadScopes lib levels)
      | _ => []

/-- Tells the overloads below a unit apart. -/
def separateBelow (lib : Library) (id : Nat) : Library :=
  (lib.overloadScopes lib.created id).foldl separateIn lib

end Library

namespace PassM

/-- Tells all overloads of the library apart. -/
def separateOverloads : PassM Library Unit := do
  (← get).library.units.forM fun id => edit (modify (·.separateBelow id))

end PassM

end Bindery

/-!
## Names that share the module

Classes, enumerations and functions of all scopes and units end up in one module without scopes. In
definition order, the first of a name keeps it; a later one is named after its qualified name, and
gets a number if that name is taken too. The names that the module defines itself are taken from the
start.
-/

namespace Bindery

open Bindery.Naming

/-- The names that a module defines itself. -/
def moduleWords : List String := ["ctypes", "enum"]

/-- A text with every double colon replaced by an underscore. -/
def flattenScopes : List Char → List Char
  | [] => []
  | ':' :: ':' :: cs => '_' :: flattenScopes cs
  | c :: cs => c :: flattenScopes cs

namespace Library

/-- Whether a declaration is named in the module. -/
def isModuleLevel (d : Decl) : Bool :=
  !d.ignored && d.name != "" && !d.isIncomplete &&
    (d.kind = .record ∨ d.kind = .enumeration ∨ d.kind = .function)

/-- The declarations named in the module, in definition order. -/
def moduleLevel (lib : Library) : List Decl :=
  (lib.walk.filter isModuleLevel).mergeSort fun a b => a.order ≤ b.order

end Library

namespace PassM

/-- Gives one declaration a name that is not taken, and adds the name to the taken ones. -/
def takeName (taken : List String) (id : Nat) : PassM Library (List String) := do
  match (← get).library.decl? id with
  | none => return taken
  | some d =>
    if !taken.contains d.name then return d.name :: taken
    else
      let qualified ← look (·.qualifiedName d)
      let candidate := sanitize (String.ofList (flattenScopes qualified.toList))
      let name := unique taken (if candidate = "" then d.name else candidate) 1
      edit (Edit.rename id name)
      return name :: taken

/-- Gives every declaration of the module a name of its own. -/
def separateModuleNames : PassM Library Unit := do
  let ids := (← get).library.moduleLevel.map (·.id)
  let _ ← ids.foldlM takeName moduleWords

end PassM

end Bindery
