import Bindery.Declaration.Walk
import Bindery.Fault

/-!
# The names of a library

What types of a library refer to. Classes and enumerations are known by their qualified and plain
names, present and first; the first declaration of a name in the order of the walk counts. Emitted
are the classes and enumerations that have a name and are not ignored, classes only if they are
complete; they come in definition order.
-/

namespace Bindery

/-- A declaration as a type sees it. -/
def Decl.referent (d : Decl) : Referent :=
  let form : ReferentForm :=
    match d.body with
    | .enumeration .. => .enumeration
    | .record r => if !r.incomplete && !d.ignored then .layoutClass else .other
    | _ => .other
  ⟨.int d.id, .text d.name, form⟩

namespace Library

/-- The declarations that are known by name, in the order of the walk. -/
def namedTypes (lib : Library) : List Decl :=
  lib.walk.filter fun d => (d.body.isRecord || d.body.isEnumeration) && d.name != ""

/-- The first name of a declaration, unless it is empty. -/
def earlierName (d : Decl) : String :=
  match d.givenName with
  | some n => if n = "" then d.name else n
  | none => d.name

/-- The names of a declaration. -/
def keysOf (lib : Library) (d : Decl) : Except GraphFault (List String) := do
  return [← lib.qualifiedName d, d.name, earlierName d, ← lib.qualifiedFirstName d]

/-- Declarations by name; a name that is known already stays with its declaration. -/
def addKeys (index : List (String × Nat)) (keys : List String) (id : Nat) : List (String × Nat) :=
  keys.foldl (fun index key => if index.any (·.1 == key) then index else index ++ [(key, id)]) index

/-- The numbers of declarations by name. -/
def nameIndex (lib : Library) : Except GraphFault (List (String × Nat)) :=
  lib.namedTypes.foldlM (fun index d => return addKeys index (← lib.keysOf d) d.id) []

/-- The number of the declaration of a name. -/
def findIn (index : List (String × Nat)) (name : String) : Option Nat :=
  (index.find? (·.1 == name)).map (·.2)

/-- Names as types see them. -/
def referents (lib : Library) (index : List (String × Nat)) : NameIndex :=
  index.filterMap fun e => (lib.decl? e.2).map fun d => (e.1, d.referent)

/-- Declarations in definition order. -/
def inOrder (ds : List Decl) : List Decl :=
  ds.mergeSort fun a b => a.order ≤ b.order

/-- Whether a class is emitted. -/
def isEmitted (d : Decl) : Bool :=
  !d.ignored && !d.body.record?.any (·.incomplete) && d.name != ""

/-- The classes that are emitted. -/
def emittedClasses (lib : Library) : List Decl :=
  inOrder (lib.classes.filter isEmitted)

/-- The enumerations that are emitted. -/
def emittedEnums (lib : Library) : List Decl :=
  inOrder <| lib.walk.filter fun d => d.body.isEnumeration && d.name != "" && !d.ignored

/-- The functions that are emitted. -/
def emittedFunctions (lib : Library) : List Decl :=
  inOrder <| lib.walk.filter fun d => d.body.isFunction && !d.ignored

end Library

/-- What a template works from. -/
structure Emission where
  /-- The library. -/
  library : Library
  /-- The table of types. -/
  table : TypeTable
  /-- Its declarations by name, as far as they can be named. -/
  index : Except GraphFault (List (String × Nat))

namespace Emission

/-- What a template works from, for a library. -/
def ofLibrary (lib : Library) (table : TypeTable) : Emission :=
  ⟨lib, table, lib.nameIndex⟩

/-- Declarations by name. -/
def names (e : Emission) : Except Fault (List (String × Nat)) :=
  e.index.mapError .graph

/-- The description of a type. -/
def lookup (e : Emission) (signature : String) : Except Fault Descriptor := do
  let index := e.library.referents (← e.names)
  (e.table.search DescentFault.takenByEmission index signature).mapError .tooDeep

/-- The complete definition behind a declaration. -/
def resolve (e : Emission) (id : Nat) : Except Fault Decl :=
  (e.library.resolve id).mapError .graph

end Emission

end Bindery
