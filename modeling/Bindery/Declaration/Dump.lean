import Bindery.Declaration.Library

/-!
# Dumps

A declaration as an object of named fields, with the declarations inside it nested under the list of
their kind. What is not known (a parent, a location, a first name, the value of an item, the link of
a forward declaration) has no field. Like a walk, a dump goes down at most as many levels as there
are declarations.
-/

namespace Bindery

/-- A location as an object. -/
def SourceLocation.toValue (l : SourceLocation) : Value :=
  .object [("file_path", .text l.file), ("line", .int l.line), ("column", .int l.column)]

/-- A field that is there only when something is known. -/
def optionalField (name : String) (v : Option Value) : Fields :=
  match v with
  | some v => [(name, v)]
  | none => []

namespace Decl

/-- The fields common to all declarations. -/
def commonFields (d : Decl) : Fields :=
  [("id", .int d.id), ("name", .text d.name), ("kind", .text d.kind.word),
    ("definition_order", .int d.order)] ++
  optionalField "parent_id" (d.parent.map fun p => .int p) ++
  optionalField "location" (d.location.map (·.toValue)) ++
  [("comment", .text d.comment), ("ignored", .bool d.ignored)] ++
  optionalField "original_name" (d.givenName.map .text) ++ [("metadata", .object d.notes)]

/-- The fields of a prototype; `nest` dumps the declarations of a list. -/
def prototypeFields (nest : List Nat → Value) (p : Prototype) : Fields :=
  [("return_type", .text p.returnType), ("parameters", nest p.parameters),
    ("is_variadic", .bool p.variadic)]

/-- The fields of the traits of a method. -/
def traitFields (t : MethodTraits) : Fields :=
  [("access", .text t.access.word), ("is_static", .bool t.isStatic),
    ("is_virtual", .bool t.isVirtual), ("is_const", .bool t.isConst),
    ("is_constructor", .bool t.isConstructor), ("is_destructor", .bool t.isDestructor)]

/-- The fields of a scope. -/
def scopeFields (nest : List Nat → Value) (s : Scope) : Fields :=
  [("namespaces", nest s.namespaces), ("classes", nest s.classes), ("enums", nest s.enums),
    ("functions", nest s.functions)]

/-- The fields of a class. -/
def recordFields (nest : List Nat → Value) (r : Record) : Fields :=
  [("is_incomplete", .bool r.incomplete), ("is_struct", .bool r.isStruct),
    ("is_union", .bool r.isUnion), ("is_value_type", .bool r.valueType),
    ("bases", .ofTexts r.bases), ("fields", nest r.fields), ("methods", nest r.methods),
    ("classes", nest r.classes), ("enums", nest r.enums)] ++
  optionalField "definition_id" (r.definition.map fun id => .int id)

/-- The fields that the form of a declaration adds. -/
def bodyFields (d : Decl) (nest : List Nat → Value) : Fields :=
  match d.body with
  | .plain => []
  | .unit s file => scopeFields nest s ++ [("file_path", .text file)]
  | .space s => scopeFields nest s
  | .record r => recordFields nest r
  | .field type access => [("type", .text type), ("access", .text access.word)]
  | .method p t => prototypeFields nest p ++ traitFields t
  | .function p => prototypeFields nest p
  | .parameter type index => [("type", .text type), ("index", .int index)]
  | .enumeration items underlying isScoped =>
    [("items", nest items), ("underlying_type", .text underlying), ("is_scoped", .bool isScoped)]
  | .enumItem value initializer =>
    optionalField "value" (value.map (·.toValue)) ++ [("expression", .text initializer)]

end Decl

namespace Library

/-- The dump of a declaration, down to a number of levels. -/
def dumpFrom (lib : Library) : Nat → Nat → Value
  | 0, _ => .object []
  | levels + 1, id =>
    match lib.decl? id with
    | none => .object []
    | some d =>
      .object (d.commonFields ++ d.bodyFields fun ids => .list (ids.map (dumpFrom lib levels)))

/-- The dump of a declaration. -/
def dumpDecl (lib : Library) (id : Nat) : Value :=
  lib.dumpFrom lib.created id

/-- The fields of the dump of a library. -/
def dumpFields (lib : Library) : Fields :=
  [("namespace", lib.namespaceName), ("library_name", lib.libraryName),
    ("translation_units", .list (lib.units.map lib.dumpDecl))]

/-- The dump of a library. -/
def dump (lib : Library) : Value :=
  .object lib.dumpFields

end Library

end Bindery
