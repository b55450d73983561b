import Bindery.Declaration.Walk
import Bindery.Emit.Code
import Bindery.Emit.Layout
import Bindery.Options.Basic

/-!
# Binding modules

The Python module that binds a native library through ctypes: enumerations, classes, the layouts of
classes, functions with their prototypes, and the list of all names that the module gives away. A
module in which a name would be defined twice is refused.
-/

namespace Bindery

/-- A step of writing a module. -/
abbrev Writing := StateT Code (Except Fault)

namespace Writing

/-- Changes the code. -/
def write (f : Code → Code) : Writing Unit := modify f

/-- Adds a line. -/
def line (text : String) : Writing Unit := write (·.line text)

/-- Adds the empty lines that are missing for a gap. -/
def blank (count : Int) : Writing Unit := write (·.blank count)

/-- Adds a comment. -/
def comment (text : String) : Writing Unit := write (·.comment text)

/-- Adds documentation. -/
def docstring (text : String) : Writing Unit := write (·.docstring text)

/-- Adds a block of lines one level further in. -/
def block (header : String) (footer : Option String) (body : Writing Unit) : Writing Unit := do
  write (·.openBlock header)
  body
  write (·.closeBlock footer)

end Writing

/-- An integer in decimal. -/
def writeInt (n : Int) : Except Fault String :=
  if writtenDigits < (toString n.natAbs).length then .error .tooManyDigits else .ok (toString n)

/-- The value of an item as the module writes it. -/
def writeConstant (c : Constant) : Except Fault String :=
  match c with
  | .int n => writeInt n
  | .truth b => .ok (Value.bool b).shown

/-- Names as a list literal. -/
def nameList (names : List String) : String :=
  "[" ++ ", ".intercalate (names.map Text.quoted) ++ "]"

namespace Emission

open Writing

variable (e : Emission) (o : Options)

/-- A comment that tells where a declaration comes from, if that is wanted. -/
def provenance (d : Decl) : Writing Unit := do
  if o.debug.truthy then
    let qualified ← liftM ((e.library.qualifiedFirstName d).mapError Fault.graph)
    match d.location with
    | some l => comment (l.file ++ ":" ++ toString l.line ++ " " ++ qualified)
    | none => comment qualified

/-- The start of a module: what it imports, the native library, and how functions are bound. -/
def writeStart : Writing Unit := do
  docstring ("ctypes bindings for " ++ o.namespaceName.shown ++ ".")
  comment "Generated by cxxbind. Do not edit."
  blank 1
  write (·.addLines ["import ctypes", "import ctypes.util", "import enum"])
  blank 1
  if o.libraryName.truthy then
    line ("_library_path = ctypes.util.find_library(" ++ o.libraryName.literal ++ ")")
    line "_lib = ctypes.CDLL(_library_path) if _library_path else None"
  else line "_lib = None"
  blank 2
  block "def _bind(name, restype, argtypes):" none do
    block "if _lib is None:" none (line "return None")
    block "try:" none (line "func = getattr(_lib, name)")
    block "except AttributeError:" none (line "return None")
    line "func.restype = restype"
    line "func.argtypes = argtypes"
    line "return func"

/-- One item of an enumeration; an item without constant is only mentioned. Tells whether the item
was written. -/
def writeItem (id : Nat) : Writing Bool := do
  match e.library.decl? id with
  | none => return false
  | some d =>
    match d.body with
    | .enumItem (some value) _ => do
      line (d.name ++ " = " ++ (← liftM (writeConstant value)))
      return true
    | .enumItem none initializer => do
      comment (d.name ++ " = " ++ initializer ++ " (not a constant expression)")
      return false
    | _ => return false

/-- The comment of a declaration, if it has one. Tells whether it has. -/
def writeComment (d : Decl) : Writing Bool := do
  if d.comment ≠ "" then docstring d.comment
  return d.comment ≠ ""

/-- One enumeration. -/
def writeEnum (d : Decl) : Writing Unit := do
  blank 2
  e.provenance o d
  block ("class " ++ d.name ++ "(enum.IntEnum):") none do
    let isDescribed ← writeComment d
    let items :=
      match d.body with
      | .enumeration items _ _ => items
      | _ => []
    let written ← items.filterM e.writeItem
    if written.isEmpty && !isDescribed then line "pass"

/-- A parameter in words. -/
def parameterWord? (id : Nat) : Option String :=
  match e.library.decl? id with
  | none => none
  | some d =>
    match d.body with
    | .parameter type _ => some (Text.stripText (type ++ " " ++ d.name))
    | _ => none

/-- The parameters of a prototype in words. -/
def parameterWords (p : Prototype) : String :=
  let params := ", ".intercalate (p.parameters.filterMap e.parameterWord?)
  if p.variadic then (if params = "" then "..." else params ++ ", ...") else params

/-- A method in words. -/
def methodWords (d : Decl) (p : Prototype) : String :=
  p.returnType ++ " " ++ d.name ++ "(" ++ e.parameterWords p ++ ")"

/-- A mention of a method. -/
def mentionMethod (id : Nat) : Writing Unit := do
  match e.library.decl? id with
  | none => pure ()
  | some m =>
    match m.body.prototype? with
    | none => pure ()
    | some p => comment ("method: " ++ e.methodWords m p)

/-- One class, without its layout. -/
def writeClass (d : Decl) : Writing Unit := do
  let isUnion := d.body.record?.any (·.isUnion)
  blank 2
  e.provenance o d
  block ("class " ++ d.name ++ "(" ++
      (if isUnion then "ctypes.Union" else "ctypes.Structure") ++ "):") none do
    if !(← writeComment d) then line "pass"
    if o.debug.truthy then
      ((d.body.record?.map (·.methods)).getD []).forM e.mentionMethod

/-- The type of a field in words; a type that was defined together with it goes by its name now. -/
def fieldSignature (f : FieldMember) : Except Fault String := do
  match ← e.definedType? f with
  | some id => return (← e.resolve id).name ++ String.ofList (declaratorMarks f.type.toList)
  | none => return f.type

/-- The type of a field. A type without layout is an untyped pointer. -/
def fieldType (f : FieldMember) : Except Fault ForeignType := do
  let t ← e.lookup (← e.fieldSignature f)
  return if t.kind = .opaqueHandle then .basic "c_void_p" else t.foreignType

/-- The name of the field that holds the base at a place. -/
def baseField (index : Nat) : String :=
  if index = 0 then "_base" else "_base" ++ toString index

/-- The complete definitions of the bases that are laid out. -/
def completeBases (d : Decl) : Except Fault (List Decl) := do
  (← e.basesOf d).mapM fun b => e.resolve b.id

/-- The layout of one class. -/
def writeLayout (d : Decl) : Writing Unit := do
  blank 1
  let bases ← liftM (e.completeBases d)
  let places := (List.range bases.length).map baseField
  if !places.isEmpty then line (d.name ++ "._anonymous_ = " ++ nameList places)
  block (d.name ++ "._fields_ = [") (some "]") do
    (places.zip bases).forM fun (place, b) =>
      line ("(" ++ Text.quoted place ++ ", " ++ b.name ++ "),")
    (e.fieldsOf d).forM fun f => do
      line ("(" ++ Text.quoted f.decl.name ++ ", " ++ (← liftM (e.fieldType f)).text ++ "),")

/-- The layouts of classes. -/
def writeLayouts (classes : List Decl) : Writing Unit := do
  let laidOut ← liftM (m := Except Fault)
    (classes.filterM fun d => (e.library.hasLayout d).mapError Fault.graph)
  if !laidOut.isEmpty then
    blank 2
    (← liftM (e.layoutOrder laidOut)).forM e.writeLayout

/-- The type of a parameter. -/
def parameterType? (id : Nat) : Except Fault (Option ForeignType) := do
  match e.library.decl? id with
  | none => return none
  | some d =>
    match d.body with
    | .parameter type _ => return some (← e.lookup type).foreignType
    | _ => return none

/-- The types of parameters. -/
def parameterTypes (p : Prototype) : Except Fault (List ForeignType) :=
  p.parameters.filterMapM e.parameterType?

/-- One function, bound under the name it was created with. -/
def writeFunction (d : Decl) : Writing Unit := do
  blank 1
  e.provenance o d
  match d.body.prototype? with
  | none => pure ()
  | some p =>
    let result ← liftM (e.lookup p.returnType)
    let types ← liftM (e.parameterTypes p)
    line (d.name ++ " = _bind(" ++ Text.quoted (Library.earlierName d) ++ ", " ++
      result.foreignType.text ++ ", [" ++ ", ".intercalate (types.map (·.text)) ++ "])")

/-- Names that occur more than once, sorted. -/
def duplicatesOf (names : List String) : List String :=
  (names.filter fun n => 1 < names.count n).eraseDups.mergeSort (· ≤ ·)

/-- The names that a module with some classes gives away. -/
def exports (classes : List Decl) : List String :=
  (e.library.emittedEnums ++ classes ++ e.library.emittedFunctions).map (·.name)

/-- The list of the names that the module gives away. -/
def writeExports (classes : List Decl) : Writing Unit := do
  let names := e.exports classes
  let duplicates := duplicatesOf names
  if !duplicates.isEmpty then throw (.duplicateNames duplicates)
  blank 2
  block "__all__ = [" (some "]") do
    names.forM fun n => line (Text.quoted n ++ ",")

/-- A whole module. -/
def writeModule : Writing Unit := do
  let classes := e.library.emittedClasses
  writeStart o
  e.library.emittedEnums.forM (e.writeEnum o)
  classes.forM (e.writeClass o)
  e.writeLayouts classes
  let functions := e.library.emittedFunctions
  if !functions.isEmpty then
    blank 2
    functions.forM (e.writeFunction o)
  e.writeExports classes

/-- The text of the module. -/
def moduleText : Except Fault String := do
  let ((), c) ← (e.writeModule o).run (Code.empty "    ")
  return c.output

end Emission

end Bindery
