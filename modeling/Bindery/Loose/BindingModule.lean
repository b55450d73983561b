import Bindery.Emit.BindingModule
import Bindery.Loose.Layout

/-!
# Binding modules of loose libraries

The Python module for a loose library. It is written like that of a typed one, with whatever the
attributes hold: what is put into a line is shown as it is, and what has to be looked into, such as
a comment or a list, must be of a type that allows it.
-/

namespace Bindery

namespace LooseLibrary

/-- Values that occur more than once, each once and sorted; all of them have to be keys. -/
def duplicatesOf (values : List Value) : Except Fault (List Value) := do
  let repeated ← (values.filter fun v => 1 < values.countP (·.same v)).mapM key
  let once := repeated.foldl (fun vs v => if vs.any (·.same v) then vs else vs ++ [v]) []
  match (Sorted.ofList Value.before once).outcome with
  | .ok sorted => return sorted
  | .error m => throw (.misfit m)

end LooseLibrary

namespace LooseEmission

open Writing LooseLibrary

variable (e : LooseEmission) (o : Options)

/-- What is read of the library while a module is written. -/
def read {α : Type} (f : LooseLibrary → Except Fault α) : Writing α :=
  liftM (f e.library)

/-- The text of an attribute as it stands in a line. -/
def shown (item : Item) (name : String) : Writing String :=
  return (← e.read (·.value item name)).shown

/-- A comment that tells where an item comes from, if that is wanted. -/
def provenance (item : Item) : Writing Unit := do
  if o.debug.truthy then
    let qualified ← e.read (·.qualifiedName true item)
    match ← e.read (·.content item "location") with
    | .location file line _ => comment (file.shown ++ ":" ++ line.shown ++ " " ++ qualified)
    | _ => comment qualified

/-- One item of an enumeration; an item without constant is only mentioned. Tells whether the item
was written. -/
def writeItem (item : Item) : Writing Bool := do
  match ← e.read (·.value item "value") with
  | .null => do
    let name ← e.shown item "name"
    comment (name ++ " = " ++ (← e.shown item "expression") ++ " (not a constant expression)")
    return false
  | v => do
    let name ← e.shown item "name"
    let text ←
      match v with
      | .int n => liftM (writeInt n)
      | v => pure v.shown
    line (name ++ " = " ++ text)
    return true

/-- The comment of an item, if it has one. Tells whether it has. -/
def writeComment (item : Item) : Writing Bool := do
  match ← e.read (·.value item "comment") with
  | .text s => do
    if s ≠ "" then docstring s
    return s ≠ ""
  | v =>
    if v.truthy then throw (.misfit (.noOperation v.typeName "replace"))
    return false

/-- One enumeration. -/
def writeEnum (item : Item) : Writing Unit := do
  blank 2
  e.provenance o item
  block ("class " ++ (← e.shown item "name") ++ "(enum.IntEnum):") none do
    let isDescribed ← e.writeComment item
    let written ← (← e.read (·.inside item "items")).filterM e.writeItem
    if written.isEmpty && !isDescribed then line "pass"

/-- The parameters of an item in words. -/
def parameterWords (item : Item) : Writing String := do
  let words ← (← e.read (·.inside item "parameters")).mapM fun p => do
    let type ← e.shown p "type"
    return Text.stripText (type ++ " " ++ (← e.shown p "name"))
  let params := ", ".intercalate words
  if ← e.read (·.truth item "is_variadic") then
    return if params = "" then "..." else params ++ ", ..."
  return params

/-- A method in words. -/
def methodWords (item : Item) : Writing String := do
  let result ← e.shown item "return_type"
  let name ← e.shown item "name"
  return result ++ " " ++ name ++ "(" ++ (← e.parameterWords item) ++ ")"

/-- One class, without its layout. -/
def writeClass (item : Item) : Writing Unit := do
  let isUnion ← e.read (·.truth item "is_union")
  blank 2
  e.provenance o item
  block ("class " ++ (← e.shown item "name") ++ "(" ++
      (if isUnion then "ctypes.Union" else "ctypes.Structure") ++ "):") none do
    if !(← e.writeComment item) then line "pass"
    if o.debug.truthy then
      (← e.read (·.inside item "methods")).forM fun m => do
        comment ("method: " ++ (← e.methodWords m))

/-- A name with the marks of a type behind it. -/
def marked (name type : Value) : Except Fault String :=
  match type, name with
  | .text t, .text n => .ok (n ++ String.ofList (declaratorMarks t.toList))
  | .text _, .list _ => .error (.misfit (.notAppendable name.typeName type.typeName))
  | .text _, _ => .error (.misfit (.notOperands "+" name.typeName type.typeName))
  | _, _ => .error (.misfit (.notAText type.typeName))

/-- The type of a field. A type without layout is an untyped pointer. -/
def fieldType (field : Item) : Except Fault String := do
  let type (_ : Unit) := e.library.value field "type"
  let signature ←
    match ← e.definedType? field with
    | some number => do
      let item ← e.library.resolve number
      let type ← type ()
      .text <$> marked (← e.library.value item "name") type
    | none => type ()
  let t ← e.lookup signature
  return if t.kind = .opaqueHandle then "ctypes.c_void_p" else t.foreignType.text

/-- The layout of one class. -/
def writeLayout (item : Item) : Writing Unit := do
  blank 1
  let bases ← liftM (m := Except Fault) do (← e.basesOf item).mapM e.resolved
  let places := (List.range bases.length).map Emission.baseField
  if !places.isEmpty then
    line ((← e.shown item "name") ++ "._anonymous_ = " ++ nameList places)
  block ((← e.shown item "name") ++ "._fields_ = [") (some "]") do
    (places.zip bases).forM fun (place, b) => do
      line ("(" ++ Text.quoted place ++ ", " ++ (← e.shown b "name") ++ "),")
    let fields := e.fieldsOf item
    fields.found.forM fun f => do
      let name ← e.read (·.value f "name")
      line ("(" ++ name.literal ++ ", " ++ (← liftM (e.fieldType f)) ++ "),")
    match fields.fault with
    | some f => throw f
    | none => pure ()

/-- The layouts of classes. -/
def writeLayouts (classes : List Item) : Writing Unit := do
  let laidOut ← e.read fun l => classes.filterM l.hasLayout
  if !laidOut.isEmpty then
    blank 2
    (← liftM (e.layoutOrder laidOut)).forM e.writeLayout

/-- One function, bound under the name it was created with. -/
def writeFunction (item : Item) : Writing Unit := do
  blank 1
  e.provenance o item
  let result ← liftM (m := Except Fault) do e.lookup (← e.library.value item "return_type")
  let types ← liftM (m := Except Fault) do
    (← e.library.inside item "parameters").mapM fun p => do
      return (← e.lookup (← e.library.value p "type")).foreignType.text
  let name ← e.read (·.value item "name")
  let first ← e.read (·.value item "original_name")
  let symbol := if first.truthy then first else name
  line (name.shown ++ " = _bind(" ++ symbol.literal ++ ", " ++ result.foreignType.text ++ ", [" ++
    ", ".intercalate types ++ "])")

/-- The list of the names that the module gives away. -/
def writeExports (items : List Item) : Writing Unit := do
  let names ← e.read fun l => items.mapM (l.value · "name")
  let duplicates ← liftM (duplicatesOf names)
  if !duplicates.isEmpty then
    throw (.duplicateNames (← liftM ((Value.parts duplicates).mapError Fault.misfit)))
  blank 2
  block "__all__ = [" (some "]") do
    names.forM fun n => line (n.literal ++ ",")

/-- A whole module. -/
def writeModule : Writing Unit := do
  let classes ← e.read (·.emittedClasses)
  Emission.writeStart o
  let enums ← e.read (·.emittedEnums)
  enums.forM (e.writeEnum o)
  classes.forM (e.writeClass o)
  e.writeLayouts classes
  let functions ← e.read (·.emittedFunctions)
  if !functions.isEmpty then
    blank 2
    functions.forM (e.writeFunction o)
  e.writeExports (enums ++ classes ++ functions)

/-- The text of the module. -/
def moduleText : Except Fault String := do
  let ((), c) ← (e.writeModule o).run (Code.empty "    ")
  return c.output

end LooseEmission

end Bindery
