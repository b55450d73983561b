import Bindery.Fault
import Bindery.Text.Blank

/-!
# Options

What a run needs to know: headers, where to look for them and what is defined, the namespace, the
native library, the template, the transform, and where output goes. Options come from configuration
files and command lines and may hold values of any type until they are used; to write options out,
only the lists among them are looked into.
-/

namespace Bindery

/-- The options of a run. -/
structure Options where
  /-- Definitions. -/
  defines : Value
  /-- Directories in which headers are looked for. -/
  includeDirs : Value
  /-- Headers. -/
  headers : Value
  /-- The namespace of the bindings, which names the module. -/
  namespaceName : Value
  /-- The directory for output. -/
  outputDir : Value
  /-- The native library. -/
  libraryName : Value
  /-- The template. -/
  template : Value
  /-- The transform. -/
  assembly : Value
  /-- Whether output tells where declarations come from. -/
  debug : Value
  /-- Whether the run tells more. -/
  verbose : Value
deriving Repr, Inhabited

namespace Options

/-- Options before anything is chosen. -/
def default : Options :=
  ⟨.list [], .list [], .list [], .null, .null, .null, .text "ctypes", .text "", .bool false,
    .bool false⟩

/-- The names of the options, in order. -/
def keys : List String :=
  ["defines", "include_dirs", "headers", "namespace", "output_dir", "library_name", "template",
    "assembly", "debug", "verbose"]

/-- The options that are lists. -/
def listKeys : List String := ["defines", "include_dirs", "headers"]

/-- The options that are lists of paths. -/
def pathListKeys : List String := ["include_dirs", "headers"]

/-- The options that can be paths. -/
def pathKeys : List String := ["output_dir", "assembly"]

/-- Gives an option a value, if there is an option of that name. -/
def put (o : Options) (key : String) (v : Value) : Options :=
  match key with
  | "defines" => { o with defines := v }
  | "include_dirs" => { o with includeDirs := v }
  | "headers" => { o with headers := v }
  | "namespace" => { o with namespaceName := v }
  | "output_dir" => { o with outputDir := v }
  | "library_name" => { o with libraryName := v }
  | "template" => { o with template := v }
  | "assembly" => { o with assembly := v }
  | "debug" => { o with debug := v }
  | "verbose" => { o with verbose := v }
  | _ => o

/-- The items of a value that has to be a list. -/
def itemsOf (v : Value) : Except Fault (List Value) :=
  match v.items? with
  | some items => .ok items
  | none => .error (.misfit (.notIterable v.typeName))

/-- The options by name. Their lists must be values that can be walked over. -/
def toFields (o : Options) : Except Fault Fields := do
  return [("defines", .list (← itemsOf o.defines)),
    ("include_dirs", .list (← itemsOf o.includeDirs)),
    ("headers", .list (← itemsOf o.headers)), ("namespace", o.namespaceName),
    ("output_dir", o.outputDir), ("library_name", o.libraryName), ("template", o.template),
    ("assembly", o.assembly), ("debug", o.debug), ("verbose", o.verbose)]

/-- Options with values by name; the rest is chosen as before anything is. -/
def ofFields (fields : Fields) : Except Fault Options :=
  match fields.find? fun f => !keys.contains f.1 with
  | some (name, _) => .error (.unexpectedOption name)
  | none => .ok (fields.foldl (fun o f => o.put f.1 f.2) default)

/-- One override of an option: nothing changes nothing, a list is extended, a truth value can only
switch an option on, and any other value takes the place of the one before. -/
def override (data : Fields) (key : String) (v : Value) : Except Fault Fields := do
  let some old := data.get? key | throw (.config (.unknownOption key))
  match v with
  | .null => return data
  | v =>
    if listKeys.contains key then
      return data.put key (.list ((← itemsOf old) ++ (← itemsOf v)))
    else
      match v with
      | .bool _ => return data.put key (if old.truthy then old else v)
      | v => return data.put key v

/-- Options with overrides. -/
def merge (o : Options) (overrides : Fields) : Except Fault Options := do
  let data ← overrides.foldlM (fun data f => override data f.1 f.2) (← o.toFields)
  ofFields data

/-- The namespace when neither it nor a native library is named. -/
def defaultNamespace : String := "bindings"

/-- Options that name a transform and a template, completed by what follows from them. -/
def validate (o : Options) : Except ConfigFault Options :=
  if !o.assembly.truthy || Text.stripText o.assembly.shown = "" then .error .noAssembly
  else if !o.template.truthy then .error .noTemplate
  else
    let ns :=
      if o.namespaceName.truthy then o.namespaceName
      else if o.libraryName.truthy then o.libraryName
      else .text defaultNamespace
    let out := if o.outputDir.truthy then o.outputDir else .text "."
    .ok { o with namespaceName := ns, outputDir := out }

end Options

end Bindery
