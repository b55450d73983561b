import Bindery.Declaration.Dump
import Bindery.Emit.BindingModule
import Bindery.Graph.Basic
import Bindery.Loose.BindingModule
import Bindery.Loose.NameIndex
import Bindery.Loose.Sweep
import Bindery.Text.Utf8
import Bindery.Value.Printer

/-!
# Graph files

The dump of a library as JSON, under the namespace of the run and together with the type expressions
of the emitted classes by name.
-/

namespace Bindery

namespace Emission

variable (e : Emission) (o : Options)

/-- The type expressions of the emitted classes by name. -/
def classTypes : Except Fault Fields :=
  e.library.emittedClasses.foldlM
    (fun types d => return types.put d.name (.text (← e.lookup d.name).foreignType.text)) []

/-- The fields of the file. -/
def graphFields : Except Fault Fields := do
  let data := e.library.dumpFields.put "namespace" o.namespaceName
  return data.put "types" (.object (← e.classTypes))

/-- The text of the file for a value. -/
def fileText (v : Value) : Except Fault String :=
  if v.isWritable then .ok (v.toJson (if o.debug.truthy then .indented 0 else .line) ++ "\n")
  else .error .tooManyDigits

/-- The text of the file. -/
def graphText : Except Fault String := do
  fileText o (.object (← e.graphFields o))

end Emission

/-!
### Graph files of loose libraries

The dump of a loose library as JSON, with the type expressions of the emitted classes by name. A
type expression that is the name of a class stands there as it is, text or not.
-/

namespace LooseEmission

variable (e : LooseEmission) (o : Options)

/-- The type expressions of the emitted classes by name. -/
def classTypes : Except Fault Fields := do
  (← e.library.emittedClasses).foldlM
    (fun types c => do
      let name ← e.library.value c "name"
      let t ← e.lookup name
      return types.put name.shown t.foreignType.value)
    []

/-- The text of the file. -/
def graphText : Except Fault String := do
  let data := (← e.library.dumpFields).put "namespace" o.namespaceName
  Emission.fileText o (.object (data.put "types" (.object (← e.classTypes))))

end LooseEmission

end Bindery

/-!
## Templates

A template makes one file of a library: a binding module or a dump of the graph. The file is named
after the namespace and lies in the directory for output, which is made if it is missing. Faults
that are not worded by the program itself are reported as failures of the template.
-/

namespace Bindery

/-- The templates. -/
inductive Template where
  /-- A binding module. -/
  | bindings
  /-- A dump of the graph. -/
  | graph
deriving DecidableEq, Repr, Inhabited

namespace Template

/-- The name of a template. -/
def name : Template → String
  | bindings => "ctypes"
  | graph => "json"

/-- The suffix of the files of a template. -/
def extension : Template → String
  | bindings => ".py"
  | graph => ".json"

/-- The template of a name. -/
def ofName? (name : String) : Option Template :=
  [bindings, graph].find? (·.name == name)

theorem ofName?_name (t : Template) : ofName? t.name = some t := by
  cases t <;> rfl

/-- The template of a name. -/
def ofName (name : String) : Except Fault Template :=
  match ofName? name with
  | some t => .ok t
  | none => .error (.unknownTemplate name)

/-- The template that a value names. -/
def ofValue : Value → Except Fault Template
  | .list _ => .error (.misfit (.notAKey "list"))
  | .object _ => .error (.misfit (.notAKey "dict"))
  | .text s => ofName s
  | v => .error (.unknownTemplate v.shown)

/-- The text of the file that a template makes of a typed library. -/
def text (t : Template) (e : Emission) (o : Options) : Except Fault String :=
  match t with
  | bindings => e.moduleText o
  | graph => e.graphText o

/-- The text of the file that a template makes of a loose library. -/
def looseText (t : Template) (e : LooseEmission) (o : Options) : Except Fault String :=
  match t with
  | bindings => e.moduleText o
  | graph => e.graphText o

/-- The text of the file that a template makes of a graph. -/
def graphText (t : Template) (g : Graph) (table : TypeTable) (o : Options) : Except Fault String :=
  match g with
  | .typed lib => t.text (.ofLibrary lib table) o
  | .loose l => t.looseText (.ofLibrary l table) o

/-- The path of the file that a template makes. -/
def path (t : Template) (o : Options) : Except Fault Path :=
  match o.outputDir with
  | .text dir =>
    .ok ((Path.ofText (if dir = "" then "." else dir)).join
      (.ofText (o.namespaceName.shown ++ t.extension)))
  | v => if v.truthy then .error (.notAPath v.typeName)
    else .ok (.ofText (o.namespaceName.shown ++ t.extension))

/-- How a fault of a template is reported. -/
def wrap (t : Template) (f : Fault) : Fault :=
  if f.isOwn then f else .templateFailed t.name f.message

/-- Writes a file and makes the directories it needs. -/
def writeFile (files : FileTree) (path : Path) (text : String) : Except FileFault FileTree := do
  (← files.makeDirs path.parent).write path (Text.encodeUtf8 text)

/-- Makes the file of a template. -/
def make (t : Template) (g : Graph) (table : TypeTable) (o : Options) (files : FileTree) :
    Except Fault (List Path × FileTree) := do
  let text ← t.graphText g table o
  let path ← t.path o
  let files ← (writeFile files path text).mapError .file
  return ([path], files)

end Template

/-- Makes the file of the template that options name: its path, and the files then. -/
def emit (g : Graph) (table : TypeTable) (o : Options) (files : FileTree) :
    Except Fault (List Path × FileTree) := do
  let t ← Template.ofValue o.template
  (t.make g table o files).mapError t.wrap

end Bindery
