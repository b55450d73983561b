import Bindery.Declaration.Fault
import Bindery.Files.Tree
import Bindery.Initializer.Expression
import Bindery.Report
import Bindery.Script.Raised
import Bindery.Text.Utf8
import Bindery.TypeTable.Descent
import Bindery.Value.Misfit
import Bindery.Value.Reader

/-!
# Faults of a run

Everything that can end a stage of a run: refusals of the declaration graph, failures of transforms,
passes and templates, stages out of order, file operations, refused configurations, and values that
cannot be used where they stand.
-/

namespace Bindery

/-! ### Refused configurations -/

/-- Why a configuration is refused. -/
inductive ConfigFault where
  /-- A configuration has keys that no option has. -/
  | unknownKeys (keys : List String)
  /-- An option that is a list has a value that is neither a list nor a text. -/
  | notAList (key : String)
  /-- No option has this name. -/
  | unknownOption (key : String)
  /-- No transform is named. -/
  | noAssembly
  /-- No template is named. -/
  | noTemplate
  /-- No template has this name. -/
  | unknownTemplate (name : String)
  /-- There is no configuration file at a path. -/
  | fileNotFound (path : String)
  /-- A configuration file has a suffix that is not known. -/
  | unsupportedFormat (suffix : String)
  /-- The text of a configuration file is malformed. -/
  | unreadable (path cause : String)
  /-- A configuration file holds something else than an object. -/
  | notAnObject
deriving DecidableEq, Repr

namespace ConfigFault

/-- The message of a refusal. -/
def message : ConfigFault → String
  | unknownKeys keys => "Unknown configuration key(s): " ++ ", ".intercalate keys
  | notAList key => "'" ++ key ++ "' must be a list"
  | unknownOption key => "Unknown option '" ++ key ++ "'"
  | noAssembly => "no assembly provided"
  | noTemplate => "no template provided"
  | unknownTemplate name => "Unknown template '" ++ name ++ "' (available: ctypes, json)"
  | fileNotFound path => "Configuration file not found: " ++ path
  | unsupportedFormat suffix =>
    "Unsupported configuration format '" ++ suffix ++ "'. Use .yaml, .yml, or .json."
  | unreadable path cause => "Could not read " ++ path ++ ": " ++ cause
  | notAnObject => "Configuration file must contain a JSON/YAML object at the top level."

/-- A refusal as it is reported. -/
def report (f : ConfigFault) : Report :=
  ⟨"ConfigError", f.message⟩

end ConfigFault

/-! ### Ends of stages -/

/-- The causes that end a stage of a run. -/
inductive Fault where
  /-- The declaration graph refuses an operation. -/
  | graph (f : GraphFault)
  /-- A transform described by data fails. -/
  | raised (r : Raised)
  /-- A file operation fails. -/
  | file (f : FileFault)
  /-- A configuration is refused. -/
  | config (f : ConfigFault)
  /-- The bytes of a text file are no UTF-8. -/
  | undecodable (f : Text.Utf8Fault)
  /-- A pass fails. -/
  | passFailed (pass cause : String)
  /-- A pass is added after the passes have started. -/
  | passesStarted
  /-- The passes are run a second time. -/
  | passesExecuted
  /-- A value that is no pass is added as one. -/
  | notAPass (typeName : String)
  /-- A function whose name is no text is added as a pass. -/
  | unnamedFunction
  /-- A stage is entered out of order. -/
  | stageOrder (target current expected : String)
  /-- No template has this name. -/
  | unknownTemplate (name : String)
  /-- Names are defined more than once in a module. -/
  | duplicateNames (names : List String)
  /-- A template fails for a reason of another kind. -/
  | templateFailed (template cause : String)
  /-- A template without anything to generate. -/
  | noTemplate
  /-- An integer is too long to be written in decimal. -/
  | tooManyDigits
  /-- An integer of a text is too long to be read. -/
  | unreadableInteger (f : JsonFault)
  /-- A value that is no text stands for a path. -/
  | notAPath (typeName : String)
  /-- A value of the wrong type. -/
  | misfit (m : Misfit)
  /-- A name that no option has. -/
  | unexpectedOption (name : String)
  /-- A type is nested too deep to be described. -/
  | tooDeep (f : DescentFault)
  /-- A request has too few or too many arguments. -/
  | arity (f : ArityFault)
  /-- An access specifier without a word. -/
  | emptyAccess
  /-- An initializer cannot be read or evaluated. -/
  | initializer (o : Initializer.Obstacle)
deriving Repr

namespace Fault

/-- The label of a fault. -/
def label : Fault → String
  | graph f => f.label
  | raised r => r.label
  | file f => f.cause.label
  | config f => f.report.label
  | undecodable _ => "UnicodeDecodeError"
  | passFailed .. => "PassError"
  | passesStarted => "PipelineStateError"
  | passesExecuted => "PipelineStateError"
  | notAPass _ => "TypeError"
  | unnamedFunction => "TypeError"
  | stageOrder .. => "PipelineStateError"
  | unknownTemplate _ => "GenerationError"
  | duplicateNames _ => "GenerationError"
  | templateFailed .. => "GenerationError"
  | noTemplate => "NotImplementedError"
  | tooManyDigits => "ValueError"
  | unreadableInteger _ => "ValueError"
  | notAPath _ => "TypeError"
  | misfit m => m.label
  | unexpectedOption _ => "TypeError"
  | tooDeep _ => "RecursionError"
  | arity _ => "TypeError"
  | emptyAccess => "IndexError"
  | initializer o => o.label

/-- The message of a fault. -/
def message : Fault → String
  | graph f => f.message
  | raised r => r.message
  | file f => f.message
  | config f => f.message
  | undecodable f => f.message
  | passFailed pass cause => passMessage pass (some cause)
  | passesStarted => "Passes cannot be added once the transform has started"
  | passesExecuted => "The pass list has already been executed"
  | notAPass typeName => "Expected a pass or a callable, got " ++ typeName
  | unnamedFunction => "__name__ must be set to a string object"
  | stageOrder target current expected =>
    "Cannot move to '" ++ target ++ "' from '" ++ current ++ "' (expected '" ++ expected ++ "')"
  | unknownTemplate name => "Unknown template '" ++ name ++ "' (available: ctypes, json)"
  | duplicateNames names =>
    "Names defined more than once in the module: " ++ ", ".intercalate names
  | templateFailed template cause => template ++ " generation failed: " ++ cause
  | noTemplate => ""
  | tooManyDigits =>
    "Exceeds the limit (4300 digits) for integer string conversion; " ++
      "use sys.set_int_max_str_digits() to increase the limit"
  | unreadableInteger f => f.message
  | notAPath typeName => "expected str, bytes or os.PathLike object, not " ++ typeName
  | misfit m => m.message
  | unexpectedOption name =>
    "Options.__init__() got an unexpected keyword argument '" ++ name ++ "'"
  | tooDeep f => f.message
  | arity f => f.message
  | emptyAccess => "list index out of range"
  | initializer o => o.message

/-- A fault as it is reported. -/
def report (f : Fault) : Report :=
  ⟨f.label, f.message⟩

/-- The labels of faults that the program words itself and reports unchanged. -/
def ownLabels : List String :=
  ["CxxbindError", "ConfigError", "LoadError", "ParseError", "PassError", "GenerationError",
    "PipelineStateError", "TypeDatabaseError"]

/-- Whether nothing holds a fault back. -/
def isUnheld : Fault → Bool
  | raised r => r.isUnheld
  | _ => false

/-- Whether a fault is reported unchanged. -/
def isOwn (f : Fault) : Bool :=
  ownLabels.contains f.label

end Fault

end Bindery
