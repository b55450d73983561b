import Bindery.CommandLine.Arguments
import Bindery.Options.Load
import Bindery.Run
import Bindery.Transform.Loader

/-!
# The command

The command reads its arguments, completes them by a configuration file, loads the transform, makes
a run and tells what came of it. Its exit code is 2 for arguments and configurations that are
refused, 3 for a transform that cannot be loaded, and 4 for a run that fails in a pass or a
template; any other fault of a run is not its own and ends the command with 1. A transform can end
the command itself: it can ask for an exit code, interrupt the command, or find what the command
tells unwanted. What the command tells is plain text.
-/

namespace Bindery

/-! ### Plain output

What the command tells is meant to be read as plain text. Sequences that would control a terminal
are left out: an escape and an opening bracket, then parameters from zero to the question mark, then
characters from the blank to the slash, and one character more, from the at sign to the tilde, that
ends the sequence. A carriage return before a line feed is left out as well.
-/

namespace Plain

/-- Whether a character is a part of the parameters of a sequence. -/
def isParameter (c : Char) : Bool :=
  '0' ≤ c && c ≤ '?'

/-- Whether a character may stand between the parameters and the end of a sequence. -/
def isIntermediate (c : Char) : Bool :=
  ' ' ≤ c && c ≤ '/'

/-- Whether a character ends a sequence. -/
def isFinal (c : Char) : Bool :=
  '@' ≤ c && c ≤ '~'

/-- How many characters the sequence at the start of a text has. -/
def sequenceLength? : List Char → Option Nat
  | '\x1b' :: '[' :: cs =>
    let rest := (cs.dropWhile isParameter).dropWhile isIntermediate
    match rest with
    | c :: after => if isFinal c then some (cs.length - after.length + 2) else none
    | [] => none
  | _ => none

/-- A text without sequences. So many characters at its start are left out already. -/
def dropSequences : Nat → List Char → List Char
  | _, [] => []
  | left + 1, _ :: cs => dropSequences left cs
  | 0, c :: cs =>
    match sequenceLength? (c :: cs) with
    | some length => dropSequences (length - 1) cs
    | none => c :: dropSequences 0 cs

/-- A text in which a line feed takes its carriage return with it. -/
def joinLineEnds : List Char → List Char
  | [] => []
  | '\r' :: '\n' :: cs => '\n' :: joinLineEnds cs
  | c :: cs => c :: joinLineEnds cs

/-- A text whose carriage returns before line feeds are left out. -/
def ends (s : String) : String :=
  String.ofList (joinLineEnds s.toList)

/-- A text as it is told. -/
def text (s : String) : String :=
  String.ofList (joinLineEnds (dropSequences 0 s.toList))

end Plain

/-! ### The course of the command -/

/-- What the command works with. -/
structure Surroundings where
  /-- The files. -/
  files : FileTree
  /-- How headers are made into trees. -/
  grammar : Grammar
  /-- How YAML is read. -/
  yaml : YamlReader
  /-- The modules of files. -/
  modules : ModuleScripts

/-- What came of the command. -/
structure CommandResult where
  /-- The exit code. -/
  exitCode : Int
  /-- Whether the usage is shown. -/
  showsUsage : Bool
  /-- What is told. -/
  stdout : String
  /-- What went wrong. -/
  stderr : String
  /-- The fault that ends the command, if it is not its own. -/
  fault : Option Report
  /-- The files then. -/
  files : FileTree
deriving Repr, Inhabited

namespace CommandResult

/-- The usage, shown with an exit code. -/
def usage (exitCode : Int) (files : FileTree) : CommandResult :=
  ⟨exitCode, true, "", "", none, files⟩

/-- A failure that is reported. -/
def failure (exitCode : Int) (message : String) (files : FileTree) : CommandResult :=
  ⟨exitCode, false, "", Plain.text ("Error: " ++ message ++ "\n"), none, files⟩

/-- A fault that is not the command's own. -/
def aborted (fault : Report) (files : FileTree) : CommandResult :=
  ⟨1, false, "", "", some fault, files⟩

/-- The exit that a failure asks for. What is no number is told. -/
def exit (r : Raised) (files : FileTree) : CommandResult :=
  match r.args with
  | [] | [.null] => ⟨0, false, "", "", none, files⟩
  | [.int code] => ⟨code, false, "", "", none, files⟩
  | [.bool b] => ⟨b.toInt, false, "", "", none, files⟩
  | _ => ⟨1, false, Plain.ends (r.message ++ "\n"), "", none, files⟩

/-- What comes of the command when a failure ends it. -/
def raised (r : Raised) (files : FileTree) : CommandResult :=
  match r.label with
  | "SystemExit" => exit r files
  | "KeyboardInterrupt" | "EOFError" => ⟨1, false, "", "\nAborted!\n", none, files⟩
  | _ => if r.isUnwanted then ⟨1, false, "", "", none, files⟩ else .aborted r.report files

/-- What comes of the command when a fault ends it. -/
def ended (f : Fault) (files : FileTree) : CommandResult :=
  match f with
  | .raised r => .raised r files
  | f => .aborted f.report files

end CommandResult

namespace Arguments

/-- What arguments say about options. -/
def overrides (a : Arguments) : Fields :=
  [("headers", Value.ofTexts a.headers), ("defines", Value.ofTexts a.defines),
    ("include_dirs", Value.ofTexts a.includeDirs), ("namespace", .ofText? a.namespaceName),
    ("output_dir", .ofText? a.outputDir), ("library_name", .ofText? a.library),
    ("template", .ofText? a.template), ("assembly", .ofText? a.assembly),
    ("debug", .bool a.debug), ("verbose", .bool a.verbose)]

/-- The configuration file, unless its path is empty. -/
def configPath? (a : Arguments) : Option Path :=
  match a.config with
  | none => none
  | some path => if path = "" then none else some (.ofText path)

/-- The options of a run by its arguments and its configuration file. The template must be known. -/
def options (a : Arguments) (s : Surroundings) : Except Fault Options := do
  let base ←
    match a.configPath? with
    | some path => Options.load s.files s.yaml path
    | none => pure Options.default
  let o ← ((← base.merge a.overrides).validate).mapError .config
  match Template.ofValue o.template with
  | .ok _ => return o
  | .error (.unknownTemplate name) => throw (.config (.unknownTemplate name))
  | .error f => throw f

end Arguments

namespace Run

/-- What a run that has come to its end tells. -/
def summary (r : Run) : String :=
  let counts := "Parsed " ++ toString r.parsed.length ++ " header(s), " ++
    toString r.failures.length ++ " failed\n"
  let written := String.join (r.outputs.map fun p => "Wrote " ++ p.text ++ "\n")
  counts ++ written ++ if r.parsed.isEmpty then "Nothing to generate\n" else ""

/-- What went wrong in a run that has come to its end. -/
def complaints (r : Run) : String :=
  String.join (r.failures.map fun f => "  - " ++ f.message ++ "\n")

end Run

namespace Command

/-- Makes a run with a transform. -/
def conclude (s : Surroundings) (o : Options) (t : TransformScript) : CommandResult :=
  let (outcome, r) := (Run.start o t s.files).perform (Run.all s.grammar)
  match outcome with
  | .error f =>
    if f.label = "PassError" ∨ f.label = "GenerationError" then .failure 4 f.message r.files
    else .ended f r.files
  | .ok () => ⟨0, false, Plain.text r.summary, Plain.text r.complaints, none, r.files⟩

/-- Follows what the arguments say. -/
def follow (s : Surroundings) (a : Arguments) : CommandResult :=
  match a.options s with
  | .error (.config f) => .failure 2 f.message s.files
  | .error f => .aborted f.report s.files
  | .ok o =>
    match (Loader.start.load s.files s.modules o.assembly).1 with
    | .error (.raised r) => .raised r s.files
    | .error f =>
      if f.label = "LoadError" then .failure 3 f.message s.files else .aborted f.report s.files
    | .ok t => conclude s o t.script

/-- Runs the command with arguments. -/
def execute (s : Surroundings) (args : List String) : CommandResult :=
  if args.isEmpty then .usage 2 s.files
  else
    match Arguments.ofList args with
    | .error .unknown => .usage 2 s.files
    | .error (.needsValue option) =>
      .failure 2 ("Option '" ++ option ++ "' requires an argument.") s.files
    | .error (.refusesValue option) =>
      .failure 2 ("Option '" ++ option ++ "' does not take a value.") s.files
    | .ok a =>
      if a.help then .usage 0 s.files
      else
        match a.configPath? with
        | some path =>
          if path.hasZero then .aborted (FileFault.report ⟨.zeroCharacter, path⟩) s.files
          else if s.files.isDir path then .usage 2 s.files
          else follow s a
        | none => follow s a

end Command

end Bindery
