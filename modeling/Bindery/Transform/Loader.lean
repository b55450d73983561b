import Bindery.Digest.Md5
import Bindery.Files.Path
import Bindery.Files.Tree
import Bindery.Text.Blank
import Bindery.Transform.Installed
import Bindery.Transform.Registry
import Bindery.Transform.Script
import Bindery.Transform.Selector
import Bindery.Value.Misfit
import Bindery.Value.Sorting

/-!
# Loading transforms

A transform is named by a registered name, by the path of a module file or by the dotted name of a
module, and a module can be followed by the name of one of its transforms. Loading a module runs it,
which registers its transforms one after the other and may fail; what was registered before the
failure stays. A dotted name is followed directory by directory, and the modules on the way are run
first; modules that are installed need no file. A module without transforms gives one that does
nothing. The path of a file may start at the home of a user; a path that cannot be asked about is no
failure of a module.
-/

namespace Bindery

open Bindery.Text

/-- Why a transform cannot be loaded. -/
inductive LoadFault where
  /-- No transform is named. -/
  | noAssembly
  /-- A module cannot be loaded. -/
  | notLoaded (target cause : String)
  /-- A module does not register a transform of a name. -/
  | notRegistered (target name : String)
  /-- A module registers several transforms and none is named. -/
  | ambiguous (target : String) (names : List String)
  /-- A transform cannot be made. -/
  | notMade (name cause : String)
  /-- Values do not allow what is done with them. -/
  | misfit (m : Misfit)
  /-- A path cannot be asked about. -/
  | file (f : FileFault)
  /-- A path starts at the home of a user that there is not. -/
  | homeless
  /-- A module or a transform fails in a way that nothing holds back. -/
  | raised (r : Raised)
deriving Repr

namespace LoadFault

/-- The message of a failure. -/
def message : LoadFault → String
  | noAssembly => "no assembly provided"
  | notLoaded target cause => "assembly '" ++ target ++ "' could not be loaded: " ++ cause
  | notRegistered target name =>
    "'" ++ target ++ "' does not register a transform named '" ++ name ++ "'"
  | ambiguous target names =>
    "'" ++ target ++ "' registers several transforms (" ++ ", ".intercalate names ++
      "); select one with '" ++ target ++ ":<name>'"
  | notMade name cause => "Transform '" ++ name ++ "' could not be constructed: " ++ cause
  | misfit m => m.message
  | file f => f.message
  | homeless => "Could not determine home directory."
  | raised r => r.message

/-- The label of a failure. -/
def label : LoadFault → String
  | misfit m => m.label
  | file f => f.cause.label
  | homeless => "RuntimeError"
  | raised r => r.label
  | _ => "LoadError"

/-- A failure as it is reported. -/
def report (f : LoadFault) : Report :=
  ⟨f.label, f.message⟩

end LoadFault

/-- A class that a module defines and registers. -/
structure ModuleClass where
  /-- The name of the class. -/
  className : String
  /-- The name that is asked for when it is registered. -/
  asked : Value
  /-- The transform. -/
  script : TransformScript
deriving Repr, Inhabited

/-- A module described by data. -/
structure ModuleScript where
  /-- How running it fails at the start, if it does. -/
  raiseFirst : Option Raised
  /-- The classes it registers. -/
  classes : List ModuleClass
  /-- How running it fails at the end, if it does. -/
  raiseLast : Option Raised
deriving Repr, Inhabited

/-- A module without transforms. -/
def ModuleScript.blank : ModuleScript := ⟨none, [], none⟩

/-- The modules of files, by the absolute paths of the files. -/
abbrev ModuleScripts := List (Path × ModuleScript)

/-- The module of a file. -/
def ModuleScripts.at (scripts : ModuleScripts) (file : Path) : ModuleScript :=
  ((scripts.find? (·.1 == file)).map (·.2)).getD .blank

/-- The transform that does nothing, under the name it is registered by. -/
def nullTransform : Candidate TransformScript :=
  ⟨⟨"cxxbind.plugins.base", "NullTransform"⟩, true, .idle "none"⟩

/-- A transform that was loaded. -/
structure LoadedTransform where
  /-- The name of its class. -/
  className : String
  /-- Whether it is the one that does nothing. -/
  isNull : Bool
  /-- The transform. -/
  script : TransformScript
deriving Repr, Inhabited

/-- The registered transforms, and which targets were loaded as which modules. -/
structure Loader where
  /-- The registered transforms. -/
  registry : Registry TransformScript
  /-- The modules of targets. -/
  loaded : List (String × String)
deriving Repr, Inhabited

/-- Why running a module fails. -/
inductive ModuleFault where
  /-- For a cause that is told. -/
  | cause (message : String)
  /-- In a way that nothing holds back. -/
  | unheld (r : Raised)
deriving Repr

/-- There is no module of a name. -/
def ModuleFault.notFound (name : String) : ModuleFault :=
  cause ("No module named " ++ quoted name)

/-- A step of running modules. -/
abbrev Running := ExceptT ModuleFault (StateM Loader)

/-- A step of loading. -/
abbrev Loading := ExceptT LoadFault (StateM Loader)

namespace Loading

/-- Takes a step: its outcome and the loader it leaves. -/
def perform {α : Type} (m : Loading α) (l : Loader) : Except LoadFault α × Loader :=
  (ExceptT.run m).run l

/-- An outcome as a step. -/
def settle {α : Type} (outcome : Except LoadFault α) : Loading α :=
  ExceptT.mk (pure outcome)

/-- Runs the modules of a target. -/
def ofTarget {α : Type} (target : String) (m : Running α) : Loading α :=
  m.adapt fun
    | .cause message => .notLoaded target message
    | .unheld r => .raised r

end Loading

namespace Running

/-- Fails if a module says so. -/
def raise (r : Option Raised) : Running Unit :=
  match r with
  | some r => throw (if r.isUnheld then .unheld r else .cause r.message)
  | none => pure ()

/-- Registers a class of a module. -/
def registerClass (module : String) (c : ModuleClass) : Running Unit := do
  let l ← get
  let definition : Definition := ⟨module, c.className⟩
  match l.registry.register (definition.registeredName c.asked) ⟨definition, true, c.script⟩ with
  | .ok r => set { l with registry := r }
  | .error f => throw (.cause f.message)

/-- Runs a module under a name. -/
def runModule (m : ModuleScript) (name : String) : Running Unit := do
  raise m.raiseFirst
  m.classes.forM (registerClass name)
  raise m.raiseLast

end Running

/-- Whether a path leads to a file. -/
def findsModule (files : FileTree) (path : Path) : Except LoadFault Bool :=
  (files.isFile path).mapError .file

/-- Whether a target is the path of a file rather than the name of a module. -/
def isPathTarget (files : FileTree) (target : String) : Except LoadFault Bool :=
  let cs := target.toList
  if ".py".toList.isSuffixOf cs || cs.contains '/' || cs.contains '\\' then .ok true
  else findsModule files (.ofText target)

/-- The absolute path of a module file. It may be written from the home of a user. -/
def modulePath (here path : Path) : Except LoadFault Path :=
  let resolved (p : Path) : Except LoadFault Path :=
    if p.hasZero then .error (.file ⟨.zeroCharacter, path⟩) else .ok (Path.resolve here p)
  match path.user? with
  | none => resolved path
  | some user =>
    if user.toList.contains '\x00' then .error (.file ⟨.zeroCharacter, path⟩)
    else
      match homeOf? user with
      | none => .error .homeless
      | some home => resolved (path.atHome home)

/-- How many bytes of a digest tell the modules of files apart. -/
def digestBytes : Nat := 4

/-- The name of the module of a file. -/
def fileModuleName (file : Path) : String :=
  let digest := (Digest.md5 (encodeUtf8 file.text)).take digestBytes
  "cxxbind_transform_" ++ file.stem ++ "_" ++
    String.ofList (digest.flatMap fun byte => hexDigits 2 byte.toNat)

variable (files : FileTree) (scripts : ModuleScripts)

/-- Loads the module of a file: its name. -/
def Loading.loadFile (path : Path) : Loading String := do
  let full ← settle (modulePath files.here path)
  if !(← settle (findsModule files full)) then throw (.notLoaded path.text "file not found")
  else if !".py".toList.isSuffixOf full.text.toList then
    throw (.notLoaded path.text "not a Python module")
  else
    let name := fileModuleName full
    ofTarget path.text (Running.runModule (scripts.at full) name)
    return name

/-- Where the modules in a module are. -/
inductive Container where
  /-- In a directory. -/
  | directory (dir : Path)
  /-- Among what is installed. -/
  | installed
  /-- Nowhere: the module is no package. -/
  | plain

/-- Where the modules in an installed module are. -/
def Container.ofInstalled (name : String) : Container :=
  if (Installed.parts? name).isSome then .installed else .plain

namespace Running

/-- Imports the module of a dotted name, whose parts before the point are in `outer`. -/
def importParts (outer : List String) (inside : Container) : List String → Running Unit
  | [] => pure ()
  | part :: rest => do
    let outerName := ".".intercalate outer
    let parts := outer ++ [part]
    let name := ".".intercalate parts
    if Installed.ready.contains name then importParts parts (.ofInstalled name) rest
    else
      match inside with
      | .plain =>
        throw (.cause ("No module named " ++ quoted name ++ "; " ++ quoted outerName ++
          " is not a package"))
      | .installed =>
        if Installed.hasPart outerName part then importParts parts (.ofInstalled name) rest
        else throw (.notFound name)
      | .directory dir =>
        let place := dir.join (.ofText part)
        let package := place.join (.ofText "__init__.py")
        let file := dir.join (.ofText (part ++ ".py"))
        if part ≠ "" ∧ (files.isFile package).toOption = some true then
          runModule (scripts.at package) name
          importParts parts (.directory place) rest
        else if part ≠ "" ∧ (files.isFile file).toOption = some true then
          runModule (scripts.at file) name
          importParts parts .plain rest
        else if Installed.modules.contains name then importParts parts (.ofInstalled name) rest
        else if part ≠ "" ∧ files.isDir place then importParts parts (.directory place) rest
        else throw (.notFound name)

/-- The parts of a dotted name. -/
def dottedParts : List Char → List (List Char)
  | [] => [[]]
  | '.' :: cs => [] :: dottedParts cs
  | c :: cs =>
    match dottedParts cs with
    | [] => [[c]]
    | part :: parts => (c :: part) :: parts

/-- Imports the module of a dotted name. -/
def importModule (target : String) : Running Unit :=
  match target.toList with
  | '.' :: _ =>
    throw (.cause
      ("the 'package' argument is required to perform a relative import for " ++ quoted target))
  | cs => importParts files scripts [] (.directory files.here) ((dottedParts cs).map String.ofList)

end Running

/-- Loads the module of a target: its name. A target is loaded once. -/
def Loading.loadModule (target : String) : Loading String := do
  match (← get).loaded.find? (·.1 == target) with
  | some (_, name) => return name
  | none =>
    let name ←
      if ← settle (isPathTarget files target) then loadFile files scripts (.ofText target)
      else do
        ofTarget target (Running.importModule files scripts target)
        pure target
    modify fun l => { l with loaded := l.loaded ++ [(target, name)] }
    return name

namespace Loader

/-- The loader before anything is loaded. -/
def start : Loader := ⟨[(.text "none", nullTransform)], []⟩

/-- Makes a registered transform, whose name is shown. -/
def make (shown : String) (c : Candidate TransformScript) : Except LoadFault LoadedTransform :=
  match c.content.failInit with
  | some r => .error (if r.isUnheld then .raised r else .notMade shown r.message)
  | none =>
    .ok ⟨c.definition.name, c.definition = nullTransform.definition, c.content⟩

/-- Why nothing is chosen among several transforms. Their names are told in order, as far as they
have one. -/
def ambiguity (found : Registry TransformScript) (target : String) : LoadFault :=
  match (Sorted.ofList Value.before found.names).outcome.bind Value.parts with
  | .ok names => .ambiguous target names
  | .error m => .misfit m

/-- Chooses a transform among those of a module. -/
def choose (found : Registry TransformScript) (s : Selector) : Except LoadFault LoadedTransform :=
  match s.name with
  | some name =>
    match found.get? (.text name) with
    | some c => make name c
    | none => .error (.notRegistered s.target name)
  | none =>
    match found with
    | [] => make "none" nullTransform
    | [(name, c)] => make name.shown c
    | _ => .error (ambiguity found s.target)

/-- Loads the transform of a name. -/
def loadText (l : Loader) (files : FileTree) (scripts : ModuleScripts) (spec : String) :
    Except LoadFault LoadedTransform × Loader :=
  let spec := stripText spec
  if spec = "" then (.error .noAssembly, l)
  else
    let s := Selector.ofText spec
    match s.name, l.registry.get? (.text s.target) with
    | none, some c => (make s.target c, l)
    | _, _ =>
      match (Loading.loadModule files scripts s.target).perform l with
      | (.error f, l) => (.error f, l)
      | (.ok name, l) => (choose (l.registry.definedIn name) s, l)

/-- Loads the transform that a value names. -/
def load (l : Loader) (files : FileTree) (scripts : ModuleScripts) (spec : Value) :
    Except LoadFault LoadedTransform × Loader :=
  if !spec.truthy then (.error .noAssembly, l)
  else
    match spec.textFor "strip" with
    | .ok s => l.loadText files scripts s
    | .error m => (.error (.misfit m), l)

end Loader

end Bindery
