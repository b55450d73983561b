import Bindery.CommandLine.Command
import Bindery.Header.TreeData
import Bindery.Transform.Description

/-!
# The program

Runs the command on the files below the working directory and writes what it made. Headers are not
parsed here and modules are not run: the tree of a header and what a module does are described in
JSON, by a file of the same name with the suffix for JSON behind it. Of YAML, the part that is JSON
is read.
-/

namespace Bindery.Program

/-- How many levels of directories are read. -/
def depth : Nat := 32

/-- Reads a directory into a tree of files, down to a number of levels. What cannot be read is left
out. -/
def gather : Nat → Path → FileTree → IO FileTree
  | 0, _, files => return files
  | levels + 1, dir, files => do
    let mut files := files
    for entry in ← (← IO.FS.realPath dir.text).readDir do
      let path := dir.join (.ofText entry.fileName)
      try
        if ← entry.path.isDir then
          files := (files.makeDirs path).toOption.getD files
          files ← gather levels path files
        else
          let bytes ← IO.FS.readBinFile entry.path
          files := files.place path bytes.toList
      catch _ => pure ()
    return files

/-- What is written in JSON beside a file. -/
def description? (files : FileTree) (parts : List String) : Option Value :=
  let beside : Path := ⟨.absolute, parts.dropLast ++ [parts.getLastD "" ++ ".json"]⟩
  match files.read beside with
  | .ok bytes => (Value.ofJson (String.ofList (Text.decodeLossy bytes))).toOption
  | .error _ => none

/-- The trees of headers, by their bytes. -/
def describedTrees (files : FileTree) : List (Source × SyntaxNode) :=
  files.files.filterMap fun (parts, bytes) =>
    match description? files parts with
    | some (.list items) => some (bytes, .ofValue (.list items))
    | _ => none

/-- The modules of files. -/
def describedModules (files : FileTree) : ModuleScripts :=
  files.files.filterMap fun (parts, _) =>
    match description? files parts with
    | some (.object fields) => some (⟨.absolute, parts⟩, .ofValue (.object fields))
    | _ => none

/-- What the command works with. -/
def surroundings (files : FileTree) : Surroundings :=
  let trees := describedTrees files
  let grammar : Grammar := fun bytes =>
    ((trees.find? (·.1 == bytes)).map (·.2)).getD (.whole bytes.length)
  ⟨files, grammar, fun text => (Value.ofJson text).mapError (·.message), describedModules files⟩

/-- The usage of the command. -/
def usage : String :=
  "Usage: bindery [OPTIONS] [HEADERS]...\n\n" ++
    "Options:\n" ++
    "  -D, --define TEXT         a definition (repeatable)\n" ++
    "  -I, --include TEXT        a directory of headers (repeatable)\n" ++
    "  --ns, --namespace TEXT    the namespace of the bindings\n" ++
    "  -o, --outdir TEXT         the directory for output\n" ++
    "  --debug                   tell where declarations come from\n" ++
    "  --lib, --library TEXT     the native library\n" ++
    "  -t, --template TEXT       the template: ctypes or json\n" ++
    "  -a, --assembly TEXT       the transform\n" ++
    "  -c, --config FILE         a configuration in JSON or YAML\n" ++
    "  -v, --verbose             tell more\n" ++
    "  -h, --help                show this text\n"

/-- Writes the files that are new or changed. -/
def writeOut (before after : FileTree) : IO Unit := do
  for (parts, bytes) in after.files do
    if !before.files.contains (parts, bytes) then
      let path : Path := ⟨.absolute, parts⟩
      IO.FS.createDirAll path.parent.text
      IO.FS.writeBinFile path.text ⟨bytes.toArray⟩

/-- Runs the command with arguments and tells what came of it. -/
def run (args : List String) : IO UInt32 := do
  let here := Path.ofText (← IO.currentDir).toString
  let files ← gather depth here (.ofPlace here)
  let result := Command.execute (surroundings files) args
  if result.showsUsage then IO.print usage
  writeOut files result.files
  IO.print result.stdout
  IO.eprint result.stderr
  match result.fault with
  | some fault => IO.eprintln (fault.label ++ ": " ++ fault.message)
  | none => pure ()
  return UInt32.ofInt result.exitCode

end Bindery.Program

/-- Runs the command with the arguments of the program. -/
def main (args : List String) : IO UInt32 :=
  Bindery.Program.run args
