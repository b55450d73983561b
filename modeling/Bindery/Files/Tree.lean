import Bindery.Files.Path
import Bindery.Report
import Bindery.Text.Quoted

/-!
# File trees

Directories and files with their contents, as far as the program needs them: looking for a file,
reading it, making directories and writing. Names are followed one by one, so a way through a
directory that does not exist leads nowhere even if it comes back.
-/

namespace Bindery

/-- Why a file operation fails. -/
inductive FileCause where
  /-- There is nothing at the path. -/
  | notFound
  /-- Something is there already. -/
  | occupied
  /-- A name on the way is no directory. -/
  | notDirectory
  /-- A directory where a file is needed. -/
  | isDirectory
  /-- A name is too long. -/
  | nameTooLong
  /-- The path has a zero character. -/
  | zeroCharacter
deriving DecidableEq, Repr

/-- The number of a cause. A path with a zero character fails before a number is given. -/
def FileCause.code? : FileCause → Option Nat
  | notFound => some 2
  | occupied => some 17
  | notDirectory => some 20
  | isDirectory => some 21
  | nameTooLong => some 36
  | zeroCharacter => none

/-- The wording of a cause. -/
def FileCause.text : FileCause → String
  | notFound => "No such file or directory"
  | occupied => "File exists"
  | notDirectory => "Not a directory"
  | isDirectory => "Is a directory"
  | nameTooLong => "File name too long"
  | zeroCharacter => "embedded null byte"

/-- The label of a cause. -/
def FileCause.label : FileCause → String
  | notFound => "FileNotFoundError"
  | occupied => "FileExistsError"
  | notDirectory => "NotADirectoryError"
  | isDirectory => "IsADirectoryError"
  | nameTooLong => "OSError"
  | zeroCharacter => "ValueError"

/-- A file operation that fails. -/
structure FileFault where
  /-- Why. -/
  cause : FileCause
  /-- The path it was meant for. -/
  path : Path
deriving DecidableEq, Repr

/-- The message of a failed file operation. -/
def FileFault.message (f : FileFault) : String :=
  match f.cause.code? with
  | some code =>
    "[Errno " ++ toString code ++ "] " ++ f.cause.text ++ ": " ++ Text.quoted f.path.text
  | none => f.cause.text

/-- A failed file operation as it is reported. -/
def FileFault.report (f : FileFault) : Report :=
  ⟨f.cause.label, f.message⟩

/-- Directories and files. Entries are named by the names on the way from the root. -/
structure FileTree where
  /-- Where relative paths start. -/
  here : Path
  /-- The directories besides the root. -/
  dirs : List (List String)
  /-- The files and their contents. -/
  files : List (List String × List UInt8)
deriving Repr, Inhabited

namespace FileTree

/-- A place in the tree. -/
inductive Place where
  /-- A directory. -/
  | dir (parts : List String)
  /-- A file. -/
  | file (parts : List String)
deriving DecidableEq, Repr

/-- Whether a place is a directory of the tree. -/
def hasDir (t : FileTree) (parts : List String) : Bool :=
  parts.isEmpty || t.dirs.contains parts

/-- Whether a place is a file of the tree. -/
def hasFile (t : FileTree) (parts : List String) : Bool :=
  t.files.any (·.1 == parts)

/-- The greatest length of a name in bytes. -/
def nameLimit : Nat := 255

/-- Follows names from a place. Behind a file no name can be followed, not even one that leads
back. -/
def follow (t : FileTree) : Place → List String → Except FileCause Place
  | place, [] => .ok place
  | .file _, _ :: _ => .error .notDirectory
  | .dir parts, name :: rest =>
    if name = ".." then t.follow (.dir parts.dropLast) rest
    else
      let next := parts ++ [name]
      if nameLimit < name.utf8ByteSize then .error .nameTooLong
      else if t.hasDir next then t.follow (.dir next) rest
      else if t.hasFile next then t.follow (.file next) rest
      else .error .notFound

/-- The least length in bytes of a written path that is too long. -/
def pathLimit : Nat := 4096

/-- The place a path leads to. -/
def locate (t : FileTree) (p : Path) : Except FileCause Place :=
  if p.hasZero then .error .zeroCharacter
  else if pathLimit ≤ p.text.utf8ByteSize then .error .nameTooLong
  else t.follow (.dir []) (t.here.join p).parts

/-- Whether a path leads to a file. A path that is too long cannot even be asked about. -/
def isFile (t : FileTree) (p : Path) : Except FileFault Bool :=
  match t.locate p with
  | .ok (.file _) => .ok true
  | .error .nameTooLong => .error ⟨.nameTooLong, p⟩
  | _ => .ok false

/-- Whether a path leads to a directory. -/
def isDir (t : FileTree) (p : Path) : Bool :=
  match t.locate p with
  | .ok (.dir _) => true
  | _ => false

/-- Whether a path leads anywhere. A path that is too long cannot even be asked about. -/
def leadsAnywhere (t : FileTree) (p : Path) : Except FileFault Bool :=
  match t.locate p with
  | .ok _ => .ok true
  | .error .nameTooLong => .error ⟨.nameTooLong, p⟩
  | .error _ => .ok false

/-- The contents of a file. -/
def read (t : FileTree) (p : Path) : Except FileFault (List UInt8) :=
  match t.locate p with
  | .ok (.file parts) => .ok (((t.files.find? (·.1 == parts)).map (·.2)).getD [])
  | .ok (.dir _) => .error ⟨.isDirectory, p⟩
  | .error cause => .error ⟨cause, p⟩

/-- Makes one directory in a directory that exists. -/
def makeOne (t : FileTree) (p : Path) : Except FileCause FileTree :=
  match t.locate p with
  | .ok _ => .error .occupied
  | .error .notFound =>
    match t.locate p.parent with
    | .ok (.dir parts) => .ok { t with dirs := t.dirs ++ [parts ++ [p.name]] }
    | .ok (.file _) => .error .notDirectory
    | .error cause => .error cause
  | .error cause => .error cause

/-- Makes a directory and those above it that are missing; `levels` bounds how many. -/
def makeFrom (t : FileTree) : Nat → Path → Except FileFault FileTree
  | 0, p => .error ⟨.notFound, p⟩
  | levels + 1, p =>
    match t.makeOne p with
    | .ok t => .ok t
    | .error .notFound =>
      if p.parts.isEmpty then .error ⟨.notFound, p⟩
      else
        match t.makeFrom levels p.parent with
        | .error e => .error e
        | .ok t =>
          match t.makeOne p with
          | .ok t => .ok t
          | .error cause => if t.isDir p then .ok t else .error ⟨cause, p⟩
    | .error cause => if t.isDir p then .ok t else .error ⟨cause, p⟩

/-- Makes a directory and those above it that are missing. -/
def makeDirs (t : FileTree) (p : Path) : Except FileFault FileTree :=
  t.makeFrom (p.parts.length + 1) p

/-- Writes a file in a directory that exists; what was there before is gone. -/
def write (t : FileTree) (p : Path) (bytes : List UInt8) : Except FileFault FileTree :=
  match t.locate p with
  | .ok (.dir _) => .error ⟨.isDirectory, p⟩
  | .ok (.file parts) =>
    .ok { t with files := t.files.map fun f => if f.1 == parts then (f.1, bytes) else f }
  | .error .notFound =>
    match t.locate p.parent with
    | .ok (.dir parts) => .ok { t with files := t.files ++ [(parts ++ [p.name], bytes)] }
    | .ok (.file _) => .error ⟨.notDirectory, p⟩
    | .error cause => .error ⟨cause, p⟩
  | .error cause => .error ⟨cause, p⟩

/-- A tree that holds nothing but the way to the place where the program runs. -/
def ofPlace (here : Path) : FileTree :=
  ⟨here, (List.range here.parts.length).map fun n => here.parts.take (n + 1), []⟩

/-- Puts a file into the tree together with the directories it needs. -/
def place (t : FileTree) (p : Path) (bytes : List UInt8) : FileTree :=
  match t.makeDirs p.parent with
  | .ok t => (t.write p bytes).toOption.getD t
  | .error _ => t

end FileTree

end Bindery
