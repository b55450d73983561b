/-!
# Paths

A path is a root and a list of names. Reading a path drops empty names and names that stand for the
place itself; a name that leads upward stays, since only a file system knows where it leads. A path
that starts with exactly two slashes has a root of its own.
-/

namespace Bindery

/-- Where a path starts. -/
inductive PathRoot where
  /-- At the place where the program runs. -/
  | relative
  /-- At the root. -/
  | absolute
  /-- At a root written with two slashes. -/
  | doubled
deriving DecidableEq, Repr, Inhabited

/-- How a root is written. -/
def PathRoot.text : PathRoot → String
  | relative => ""
  | absolute => "/"
  | doubled => "//"

/-- A path. -/
structure Path where
  /-- Where it starts. -/
  root : PathRoot
  /-- The names on the way. -/
  parts : List String
deriving DecidableEq, Repr, Inhabited

namespace Path

/-- The pieces of a text between slashes. -/
def slashPieces : List Char → List (List Char)
  | [] => [[]]
  | '/' :: cs => [] :: slashPieces cs
  | c :: cs =>
    match slashPieces cs with
    | [] => [[c]]
    | piece :: pieces => (c :: piece) :: pieces

/-- The root of a written path. -/
def rootOf : List Char → PathRoot
  | '/' :: '/' :: '/' :: _ => .absolute
  | '/' :: '/' :: _ => .doubled
  | '/' :: _ => .absolute
  | _ => .relative

/-- Reads a path. -/
def ofText (text : String) : Path :=
  let cs := text.toList
  ⟨rootOf cs, ((slashPieces cs).filter fun p => p ≠ [] ∧ p ≠ ['.']).map String.ofList⟩

/-- Writes a path. The empty path is the place itself. -/
def text (p : Path) : String :=
  if p.root = .relative ∧ p.parts = [] then "." else p.root.text ++ "/".intercalate p.parts

/-- Whether a path does not depend on where the program runs. -/
def isAbsolute (p : Path) : Bool :=
  p.root ≠ .relative

/-- A path read from the end of another one. -/
def join (p q : Path) : Path :=
  if q.isAbsolute then q else ⟨p.root, p.parts ++ q.parts⟩

/-- Whether a name of a path has a zero character. -/
def hasZero (p : Path) : Bool :=
  p.parts.any (·.toList.contains '\x00')

/-- The last name of a path. -/
def name (p : Path) : String :=
  p.parts.getLastD ""

/-- The path without its last name. -/
def parent (p : Path) : Path :=
  ⟨p.root, p.parts.dropLast⟩

/-- A name taken apart at its last dot: what stands before the dot, and the rest with the dot. A dot
at either end of the name does not count. -/
def splitSuffix (name : List Char) : List Char × List Char :=
  let ending := (name.reverse.takeWhile (· ≠ '.')).reverse
  let start := name.take (name.length - ending.length - 1)
  if name.contains '.' && !start.isEmpty && !ending.isEmpty then (start, '.' :: ending)
  else (name, [])

/-- The suffix of the last name, with its dot. -/
def suffix (p : Path) : String :=
  String.ofList (splitSuffix p.name.toList).2

/-- The last name without its suffix. -/
def stem (p : Path) : String :=
  String.ofList (splitSuffix p.name.toList).1

/-- Names with every upward step taken. -/
def collapse (parts : List String) : List String :=
  (parts.foldl (fun done p => if p = ".." then done.tail else p :: done) []).reverse

/-- The absolute path of a path read at `here`, every upward step taken. -/
def resolve (here p : Path) : Path :=
  ⟨.absolute, collapse (here.join p).parts⟩

end Path

/-! ### Homes

A relative path whose first name starts with a tilde can be read at the home of a user: the user
that the name tells, or the one who runs the program where the name is a tilde alone. Which users
there are is fixed. -/

/-- The user who runs the program. -/
def homeOwner : String := "root"

/-- The users and their homes. -/
def homes : List (String × String) :=
  [("root", "/root"), ("daemon", "/usr/sbin"), ("bin", "/bin"), ("sys", "/dev"), ("sync", "/bin"),
    ("games", "/usr/games"), ("man", "/var/cache/man"), ("lp", "/var/spool/lpd"),
    ("mail", "/var/mail"), ("news", "/var/spool/news"), ("uucp", "/var/spool/uucp"),
    ("proxy", "/bin"), ("www-data", "/var/www"), ("backup", "/var/backups"), ("list", "/var/list"),
    ("irc", "/run/ircd"), ("_apt", "/nonexistent"), ("nobody", "/nonexistent")]

/-- The home of a user. -/
def homeOf? (user : String) : Option Path :=
  (homes.find? (·.1 == if user = "" then homeOwner else user)).map fun e => .ofText e.2

/-- The user at whose home a path starts. -/
def Path.user? (p : Path) : Option String :=
  match p.root, p.parts with
  | .relative, first :: _ =>
    match first.toList with
    | '~' :: user => some (String.ofList user)
    | _ => none
  | _, _ => none

/-- A path read at a home in place of its first name. -/
def Path.atHome (p home : Path) : Path :=
  home.join ⟨.relative, p.parts.tail⟩

end Bindery
