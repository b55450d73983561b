import Bindery.Fault

/-!
# Finding headers

A header is looked for as it is given and then, unless its path is absolute, in every include
directory in order. The first file that is found counts.
-/

namespace Bindery

/-- The path that a value stands for. -/
def pathOfValue (v : Value) : Except Fault Path :=
  match v with
  | .text s => .ok (.ofText s)
  | v => .error (.notAPath v.typeName)

/-- Whether a path leads to a file. -/
def FileTree.findsFile (t : FileTree) (p : Path) : Except Fault Bool :=
  (t.isFile p).mapError .file

/-- Looks for a header in directories. -/
def FileTree.searchDirs (t : FileTree) (header : Path) : List Value → Except Fault (Option Path)
  | [] => .ok none
  | dir :: dirs => do
    let candidate := (← pathOfValue dir).join header
    if ← t.findsFile candidate then return some candidate else t.searchDirs header dirs

/-- Looks for a header. -/
def FileTree.findHeader (t : FileTree) (header : Value) (dirs : List Value) :
    Except Fault (Option Path) := do
  let path ← pathOfValue header
  if ← t.findsFile path then return some path
  else if path.isAbsolute then return none
  else t.searchDirs path dirs

end Bindery
