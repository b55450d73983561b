import Bindery.Graph.Basic
import Bindery.Loose.Sweep

/-!
# Snapshots

A dump need not be written where it is asked for. Until it is, its lists and objects are those that
the declarations hold: what is changed in them shows in the dump, whereas an attribute that is given
something else leaves the dump what it had. All else is as it was when the dump was asked for.
-/

namespace Bindery

/-- A dump that is still to be written. -/
structure Snapshot where
  /-- The library when the dump was asked for, with what has been changed inside it since. -/
  library : LooseLibrary
  /-- The declaration that is dumped, unless it is the whole library. -/
  target : Option Nat
  /-- Attributes that have been given something else since. -/
  detached : List (Nat × String)
deriving Repr, Inhabited

namespace Content

/-- Whether a content is a list without declarations or an object, which can be changed inside. -/
def isShared : Content → Bool
  | list items => items.all fun i => i.number?.isNone
  | value (.object _) => true
  | _ => false

end Content

namespace Snapshot

/-- A dump of a graph, or of one of its declarations. -/
def take (g : Graph) (target : Option Nat) : Snapshot :=
  ⟨g.loosened, target, []⟩

/-- Follows an attribute that has been given something else. -/
def detach (s : Snapshot) (id : Nat) (name : String) : Snapshot :=
  { s with detached := (id, name) :: s.detached }

/-- Follows what a library has been changed to inside an attribute. -/
def follow (s : Snapshot) (now : LooseLibrary) (name : String) (id : Nat) : Snapshot :=
  let content (l : LooseLibrary) : Option Content :=
    ((l.content (.declaration id) name).toOption).filter (·.isShared)
  match content s.library, content now with
  | some _, some c =>
    if s.detached.contains (id, name) then s
    else { s with library := s.library.assign id name c }
  | _, _ => s

/-- Follows what a library has been changed to inside an attribute of any declaration. -/
def followAll (s : Snapshot) (now : LooseLibrary) (name : String) : Snapshot :=
  (List.range s.library.created).foldl (fun s id => s.follow now name id) s

/-- What an attribute was given anew is not followed. -/
theorem follow_detach (s : Snapshot) (now : LooseLibrary) (id : Nat) (name : String) :
    (s.detach id name).follow now name id = s.detach id name := by
  simp only [follow, detach]
  split <;> simp

/-- The dump as it is written. -/
def dump (s : Snapshot) : Except Fault Value :=
  match s.target with
  | none => s.library.dump
  | some id => s.library.dumpDecl id

end Snapshot

end Bindery
