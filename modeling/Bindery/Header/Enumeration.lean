import Bindery.Header.Build
import Bindery.Initializer.Meaning

/-!
# Enumerations of headers

An enumeration with a body becomes a declaration with its items. An item has the constant of its
initializer; without initializer it is one more than the item before it, the first item being zero.
An item without constant leaves those after it without one, up to the next initializer.
-/

namespace Bindery

open Bindery.Initializer

/-- What is known of the items read so far. -/
structure ItemState where
  /-- The constants of items by name. -/
  known : Known
  /-- The constant of the next item, if it has no initializer. -/
  next : Option Int
deriving Repr, Inhabited

namespace ItemState

/-- Before the first item. -/
def start : ItemState := ⟨[], some 0⟩

/-- The constant of an item. -/
def constantOf (s : ItemState) (initializer : String) : Option Constant :=
  if initializer = "" then s.next.map .int else constant? s.known initializer

/-- Behind an item. -/
def push (s : ItemState) (name : String) (c : Option Constant) : ItemState :=
  match c with
  | some c => ⟨s.known.put name c, some (c.toInt + 1)⟩
  | none => ⟨s.known, none⟩

end ItemState

namespace Header

variable (h : Header)

/-- Reads one item. -/
def readItem (owner : Nat) (s : ItemState) (n : SyntaxNode) : Build ItemState := do
  let name := h.source.textOf (n.child? "name")
  let initializer := h.source.textOf (n.child? "value")
  match obstacle? initializer with
  | some o => throw (.initializer o)
  | none => pure ()
  let c := s.constantOf initializer
  let _ ← h.create (.enumItem c initializer) owner name n ""
  return s.push name c

/-- Reads an enumeration, which takes the name `otherName` if it has none of its own. Without a body
it declares nothing. -/
def readEnumeration (n : SyntaxNode) (scope : Nat) (comment : String) (otherName : Option String) :
    Build (Option Nat) := do
  match n.child? "body" with
  | none => return none
  | some body =>
    let name :=
      match n.child? "name" with
      | some c => h.source.text c
      | none => otherName.getD ""
    let underlying :=
      match n.child? "base" with
      | some c => h.source.text c
      | none => "int"
    let isScoped := n.children.any fun c => c.kind = "class" ∨ c.kind = "struct"
    let id ← h.create (.enumeration [] underlying isScoped) scope name n comment
    let items := body.namedChildren.filter (·.kind == "enumerator")
    let _ ← items.foldlM (h.readItem id) ItemState.start
    return some id

end Header

end Bindery
