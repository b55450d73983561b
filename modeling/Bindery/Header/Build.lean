import Bindery.Declaration.Library
import Bindery.Fault
import Bindery.Header.SyntaxNode

/-!
# Building declarations from a header

Reading a header adds declarations to the library as it comes to them, and may fail in between; what
it added before stays until the header as a whole is given up. Here is what all parts of a header
share: places, comments, keywords and the text of a type.
-/

namespace Bindery

/-- A header that is being read. -/
structure Header where
  /-- Its path. -/
  file : String
  /-- Its bytes. -/
  source : Source
deriving Repr, Inhabited

/-- A step of reading a header. -/
abbrev Build := ExceptT Fault (StateM Library)

namespace Build

/-- Runs a step: its outcome and the library it leaves. -/
def perform {α : Type} (m : Build α) (lib : Library) : Except Fault α × Library :=
  (ExceptT.run m).run lib

/-- An edit as a step. -/
def edit {α : Type} (e : Edit α) : Build α := do
  let (outcome, lib) := e.perform (← get)
  set lib
  match outcome with
  | .ok a => pure a
  | .error f => throw (.graph f)

/-- The name of a declaration. -/
def nameOf (id : Nat) : Build String := do
  return (((← get).decl? id).map (·.name)).getD ""

/-- Whether a declaration is a class. -/
def isRecord (id : Nat) : Build Bool := do
  return ((← get).decl? id).any (·.body.isRecord)

end Build

namespace Header

variable (h : Header)

/-- The place of a node. -/
def location (n : SyntaxNode) : SourceLocation :=
  let p := h.source.point n.start
  ⟨h.file, p.row + 1, p.column + 1⟩

/-- Gives a new declaration its name, its place and its comment. -/
def describe (name : String) (n : SyntaxNode) (comment : String) (d : Decl) : Decl :=
  { d with name := name, location := some (h.location n), comment := comment }

/-- Creates a declaration. -/
def create (body : Body) (scope : Nat) (name : String) (n : SyntaxNode) (comment : String) :
    Build Nat :=
  Build.edit (Edit.create body (some scope) (h.describe name n comment))

/-- Nodes with the comments that belong to them; the comments themselves are left out. -/
def commented (pending : Option SyntaxNode) : List SyntaxNode → List (SyntaxNode × String)
  | [] => []
  | n :: rest =>
    if n.kind = "comment" then commented (some n) rest
    else (n, h.source.commentFor pending n) :: commented none rest

/-- Whether a node has a keyword among its children. -/
def hasKeyword (n : SyntaxNode) (keyword : String) : Bool :=
  let carriers := ["storage_class_specifier", "virtual_function_specifier", "virtual"]
  n.children.any fun c =>
    c.kind == keyword || (carriers.contains c.kind && h.source.text c == keyword)

/-- Whether a node is the qualifier const. -/
def isConst (n : SyntaxNode) : Bool :=
  n.kind == "type_qualifier" && h.source.text n == "const"

/-- The text of a type that a node names: the name of the type it defines on the way, or the text
of its type, with const before it if the node has that qualifier. -/
def typeText (n : SyntaxNode) (type : Option SyntaxNode) (defined : Option Nat) : Build String := do
  let base ←
    match defined with
    | some id => Build.nameOf id
    | none => pure (h.source.textOf type)
  return if n.children.any h.isConst then "const " ++ base else base

end Header

end Bindery
