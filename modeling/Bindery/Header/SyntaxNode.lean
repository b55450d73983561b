import Bindery.Text.Blank
import Bindery.Text.Utf8

/-!
# Trees of headers

The tree that a grammar makes of a header. A node has a kind, the place of its bytes in the header,
the field under which its parent holds it, and its children. Nodes of kind ERROR and missing nodes
mark places that do not follow the grammar; the first of them is found by a search that leaves out
every part of the tree without fault.
-/

namespace Bindery

/-- A node of the tree of a header. -/
structure SyntaxNode where
  /-- Its kind. -/
  kind : String
  /-- Where its bytes start. -/
  start : Nat
  /-- Where its bytes end. -/
  stop : Nat
  /-- Whether it stands for a rule of the grammar rather than for a piece of text. -/
  named : Bool
  /-- Whether the grammar put it in although the header lacks it. -/
  missing : Bool
  /-- The field under which its parent holds it. -/
  field : Option String
  /-- Its children. -/
  children : List SyntaxNode
deriving Repr, Inhabited

namespace SyntaxNode

theorem sizeOf_lt_of_mem_children {c n : SyntaxNode} (h : c ∈ n.children) :
    sizeOf c < sizeOf n := by
  obtain ⟨k, s, t, a, b, f, cs⟩ := n
  have := List.sizeOf_lt_of_mem h
  simp only [SyntaxNode.mk.sizeOf_spec]
  simp only at this
  omega

/-- The children that stand for rules. -/
def namedChildren (n : SyntaxNode) : List SyntaxNode :=
  n.children.filter (·.named)

/-- The first child of a field. -/
def child? (n : SyntaxNode) (field : String) : Option SyntaxNode :=
  n.children.find? (·.field == some field)

/-- The children of a field, in order. -/
def childrenAt (n : SyntaxNode) (field : String) : List SyntaxNode :=
  n.children.filter (·.field == some field)

theorem child?_mem {n c : SyntaxNode} {field : String} (h : n.child? field = some c) :
    c ∈ n.children :=
  List.mem_of_find?_eq_some h

theorem sizeOf_child?_lt {n c : SyntaxNode} {field : String} (h : n.child? field = some c) :
    sizeOf c < sizeOf n :=
  sizeOf_lt_of_mem_children (child?_mem h)

theorem sizeOf_head?_namedChildren_lt {n c : SyntaxNode} (h : n.namedChildren.head? = some c) :
    sizeOf c < sizeOf n :=
  sizeOf_lt_of_mem_children (List.mem_filter.1 (List.mem_of_mem_head? h)).1

mutual

/-- How many nodes a tree has. -/
def size : SyntaxNode → Nat
  | ⟨_, _, _, _, _, _, children⟩ => 1 + sizes children

/-- How many nodes trees have together. -/
def sizes : List SyntaxNode → Nat
  | [] => 0
  | n :: ns => n.size + sizes ns

end

/-- Whether a node itself is a fault. -/
def isFault (n : SyntaxNode) : Bool :=
  n.kind == "ERROR" || n.missing

mutual

/-- Whether there is a fault in a tree. -/
def hasFault : SyntaxNode → Bool
  | ⟨kind, _, _, _, missing, _, children⟩ => kind == "ERROR" || missing || haveFault children

/-- Whether there is a fault in one of several trees. -/
def haveFault : List SyntaxNode → Bool
  | [] => false
  | n :: ns => n.hasFault || haveFault ns

end

/-- The first fault in the trees that remain to be searched, of at most a number of nodes. -/
def searchFault : Nat → List SyntaxNode → Option SyntaxNode
  | 0, _ => none
  | _ + 1, [] => none
  | nodes + 1, n :: rest =>
    if n.isFault then some n else searchFault nodes (n.children.filter (·.hasFault) ++ rest)

/-- The first fault in a tree. A tree that has a fault without showing one is a fault as a whole. -/
def firstFault? (n : SyntaxNode) : Option SyntaxNode :=
  if n.hasFault then some ((searchFault n.size [n]).getD n) else none

end SyntaxNode

end Bindery

/-!
## Places, texts and comments of headers

The bytes of a header, and what a node of its tree covers: a text, decoded and without the blanks
around it, and a place. Lines end at line feeds; a column counts bytes.
-/

namespace Bindery

open Bindery.Text

/-- The bytes of a header. -/
abbrev Source := List UInt8

/-- A place in a header: lines and bytes before it, both from zero. -/
structure Point where
  /-- The lines before it. -/
  row : Nat
  /-- The bytes before it in its line. -/
  column : Nat
deriving DecidableEq, Repr, Inhabited

namespace Source

/-- The line feed. -/
def lineFeed : UInt8 := 10

/-- The place of an offset. Behind its end, a source is read as if its last line went on. -/
def point (source : Source) (offset : Nat) : Point :=
  let before := source.take offset
  let line := before.reverse.takeWhile (· != lineFeed)
  ⟨before.count lineFeed, line.length + (offset - before.length)⟩

/-- The text of a node. -/
def chars (source : Source) (n : SyntaxNode) : List Char :=
  strip (decodeLossy ((source.drop n.start).take (n.stop - n.start)))

/-- The text of a node. -/
def text (source : Source) (n : SyntaxNode) : String :=
  String.ofList (source.chars n)

/-- The text of a node that may be absent. -/
def textOf (source : Source) : Option SyntaxNode → String
  | some n => source.text n
  | none => ""

end Source

/-! ### Comments

A comment belongs to the declaration right below it. A line comment loses its slashes; a block
comment loses its frame, and every line of it the stars and blanks at its start. -/

/-- Whether a text starts and ends like a block comment. -/
def isBlockComment (cs : List Char) : Bool :=
  "/*".toList.isPrefixOf cs && "*/".toList.isSuffixOf cs

/-- The text between the frame of a block comment. -/
def unframe (cs : List Char) : List Char :=
  if isBlockComment cs then (cs.drop 2).take (cs.length - 4) else cs

/-- One line of a block comment without its decoration. -/
def plainLine (line : List Char) : List Char :=
  strip ((strip line).dropWhile (· == '*'))

/-- The words of a comment, without what marks it as a comment. -/
def commentWords (cs : List Char) : String :=
  if "//".toList.isPrefixOf cs then String.ofList (strip (cs.dropWhile (· == '/')))
  else
    let lines := ((splitLines (unframe cs)).map plainLine).filter (!·.isEmpty)
    "\n".intercalate (lines.map String.ofList)

/-- The words of a comment for the node below it; a comment further up does not belong to it. -/
def Source.commentFor (source : Source) (comment : Option SyntaxNode) (n : SyntaxNode) : String :=
  match comment with
  | none => ""
  | some c =>
    if (source.point c.stop).row + 1 < (source.point n.start).row then ""
    else commentWords (source.chars c)

end Bindery
