import Bindery.Declaration.Basic
import Bindery.Header.SyntaxNode

/-!
# Trees as data

The tree of a header can be written as nested lists: the kind of a node, where its bytes start and
end, its marks, the field under which its parent holds it, and its children, if it has any. Of the
marks, one stands for a named node and two for a missing one.
-/

namespace Bindery.SyntaxNode

/-- The tree of a header that is described by nothing: one node over all its bytes. -/
def whole (length : Nat) : SyntaxNode :=
  ⟨"translation_unit", 0, length, true, false, none, []⟩

/-- A node with its children. -/
def ofParts (kind start stop marks field : Value) (children : List SyntaxNode) : SyntaxNode :=
  let bits := marks.asInt.toNat
  ⟨kind.asText, start.asInt.toNat, stop.asInt.toNat, bits.testBit 0, bits.testBit 1, field.text?,
    children⟩

mutual

/-- The tree that a value describes. -/
def ofValue : Value → SyntaxNode
  | .list [kind, start, stop, marks, field, .list children] =>
    ofParts kind start stop marks field (ofValues children)
  | .list (kind :: start :: stop :: marks :: field :: _) =>
    ofParts kind start stop marks field []
  | _ => whole 0

/-- The trees that values describe. -/
def ofValues : List Value → List SyntaxNode
  | [] => []
  | v :: vs => ofValue v :: ofValues vs

end

end Bindery.SyntaxNode
