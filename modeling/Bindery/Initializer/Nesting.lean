import Bindery.Initializer.Token

/-!
# How deep the rules of expressions go

A reader that follows the grammar rule by rule enters many rules for one operand: an expression is a
disjunction, which is a conjunction, and so on down to a name. Signs, negations, alternatives and
brackets enter further rules inside. The reader of expressions gives up where too many rules are
entered at a time, whether or not the text is an expression. Here the rules are counted token by
token, without building anything.
-/

namespace Bindery.Initializer

/-- What the tokens at a place stand in. -/
inductive Enclosure where
  /-- Nothing: the whole text. -/
  | whole
  /-- Brackets. -/
  | brackets
  /-- The targets of a loop inside brackets. -/
  | targets
  /-- The parameters of a function without name. -/
  | parameters
deriving DecidableEq, Repr, Inhabited

/-- How many rules are entered at a place, counted to each rule that can be entered again there. -/
structure RuleDepth where
  /-- What encloses the place. -/
  enclosure : Enclosure
  /-- To an item behind a comma. -/
  further : Nat
  /-- To the expression. -/
  expression : Nat
  /-- To an operand of the word or. -/
  conjunction : Nat
  /-- To an operand of the word and. -/
  inversion : Nat
  /-- To an operand of comparisons. -/
  operand : Nat
  /-- To an operand of signs. -/
  factor : Nat
deriving DecidableEq, Repr, Inhabited

namespace RuleDepth

/-- Behind an operator between operands. -/
def atFactor (r : RuleDepth) : RuleDepth :=
  { r with factor := r.operand + 12 }

/-- At an operand of comparisons that is so many rules below the operand of the word and. -/
def atOperand (r : RuleDepth) (below : Nat) : RuleDepth :=
  { r with operand := r.inversion + below }.atFactor

/-- At an operand of the word and that is so many rules below the operand of the word or. -/
def atInversion (r : RuleDepth) (below : Nat) : RuleDepth :=
  { r with inversion := r.conjunction + below }.atOperand 2

/-- At an operand of the word or that is so many rules below the expression. -/
def atConjunction (r : RuleDepth) (below : Nat) : RuleDepth :=
  { r with conjunction := r.expression + below }.atInversion 1

/-- At the start of an expression to which so many rules are entered. -/
def atExpression (r : RuleDepth) (expression : Nat) : RuleDepth :=
  { r with expression := expression }.atConjunction 2

/-- Inside an enclosure whose first item and further items are so many rules below an operand of
signs. -/
def inside (r : RuleDepth) (enclosure : Enclosure) (first further : Nat) : RuleDepth :=
  { r with enclosure := enclosure, further := r.factor + further }.atExpression (r.factor + first)

/-- To a name or a constant. -/
def leaf (r : RuleDepth) : Nat :=
  r.factor + 5

/-- The start of a text. -/
def start : RuleDepth :=
  (⟨.whole, 4, 0, 0, 0, 0, 0⟩ : RuleDepth).atExpression 3

/-- A text that is only a name needs as many rules as there are kinds of expressions. -/
theorem leaf_start : start.leaf = 25 := rfl

end RuleDepth

/-- The count of rules while tokens are read. -/
structure RuleCount where
  /-- The place that is reached. -/
  here : RuleDepth
  /-- The places around it, the innermost first. -/
  outer : List RuleDepth
  /-- Whether an operand has to follow. -/
  wantsOperand : Bool
  /-- The most rules entered at a time so far. -/
  deepest : Nat
  /-- Whether the tokens so far can begin an expression. -/
  isSound : Bool
deriving Repr, Inhabited

namespace RuleCount

/-- The count before the first token. -/
def start : RuleCount := ⟨.start, [], true, 0, true⟩

/-- Goes on with an operand at a place. -/
def operandAt (c : RuleCount) (here : RuleDepth) : RuleCount :=
  { c with here := here, wantsOperand := true }

/-- Goes down into an enclosure. -/
def enter (c : RuleCount) (enclosure : Enclosure) (first further : Nat) : RuleCount :=
  { c with outer := c.here :: c.outer }.operandAt (c.here.inside enclosure first further)

/-- Goes back to the place around an enclosure. -/
def leave (c : RuleCount) : RuleCount :=
  match c.outer with
  | [] => { c with isSound := false }
  | r :: outer => { c with here := r, outer := outer, wantsOperand := false }

/-- Enters so many rules below a name or a constant. -/
def reach (c : RuleCount) (below : Nat) : RuleCount :=
  { c with deepest := max c.deepest (c.here.leaf + below) }

/-- Ends the count at a token that cannot stand there. The rules for mistakes are entered as well,
more of them between two operands. -/
def refuse (c : RuleCount) : RuleCount :=
  { c.reach (if c.wantsOperand then 1 else 3) with isSound := false }

/-- Reads an operand. -/
def leaf (c : RuleCount) : RuleCount :=
  if c.wantsOperand then { c.reach 0 with wantsOperand := false } else c.refuse

/-- Reads a reserved word, or a name. -/
def word (c : RuleCount) (w : String) : RuleCount :=
  let r := c.here
  if c.wantsOperand then
    match w with
    | "not" => c.operandAt ({ r with inversion := r.inversion + 1 }.atOperand 2)
    | "lambda" =>
      { c with outer := r :: c.outer }.operandAt
        ({ r with enclosure := .parameters }.atExpression (r.expression + 8))
    | "await" | "yield" | "from" => c
    | _ => if ["and", "or", "if", "else", "for", "in", "is"].contains w then c.refuse else c.leaf
  else
    match w with
    | "or" => c.operandAt (r.atConjunction 4)
    | "and" => c.operandAt (r.atInversion 3)
    | "in" =>
      if r.enclosure = .targets then
        c.operandAt ({ r with enclosure := .brackets }.atExpression (r.expression - 1))
      else c.operandAt (r.atOperand 5)
    | "is" | "not" => c.operandAt (r.atOperand 5)
    | "else" => c.operandAt (r.atExpression (r.expression + 1))
    | "if" => c.operandAt (r.atExpression r.expression)
    | "for" =>
      if r.enclosure = .whole then c.refuse
      else c.operandAt ({ r with enclosure := .targets }.atExpression r.expression)
    | "async" => c
    | _ => c.refuse

/-- Reads a colon. -/
def colon (c : RuleCount) : RuleCount :=
  match c.here.enclosure with
  | .whole => c.refuse
  | .brackets | .targets => c.operandAt (c.here.atExpression c.here.expression)
  | .parameters =>
    let c := c.leave
    c.operandAt (c.here.atExpression (c.here.expression + 2))

/-- Reads a mark. -/
def mark (c : RuleCount) (m : String) : RuleCount :=
  let r := c.here
  match m with
  | "..." => c.leaf
  | "(" => if c.wantsOperand then c.enter .brackets 11 13 else c.enter .brackets 10 11
  | "[" => if c.wantsOperand then c.enter .brackets 12 13 else c.enter .brackets 8 11
  | "\x7b" => if c.wantsOperand then c.enter .brackets 12 13 else c.refuse
  | ")" | "]" | "\x7d" => if r.enclosure = .brackets then c.leave else { c with isSound := false }
  | "," => c.operandAt (if r.enclosure = .parameters then r else r.atExpression r.further)
  | ":" => c.colon
  | "=" => if r.enclosure = .whole then c.refuse else c.operandAt (r.atExpression r.expression)
  | ":=" => c.operandAt (r.atExpression (r.expression + 1))
  | "-" | "+" =>
    if c.wantsOperand then c.operandAt { r with factor := r.factor + 1 } else c.operandAt r.atFactor
  | "~" => if c.wantsOperand then c.operandAt { r with factor := r.factor + 1 } else c.refuse
  | "**" => if c.wantsOperand then c else c.operandAt { r with factor := r.factor + 2 }
  | "*" => if c.wantsOperand then c else c.operandAt r.atFactor
  | "." => if c.wantsOperand then c.refuse else c.operandAt r
  | "==" | "!=" | "<" | "<=" | ">" | ">=" =>
    if c.wantsOperand then c.refuse else c.operandAt (r.atOperand 5)
  | _ => if c.wantsOperand then c.refuse else c.operandAt r.atFactor

/-- Reads a token. -/
def token (c : RuleCount) (t : Token) : RuleCount :=
  if c.isSound then
    match t with
    | .word w => c.word w
    | .number _ => c.leaf
    | .literal _ => if c.wantsOperand then c.leaf else c
    | .mark m => c.mark m
  else c

end RuleCount

/-- The most rules that are entered at a time to read a text. Behind the last token an operand may
be missing. -/
def ruleDepth (cs : List Char) : Nat :=
  let c := (scanned cs).1.foldl RuleCount.token .start
  if c.isSound && c.wantsOperand then c.refuse.deepest else c.deepest

end Bindery.Initializer
