import Bindery.Declaration.Basic

/-!
# Expressions and their values

What an initializer means. Constants, names that are known, and operations on integers have a value;
an expression of any other form has none, and neither has an operation on an operand without value,
a division by zero, or a shift by a negative count or by more than 64 places. Division goes to the
floor, and a remainder has the sign of the divisor. Truth values count as numbers; only the bitwise
operations on two truth values give a truth value again.
-/

namespace Bindery.Initializer

/-- The operations on one integer. -/
inductive UnaryOp where
  /-- The negative. -/
  | negate
  /-- The number itself. -/
  | keep
  /-- All bits inverted. -/
  | complement
deriving DecidableEq, Repr, Inhabited

/-- The operations on two integers. -/
inductive BinaryOp where
  /-- The sum. -/
  | add
  /-- The difference. -/
  | subtract
  /-- The product. -/
  | multiply
  /-- The quotient, rounded to the floor. -/
  | divide
  /-- The remainder. -/
  | remainder
  /-- A shift to the left. -/
  | shiftLeft
  /-- A shift to the right. -/
  | shiftRight
  /-- The bits that one of two numbers has. -/
  | bitOr
  /-- The bits that both of two numbers have. -/
  | bitAnd
  /-- The bits that just one of two numbers has. -/
  | bitXor
deriving DecidableEq, Repr, Inhabited

/-- An expression, as far as its value depends on it. Forms without value are kept by their height:
the number of nodes on the longest way down. -/
inductive Expr where
  /-- A constant. -/
  | constant (c : Constant)
  /-- A name. -/
  | name (n : String)
  /-- A name behind a point. Of what stands before the point only the height matters. -/
  | member (n : String) (height : Nat)
  /-- An operation on one operand. -/
  | unary (op : UnaryOp) (operand : Expr)
  /-- An operation on two operands. -/
  | binary (op : BinaryOp) (left right : Expr)
  /-- An item behind a bracket. -/
  | item (height : Nat)
  /-- A sequence of expressions, and whether all of them can be assigned to. -/
  | sequence (assignable : Bool) (height : Nat)
  /-- An expression behind a star, and whether it can be assigned to. -/
  | starred (assignable : Bool) (height : Nat)
  /-- Any other expression. -/
  | other (height : Nat)
deriving DecidableEq, Repr, Inhabited

namespace Expr

/-- Whether an expression can be assigned to. -/
def isAssignable : Expr → Bool
  | name _ => true
  | member .. => true
  | item _ => true
  | sequence assignable _ => assignable
  | starred assignable _ => assignable
  | _ => false

/-- Whether an expression has a star before it. -/
def isStarred : Expr → Bool
  | starred .. => true
  | _ => false

/-- How deep operations are nested in an expression. Only operations that have values count. -/
def depth : Expr → Nat
  | unary _ e => e.depth + 1
  | binary _ l r => max l.depth r.depth + 1
  | _ => 1

theorem depth_pos (e : Expr) : 0 < e.depth := by
  cases e <;> simp [depth]

/-- The number of nodes on the longest way down from an expression. -/
def height : Expr → Nat
  | constant _ => 1
  | name _ => 1
  | unary _ e => e.height + 1
  | binary _ l r => max l.height r.height + 1
  | member _ height | item height | sequence _ height | starred _ height | other height => height

/-- The greatest of heights. -/
def highest (heights : List Nat) : Nat :=
  heights.foldl max 0

/-- An expression of a form without value around others. -/
def around (heights : List Nat) : Expr :=
  other (highest heights + 1)

end Expr

/-- The result of an operation on one integer. -/
def UnaryOp.apply : UnaryOp → Int → Int
  | negate, n => -n
  | keep, n => n
  | complement, n => -n - 1

/-- The greatest count of places a number is shifted by. -/
def shiftLimit : Int := 64

/-- A power of two. -/
def twoTo (places : Nat) : Int :=
  .ofNat (Nat.pow 2 places)

/-- Every bit of two integers combined. `f` combines bits, and a number goes on to the left with the
bits of its sign. -/
def combineBits (f : Bool → Bool → Bool) (m n : Int) : Int :=
  match m, n with
  | .ofNat a, .ofNat b => bits f a b
  | .ofNat a, .negSucc b => bits (fun x y => f x !y) a b
  | .negSucc a, .ofNat b => bits (fun x y => f (!x) y) a b
  | .negSucc a, .negSucc b => bits (fun x y => f (!x) !y) a b
where
  /-- Combines natural numbers; the result is negative if the bits beyond both of them are set. -/
  bits (g : Bool → Bool → Bool) (a b : Nat) : Int :=
    if g false false then .negSucc (Nat.bitwise (fun x y => !g x y) a b)
    else .ofNat (Nat.bitwise g a b)

/-- The result of an operation on two integers, if it has one. -/
def BinaryOp.apply : BinaryOp → Int → Int → Option Int
  | add, m, n => some (m + n)
  | subtract, m, n => some (m - n)
  | multiply, m, n => some (m * n)
  | divide, m, n => if n = 0 then none else some (m.fdiv n)
  | remainder, m, n => if n = 0 then none else some (m.fmod n)
  | shiftLeft, m, n => if n < 0 ∨ shiftLimit < n then none else some (m * twoTo n.toNat)
  | shiftRight, m, n => if n < 0 ∨ shiftLimit < n then none else some (m.fdiv (twoTo n.toNat))
  | bitOr, m, n => some (combineBits (· || ·) m n)
  | bitAnd, m, n => some (combineBits (· && ·) m n)
  | bitXor, m, n => some (combineBits Bool.xor m n)

/-- The result of a bitwise operation on two truth values. -/
def BinaryOp.truth? : BinaryOp → Bool → Bool → Option Bool
  | bitOr, a, b => some (a || b)
  | bitAnd, a, b => some (a && b)
  | bitXor, a, b => some (Bool.xor a b)
  | _, _, _ => none

/-- The result of an operation on two constants, if it has one. -/
def BinaryOp.combine (op : BinaryOp) (a b : Constant) : Option Constant :=
  match a, b with
  | .truth p, .truth q =>
    match op.truth? p q with
    | some r => some (.truth r)
    | none => (op.apply a.toInt b.toInt).map .int
  | _, _ => (op.apply a.toInt b.toInt).map .int

/-- Constants by name; the first entry of a name counts. -/
abbrev Known := List (String × Constant)

/-- The constant of a name. -/
def Known.get? (known : Known) (name : String) : Option Constant :=
  (known.find? (·.1 == name)).map (·.2)

/-- The value of an expression, if it has one. -/
def Expr.value? (known : Known) : Expr → Option Constant
  | constant c => some c
  | name n => known.get? n
  | member n _ => known.get? n
  | unary op e => (e.value? known).map fun c => .int (op.apply c.toInt)
  | binary op l r => do op.combine (← l.value? known) (← r.value? known)
  | _ => none

end Bindery.Initializer

/-!
## Obstacles to initializers

An initializer that is no expression has no constant, and nothing is wrong with it. An obstacle is
worse: it keeps an initializer from being read or evaluated at all, and is reported. A text with a
zero character is not read; nor is one for which too many rules have to be entered, or whose
expression is too high; and operations that are nested too deep are not followed to the end.
-/

namespace Bindery.Initializer

/-- Why an initializer is not read, or not evaluated. -/
inductive Obstacle where
  /-- It has a zero character. -/
  | zeroCharacter
  /-- Too many rules have to be entered to read it. -/
  | tooManyRules
  /-- Its expression is too high to be built. -/
  | unreadableHeight
  /-- Its operations are nested too deep to be evaluated. -/
  | unevaluableDepth
deriving DecidableEq, Repr, Inhabited

namespace Obstacle

/-- The label of an obstacle. -/
def label : Obstacle → String
  | zeroCharacter => "ValueError"
  | tooManyRules => "MemoryError"
  | unreadableHeight => "RecursionError"
  | unevaluableDepth => "RecursionError"

/-- The message of an obstacle. -/
def message : Obstacle → String
  | zeroCharacter => "source code string cannot contain null bytes"
  | tooManyRules => ""
  | unreadableHeight => "maximum recursion depth exceeded during ast construction"
  | unevaluableDepth => "maximum recursion depth exceeded"

/-- How many rules can be entered at a time. -/
def ruleLimit : Nat := 6000

/-- How high an expression can be that is built. -/
def readableHeight : Nat := 2978

/-- How deep operations can be nested in an expression that is evaluated. -/
def evaluableDepth : Nat := 994

/-- What keeps an expression from being built or evaluated. -/
def ofExpr? (e : Expr) : Option Obstacle :=
  if readableHeight < e.height then some unreadableHeight
  else if evaluableDepth < e.depth then some unevaluableDepth
  else none

end Obstacle

end Bindery.Initializer
