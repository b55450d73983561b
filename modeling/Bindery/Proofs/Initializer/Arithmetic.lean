import Bindery.Initializer.Expression
import Bindery.Initializer.Token
import Bindery.Naming.Basic
import Mathlib.Data.Int.Bitwise
import Mathlib.Data.Nat.Digits.Defs

/-!
# Integer expressions of C

The expressions that enumerators are given in headers, as far as C and the generated module agree on
them: numbers, names, parentheses, signs, and the operators between integers except those that
divide. They are grouped by the tiers of C: an expression that is given where a tier is wanted binds
at least as tightly as that tier, and operators of one tier are taken from the left. So an
expression is given here together with the only way to read it.

An expression is written as a list of lexemes, with any blanks between them, and means an integer
unless it has a name that means none, or shifts by a count that is out of range. Nothing here refers
to how initializers are respelled, read or evaluated.
-/

namespace Bindery.Initializer

/-- A name that can be used. -/
abbrev Identifier := { n : String // Naming.isValid n = true }

/-! ### Numbers -/

/-- The ways to write a number. -/
inductive Radix where
  /-- Ten digits. -/
  | decimal
  /-- Eight digits, behind a zero. -/
  | octal
  /-- Sixteen digits, behind a zero and a letter, which may be a capital. -/
  | hexadecimal (capital : Bool)
deriving DecidableEq, Repr, Inhabited

namespace Radix

/-- How many digits there are. -/
def base : Radix → Nat
  | decimal => 10
  | octal => 8
  | hexadecimal _ => 16

/-- The digits. -/
def digits : Radix → List Char
  | decimal => "0123456789".toList
  | octal => "01234567".toList
  | hexadecimal _ => "0123456789abcdefABCDEF".toList

/-- What stands before the digits. -/
def lead : Radix → List Char
  | decimal => []
  | octal => ['0']
  | hexadecimal capital => ['0', if capital then 'X' else 'x']

end Radix

/-- A number as it is written. Zero is an octal number without digits behind its leading zero. -/
structure IntegerLiteral where
  /-- How it is written. -/
  radix : Radix
  /-- Its digits, behind what leads them. -/
  digits : List Char
  /-- The letters behind it, which tell its width. -/
  suffix : List Char
  /-- The digits are those of its radix. -/
  digits_subset : digits ⊆ radix.digits
  /-- Only the zero that leads an octal number can stand alone. -/
  digits_ne_nil : radix ≠ .octal → digits ≠ []
  /-- A decimal number does not begin with a zero. -/
  head_ne_zero : radix = .decimal → digits.head? ≠ some '0'
  /-- The letters are those for unsigned and long numbers. -/
  suffix_subset : suffix ⊆ "uUlL".toList

namespace IntegerLiteral

/-- The value of a digit. -/
def digit (c : Char) : Nat :=
  "0123456789abcdef".toList.idxOf c.toLower

/-- The number. -/
def value (l : IntegerLiteral) : Nat :=
  Nat.ofDigits l.radix.base (l.digits.reverse.map digit)

/-- The text. -/
def text (l : IntegerLiteral) : List Char :=
  l.radix.lead ++ l.digits ++ l.suffix

end IntegerLiteral

/-! ### Operators -/

namespace UnaryOp

/-- How it is written. -/
def mark : UnaryOp → String
  | negate => "-"
  | keep => "+"
  | complement => "~"

/-- The integer it makes of one. -/
def result : UnaryOp → Int → Int
  | negate, n => -n
  | keep, n => n
  | complement, n => n.lnot

end UnaryOp

/-- The operators between two integers, except those that divide. -/
inductive IntegerOp where
  /-- The product. -/
  | multiply
  /-- The sum. -/
  | add
  /-- The difference. -/
  | subtract
  /-- A shift to the left. -/
  | shiftLeft
  /-- A shift to the right. -/
  | shiftRight
  /-- The bits that both of two numbers have. -/
  | bitAnd
  /-- The bits that just one of two numbers has. -/
  | bitXor
  /-- The bits that one of two numbers has. -/
  | bitOr
deriving DecidableEq, Repr, Inhabited

namespace IntegerOp

/-- How it is written. -/
def mark : IntegerOp → String
  | multiply => "*"
  | add => "+"
  | subtract => "-"
  | shiftLeft => "<<"
  | shiftRight => ">>"
  | bitAnd => "&"
  | bitXor => "^"
  | bitOr => "|"

/-- The tier of an operator. Signs are of the first tier, and an operator of a higher tier binds
less. -/
def tier : IntegerOp → Nat
  | multiply => 2
  | add | subtract => 3
  | shiftLeft | shiftRight => 4
  | bitAnd => 5
  | bitXor => 6
  | bitOr => 7

/-- The tier of the operator that binds least. -/
def widest : Nat := 7

theorem two_le_tier (op : IntegerOp) : 2 ≤ op.tier := by
  cases op <;> decide

theorem tier_le_widest (op : IntegerOp) : op.tier ≤ widest := by
  cases op <;> decide

/-- The integer it makes of two. -/
def result : IntegerOp → Int → Int → Int
  | multiply, m, n => m * n
  | add, m, n => m + n
  | subtract, m, n => m - n
  | shiftLeft, m, n => m * 2 ^ n.toNat
  | shiftRight, m, n => m / 2 ^ n.toNat
  | bitAnd, m, n => m.land n
  | bitXor, m, n => m.xor n
  | bitOr, m, n => m.lor n

/-- Whether it shifts. -/
def shifts : IntegerOp → Bool
  | shiftLeft | shiftRight => true
  | _ => false

/-- Whether it can be given this integer on its right: nothing is shifted by a negative count or by
more than 64 places. -/
def allows (op : IntegerOp) (n : Int) : Bool :=
  !op.shifts || (0 ≤ n && n ≤ 64)

end IntegerOp

/-! ### Expressions -/

/-- An expression that can stand where a tier is wanted. -/
inductive IntegerExpr : Nat → Type where
  /-- A number. -/
  | literal {t : Nat} (l : IntegerLiteral) : IntegerExpr t
  /-- The name of an enumerator. -/
  | name {t : Nat} (n : Identifier) : IntegerExpr t
  /-- Any expression in parentheses. -/
  | parens {t : Nat} (e : IntegerExpr IntegerOp.widest) : IntegerExpr t
  /-- An expression behind a sign. -/
  | unary {t : Nat} (op : UnaryOp) (e : IntegerExpr 1) (h : 1 ≤ t) : IntegerExpr t
  /-- Two expressions joined by an operator. What is of its tier can stand on its left only. -/
  | binary {t : Nat} (op : IntegerOp) (l : IntegerExpr op.tier) (r : IntegerExpr (op.tier - 1))
      (h : op.tier ≤ t) : IntegerExpr t

namespace IntegerExpr

/-- The integer an expression stands for, where names that stand for none count as zero. -/
def number (env : String → Option Int) {t : Nat} : IntegerExpr t → Int
  | literal l => l.value
  | name n => (env n).getD 0
  | parens e => e.number env
  | unary op e _ => op.result (e.number env)
  | binary op l r _ => op.result (l.number env) (r.number env)

/-- Whether every name in an expression stands for an integer, and every shift is by a count from 0
to 64. -/
def isSet (env : String → Option Int) {t : Nat} : IntegerExpr t → Bool
  | literal _ => true
  | name n => (env n).isSome
  | parens e => e.isSet env
  | unary _ e _ => e.isSet env
  | binary op l r _ => l.isSet env && r.isSet env && op.allows (r.number env)

/-- The value of an expression: its integer, if it is set. -/
def value (env : String → Option Int) {t : Nat} (e : IntegerExpr t) : Option Int :=
  if e.isSet env then some (e.number env) else none

/-- How deep parentheses are nested. -/
def nesting {t : Nat} : IntegerExpr t → Nat
  | literal _ => 0
  | name _ => 0
  | parens e => e.nesting + 1
  | unary _ e _ => e.nesting
  | binary _ l r _ => max l.nesting r.nesting

/-- The most digits that a decimal number has. -/
def decimals {t : Nat} : IntegerExpr t → Nat
  | literal l => if l.radix = .decimal then l.digits.length else 0
  | name _ => 0
  | parens e => e.decimals
  | unary _ e _ => e.decimals
  | binary _ l r _ => max l.decimals r.decimals

/-- How deep operations are nested: the number of numbers, names, signs and operators on the longest
way down. -/
def depth {t : Nat} : IntegerExpr t → Nat
  | literal _ => 1
  | name _ => 1
  | parens e => e.depth
  | unary _ e _ => e.depth + 1
  | binary _ l r _ => max l.depth r.depth + 1

/-- The most rules of the grammar that are entered at a time: 25 for a number or a name, one more for
a sign and 28 more for a pair of parentheses around it. -/
def rules {t : Nat} : IntegerExpr t → Nat
  | literal _ => 25
  | name _ => 25
  | parens e => e.rules + 28
  | unary _ e _ => e.rules + 1
  | binary _ l r _ => max l.rules r.rules

/-- An expression keeps the limits of the reader: at most 200 pairs of parentheses stand in each
other, and a decimal number has at most 4300 digits. -/
structure Fits {t : Nat} (e : IntegerExpr t) : Prop where
  /-- Parentheses are not nested deeper than they may be. -/
  nesting_le : e.nesting ≤ nestingLimit
  /-- No decimal number is longer than it may be. -/
  decimals_le : e.decimals ≤ digitLimit

/-- An expression keeps the limits of the stack: the operations are at most 994 deep, and at most
6000 rules are entered at a time. -/
structure Shallow {t : Nat} (e : IntegerExpr t) : Prop where
  /-- Operations are not nested deeper than they are followed. -/
  depth_le : e.depth ≤ Obstacle.evaluableDepth
  /-- No more rules are entered than there is room for. -/
  rules_le : e.rules ≤ Obstacle.ruleLimit

instance {t : Nat} (e : IntegerExpr t) : Decidable e.Fits :=
  decidable_of_iff (e.nesting ≤ nestingLimit ∧ e.decimals ≤ digitLimit)
    ⟨fun h => ⟨h.1, h.2⟩, fun h => ⟨h.nesting_le, h.decimals_le⟩⟩

instance {t : Nat} (e : IntegerExpr t) : Decidable e.Shallow :=
  decidable_of_iff (e.depth ≤ Obstacle.evaluableDepth ∧ e.rules ≤ Obstacle.ruleLimit)
    ⟨fun h => ⟨h.1, h.2⟩, fun h => ⟨h.depth_le, h.rules_le⟩⟩

end IntegerExpr

/-! ### Texts -/

/-- What an expression is written with. -/
inductive Lexeme where
  /-- A number. -/
  | literal (l : IntegerLiteral)
  /-- A name. -/
  | name (n : Identifier)
  /-- An opening parenthesis. -/
  | opening
  /-- A closing parenthesis. -/
  | closing
  /-- A sign. -/
  | sign (op : UnaryOp)
  /-- An operator between two expressions. -/
  | operator (op : IntegerOp)

/-- The text of a lexeme. -/
def Lexeme.text : Lexeme → List Char
  | literal l => l.text
  | name n => n.1.toList
  | opening => ['(']
  | closing => [')']
  | sign op => op.mark.toList
  | operator op => op.mark.toList

/-- The lexemes of an expression. -/
def IntegerExpr.lexemes {t : Nat} : IntegerExpr t → List Lexeme
  | literal l => [.literal l]
  | name n => [.name n]
  | parens e => .opening :: e.lexemes ++ [.closing]
  | unary op e _ => .sign op :: e.lexemes
  | binary op l r _ => l.lexemes ++ .operator op :: r.lexemes

/-- A text that consists of lexemes, each spelled in some way, and of blanks between them. -/
inductive Written (spell : Lexeme → List Char) : List Lexeme → List Char → Prop where
  /-- The last lexeme. -/
  | last (l : Lexeme) : Written spell [l] (spell l)
  /-- A lexeme, blanks, and the lexemes behind them. -/
  | more (l : Lexeme) {blanks : List Char} (hblanks : ∀ c ∈ blanks, isSpacing c = true)
      {ls : List Lexeme} {cs : List Char} (h : Written spell ls cs) :
      Written spell (l :: ls) (spell l ++ (blanks ++ cs))

/-- Texts with blanks between them are written with the lexemes of both. -/
theorem Written.append {spell : Lexeme → List Char} {ls ms : List Lexeme} {cs ds : List Char}
    (hl : Written spell ls cs) {blanks : List Char} (hblanks : ∀ c ∈ blanks, isSpacing c = true)
    (hm : Written spell ms ds) : Written spell (ls ++ ms) (cs ++ (blanks ++ ds)) := by
  induction hl with
  | last l => exact .more l hblanks hm
  | more l hw _ ih =>
    rw [List.cons_append, List.append_assoc, List.append_assoc]
    exact .more l hw ih

/-- A text of a header that an expression is written in. -/
def IntegerExpr.Spells {t : Nat} (e : IntegerExpr t) (text : String) : Prop :=
  Written Lexeme.text e.lexemes text.toList

end Bindery.Initializer
