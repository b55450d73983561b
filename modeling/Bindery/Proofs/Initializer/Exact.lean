import Bindery.Proofs.Initializer.Parsed

/-!
# Integer expressions have the value they have in C

What is read of an integer expression is evaluated to its integer, and has no value exactly where
the expression is not set. Nothing keeps it from being read and evaluated if it keeps the limits of
the stack; otherwise it is refused, whatever its value.
-/

namespace Bindery.Initializer

/-! ### Rules -/

/-- The token of a lexeme. -/
def Lexeme.token : Lexeme → Token
  | literal l => .number (some l.value)
  | name n => .word n.1
  | opening => .mark "("
  | closing => .mark ")"
  | sign op => .mark op.mark
  | operator op => .mark op.mark

namespace IntegerExpr

/-- The tokens of an expression. -/
def tokens {t : Nat} (e : IntegerExpr t) : List Token :=
  e.lexemes.map Lexeme.token

/-- What is read of a text that an expression is written in. -/
theorem Spells.readable {t : Nat} {e : IntegerExpr t} {text : String} (h : e.Spells text) :
    Spaced isSpacing Symbol.respelled e.constant.symbols (readable text) := by
  have hspaced := Written.spaced h
  rw [← e.symbols_constant] at hspaced
  exact hspaced.readable (fun _ => isGap_of_isSpacing) e.constant.isChain_symbols

end IntegerExpr

/-! ### Values -/

theorem UnaryOp.apply_eq (op : UnaryOp) (n : Int) : op.apply n = op.result n := by
  cases op with
  | negate => rfl
  | keep => rfl
  | complement =>
    change -n - 1 = n.lnot
    cases n with
    | ofNat m =>
      rw [Int.lnot, Int.negSucc_eq, Int.ofNat_eq_natCast]
      omega
    | negSucc m =>
      rw [Int.lnot, Int.negSucc_eq]
      omega

/-- The bits of integers are combined as those of two's complements without end. -/
theorem combineBits_eq (f : Bool → Bool → Bool) (m n : Int) :
    combineBits f m n = Int.bitwise f m n := by
  have hbits (g : Bool → Bool → Bool) (a b : Nat) :
      combineBits.bits g a b = Int.natBitwise g a b := by
    unfold combineBits.bits Int.natBitwise
    cases g false false <;> rfl
  cases m with
  | ofNat a =>
    cases n with
    | ofNat b => exact hbits f a b
    | negSucc b => exact hbits (fun x y => f x !y) a b
  | negSucc a =>
    cases n with
    | ofNat b => exact hbits (fun x y => f (!x) y) a b
    | negSucc b => exact hbits (fun x y => f (!x) !y) a b

theorem twoTo_eq (places : Nat) : twoTo places = 2 ^ places := by
  rw [twoTo, Int.ofNat_eq_natCast, Nat.pow_eq, Int.natCast_pow]
  rfl

namespace IntegerOp

/-- What is shifted has a result where the count of places is allowed. -/
theorem if_shift_eq {op : IntegerOp} (hop : op.shifts = true) (n result : Int) :
    (if n < 0 ∨ shiftLimit < n then none else some result) =
      if op.allows n then some result else none := by
  have hallows : op.allows n = true ↔ ¬(n < 0 ∨ shiftLimit < n) := by
    simp only [allows, hop, Bool.not_true, Bool.false_or, Bool.and_eq_true, decide_eq_true_eq,
      shiftLimit]
    omega
  by_cases h : n < 0 ∨ shiftLimit < n
  · rw [if_pos h, if_neg fun ha => hallows.1 ha h]
  · rw [if_neg h, if_pos (hallows.2 h)]

/-- An operation has a result where its operator allows it, and it is that of the operator. -/
theorem apply_operation (op : IntegerOp) (m n : Int) :
    (ConstantOp.integer op).operation.apply m n =
      if op.allows n then some (op.result m n) else none := by
  cases op with
  | multiply => rfl
  | add => rfl
  | subtract => rfl
  | shiftLeft =>
    rw [← if_shift_eq rfl, result, ← twoTo_eq]
    rfl
  | shiftRight =>
    have hfloor : m.fdiv (twoTo n.toNat) = m / twoTo n.toNat :=
      Int.fdiv_eq_ediv_of_nonneg m (Int.natCast_nonneg _)
    rw [← if_shift_eq rfl, result, ← twoTo_eq, ← hfloor]
    rfl
  | bitAnd => exact congrArg some ((combineBits_eq _ m n).trans (congrFun₂ Int.bitwise_and m n))
  | bitXor => exact congrArg some ((combineBits_eq _ m n).trans (congrFun₂ Int.bitwise_xor m n))
  | bitOr => exact congrArg some ((combineBits_eq _ m n).trans (congrFun₂ Int.bitwise_or m n))

end IntegerOp

namespace IntegerExpr

/-- An expression is evaluated to its value. -/
theorem value?_tree {t : Nat} (e : IntegerExpr t) {known : Known} {env : String → Option Int}
    (henv : ∀ n, known.get? n = (env n).map .int) :
    e.constant.tree.value? known = (e.value env).map .int := by
  unfold value
  induction e with
  | literal l => rfl
  | name n =>
    rw [constant, ConstantExpr.tree, Expr.value?, henv, isSet, number]
    cases env n.1 <;> rfl
  | parens e ih => exact ih
  | unary op e _ ih =>
    rw [constant, ConstantExpr.tree, Expr.value?, ih, isSet, number]
    cases e.isSet env with
    | false => rfl
    | true => exact congrArg (some ∘ Constant.int) (op.apply_eq _)
  | binary op l r _ ihl ihr =>
    change ((l.constant.tree.value? known).bind fun a =>
      (r.constant.tree.value? known).bind fun b =>
        (ConstantOp.integer op).operation.combine a b) = _
    rw [ihl, ihr, isSet, number]
    cases l.isSet env with
    | false => rfl
    | true =>
      cases r.isSet env with
      | false => rfl
      | true => exact congrArg (Option.map Constant.int) (op.apply_operation _ _)

/-- The constant of an expression is its value. -/
theorem constant?_eq {e : IntegerExpr IntegerOp.widest} (hfits : e.Fits) {text : String}
    (h : e.Spells text) {known : Known} {env : String → Option Int}
    (henv : ∀ n, known.respelled.get? n = (env n).map .int) :
    constant? known text = (e.value env).map .int := by
  rw [constant?, ConstantExpr.parse_eq (Nat.le_refl _) hfits.constant h.readable]
  exact e.value?_tree henv

end IntegerExpr

end Bindery.Initializer
