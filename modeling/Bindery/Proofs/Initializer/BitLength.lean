import Bindery.Proofs.Initializer.Faithful
import Mathlib.Data.Nat.Size

/-!
# Bits of values

The value of an expression takes no more bits than its constants and known names do together, and
65 more for each operation. Most operations need far fewer: a sum one more than its longer operand,
a product as many as both, a quotient none, and a shift at most 64, since the places it shifts by
are limited, whatever the count is computed from.
-/

namespace Bindery.Initializer

/-! ### Integers -/

/-- The number of bits of an integer without its sign. -/
def bitLength (n : Int) : Nat :=
  n.natAbs.size

theorem bitLength_le_iff {n : Int} {bits : Nat} : bitLength n ≤ bits ↔ n.natAbs < 2 ^ bits :=
  Nat.size_le

theorem natAbs_lt (n : Int) : n.natAbs < 2 ^ bitLength n :=
  Nat.lt_size_self n.natAbs

theorem bitLength_mono {m n : Int} (h : m.natAbs ≤ n.natAbs) : bitLength m ≤ bitLength n :=
  Nat.size_le_size h

theorem bitLength_neg (n : Int) : bitLength (-n) = bitLength n := by
  rw [bitLength, Int.natAbs_neg, bitLength]

section two

variable (m n : Int)

/-- Both of two integers are below the power of two that the longer one is below. -/
theorem natAbs_lt_max : m.natAbs < 2 ^ max (bitLength m) (bitLength n) ∧
    n.natAbs < 2 ^ max (bitLength m) (bitLength n) :=
  ⟨bitLength_le_iff.1 (le_max_left ..), bitLength_le_iff.1 (le_max_right ..)⟩

theorem bitLength_add_le : bitLength (m + n) ≤ max (bitLength m) (bitLength n) + 1 := by
  obtain ⟨hm, hn⟩ := natAbs_lt_max m n
  have hsum := Int.natAbs_add_le m n
  rw [bitLength_le_iff, Nat.pow_succ]
  omega

theorem bitLength_sub_le : bitLength (m - n) ≤ max (bitLength m) (bitLength n) + 1 := by
  have hadd := bitLength_add_le m (-n)
  rwa [bitLength_neg, ← Int.sub_eq_add_neg] at hadd

theorem bitLength_mul_le : bitLength (m * n) ≤ bitLength m + bitLength n := by
  rw [bitLength_le_iff, Int.natAbs_mul, Nat.pow_add]
  exact Nat.mul_lt_mul'' (natAbs_lt m) (natAbs_lt n)

theorem bitLength_fdiv_le : bitLength (m.fdiv n) ≤ bitLength m :=
  bitLength_mono (Int.natAbs_fdiv_le_natAbs m n)

/-- A remainder is nearer to zero than the divisor, on the same side. -/
theorem bitLength_fmod_le (hn : n ≠ 0) : bitLength (m.fmod n) ≤ bitLength n := by
  have hpositive : ∀ m n : Int, 0 < n → (m.fmod n).natAbs ≤ n.natAbs := by
    intro m n hn
    have hlow := Int.fmod_nonneg_of_pos m hn
    have hhigh := Int.fmod_lt_of_pos m hn
    omega
  refine bitLength_mono ?_
  rcases Int.lt_or_gt_of_ne hn with hneg | hpos
  · have hflip := hpositive (-m) (-n) (by omega)
    rwa [Int.neg_fmod_neg, Int.natAbs_neg, Int.natAbs_neg] at hflip
  · exact hpositive m n hpos

end two

/-- A shift to the left adds as many bits as there are places. -/
theorem bitLength_mul_twoTo_le (m : Int) (places : Nat) :
    bitLength (m * twoTo places) ≤ bitLength m + places := by
  rw [bitLength_le_iff, Int.natAbs_mul, Nat.pow_add]
  exact Nat.mul_lt_mul_of_pos_right (natAbs_lt m) (Nat.two_pow_pos places)

/-- Combined bits of either sign go one place beyond the longer of two numbers at most. -/
theorem bitLength_bits_le (g : Bool → Bool → Bool) {a b bits : Nat} (ha : a < 2 ^ bits)
    (hb : b < 2 ^ bits) : bitLength (combineBits.bits g a b) ≤ bits + 1 := by
  rw [bitLength_le_iff, Nat.pow_succ]
  unfold combineBits.bits
  split_ifs
  · have hlt : Nat.bitwise (fun x y => !g x y) a b < 2 ^ bits := Nat.bitwise_lt_two_pow ha hb
    rw [Int.natAbs_negSucc]
    omega
  · have hlt : Nat.bitwise g a b < 2 ^ bits := Nat.bitwise_lt_two_pow ha hb
    rw [Int.ofNat_eq_natCast, Int.natAbs_natCast]
    omega

theorem bitLength_combineBits_le (f : Bool → Bool → Bool) (m n : Int) :
    bitLength (combineBits f m n) ≤ max (bitLength m) (bitLength n) + 1 := by
  obtain ⟨hm, hn⟩ := natAbs_lt_max m n
  -- a negative number is one farther from zero than the number whose bits it has inverted
  cases m with
  | ofNat a =>
    cases n with
    | ofNat b => exact bitLength_bits_le _ hm hn
    | negSucc b => exact bitLength_bits_le (fun x y => f x !y) hm (Nat.lt_of_succ_lt hn)
  | negSucc a =>
    have hm := Nat.lt_of_succ_lt hm
    cases n with
    | ofNat b => exact bitLength_bits_le (fun x y => f (!x) y) hm hn
    | negSucc b => exact bitLength_bits_le (fun x y => f (!x) !y) hm (Nat.lt_of_succ_lt hn)

/-! ### Operations -/

/-- How many bits an operation on one integer adds. -/
def UnaryOp.spread : UnaryOp → Nat
  | negate | keep => 0
  | complement => 1

theorem UnaryOp.bitLength_apply_le (op : UnaryOp) (n : Int) :
    bitLength (op.apply n) ≤ bitLength n + op.spread := by
  cases op with
  | negate => exact (bitLength_neg n).le
  | keep => exact le_rfl
  | complement =>
    have hlt := natAbs_lt n
    show bitLength (-n - 1) ≤ bitLength n + 1
    rw [bitLength_le_iff, Nat.pow_succ]
    omega

/-- How many bits the result of an operation on two integers takes at most, by those of its
operands. -/
def BinaryOp.width (op : BinaryOp) (left right : Nat) : Nat :=
  match op with
  | add | subtract | bitOr | bitAnd | bitXor => max left right + 1
  | multiply => left + right
  | divide | shiftRight => left
  | remainder => right
  | shiftLeft => left + 64

theorem BinaryOp.width_le (op : BinaryOp) (left right : Nat) :
    op.width left right ≤ left + right + 65 := by
  cases op <;> simp only [width] <;> omega

/-- A shift that has a result is by no more places than the limit. -/
theorem toNat_le_of_apply_shift {n : Int} (h : ¬(n < 0 ∨ shiftLimit < n)) : n.toNat ≤ 64 := by
  have hlimit : shiftLimit = 64 := rfl
  omega

theorem BinaryOp.bitLength_apply_le {op : BinaryOp} {m n r : Int} (h : op.apply m n = some r) :
    bitLength r ≤ op.width (bitLength m) (bitLength n) := by
  cases op with
  | add =>
    cases h
    exact bitLength_add_le m n
  | subtract =>
    cases h
    exact bitLength_sub_le m n
  | multiply =>
    cases h
    exact bitLength_mul_le m n
  | divide =>
    simp only [apply] at h
    split_ifs at h
    cases h
    exact bitLength_fdiv_le m n
  | remainder =>
    simp only [apply] at h
    split_ifs at h with hn
    cases h
    exact bitLength_fmod_le m n hn
  | shiftLeft =>
    simp only [apply] at h
    split_ifs at h with hn
    cases h
    have hplaces := toNat_le_of_apply_shift hn
    exact (bitLength_mul_twoTo_le m n.toNat).trans (Nat.add_le_add_left hplaces _)
  | shiftRight =>
    simp only [apply] at h
    split_ifs at h
    cases h
    exact bitLength_fdiv_le m _
  | bitOr | bitAnd | bitXor =>
    cases h
    exact bitLength_combineBits_le _ m n

theorem BinaryOp.bitLength_combine_le {op : BinaryOp} {a b c : Constant}
    (h : op.combine a b = some c) :
    bitLength c.toInt ≤ bitLength a.toInt + bitLength b.toInt + 65 := by
  have happly := op.map_toInt_combine a b
  rw [h] at happly
  exact (bitLength_apply_le happly.symm).trans (op.width_le ..)

/-! ### Expressions -/

namespace Expr

variable (known : Known)

/-- The bits of the constant of a name, if it has one. -/
def nameBits (n : String) : Nat :=
  ((known.get? n).map fun c => bitLength c.toInt).getD 0

/-- The bits of the constants and known names of an expression, as far as its value depends on
them. -/
def leafBits : Expr → Nat
  | constant c => bitLength c.toInt
  | name n => nameBits known n
  | member n _ => nameBits known n
  | unary _ e => e.leafBits
  | binary _ l r => l.leafBits + r.leafBits
  | _ => 0

/-- The number of operations in an expression. -/
def operations : Expr → Nat
  | unary _ e => e.operations + 1
  | binary _ l r => l.operations + r.operations + 1
  | _ => 0

variable {known}

theorem bitLength_le_nameBits {n : String} {c : Constant} (h : known.get? n = some c) :
    bitLength c.toInt ≤ nameBits known n := by
  rw [nameBits, h]
  exact le_rfl

/-- The value of an expression takes as many bits as its leaves and 65 for each operation at
most. -/
theorem bitLength_value_le {e : Expr} {c : Constant} (h : e.value? known = some c) :
    bitLength c.toInt ≤ e.leafBits known + 65 * e.operations := by
  induction e generalizing c with
  | constant =>
    cases h
    exact le_rfl
  | name n => exact bitLength_le_nameBits h
  | member n => exact bitLength_le_nameBits h
  | unary op e ih =>
    obtain ⟨a, ha, rfl⟩ := Option.map_eq_some_iff.1 h
    have hoperand := ih ha
    have happly := op.bitLength_apply_le a.toInt
    have hspread : op.spread ≤ 1 := by cases op <;> decide
    simp only [leafBits, operations]
    show bitLength (op.apply a.toInt) ≤ _
    omega
  | binary op l r ihl ihr =>
    obtain ⟨a, ha, h⟩ := Option.bind_eq_some_iff.1 h
    obtain ⟨b, hb, h⟩ := Option.bind_eq_some_iff.1 h
    have hleft := ihl ha
    have hright := ihr hb
    have hcombine := BinaryOp.bitLength_combine_le h
    simp only [leafBits, operations]
    omega
  | item | sequence | starred | other => cases h

end Expr

end Bindery.Initializer
