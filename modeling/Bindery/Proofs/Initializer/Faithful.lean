import Bindery.Proofs.Initializer.Exact

/-!
# Constant expressions that are read faithfully

In two places what is read is not what C means. An escape is read as the code of its letter,
whatever it stands for; and a quotient is rounded to the floor, with a remainder of the sign of the
divisor, where C rounds towards zero. The two ways to round agree exactly where a division comes out
even or both numbers have the same sign.

So an expression is faithful if all its escapes are their own letters and all its divisions are of
that kind. A faithful expression is read as its value in C or as nothing, and any other has a part
that is read as another integer.
-/

namespace Bindery.Initializer

open Bindery.Text

/-! ### Divisions -/

/-- Rounding to the floor is rounding towards zero exactly where a division comes out even or both
numbers have the same sign. -/
theorem fdiv_eq_tdiv_iff {m n : Int} (hn : n ≠ 0) : m.fdiv n = m.tdiv n ↔ n ∣ m ∨ 0 ≤ m * n := by
  have hsign : 0 ≤ m * n ↔ (0 ≤ m ∧ 0 < n) ∨ (m ≤ 0 ∧ n < 0) := by
    rw [mul_nonneg_iff]
    omega
  rw [hsign, Int.fdiv_eq_tdiv]
  by_cases hdvd : n ∣ m
  · simp [hdvd]
  · have hm : m ≠ 0 := by
      rintro rfl
      exact hdvd (Int.dvd_zero n)
    obtain hneg | hpos := Int.lt_or_gt_of_ne hn
    · rw [Int.sign_eq_neg_one_of_neg hneg]
      split_ifs <;> omega
    · rw [Int.sign_eq_one_of_pos hpos]
      split_ifs <;> omega

theorem fmod_eq_tmod_iff {m n : Int} (hn : n ≠ 0) : m.fmod n = m.tmod n ↔ n ∣ m ∨ 0 ≤ m * n := by
  rw [← fdiv_eq_tdiv_iff hn, Int.fmod_def, Int.tmod_def, Int.sub_right_inj,
    Int.mul_eq_mul_left_iff hn]

namespace ConstantOp

/-- Whether an operator makes of two integers what C does: a division comes out even, or both
numbers have the same sign. -/
def isFaithful : ConstantOp → Int → Int → Bool
  | integer _, _, _ => true
  | divide, m, n | remainder, m, n => n ∣ m ∨ 0 ≤ m * n

/-- An operation has no result where its operator cannot be given what is on its right. -/
theorem apply_eq_none_iff (op : ConstantOp) (m n : Int) :
    op.operation.apply m n = none ↔ op.allows n = false := by
  obtain op | _ | _ := op
  · rw [op.apply_operation, allows]
    cases op.allows n <;> simp
  · simp [operation, BinaryOp.apply, allows]
  · simp [operation, BinaryOp.apply, allows]

/-- Exactly where an operator is faithful its operation has the value of C. -/
theorem apply_eq_value_iff (op : ConstantOp) (m n : Int) :
    op.operation.apply m n = op.value m n ↔ op.isFaithful m n = true := by
  obtain op | _ | _ := op
  · exact iff_of_true (op.apply_operation m n) rfl
  · by_cases hn : n = 0
    · simp [operation, BinaryOp.apply, value, allows, isFaithful, hn]
    · simp [operation, BinaryOp.apply, value, allows, result, isFaithful, hn, fdiv_eq_tdiv_iff hn]
  · by_cases hn : n = 0
    · simp [operation, BinaryOp.apply, value, allows, isFaithful, hn]
    · simp [operation, BinaryOp.apply, value, allows, result, isFaithful, hn, fmod_eq_tmod_iff hn]

end ConstantOp

/-- Truth values count as numbers in every operation. -/
theorem BinaryOp.map_toInt_combine (op : BinaryOp) (a b : Constant) :
    (op.combine a b).map Constant.toInt = op.apply a.toInt b.toInt := by
  have hint : ((op.apply a.toInt b.toInt).map Constant.int).map Constant.toInt =
      op.apply a.toInt b.toInt := by
    cases op.apply a.toInt b.toInt <;> rfl
  cases a with
  | int m => exact hint
  | truth p =>
    cases b with
    | int n => exact hint
    | truth q =>
      have hbits : ∀ op ∈ [bitOr, bitAnd, bitXor], ∀ p q, (op.combine (.truth p) (.truth q)).map
          Constant.toInt = op.apply (Constant.truth p).toInt (Constant.truth q).toInt := by
        decide +kernel
      cases op with
      | bitOr | bitAnd | bitXor => exact hbits _ (by simp) p q
      | _ => exact hint

/-! ### Names -/

namespace Known

/-- The integer that a name stands for. -/
def integer? (known : Known) (name : String) : Option Int :=
  (known.get? name).map Constant.toInt

/-- Constants under different names that can be used. -/
structure Plain (known : Known) : Prop where
  /-- Every name can be used. -/
  valid : ∀ e ∈ known, Naming.isValid e.1 = true
  /-- No name is given twice. -/
  nodup : (known.map (·.1)).Nodup

theorem find?_eq_some_iff {known : Known} (h : (known.map (·.1)).Nodup) {name : String}
    {e : String × Constant} :
    known.find? (·.1 == name) = some e ↔ e ∈ known ∧ e.1 = name := by
  constructor
  · intro he
    exact ⟨List.mem_of_find?_eq_some he, by simpa using List.find?_some he⟩
  · rintro ⟨he, rfl⟩
    have hsome : (known.find? (·.1 == e.1)).isSome = true :=
      List.find?_isSome.2 ⟨e, he, beq_self_eq_true e.1⟩
    obtain ⟨e', he'⟩ := Option.isSome_iff_exists.1 hsome
    have hname : e'.1 = e.1 := by simpa using List.find?_some he'
    rw [he', List.inj_on_of_nodup_map h (List.mem_of_find?_eq_some he') he hname]

/-- Under such names constants are looked up as they are. -/
theorem Plain.get?_respelled {known : Known} (h : known.Plain) (name : String) :
    known.respelled.get? name = known.get? name := by
  have hsame : (known.map fun e => (String.ofList (joinScopes e.1.toList), e.2)) = known := by
    refine (List.map_congr_left fun e he => ?_).trans (List.map_id known)
    rw [joinScopes_of_isValid (h.valid e he)]
    rfl
  have hreverse : (List.map (·.1) (List.reverse known)).Nodup := by
    rw [List.map_reverse, List.nodup_reverse]
    exact h.nodup
  rw [respelled, hsame, get?, get?]
  congr 1
  ext e
  rw [find?_eq_some_iff hreverse, find?_eq_some_iff h.nodup, List.mem_reverse]

theorem Plain.integer?_respelled {known : Known} (h : known.Plain) (name : String) :
    known.respelled.integer? name = known.integer? name :=
  congrArg (Option.map Constant.toInt) (h.get?_respelled name)

end Known

/-! ### Expressions -/

/-- Whether a numeral is read as what it stands for: an escape is its own letter. -/
def Numeral.isFaithful : Numeral → Bool
  | character q => q.letter.toNat == q.code
  | _ => true

theorem Numeral.isFaithful_iff (n : Numeral) : n.isFaithful = true ↔ n.number = n.value := by
  cases n with
  | character q => exact beq_iff_eq
  | _ => exact iff_of_true rfl rfl

namespace ConstantExpr

/-- Whether the escapes of an expression are their own letters and its divisions come out even or
are of numbers with the same sign. -/
def isFaithful (env : String → Option Int) {t : Nat} : ConstantExpr t → Bool
  | numeral n => n.isFaithful
  | name _ => true
  | parens e => e.isFaithful env
  | unary _ e _ => e.isFaithful env
  | binary op l r _ => l.isFaithful env && r.isFaithful env &&
      (l.value env).all fun m => (r.value env).all fun n => op.isFaithful m n

/-- The value of two expressions joined by an operator is what the operator makes of theirs. -/
theorem toInt_value?_tree_binary {op : ConstantOp} {l : ConstantExpr op.tier}
    {r : ConstantExpr (op.tier - 1)} {t : Nat} {h : op.tier ≤ t} (known : Known) :
    ((binary op l r h).tree.value? known).map Constant.toInt =
      ((l.tree.value? known).map Constant.toInt).bind fun m =>
        ((r.tree.value? known).map Constant.toInt).bind fun n => op.operation.apply m n := by
  rw [tree, Expr.value?]
  cases l.tree.value? known with
  | none => rfl
  | some a =>
    cases r.tree.value? known with
    | none => rfl
    | some b => exact BinaryOp.map_toInt_combine _ a b

/-- A faithful expression is evaluated to its value. -/
theorem toInt_value?_tree {t : Nat} (e : ConstantExpr t) {known : Known}
    {env : String → Option Int} (henv : ∀ n, known.integer? n = env n)
    (h : e.isFaithful env = true) : (e.tree.value? known).map Constant.toInt = e.value env := by
  induction e with
  | numeral n =>
    rw [isFaithful, Numeral.isFaithful_iff] at h
    rw [tree, h]
    rfl
  | name n => exact henv n.1
  | parens e ih => exact ih h
  | unary op e _ ih =>
    rw [tree, Expr.value?, value, ← ih h]
    cases e.tree.value? known with
    | none => rfl
    | some c => exact congrArg some (op.apply_eq _)
  | binary op l r _ ihl ihr =>
    rw [isFaithful, Bool.and_eq_true, Bool.and_eq_true] at h
    obtain ⟨⟨hl, hr⟩, hop⟩ := h
    rw [toInt_value?_tree_binary, ihl hl, ihr hr, value]
    cases hm : l.value env with
    | none => rfl
    | some m =>
      cases hn : r.value env with
      | none => rfl
      | some n =>
        rw [hm, hn] at hop
        exact (op.apply_eq_value_iff m n).2 hop

/-! ### Initializers -/

variable {t : Nat} {e : ConstantExpr t} {known : Known}

/-- What is read of a text of an expression is the expression or nothing. -/
theorem Spells.constant?_eq {text : String} (h : e.Spells text) (ht : t ≤ IntegerOp.widest)
    {c : Constant} (hc : constant? known text = some c) :
    e.tree.value? known.respelled = some c := by
  obtain ⟨tree, hparse, hvalue⟩ := Option.bind_eq_some_iff.1 hc
  rwa [eq_of_parse_eq_some ht (Spaced.readable h (fun _ => id) e.isChain_symbols) hparse] at hvalue

/-- An expression that keeps the limits of the reader has a text of which it is read. -/
theorem exists_spells (e : ConstantExpr t) (ht : t ≤ IntegerOp.widest) (hfits : e.Fits)
    (known : Known) :
    ∃ text, e.Spells text ∧ constant? known text = e.tree.value? known.respelled := by
  obtain ⟨cs, hspaced⟩ := Spaced.exists_spaced isSpacing Symbol.text e.symbols_ne_nil
  rw [← String.toList_ofList (l := cs)] at hspaced
  have hread := hspaced.readable (fun _ => isGap_of_isSpacing) e.isChain_symbols
  refine ⟨_, hspaced.mono fun _ => isGap_of_isSpacing, ?_⟩
  rw [constant?, parse_eq ht hfits hread]
  rfl

/-- An initializer is read soundly among known constants: however it is laid out, it is unset or has
the value that C gives it. -/
def Sound (known : Known) (e : ConstantExpr t) : Prop :=
  ∀ text, e.Spells text → ∀ c, constant? known text = some c →
    e.value known.integer? = some c.toInt

/-- A faithful expression is read soundly. -/
theorem sound_of_isFaithful (ht : t ≤ IntegerOp.widest) (hknown : known.Plain)
    (h : e.isFaithful known.integer? = true) : e.Sound known := by
  intro text htext c hc
  rw [← e.toInt_value?_tree hknown.integer?_respelled h, htext.constant?_eq ht hc]
  rfl

/-! ### Parts -/

/-- An expression is a part of another one. -/
inductive IsPart : {s t : Nat} → ConstantExpr s → ConstantExpr t → Prop where
  /-- The whole expression. -/
  | whole {t : Nat} (e : ConstantExpr t) : IsPart e e
  /-- A part of what stands in parentheses. -/
  | parens {s t : Nat} {p : ConstantExpr s} {e : ConstantExpr IntegerOp.widest} (h : IsPart p e) :
      IsPart p (.parens e : ConstantExpr t)
  /-- A part of what stands behind a sign. -/
  | unary {s t : Nat} {p : ConstantExpr s} {op : UnaryOp} {e : ConstantExpr 1} {ht : 1 ≤ t}
      (h : IsPart p e) : IsPart p (.unary op e ht)
  /-- A part of what stands on the left of an operator. -/
  | left {s t : Nat} {p : ConstantExpr s} {op : ConstantOp} {l : ConstantExpr op.tier}
      {r : ConstantExpr (op.tier - 1)} {ht : op.tier ≤ t} (h : IsPart p l) :
      IsPart p (.binary op l r ht)
  /-- A part of what stands on the right of an operator. -/
  | right {s t : Nat} {p : ConstantExpr s} {op : ConstantOp} {l : ConstantExpr op.tier}
      {r : ConstantExpr (op.tier - 1)} {ht : op.tier ≤ t} (h : IsPart p r) :
      IsPart p (.binary op l r ht)

namespace IsPart

variable {s t : Nat} {p : ConstantExpr s} {e : ConstantExpr t}

theorem tier_le (h : p.IsPart e) (ht : t ≤ IntegerOp.widest) : s ≤ IntegerOp.widest := by
  induction h with
  | whole => exact ht
  | parens _ ih => exact ih (Nat.le_refl _)
  | unary _ ih => exact ih (by decide)
  | left _ ih => exact ih (ConstantOp.tier_le_widest _)
  | right _ ih => exact ih (Nat.le_trans (Nat.sub_le _ _) (ConstantOp.tier_le_widest _))

/-- The parts of a faithful expression are faithful. -/
theorem isFaithful {env : String → Option Int} (h : p.IsPart e) (he : e.isFaithful env = true) :
    p.isFaithful env = true := by
  induction h with
  | whole => exact he
  | parens _ ih => exact ih he
  | unary _ ih => exact ih he
  | left _ ih =>
    rw [ConstantExpr.isFaithful, Bool.and_eq_true, Bool.and_eq_true] at he
    exact ih he.1.1
  | right _ ih =>
    rw [ConstantExpr.isFaithful, Bool.and_eq_true, Bool.and_eq_true] at he
    exact ih he.1.2

end IsPart

namespace Fits

theorem parens {e : ConstantExpr IntegerOp.widest} (h : (parens e : ConstantExpr t).Fits) :
    e.Fits := by
  obtain ⟨hnesting, hfits⟩ := h
  rw [nesting] at hnesting
  rw [symbols] at hfits
  exact ⟨by omega, fun s hs => hfits s (by simp [hs])⟩

theorem unary {op : UnaryOp} {e : ConstantExpr 1} {ht : 1 ≤ t} (h : (unary op e ht).Fits) :
    e.Fits :=
  ⟨h.nesting_le, fun s hs => h.fits s (List.mem_cons_of_mem _ hs)⟩

theorem binary {op : ConstantOp} {l : ConstantExpr op.tier} {r : ConstantExpr (op.tier - 1)}
    {ht : op.tier ≤ t} (h : (binary op l r ht).Fits) : l.Fits ∧ r.Fits := by
  obtain ⟨hnesting, hfits⟩ := h
  rw [nesting] at hnesting
  rw [symbols] at hfits
  exact ⟨⟨by omega, fun s hs => hfits s (by simp [hs])⟩,
    ⟨by omega, fun s hs => hfits s (by simp [hs])⟩⟩

end Fits

/-- What an expression is evaluated to is its value, if it is read soundly. -/
theorem Sound.value_eq (h : e.Sound known) (ht : t ≤ IntegerOp.widest) (hfits : e.Fits)
    {c : Constant} (hc : e.tree.value? known.respelled = some c) :
    e.value known.integer? = some c.toInt := by
  obtain ⟨text, htext, hread⟩ := e.exists_spells ht hfits known
  exact h text htext c (hread.trans hc)

/-- Two faithful expressions that are read soundly together are joined by an operator that is
faithful to their values. -/
theorem Sound.isFaithful_op {op : ConstantOp} {l : ConstantExpr op.tier}
    {r : ConstantExpr (op.tier - 1)} {h : op.tier ≤ t} (hsound : (binary op l r h).Sound known)
    (ht : t ≤ IntegerOp.widest) (hfits : (binary op l r h).Fits) (hknown : known.Plain)
    (hl : l.isFaithful known.integer? = true) (hr : r.isFaithful known.integer? = true) {m n : Int}
    (hm : l.value known.integer? = some m) (hn : r.value known.integer? = some n) :
    op.isFaithful m n = true := by
  have hread : ((binary op l r h).tree.value? known.respelled).map Constant.toInt =
      op.operation.apply m n := by
    rw [toInt_value?_tree_binary, l.toInt_value?_tree hknown.integer?_respelled hl,
      r.toInt_value?_tree hknown.integer?_respelled hr, hm, hn]
    rfl
  have hvalue : (binary op l r h).value known.integer? = op.value m n := by
    rw [value, hm, hn]
    rfl
  rw [← op.apply_eq_value_iff]
  cases happly : op.operation.apply m n with
  | none => rw [ConstantOp.value, (op.apply_eq_none_iff m n).1 happly]; rfl
  | some v =>
    rw [happly] at hread
    obtain ⟨c, hc, rfl⟩ := Option.map_eq_some_iff.1 hread
    rw [← hvalue, hsound.value_eq ht hfits hc]

/-- An expression of which all parts are read soundly is faithful, if it keeps the limits of the
reader. -/
theorem isFaithful_of_sound (e : ConstantExpr t) (ht : t ≤ IntegerOp.widest) (hfits : e.Fits)
    (hknown : known.Plain) (h : ∀ {s : Nat} (p : ConstantExpr s), p.IsPart e → p.Sound known) :
    e.isFaithful known.integer? = true := by
  induction e with
  | numeral n =>
    have hvalue := (h _ (.whole _)).value_eq ht hfits (c := .int n.number) rfl
    rw [isFaithful, Numeral.isFaithful_iff]
    exact (Int.ofNat.inj (Option.some.inj hvalue)).symm
  | name n => rfl
  | parens e ih => exact ih (Nat.le_refl _) hfits.parens fun p hp => h p hp.parens
  | unary op e _ ih => exact ih (by decide) hfits.unary fun p hp => h p hp.unary
  | binary op l r _ ihl ihr =>
    have hl := ihl op.tier_le_widest hfits.binary.1 fun p hp => h p hp.left
    have hr := ihr (Nat.le_trans (Nat.sub_le _ _) op.tier_le_widest) hfits.binary.2
      fun p hp => h p hp.right
    -- both sides are read with their values, so what is read of the whole tells of the operator
    rw [isFaithful, hl, hr, Bool.true_and, Bool.true_and]
    cases hm : l.value known.integer? with
    | none => rfl
    | some m =>
      cases hn : r.value known.integer? with
      | none => rfl
      | some n => exact (h _ (.whole _)).isFaithful_op ht hfits hknown hl hr hm hn

/-- The parts of a faithful expression are read soundly; and an expression that keeps the limits of
the reader is faithful if all its parts are read so. -/
theorem sound_parts_iff (e : ConstantExpr IntegerOp.widest) (hknown : known.Plain) :
    (e.isFaithful known.integer? = true →
      ∀ {s : Nat} (p : ConstantExpr s), p.IsPart e → p.Sound known) ∧
    (e.Fits → (∀ {s : Nat} (p : ConstantExpr s), p.IsPart e → p.Sound known) →
      e.isFaithful known.integer? = true) :=
  ⟨fun he _ _ hp => sound_of_isFaithful (hp.tier_le (Nat.le_refl _)) hknown (hp.isFaithful he),
    fun hfits h => e.isFaithful_of_sound (Nat.le_refl _) hfits hknown h⟩

/-- A quotient that comes out even, and a character that is the letter of its escape. -/
def evenQuotient : ConstantExpr IntegerOp.widest :=
  .binary (.integer .add)
    (.parens (.binary .divide
      (.unary .negate (.numeral (.integer (.ofNat 6))) (by decide)) (.name ⟨"B", by decide⟩)
      (by decide)))
    (.numeral (.character (.escape .backslash))) (by decide)

theorem spells_evenQuotient : evenQuotient.Spells "(-6 /\n B)+ '\\\\'" :=
  .of_gaps
    [([], .sign .negate), ([], .numeral (.integer (.ofNat 6))), ([' '], .operator .divide),
      (['\n', ' '], .name ⟨"B", by decide⟩), ([], .closing), ([], .operator (.integer .add)),
      ([' '], .numeral (.character (.escape .backslash)))]
    rfl (by decide) (by decide +kernel)

/-- The quotient is read as that of C, though what is divided has a sign and a line ends inside. -/
theorem sound_parts_evenQuotient : Known.Plain [("B", .int 3)] ∧
    evenQuotient.isFaithful (Known.integer? [("B", .int 3)]) = true ∧
    constant? [("B", .int 3)] "(-6 /\n B)+ '\\\\'" = some (.int 90) ∧
    evenQuotient.value (Known.integer? [("B", .int 3)]) = some 90 := by
  have hplain : Known.Plain [("B", .int 3)] := ⟨by decide +kernel, by decide +kernel⟩
  have hfaithful : evenQuotient.isFaithful (Known.integer? [("B", .int 3)]) = true := by
    decide +kernel
  have hconstant : constant? [("B", .int 3)] "(-6 /\n B)+ '\\\\'" = some (.int 90) := by
    decide +kernel
  exact ⟨hplain, hfaithful, hconstant, (sound_parts_iff evenQuotient hplain).1 hfaithful
    evenQuotient (.whole _) _ spells_evenQuotient _ hconstant⟩

/-- A quotient of numbers with different signs that does not come out even. -/
def oddQuotient : ConstantExpr IntegerOp.widest :=
  .binary .divide (.unary .negate (.numeral (.integer (.ofNat 7))) (by decide))
    (.numeral (.integer (.ofNat 2))) (by decide)

/-- The end of a line. -/
def lineEnd : ConstantExpr IntegerOp.widest :=
  .numeral (.character (.escape .lineFeed))

/-- The quotient is rounded down, and the end of a line is read as the letter of its escape. -/
theorem quotient_not_sound : ¬oddQuotient.Sound [] ∧ ¬lineEnd.Sound [] := by
  constructor
  · intro h
    have hspells : oddQuotient.Spells "-7 / 2" :=
      .of_gaps [([], .numeral (.integer (.ofNat 7))), ([' '], .operator .divide),
        ([' '], .numeral (.integer (.ofNat 2)))] rfl (by decide) (by decide +kernel)
    have hread : constant? [] "-7 / 2" = some (.int (-4)) := by decide +kernel
    have hvalue : oddQuotient.value (Known.integer? []) = some (-3) := by decide +kernel
    exact absurd (hvalue.symm.trans (h _ hspells _ hread)) (by decide)
  · intro h
    have hspells : lineEnd.Spells "'\\n'" := .of_gaps [] rfl (by decide) (by decide +kernel)
    have hread : constant? [] "'\\n'" = some (.int 110) := by decide +kernel
    have hvalue : lineEnd.value (Known.integer? []) = some 10 := by decide +kernel
    exact absurd (hvalue.symm.trans (h _ hspells _ hread)) (by decide)

end ConstantExpr

end Bindery.Initializer
