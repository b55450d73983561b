import Bindery.Proofs.Initializer.Scanned

/-!
# Constant expressions are read as they are grouped

The readers of the grammar are layered as the tiers of C are, so that an expression that can stand
where a tier is wanted is read by the reader of that tier, up to an operator that binds less. The
reader of a tier takes operands of the next lower one, from the left, so what it has read at any
time is the left part of a chain of operators; it is this part that the induction is about.
-/

namespace Bindery.Initializer

open Bindery.Text

/-! ### Trees -/

/-- The operation of an operator. -/
def ConstantOp.operation : ConstantOp → BinaryOp
  | integer .multiply => .multiply
  | integer .add => .add
  | integer .subtract => .subtract
  | integer .shiftLeft => .shiftLeft
  | integer .shiftRight => .shiftRight
  | integer .bitAnd => .bitAnd
  | integer .bitXor => .bitXor
  | integer .bitOr => .bitOr
  | divide => .divide
  | remainder => .remainder

namespace ConstantExpr

/-- What an expression is read as. -/
def tree {t : Nat} : ConstantExpr t → Expr
  | numeral n => .constant (.int n.number)
  | name n => .name n.1
  | parens e => e.tree
  | unary op e _ => .unary op e.tree
  | binary op l r _ => .binary op.operation l.tree r.tree

theorem isStarred_tree {t : Nat} (e : ConstantExpr t) : e.tree.isStarred = false := by
  induction e with
  | parens e ih => exact ih
  | _ => rfl

end ConstantExpr

/-! ### Where readers stop -/

/-- The operators of a tier. -/
def operatorsOf (tier : Nat) : List (String × (Expr → Expr → Expr)) :=
  operatorTables.getD (IntegerOp.widest - tier) []

/-- Tokens at which the reader of a tier stops: there are none left, or there is a closing
parenthesis or an operator that binds less. -/
inductive EndsTier (t : Nat) : List Token → Prop where
  /-- No tokens. -/
  | nil : EndsTier t []
  /-- A closing parenthesis. -/
  | closing (ts : List Token) : EndsTier t (.mark ")" :: ts)
  /-- An operator of a higher tier. -/
  | operator {op : ConstantOp} (h : t < op.tier) (ts : List Token) :
    EndsTier t (.mark op.respelled :: ts)

namespace EndsTier

variable {t : Nat} {rest : List Token}

theorem mono {s : Nat} (h : EndsTier t rest) (hs : s ≤ t) : EndsTier s rest := by
  cases h with
  | nil => exact .nil
  | closing ts => exact .closing ts
  | operator h ts => exact .operator (Nat.lt_of_le_of_lt hs h) ts

theorem trailers (h : EndsTier t rest) (inner : Level) (steps : Nat) (e : Expr) :
    inner.trailers steps e rest = some (e, rest) := by
  cases steps with
  | zero => rfl
  | succ steps =>
    cases h with
    | nil => rfl
    | closing ts => rfl
    | @operator op h ts =>
      obtain op | _ | _ := op
      · cases op <;> rfl
      · rfl
      · rfl

theorem takeMark_power (h : EndsTier t rest) : takeMark "**" rest = none := by
  cases h with
  | nil => rfl
  | closing ts => rfl
  | @operator op h ts =>
    obtain op | _ | _ := op
    · cases op <;> rfl
    · rfl
    · rfl

/-- No operator of the tier comes next, nor one that binds more. -/
theorem markOperator (h : EndsTier t rest) {s : Nat} (hs : 2 ≤ s) (hst : s ≤ t)
    (hs7 : s ≤ IntegerOp.widest) : markOperator (operatorsOf s) rest = none := by
  have hlist : s = 2 ∨ s = 3 ∨ s = 4 ∨ s = 5 ∨ s = 6 ∨ s = 7 := by
    unfold IntegerOp.widest at hs7
    omega
  cases h with
  | nil => rfl
  | closing ts => obtain rfl | rfl | rfl | rfl | rfl | rfl := hlist <;> rfl
  | @operator op h ts =>
    have hne : s ≠ op.tier := by omega
    obtain op | _ | _ := op
    · obtain rfl | rfl | rfl | rfl | rfl | rfl := hlist <;> cases op <;>
        first | rfl | exact absurd rfl hne
    all_goals
      obtain rfl | rfl | rfl | rfl | rfl | rfl := hlist <;> first | rfl | exact absurd rfl hne

end EndsTier

/-! ### Tiers -/

namespace Level

variable (inner : Level)

/-- The reader of a tier. -/
def readTier (t : Nat) : Reader Expr :=
  inner.readOperators (operatorTables.drop (IntegerOp.widest - t))

/-- The tier that binds least is that of whole operands. -/
theorem readTier_widest : inner.readTier IntegerOp.widest = inner.readOperand := rfl

/-- The reader of a tier takes operands of the tier below. -/
theorem readTier_succ {t : Nat} (ht : 1 ≤ t) (ht7 : t < IntegerOp.widest) :
    inner.readTier (t + 1) = chainOf (inner.readTier t) (markOperator (operatorsOf (t + 1))) := by
  have hlist : t = 1 ∨ t = 2 ∨ t = 3 ∨ t = 4 ∨ t = 5 ∨ t = 6 := by
    unfold IntegerOp.widest at ht7
    omega
  obtain rfl | rfl | rfl | rfl | rfl | rfl := hlist <;> rfl

/-- Tokens that the reader of a tier reads as an expression, up to where it stops. -/
def Reads (t : Nat) (ts : List Token) (e : Expr) : Prop :=
  ∀ rest, EndsTier t rest → inner.readTier t (ts ++ rest) = some (e, rest)

/-- Tokens that the reader of a tier has read as an expression when it comes to the next operator,
which may be one of its own. -/
def Chains (t : Nat) (ts : List Token) (e : Expr) : Prop :=
  ∀ rest, EndsTier (t - 1) rest → ∃ steps, rest.length ≤ steps ∧
    inner.readTier t (ts ++ rest) =
      readChain (inner.readTier (t - 1)) (markOperator (operatorsOf t)) steps e rest

variable {inner} {t : Nat} {ts : List Token} {e : Expr}

/-- What binds more is the beginning of a chain. -/
theorem Reads.chains (h : inner.Reads t ts e) (ht : 1 ≤ t) (ht7 : t < IntegerOp.widest) :
    inner.Chains (t + 1) ts e := by
  intro rest hrest
  refine ⟨rest.length, Nat.le_refl _, ?_⟩
  rw [readTier_succ inner ht ht7, chainOf, h rest hrest]
  rfl

/-- A chain ends where no operator of its tier follows. -/
theorem Chains.reads (h : inner.Chains t ts e) (ht : 2 ≤ t) (ht7 : t ≤ IntegerOp.widest) :
    inner.Reads t ts e := by
  intro rest hrest
  obtain ⟨steps, -, hread⟩ := h rest (hrest.mono (by omega))
  rw [hread]
  cases steps with
  | zero => rfl
  | succ steps => rw [readChain, hrest.markOperator ht (Nat.le_refl _) ht7]

/-- The next operator of a tier takes the chain before it on its left. -/
theorem Chains.binary {op : ConstantOp} {us : List Token} {f : Expr}
    (hl : inner.Chains op.tier ts e) (hr : inner.Reads (op.tier - 1) us f) :
    inner.Chains op.tier (ts ++ .mark op.respelled :: us) (.binary op.operation e f) := by
  intro rest hrest
  have htier := op.two_le_tier
  have hop (rest : List Token) : markOperator (operatorsOf op.tier) (.mark op.respelled :: rest) =
      some (.binary op.operation, rest) := by
    obtain op | _ | _ := op
    · cases op <;> rfl
    · rfl
    · rfl
  obtain ⟨steps, hsteps, hread⟩ := hl (.mark op.respelled :: (us ++ rest)) (.operator (by omega) _)
  obtain ⟨steps, rfl⟩ : ∃ n, steps = n + 1 := by
    rw [List.length_cons] at hsteps
    exact ⟨steps - 1, by omega⟩
  refine ⟨steps, ?_, ?_⟩
  · rw [List.length_cons, List.length_append] at hsteps
    omega
  · rw [List.append_assoc, List.cons_append, hread, readChain, hop]
    simp only [hr rest hrest, Option.bind_eq_bind, Option.bind_some]

/-- What binds more can stand where a higher tier is wanted. -/
theorem Reads.mono (h : inner.Reads t ts e) (ht : 1 ≤ t) {s : Nat} (hts : t ≤ s)
    (hs7 : s ≤ IntegerOp.widest) : inner.Reads s ts e := by
  induction s, hts using Nat.le_induction with
  | base => exact h
  | succ s hts ih =>
    exact ((ih (by omega)).chains (by omega) (by omega)).reads (by omega) hs7

/-- What binds more is the beginning of a chain of any higher tier. -/
theorem Reads.chains_of_lt (h : inner.Reads t ts e) (ht : 1 ≤ t) {s : Nat} (hts : t < s)
    (hs7 : s ≤ IntegerOp.widest) : inner.Chains s ts e := by
  obtain ⟨s, rfl⟩ : ∃ n, s = n + 1 := ⟨s - 1, by omega⟩
  exact (h.mono ht (by omega) (by omega)).chains (by omega) (by omega)

variable (inner) in
/-- Tokens that are read as an expression wherever a tier or a higher one is wanted. -/
def ReadsFrom (t : Nat) (ts : List Token) (e : Expr) : Prop :=
  ∀ s, t ≤ s → 1 ≤ s → s ≤ IntegerOp.widest →
    inner.Reads s ts e ∧ (2 ≤ s → inner.Chains s ts e)

/-- What the reader of signs reads can stand anywhere. -/
theorem Reads.readsFrom (h : inner.Reads 1 ts e) (t : Nat) : inner.ReadsFrom t ts e :=
  fun _ _ hs hs7 => ⟨h.mono (Nat.le_refl _) hs hs7, fun hs2 => h.chains_of_lt (Nat.le_refl _) hs2 hs7⟩

/-- A chain can stand where its tier or a higher one is wanted. -/
theorem Chains.readsFrom (h : inner.Chains t ts e) (ht : 2 ≤ t) (ht7 : t ≤ IntegerOp.widest) {s : Nat}
    (hts : t ≤ s) : inner.ReadsFrom s ts e := by
  intro r hsr _ hr7
  have hreads := h.reads ht ht7
  refine ⟨hreads.mono (by omega) (by omega) hr7, fun _ => ?_⟩
  obtain rfl | hlt := Nat.eq_or_lt_of_le (Nat.le_trans hts hsr)
  · exact h
  · exact hreads.chains_of_lt (by omega) hlt hr7

/-! ### Operands -/

/-- An operand with nothing directly behind it. -/
theorem power_of_atom {rest : List Token} (hatom : inner.atom ts = some (e, rest))
    (hawait : takeWord "await" ts = none) (hrest : EndsTier t rest) :
    inner.power ts = some (e, rest) := by
  have hprimary : inner.readPrimary ts = some (e, rest) := by
    rw [readPrimary, hatom]
    exact hrest.trailers inner _ e
  unfold power
  simp only [hawait, hprimary, Option.bind_eq_bind, Option.bind_some, hrest.takeMark_power]

/-- A name is read as itself. -/
theorem atom_name {n : String} (hn : Naming.isValid n = true) (rest : List Token) :
    inner.atom (.word n :: rest) = some (.name n, rest) := by
  obtain ⟨-, hall, -, hreserved⟩ := Naming.isValid_iff.1 hn
  have hconstant : wordConstant? n = none := by
    unfold wordConstant?
    split <;> first | rfl | exact absurd hn (by decide)
  have hname : takeName [.word n] = some (n, []) := by
    unfold Naming.isReserved at hreserved
    rw [String.ofList_toList] at hreserved
    rw [takeName, hreserved]
    rfl
  have hascii : n.toList.all (·.toNat < 128) = true :=
    List.all_eq_true.2 fun c hc => decide_eq_true
      (toNat_lt_of_isNameChar (List.all_eq_true.1 hall c hc))
  have hcanonical : canonicalName n = n := by
    rw [canonicalName, canonicalIdentifier, if_pos hascii, String.ofList_toList]
  rw [atom, hconstant, hname, hcanonical]
  rfl

/-- A reserved word is no name. -/
theorem takeWord_name {n : String} (hn : Naming.isValid n = true) {w : String}
    (hw : Naming.isValid w = false) (rest : List Token) : takeWord w (.word n :: rest) = none := by
  refine if_neg ?_
  rintro rfl
  rw [hn] at hw
  cases hw

theorem reads_numeral (n : Numeral) :
    inner.Reads 1 [(Symbol.numeral n).token] (.constant (.int n.number)) := by
  intro rest hrest
  have hatom : inner.atom (.number (some n.number) :: rest) =
      some (.constant (.int n.number), rest) := rfl
  exact power_of_atom hatom rfl hrest

theorem reads_name (n : Identifier) : inner.Reads 1 [(Symbol.name n).token] (.name n.1) :=
  fun rest hrest => power_of_atom (atom_name n.2 rest) (takeWord_name n.2 (by decide) rest) hrest

/-- A sign before what the reader of signs reads one level further in. -/
theorem reads_sign {op : UnaryOp} (h : inner.Reads 1 ts e) :
    inner.outer.Reads 1 ((Symbol.sign op).token :: ts) (.unary op e) := by
  intro rest hrest
  have hread : inner.outer.factor (ts ++ rest) = some (e, rest) := h rest hrest
  cases op
  all_goals
    change (inner.outer.factor (ts ++ rest)).map _ = _
    rw [hread]
    rfl

/-! ### Whole expressions -/

variable (inner) in
/-- Tokens that are read as an expression up to a closing parenthesis or to their end. -/
def ReadsWhole (ts : List Token) (e : Expr) : Prop :=
  ∀ rest, EndsTier IntegerOp.widest rest → inner.readExpression (ts ++ rest) = some (e, rest)

theorem flatChainOf_of_none {operand : Reader Expr} {operator? : List Token → Option (List Token)}
    {rest : List Token} (h : operand ts = some (e, rest)) (hrest : operator? rest = none) :
    flatChainOf operand operator? ts = some (e, rest) := by
  unfold flatChainOf
  simp only [h, Option.bind_eq_bind, Option.bind_some, hrest]

/-- What the reader of the highest tier reads is a whole expression, as it begins with no reserved
word. -/
theorem Reads.readsWhole {tok : Token} (h : inner.Reads IntegerOp.widest (tok :: ts) e)
    (htok : ∀ n, tok = .word n → Naming.isValid n = true) : inner.ReadsWhole (tok :: ts) e := by
  intro rest hrest
  have hstop : comparison? rest = none ∧ ∀ w, takeWord w rest = none := by
    cases hrest with
    | nil => exact ⟨rfl, fun _ => rfl⟩
    | closing ts => exact ⟨rfl, fun _ => rfl⟩
    | @operator op h ts => exact absurd h (Nat.not_lt.2 op.tier_le_widest)
  have hoperand := h rest hrest
  rw [readTier_widest] at hoperand
  have hinversion : inner.readInversion (tok :: ts ++ rest) = some (e, rest) := by
    rw [List.cons_append] at hoperand ⊢
    rw [readInversion]
    · exact flatChainOf_of_none hoperand hstop.1
    · rintro _ hword
      cases htok _ (List.cons.inj hword).1
  have hdisjunction : inner.readDisjunction (tok :: ts ++ rest) = some (e, rest) :=
    flatChainOf_of_none (flatChainOf_of_none hinversion (hstop.2 "and")) (hstop.2 "or")
  rw [List.cons_append] at hdisjunction ⊢
  rw [readExpression, hdisjunction]
  · simp only [Option.bind_eq_bind, Option.bind_some, hstop.2 "if"]
  · rintro _ hword
    cases htok _ (List.cons.inj hword).1

end Level

namespace Symbol

/-- An expression begins with no mark but an opening parenthesis or a sign. -/
theorem takeMark_token {s : Symbol} (hs : s.begins = true) {m : String}
    (hm : m ∉ ["(", "-", "+", "~"]) (ts : List Token) : takeMark m (s.token :: ts) = none := by
  have hne {n : String} (hn : n ∈ ["(", "-", "+", "~"]) : takeMark m (.mark n :: ts) = none := by
    refine if_neg ?_
    rintro rfl
    exact hm hn
  cases s with
  | numeral n => rfl
  | name n => rfl
  | opening => exact hne (by decide)
  | sign op => cases op <;> exact hne (by decide)
  | closing | operator _ => cases hs

/-- An expression begins with no reserved word. -/
theorem takeWord_token (s : Symbol) {w : String} (hw : Naming.isValid w = false)
    (ts : List Token) : takeWord w (s.token :: ts) = none := by
  cases s with
  | name n => exact Level.takeWord_name n.2 hw ts
  | _ => rfl

theorem isValid_of_token_eq {s : Symbol} {n : String} (h : s.token = .word n) :
    Naming.isValid n = true := by
  cases s with
  | name m =>
    obtain rfl := Token.word.inj h
    exact m.2
  | _ => cases h

end Symbol

namespace ConstantExpr

variable {inner : Level} {t : Nat}

theorem exists_tokens_eq_cons (e : ConstantExpr t) :
    ∃ s ss, e.tokens = Symbol.token s :: ss ∧ s.begins = true := by
  obtain ⟨s, ss, he, hs⟩ := e.exists_symbols_eq_cons
  exact ⟨s, ss.map Symbol.token, by rw [tokens, he]; rfl, hs⟩

/-- No name is given on the way. -/
theorem not_mem_tokens (e : ConstantExpr t) : Token.mark ":=" ∉ e.tokens := by
  intro hmem
  obtain ⟨s, -, hs⟩ := List.mem_map.1 hmem
  cases s with
  | numeral n => cases hs
  | name n => cases hs
  | opening => exact absurd hs (by decide)
  | closing => exact absurd hs (by decide)
  | sign op => cases op <;> exact absurd hs (by decide)
  | operator op =>
    obtain op | _ | _ := op
    · cases op <;> exact absurd hs (by decide)
    · exact absurd hs (by decide)
    · exact absurd hs (by decide)

/-- Parentheses around an expression that is read one level further in. -/
theorem parenthesis_tokens (e : ConstantExpr t) (h : inner.ReadsWhole e.tokens e.tree)
    (rest : List Token) :
    inner.outer.parenthesis (e.tokens ++ .mark ")" :: rest) = some (e.tree, rest) := by
  have hread := h (.mark ")" :: rest) (.closing rest)
  have hassigned : Token.mark ":=" ∉ e.tokens ++ [.mark ")"] := by
    simpa using e.not_mem_tokens
  obtain ⟨s, ss, he, hs⟩ := e.exists_tokens_eq_cons
  rw [he, List.cons_append] at hread hassigned ⊢
  have hnamed : inner.outer.starNamed (s.token :: (ss ++ .mark ")" :: rest)) =
      some (e.tree, .mark ")" :: rest) := by
    unfold Level.starNamed
    rw [Symbol.takeMark_token hs (by decide)]
    dsimp only
    unfold Level.named
    split
    · next h =>
      have hss := (List.cons.inj h).2
      refine absurd (List.mem_cons_of_mem _ ?_) hassigned
      cases ss with
      | nil => exact absurd (Token.mark.inj (List.cons.inj hss).1) (by decide)
      | cons tok ss =>
        rw [(List.cons.inj hss).1]
        exact List.mem_cons_self ..
    · exact hread
  unfold Level.parenthesis
  rw [Symbol.takeMark_token hs (by decide), Symbol.takeWord_token s (by decide)]
  simp only [hnamed, Option.bind_eq_bind, Option.bind_some]
  simp [Level.startsLoop, startsWord, takeWord, readMore, takeMark, e.isStarred_tree]

/-- What the reader of the highest tier reads of an expression is all of it. -/
theorem readsWhole (e : ConstantExpr t)
    (h : inner.Reads IntegerOp.widest e.tokens e.tree) : inner.ReadsWhole e.tokens e.tree := by
  obtain ⟨s, ss, he, -⟩ := e.exists_tokens_eq_cons
  rw [he] at h ⊢
  exact h.readsWhole fun n => Symbol.isValid_of_token_eq

/-- An expression in parentheses is an operand one level further out. -/
theorem reads_parens (e : ConstantExpr t) (h : inner.ReadsWhole e.tokens e.tree) :
    inner.outer.Reads 1 (.mark "(" :: (e.tokens ++ [.mark ")"])) e.tree := by
  intro rest hrest
  rw [List.cons_append, List.append_assoc, List.singleton_append]
  have hatom : inner.outer.atom (.mark "(" :: (e.tokens ++ .mark ")" :: rest)) =
      some (e.tree, rest) := e.parenthesis_tokens h rest
  exact Level.power_of_atom hatom rfl hrest

/-- An expression is read wherever its tier or a higher one is wanted, if there are as many levels
inside as it has symbols. -/
theorem readsFrom {t : Nat} (e : ConstantExpr t) {depth : Nat} (h : e.symbols.length ≤ depth) :
    (Level.ofDepth depth).ReadsFrom t e.tokens e.tree := by
  induction e generalizing depth with
  | numeral n => exact (Level.reads_numeral n).readsFrom _
  | name n => exact (Level.reads_name n).readsFrom _
  | parens e ih =>
    rw [symbols, List.length_append, List.length_cons] at h
    obtain ⟨depth, rfl⟩ : ∃ d, depth = d + 1 := ⟨depth - 1, by omega⟩
    have hinner := (@ih depth (by omega) IntegerOp.widest (Nat.le_refl _) (by decide)
      (Nat.le_refl _)).1
    have hread := e.reads_parens (e.readsWhole hinner)
    rw [tokens, symbols, List.map_append]
    exact hread.readsFrom _
  | unary op e _ ih =>
    rw [symbols, List.length_cons] at h
    obtain ⟨depth, rfl⟩ : ∃ d, depth = d + 1 := ⟨depth - 1, by omega⟩
    have hinner := (@ih depth (by omega) 1 (Nat.le_refl _) (Nat.le_refl _) (by decide)).1
    exact (Level.reads_sign hinner).readsFrom _
  | binary op l r hop ihl ihr =>
    rw [symbols, List.length_append, List.length_cons] at h
    have htier := op.two_le_tier
    have htier7 := op.tier_le_widest
    have hl := (@ihl depth (by omega) op.tier (Nat.le_refl _) (by omega) htier7).2 htier
    have hr := (@ihr depth (by omega) (op.tier - 1) (Nat.le_refl _) (by omega)
      (by omega)).1
    rw [tokens, symbols, List.map_append]
    exact (hl.binary hr).readsFrom htier htier7 hop

/-- The tokens of an expression are read as the expression. -/
theorem parseTokens_tokens (e : ConstantExpr t) (ht : t ≤ IntegerOp.widest) :
    parseTokens e.tokens = some e.tree := by
  have hdepth : e.symbols.length ≤ e.tokens.length := by
    rw [tokens, List.length_map]
  have hreads := (e.readsFrom hdepth IntegerOp.widest ht (by decide) (Nat.le_refl _)).1
  have hwhole := e.readsWhole hreads [] .nil
  rw [List.append_nil] at hwhole
  have hlist : readList (Level.ofDepth (e.tokens.length + 1)).expression List.isEmpty e.tokens =
      some (([e.tree], false), []) := by
    have hread : (Level.ofDepth (e.tokens.length + 1)).expression e.tokens = some (e.tree, []) :=
      hwhole
    unfold readList
    simp only [hread, Option.bind_eq_bind, Option.bind_some]
    rfl
  unfold parseTokens
  rw [hlist]
  rfl

/-- A text with the tokens of an expression is read as the expression. -/
theorem parse_of_scan (e : ConstantExpr t) (ht : t ≤ IntegerOp.widest) {cs : List Char}
    (hscan : scan cs = some e.tokens) : parse cs = some e.tree := by
  have hfields : interpolatedFields e.tokens = [] := by
    refine List.flatMap_eq_nil_iff.2 fun tok htok => ?_
    obtain ⟨s, -, rfl⟩ := List.mem_map.1 htok
    cases s <;> rfl
  unfold parse parseWithin
  rw [hscan]
  simp only [Option.bind_eq_bind, Option.bind_some, hfields]
  exact e.parseTokens_tokens ht

/-- A respelled expression on one line is read as the expression, if it keeps the limits of the
reader. -/
theorem parse_eq {e : ConstantExpr t} (ht : t ≤ IntegerOp.widest) (hfits : e.Fits) {cs : List Char}
    (h : Spaced isSpacing Symbol.respelled e.symbols cs) : parse cs = some e.tree := by
  refine e.parse_of_scan ht ?_
  rw [scan, scanned_eq hfits h]
  rfl

/-- A respelled expression is read as nothing but the expression, however it is laid out. -/
theorem eq_of_parse_eq_some {e : ConstantExpr t} (ht : t ≤ IntegerOp.widest) {cs : List Char}
    (h : Spaced isGap Symbol.respelled e.symbols cs) {tree : Expr} (hparse : parse cs = some tree) :
    tree = e.tree := by
  cases hscan : scan cs with
  | none =>
    unfold parse parseWithin at hparse
    rw [hscan] at hparse
    cases hparse
  | some ts =>
    obtain rfl := eq_of_scan_eq_some h hscan
    rw [e.parse_of_scan ht hscan] at hparse
    exact (Option.some.inj hparse).symm

end ConstantExpr

end Bindery.Initializer
