import Bindery.Proofs.Initializer.BitLength
import Bindery.Proofs.Initializer.Worth

/-!
# Initializers and the bits of their values

An expression costs the bits of its leaves and 65 for each operation. Where a word or a mark is
worth what a name or an operation can cost, no reader builds an expression that costs more than the
tokens it takes are worth. So the value of an initializer has a bound by the length of its text.
-/

namespace Bindery.Initializer

open Bindery.Text

/-! ### Costs -/

/-- How many bits the value of an expression takes at most. -/
def Expr.cost (known : Known) (e : Expr) : Nat :=
  e.leafBits known + 65 * e.operations

/-- A unit that is worth an operation, or the constant of any name. -/
structure Covers (known : Known) (unit : Nat) : Prop where
  /-- It is worth an operation. -/
  operation : 65 ≤ unit
  /-- It is worth the constant of a name. -/
  name : ∀ n, Expr.nameBits known n ≤ unit

variable {known : Known} {unit : Nat}

theorem worth_le_cons (unit : Nat) (t : Token) (ts : List Token) :
    worth unit ts ≤ worth unit (t :: ts) :=
  Nat.le_add_left ..

/-- What is read costs, with what is left, no more than there was. -/
def Leaves {α : Type} (unit : Nat) (cost : α → Nat) (bound : Nat)
    (result : Option (α × List Token)) : Prop :=
  ∀ x rest, result = some (x, rest) → cost x + worth unit rest ≤ bound

/-- A reader that spends what it takes: what it reads costs no more. -/
def Spends {α : Type} (unit : Nat) (cost : α → Nat) (r : Reader α) : Prop :=
  ∀ ts, Leaves unit cost (worth unit ts) (r ts)

section leaves

variable {α β : Type} {cost : α → Nat} {cost' : β → Nat} {bound bound' : Nat}

theorem leaves_none : Leaves unit cost bound none :=
  fun _ _ h => nomatch h

theorem leaves_some {x : α} {rest : List Token} (h : cost x + worth unit rest ≤ bound) :
    Leaves unit cost bound (some (x, rest)) := by
  rintro _ _ ⟨⟩
  exact h

/-- An expression that costs nothing can be read off any tokens. -/
theorem leaves_free {e : Expr} (rest : List Token) (hfree : e.cost known = 0)
    (h : worth unit rest ≤ bound) : Leaves unit (Expr.cost known) bound (some (e, rest)) := by
  refine leaves_some ?_
  rwa [hfree, Nat.zero_add]

theorem leaves_ite {p : Prop} [Decidable p] {a b : Option (α × List Token)}
    (ha : Leaves unit cost bound a) (hb : Leaves unit cost bound b) :
    Leaves unit cost bound (if p then a else b) := by
  split_ifs
  · exact ha
  · exact hb

theorem Leaves.bind {result : Option (α × List Token)}
    {next : α × List Token → Option (β × List Token)} (h : Leaves unit cost bound result)
    (hnext : ∀ x rest, cost x + worth unit rest ≤ bound →
      Leaves unit cost' bound' (next (x, rest))) :
    Leaves unit cost' bound' (result >>= next) := by
  intro y rest heq
  obtain ⟨⟨x, mid⟩, hx, heq⟩ := Option.bind_eq_some_iff.1 heq
  exact hnext x mid (h x mid hx) y rest heq

theorem Leaves.map {result : Option (α × List Token)} {f : α × List Token → β × List Token}
    (h : Leaves unit cost bound result)
    (hf : ∀ x rest, cost x + worth unit rest ≤ bound →
      cost' (f (x, rest)).1 + worth unit (f (x, rest)).2 ≤ bound') :
    Leaves unit cost' bound' (result.map f) := by
  intro y rest heq
  obtain ⟨⟨x, mid⟩, hx, heq⟩ := Option.map_eq_some_iff.1 heq
  have hle := hf x mid (h x mid hx)
  rwa [heq] at hle

/-- What is read may be the same whatever tokens are passed over. -/
theorem leaves_remaining {x : α} {remaining : Option (List Token)}
    (h : ∀ rest, remaining = some rest → cost x + worth unit rest ≤ bound) :
    Leaves unit cost bound (remaining.map fun rest => (x, rest)) := by
  rintro _ rest heq
  obtain ⟨_, hrest, heq⟩ := Option.map_eq_some_iff.1 heq
  cases heq
  exact h rest hrest

theorem Leaves.mono {result : Option (α × List Token)} (h : Leaves unit cost bound result)
    (hle : bound ≤ bound') : Leaves unit cost bound' result :=
  fun x rest heq => (h x rest heq).trans hle

end leaves

/-! ### Marks and words -/

theorem takeMark_eq_some {m : String} {ts rest : List Token} (h : takeMark m ts = some rest) :
    ts = .mark m :: rest := by
  unfold takeMark at h
  split at h
  · split_ifs at h with hm
    cases h
    rw [hm]
  · cases h

theorem takeWord_eq_some {w : String} {ts rest : List Token} (h : takeWord w ts = some rest) :
    ts = .word w :: rest := by
  unfold takeWord at h
  split at h
  · split_ifs at h with hw
    cases h
    rw [hw]
  · cases h

theorem worth_takeMark (unit : Nat) {m : String} {ts rest : List Token}
    (h : takeMark m ts = some rest) : worth unit ts = unit + worth unit rest := by
  rw [takeMark_eq_some h]
  rfl

theorem worth_takeWord (unit : Nat) {w : String} {ts rest : List Token}
    (h : takeWord w ts = some rest) : worth unit ts = unit + worth unit rest := by
  rw [takeWord_eq_some h]
  rfl

theorem worth_le_of_takeMark {m : String} {ts rest : List Token} (h : takeMark m ts = some rest) :
    worth unit rest ≤ worth unit ts := by
  rw [worth_takeMark unit h]
  exact Nat.le_add_left ..

theorem worth_le_of_takeWord {w : String} {ts rest : List Token} (h : takeWord w ts = some rest) :
    worth unit rest ≤ worth unit ts := by
  rw [worth_takeWord unit h]
  exact Nat.le_add_left ..

/-- A mark or a word that may be missing. -/
theorem worth_getD_le {remaining : Option (List Token)} {ts : List Token}
    (h : ∀ rest, remaining = some rest → worth unit rest ≤ worth unit ts) :
    worth unit (remaining.getD ts) ≤ worth unit ts := by
  cases remaining with
  | none => exact le_rfl
  | some rest => exact h rest rfl

section take

variable {α : Type} {cost : α → Nat} {bound : Nat} {ts : List Token}
  {next : List Token → Option (α × List Token)}

theorem leaves_takeMark {m : String}
    (h : ∀ rest, worth unit ts = unit + worth unit rest → Leaves unit cost bound (next rest)) :
    Leaves unit cost bound (takeMark m ts >>= next) := by
  intro x rest heq
  obtain ⟨mid, hmid, heq⟩ := Option.bind_eq_some_iff.1 heq
  exact h mid (worth_takeMark unit hmid) x rest heq

theorem leaves_takeWord {w : String}
    (h : ∀ rest, worth unit ts = unit + worth unit rest → Leaves unit cost bound (next rest)) :
    Leaves unit cost bound (takeWord w ts >>= next) := by
  intro x rest heq
  obtain ⟨mid, hmid, heq⟩ := Option.bind_eq_some_iff.1 heq
  exact h mid (worth_takeWord unit hmid) x rest heq

end take

theorem takeName_spends (unit : Nat) : Spends unit (fun _ => unit) takeName := by
  intro ts
  unfold takeName
  split
  · split_ifs
    · exact leaves_none
    · exact leaves_some le_rfl
  · exact leaves_none

/-! ### Lists and chains -/

section lists

variable {α : Type} {cost : α → Nat} {item : Reader α} {ends : List Token → Bool}

theorem readMore_spends (h : Spends unit cost item) (steps : Nat) :
    Spends unit (fun r => (r.1.map cost).sum) (readMore item ends steps) := by
  induction steps with
  | zero => exact fun ts => leaves_none
  | succ steps ih =>
    intro ts
    rw [readMore]
    split
    · exact leaves_some (Nat.zero_add _).le
    · next ts' hcomma =>
      have hworth := worth_takeMark unit hcomma
      split_ifs
      · exact leaves_some (by simp only [List.map_nil, List.sum_nil]; omega)
      · refine (h ts').bind fun x mid hx => (ih mid).bind fun xs rest hxs => leaves_some ?_
        simp only [List.map_cons, List.sum_cons]
        omega

theorem readList_spends (h : Spends unit cost item) :
    Spends unit (fun r => (r.1.map cost).sum) (readList item ends) := by
  intro ts
  refine (h ts).bind fun x mid hx => (readMore_spends h _ mid).bind fun xs rest hxs =>
    leaves_some ?_
  simp only [List.map_cons, List.sum_cons]
  omega

end lists

/-- A reader of expressions that spends what it takes. -/
abbrev Frugal (known : Known) (unit : Nat) (r : Reader Expr) : Prop :=
  Spends unit (Expr.cost known) r

/-- A reader of operators that spends what it takes: what joins two expressions costs no more than
both with the operator. -/
def Joins (known : Known) (unit : Nat) (operator? : Reader (Expr → Expr → Expr)) : Prop :=
  ∀ ts combine rest, operator? ts = some (combine, rest) → ∀ l r,
    (combine l r).cost known + worth unit rest ≤ l.cost known + r.cost known + worth unit ts

section chains

variable {operand : Reader Expr}

theorem readChain_leaves (h : Frugal known unit operand) {operator? : Reader (Expr → Expr → Expr)}
    (hjoins : Joins known unit operator?) (steps : Nat) (left : Expr) (ts : List Token) :
    Leaves unit (Expr.cost known) (left.cost known + worth unit ts)
      (readChain operand operator? steps left ts) := by
  induction steps generalizing left ts with
  | zero => exact leaves_some le_rfl
  | succ steps ih =>
    rw [readChain]
    split
    · exact leaves_some le_rfl
    · next combine mid hoperator =>
      refine (h mid).bind fun right rest hright => (ih (combine left right) rest).mono ?_
      have hjoin := hjoins ts combine mid hoperator left right
      omega

theorem chainOf_spends (h : Frugal known unit operand) {operator? : Reader (Expr → Expr → Expr)}
    (hjoins : Joins known unit operator?) : Frugal known unit (chainOf operand operator?) := by
  intro ts
  exact (h ts).bind fun left rest hleft => (readChain_leaves h hjoins _ left rest).mono hleft

theorem flatChainOf_spends (h : Frugal known unit operand)
    {operator? : List Token → Option (List Token)}
    (hshrinks : ∀ ts rest, operator? ts = some rest → worth unit rest ≤ worth unit ts) :
    Frugal known unit (flatChainOf operand operator?) := by
  intro ts
  refine (h ts).bind fun left rest hleft => ?_
  dsimp only
  split
  · exact leaves_some hleft
  · refine (readChain_leaves h ?_ _ (.around [left.height]) rest).mono ?_
    · intro ts combine rest hnext l r
      obtain ⟨rest, hrest, heq⟩ := Option.map_eq_some_iff.1 hnext
      cases heq
      have hle := hshrinks ts rest hrest
      show 0 + _ ≤ _
      omega
    · show 0 + _ ≤ _
      omega

end chains

theorem operators_join (hunit : Covers known unit) :
    ∀ table ∈ operatorTables, Joins known unit (markOperator table) := by
  have hbinary : ∀ table ∈ operatorTables, ∀ e ∈ table, ∀ l r : Expr,
      (e.2 l r).cost known ≤ l.cost known + r.cost known + 65 := by
    have hcost (op : BinaryOp) (l r : Expr) :
        (Expr.binary op l r).cost known ≤ l.cost known + r.cost known + 65 := by
      simp only [Expr.cost, Expr.leafBits, Expr.operations]
      omega
    have hother (l r : Expr) : (joinOther l r).cost known ≤ l.cost known + r.cost known + 65 :=
      Nat.zero_le _
    simp only [operatorTables, List.forall_mem_cons, hcost, hother, List.not_mem_nil,
      IsEmpty.forall_iff, implies_true, and_true]
  intro table htable ts combine rest hread l r
  unfold markOperator at hread
  split at hread
  · next t ts =>
    obtain ⟨e, he, heq⟩ := Option.map_eq_some_iff.1 hread
    cases heq
    have hcost := hbinary table htable e (List.mem_of_find?_eq_some he) l r
    have hoperation := hunit.operation
    rw [worth_cons]
    show _ ≤ _ + (unit + _)
    omega
  · cases hread

theorem worth_comparison? {ts rest : List Token} (h : comparison? ts = some rest) :
    worth unit rest ≤ worth unit ts := by
  unfold comparison? at h
  split at h
  · split_ifs at h
    cases h
    exact worth_le_cons ..
  · cases h
    exact worth_le_cons ..
  · cases h
    exact (worth_le_cons ..).trans (worth_le_cons ..)
  · cases h
    exact (worth_le_cons ..).trans (worth_le_cons ..)
  · cases h
    exact worth_le_cons ..
  · cases h

/-! ### Readers inside a level -/

/-- A level whose readers spend what they take. -/
structure Level.IsFrugal (known : Known) (unit : Nat) (inner : Level) : Prop where
  /-- For any expression but a named one. -/
  expression : Frugal known unit inner.expression
  /-- For an expression without condition. -/
  disjunction : Frugal known unit inner.disjunction
  /-- For an operand of the word not. -/
  inversion : Frugal known unit inner.inversion
  /-- For an operand of comparisons. -/
  operand : Frugal known unit inner.operand
  /-- For an operand of signs. -/
  factor : Frugal known unit inner.factor
  /-- For a name, a constant or brackets. -/
  primary : Frugal known unit inner.primary

namespace Level.IsFrugal

variable {inner : Level} (h : inner.IsFrugal known unit)
include h

theorem named : Frugal known unit inner.named := by
  intro ts
  unfold Level.named
  split
  · next n ts =>
    refine (takeName_spends unit [.word n]).bind fun _ _ _ =>
      (h.expression ts).bind fun e rest he => leaves_some ?_
    have hword := worth_le_cons unit (.mark ":=") ts
    have hmark := worth_le_cons unit (.word n) (.mark ":=" :: ts)
    show 0 + _ ≤ _
    omega
  · exact h.expression _

theorem starNamed : Frugal known unit inner.starNamed := by
  intro ts
  unfold Level.starNamed
  split
  · next ts' hstar =>
    have hworth := worth_takeMark unit hstar
    refine (h.operand ts').bind fun e rest he => leaves_free rest rfl (by omega)
  · exact h.named ts

theorem starExpression : Frugal known unit inner.starExpression := by
  intro ts
  unfold Level.starExpression
  split
  · next ts' hstar =>
    have hworth := worth_takeMark unit hstar
    refine (h.operand ts').bind fun e rest he => leaves_free rest rfl (by omega)
  · exact h.expression ts

theorem target : Spends unit (fun _ => 0) inner.target := by
  intro ts
  have hstar : worth unit ((takeMark "*" ts).getD ts) ≤ worth unit ts :=
    worth_getD_le fun _ => worth_le_of_takeMark
  refine (h.primary _).bind fun e rest he => ?_
  dsimp only
  split_ifs
  · exact leaves_some (by omega)
  · exact leaves_none

theorem conditions (steps : Nat) : Spends unit (fun _ => 0) (inner.conditions steps) := by
  induction steps with
  | zero => exact fun ts => leaves_some (Nat.zero_add _).le
  | succ steps ih =>
    intro ts
    rw [Level.conditions]
    split
    · exact leaves_some (Nat.zero_add _).le
    · next ts' hif =>
      have hworth := worth_takeWord unit hif
      refine (h.disjunction ts').bind fun e mid he => (ih mid).bind fun height rest hrest => ?_
      exact leaves_some (by omega)

theorem loops (steps : Nat) : Spends unit (fun _ => 0) (inner.loops steps) := by
  induction steps with
  | zero => exact fun ts => leaves_none
  | succ steps ih =>
    intro ts
    have hasync : worth unit ((takeWord "async" ts).getD ts) ≤ worth unit ts :=
      worth_getD_le fun _ => worth_le_of_takeWord
    refine leaves_takeWord fun ts₁ h₁ => (readList_spends h.target ts₁).bind fun targets ts₂ h₂ =>
      leaves_takeWord fun ts₃ h₃ => (h.disjunction ts₃).bind fun source ts₄ h₄ =>
        (h.conditions _ ts₄).bind fun condition ts₅ h₅ => ?_
    dsimp only
    refine leaves_ite ?_ (leaves_some (by omega))
    refine (ih ts₅).bind fun further rest hrest => leaves_some ?_
    dsimp only
    omega

theorem comprehension (closer : String) (element : Expr) :
    Frugal known unit (inner.comprehension closer element) := by
  intro ts
  unfold Level.comprehension
  split_ifs
  · exact leaves_none
  · refine (h.loops _ ts).bind fun height mid hmid => leaves_takeMark fun rest hrest =>
      leaves_free rest rfl (by omega)

theorem yielded : Spends unit (fun _ => 0) inner.yielded := by
  intro ts
  unfold Level.yielded
  split
  · next ts' hfrom =>
    have hworth := worth_takeWord unit hfrom
    exact (h.expression ts').map fun e rest he => by dsimp only; omega
  · split_ifs
    · exact leaves_some (Nat.zero_add _).le
    · refine (readList_spends h.starExpression ts).bind fun items rest hitems => leaves_some ?_
      omega

theorem parenthesis : Frugal known unit inner.parenthesis := by
  intro ts
  unfold Level.parenthesis
  split
  · next rest hclosed =>
    have hworth := worth_takeMark unit hclosed
    exact leaves_free rest rfl (by omega)
  · split
    · next ts' hyield =>
      have hworth := worth_takeWord unit hyield
      refine (h.yielded ts').bind fun height mid hmid => leaves_takeMark fun rest hrest =>
        leaves_free rest rfl (by omega)
    · refine (h.starNamed ts).bind fun first mid hfirst => ?_
      dsimp only
      refine leaves_ite ((h.comprehension ")" first mid).mono (by omega)) ?_
      refine (readMore_spends h.starNamed _ mid).bind fun items ts₁ hitems => ?_
      dsimp only
      refine leaves_takeMark fun rest hrest => leaves_ite (leaves_some ?_)
        (leaves_ite leaves_none (leaves_some (by omega)))
      show 0 + _ ≤ _
      omega

theorem bracket : Frugal known unit inner.bracket := by
  intro ts
  unfold Level.bracket
  split
  · next rest hclosed =>
    have hworth := worth_takeMark unit hclosed
    exact leaves_free rest rfl (by omega)
  · refine (h.starNamed ts).bind fun first mid hfirst => ?_
    dsimp only
    refine leaves_ite ((h.comprehension "]" first mid).mono (by omega)) ?_
    refine (readMore_spends h.starNamed _ mid).bind fun items ts₁ hitems => ?_
    dsimp only
    refine leaves_takeMark fun rest hrest => leaves_free rest rfl (by omega)

theorem entryValue : Spends unit (fun _ => 0) inner.entryValue := by
  intro ts
  refine leaves_takeMark fun mid hmid => (h.expression mid).bind fun e rest he => leaves_some ?_
  omega

theorem entry : Spends unit (fun _ => 0) inner.entry := by
  intro ts
  unfold Level.entry
  split
  · next ts' hstars =>
    have hworth := worth_takeMark unit hstars
    exact (h.operand ts').map fun e rest he => by dsimp only; omega
  · refine (h.expression ts).bind fun key mid hkey => ?_
    exact (h.entryValue mid).bind fun value rest hvalue => leaves_some (by omega)

theorem moreEntries (first : Nat) : Frugal known unit (inner.moreEntries first) := by
  intro ts
  refine (readMore_spends h.entry _ ts).bind fun entries mid hmid =>
    leaves_takeMark fun rest hrest => leaves_free rest rfl (by omega)

theorem brace : Frugal known unit inner.brace := by
  intro ts
  unfold Level.brace
  split
  · next rest hclosed =>
    have hworth := worth_takeMark unit hclosed
    exact leaves_free rest rfl (by omega)
  · refine leaves_ite ?_ ?_
    · refine (h.entry ts).bind fun first mid hfirst => ?_
      exact (h.moreEntries first mid).mono (by omega)
    · refine (h.starNamed ts).bind fun first mid hfirst => ?_
      dsimp only
      refine leaves_ite (leaves_ite leaves_none ?_)
        (leaves_ite ((h.comprehension _ first mid).mono (by omega)) ?_)
      · refine (h.entryValue mid).bind fun value rest hvalue => ?_
        exact leaves_ite ((h.comprehension _ _ rest).mono (by omega))
          ((h.moreEntries _ rest).mono (by omega))
      · refine (readMore_spends h.starNamed _ mid).bind fun items ts₁ hitems => ?_
        dsimp only
        refine leaves_takeMark fun rest hrest => leaves_free rest rfl (by omega)

/-! ### Calls and brackets behind operands -/

theorem argument (stage : ArgumentStage) : Spends unit (fun _ => 0) (inner.argument stage) := by
  intro ts
  unfold Level.argument
  split
  · next ts =>
    have hmark := worth_le_cons unit (.mark "**") ts
    exact (h.expression ts).map fun e rest he => by dsimp only; omega
  · next ts =>
    have hmark := worth_le_cons unit (.mark "*") ts
    exact leaves_ite leaves_none ((h.expression ts).map fun e rest he => by dsimp only; omega)
  · next n ts =>
    have hword := worth_le_cons unit (.mark "=") ts
    have hmark := worth_le_cons unit (.word n) (.mark "=" :: ts)
    refine (takeName_spends unit [.word n]).bind fun _ _ _ =>
      (h.expression ts).bind fun e rest he => leaves_some ?_
    omega
  · refine leaves_ite ((h.named _).map fun e rest he => ?_) leaves_none
    dsimp only
    omega

theorem moreArguments (steps : Nat) (stage : ArgumentStage) :
    Spends unit (fun _ => 0) (inner.moreArguments steps stage) := by
  induction steps generalizing stage with
  | zero => exact fun ts => leaves_none
  | succ steps ih =>
    intro ts
    rw [Level.moreArguments]
    split
    · refine leaves_remaining fun rest hclosed => ?_
      rw [Nat.zero_add]
      exact worth_le_of_takeMark hclosed
    · next ts₁ hcomma =>
      have h₁ := worth_takeMark unit hcomma
      split
      · next rest hclosed =>
        have hrest := worth_takeMark unit hclosed
        exact leaves_some (by omega)
      · refine (h.argument stage ts₁).bind fun first mid hfirst =>
          (ih _ mid).bind fun further rest hrest => leaves_some ?_
        omega

theorem call : Spends unit (fun _ => 0) inner.call := by
  intro ts
  unfold Level.call
  split
  · next rest hclosed =>
    have hrest := worth_takeMark unit hclosed
    exact leaves_some (by omega)
  · refine (h.argument _ ts).bind fun first mid hfirst => ?_
    dsimp only
    refine leaves_ite ?_ ?_
    · refine (h.comprehension _ _ mid).bind fun e rest he => leaves_some ?_
      dsimp only
      omega
    · refine (h.moreArguments _ _ mid).bind fun further rest hrest => leaves_some ?_
      dsimp only
      omega

theorem bound : Spends unit (fun _ => 0) inner.bound := by
  intro ts
  refine leaves_ite (leaves_some (Nat.zero_add _).le) ?_
  exact (h.expression ts).map fun e rest he => by dsimp only; omega

theorem sliceRest (start : Nat) : Spends unit (fun _ => 0) (inner.sliceRest start) := by
  intro ts
  refine (h.bound ts).bind fun stop mid hstop => ?_
  dsimp only
  split
  · next ts₁ hcolon =>
    have h₁ := worth_takeMark unit hcolon
    refine (h.bound ts₁).bind fun step rest hstep => leaves_some ?_
    dsimp only
    omega
  · exact leaves_some hstop

theorem subscript : Spends unit (fun _ => 0) inner.subscript := by
  intro ts
  unfold Level.subscript
  split
  · next ts₁ hstar =>
    have h₁ := worth_takeMark unit hstar
    exact (h.expression ts₁).map fun e rest he => by dsimp only; omega
  · split
    · next ts₁ hcolon =>
      have h₁ := worth_takeMark unit hcolon
      exact (h.sliceRest 0 ts₁).mono (by omega)
    · split
      · exact (h.named _).map fun e rest he => by dsimp only; omega
      · refine (h.expression ts).bind fun e mid he => ?_
        dsimp only
        split
        · next ts₁ hcolon =>
          have h₁ := worth_takeMark unit hcolon
          exact (h.sliceRest _ ts₁).mono (by omega)
        · exact leaves_some (by omega)

theorem trailers (hunit : Covers known unit) (steps : Nat) (e : Expr) (ts : List Token) :
    Leaves unit (Expr.cost known) (e.cost known + worth unit ts) (inner.trailers steps e ts) := by
  induction steps generalizing e ts with
  | zero => exact leaves_some le_rfl
  | succ steps ih =>
    rw [Level.trailers.eq_def]
    dsimp only
    split
    · next ts =>
      refine (takeName_spends unit ts).bind fun n rest hn => (ih _ rest).mono ?_
      have hname := hunit.name (canonicalName n)
      rw [worth_cons]
      show Expr.nameBits known (canonicalName n) + 0 + _ ≤ _ + (unit + _)
      omega
    · next ts =>
      refine (h.call ts).bind fun height rest hrest => (ih _ rest).mono ?_
      rw [worth_cons]
      show 0 + _ ≤ _
      omega
    · next ts =>
      refine (readList_spends h.subscript ts).bind fun parts mid hparts => ?_
      dsimp only
      refine leaves_takeMark fun rest hrest => (ih _ rest).mono ?_
      rw [worth_cons]
      show 0 + _ ≤ _
      omega
    · exact leaves_some le_rfl

/-! ### Operands -/

theorem parameter : Spends unit (fun _ => 0) inner.parameter := by
  intro ts
  unfold Level.parameter
  split
  · next ts =>
    have hmark := worth_le_cons unit (.mark "**") ts
    exact (takeName_spends unit ts).map fun n rest hn => by dsimp only; omega
  · next ts =>
    have hmark := worth_le_cons unit (.mark "*") ts
    split
    · next n rest hn =>
      have hname := takeName_spends unit ts n rest hn
      exact leaves_some (by omega)
    · exact leaves_some (by omega)
  · refine (takeName_spends unit _).bind fun n mid hn => ?_
    dsimp only
    split
    · next ts₁ hdefault =>
      have h₁ := worth_takeMark unit hdefault
      exact (h.expression ts₁).map fun e rest he => by dsimp only; omega
    · exact leaves_some (by omega)

theorem lambda : Frugal known unit inner.lambda := by
  intro ts
  have hnothing : Leaves unit (fun _ => 0) (worth unit ts)
      (some ((([] : List (ParameterForm × Nat)), false), ts)) :=
    leaves_some (Nat.zero_add _).le
  -- with parameters or without, the rest is read alike
  unfold Level.lambda
  refine leaves_ite (hnothing.bind ?_) ((readList_spends h.parameter ts).bind ?_)
  all_goals
    intro parameters mid hmid
    dsimp only
    exact leaves_takeMark fun ts₁ h₁ => (h.expression ts₁).bind fun body rest hbody =>
      leaves_ite (leaves_free rest rfl (by omega)) leaves_none

end Level.IsFrugal

theorem worth_readLiterals (unit : Nat) (isBytes : Bool) {ts rest : List Token}
    (h : readLiterals isBytes ts = some rest) : worth unit rest ≤ worth unit ts := by
  induction ts with
  | nil =>
    cases h
    exact le_rfl
  | cons t ts ih =>
    cases t with
    | literal l =>
      rw [readLiterals] at h
      split_ifs at h
      exact (ih h).trans (worth_le_cons ..)
    | word | number | mark =>
      cases h
      exact le_rfl

/-- A word that stands for a constant stands for a truth value, or for none. -/
theorem cost_wordConstant? (known : Known) {w : String} {e : Expr} (h : wordConstant? w = some e) :
    e.cost known ≤ 1 := by
  unfold wordConstant? at h
  split at h <;> cases h
  · exact (by decide : bitLength 1 ≤ 1)
  · exact Nat.zero_le _
  · exact Nat.zero_le _

theorem cost_numberExpr (value : Option Nat) :
    (numberExpr value).cost known = (Token.number value).worth unit := by
  cases value <;> rfl

namespace Level.IsFrugal

variable {inner : Level} (h : inner.IsFrugal known unit) (hunit : Covers known unit)
include h hunit

theorem atom : Frugal known unit inner.atom := by
  have hoperation := hunit.operation
  intro ts
  unfold Level.atom
  split
  · next value ts => exact leaves_some (Nat.add_le_add_right (cost_numberExpr value).le _)
  · next l ts =>
    refine leaves_remaining fun rest hrest => ?_
    have hle := worth_readLiterals unit l.isBytes hrest
    have hliteral := worth_le_cons unit (.literal l) ts
    show 0 + _ ≤ _
    omega
  · next ts =>
    exact leaves_free ts rfl (worth_le_cons ..)
  · exact (h.parenthesis _).mono (worth_le_cons ..)
  · exact (h.bracket _).mono (worth_le_cons ..)
  · exact (h.brace _).mono (worth_le_cons ..)
  · next w ts =>
    split
    · next e hconstant =>
      have hcost := cost_wordConstant? known hconstant
      refine leaves_some ?_
      show _ ≤ unit + _
      omega
    · refine (takeName_spends unit [.word w]).map fun _ _ _ => ?_
      have hname := hunit.name (canonicalName w)
      show Expr.nameBits known (canonicalName w) + 0 + worth unit ts ≤ unit + _
      omega
  · exact leaves_none

theorem readPrimary : Frugal known unit inner.readPrimary := by
  intro ts
  exact (h.atom hunit ts).bind fun e mid he => (h.trailers hunit _ e mid).mono he

theorem power : Frugal known unit inner.power := by
  intro ts
  unfold Level.power
  dsimp only
  split
  · next ts₁ hawait =>
    have h₁ := worth_takeWord unit hawait
    refine (h.readPrimary hunit ts₁).bind fun e mid he => ?_
    -- what is awaited costs nothing, and is raised as any base is
    have hawaited : Leaves unit (Expr.cost known) (worth unit ts)
        (some (.around [e.height], mid)) := leaves_free mid rfl (by omega)
    refine hawaited.bind fun base mid hbase => ?_
    dsimp only
    split
    · next ts₂ hpower =>
      have h₂ := worth_takeMark unit hpower
      exact (h.factor ts₂).bind fun exponent rest hexponent => leaves_free rest rfl (by omega)
    · exact leaves_some hbase
  · refine (h.readPrimary hunit ts).bind fun base mid hbase => ?_
    dsimp only
    split
    · next ts₂ hpower =>
      have h₂ := worth_takeMark unit hpower
      exact (h.factor ts₂).bind fun exponent rest hexponent => leaves_free rest rfl (by omega)
    · exact leaves_some hbase

theorem readFactor : Frugal known unit inner.readFactor := by
  have hoperation := hunit.operation
  have hsigned : ∀ op m ts, Leaves unit (Expr.cost known) (worth unit (.mark m :: ts))
      ((inner.factor ts).map fun r => (.unary op r.1, r.2)) := by
    intro op m ts
    refine (h.factor ts).map fun e rest he => ?_
    rw [worth_cons]
    simp only [Expr.cost, Expr.leafBits, Expr.operations] at he ⊢
    show _ ≤ unit + _
    omega
  intro ts
  unfold Level.readFactor
  split
  · exact hsigned _ _ _
  · exact hsigned _ _ _
  · exact hsigned _ _ _
  · exact h.power hunit ts

theorem readOperators {tables : List (List (String × (Expr → Expr → Expr)))}
    (htables : ∀ table ∈ tables, Joins known unit (markOperator table)) :
    Frugal known unit (inner.readOperators tables) := by
  induction tables with
  | nil => exact h.readFactor hunit
  | cons table tables ih =>
    obtain ⟨htable, htables⟩ := List.forall_mem_cons.1 htables
    exact chainOf_spends (ih htables) htable

theorem readOperand : Frugal known unit inner.readOperand :=
  h.readOperators hunit (operators_join hunit)

theorem readInversion : Frugal known unit inner.readInversion := by
  intro ts
  unfold Level.readInversion
  split
  · next ts =>
    have hword := worth_le_cons unit (.word "not") ts
    refine (h.inversion ts).map fun e rest he => ?_
    show 0 + worth unit rest ≤ _
    omega
  · exact flatChainOf_spends (h.readOperand hunit) (fun _ _ => worth_comparison?) ts

theorem readDisjunction : Frugal known unit inner.readDisjunction := by
  have hword : ∀ w ts rest, takeWord w ts = some rest → worth unit rest ≤ worth unit ts :=
    fun _ _ _ => worth_le_of_takeWord
  exact flatChainOf_spends (flatChainOf_spends (h.readInversion hunit) (hword "and")) (hword "or")

theorem readExpression : Frugal known unit inner.readExpression := by
  intro ts
  unfold Level.readExpression
  split
  · exact (h.lambda _).mono (worth_le_cons ..)
  · refine (h.readDisjunction hunit _).bind fun e mid he => ?_
    dsimp only
    split
    · exact leaves_some he
    · next ts₁ hif =>
      have h₁ := worth_takeWord unit hif
      refine (h.disjunction ts₁).bind fun condition ts₂ h₂ => ?_
      dsimp only
      exact leaves_takeWord fun ts₃ h₃ => (h.expression ts₃).bind fun alternative rest hrest =>
        leaves_free rest rfl (by omega)

/-- What holds inside a level holds of it. -/
theorem outer : inner.outer.IsFrugal known unit where
  expression := h.readExpression hunit
  disjunction := h.readDisjunction hunit
  inversion := h.readInversion hunit
  operand := h.readOperand hunit
  factor := h.readFactor hunit
  primary := h.readPrimary hunit

end Level.IsFrugal

theorem ofDepth_frugal (hunit : Covers known unit) (depth : Nat) :
    (Level.ofDepth depth).IsFrugal known unit := by
  induction depth with
  | zero =>
    have hnothing : Frugal known unit fun _ => none := fun _ => leaves_none
    exact ⟨hnothing, hnothing, hnothing, hnothing, hnothing, hnothing⟩
  | succ depth ih => exact ih.outer hunit

/-- An expression costs no more than its tokens are worth. -/
theorem cost_parseTokens {ts : List Token} {e : Expr} (hunit : Covers known unit)
    (h : parseTokens ts = some e) : e.cost known ≤ worth unit ts := by
  obtain ⟨⟨⟨items, comma⟩, rest⟩, hitems, h⟩ := Option.bind_eq_some_iff.1 h
  have hcost := readList_spends (ofDepth_frugal hunit (ts.length + 1)).expression ts _ _ hitems
  dsimp only at h hcost
  split_ifs at h
  · cases h
    exact Nat.zero_le _
  · obtain ⟨others, rfl⟩ := List.head?_eq_some_iff.1 h
    rw [List.map_cons, List.sum_cons] at hcost
    omega

/-! ### Initializers -/

/-- An expression costs no more than a unit for each character of its text. -/
theorem cost_parse_le {cs : List Char} {e : Expr} (hunit : Covers known unit)
    (h : parse cs = some e) : e.cost known ≤ unit * cs.length := by
  unfold parse parseWithin at h
  obtain ⟨ts, hscan, h⟩ := Option.bind_eq_some_iff.1 h
  split_ifs at h
  have hfour : 4 ≤ unit := le_trans (by decide) hunit.operation
  exact (cost_parseTokens hunit h).trans (worth_scan_le hfour hscan)

/-- Respelled names have the constants that were given. -/
theorem covers_respelled {bits : Nat} (h : ∀ entry ∈ known, bitLength entry.2.toInt ≤ bits) :
    Covers known.respelled (max 65 bits) where
  operation := le_max_left ..
  name := by
    intro n
    cases hget : known.respelled.get? n with
    | none =>
      rw [Expr.nameBits, hget]
      exact Nat.zero_le _
    | some c =>
      obtain ⟨entry, hfind, rfl⟩ := Option.map_eq_some_iff.1 hget
      have hmem := List.mem_reverse.1 (List.mem_of_find?_eq_some hfind)
      obtain ⟨given, hgiven, rfl⟩ := List.mem_map.1 hmem
      rw [Expr.nameBits, hget]
      exact (h given hgiven).trans (le_max_right ..)

/-- The value of an expression takes as many bits as its constants and known names and 65 for each
operation at most. So an initializer has seven times as many bits as it has characters at most,
times 65, or times the bits of the longest known constant where that has more, whatever places it
shifts by. -/
theorem bitLength_constant_le (known : Known) :
    (∀ (e : Expr) (c : Constant), e.value? known = some c →
      bitLength c.toInt ≤ e.leafBits known + 65 * e.operations) ∧
    ∀ (text : String) (c : Constant) (bits : Nat), constant? known text = some c →
      (∀ entry ∈ known, bitLength entry.2.toInt ≤ bits) →
      bitLength c.toInt ≤ 7 * max 65 bits * text.length := by
  refine ⟨fun e c h => Expr.bitLength_value_le h, fun text c bits h hknown => ?_⟩
  obtain ⟨e, hparse, hvalue⟩ := Option.bind_eq_some_iff.1 h
  calc bitLength c.toInt
    _ ≤ e.cost known.respelled := Expr.bitLength_value_le hvalue
    _ ≤ max 65 bits * (readable text).length := cost_parse_le (covers_respelled hknown) hparse
    _ ≤ max 65 bits * (7 * text.length) := Nat.mul_le_mul_left _ (length_readable_le text)
    _ = 7 * max 65 bits * text.length := by rw [Nat.mul_left_comm, Nat.mul_assoc]

/-- A number that is shifted by as many places as a known name tells. -/
theorem bitLength_constant_shifted :
    let known : Known := [("places", .int 64)]
    let e : Expr := .binary .shiftLeft (.unary .negate (.constant (.int 1))) (.name "places")
    constant? known "-1 << places" = some (.int (-2 ^ 64)) ∧
      e.value? known = some (.int (-2 ^ 64)) ∧ e.leafBits known + 65 * e.operations = 138 ∧
      bitLength (-2 ^ 64) ≤ 138 ∧ bitLength (-2 ^ 64) ≤ 7 * max 65 7 * 12 := by
  intro known e
  have hread : constant? known "-1 << places" = some (.int (-2 ^ 64)) := by decide +kernel
  have hvalue : e.value? known = some (.int (-2 ^ 64)) := by decide
  have hcost : e.leafBits known + 65 * e.operations = 138 := by decide
  have hknown : ∀ entry ∈ known, bitLength entry.2.toInt ≤ 7 := by decide
  obtain ⟨hexpr, htext⟩ := bitLength_constant_le known
  exact ⟨hread, hvalue, hcost, hcost ▸ hexpr e _ hvalue, htext _ _ 7 hread hknown⟩

end Bindery.Initializer
