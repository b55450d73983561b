import Bindery.Proofs.Initializer.Numbers

/-!
# The tokens of constant expressions

A respelled constant expression falls into one token for each of its symbols. A numeral or a name
ends where a gap or a mark follows, and no mark that an expression is written with goes on with the
next symbol. There are texts that are not scanned to their end: a numeral may not be read,
parentheses may be nested too deep, and a line may end outside of them. But what is scanned to its
end gives those tokens and no others.
-/

namespace Bindery.Initializer

open Bindery.Text

/-- How an operator is written where it is read. -/
def ConstantOp.respelled : ConstantOp → String
  | integer op => op.mark
  | divide => "//"
  | remainder => "%"

/-- The token of a symbol. -/
def Symbol.token : Symbol → Token
  | numeral n => .number (some n.number)
  | name n => .word n.1
  | opening => .mark "("
  | closing => .mark ")"
  | sign op => .mark op.mark
  | operator op => .mark op.respelled

/-- The tokens of an expression. -/
def ConstantExpr.tokens {t : Nat} (e : ConstantExpr t) : List Token :=
  e.symbols.map Symbol.token

/-! ### Tokens -/

namespace Symbol

/-- What can stand behind a symbol for it to be read by itself. -/
def Stops (s : Symbol) (rest : List Char) : Prop :=
  match s with
  | numeral _ | name _ => EndsWord rest
  | operator (.integer .multiply) => rest.head? ≠ some '*'
  | _ => True

theorem readWord_name {n : String} (hn : Naming.isValid n = true) {rest : List Char}
    (hrest : EndsWord rest) : readWord (n.toList ++ rest) = some (.word n, rest) := by
  obtain ⟨-, hall, -⟩ := Naming.isValid_iff.1 hn
  have hpart : ∀ c ∈ n.toList, isNamePart c = true := by
    intro c hc
    have hname := List.all_eq_true.1 hall c hc
    unfold isNamePart
    unfold Naming.isNameChar at hname
    rw [hname, Bool.true_or]
  have hascii : n.toList.all (·.toNat < 128) = true :=
    List.all_eq_true.2 fun c hc => decide_eq_true
      (toNat_lt_of_isNameChar (List.all_eq_true.1 hall c hc))
  have hstop : ∀ c ∈ rest.head?, isNamePart c = false := by
    intro c hc
    simpa using hrest.of_forall (p := fun c => !isNamePart c) (by decide) c hc
  have hquote : rest.head?.any (fun c => c = '\'' ∨ c = '"') = false :=
    hrest.any_head? (by decide)
  have htake : rest.takeWhile isNamePart = [] ∧ rest.dropWhile isNamePart = rest := by
    cases rest with
    | nil => exact ⟨rfl, rfl⟩
    | cons c cs =>
      have hc : ¬isNamePart c = true := by simp [hstop c rfl]
      exact ⟨List.takeWhile_cons_of_neg hc, List.dropWhile_cons_of_neg hc⟩
  unfold readWord
  rw [List.takeWhile_append_of_pos hpart, List.dropWhile_append_of_pos hpart, htake.1, htake.2,
    List.append_nil]
  simp only [hquote]
  simp [hascii]

/-- A text that begins with a numeral is read by the reader of numbers. -/
theorem readToken_numeral (n : Numeral) (rest : List Char) :
    readToken (n.worded IntegerLiteral.respelled ++ rest) =
      (readNumber (n.worded IntegerLiteral.respelled ++ rest)).map fun r => (.number r.1, r.2) := by
  obtain ⟨c, cs, hcs, hc⟩ := n.exists_worded_eq_cons
  rw [hcs, List.cons_append]
  unfold readToken
  dsimp only
  rw [if_pos (by rw [hc, Bool.true_or])]

theorem readToken_name (n : Identifier) {rest : List Char} (hrest : EndsWord rest) :
    readToken (n.1.toList ++ rest) = some (.word n.1, rest) := by
  have hread := readWord_name n.2 hrest
  obtain ⟨hne, hall, hdigit, -⟩ := Naming.isValid_iff.1 n.2
  obtain ⟨c, cs, hcs⟩ := List.exists_cons_of_ne_nil hne
  rw [hcs] at hread hall hdigit ⊢
  have hname := List.all_eq_true.1 hall c (List.mem_cons_self ..)
  have hc : isAsciiDigit c = false := hdigit
  have hstart : isWordStart c = true := by
    simp only [Naming.isNameChar, hc, Bool.or_false] at hname
    rw [isWordStart, hname, Bool.true_or]
  have hother {d : Char} (hd : Naming.isNameChar d = false) : c ≠ d := by
    rintro rfl
    rw [hname] at hd
    cases hd
  rw [List.cons_append] at hread ⊢
  unfold readToken
  dsimp only
  rw [if_neg, if_neg, if_pos hstart, hread]
  · exact not_or.2 ⟨hother (by decide), hother (by decide)⟩
  · simp [hc, hother (show Naming.isNameChar '.' = false by decide)]

/-- The sign of a product is read by itself, unless another one follows. -/
theorem readToken_multiply {rest : List Char} (hrest : rest.head? ≠ some '*') :
    readToken ('*' :: rest) = some (.mark "*", rest) := by
  cases rest with
  | nil => rfl
  | cons c cs =>
    have hc : c ≠ '*' := fun h => hrest (congrArg some h)
    have hfind : marks.find? (·.isPrefixOf ('*' :: c :: cs)) = some ['*'] := by
      simp [marks, hc.symm]
    change readMark ('*' :: c :: cs) = _
    rw [readMark, hfind]
    rfl

/-- A symbol is read as its token. -/
theorem readToken_respelled {s : Symbol} (hs : s.Fits) {rest : List Char} (hrest : s.Stops rest) :
    readToken (s.respelled ++ rest) = some (s.token, rest) := by
  cases s with
  | numeral n =>
    rw [respelled_of_isWord rfl]
    change readToken (n.worded IntegerLiteral.respelled ++ rest) = _
    rw [readToken_numeral, n.readNumber_worded hs hrest]
    rfl
  | name n =>
    rw [respelled_of_isWord rfl]
    exact readToken_name n hrest
  | opening => rfl
  | closing => rfl
  | sign op => cases op <;> rfl
  | operator op =>
    cases op with
    | integer op =>
      cases op with
      | multiply => exact readToken_multiply hrest
      | _ => rfl
    | _ => rfl

/-- Only numerals can fail to be read. -/
theorem readToken_eq_none {s : Symbol} (hs : ¬s.Fits) {rest : List Char} (hrest : s.Stops rest) :
    readToken (s.respelled ++ rest) = none := by
  cases s with
  | numeral n =>
    rw [respelled_of_isWord rfl]
    change readToken (n.worded IntegerLiteral.respelled ++ rest) = _
    rw [readToken_numeral, n.readNumber_eq_none hs hrest]
    rfl
  | _ => exact absurd trivial hs

end Symbol

/-! ### Brackets -/

namespace ConstantExpr

/-- Behind an expression the brackets are open that were open before it. -/
theorem foldlM_nest {t : Nat} (e : ConstantExpr t) {opened : List Char}
    (h : opened.length + e.nesting ≤ nestingLimit) :
    e.tokens.foldlM nest opened = some opened := by
  unfold tokens
  induction e generalizing opened with
  | numeral n => rfl
  | name n => rfl
  | parens e ih =>
    rw [nesting] at h
    have hopen : nest opened (.mark "(") = some (')' :: opened) := by
      change (if nestingLimit ≤ opened.length then none else some (')' :: opened)) = _
      rw [if_neg (by omega)]
    have hinner := @ih (')' :: opened) (by rw [List.length_cons]; omega)
    rw [symbols, List.cons_append, List.map_cons, List.foldlM_cons, Symbol.token, hopen,
      Option.bind_eq_bind, Option.bind_some, List.map_append, List.foldlM_append, hinner]
    rfl
  | unary op e _ ih =>
    have hsign : nest opened (.mark op.mark) = some opened := by cases op <;> rfl
    rw [symbols, List.map_cons, List.foldlM_cons, Symbol.token, hsign, Option.bind_eq_bind,
      Option.bind_some, ih h]
  | binary op l r _ ihl ihr =>
    rw [nesting] at h
    have hop : nest opened (.mark op.respelled) = some opened := by
      obtain op | _ | _ := op
      · cases op <;> rfl
      · rfl
      · rfl
    rw [symbols, List.map_append, List.foldlM_append, ihl (by omega), Option.bind_eq_bind,
      Option.bind_some, List.map_cons, List.foldlM_cons, Symbol.token, hop, Option.bind_eq_bind,
      Option.bind_some, ihr (by omega)]

end ConstantExpr

/-! ### Texts -/

theorem unifyLineEnds_cons_of_ne {c : Char} (h : c ≠ '\r') (cs : List Char) :
    unifyLineEnds (c :: cs) = c :: unifyLineEnds cs := by
  rw [unifyLineEnds]
  · exact fun _ hr => absurd hr h
  · exact h

/-- A text without carriage returns is kept, whatever follows it. -/
theorem unifyLineEnds_append {cs : List Char} (h : '\r' ∉ cs) (rest : List Char) :
    unifyLineEnds (cs ++ rest) = cs ++ unifyLineEnds rest := by
  induction cs with
  | nil => rfl
  | cons c cs ih =>
    have hc : c ≠ '\r' := fun hc => h (hc ▸ List.mem_cons_self ..)
    rw [List.cons_append, unifyLineEnds_cons_of_ne hc, ih fun hd => h (List.mem_cons_of_mem _ hd),
      List.cons_append]

theorem unifyLineEnds_of_not_mem {cs : List Char} (h : '\r' ∉ cs) : unifyLineEnds cs = cs := by
  have hkept := unifyLineEnds_append h []
  have hnil : unifyLineEnds [] = [] := rfl
  rwa [hnil, List.append_nil] at hkept

/-- A gap stays a gap if line ends are made alike. -/
theorem exists_unifyLineEnds_gap {blanks : List Char} (h : ∀ c ∈ blanks, isGap c = true)
    {rest : List Char} (hrest : rest.head? ≠ some '\n') :
    ∃ blanks', (∀ c ∈ blanks', isGap c = true) ∧
      unifyLineEnds (blanks ++ rest) = blanks' ++ unifyLineEnds rest := by
  fun_induction unifyLineEnds blanks with
  | case1 => exact ⟨[], fun _ hc => absurd hc List.not_mem_nil, rfl⟩
  | case2 blanks ih =>
    obtain ⟨blanks', hgap, heq⟩ := ih fun c hc => h c (by simp [hc])
    refine ⟨'\n' :: blanks', List.forall_mem_cons.2 ⟨by decide, hgap⟩, ?_⟩
    rw [List.cons_append, List.cons_append, unifyLineEnds, heq, List.cons_append]
  | case3 blanks hnot ih =>
    obtain ⟨blanks', hgap, heq⟩ := ih fun c hc => h c (List.mem_cons_of_mem _ hc)
    refine ⟨'\n' :: blanks', List.forall_mem_cons.2 ⟨by decide, hgap⟩, ?_⟩
    rw [List.cons_append, unifyLineEnds, heq, List.cons_append]
    intro cs hcs
    cases blanks with
    | nil => exact hrest (congrArg List.head? hcs)
    | cons b blanks => exact hnot blanks (by rw [(List.cons.inj hcs).1])
  | case4 c blanks _ hne ih =>
    obtain ⟨blanks', hgap, heq⟩ := ih fun c hc => h c (List.mem_cons_of_mem _ hc)
    refine ⟨c :: blanks', List.forall_mem_cons.2 ⟨h c (List.mem_cons_self ..), hgap⟩, ?_⟩
    rw [List.cons_append, unifyLineEnds_cons_of_ne hne, heq, List.cons_append]

/-- A character of a name or a mark is none of those that stand between tokens. -/
theorem ne_of_isTokenStart {c d : Char} (hc : Naming.isNameChar c = true ∨ isMark c = true)
    (hd : (Naming.isNameChar d || isMark d) = false) : c ≠ d := by
  rintro rfl
  obtain hc | hc := hc <;> simp [hc] at hd

/-- A text that begins with a token is read from there on, unless its line is indented. -/
theorem skipLines_of_isTokenStart {c : Char}
    (hc : Naming.isNameChar c = true ∨ isMark c = true) (kept indented : Bool) (cs : List Char) :
    skipLines kept indented (c :: cs) = if kept || indented then none else some (c :: cs) := by
  rw [skipLines]
  · exact ne_of_isTokenStart hc (by decide)
  · exact ne_of_isTokenStart hc (by decide)
  · exact ne_of_isTokenStart hc (by decide)
  · exact ne_of_isTokenStart hc (by decide)
  · exact ne_of_isTokenStart hc (by decide)
  · exact fun _ _ h => absurd h (ne_of_isTokenStart hc (by decide))

/-- Lines in which a token follows are not all empty. -/
theorem skipLines_gap_ne {blanks : List Char} (h : ∀ c ∈ blanks, isGap c = true) {c : Char}
    (hc : Naming.isNameChar c = true ∨ isMark c = true) (kept indented : Bool) (cs : List Char) :
    skipLines kept indented (blanks ++ c :: cs) ≠ some [] := by
  have hif (text : List Char) (d : Char) :
      (if kept || indented then none else some (d :: text)) ≠ some [] := by
    split <;> simp
  induction blanks generalizing kept indented with
  | nil =>
    rw [List.nil_append, skipLines_of_isTokenStart hc]
    exact hif _ _
  | cons b blanks ih =>
    have hrest (kept indented : Bool) : skipLines kept indented (blanks ++ c :: cs) ≠ some [] := by
      refine ih (fun d hd => h d (List.mem_cons_of_mem _ hd)) kept indented fun text d => ?_
      split <;> simp
    have hb := h b (List.mem_cons_self ..)
    simp only [isGap, isSpacing, Bool.or_eq_true, beq_iff_eq] at hb
    obtain ((((rfl | rfl) | rfl) | rfl) | rfl) | rfl := hb
    · exact hrest kept true
    · exact hrest kept true
    · exact hrest kept false
    · exact hrest false false
    · exact hif _ _
    · exact hif _ _

/-- Blanks between tokens are skipped. -/
theorem scanFrom_blanks {blanks : List Char} (h : ∀ c ∈ blanks, isSpacing c = true) (steps : Nat)
    (opened cs : List Char) :
    scanFrom (steps + blanks.length) opened (blanks ++ cs) = scanFrom steps opened cs := by
  induction blanks with
  | nil => rfl
  | cons c blanks ih =>
    have hc := h c (List.mem_cons_self ..)
    have hskip (n : Nat) (ds : List Char) :
        scanFrom (n + 1) opened (c :: ds) = scanFrom n opened ds := by
      simp only [isSpacing, Bool.or_eq_true, beq_iff_eq] at hc
      obtain (rfl | rfl) | rfl := hc <;> rfl
    rw [List.cons_append, List.length_cons, ← Nat.add_assoc, hskip]
    exact ih fun d hd => h d (List.mem_cons_of_mem _ hd)

/-- A gap between tokens is skipped, unless the text is not scanned to its end. -/
theorem exists_scanFrom_gap {blanks : List Char} (h : ∀ c ∈ blanks, isGap c = true) {c : Char}
    (hc : Naming.isNameChar c = true ∨ isMark c = true) {steps : Nat} {opened cs : List Char}
    (hwhole : (scanFrom steps opened (blanks ++ c :: cs)).2 = true) :
    ∃ n, scanFrom steps opened (blanks ++ c :: cs) = scanFrom n opened (c :: cs) := by
  induction blanks generalizing steps with
  | nil => exact ⟨steps, rfl⟩
  | cons b blanks ih =>
    have hblanks : ∀ c ∈ blanks, isGap c = true := fun d hd => h d (List.mem_cons_of_mem _ hd)
    have hb := h b (List.mem_cons_self ..)
    cases steps with
    | zero => cases hwhole
    | succ steps =>
      simp only [isGap, isSpacing, Bool.or_eq_true, beq_iff_eq] at hb
      obtain ((((rfl | rfl) | rfl) | rfl) | rfl) | rfl := hb
      · exact ih hblanks hwhole
      · exact ih hblanks hwhole
      · exact ih hblanks hwhole
      · -- outside brackets only empty lines may follow a line end
        cases opened with
        | nil => exact absurd (of_decide_eq_true hwhole) (skipLines_gap_ne hblanks hc _ _ cs)
        | cons closer opened => exact ih hblanks hwhole
      · cases hwhole
      · cases hwhole

namespace Symbol

/-- What is read begins with a character of a name or a mark. -/
theorem exists_respelled_eq_cons (s : Symbol) : ∃ c cs, s.respelled = c :: cs ∧
    (Naming.isNameChar c = true ∨ isMark c = true) := by
  obtain ⟨c, cs, hcs⟩ := List.exists_cons_of_ne_nil (parted_respelled.ne_nil s)
  refine ⟨c, cs, hcs, ?_⟩
  have hmem : c ∈ s.respelled := hcs ▸ List.mem_cons_self ..
  cases hs : s.isWord with
  | true => exact .inl (parted_respelled.word s hs c hmem)
  | false => exact .inr (parted_respelled.mark s hs c hmem)

/-- At the front of a text with a symbol a token is read. -/
theorem scanFrom_eq_readToken (s : Symbol) (steps : Nat) (opened rest : List Char) :
    scanFrom (steps + 1) opened (s.respelled ++ rest) =
      match readToken (s.respelled ++ rest) with
      | none => ([], false)
      | some (token, rest) =>
        match nest opened token with
        | none => ([], false)
        | some opened =>
          (token :: (scanFrom steps opened rest).1, (scanFrom steps opened rest).2) := by
  obtain ⟨c, cs, hcs, hc⟩ := s.exists_respelled_eq_cons
  have hspacing : isSpacing c = false := by
    simp only [isSpacing, Bool.or_eq_false_iff, beq_eq_false_iff_ne]
    exact ⟨⟨ne_of_isTokenStart hc (by decide), ne_of_isTokenStart hc (by decide)⟩,
      ne_of_isTokenStart hc (by decide)⟩
  rw [hcs, List.cons_append, scanFrom]
  · exact if_neg (by rw [hspacing]; decide)
  · exact ne_of_isTokenStart hc (by decide)
  · exact fun _ _ h => absurd h (ne_of_isTokenStart hc (by decide))
  · exact ne_of_isTokenStart hc (by decide)

/-- A symbol at the front of a text gives its token. -/
theorem scanFrom_respelled {s : Symbol} (hs : s.Fits) {rest opened open' : List Char}
    (hrest : s.Stops rest) (hnest : nest opened s.token = some open') (steps : Nat) :
    scanFrom (steps + 1) opened (s.respelled ++ rest) =
      (s.token :: (scanFrom steps open' rest).1, (scanFrom steps open' rest).2) := by
  rw [s.scanFrom_eq_readToken, readToken_respelled hs hrest]
  simp only [hnest]

/-- A symbol at the front of a text that is scanned to its end gives its token. -/
theorem exists_scanFrom_respelled {s : Symbol} {rest opened : List Char} (hrest : s.Stops rest)
    {steps : Nat} (hwhole : (scanFrom steps opened (s.respelled ++ rest)).2 = true) :
    ∃ n open', scanFrom steps opened (s.respelled ++ rest) =
      (s.token :: (scanFrom n open' rest).1, (scanFrom n open' rest).2) := by
  cases steps with
  | zero => cases hwhole
  | succ steps =>
    by_cases hs : s.Fits
    · cases hnest : nest opened s.token with
      | none =>
        rw [s.scanFrom_eq_readToken, readToken_respelled hs hrest] at hwhole
        simp [hnest] at hwhole
      | some open' => exact ⟨steps, open', scanFrom_respelled hs hrest hnest steps⟩
    · rw [s.scanFrom_eq_readToken, readToken_eq_none hs hrest] at hwhole
      cases hwhole

/-- What stands behind a symbol in an expression, or the gap before it, ends the symbol. -/
theorem Joins.stops {s s' : Symbol} (h : s.Joins s') {blanks rest : List Char}
    (hblanks : ∀ c ∈ blanks, isGap c = true) :
    s.Stops (blanks ++ (s'.respelled ++ rest)) := by
  obtain ⟨d, ds, hds, -⟩ := s'.exists_respelled_eq_cons
  have hhead : ∀ c ∈ (blanks ++ (s'.respelled ++ rest)).head?,
      isGap c = true ∨ c ∈ s'.respelled := by
    intro c hc
    cases blanks with
    | cons b _ =>
      obtain rfl : b = c := Option.some.inj hc
      exact .inl (hblanks b (List.mem_cons_self ..))
    | nil =>
      rw [List.nil_append, hds, List.cons_append] at hc
      obtain rfl : d = c := Option.some.inj hc
      exact .inr (hds ▸ List.mem_cons_self ..)
  have hword (hs : s.isWord = true) : EndsWord (blanks ++ (s'.respelled ++ rest)) := by
    intro c hc
    exact (hhead c hc).imp id (parted_respelled.mark s' (h.isWord_eq_false hs) c)
  unfold Stops
  split
  · exact hword rfl
  · exact hword rfl
  · intro hc
    have hbegins : s'.begins = true := by simpa [Joins, ends] using h
    obtain hgap | hmem := hhead _ hc
    · exact absurd hgap (by decide)
    cases s' with
    | numeral _ => exact absurd (parted_respelled.word _ rfl _ hmem) (by decide)
    | name _ => exact absurd (parted_respelled.word _ rfl _ hmem) (by decide)
    | opening => exact absurd hmem (by decide)
    | sign op => cases op <;> exact absurd hmem (by decide)
    | closing | operator _ => cases hbegins
  · trivial

/-- Nothing need stand behind a symbol. -/
theorem stops_nil (s : Symbol) : s.Stops [] := by
  unfold Stops
  split
  · exact fun _ hc => nomatch hc
  · exact fun _ hc => nomatch hc
  · exact fun hc => nomatch hc
  · trivial

end Symbol

namespace Spaced

variable {gap : Char → Bool} {ss : List Symbol} {cs : List Char}

/-- A text begins with a character of a name or a mark. -/
theorem exists_eq_isTokenStart (h : Spaced gap Symbol.respelled ss cs) :
    ∃ c ds, cs = c :: ds ∧ (Naming.isNameChar c = true ∨ isMark c = true) := by
  obtain ⟨s, ss, rfl⟩ := h.exists_eq_cons
  obtain ⟨rest, rfl⟩ := h.exists_eq_append
  obtain ⟨c, ds, hds, hc⟩ := s.exists_respelled_eq_cons
  exact ⟨c, ds ++ rest, by rw [hds, List.cons_append], hc⟩

/-- The symbol before a text of others is ended by the gap between them or by the text. -/
theorem stops (h : Spaced gap Symbol.respelled ss cs) {s : Symbol}
    (hss : (s :: ss).IsChain Symbol.Joins) {blanks : List Char}
    (hblanks : ∀ c ∈ blanks, isGap c = true) : s.Stops (blanks ++ cs) := by
  obtain ⟨s', ss, rfl⟩ := h.exists_eq_cons
  obtain ⟨rest, rfl⟩ := h.exists_eq_append
  exact (List.isChain_cons_cons.1 hss).1.stops hblanks

/-- Where line ends are made alike, symbols stay and gaps stay gaps. -/
theorem unifyLineEnds (h : Spaced isGap Symbol.respelled ss cs) :
    Spaced isGap Symbol.respelled ss (Text.unifyLineEnds cs) := by
  have hreturn (s : Symbol) : '\r' ∉ s.respelled :=
    fun hmem => absurd (Symbol.parted_respelled.isBlank s _ hmem) (by decide)
  induction h with
  | last s =>
    rw [unifyLineEnds_of_not_mem (hreturn s)]
    exact .last s
  | more s hblanks h ih =>
    obtain ⟨c, ds, rfl, hc⟩ := h.exists_eq_isTokenStart
    have hline : (c :: ds).head? ≠ some '\n' :=
      fun hhead => ne_of_isTokenStart hc (by decide) (Option.some.inj hhead)
    obtain ⟨blanks, hgap, heq⟩ := exists_unifyLineEnds_gap hblanks hline
    rw [unifyLineEnds_append (hreturn s), heq]
    exact .more s hgap ih

/-- A text that is scanned to its end gives the tokens of its symbols. -/
theorem tokens_of_scanFrom (h : Spaced isGap Symbol.respelled ss cs)
    (hss : ss.IsChain Symbol.Joins) {steps : Nat} {opened : List Char}
    (hwhole : (scanFrom steps opened cs).2 = true) :
    (scanFrom steps opened cs).1 = ss.map Symbol.token := by
  -- what is scanned to its end is so from each of its symbols on, whatever brackets are open there
  induction h generalizing opened steps with
  | last s =>
    rw [← List.append_nil s.respelled] at hwhole ⊢
    obtain ⟨n, open', heq⟩ := Symbol.exists_scanFrom_respelled s.stops_nil hwhole
    rw [heq]
    cases n <;> rfl
  | more s hblanks h ih =>
    obtain ⟨n, open', heq⟩ := Symbol.exists_scanFrom_respelled (h.stops hss hblanks) hwhole
    rw [heq] at hwhole ⊢
    obtain ⟨c, ds, rfl, hc⟩ := h.exists_eq_isTokenStart
    obtain ⟨k, hgap⟩ := exists_scanFrom_gap hblanks hc hwhole
    rw [hgap] at hwhole ⊢
    rw [List.map_cons, ih hss.tail hwhole]

/-- A text on one line is scanned into the tokens of its symbols, if all of them can be read and
brackets are not nested too deep. -/
theorem scanFrom_eq (h : Spaced isSpacing Symbol.respelled ss cs) (hfits : ∀ s ∈ ss, s.Fits)
    (hss : ss.IsChain Symbol.Joins) {opened open' : List Char}
    (hnest : (ss.map Symbol.token).foldlM nest opened = some open') {steps : Nat}
    (hsteps : cs.length < steps) :
    scanFrom steps opened cs = (ss.map Symbol.token, open'.isEmpty) := by
  induction h generalizing opened steps with
  | last s =>
    obtain ⟨c, cs, hcs, -⟩ := s.exists_respelled_eq_cons
    obtain ⟨n, rfl⟩ : ∃ n, steps = n + 1 + 1 := by
      rw [hcs, List.length_cons] at hsteps
      exact ⟨steps - 2, by omega⟩
    have hopen : nest opened s.token = some open' := by
      simpa [List.foldlM_cons] using hnest
    have hscan := Symbol.scanFrom_respelled (hfits s (List.mem_cons_self ..)) s.stops_nil hopen
      (n + 1)
    rw [List.append_nil] at hscan
    rw [hscan]
    rfl
  | @more s blanks hblanks ss cs h ih =>
    obtain ⟨c, ds, hds, -⟩ := s.exists_respelled_eq_cons
    obtain ⟨n, rfl, hn⟩ : ∃ n, steps = n + blanks.length + 1 ∧ cs.length < n := by
      rw [hds, List.length_append, List.length_append, List.length_cons] at hsteps
      exact ⟨steps - blanks.length - 1, by omega, by omega⟩
    rw [List.map_cons, List.foldlM_cons] at hnest
    obtain ⟨inner, hopen, hrest⟩ := Option.bind_eq_some_iff.1 hnest
    have hstops := h.stops hss fun c hc => isGap_of_isSpacing (hblanks c hc)
    have hinner := ih (fun s hs => hfits s (List.mem_cons_of_mem _ hs)) hss.tail hrest hn
    rw [Symbol.scanFrom_respelled (hfits s (List.mem_cons_self ..)) hstops hopen,
      scanFrom_blanks hblanks, hinner]
    rfl

end Spaced

namespace ConstantExpr

variable {t : Nat} {e : ConstantExpr t} {cs : List Char}

/-- An expression on one line is scanned into its tokens, and nothing is left, if it keeps the
limits of the reader. -/
theorem scanned_eq (hfits : e.Fits) (h : Spaced isSpacing Symbol.respelled e.symbols cs) :
    scanned cs = (e.tokens, true) := by
  have hreturn : '\r' ∉ cs := by
    refine fun hmem => absurd rfl (h.forall_mem (p := (· ≠ '\r')) ?_ ?_ _ hmem)
    · rintro s - c hc rfl
      exact absurd (Symbol.parted_respelled.isBlank s _ hc) (by decide)
    · rintro c hc rfl
      cases hc
  have hskip : skipLines false false cs = some cs := by
    obtain ⟨c, ds, rfl, hc⟩ := h.exists_eq_isTokenStart
    exact skipLines_of_isTokenStart hc false false ds
  have hnest : e.tokens.foldlM nest [] = some [] :=
    e.foldlM_nest (by simpa using hfits.nesting_le)
  unfold scanned
  rw [unifyLineEnds_of_not_mem hreturn, hskip]
  exact h.scanFrom_eq hfits.fits e.isChain_symbols hnest (Nat.lt_succ_self _)

/-- An expression has no tokens but its own, however its text is laid out. -/
theorem eq_of_scan_eq_some (h : Spaced isGap Symbol.respelled e.symbols cs) {ts : List Token}
    (hscan : scan cs = some ts) : ts = e.tokens := by
  have hlines := h.unifyLineEnds
  have hskip : skipLines false false (unifyLineEnds cs) = some (unifyLineEnds cs) := by
    obtain ⟨c, ds, hds, hc⟩ := hlines.exists_eq_isTokenStart
    rw [hds]
    exact skipLines_of_isTokenStart hc false false ds
  have hscanned : scanned cs =
      scanFrom ((unifyLineEnds cs).length + 1) [] (unifyLineEnds cs) := by
    rw [scanned, hskip]
  have hwhole : (if (scanned cs).2 then some (scanned cs).1 else none) = some ts := hscan
  obtain ⟨hwhole, hts⟩ := Option.ite_none_right_eq_some.1 hwhole
  rw [hscanned] at hwhole hts
  rw [← Option.some.inj hts]
  exact hlines.tokens_of_scanFrom e.isChain_symbols hwhole

end ConstantExpr

end Bindery.Initializer
