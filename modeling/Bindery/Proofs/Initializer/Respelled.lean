import Bindery.Proofs.Initializer.Spaced

/-!
# Respelled constant expressions

A constant expression is respelled symbol by symbol: its characters become decimal numbers, its
numbers lose the letters behind them, octal numbers are marked, slashes are doubled, and all else
stays. Quotes enclose characters and nothing else, so the rule on them never takes a quote of one
character for that of another.

The number that a character becomes is the code of its last character before the closing quote. That
is the letter of an escape, whatever the escape stands for.
-/

namespace Bindery.Initializer

open Bindery.Text

/-! ### Numbers -/

namespace IntegerLiteral

/-- The text of a number without the letters behind it. -/
def narrowed (l : IntegerLiteral) : List Char :=
  l.radix.lead ++ l.digits

/-- The text of a number as it is read. -/
def respelled (l : IntegerLiteral) : List Char :=
  if l.radix = .octal ∧ l.digits ≠ [] then '0' :: 'o' :: l.digits else l.narrowed

/-- What holds of the digits of a radix holds of those of a number. -/
theorem forall_digits (l : IntegerLiteral) {r : Radix} (hr : l.radix = r) {p : Char → Prop}
    (h : ∀ c ∈ r.digits, p c) : ∀ c ∈ l.digits, p c :=
  fun c hc => h c (hr ▸ l.digits_subset hc)

theorem isNameChar_of_mem_digits (l : IntegerLiteral) :
    ∀ c ∈ l.digits, Naming.isNameChar c = true := by
  refine l.forall_digits rfl ?_
  cases l.radix with
  | hexadecimal capital => cases capital <;> decide
  | _ => decide

theorem isNameChar_of_mem_narrowed (l : IntegerLiteral) :
    ∀ c ∈ l.narrowed, Naming.isNameChar c = true := by
  have hall (r : Radix) : ∀ c ∈ r.lead, Naming.isNameChar c = true := by
    cases r with
    | hexadecimal capital => cases capital <;> decide
    | _ => decide
  intro c hc
  obtain hc | hc := List.mem_append.1 hc
  · exact hall l.radix c hc
  · exact l.isNameChar_of_mem_digits c hc

theorem narrowed_ne_nil (l : IntegerLiteral) : l.narrowed ≠ [] := by
  intro h
  obtain ⟨hlead, hdigits⟩ := List.append_eq_nil_iff.1 h
  refine l.digits_ne_nil (fun hr => ?_) hdigits
  rw [hr] at hlead
  cases hlead

end IntegerLiteral

/-- The letters behind digits are dropped. -/
theorem drop_letters {p : Char → Bool} (lead : List Char) {digits letters : List Char}
    (hdigits : ∀ c ∈ digits, p c = true) (hne : digits ≠ [])
    (hletters : ∀ c ∈ letters, p c = false ∧ isWidthLetter c = true) :
    (if !((digits ++ letters).takeWhile p).isEmpty && !((digits ++ letters).dropWhile p).isEmpty &&
        ((digits ++ letters).dropWhile p).all isWidthLetter
      then lead ++ (digits ++ letters).takeWhile p else lead ++ (digits ++ letters)) =
      lead ++ digits := by
  rw [List.takeWhile_append_of_pos hdigits, List.dropWhile_append_of_pos hdigits]
  cases letters with
  | nil => simp
  | cons c letters =>
    have hc : ¬p c = true := by simp [hletters c (List.mem_cons_self ..)]
    have hall : (c :: letters).all isWidthLetter = true :=
      List.all_eq_true.2 fun d hd => (hletters d hd).2
    rw [List.takeWhile_cons_of_neg hc, List.dropWhile_cons_of_neg hc, hall]
    simp [hne]

/-- What the rule on letters does to a word that is no hexadecimal number. -/
theorem dropWidth_of_forall {word : List Char} (h : ∀ c ∈ word, c ≠ 'x' ∧ c ≠ 'X') :
    dropWidth word = if !(word.takeWhile isDecimalDigit).isEmpty &&
        !(word.dropWhile isDecimalDigit).isEmpty &&
        (word.dropWhile isDecimalDigit).all isWidthLetter
      then [] ++ word.takeWhile isDecimalDigit else [] ++ word := by
  unfold dropWidth
  split
  · next x digits =>
    obtain ⟨hx, hX⟩ := h x (by simp)
    rw [if_neg (by simp [hx, hX])]
    rfl
  · rfl

namespace IntegerLiteral

theorem mem_suffix_width (l : IntegerLiteral) : ∀ c ∈ l.suffix,
    (isDecimalDigit c = false ∧ isWidthLetter c = true) ∧
      (isHexDigit c = false ∧ isWidthLetter c = true) ∧ c ≠ 'x' ∧ c ≠ 'X' := by
  have hall : ∀ c ∈ "uUlL".toList, (isDecimalDigit c = false ∧ isWidthLetter c = true) ∧
      (isHexDigit c = false ∧ isWidthLetter c = true) ∧ c ≠ 'x' ∧ c ≠ 'X' := by decide
  exact fun c hc => hall c (l.suffix_subset hc)

/-- Without the mark of a hexadecimal number there are decimal digits only before the letters. -/
theorem mem_narrowed_of_ne (l : IntegerLiteral) (hr : ∀ capital, l.radix ≠ .hexadecimal capital) :
    ∀ c ∈ l.narrowed, isDecimalDigit c = true ∧ c ≠ 'x' ∧ c ≠ 'X' := by
  intro c hc
  unfold narrowed at hc
  cases hradix : l.radix with
  | decimal =>
    have hdigits : ∀ c ∈ l.digits, isDecimalDigit c = true ∧ c ≠ 'x' ∧ c ≠ 'X' :=
      l.forall_digits hradix (by decide)
    rw [hradix] at hc
    exact hdigits c hc
  | octal =>
    have hdigits : ∀ c ∈ l.digits, isDecimalDigit c = true ∧ c ≠ 'x' ∧ c ≠ 'X' :=
      l.forall_digits hradix (by decide)
    rw [hradix] at hc
    obtain hc | hc := List.mem_append.1 hc
    · obtain rfl := List.mem_singleton.1 hc
      decide
    · exact hdigits c hc
  | hexadecimal capital => exact absurd hradix (hr capital)

/-- A number loses the letters behind it. -/
theorem dropWidth_text (l : IntegerLiteral) : dropWidth l.text = l.narrowed := by
  have hsuffix := l.mem_suffix_width
  by_cases hr : ∀ capital, l.radix ≠ .hexadecimal capital
  · have hnarrowed := l.mem_narrowed_of_ne hr
    have htext : ∀ c ∈ l.text, c ≠ 'x' ∧ c ≠ 'X' := by
      intro c hc
      obtain hc | hc := List.mem_append.1 hc
      · exact (hnarrowed c hc).2
      · exact (hsuffix c hc).2.2
    rw [dropWidth_of_forall htext]
    exact drop_letters [] (fun c hc => (hnarrowed c hc).1) l.narrowed_ne_nil
      fun c hc => (hsuffix c hc).1
  · obtain ⟨capital, hr⟩ := not_forall_not.1 hr
    have hdigits : ∀ c ∈ l.digits, isHexDigit c = true :=
      l.forall_digits hr (by cases capital <;> decide)
    have hdrop := drop_letters l.radix.lead hdigits (l.digits_ne_nil (by simp [hr]))
      fun c hc => (hsuffix c hc).2.1
    refine Eq.trans ?_ hdrop
    unfold text
    rw [hr]
    cases capital <;> rfl

/-- An octal number is marked, unless it is a zero without digits behind it. -/
theorem markOctal_narrowed (l : IntegerLiteral) : markOctal l.narrowed = l.respelled := by
  unfold respelled narrowed
  cases hr : l.radix with
  | decimal =>
    have hhead := l.head_ne_zero hr
    rw [if_neg (by simp)]
    change markOctal l.digits = l.digits
    unfold markOctal
    split
    · next h => exact absurd (congrArg List.head? h) hhead
    · rfl
  | octal =>
    have hdigits : l.digits.all isOctalDigit = true :=
      List.all_eq_true.2 (l.forall_digits hr (by decide))
    change (if !l.digits.isEmpty && l.digits.all isOctalDigit then _ else _) = _
    rw [hdigits]
    cases hl : l.digits <;> rfl
  | hexadecimal capital =>
    cases capital <;> rfl

end IntegerLiteral

/-! ### Numerals -/

/-- The digits of a number that is not zero are decimal digits without a zero before them, and stand
for the number. -/
theorem toDigits_spec {n : Nat} (hn : n ≠ 0) : Nat.toDigits 10 n ⊆ Radix.decimal.digits ∧
    (Nat.toDigits 10 n).head? ≠ some '0' ∧
    Nat.ofDigits 10 ((Nat.toDigits 10 n).reverse.map IntegerLiteral.digit) = n := by
  have hdigit : ∀ d < 10, Nat.digitChar d ∈ Radix.decimal.digits ∧
      (d ≠ 0 → Nat.digitChar d ≠ '0') ∧ IntegerLiteral.digit (Nat.digitChar d) = d := by decide
  induction n using Nat.strongRecOn with
  | ind n ih =>
    by_cases hlt : n < 10
    · obtain ⟨hmem, hzero, hvalue⟩ := hdigit n hlt
      rw [Nat.toDigits_of_lt_base hlt]
      refine ⟨by simpa using hmem, by simpa using hzero hn, ?_⟩
      simp [hvalue]
    · obtain ⟨hmem, -, hvalue⟩ := hdigit (n % 10) (Nat.mod_lt _ (by decide))
      obtain ⟨hsub, hhead, hrest⟩ := ih (n / 10) (by omega) (by omega)
      rw [Nat.toDigits_of_base_le (by decide) (by omega)]
      refine ⟨List.append_subset.2 ⟨hsub, by simpa using hmem⟩, ?_, ?_⟩
      · rwa [List.head?_append_of_ne_nil _ Nat.toDigits_ne_nil]
      · rw [List.reverse_append, List.map_append, List.reverse_singleton, List.map_singleton,
          List.singleton_append, Nat.ofDigits_cons, hrest, hvalue]
        omega

namespace IntegerLiteral

/-- The shortest way to write a number with decimal digits. -/
def ofNat (n : Nat) : IntegerLiteral :=
  if hn : n = 0 then ⟨.octal, [], [], by simp, by simp, by simp, by simp⟩
  else ⟨.decimal, Nat.toDigits 10 n, [], (toDigits_spec hn).1, fun _ => Nat.toDigits_ne_nil,
    fun _ => (toDigits_spec hn).2.1, by simp⟩

theorem text_ofNat (n : Nat) : (ofNat n).text = (toString n).toList := by
  have hlist : (toString n).toList = Nat.toDigits 10 n := Nat.toList_repr
  unfold ofNat
  split
  · next hn => rw [hn]; rfl
  · rw [hlist]
    exact List.append_nil _

theorem value_ofNat (n : Nat) : (ofNat n).value = n := by
  unfold ofNat
  split
  · next hn => rw [hn]; rfl
  · next hn => exact (toDigits_spec hn).2.2

end IntegerLiteral

namespace Numeral

/-- A numeral as a word, if integers are spelled in some way. A character becomes the number of its
letter. -/
def worded (f : IntegerLiteral → List Char) : Numeral → List Char
  | integer l => f l
  | binary l => l.text
  | character q => f (.ofNat q.letter.toNat)

end Numeral

namespace BinaryLiteral

theorem isNameChar_of_mem_text (l : BinaryLiteral) : ∀ c ∈ l.text, Naming.isNameChar c = true := by
  have hdigits : ∀ c ∈ ['0', '1'], Naming.isNameChar c = true := by decide
  have hsuffix : ∀ c ∈ "uUlL".toList, Naming.isNameChar c = true := by decide
  intro c hc
  simp only [text, List.mem_cons, List.mem_append] at hc
  obtain rfl | rfl | hc | hc := hc
  · decide
  · cases l.capital <;> decide
  · exact hdigits c (l.digits_subset hc)
  · exact hsuffix c (l.suffix_subset hc)

/-- Binary numbers are kept by the rules for numbers, whatever letters stand behind them. -/
theorem kept (l : BinaryLiteral) : dropWidth l.text = l.text ∧ markOctal l.text = l.text := by
  have hb {b : Char} (hb : b = if l.capital then 'B' else 'b') : b ≠ 'x' ∧ b ≠ 'X' ∧
      isDecimalDigit b = false ∧ isWidthLetter b = false ∧ isOctalDigit b = false := by
    subst hb
    cases l.capital <;> decide
  unfold text
  generalize hletter : (if l.capital then 'B' else 'b') = b
  obtain ⟨hx, hX, hdecimal, hwidth, hoctal⟩ := hb hletter.symm
  have hzero : isDecimalDigit '0' = true := by decide
  constructor
  · unfold dropWidth
    simp [hx, hX, hzero, hdecimal, hwidth]
  · unfold markOctal
    simp [hoctal]

end BinaryLiteral

/-! ### Symbols -/

namespace Symbol

/-- Names are no numbers: they are kept by the rules for numbers. -/
theorem kept_of_isValid {n : String} (h : Naming.isValid n = true) :
    dropWidth n.toList = n.toList ∧ markOctal n.toList = n.toList := by
  obtain ⟨hne, hall, hdigit, -⟩ := Naming.isValid_iff.1 h
  obtain ⟨c, cs, hcs⟩ := List.exists_cons_of_ne_nil hne
  rw [hcs] at hall hdigit ⊢
  have hc : isAsciiDigit c = false := hdigit
  have hzero : c ≠ '0' := by
    rintro rfl
    cases hc
  have hlt := toNat_lt_of_isNameChar (List.all_eq_true.1 hall c (List.mem_cons_self ..))
  have hdecimal : ¬isDecimalDigit c = true := by
    rw [isDecimalDigit, if_pos hlt, hc]
    decide
  constructor
  · unfold dropWidth
    split
    · next h => exact absurd (List.cons.inj h).1 hzero
    · simp [List.takeWhile_cons_of_neg hdecimal]
  · unfold markOctal
    split
    · next h => exact absurd (List.cons.inj h).1 hzero
    · rfl

/-- The text of a symbol, with numerals as words. -/
def worded (f : IntegerLiteral → List Char) : Symbol → List Char :=
  spelled (Numeral.worded f)

/-- The text of a symbol as it is read. -/
def respelled (s : Symbol) : List Char :=
  doubleSlashes (s.worded IntegerLiteral.respelled)

/-- Whatever words integers are spelled with, symbols are parted. -/
theorem parted_worded {f : IntegerLiteral → List Char} (hne : ∀ l, f l ≠ [])
    (hword : ∀ l, ∀ c ∈ f l, Naming.isNameChar c = true) : Parted (worded f) where
  ne_nil s := by
    cases s with
    | numeral n =>
      cases n with
      | integer l => exact hne l
      | binary l => exact List.cons_ne_nil _ _
      | character q => exact hne _
    | name n => exact (Naming.isValid_iff.1 n.2).1
    | sign op => cases op <;> exact List.cons_ne_nil _ _
    | operator op =>
      cases op with
      | integer op => cases op <;> exact List.cons_ne_nil _ _
      | _ => exact List.cons_ne_nil _ _
    | _ => exact List.cons_ne_nil _ _
  word s hs := by
    cases s with
    | numeral n =>
      cases n with
      | integer l => exact hword l
      | binary l => exact l.isNameChar_of_mem_text
      | character q => exact hword _
    | name n => exact List.all_eq_true.1 (Naming.isValid_iff.1 n.2).2.1
    | _ => cases hs
  mark s hs := by
    have hsign : ∀ op : UnaryOp, ∀ c ∈ op.mark.toList, isMark c = true := by
      intro op
      cases op <;> decide
    have hoperator : ∀ op : ConstantOp, ∀ c ∈ op.mark.toList, isMark c = true := by
      rintro (op | _ | _)
      · cases op <;> decide
      · decide
      · decide
    cases s with
    | numeral _ | name _ => cases hs
    | opening => exact show ∀ c ∈ ['('], isMark c = true by decide
    | closing => exact show ∀ c ∈ [')'], isMark c = true by decide
    | sign op => exact hsign op
    | operator op => exact hoperator op

theorem parted_text : Parted (worded IntegerLiteral.text) := by
  refine parted_worded (fun l h => ?_) fun l c hc => ?_
  · exact l.narrowed_ne_nil (List.append_eq_nil_iff.1 h).1
  · obtain hc | hc := List.mem_append.1 hc
    · exact l.isNameChar_of_mem_narrowed c hc
    · have hall : ∀ c ∈ "uUlL".toList, Naming.isNameChar c = true := by decide
      exact hall c (l.suffix_subset hc)

theorem parted_narrowed : Parted (worded IntegerLiteral.narrowed) :=
  parted_worded (·.narrowed_ne_nil) (·.isNameChar_of_mem_narrowed)

theorem parted_marked : Parted (worded IntegerLiteral.respelled) := by
  refine parted_worded (fun l h => ?_) fun l c hc => ?_
  all_goals unfold IntegerLiteral.respelled at *; split at *
  · cases h
  · exact l.narrowed_ne_nil h
  · simp only [List.mem_cons] at hc
    obtain rfl | rfl | hc := hc
    · decide
    · decide
    · exact l.isNameChar_of_mem_digits c hc
  · exact l.isNameChar_of_mem_narrowed c hc

/-- No slash is in a word. -/
theorem respelled_of_isWord {s : Symbol} (hs : s.isWord = true) :
    s.respelled = s.worded IntegerLiteral.respelled :=
  doubleSlashes_of_not_mem fun hmem => absurd (parted_marked.word s hs _ hmem) (by decide)

/-- A mark stays a mark if its slashes are doubled. -/
theorem parted_respelled : Parted respelled where
  ne_nil s h := by
    obtain ⟨c, cs, hcs⟩ := List.exists_cons_of_ne_nil (parted_marked.ne_nil s)
    rw [respelled, hcs, doubleSlashes, List.flatMap_cons] at h
    split at h <;> cases h
  word s hs := respelled_of_isWord hs ▸ parted_marked.word s hs
  mark s hs c hc := by
    obtain ⟨d, hd, hc⟩ := List.mem_flatMap.1 hc
    split at hc
    · obtain rfl : c = '/' := by simpa using hc
      decide
    · obtain rfl := List.mem_singleton.1 hc
      exact parted_marked.mark s hs c hd

/-- Either a symbol is a character in quotes, or its text is that with words. -/
theorem text_eq (s : Symbol) :
    (∃ q, s = .numeral (.character q)) ∨ s.text = s.worded IntegerLiteral.text := by
  cases s with
  | numeral n =>
    cases n with
    | character q => exact .inl ⟨q, rfl⟩
    | _ => exact .inr rfl
  | _ => exact .inr rfl

theorem text_ne_nil (s : Symbol) : s.text ≠ [] := by
  obtain ⟨q, rfl⟩ | h := s.text_eq
  · exact List.cons_ne_nil _ _
  · exact h ▸ parted_text.ne_nil s

/-- No blank stands at either end of a symbol, though a character may be a blank. -/
theorem isBlank_of_ends (s : Symbol) : (∀ c ∈ s.text.head?, isBlank c = false) ∧
    ∀ c ∈ s.text.getLast?, isBlank c = false := by
  obtain ⟨q, rfl⟩ | h := s.text_eq
  · have hquote : isBlank '\'' = false := by decide
    have hlast : CharacterLiteral.text q = ('\'' :: q.inner) ++ ['\''] := rfl
    constructor
    · intro c hc
      obtain rfl : '\'' = c := Option.some.inj hc
      exact hquote
    · intro c hc
      change c ∈ q.text.getLast? at hc
      rw [hlast, List.getLast?_concat] at hc
      obtain rfl : '\'' = c := Option.some.inj hc
      exact hquote
  · rw [h]
    exact ⟨fun c hc => parted_text.isBlank s c (List.mem_of_mem_head? hc),
      fun c hc => parted_text.isBlank s c (List.mem_of_mem_getLast? hc)⟩

/-- A character becomes the number of its letter, and no other symbol has quotes. -/
theorem respellQuoted_text (s : Symbol) (rest : List Char) :
    respellQuoted (s.text ++ rest) = s.worded IntegerLiteral.text ++ respellQuoted rest := by
  obtain ⟨q, rfl⟩ | h := s.text_eq
  · have hnumber : worded IntegerLiteral.text (.numeral (.character q)) =
        (toString q.letter.toNat).toList := IntegerLiteral.text_ofNat _
    rw [hnumber]
    cases q with
    | plain c hc =>
      simp only [List.mem_cons, List.not_mem_nil, or_false, not_or] at hc
      obtain ⟨-, hslash, hline⟩ := hc
      -- it is no backslash, so the quotes are not taken for those of an escape
      change respellQuoted ('\'' :: c :: '\'' :: rest) = _
      rw [respellQuoted, if_neg hline]
      · rfl
      · exact fun _ h => absurd h hslash
    | escape e =>
      have hline : e.letter ≠ '\n' := by
        cases e with
        | octal d => revert d; decide
        | _ => decide
      change respellQuoted ('\'' :: '\\' :: e.letter :: '\'' :: rest) = _
      rw [respellQuoted, if_neg hline]
      rfl
  · have hquote : '\'' ∉ s.worded IntegerLiteral.text :=
      not_mem_of_isPlain (by decide) (parted_text.isPlain s)
    rw [h, respellQuoted_append hquote]

end Symbol

namespace Spaced

variable {gap : Char → Bool} {ss : List Symbol} {cs : List Char}

/-- The rule on quotes respells characters. -/
theorem unquoted (h : Spaced gap Symbol.text ss cs) (hgap : ∀ c, gap c = true → isGap c = true) :
    Spaced gap (Symbol.worded IntegerLiteral.text) ss (respellQuoted cs) := by
  induction h with
  | last s =>
    have hs := s.respellQuoted_text []
    have hnil : respellQuoted [] = [] := rfl
    rw [List.append_nil, hnil, List.append_nil] at hs
    rw [hs]
    exact .last s
  | @more s blanks hblanks ss cs _ ih =>
    have hquote : '\'' ∉ blanks := fun hmem => absurd (hgap _ (hblanks _ hmem)) (by decide)
    rw [s.respellQuoted_text, respellQuoted_append hquote]
    exact .more s hblanks ih

/-- The rules on words respell numbers. -/
theorem marked (h : Spaced gap (Symbol.worded IntegerLiteral.text) ss cs)
    (hgap : ∀ c, gap c = true → isGap c = true) (hss : ss.IsChain Symbol.Joins) :
    Spaced gap (Symbol.worded IntegerLiteral.respelled) ss
      (Text.mapWords markOctal (Text.mapWords dropWidth cs)) := by
  have hnarrowed : (fun s : Symbol => if s.isWord then dropWidth (s.worded IntegerLiteral.text)
      else s.worded IntegerLiteral.text) = Symbol.worded IntegerLiteral.narrowed := by
    funext s
    cases s with
    | numeral n =>
      cases n with
      | integer l => exact l.dropWidth_text
      | binary l => exact l.kept.1
      | character q => exact IntegerLiteral.dropWidth_text _
    | name n => exact (Symbol.kept_of_isValid n.2).1
    | _ => rfl
  have hmarked : (fun s : Symbol => if s.isWord then markOctal (s.worded IntegerLiteral.narrowed)
      else s.worded IntegerLiteral.narrowed) = Symbol.worded IntegerLiteral.respelled := by
    funext s
    cases s with
    | numeral n =>
      cases n with
      | integer l => exact l.markOctal_narrowed
      | binary l => exact l.kept.2
      | character q => exact IntegerLiteral.markOctal_narrowed _
    | name n => exact (Symbol.kept_of_isValid n.2).2
    | _ => rfl
  have hfirst := h.mapWords hgap Symbol.parted_text hss (f := dropWidth)
  rw [hnarrowed] at hfirst
  have hsecond := hfirst.mapWords hgap Symbol.parted_narrowed hss (f := markOctal)
  rwa [hmarked] at hsecond

/-- A constant expression is read as its symbols, respelled, with the gaps it was written with. -/
theorem readable {text : String} (h : Spaced gap Symbol.text ss text.toList)
    (hgap : ∀ c, gap c = true → isGap c = true) (hss : ss.IsChain Symbol.Joins) :
    Spaced gap Symbol.respelled ss (readable text) := by
  have hstrip := h.strip_eq Symbol.text_ne_nil (fun s => s.isBlank_of_ends.1)
    fun s => s.isBlank_of_ends.2
  have hmarked := (h.unquoted hgap).marked hgap hss
  have hcolon := not_mem_of_isPlain (c := ':') (by decide)
    (hmarked.isPlain hgap Symbol.parted_marked)
  unfold Initializer.readable respell
  rw [hstrip, joinScopes_of_not_mem hcolon]
  exact hmarked.doubleSlashes hgap

end Spaced

end Bindery.Initializer
