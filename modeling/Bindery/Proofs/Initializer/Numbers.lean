import Bindery.Proofs.Initializer.Respelled

/-!
# How numerals are read

A respelled numeral is read as its number wherever a gap or a mark follows it. Two kinds of numerals
are not read at all: a decimal number that is longer than it may be, and a binary one with letters
behind it, which the rule on such letters does not drop.
-/

namespace Bindery.Initializer

open Bindery.Text

/-- The number that a numeral is read as. Of a character that is its last one before the closing
quote. -/
def Numeral.number : Numeral → Nat
  | integer l => l.value
  | binary l => l.value
  | character q => q.letter.toNat

/-! ### Where words end -/

/-- The characters that gaps and marks consist of. -/
def wordEnds : List Char :=
  " \t\x0c\n\r\x0b".toList ++ "()+-~*/%<>&^|".toList

/-- A text is over or goes on with a gap or a mark. -/
def EndsWord (rest : List Char) : Prop :=
  ∀ c ∈ rest.head?, isGap c = true ∨ isMark c = true

namespace EndsWord

variable {rest : List Char}

/-- What holds of every gap and every mark holds of the character that ends a word. -/
theorem of_forall (h : EndsWord rest) {p : Char → Bool} (hall : ∀ c ∈ wordEnds, p c = true) :
    ∀ c ∈ rest.head?, p c = true := by
  intro c hc
  obtain hgap | hmark := h c hc
  · exact of_isGap (fun c hc => hall c (List.mem_append_left _ hc)) hgap
  · exact of_isMark (fun c hc => hall c (List.mem_append_right _ hc)) hmark

theorem any_head? (h : EndsWord rest) {p : Char → Bool} (hall : ∀ c ∈ wordEnds, p c = false) :
    rest.head?.any p = false := by
  have hnot := h.of_forall (p := fun c => !p c) (by simpa using hall)
  cases hrest : rest.head? with
  | none => rfl
  | some c => simpa using hnot c hrest

theorem endsNumber (h : EndsWord rest) : endsNumber rest = true := by
  unfold Initializer.endsNumber
  rw [h.any_head? (by decide)]
  rfl

theorem readFraction (h : EndsWord rest) : readFraction rest = some (false, rest) := by
  unfold Initializer.readFraction
  split
  · next cs => exact absurd (h.of_forall (p := (· != '.')) (by decide) '.' rfl) (by decide)
  · rfl

theorem readExponent (h : EndsWord rest) : readExponent rest = some (false, rest) := by
  unfold Initializer.readExponent
  split
  · next e cs =>
    have he := h.of_forall (p := fun c => !decide (c = 'e' ∨ c = 'E')) (by decide) e rfl
    rw [if_neg (by simpa using he)]
  · rfl

end EndsWord

/-! ### Numbers -/

/-- Digits are read up to what is none. -/
theorem groupedDigits_append {p : Char → Bool} {digits rest : List Char}
    (hdigits : ∀ c ∈ digits, p c = true) (hp : p '_' = false)
    (hrest : ∀ c ∈ rest.head?, p c = false ∧ c ≠ '_') :
    groupedDigits p (digits ++ rest) = some (digits, rest) := by
  induction digits with
  | nil =>
    cases rest with
    | nil => rfl
    | cons c cs =>
      obtain ⟨hc, hne⟩ := hrest c rfl
      simp [groupedDigits, hne, hc]
  | cons c digits ih =>
    have hc : p c = true := hdigits c (List.mem_cons_self ..)
    have hne : c ≠ '_' := by
      rintro rfl
      rw [hp] at hc
      cases hc
    have hrest := ih fun d hd => hdigits d (List.mem_cons_of_mem _ hd)
    simp [groupedDigits, hne, hc, hrest]

/-- Digits are read up to where a word ends. -/
theorem EndsWord.groupedDigits {rest : List Char} (h : EndsWord rest) {p : Char → Bool}
    {digits : List Char} (hdigits : ∀ c ∈ digits, p c = true) (hp : p '_' = false)
    (hall : ∀ c ∈ wordEnds, p c = false) :
    groupedDigits p (digits ++ rest) = some (digits, rest) := by
  refine groupedDigits_append hdigits hp fun c hc => ⟨?_, ?_⟩
  · simpa using h.of_forall (p := fun c => !p c) (by simpa using hall) c hc
  · simpa using h.of_forall (p := (· != '_')) (by decide) c hc

theorem digitsNumber_eq (base : Nat) (ds : List Char) :
    digitsNumber base ds = Nat.ofDigits base (ds.reverse.map digitValue) := by
  induction ds using List.reverseRecOn with
  | nil => rfl
  | append_singleton ds d ih =>
    unfold digitsNumber at ih ⊢
    rw [List.foldl_append, List.foldl_cons, List.foldl_nil, ih, List.reverse_append,
      List.reverse_singleton, List.singleton_append, List.map_cons, Nat.ofDigits_cons]
    ring

/-- Digits are read as the number they stand for. -/
theorem digitsNumber_eq_ofDigits (base : Nat) {digits : List Char}
    (h : ∀ c ∈ digits, digitValue c = IntegerLiteral.digit c) :
    digitsNumber base digits = Nat.ofDigits base (digits.reverse.map IntegerLiteral.digit) := by
  rw [digitsNumber_eq]
  congr 1
  exact List.map_congr_left fun c hc => h c (List.mem_reverse.1 hc)

/-- Digits behind the mark of a base are read as their number. -/
theorem readBased_digits (base : Nat) {p : Char → Bool} {digits rest : List Char}
    (hrest : EndsWord rest) (hne : digits ≠ []) (hdigits : ∀ c ∈ digits, p c = true)
    (hp : p '_' = false) (hall : ∀ c ∈ wordEnds, p c = false) :
    readBased base p (digits ++ rest) = some (some (digitsNumber base digits), rest) := by
  have hdigit : rest.head?.any isAsciiDigit = false := hrest.any_head? (by decide)
  unfold readBased
  rw [hrest.groupedDigits hdigits hp hall]
  simp [hdigit, hrest.endsNumber, hne]

/-- Decimal digits are read as a plain number, if they can be. -/
theorem readDecimal_eq {digits rest : List Char} (hrest : EndsWord rest)
    (hdigits : ∀ c ∈ digits, isAsciiDigit c = true) :
    readDecimal (digits ++ rest) = (plainNumber? digits rest).map fun value => (value, rest) := by
  have himaginary : rest.head?.any (fun c => c = 'j' ∨ c = 'J') = false :=
    hrest.any_head? (by decide)
  unfold readDecimal
  rw [hrest.groupedDigits hdigits (by decide) (by decide)]
  simp only [Option.bind_eq_bind, Option.bind_some, hrest.readFraction, hrest.readExponent,
    himaginary]
  simp [hrest.endsNumber]

/-- Decimal digits are read as their number, which is zero if they begin with a zero. -/
theorem readDecimal_digits {digits rest : List Char} (hrest : EndsWord rest)
    (hdigits : ∀ c ∈ digits, isAsciiDigit c = true)
    (hzero : digits.head? = some '0' → digitsNumber 10 digits = 0)
    (hlength : digits.length ≤ digitLimit) :
    readDecimal (digits ++ rest) = some (some (digitsNumber 10 digits), rest) := by
  have hvalue : plainNumber? digits rest = some (some (digitsNumber 10 digits)) := by
    unfold plainNumber? decimalValue?
    rw [if_neg]
    rintro ⟨hne, hhead | hlong⟩
    · exact hne (hzero hhead)
    · omega
  rw [readDecimal_eq hrest hdigits, hvalue]
  rfl

namespace IntegerLiteral

theorem digitsNumber_digits (l : IntegerLiteral) :
    digitsNumber l.radix.base l.digits = l.value := by
  refine digitsNumber_eq_ofDigits _ (l.forall_digits rfl ?_)
  cases l.radix with
  | hexadecimal capital => cases capital <;> decide
  | _ => decide

theorem fits_ofNat {n digits : Nat} (hn : n < 10 ^ digits) (hpos : 0 < digits)
    (hdigits : digits ≤ digitLimit) : (ofNat n).Fits := by
  unfold ofNat Fits
  split
  · exact fun _ => Nat.zero_le _
  · exact fun _ => Nat.le_trans ((Nat.length_toDigits_le_iff (by decide) hpos).2 hn) hdigits

/-- A zero that nothing follows is read as a decimal number. -/
theorem readNumber_zero {rest : List Char} (hrest : EndsWord rest) :
    readNumber ('0' :: rest) = some (some 0, rest) := by
  have hread := readDecimal_digits hrest (show ∀ c ∈ ['0'], isAsciiDigit c = true by decide)
    (fun _ => rfl) (by decide)
  unfold readNumber
  split
  · next x digits h =>
    obtain rfl : rest = x :: digits := (List.cons.inj h).2
    have hx := hrest.of_forall (p := fun c => !decide (c = 'x' ∨ c = 'X') &&
      !decide (c = 'o' ∨ c = 'O') && !decide (c = 'b' ∨ c = 'B')) (by decide) x rfl
    simp only [Bool.and_eq_true, Bool.not_eq_true', decide_eq_false_iff_not] at hx
    obtain ⟨⟨hx, ho⟩, hb⟩ := hx
    rw [if_neg hx, if_neg ho, if_neg hb]
    exact hread
  · exact hread

/-- A number that does not begin with a zero is read by its decimal digits. -/
theorem readNumber_eq_readDecimal (l : IntegerLiteral) (hr : l.radix = .decimal)
    (rest : List Char) : readNumber (l.digits ++ rest) = readDecimal (l.digits ++ rest) := by
  have hhead := l.head_ne_zero hr
  unfold readNumber
  split
  · next h =>
    obtain ⟨c, cs, hcs⟩ := List.exists_cons_of_ne_nil (l.digits_ne_nil (by simp [hr]))
    rw [hcs] at h hhead
    exact absurd (congrArg some (List.cons.inj h).1) hhead
  · rfl

/-- The digits of a decimal number are read as the integer it stands for. -/
theorem readNumber_decimal (l : IntegerLiteral) (hr : l.radix = .decimal) (hl : l.Fits)
    {rest : List Char} (hrest : EndsWord rest) :
    readNumber (l.digits ++ rest) = some (some l.value, rest) := by
  have hread := readDecimal_digits hrest (l.forall_digits hr (by decide))
    (fun h => absurd h (l.head_ne_zero hr)) (hl hr)
  have hnumber := l.digitsNumber_digits
  rw [hr, Radix.base] at hnumber
  rw [l.readNumber_eq_readDecimal hr, hread, hnumber]

/-- A number is read as the integer it stands for. -/
theorem readNumber_respelled (l : IntegerLiteral) (hl : l.Fits) {rest : List Char}
    (hrest : EndsWord rest) :
    readNumber (l.respelled ++ rest) = some (some l.value, rest) := by
  unfold respelled narrowed
  cases hr : l.radix with
  | decimal =>
    rw [if_neg (by simp)]
    exact l.readNumber_decimal hr hl hrest
  | octal =>
    by_cases hne : l.digits = []
    · rw [if_neg (by simp [hne]), value, hne]
      exact readNumber_zero hrest
    · have hdigits : ∀ c ∈ l.digits, isOctalDigit c = true := l.forall_digits hr (by decide)
      have hread := readBased_digits 8 hrest hne hdigits (by decide) (by decide)
      have hnumber := l.digitsNumber_digits
      rw [hr, Radix.base] at hnumber
      rw [hnumber] at hread
      rw [if_pos ⟨rfl, hne⟩]
      exact hread
  | hexadecimal capital =>
    have hdigits : ∀ c ∈ l.digits, isHexDigit c = true :=
      l.forall_digits hr (by cases capital <;> decide)
    have hread := readBased_digits 16 hrest (l.digits_ne_nil (by simp [hr])) hdigits (by decide)
      (by decide)
    have hnumber := l.digitsNumber_digits
    rw [hr, Radix.base] at hnumber
    rw [hnumber] at hread
    cases capital <;> exact hread

/-- Decimal digits that do not begin with a zero do not stand for zero. -/
theorem digitsNumber_ne_zero (l : IntegerLiteral) (hr : l.radix = .decimal) :
    digitsNumber 10 l.digits ≠ 0 := by
  obtain ⟨c, cs, hcs⟩ := List.exists_cons_of_ne_nil (l.digits_ne_nil (by simp [hr]))
  have hhead := l.head_ne_zero hr
  rw [hcs] at hhead
  have hall : ∀ c ∈ Radix.decimal.digits, c = '0' ∨ 0 < digitValue c := by decide
  have hc : 0 < digitValue c :=
    (l.forall_digits hr hall c (hcs ▸ List.mem_cons_self ..)).resolve_left fun h => hhead (h ▸ rfl)
  rw [digitsNumber_eq, hcs, List.reverse_cons, List.map_append, Nat.ofDigits_append,
    List.map_singleton, Nat.ofDigits_singleton]
  have hpow : 0 < 10 ^ (cs.reverse.map digitValue).length * digitValue c :=
    Nat.mul_pos (Nat.pow_pos (by decide)) hc
  omega

/-- A decimal number that is longer than it may be is not read. -/
theorem readNumber_long (l : IntegerLiteral) (hl : ¬l.Fits) {rest : List Char}
    (hrest : EndsWord rest) : readNumber (l.respelled ++ rest) = none := by
  obtain ⟨hr, hlong⟩ := Classical.not_imp.1 hl
  have hspelled : l.respelled = l.digits := by
    rw [respelled, narrowed, hr, if_neg (by simp)]
    rfl
  have hvalue : plainNumber? l.digits rest = none := by
    unfold plainNumber? decimalValue?
    rw [if_pos ⟨l.digitsNumber_ne_zero hr, .inr (Nat.lt_of_not_le hlong)⟩]
    exact if_neg fun h => l.head_ne_zero hr h.1
  rw [hspelled, l.readNumber_eq_readDecimal hr,
    readDecimal_eq hrest (l.forall_digits hr (by decide)), hvalue]
  rfl

/-- What is read as a number begins with a digit. -/
theorem exists_respelled_eq_cons (l : IntegerLiteral) :
    ∃ c cs, l.respelled = c :: cs ∧ isAsciiDigit c = true := by
  unfold respelled narrowed
  cases hr : l.radix with
  | decimal =>
    obtain ⟨c, cs, hcs⟩ := List.exists_cons_of_ne_nil (l.digits_ne_nil (by simp [hr]))
    have hdigits : ∀ c ∈ l.digits, isAsciiDigit c = true := l.forall_digits hr (by decide)
    exact ⟨c, cs, by rw [if_neg (by simp), hcs]; rfl, hdigits c (by simp [hcs])⟩
  | octal =>
    split
    · exact ⟨_, _, rfl, by decide⟩
    · exact ⟨_, _, rfl, by decide⟩
  | hexadecimal capital => exact ⟨_, _, by rw [if_neg (by simp)]; rfl, by decide⟩

end IntegerLiteral

namespace BinaryLiteral

/-- Whether a character is a digit of a binary number. -/
private def isBinaryDigit (c : Char) : Bool :=
  c == '0' || c == '1'

theorem readNumber_text (l : BinaryLiteral) (rest : List Char) :
    readNumber (l.text ++ rest) = readBased 2 isBinaryDigit (l.digits ++ (l.suffix ++ rest)) := by
  rw [← List.append_assoc]
  unfold text
  cases l.capital <;> rfl

theorem isBinaryDigit_of_mem (l : BinaryLiteral) : ∀ c ∈ l.digits, isBinaryDigit c = true := by
  have hall : ∀ c ∈ ['0', '1'], isBinaryDigit c = true := by decide
  exact fun c hc => hall c (l.digits_subset hc)

/-- A binary number without letters behind it is read as the integer it stands for. -/
theorem readNumber_eq (l : BinaryLiteral) (hl : l.suffix = []) {rest : List Char}
    (hrest : EndsWord rest) : readNumber (l.text ++ rest) = some (some l.value, rest) := by
  have hvalue : digitsNumber 2 l.digits = l.value := by
    have hall : ∀ c ∈ ['0', '1'], digitValue c = IntegerLiteral.digit c := by decide
    exact digitsNumber_eq_ofDigits 2 fun c hc => hall c (l.digits_subset hc)
  rw [l.readNumber_text, hl, List.nil_append, readBased_digits 2 hrest l.digits_ne_nil
    l.isBinaryDigit_of_mem (by decide) (by decide), hvalue]

/-- A binary number with letters behind it is not read. -/
theorem readNumber_suffix (l : BinaryLiteral) (hl : l.suffix ≠ []) (rest : List Char) :
    readNumber (l.text ++ rest) = none := by
  obtain ⟨c, cs, hcs⟩ := List.exists_cons_of_ne_nil hl
  -- no word that may stand directly behind a number begins with such a letter
  have hall : ∀ c ∈ "uUlL".toList, (isBinaryDigit c = false ∧ c ≠ '_') ∧ isNamePart c = true ∧
      ∀ w ∈ wordsAfterNumber, w.head? ≠ some c := by decide
  obtain ⟨hstop, hname, hwords⟩ := hall c (l.suffix_subset (hcs ▸ List.mem_cons_self ..))
  have hends : endsNumber (c :: (cs ++ rest)) = false := by
    have hany : wordsAfterNumber.any (·.isPrefixOf (c :: (cs ++ rest))) = false := by
      rw [List.any_eq_false]
      intro w hw hprefix
      obtain ⟨ds, hds⟩ := List.isPrefixOf_iff_prefix.1 hprefix
      have hne : ∀ w ∈ wordsAfterNumber, w ≠ [] := by decide
      have hhead := congrArg List.head? hds
      rw [List.head?_append_of_ne_nil _ (hne w hw)] at hhead
      exact hwords w hw hhead
    rw [endsNumber, hany]
    simp [hname]
  have hgrouped : groupedDigits isBinaryDigit (l.digits ++ c :: (cs ++ rest)) =
      some (l.digits, c :: (cs ++ rest)) :=
    groupedDigits_append l.isBinaryDigit_of_mem (by decide) fun d hd =>
      (Option.some.inj hd : c = d) ▸ hstop
  rw [l.readNumber_text, hcs, List.cons_append]
  unfold readBased
  rw [hgrouped]
  simp [hends]

end BinaryLiteral

namespace Numeral

/-- A character has a number of no more digits than there may be. -/
theorem fits_letter (q : CharacterLiteral) : (IntegerLiteral.ofNat q.letter.toNat).Fits := by
  have hlt : q.letter.toNat < 10 ^ 7 := by
    have hvalid : q.letter.toNat < 0xd800 ∨ 0xdfff < q.letter.toNat ∧ q.letter.toNat < 0x110000 :=
      q.letter.valid
    omega
  exact IntegerLiteral.fits_ofNat hlt (by decide) (by decide)

/-- A numeral is read as its number. -/
theorem readNumber_worded {n : Numeral} (hn : n.Fits) {rest : List Char} (hrest : EndsWord rest) :
    readNumber (n.worded IntegerLiteral.respelled ++ rest) = some (some n.number, rest) := by
  cases n with
  | integer l => exact l.readNumber_respelled hn hrest
  | binary l => exact l.readNumber_eq hn hrest
  | character q =>
    have hread := IntegerLiteral.readNumber_respelled _ (fits_letter q) hrest
    rwa [IntegerLiteral.value_ofNat] at hread

/-- Other numerals are not read. -/
theorem readNumber_eq_none {n : Numeral} (hn : ¬n.Fits) {rest : List Char} (hrest : EndsWord rest) :
    readNumber (n.worded IntegerLiteral.respelled ++ rest) = none := by
  cases n with
  | integer l => exact l.readNumber_long hn hrest
  | binary l => exact l.readNumber_suffix hn rest
  | character q => exact absurd trivial hn

/-- What is read as a numeral begins with a digit. -/
theorem exists_worded_eq_cons (n : Numeral) :
    ∃ c cs, n.worded IntegerLiteral.respelled = c :: cs ∧ isAsciiDigit c = true := by
  cases n with
  | integer l => exact l.exists_respelled_eq_cons
  | binary l => exact ⟨_, _, rfl, by decide⟩
  | character q => exact IntegerLiteral.exists_respelled_eq_cons _

end Numeral

end Bindery.Initializer
