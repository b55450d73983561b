import Bindery.Initializer.Meaning
import Bindery.Proofs.Initializer.Scanned
import Mathlib.Data.Nat.Digits.Lemmas
import Mathlib.Data.Nat.Size

/-!
# What texts are worth

Every token is worth something: a number as many bits as it has, a word or a mark a unit that is
given. The tokens of a text are worth no more than a unit for each of its characters, and the text
that is read in place of an initializer is seven times as long at most.
-/

namespace Bindery.Initializer

open Bindery.Text

/-! ### Tokens -/

/-- What a token is worth: a number as many bits as it has, a word or a mark a unit. -/
def Token.worth (unit : Nat) : Token → Nat
  | word _ | mark _ => unit
  | number value => (value.map Nat.size).getD 0
  | literal _ => 0

/-- What tokens are worth together. -/
def worth (unit : Nat) : List Token → Nat
  | [] => 0
  | t :: ts => t.worth unit + worth unit ts

theorem worth_cons (unit : Nat) (t : Token) (ts : List Token) :
    worth unit (t :: ts) = t.worth unit + worth unit ts :=
  rfl

/-! ### Numbers -/

theorem le_iff_toNat {c d : Char} : c ≤ d ↔ c.toNat ≤ d.toNat :=
  Iff.rfl

theorem digitValue_lt {c : Char} (h : isHexDigit c = true) : digitValue c < 16 := by
  have hdigits : '0'.toNat = 48 ∧ '9'.toNat = 57 := by decide
  have hsmall : 'a'.toNat = 97 ∧ 'f'.toNat = 102 := by decide
  have hlarge : 'A'.toNat = 65 ∧ 'F'.toNat = 70 := by decide
  simp only [isHexDigit, isAsciiDigit, Bool.or_eq_true, Bool.and_eq_true, decide_eq_true_eq,
    le_iff_toNat] at h
  simp only [digitValue, isAsciiDigit, Bool.and_eq_true, decide_eq_true_eq, le_iff_toNat]
  split_ifs <;> omega

/-- In no base up to sixteen has a number more than four bits for each digit. -/
theorem size_digitsNumber_le {base : Nat} (hbase : base ≤ 16) {digits : List Char}
    (h : ∀ c ∈ digits, isHexDigit c = true) :
    (digitsNumber base digits).size ≤ 4 * digits.length := by
  have hdigits : ∀ d ∈ digits.reverse.map digitValue, d < 16 := by
    intro d hd
    obtain ⟨c, hc, rfl⟩ := List.mem_map.1 hd
    exact digitValue_lt (h c (List.mem_reverse.1 hc))
  rw [Nat.size_le, Nat.pow_mul, digitsNumber_eq]
  calc Nat.ofDigits base (digits.reverse.map digitValue)
    _ ≤ Nat.ofDigits 16 (digits.reverse.map digitValue) := Nat.ofDigits_monotone _ hbase
    _ < 16 ^ (digits.reverse.map digitValue).length :=
      Nat.ofDigits_lt_base_pow_length (by decide) hdigits
    _ = (2 ^ 4) ^ digits.length := by simp

theorem groupedDigits_spec {p : Char → Bool} {cs digits rest : List Char}
    (h : groupedDigits p cs = some (digits, rest)) :
    digits.length + rest.length ≤ cs.length ∧ ∀ c ∈ digits, p c = true := by
  have hcons : ∀ {c : Char} {cs digits : List Char}, p c = true →
      (∀ {digits}, groupedDigits p cs = some (digits, rest) →
        digits.length + rest.length ≤ cs.length ∧ ∀ c ∈ digits, p c = true) →
      ((groupedDigits p cs).map fun r => (c :: r.1, r.2)) = some (digits, rest) →
      digits.length + rest.length ≤ cs.length + 1 ∧ ∀ c ∈ digits, p c = true := by
    intro c cs digits hc ih h
    obtain ⟨⟨front, mid⟩, hfront, heq⟩ := Option.map_eq_some_iff.1 h
    simp only [Prod.mk.injEq] at heq
    obtain ⟨rfl, rfl⟩ := heq
    obtain ⟨hlength, hall⟩ := ih hfront
    refine ⟨?_, List.forall_mem_cons.2 ⟨hc, hall⟩⟩
    rw [List.length_cons]
    omega
  fun_induction groupedDigits p cs generalizing digits with
  | case1 =>
    cases h
    exact ⟨le_rfl, List.forall_mem_nil _⟩
  | case2 => cases h
  | case3 c cs hc ih =>
    obtain ⟨hlength, hall⟩ := hcons hc ih h
    exact ⟨hlength.trans (Nat.le_succ _), hall⟩
  | case4 => cases h
  | case5 c cs _ _ hc ih => exact hcons hc ih h
  | case6 =>
    cases h
    exact ⟨(Nat.zero_add _).le, List.forall_mem_nil _⟩

theorem length_of_map_groupedDigits {p : Char → Bool} {cs rest : List Char} {b : Bool}
    (h : ((groupedDigits p cs).map fun r => (true, r.2)) = some (b, rest)) :
    rest.length ≤ cs.length := by
  obtain ⟨⟨digits, rest⟩, hdigits, heq⟩ := Option.map_eq_some_iff.1 h
  cases heq
  exact (Nat.le_add_left ..).trans (groupedDigits_spec hdigits).1

theorem length_readFraction {cs rest : List Char} {b : Bool}
    (h : readFraction cs = some (b, rest)) : rest.length ≤ cs.length := by
  unfold readFraction at h
  split at h
  · split_ifs at h
    · exact (length_of_map_groupedDigits h).trans (Nat.le_succ _)
    · cases h
      exact Nat.le_succ _
  · cases h
    exact le_rfl

theorem length_readExponent {cs rest : List Char} {b : Bool}
    (h : readExponent cs = some (b, rest)) : rest.length ≤ cs.length := by
  unfold readExponent at h
  split at h
  · next e cs =>
    have htail : cs.tail.length ≤ cs.length := by simp
    dsimp only at h
    split_ifs at h
    · exact (length_of_map_groupedDigits h).trans (htail.trans (Nat.le_succ _))
    · exact (length_of_map_groupedDigits h).trans (Nat.le_succ _)
    · cases h
      exact le_rfl
    · cases h
      exact le_rfl
  · cases h
    exact le_rfl

/-- What is read of a number: its bits, with four for each character that is left, are no more than
four for each character there was. -/
def SpendsDigits (cs : List Char) (result : Option (Option Nat × List Char)) : Prop :=
  ∀ value rest, result = some (value, rest) →
    (value.map Nat.size).getD 0 + 4 * rest.length ≤ 4 * cs.length

theorem readBased_spends {base : Nat} (hbase : base ≤ 16) {p : Char → Bool}
    (hp : ∀ c, p c = true → isHexDigit c = true) (cs : List Char) :
    SpendsDigits cs (readBased base p cs) := by
  intro value rest h
  obtain ⟨⟨digits, mid⟩, hdigits, h⟩ := Option.bind_eq_some_iff.1 h
  obtain ⟨hlength, hall⟩ := groupedDigits_spec hdigits
  dsimp only at h
  split_ifs at h
  cases h
  have hsize := size_digitsNumber_le hbase fun c hc => hp c (hall c hc)
  show (digitsNumber base digits).size + _ ≤ _
  omega

theorem plainNumber?_size {digits rest : List Char} {value : Option Nat}
    (hall : ∀ c ∈ digits, isHexDigit c = true) (h : plainNumber? digits rest = some value) :
    (value.map Nat.size).getD 0 ≤ 4 * digits.length := by
  unfold plainNumber? at h
  split at h
  · next n hn =>
    cases h
    unfold decimalValue? at hn
    dsimp only at hn
    split_ifs at hn
    cases hn
    exact size_digitsNumber_le (by decide) hall
  · split_ifs at h
    cases h
    exact Nat.zero_le _

theorem isHexDigit_of_isAsciiDigit {c : Char} (h : isAsciiDigit c = true) :
    isHexDigit c = true := by
  rw [isHexDigit, h]
  rfl

theorem readDecimal_spends (cs : List Char) : SpendsDigits cs (readDecimal cs) := by
  intro value rest h
  obtain ⟨⟨digits, rest₁⟩, hdigits, h⟩ := Option.bind_eq_some_iff.1 h
  obtain ⟨⟨fraction, rest₂⟩, hfraction, h⟩ := Option.bind_eq_some_iff.1 h
  obtain ⟨⟨exponent, rest₃⟩, hexponent, h⟩ := Option.bind_eq_some_iff.1 h
  obtain ⟨hlength, hall⟩ := groupedDigits_spec hdigits
  have h₂ := length_readFraction hfraction
  have h₃ := length_readExponent hexponent
  dsimp only at h
  have htail : (if (rest₃.head?.any fun c => c = 'j' ∨ c = 'J') = true then rest₃.tail
      else rest₃).length ≤ rest₃.length := by
    split_ifs <;> simp
  generalize (if (rest₃.head?.any fun c => c = 'j' ∨ c = 'J') = true then rest₃.tail
      else rest₃) = rest₄ at h htail
  split_ifs at h
  · cases h
    show 0 + _ ≤ _
    omega
  · obtain ⟨value, hvalue, heq⟩ := Option.map_eq_some_iff.1 h
    cases heq
    have hsize := plainNumber?_size (fun c hc => isHexDigit_of_isAsciiDigit (hall c hc)) hvalue
    omega

theorem readNumber_spends (cs : List Char) : SpendsDigits cs (readNumber cs) := by
  have hoctal : ∀ c, isOctalDigit c = true → isHexDigit c = true := by
    intro c hc
    simp only [isOctalDigit, Bool.and_eq_true, decide_eq_true_eq] at hc
    have hle : c ≤ '9' := Nat.le_trans (le_iff_toNat.1 hc.2) (by decide : '7'.toNat ≤ '9'.toNat)
    exact isHexDigit_of_isAsciiDigit (by simp [isAsciiDigit, hc.1, hle])
  have hbinary : ∀ c : Char, (c == '0' || c == '1') = true → isHexDigit c = true := by
    intro c hc
    rw [Bool.or_eq_true, beq_iff_eq, beq_iff_eq] at hc
    rcases hc with rfl | rfl <;> decide
  unfold readNumber
  split
  · next x digits =>
    have hshort : ∀ result, SpendsDigits digits result →
        SpendsDigits ('0' :: x :: digits) result := by
      intro result h value rest heq
      have hle := h value rest heq
      simp only [List.length_cons]
      omega
    split_ifs
    · exact hshort _ (readBased_spends (by decide) (fun _ => id) digits)
    · exact hshort _ (readBased_spends (by decide) hoctal digits)
    · exact hshort _ (readBased_spends (by decide) hbinary digits)
    · exact readDecimal_spends _
  · exact readDecimal_spends cs

/-! ### Words, literals and marks -/

theorem length_readQuoted {quote : Char} {triple : Bool} {cs text rest : List Char}
    (h : readQuoted quote triple cs = some (text, rest)) : rest.length ≤ cs.length := by
  have hmore : ∀ {f : List Char × List Char → List Char} {cs text : List Char},
      (∀ {text}, readQuoted quote triple cs = some (text, rest) → rest.length ≤ cs.length) →
      ((readQuoted quote triple cs).map fun r => (f r, r.2)) = some (text, rest) →
      rest.length ≤ cs.length + 1 := by
    intro f cs text ih h
    obtain ⟨⟨front, mid⟩, hfront, heq⟩ := Option.map_eq_some_iff.1 h
    simp only [Prod.mk.injEq] at heq
    obtain ⟨-, rfl⟩ := heq
    exact (ih hfront).trans (Nat.le_succ _)
  fun_induction readQuoted quote triple cs generalizing text with
  | case3 c cs ih => exact (hmore ih h).trans (Nat.le_succ _)
  | case4 =>
    cases h
    simp only [List.length_cons]
    omega
  | case5 _ _ _ _ _ _ _ ih => exact hmore ih h
  | case7 =>
    cases h
    exact Nat.le_succ _
  | case9 _ _ _ _ _ _ ih => exact hmore ih h
  | _ => cases h

theorem length_readLiteral {form : LiteralForm} {cs rest : List Char} {l : Literal}
    (h : readLiteral form cs = some (l, rest)) : rest.length ≤ cs.length := by
  -- whatever text is read, what follows it is left
  have hleft : ∀ {text mid : List Char},
      ((Literal.ofText? form text).bind fun literal => some (literal, mid)) = some (l, rest) →
      mid = rest := by
    intro text mid h
    obtain ⟨literal, -, heq⟩ := Option.bind_eq_some_iff.1 h
    cases heq
    rfl
  have hquoted : ∀ {quote : Char} {triple : Bool} {cs : List Char},
      ((readQuoted quote triple cs).bind fun r =>
        (Literal.ofText? form r.1).bind fun literal => some (literal, r.2)) = some (l, rest) →
      rest.length ≤ cs.length := by
    intro quote triple cs h
    obtain ⟨⟨text, mid⟩, htext, h⟩ := Option.bind_eq_some_iff.1 h
    rw [← hleft h]
    exact length_readQuoted htext
  unfold readLiteral at h
  dsimp only at h
  split at h
  · next a b c tail =>
    simp only [List.length_cons]
    split_ifs at h
    · have hlength := hquoted h
      omega
    · rw [← hleft h]
      exact Nat.le_add_right _ 2
    · have hlength := hquoted h
      simp only [List.length_cons] at hlength
      omega
  · split_ifs at h
    · rw [← hleft h]
      exact Nat.zero_le _
    · cases h
  · cases h

theorem length_pos_of_mem_marks : ∀ m ∈ marks, 0 < m.length := by
  decide

/-- What is read of a text, with a unit for each character that is left, is worth no more than a
unit for each character there was. -/
theorem readToken_spends {unit : Nat} (hunit : 4 ≤ unit) {cs rest : List Char} {t : Token}
    (h : readToken cs = some (t, rest)) : t.worth unit + unit * rest.length ≤ unit * cs.length := by
  have hone : ∀ {rest : List Char}, rest.length + 1 ≤ cs.length →
      unit + unit * rest.length ≤ unit * cs.length := by
    intro rest hle
    rw [Nat.add_comm, ← Nat.mul_succ]
    exact Nat.mul_le_mul_left unit hle
  have hnone : ∀ {rest : List Char}, rest.length ≤ cs.length →
      0 + unit * rest.length ≤ unit * cs.length := by
    intro rest hle
    rw [Nat.zero_add]
    exact Nat.mul_le_mul_left unit hle
  have hliteral : ∀ {form cs' t}, cs'.length ≤ cs.length →
      ((readLiteral form cs').map fun r => (Token.literal r.1, r.2)) = some (t, rest) →
      t.worth unit + unit * rest.length ≤ unit * cs.length := by
    intro form cs' t hle h
    obtain ⟨⟨l, mid⟩, hl, heq⟩ := Option.map_eq_some_iff.1 h
    simp only [Prod.mk.injEq] at heq
    obtain ⟨rfl, rfl⟩ := heq
    exact hnone ((length_readLiteral hl).trans hle)
  unfold readToken at h
  split at h
  · cases h
  · next c front =>
    split_ifs at h with hnumber hquote hword
    · obtain ⟨⟨value, mid⟩, hvalue, heq⟩ := Option.map_eq_some_iff.1 h
      simp only [Prod.mk.injEq] at heq
      obtain ⟨rfl, rfl⟩ := heq
      have hspends := readNumber_spends _ value mid hvalue
      obtain ⟨taken, htaken⟩ : ∃ taken, (c :: front).length = mid.length + taken :=
        Nat.exists_eq_add_of_le (by omega)
      have hunits : 4 * taken ≤ unit * taken := Nat.mul_le_mul_right taken hunit
      rw [htaken] at hspends ⊢
      rw [Nat.mul_add]
      show (value.map Nat.size).getD 0 + _ ≤ _
      omega
    · exact hliteral le_rfl h
    · have hpart : isNamePart c = true := by
        unfold isWordStart at hword
        unfold isNamePart
        simp only [Bool.or_eq_true, decide_eq_true_eq] at hword ⊢
        tauto
      have hrest : ((c :: front).dropWhile isNamePart).length ≤ front.length := by
        rw [List.dropWhile_cons_of_pos hpart]
        exact (front.dropWhile_suffix isNamePart).length_le
      unfold readWord at h
      dsimp only at h
      split at h
      · exact hliteral (hrest.trans (Nat.le_succ _)) h
      · split_ifs at h
        cases h
        exact hone (Nat.succ_le_succ hrest)
    · obtain ⟨m, hm, heq⟩ := Option.map_eq_some_iff.1 h
      simp only [Prod.mk.injEq] at heq
      obtain ⟨rfl, rfl⟩ := heq
      have hpos := length_pos_of_mem_marks m (List.mem_of_find?_eq_some hm)
      refine hone ?_
      rw [List.length_drop, List.length_cons]
      omega

/-! ### Lines -/

theorem length_skipLines {kept indented : Bool} {cs rest : List Char}
    (h : skipLines kept indented cs = some rest) : rest.length ≤ cs.length := by
  have hmore : ∀ {c : Char} {cs : List Char}, rest.length ≤ cs.length →
      rest.length ≤ (c :: cs).length := fun h => h.trans (Nat.le_succ _)
  refine skipLines.induct
    (fun cs => skipLines.skipComment cs = some rest → rest.length ≤ cs.length)
    (fun kept indented cs => skipLines kept indented cs = some rest → rest.length ≤ cs.length)
    ?_ (fun _ ih h => hmore (ih h)) ?_ ?_ (fun _ _ _ ih h => hmore (ih h))
    (fun _ _ _ ih h => hmore (ih h)) (fun _ _ _ ih h => hmore (ih h))
    (fun _ _ _ ih h => hmore (ih h)) (fun _ _ _ ih h => hmore (ih h))
    (fun _ _ _ _ ih h => hmore (hmore (ih h))) ?_ ?_ kept indented cs h
  · rintro ⟨⟩
    exact le_rfl
  · intro c cs hc ih h
    rw [skipLines.skipComment] at h
    · exact hmore (ih h)
    · exact hc
  · rintro kept indented ⟨⟩
    exact le_rfl
  · intro kept indented c cs _ _ _ _ _ _ hlate h
    rw [skipLines, if_pos hlate] at h
    · cases h
    all_goals assumption
  · intro kept indented c cs _ _ _ _ _ _ hlate h
    rw [skipLines, if_neg hlate] at h
    · cases h
      exact le_rfl
    all_goals assumption

theorem length_unifyLineEnds (cs : List Char) : (unifyLineEnds cs).length ≤ cs.length := by
  fun_induction unifyLineEnds cs with
  | case1 => exact le_rfl
  | case2 cs ih =>
    simp only [List.length_cons]
    omega
  | case3 cs _ ih => exact Nat.succ_le_succ ih
  | case4 c cs _ _ ih => exact Nat.succ_le_succ ih

theorem worth_scanFrom_le {unit : Nat} (hunit : 4 ≤ unit) (steps : Nat) (opened cs : List Char) :
    worth unit (scanFrom steps opened cs).1 ≤ unit * cs.length := by
  have hmono : ∀ {cs ds : List Char}, cs.length ≤ ds.length → unit * cs.length ≤ unit * ds.length :=
    fun h => Nat.mul_le_mul_left unit h
  induction steps generalizing opened cs with
  | zero => exact Nat.zero_le _
  | succ steps ih =>
    unfold scanFrom
    split
    · exact Nat.zero_le _
    · next rest =>
      have hcomment := (rest.dropWhile_suffix (· ≠ '\n')).length_le
      exact (ih _ _).trans (hmono (hcomment.trans (Nat.le_succ _)))
    · refine (ih _ _).trans (hmono ?_)
      simp only [List.length_cons]
      omega
    · split_ifs
      · exact (ih _ _).trans (hmono (Nat.le_succ _))
      · exact Nat.zero_le _
    · split_ifs
      · exact (ih _ _).trans (hmono (Nat.le_succ _))
      · split
        · exact Nat.zero_le _
        · next t rest hread =>
          split
          · exact Nat.zero_le _
          · next opened hopened =>
            have hrest := ih opened rest
            have htoken := readToken_spends hunit hread
            dsimp only
            rw [worth_cons]
            omega

theorem worth_scan_le {unit : Nat} (hunit : 4 ≤ unit) {cs : List Char} {ts : List Token}
    (h : scan cs = some ts) : worth unit ts ≤ unit * cs.length := by
  have hscanned : (scanned cs).1 = ts := by
    unfold scan at h
    dsimp only at h
    split_ifs at h
    exact Option.some.inj h
  rw [← hscanned]
  unfold scanned
  split
  · exact Nat.zero_le _
  · next rest hskip =>
    have hlength := (length_skipLines hskip).trans (length_unifyLineEnds cs)
    exact (worth_scanFrom_le hunit _ _ rest).trans (Nat.mul_le_mul_left unit hlength)

/-! ### Respelling -/

theorem length_code_le (c : Char) : (toString c.toNat).toList.length ≤ 7 := by
  have hlt : c.toNat < 10 ^ 7 := by
    have hvalid : c.toNat < 0xd800 ∨ 0xdfff < c.toNat ∧ c.toNat < 0x110000 := c.valid
    omega
  exact Nat.repr_length c.toNat 7 (by decide) hlt

/-- A code takes the place of three characters at least. -/
theorem length_respellQuoted_le (cs : List Char) :
    3 * (respellQuoted cs).length ≤ 7 * cs.length := by
  fun_induction respellQuoted cs with
  | case1 => exact le_rfl
  | case2 | case4 | case6 =>
    simp only [List.length_cons] at *
    omega
  | case3 c | case5 c =>
    have hcode := length_code_le c
    simp only [List.length_append, List.length_cons]
    omega

theorem length_dropWidth_le (word : List Char) : (dropWidth word).length ≤ word.length := by
  have htake : ∀ (p : Char → Bool) (cs : List Char), (cs.takeWhile p).length ≤ cs.length :=
    fun p cs => (cs.takeWhile_prefix p).length_le
  unfold dropWidth
  dsimp only
  split
  · next x digits =>
    split_ifs
    · exact Nat.add_le_add_right (htake isHexDigit digits) 2
    · exact le_rfl
    · exact htake isDecimalDigit _
    · exact le_rfl
  · split_ifs
    · exact htake isDecimalDigit _
    · exact le_rfl

/-- The mark of octal numbers stands before one digit at least. -/
theorem length_markOctal_le (word : List Char) :
    2 * (markOctal word).length ≤ 3 * word.length := by
  unfold markOctal
  split
  · next digits =>
    split_ifs with hoctal
    · have hpos : 0 < digits.length := by
        rw [Bool.and_eq_true, Bool.not_eq_true', List.isEmpty_eq_false_iff] at hoctal
        exact List.length_pos_iff.2 hoctal.1
      simp only [List.length_cons]
      omega
    · omega
  · omega

theorem length_joinScopes (cs : List Char) : (joinScopes cs).length = cs.length := by
  fun_induction joinScopes cs with
  | case1 => rfl
  | case2 cs ih => simp [ih]
  | case3 c cs _ ih => simp [ih]

theorem length_doubleSlashes_le (cs : List Char) : (doubleSlashes cs).length ≤ 2 * cs.length := by
  induction cs with
  | nil => exact le_rfl
  | cons c cs ih =>
    have hone : (if c = '/' then ['/', '/'] else [c]).length ≤ 2 := by split_ifs <;> simp
    unfold doubleSlashes at ih ⊢
    rw [List.flatMap_cons, List.length_append, List.length_cons]
    omega

/-- An initializer is read as a text that is seven times as long at most. -/
theorem length_readable_le (text : String) : (readable text).length ≤ 7 * text.length := by
  have hstrip : (strip text.toList).length ≤ text.length := by
    rw [← String.length_toList]
    exact strip_length_le _
  have hquoted := length_respellQuoted_le (strip text.toList)
  have hwidths (cs : List Char) : (mapWords dropWidth cs).length ≤ cs.length :=
    mapWords_length_le (fun word _ => length_dropWidth_le word) cs
  have hoctal (cs : List Char) : 2 * (mapWords markOctal cs).length ≤ 3 * cs.length :=
    mapWords_length_mul_le (by decide) (fun word _ => length_markOctal_le word) cs
  have hslashes (cs : List Char) : (doubleSlashes (joinScopes cs)).length ≤ 2 * cs.length := by
    rw [← length_joinScopes cs]
    exact length_doubleSlashes_le _
  unfold readable respell
  calc _
    _ ≤ 2 * (mapWords markOctal (mapWords dropWidth (respellQuoted (strip text.toList)))).length :=
      hslashes _
    _ ≤ 3 * (mapWords dropWidth (respellQuoted (strip text.toList))).length := hoctal _
    _ ≤ 3 * (respellQuoted (strip text.toList)).length := Nat.mul_le_mul_left 3 (hwidths _)
    _ ≤ 7 * (strip text.toList).length := hquoted
    _ ≤ 7 * text.length := Nat.mul_le_mul_left 7 hstrip

end Bindery.Initializer
