import Bindery.Initializer.Literal
import Bindery.Proofs.Emit.Lines
import Mathlib.Data.List.TakeWhile

/-!
# Documentation as a literal

Documentation is written between three quotes, and what is written has to be one literal: read from
its first quote on, it ends at its last one. Backslashes are doubled and three quotes in a row are
escaped, so nothing in the middle of a text ends the literal. A quote at the end of a single line is
escaped once more. Where it has been escaped already, the backslash before it is what gets escaped,
and the literal ends three quotes before its end. This is what happens to a single line that ends in
quotes whose number can be divided by three, and to no other text.
-/

namespace Bindery

open Bindery.Text Bindery.Initializer

namespace Code

/-! ### Escapes -/

/-- A text starts with two quotes. -/
def OpensTwice (cs : List Char) : Prop :=
  cs.head? = some '"' ∧ cs.tail.head? = some '"'

/-- Documentation escaped in one go. -/
def escaped : List Char → List Char
  | [] => []
  | '"' :: '"' :: '"' :: cs => '\\' :: '"' :: '\\' :: '"' :: '\\' :: '"' :: escaped cs
  | '\\' :: cs => '\\' :: '\\' :: escaped cs
  | c :: cs => c :: escaped cs

/-- What stands for itself where documentation is escaped. -/
theorem escaped_cons {c : Char} {cs : List Char} (hc : c ≠ '\\')
    (h : c = '"' → ¬ OpensTwice cs) : escaped (c :: cs) = c :: escaped cs := by
  rw [escaped.eq_def]
  split
  · contradiction
  · next heq =>
    cases heq
    exact absurd ⟨rfl, rfl⟩ (h rfl)
  · next heq =>
    cases heq
    exact absurd rfl hc
  · next heq =>
    cases heq
    rfl

/-- Escaping goes by three quotes, by backslashes, and by all other characters. -/
theorem escaped_induction {P : List Char → Prop} (nil : P [])
    (triple : ∀ cs, P cs → P ('"' :: '"' :: '"' :: cs)) (backslash : ∀ cs, P cs → P ('\\' :: cs))
    (other : ∀ c cs, c ≠ '\\' → (c = '"' → ¬ OpensTwice cs) → P cs → P (c :: cs))
    (cs : List Char) : P cs := by
  fun_induction escaped cs with
  | case1 => exact nil
  | case2 cs ih => exact triple cs ih
  | case3 cs ih => exact backslash cs ih
  | case4 c cs hq hb ih =>
    refine other c cs hb ?_ ih
    rintro rfl ⟨hfirst, hsecond⟩
    obtain ⟨ds, rfl⟩ := List.head?_eq_some_iff.1 hfirst
    obtain ⟨es, rfl⟩ := List.head?_eq_some_iff.1 hsecond
    exact hq es rfl rfl

theorem escapeQuotes_cons {c : Char} {cs : List Char} (h : c = '"' → ¬ OpensTwice cs) :
    escapeQuotes (c :: cs) = c :: escapeQuotes cs := by
  rw [escapeQuotes.eq_def]
  split
  · contradiction
  · next heq =>
    cases heq
    exact absurd ⟨rfl, rfl⟩ (h rfl)
  · next heq =>
    cases heq
    rfl

theorem head?_doubleBackslashes {cs : List Char} (h : (doubleBackslashes cs).head? = some '"') :
    cs.head? = some '"' := by
  cases cs with
  | nil => exact h
  | cons c cs => by_cases hb : c = '\\' <;> simp_all [doubleBackslashes]

/-- Two quotes at the start have been there before backslashes were doubled. -/
theorem opensTwice_of_doubleBackslashes {cs : List Char} (h : OpensTwice (doubleBackslashes cs)) :
    OpensTwice cs := by
  have hfirst := head?_doubleBackslashes h.1
  obtain ⟨ds, rfl⟩ := List.head?_eq_some_iff.1 hfirst
  exact ⟨rfl, head?_doubleBackslashes h.2⟩

theorem escapeQuotes_doubleBackslashes (cs : List Char) :
    escapeQuotes (doubleBackslashes cs) = escaped cs := by
  induction cs using escaped_induction with
  | nil => rfl
  | triple cs ih => simpa [doubleBackslashes, escapeQuotes, escaped] using ih
  | backslash cs ih => simpa [doubleBackslashes, escapeQuotes, escaped] using ih
  | other c cs hc htwo ih =>
    rw [escaped_cons hc htwo, ← ih]
    show escapeQuotes ((if c = '\\' then ['\\', '\\'] else [c]) ++ doubleBackslashes cs) = _
    rw [if_neg hc]
    exact escapeQuotes_cons fun hq => mt opensTwice_of_doubleBackslashes (htwo hq)

/-- What an escaped text starts with is a backslash, or what it started with before. -/
theorem head?_escaped_append {c : Char} (hc : c ≠ '\\') {cs rest : List Char}
    (hrest : rest.head? ≠ some c) (h : (escaped cs ++ rest).head? = some c) :
    cs.head? = some c := by
  revert h
  fun_cases escaped cs <;> simp [hrest, hc.symm]

/-- Escaping makes no two quotes at the start of a text, unless they come from behind it. -/
theorem not_opensTwice_escaped {cs rest : List Char} (h : ¬ OpensTwice cs)
    (hrest : rest.head? ≠ some '"') : ¬ OpensTwice (escaped cs ++ rest) := by
  rintro ⟨hfirst, hsecond⟩
  obtain ⟨ds, rfl⟩ := List.head?_eq_some_iff.1 (head?_escaped_append (by decide) hrest hfirst)
  have htail : ds.head? ≠ some '"' := fun hd => h ⟨rfl, hd⟩
  rw [escaped_cons (by decide) fun _ htwo => htail htwo.1] at hsecond
  exact htail (head?_escaped_append (by decide) hrest hsecond)

/-! ### Reading what was escaped -/

/-- A character that is neither a quote nor a backslash belongs to the text. -/
theorem readQuoted_cons {c : Char} (hq : c ≠ '"') (hb : c ≠ '\\') (cs : List Char) :
    readQuoted '"' true (c :: cs) = (readQuoted '"' true cs).map fun r => (c :: r.1, r.2) := by
  rw [readQuoted.eq_def]
  split
  · contradiction
  · next heq => exact absurd (List.cons.inj heq).1 hb
  · next heq => exact absurd (List.cons.inj heq).1 hb
  · next heq =>
    cases heq
    simp [hq]

/-- A quote that two others do not follow belongs to the text. -/
theorem readQuoted_quote {cs : List Char} (h : ¬ OpensTwice cs) :
    readQuoted '"' true ('"' :: cs) =
      (readQuoted '"' true cs).map fun r => ('"' :: r.1, r.2) := by
  rcases cs with - | ⟨a, - | ⟨b, cs⟩⟩
  · simp [readQuoted]
  · by_cases hb : a = '\\' <;> by_cases hq : a = '"' <;> simp_all [readQuoted]
  · have hab : ¬ (a = '"' ∧ b = '"') := by
      rintro ⟨rfl, rfl⟩
      exact h ⟨rfl, rfl⟩
    rw [readQuoted.eq_def]
    simp [hab]

/-- What has been escaped belongs to the text, whatever comes behind it but for a quote. -/
theorem readQuoted_escaped (cs : List Char) {rest : List Char} (hrest : rest.head? ≠ some '"') :
    readQuoted '"' true (escaped cs ++ rest) =
      (readQuoted '"' true rest).map fun r => (escaped cs ++ r.1, r.2) := by
  induction cs using escaped_induction with
  | nil => simp [escaped]
  | triple cs ih => simp [escaped, readQuoted, ih, Function.comp_def]
  | backslash cs ih => simp [escaped, readQuoted, ih, Function.comp_def]
  | other c cs hc htwo ih =>
    rw [escaped_cons hc htwo, List.cons_append]
    by_cases hq : c = '"'
    · subst hq
      rw [readQuoted_quote (not_opensTwice_escaped (htwo rfl) hrest), ih, Option.map_map]
      rfl
    · rw [readQuoted_cons hq hc, ih, Option.map_map]
      rfl

/-- Characters among which there are neither quotes nor backslashes belong to the text. -/
theorem readQuoted_append {cs : List Char} (h : ∀ c ∈ cs, c ≠ '"' ∧ c ≠ '\\')
    (rest : List Char) : readQuoted '"' true (cs ++ rest) =
      (readQuoted '"' true rest).map fun r => (cs ++ r.1, r.2) := by
  induction cs with
  | nil => simp
  | cons c cs ih =>
    obtain ⟨hq, hb⟩ := h c (List.mem_cons_self ..)
    rw [List.cons_append, readQuoted_cons hq hb, ih fun d hd => h d (List.mem_cons_of_mem _ hd),
      Option.map_map]
    rfl

/-- What stands between quotes, read without the escapes of backslashes and quotes. Nothing is said
of other escapes. -/
def textValue? : List Char → Option (List Char)
  | [] => some []
  | ['\\'] => none
  | '\\' :: c :: cs => if c = '\\' ∨ c = '"' then (textValue? cs).map (c :: ·) else none
  | c :: cs => (textValue? cs).map (c :: ·)

theorem textValue?_cons {c : Char} (hb : c ≠ '\\') (cs : List Char) :
    textValue? (c :: cs) = (textValue? cs).map (c :: ·) := by
  rw [textValue?.eq_def]
  split
  · contradiction
  · next heq => exact absurd (List.cons.inj heq).1 hb
  · next heq => exact absurd (List.cons.inj heq).1 hb
  · next heq =>
    cases heq
    rfl

/-- What has been escaped is read as what it was. -/
theorem textValue?_escaped (cs rest : List Char) :
    textValue? (escaped cs ++ rest) = (textValue? rest).map (cs ++ ·) := by
  induction cs using escaped_induction with
  | nil => simp [escaped]
  | triple cs ih => simp [escaped, textValue?, ih, Function.comp_def]
  | backslash cs ih => simp [escaped, textValue?, ih, Function.comp_def]
  | other c cs hc htwo ih =>
    rw [escaped_cons hc htwo, List.cons_append, textValue?_cons hc, ih, Option.map_map]
    rfl

/-! ### Parts of a text -/

/-- Parts are escaped one by one where no quotes meet. -/
theorem escaped_append {xs ys : List Char}
    (h : xs.getLast? ≠ some '"' ∨ ys.head? ≠ some '"') :
    escaped (xs ++ ys) = escaped xs ++ escaped ys := by
  have hlast : ∀ {c : Char} {cs : List Char}, (c :: cs).getLast? ≠ some '"' ∨ ys.head? ≠ some '"' →
      cs.getLast? ≠ some '"' ∨ ys.head? ≠ some '"' := by
    intro c cs h
    refine h.imp_left fun hc hcs => hc ?_
    rw [List.getLast?_cons, hcs]
    rfl
  induction xs using escaped_induction with
  | nil => rfl
  | triple cs ih => simp [escaped, ih (hlast (hlast (hlast h)))]
  | backslash cs ih => simp [escaped, ih (hlast h)]
  | other c cs hc htwo ih =>
    have htwo' : c = '"' → ¬ OpensTwice (cs ++ ys) := by
      rintro rfl ⟨hfirst, hsecond⟩
      rcases cs with - | ⟨d, - | ⟨e, cs⟩⟩
      · exact h.elim (fun hx => hx rfl) fun hy => hy hfirst
      · obtain rfl : d = '"' := by simpa using hfirst
        exact h.elim (fun hx => hx rfl) fun hy => hy hsecond
      · exact htwo rfl ⟨hfirst, hsecond⟩
    rw [List.cons_append, escaped_cons hc htwo', escaped_cons hc htwo, ih (hlast h),
      List.cons_append]

theorem getLast?_escaped (cs : List Char) : (escaped cs).getLast? = cs.getLast? := by
  induction cs using escaped_induction with
  | nil => rfl
  | triple cs ih => simp [escaped, List.getLast?_cons, ih]
  | backslash cs ih => simp [escaped, List.getLast?_cons, ih]
  | other c cs hc htwo ih => simp [escaped_cons hc htwo, List.getLast?_cons, ih]

theorem mem_escaped {cs : List Char} {c : Char} (h : c ∈ escaped cs) : c ∈ cs ∨ c = '\\' := by
  induction cs using escaped_induction with
  | nil => exact .inl h
  | triple cs ih => simp [escaped] at h ⊢; tauto
  | backslash cs ih => simp [escaped] at h ⊢; tauto
  | other d cs hd htwo ih => simp [escaped_cons hd htwo] at h ⊢; tauto

/-- What does not end in a quote belongs to the text, whatever comes behind it. -/
theorem readQuoted_escaped_of_getLast? {cs : List Char} (h : cs.getLast? ≠ some '"')
    (rest : List Char) : readQuoted '"' true (escaped cs ++ rest) =
      (readQuoted '"' true rest).map fun r => (escaped cs ++ r.1, r.2) := by
  rcases List.eq_nil_or_concat cs with rfl | ⟨init, c, rfl⟩
  · simp [escaped]
  · have hq : c ≠ '"' := by simpa using h
    have hone : escaped [c] = if c = '\\' then ['\\', '\\'] else [c] := by
      by_cases hb : c = '\\'
      · subst hb
        rfl
      · rw [if_neg hb, escaped_cons hb fun h => absurd h hq]
        rfl
    have hread : readQuoted '"' true (escaped [c] ++ rest) =
        (readQuoted '"' true rest).map fun r => (escaped [c] ++ r.1, r.2) := by
      rw [hone]
      split_ifs with hb
      · simp [readQuoted]
      · exact readQuoted_cons hq hb rest
    have hhead : (escaped [c] ++ rest).head? ≠ some '"' := by
      rw [hone]
      split_ifs <;> simp [hq]
    rw [List.concat_eq_append, escaped_append (.inr (by simpa using hq)), List.append_assoc,
      readQuoted_escaped _ hhead, hread, Option.map_map]
    simp [Function.comp_def]

/-! ### Quotes at the end -/

/-- How many quotes a text ends in. -/
def quotesAtEnd (cs : List Char) : Nat :=
  (cs.reverse.takeWhile (· == '"')).length

theorem exists_append_replicate (cs : List Char) : ∃ init,
    cs = init ++ List.replicate (quotesAtEnd cs) '"' ∧ init.getLast? ≠ some '"' := by
  refine ⟨(cs.reverse.dropWhile (· == '"')).reverse, ?_, ?_⟩
  · have hquotes : cs.reverse.takeWhile (· == '"') = List.replicate (quotesAtEnd cs) '"' := by
      refine List.eq_replicate_iff.2 ⟨rfl, fun c hc => ?_⟩
      simpa using List.mem_takeWhile_imp hc
    have hsplit := List.takeWhile_append_dropWhile (p := (· == '"')) (l := cs.reverse)
    rw [hquotes] at hsplit
    rw [← List.reverse_inj, List.reverse_append, List.reverse_reverse, List.reverse_replicate]
    exact hsplit.symm
  · intro hlast
    rw [List.getLast?_reverse] at hlast
    have hnot := List.head?_dropWhile_not (· == '"') cs.reverse
    rw [hlast] at hnot
    simp at hnot

/-- A quote that does not complete three stands for itself. -/
theorem escaped_replicate_succ {n : Nat} (h : n % 3 ≠ 2) :
    escaped (List.replicate (n + 1) '"') = escaped (List.replicate n '"') ++ ['"'] := by
  induction n using Nat.strong_induction_on with
  | _ n ih =>
    match n, h with
    | 0, _ => rfl
    | 1, _ => rfl
    | n + 3, h =>
      have hn := ih n (by omega) (by omega)
      simp only [List.replicate_succ, escaped] at hn ⊢
      rw [hn]
      rfl

/-- Three quotes are escaped where they are reached together. -/
theorem escaped_replicate_three {n : Nat} (h : n % 3 = 0) :
    escaped (List.replicate (n + 3) '"') =
      escaped (List.replicate n '"') ++ ['\\', '"', '\\', '"', '\\', '"'] := by
  induction n using Nat.strong_induction_on with
  | _ n ih =>
    match n, h with
    | 0, _ => rfl
    | n + 3, h =>
      have hn := ih n (by omega) (by omega)
      simp only [List.replicate_succ, escaped, List.cons_append] at hn ⊢
      rw [← hn]

/-- A text that does not end in quotes whose number can be divided by three is escaped up to its
last quote. -/
theorem escaped_concat_quote {init : List Char} (h : quotesAtEnd (init ++ ['"']) % 3 ≠ 0) :
    escaped (init ++ ['"']) = escaped init ++ ['"'] := by
  obtain ⟨pre, hpre, hlast⟩ := exists_append_replicate (init ++ ['"'])
  obtain ⟨n, hn⟩ : ∃ n, quotesAtEnd (init ++ ['"']) = n + 1 :=
    Nat.exists_eq_succ_of_ne_zero fun h0 => h (by rw [h0])
  rw [hn] at hpre h
  have hinit : init = pre ++ List.replicate n '"' := by
    rw [List.replicate_succ', ← List.append_assoc] at hpre
    exact List.append_cancel_right hpre
  rw [hpre, hinit, escaped_append (.inl hlast), escaped_append (.inl hlast),
    escaped_replicate_succ (by omega), List.append_assoc]

/-- A text that ends in quotes whose number can be divided by three ends in three that are
escaped. -/
theorem exists_escaped_triple {cs : List Char} (h : quotesAtEnd cs % 3 = 0)
    (hpos : 0 < quotesAtEnd cs) : ∃ init : List Char,
      escaped cs = escaped init ++ ['\\', '"', '\\', '"', '\\', '"'] := by
  obtain ⟨pre, hpre, hlast⟩ := exists_append_replicate cs
  obtain ⟨n, hn⟩ : ∃ n, quotesAtEnd cs = n + 3 := ⟨quotesAtEnd cs - 3, by omega⟩
  rw [hn] at hpre h
  refine ⟨pre ++ List.replicate n '"', ?_⟩
  rw [hpre, escaped_append (.inl hlast), escaped_append (.inl hlast),
    escaped_replicate_three (by omega), List.append_assoc]

theorem quotesAtEnd_eq_zero_iff {cs : List Char} :
    quotesAtEnd cs = 0 ↔ cs.getLast? ≠ some '"' := by
  rcases List.eq_nil_or_concat cs with rfl | ⟨init, c, rfl⟩
  · simp [quotesAtEnd]
  · by_cases hc : c = '"' <;> simp [quotesAtEnd, hc]

/-! ### Documentation on a single line -/

theorem escapeLastQuote_concat (cs : List Char) :
    escapeLastQuote (cs ++ ['"']) = cs ++ ['\\', '"'] := by
  simp [escapeLastQuote]

theorem escapeLastQuote_of_getLast? {cs : List Char} (h : cs.getLast? ≠ some '"') :
    escapeLastQuote cs = cs := by
  unfold escapeLastQuote
  split
  · next rest heq =>
    rw [← List.reverse_reverse cs, heq] at h
    simp at h
  · rfl

/-- A line that ends in quotes whose number can be divided by three. -/
def EndsInTriples (line : List Char) : Prop :=
  0 < quotesAtEnd line ∧ quotesAtEnd line % 3 = 0

/-- Any other line is one literal, whose value it is. -/
theorem readQuoted_line {line : List Char} (h : ¬ EndsInTriples line) :
    readQuoted '"' true (escapeLastQuote (escaped line) ++ ['"', '"', '"']) =
        some (escapeLastQuote (escaped line), []) ∧
      textValue? (escapeLastQuote (escaped line)) = some line := by
  by_cases hlast : line.getLast? = some '"'
  · obtain ⟨init, rfl⟩ := List.getLast?_eq_some_iff.1 hlast
    have hpos : quotesAtEnd (init ++ ['"']) ≠ 0 := fun h0 => quotesAtEnd_eq_zero_iff.1 h0 hlast
    have hmod : quotesAtEnd (init ++ ['"']) % 3 ≠ 0 := fun h0 => h ⟨Nat.pos_of_ne_zero hpos, h0⟩
    rw [escaped_concat_quote hmod, escapeLastQuote_concat, List.append_assoc]
    constructor
    · rw [readQuoted_escaped _ (by simp)]
      simp [readQuoted]
    · rw [textValue?_escaped]
      simp [textValue?]
  · rw [escapeLastQuote_of_getLast? (by rwa [getLast?_escaped])]
    constructor
    · rw [readQuoted_escaped_of_getLast? hlast]
      simp [readQuoted]
    · simpa [textValue?] using textValue?_escaped line []

/-- A line that ends in quotes whose number can be divided by three ends its literal too early. -/
theorem readQuoted_line_of_endsInTriples {line : List Char} (h : EndsInTriples line) :
    ∃ held, readQuoted '"' true (escapeLastQuote (escaped line) ++ ['"', '"', '"']) =
      some (held, ['"']) := by
  obtain ⟨init, hinit⟩ := exists_escaped_triple h.2 h.1
  have hlast : escapeLastQuote (escaped line) =
      escaped init ++ ['\\', '"', '\\', '"', '\\', '\\', '"'] := by
    rw [hinit]
    have := escapeLastQuote_concat (escaped init ++ ['\\', '"', '\\', '"', '\\'])
    simpa using this
  rw [hlast, List.append_assoc, readQuoted_escaped _ (by simp)]
  exact ⟨escaped init ++ ['\\', '"', '\\', '"', '\\', '\\'], by simp [readQuoted]⟩

/-! ### Documentation on several lines -/

/-- Lines that are joined are read one after the other, up to the quotes behind them. -/
theorem readQuoted_lines {margin : List Char} (hmargin : ∀ c ∈ margin, c ≠ '"' ∧ c ≠ '\\')
    (indent : List Char → List Char) (hindent : ∀ line, indent line ⊆ margin)
    (line : List Char) (lines : List (List Char)) :
    readQuoted '"' true (escaped line ++
        ((lines.flatMap fun l => '\n' :: (indent l ++ escaped l)) ++
          ('\n' :: margin ++ ['"', '"', '"']))) =
      some (escaped line ++ ((lines.flatMap fun l => '\n' :: (indent l ++ escaped l)) ++
        '\n' :: margin), []) := by
  have hplain : ∀ cs, cs ⊆ margin → ∀ c ∈ '\n' :: cs, c ≠ '"' ∧ c ≠ '\\' := by
    intro cs hcs c hc
    rcases List.mem_cons.1 hc with rfl | hc
    · decide
    · exact hmargin c (hcs hc)
  induction lines generalizing line with
  | nil =>
    rw [List.flatMap_nil, List.nil_append, readQuoted_escaped _ (by simp),
      readQuoted_append (hplain margin (List.Subset.refl _))]
    simp [readQuoted]
  | cons next lines ih =>
    rw [List.flatMap_cons, List.append_assoc, readQuoted_escaped _ (by simp), ← List.cons_append,
      List.append_assoc, readQuoted_append (hplain _ (hindent next)), ih]
    simp

/-! ### Lines of an escaped text -/

/-- A text goes on behind the end of a line. -/
def EndsLine (mark rest : List Char) : Prop :=
  mark = ['\r', '\n'] ∨
    ∃ c, mark = [c] ∧ isLineBreak c = true ∧ (c = '\r' → rest.head? ≠ some '\n')

theorem splitLines_go_cons {c : Char} (h : isLineBreak c = false) (line cs : List Char) :
    splitLines.go line (c :: cs) = splitLines.go (c :: line) cs := by
  rw [splitLines.go.eq_def]
  split
  · contradiction
  · next heq =>
    cases heq
    cases h
  · next heq =>
    cases heq
    rw [h]
    rfl

theorem splitLines_go_append {xs : List Char} (h : ∀ c ∈ xs, isLineBreak c = false)
    (line ys : List Char) :
    splitLines.go line (xs ++ ys) = splitLines.go (xs.reverse ++ line) ys := by
  induction xs generalizing line with
  | nil => rfl
  | cons c xs ih =>
    rw [List.cons_append, splitLines_go_cons (h c (List.mem_cons_self ..)),
      ih fun d hd => h d (List.mem_cons_of_mem _ hd)]
    simp

/-- What holds no line end is one line, if it is anything. -/
theorem splitLines_of_forall {cs : List Char} (h : ∀ c ∈ cs, isLineBreak c = false) :
    splitLines cs = if cs = [] then [] else [cs] := by
  have := splitLines_go_append h [] []
  unfold splitLines
  simp only [List.append_nil] at this
  rw [this]
  simp [splitLines.go]

/-- What comes behind the first line end has its own lines. -/
theorem splitLines_append {cs mark rest : List Char} (h : ∀ c ∈ cs, isLineBreak c = false)
    (hmark : EndsLine mark rest) : splitLines (cs ++ (mark ++ rest)) = cs :: splitLines rest := by
  unfold splitLines
  rw [splitLines_go_append h, List.append_nil]
  rcases hmark with rfl | ⟨c, rfl, hc, hr⟩
  · simp [splitLines.go]
  · rw [List.singleton_append, splitLines.go.eq_def]
    split
    · contradiction
    · next heq =>
      cases heq
      exact absurd rfl (hr rfl)
    · next heq =>
      cases heq
      simp [hc]

/-- A text is one line or goes on behind the end of its first line. -/
theorem splitLines_induction {P : List Char → Prop}
    (line : ∀ cs, (∀ c ∈ cs, isLineBreak c = false) → P cs)
    (lines : ∀ cs mark rest, (∀ c ∈ cs, isLineBreak c = false) → EndsLine mark rest → P rest →
      P (cs ++ (mark ++ rest))) (cs : List Char) : P cs := by
  induction hn : cs.length using Nat.strong_induction_on generalizing cs with
  | _ n ih =>
    have hsplit := List.takeWhile_append_dropWhile (p := fun c => !isLineBreak c) (l := cs)
    have hfirst : ∀ c ∈ cs.takeWhile (fun c => !isLineBreak c), isLineBreak c = false := by
      intro c hc
      simpa using List.mem_takeWhile_imp hc
    cases hrest : cs.dropWhile fun c => !isLineBreak c with
    | nil =>
      rw [hrest, List.append_nil] at hsplit
      exact line cs (hsplit ▸ hfirst)
    | cons c rest =>
      have hc : isLineBreak c = true := by
        have := List.head?_dropWhile_not (fun c => !isLineBreak c) cs
        simpa [hrest] using this
      rw [hrest] at hsplit
      have hlength : cs.length =
          (cs.takeWhile fun c => !isLineBreak c).length + (rest.length + 1) := by
        simpa using (congrArg List.length hsplit).symm
      by_cases hpair : c = '\r' ∧ rest.head? = some '\n'
      · obtain ⟨rfl, hhead⟩ := hpair
        obtain ⟨tail, rfl⟩ := List.head?_eq_some_iff.1 hhead
        rw [← hsplit]
        simp only [List.length_cons] at hlength
        exact lines _ ['\r', '\n'] tail hfirst (.inl rfl) (ih tail.length (by omega) tail rfl)
      · rw [← hsplit]
        refine lines _ [c] rest hfirst (.inr ⟨c, rfl, hc, fun hr hn => hpair ⟨hr, hn⟩⟩) ?_
        exact ih rest.length (by omega) rest rfl

/-- A text is escaped line by line. -/
theorem splitLines_escaped (cs : List Char) :
    splitLines (escaped cs) = (splitLines cs).map escaped := by
  have hline : ∀ cs : List Char, (∀ c ∈ cs, isLineBreak c = false) →
      ∀ c ∈ escaped cs, isLineBreak c = false := by
    intro cs h c hc
    rcases mem_escaped hc with hc | rfl
    · exact h c hc
    · decide
  induction cs using splitLines_induction with
  | line cs h =>
    rw [splitLines_of_forall h, splitLines_of_forall (hline cs h)]
    by_cases hn : cs = []
    · subst hn
      rfl
    · have hne : escaped cs ≠ [] := by
        intro hnil
        have hlast := getLast?_escaped cs
        rw [hnil] at hlast
        exact hn (List.getLast?_eq_none_iff.1 hlast.symm)
      rw [if_neg hn, if_neg hne]
      rfl
  | lines cs mark rest h hmark ih =>
    have hparts : escaped (cs ++ (mark ++ rest)) = escaped cs ++ (mark ++ escaped rest) ∧
        EndsLine mark (escaped rest) := by
      rcases hmark with rfl | ⟨c, rfl, hc, hr⟩
      · refine ⟨?_, .inl rfl⟩
        rw [escaped_append (.inr (by simp)), List.cons_append, List.cons_append,
          escaped_cons (by decide) (by simp), escaped_cons (by decide) (by simp)]
        rfl
      · have hq : c ≠ '"' := by
          rintro rfl
          cases hc
        have hb : c ≠ '\\' := by
          rintro rfl
          cases hc
        refine ⟨?_, .inr ⟨c, rfl, hc, fun h hn => hr h ?_⟩⟩
        · rw [escaped_append (.inr (by simpa using hq)), List.singleton_append,
            escaped_cons hb fun h => absurd h hq]
          rfl
        · have hn' : (escaped rest ++ []).head? = some '\n' := by rwa [List.append_nil]
          exact head?_escaped_append (by decide) (by simp) hn'
    rw [splitLines_append h hmark, List.map_cons, ← ih, hparts.1,
      splitLines_append (hline cs h) hparts.2]

theorem linesOf_escapeDocstring (text : String) :
    linesOf (escapeDocstring text) =
      (linesOf text).map fun line => String.ofList (escaped line.toList) := by
  unfold linesOf textLines escapeDocstring
  rw [String.toList_ofList, escapeQuotes_doubleBackslashes, splitLines_escaped]
  cases splitLines text.toList with
  | nil => rfl
  | cons line lines => simp [Function.comp_def]

theorem linesOf_ne_nil (text : String) : linesOf text ≠ [] := by
  unfold linesOf
  cases textLines text <;> simp

/-- A text without line ends is its one line. -/
theorem linesOf_of_forall {text : String} (h : ∀ ch ∈ text.toList, isLineBreak ch = false) :
    linesOf text = [text] := by
  unfold linesOf textLines
  rw [splitLines_of_forall h]
  by_cases ht : text = ""
  · simp [ht]
  · simp [ht]

/-! ### Documentation as a literal -/

/-- What lines that were added hold between their quotes, if behind the margin they are one literal
in triple quotes that ends where they end. -/
def literal? (c c' : Code) : Option (List Char) := do
  let text := ['\n'].intercalate ((added c c').map String.toList)
  let held ← text.dropPrefix? ((times c.level c.unit).toList ++ tripleQuote.toList)
  match readQuoted '"' true held with
  | some (held, []) => some held
  | _ => none

theorem lines_addLines (c : Code) (texts : List String) :
    (c.addLines texts).lines =
      c.lines ++ texts.map fun t => if t = "" then "" else times c.level c.unit ++ t := by
  unfold addLines
  induction texts generalizing c with
  | nil => simp
  | cons t texts ih =>
    rw [List.foldl_cons, ih]
    simp [line]

theorem added_docstring (c : Code) (text : String) : added c (c.docstring text) =
    (docstringLines text).map fun t => if t = "" then "" else times c.level c.unit ++ t := by
  unfold added docstring
  rw [lines_addLines, List.drop_left]

/-- A text is a single line that ends in quotes whose number can be divided by three. -/
def BreaksOff (text : String) : Prop :=
  ∃ line, linesOf text = [line] ∧ EndsInTriples line.toList

theorem toList_tripleQuote : tripleQuote.toList = ['"', '"', '"'] := rfl

/-- Lines are read from behind the first three quotes. -/
theorem literal?_eq {c c' : Code} {held : List Char}
    (h : ['\n'].intercalate ((added c c').map String.toList) =
      (times c.level c.unit).toList ++ tripleQuote.toList ++ held) :
    c.literal? c' = match readQuoted '"' true held with
      | some (held, []) => some held
      | _ => none := by
  have hdrop : (['\n'].intercalate ((added c c').map String.toList)).dropPrefix?
      ((times c.level c.unit).toList ++ tripleQuote.toList) = some held :=
    List.dropPrefix?_eq_some_iff.2 ⟨_, h, beq_self_eq_true _⟩
  unfold literal?
  simp only [hdrop]
  rfl

theorem ne_empty_of_tripleQuote (text : String) : tripleQuote ++ text ≠ "" := by
  intro h
  have := congrArg String.toList h
  simp [toList_tripleQuote] at this

/-- A single line is written between its quotes. -/
theorem literal?_docstring_of_single {c : Code} {text line : String} (h : linesOf text = [line]) :
    c.literal? (c.docstring text) =
      match readQuoted '"' true (escapeLastQuote (escaped line.toList) ++ ['"', '"', '"']) with
      | some (held, []) => some held
      | _ => none := by
  apply literal?_eq
  rw [added_docstring, docstringLines, linesOf_escapeDocstring, h]
  simp only [List.map_cons, List.map_nil, String.append_assoc, if_neg (ne_empty_of_tripleQuote _)]
  simp [List.intercalate_singleton, toList_tripleQuote]

theorem intercalate_cons (line : List Char) (lines : List (List Char)) :
    ['\n'].intercalate (line :: lines) = line ++ lines.flatMap ('\n' :: ·) := by
  induction lines generalizing line with
  | nil => simp
  | cons next lines ih => simp [List.intercalate_cons_cons, ih]

theorem mem_times {n : Nat} {s : String} {ch : Char} (h : ch ∈ (times n s).toList) :
    ch ∈ s.toList := by
  simp only [times, String.toList_join] at h
  obtain ⟨l, hl, hch⟩ := List.mem_flatMap.1 h
  rwa [List.eq_of_mem_replicate hl] at hch

/-- Several lines are written between lines with their quotes. -/
theorem literal?_docstring_of_several {c : Code} {text line next : String} {lines : List String}
    (hunit : ∀ ch ∈ c.unit.toList, ch ≠ '"' ∧ ch ≠ '\\')
    (h : linesOf text = line :: next :: lines) :
    (c.literal? (c.docstring text)).isSome = true := by
  have hmargin : ∀ ch ∈ (times c.level c.unit).toList, ch ≠ '"' ∧ ch ≠ '\\' :=
    fun ch hch => hunit ch (mem_times hch)
  have hread := readQuoted_lines hmargin
    (fun l => if escaped l = [] then [] else (times c.level c.unit).toList)
    (fun l => by split_ifs <;> simp) line.toList ((next :: lines).map String.toList)
  have hline : ∀ l : String, (if String.ofList (escaped l.toList) = "" then "" else
      times c.level c.unit ++ String.ofList (escaped l.toList)).toList =
        (if escaped l.toList = [] then [] else (times c.level c.unit).toList) ++
          escaped l.toList := by
    intro l
    by_cases hl : escaped l.toList = []
    · simp [hl]
    · have hne : String.ofList (escaped l.toList) ≠ "" := by
        intro hempty
        exact hl (by simpa using congrArg String.toList hempty)
      simp [hl, hne]
  rw [literal?_eq, hread]
  · rfl
  · rw [added_docstring, docstringLines, linesOf_escapeDocstring, h]
    have hfirst := ne_empty_of_tripleQuote (String.ofList (escaped line.toList))
    have hlast : tripleQuote ≠ "" := by decide
    simp only [List.map_cons, List.map_append, List.map_map, List.map_nil, Function.comp_def, hline,
      if_neg hfirst, if_neg hlast, List.cons_append, intercalate_cons]
    simp [toList_tripleQuote, List.flatMap_map]

/-- Documentation is written as one literal, unless it is a single line that ends in quotes whose
number can be divided by three; what is one line is also the value of its literal then. -/
theorem docstring_literal (c : Code) (text : String)
    (hunit : ∀ ch ∈ c.unit.toList, ch ≠ '"' ∧ ch ≠ '\\') :
    c.lines <+: (c.docstring text).lines ∧
      ((c.literal? (c.docstring text)).isSome = true ↔ ¬ BreaksOff text) ∧
      ((∀ ch ∈ text.toList, isLineBreak ch = false) →
        ((c.literal? (c.docstring text)).bind textValue? = some text.toList ↔
          ¬ BreaksOff text)) := by
  refine ⟨(onto_addLines c _).lines, ?_⟩
  rcases hlines : linesOf text with - | ⟨line, - | ⟨next, lines⟩⟩
  · exact absurd hlines (linesOf_ne_nil text)
  · have hbreaks : BreaksOff text ↔ EndsInTriples line.toList := by
      unfold BreaksOff
      simp [hlines]
    have hvalue : (∀ ch ∈ text.toList, isLineBreak ch = false) → line = text := by
      intro h
      rw [linesOf_of_forall h] at hlines
      exact (List.cons.inj hlines).1.symm
    rw [literal?_docstring_of_single hlines, hbreaks]
    by_cases hends : EndsInTriples line.toList
    · obtain ⟨held, hread⟩ := readQuoted_line_of_endsInTriples hends
      simp [hread, hends]
    · obtain ⟨hread, htext⟩ := readQuoted_line hends
      simp only [hread, hends, Option.isSome_some, not_false_eq_true, iff_true, true_and,
        Option.bind_some, htext]
      intro h
      rw [hvalue h]
  · have hsome := literal?_docstring_of_several hunit hlines
    have hnot : ¬ BreaksOff text := by
      rintro ⟨_, hone, -⟩
      rw [hlines] at hone
      cases hone
    refine ⟨by simp [hsome, hnot], fun h => ?_⟩
    rw [linesOf_of_forall h] at hlines
    cases hlines

/-- A class whose documentation is written next. -/
def classBody : Code :=
  (empty "    ").openBlock "class A:"

theorem docstring_literal_greeting :
    (classBody.docstring "Says \"hi\"").lines = ["class A:", "    \"\"\"Says \"hi\\\"\"\"\""] ∧
      (classBody.literal? (classBody.docstring "Says \"hi\"")).bind textValue? =
        some "Says \"hi\"".toList := by
  obtain ⟨-, hone, hvalue⟩ := docstring_literal classBody "Says \"hi\"" (by decide)
  exact ⟨by decide +kernel, (hvalue (by decide)).2 (hone.1 (by decide +kernel))⟩

/-- Three quotes are not written as a literal. -/
theorem docstring_three_quotes :
    ¬ ∀ (c : Code) (text : String), (∀ ch ∈ c.unit.toList, ch ≠ '"' ∧ ch ≠ '\\') →
      (c.literal? (c.docstring text)).isSome = true ∧
        ((∀ ch ∈ text.toList, isLineBreak ch = false) →
          (c.literal? (c.docstring text)).bind textValue? = some text.toList) := by
  intro hall
  have hnone : (empty "    ").literal? ((empty "    ").docstring "\"\"\"") = none := by
    decide +kernel
  have hsome := (hall (empty "    ") "\"\"\"" (by decide)).1
  rw [hnone] at hsome
  cases hsome

end Code

end Bindery
