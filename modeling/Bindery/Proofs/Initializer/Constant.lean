import Bindery.Proofs.Initializer.Arithmetic
import Mathlib.Data.List.Chain

/-!
# Constant expressions of C

Everything that enumerators are given in headers, as far as it is made of integers and characters:
besides what integer expressions are made of, there are numbers of binary digits, characters in
quotes, and the operators that divide. Integers have no bounds. A quotient is rounded towards zero,
a remainder has the sign of what is divided, and an escape stands for the character that C gives it.

As in integer expressions, the tier at which an expression can stand is a part of its type, and no
definition here refers to how initializers are respelled, read or evaluated.
-/

namespace Bindery.Initializer

/-! ### Characters -/

/-- The escapes of one character. -/
inductive Escape where
  /-- A single quote. -/
  | quote
  /-- A double quote. -/
  | doubleQuote
  /-- A question mark. -/
  | questionMark
  /-- A backslash. -/
  | backslash
  /-- The bell. -/
  | alert
  /-- One character back. -/
  | backspace
  /-- The end of a page. -/
  | formFeed
  /-- The end of a line. -/
  | lineFeed
  /-- The beginning of a line. -/
  | carriageReturn
  /-- A tab. -/
  | tab
  /-- A tab downwards. -/
  | verticalTab
  /-- The code that an octal digit stands for. -/
  | octal (d : Fin 8)
deriving DecidableEq, Repr, Inhabited

namespace Escape

/-- What stands behind the backslash. -/
def letter : Escape → Char
  | quote => '\''
  | doubleQuote => '"'
  | questionMark => '?'
  | backslash => '\\'
  | alert => 'a'
  | backspace => 'b'
  | formFeed => 'f'
  | lineFeed => 'n'
  | carriageReturn => 'r'
  | tab => 't'
  | verticalTab => 'v'
  | octal d => Char.ofNat ('0'.toNat + d)

/-- The code of the character it stands for. -/
def code : Escape → Nat
  | quote => 39
  | doubleQuote => 34
  | questionMark => 63
  | backslash => 92
  | alert => 7
  | backspace => 8
  | formFeed => 12
  | lineFeed => 10
  | carriageReturn => 13
  | tab => 9
  | verticalTab => 11
  | octal d => d

end Escape

/-- A character in quotes. -/
inductive CharacterLiteral where
  /-- A character that stands for itself. -/
  | plain (c : Char) (h : c ∉ ['\'', '\\', '\n'])
  /-- An escape. -/
  | escape (e : Escape)
deriving DecidableEq

namespace CharacterLiteral

/-- The text between the quotes. -/
def inner : CharacterLiteral → List Char
  | plain c _ => [c]
  | escape e => ['\\', e.letter]

/-- The text. -/
def text (q : CharacterLiteral) : List Char :=
  '\'' :: q.inner ++ ['\'']

/-- The code of the character it stands for. -/
def code : CharacterLiteral → Nat
  | plain c _ => c.toNat
  | escape e => e.code

/-- The last character before the closing quote. -/
def letter : CharacterLiteral → Char
  | plain c _ => c
  | escape e => e.letter

end CharacterLiteral

/-! ### Numbers -/

/-- A number of binary digits. -/
structure BinaryLiteral where
  /-- The letter that tells its base may be a capital. -/
  capital : Bool
  /-- Its digits. -/
  digits : List Char
  /-- The letters behind it, which tell its width. -/
  suffix : List Char
  /-- There are two digits. -/
  digits_subset : digits ⊆ ['0', '1']
  /-- At least one of them is written. -/
  digits_ne_nil : digits ≠ []
  /-- The letters are those for unsigned and long numbers. -/
  suffix_subset : suffix ⊆ "uUlL".toList

namespace BinaryLiteral

/-- The number. -/
def value (l : BinaryLiteral) : Nat :=
  Nat.ofDigits 2 (l.digits.reverse.map IntegerLiteral.digit)

/-- The text. -/
def text (l : BinaryLiteral) : List Char :=
  '0' :: (if l.capital then 'B' else 'b') :: (l.digits ++ l.suffix)

end BinaryLiteral

/-- What is written for an integer. -/
inductive Numeral where
  /-- Decimal, octal or hexadecimal digits. -/
  | integer (l : IntegerLiteral)
  /-- Binary digits. -/
  | binary (l : BinaryLiteral)
  /-- A character. -/
  | character (q : CharacterLiteral)

namespace Numeral

/-- The integer. -/
def value : Numeral → Nat
  | integer l => l.value
  | binary l => l.value
  | character q => q.code

/-- The text. -/
def text : Numeral → List Char
  | integer l => l.text
  | binary l => l.text
  | character q => q.text

end Numeral

/-! ### Operators -/

/-- The operators between two integers. -/
inductive ConstantOp where
  /-- One that does not divide. -/
  | integer (op : IntegerOp)
  /-- The quotient. -/
  | divide
  /-- The remainder. -/
  | remainder
deriving DecidableEq, Repr, Inhabited

namespace ConstantOp

/-- How it is written. -/
def mark : ConstantOp → String
  | integer op => op.mark
  | divide => "/"
  | remainder => "%"

/-- The tier of an operator, which is that of the product for those that divide. -/
def tier : ConstantOp → Nat
  | integer op => op.tier
  | divide | remainder => IntegerOp.multiply.tier

theorem two_le_tier (op : ConstantOp) : 2 ≤ op.tier := by
  cases op with
  | integer op => exact op.two_le_tier
  | _ => decide

theorem tier_le_widest (op : ConstantOp) : op.tier ≤ IntegerOp.widest := by
  cases op with
  | integer op => exact op.tier_le_widest
  | _ => decide

/-- The integer it makes of two. -/
def result : ConstantOp → Int → Int → Int
  | integer op, m, n => op.result m n
  | divide, m, n => m.tdiv n
  | remainder, m, n => m.tmod n

/-- Whether it can be given this integer on its right: nothing is divided by zero. -/
def allows : ConstantOp → Int → Bool
  | integer op, n => op.allows n
  | divide, n | remainder, n => n ≠ 0

/-- The value it makes of two, if it can be given the second. -/
def value (op : ConstantOp) (m n : Int) : Option Int :=
  if op.allows n then some (op.result m n) else none

end ConstantOp

/-! ### Expressions -/

/-- An expression that can stand where a tier is wanted. -/
inductive ConstantExpr : Nat → Type where
  /-- A number or a character. -/
  | numeral {t : Nat} (n : Numeral) : ConstantExpr t
  /-- The name of an enumerator. -/
  | name {t : Nat} (n : Identifier) : ConstantExpr t
  /-- Any expression in parentheses. -/
  | parens {t : Nat} (e : ConstantExpr IntegerOp.widest) : ConstantExpr t
  /-- An expression behind a sign. -/
  | unary {t : Nat} (op : UnaryOp) (e : ConstantExpr 1) (h : 1 ≤ t) : ConstantExpr t
  /-- Two expressions joined by an operator. What is of its tier can stand on its left only. -/
  | binary {t : Nat} (op : ConstantOp) (l : ConstantExpr op.tier) (r : ConstantExpr (op.tier - 1))
      (h : op.tier ≤ t) : ConstantExpr t

namespace ConstantExpr

/-- The integer an expression stands for, if all its names stand for integers and each of its
operators can be given what is on its right. -/
def value (env : String → Option Int) {t : Nat} : ConstantExpr t → Option Int
  | numeral n => some n.value
  | name n => env n.1
  | parens e => e.value env
  | unary op e _ => (e.value env).map op.result
  | binary op l r _ => (l.value env).bind fun m => (r.value env).bind fun n => op.value m n

/-- How deep parentheses are nested. -/
def nesting {t : Nat} : ConstantExpr t → Nat
  | numeral _ => 0
  | name _ => 0
  | parens e => e.nesting + 1
  | unary _ e _ => e.nesting
  | binary _ l r _ => max l.nesting r.nesting

end ConstantExpr

/-! ### Texts -/

/-- What an expression is written with. -/
inductive Symbol where
  /-- A number or a character. -/
  | numeral (n : Numeral)
  /-- A name. -/
  | name (n : Identifier)
  /-- An opening parenthesis. -/
  | opening
  /-- A closing parenthesis. -/
  | closing
  /-- A sign. -/
  | sign (op : UnaryOp)
  /-- An operator between two expressions. -/
  | operator (op : ConstantOp)

namespace Symbol

/-- The text of a symbol if numerals are spelled in some way. -/
def spelled (f : Numeral → List Char) : Symbol → List Char
  | numeral n => f n
  | name n => n.1.toList
  | opening => ['(']
  | closing => [')']
  | sign op => op.mark.toList
  | operator op => op.mark.toList

/-- The text of a symbol. -/
def text : Symbol → List Char :=
  spelled Numeral.text

end Symbol

/-- The symbols of an expression. -/
def ConstantExpr.symbols {t : Nat} : ConstantExpr t → List Symbol
  | numeral n => [.numeral n]
  | name n => [.name n]
  | parens e => .opening :: e.symbols ++ [.closing]
  | unary op e _ => .sign op :: e.symbols
  | binary op l r _ => l.symbols ++ .operator op :: r.symbols

/-- Whether a character can part symbols: it is a blank or ends a line. -/
def isGap (c : Char) : Bool :=
  isSpacing c || c == '\n' || c == '\r' || c == '\x0b'

/-- A text that consists of symbols, each spelled in some way, and of gaps between them. -/
inductive Spaced (gap : Char → Bool) (spell : Symbol → List Char) :
    List Symbol → List Char → Prop where
  /-- The last symbol. -/
  | last (s : Symbol) : Spaced gap spell [s] (spell s)
  /-- A symbol, a gap, and the symbols behind them. -/
  | more (s : Symbol) {blanks : List Char} (hblanks : ∀ c ∈ blanks, gap c = true)
      {ss : List Symbol} {cs : List Char} (h : Spaced gap spell ss cs) :
      Spaced gap spell (s :: ss) (spell s ++ (blanks ++ cs))

/-- A text of a header that an expression is written in. -/
def ConstantExpr.Spells {t : Nat} (e : ConstantExpr t) (text : String) : Prop :=
  Spaced isGap Symbol.text e.symbols text.toList

namespace Spaced

variable {gap gap' : Char → Bool} {spell spell' : Symbol → List Char} {ss : List Symbol}
  {cs : List Char}

/-- What parts symbols may be allowed to be more than it is. -/
theorem mono (h : Spaced gap spell ss cs) (hgap : ∀ c, gap c = true → gap' c = true) :
    Spaced gap' spell ss cs := by
  induction h with
  | last s => exact .last s
  | more s hblanks _ ih => exact .more s (fun c hc => hgap c (hblanks c hc)) ih

/-- Symbols can be written with any gaps before all but the first of them. -/
theorem of_gaps (s : Symbol) {rest : List (List Char × Symbol)}
    (h : ∀ r ∈ rest, ∀ c ∈ r.1, gap c = true) :
    Spaced gap spell (s :: rest.map (·.2)) (spell s ++ rest.flatMap fun r => r.1 ++ spell r.2) := by
  induction rest generalizing s with
  | nil =>
    rw [List.flatMap_nil, List.append_nil]
    exact .last s
  | cons r rest ih =>
    obtain ⟨hr, hrest⟩ := List.forall_mem_cons.1 h
    rw [List.flatMap_cons, List.append_assoc]
    exact .more s hr (ih r.2 hrest)

/-- Symbols can be written without gaps. -/
theorem exists_spaced (gap : Char → Bool) (spell : Symbol → List Char) (hss : ss ≠ []) :
    ∃ cs, Spaced gap spell ss cs := by
  obtain ⟨s, ss, rfl⟩ := List.exists_cons_of_ne_nil hss
  have hgaps : ∀ r ∈ ss.map fun s => (([] : List Char), s), ∀ c ∈ r.1, gap c = true := by simp
  have hsymbols : (ss.map fun s => (([] : List Char), s)).map (·.2) = ss := by simp
  exact ⟨_, hsymbols ▸ of_gaps s hgaps⟩

/-- A text begins with its first symbol. -/
theorem exists_eq_append {s : Symbol} (h : Spaced gap spell (s :: ss) cs) :
    ∃ rest, cs = spell s ++ rest := by
  cases h with
  | last => exact ⟨[], (List.append_nil _).symm⟩
  | more _ _ _ => exact ⟨_, rfl⟩

/-- A text has a first symbol. -/
theorem exists_eq_cons (h : Spaced gap spell ss cs) : ∃ s ss', ss = s :: ss' := by
  cases h with
  | last s => exact ⟨s, [], rfl⟩
  | more s _ _ => exact ⟨s, _, rfl⟩

/-- A text ends with one of its symbols. -/
theorem exists_eq_concat (h : Spaced gap spell ss cs) : ∃ ds s, cs = ds ++ spell s := by
  induction h with
  | last s => exact ⟨[], s, rfl⟩
  | @more s blanks _ ss cs _ ih =>
    obtain ⟨ds, s', rfl⟩ := ih
    exact ⟨spell s ++ (blanks ++ ds), s', by simp only [List.append_assoc]⟩

/-- What holds of the characters of symbols and gaps holds of those of a text. -/
theorem forall_mem {p : Char → Prop} (h : Spaced gap spell ss cs)
    (hspell : ∀ s ∈ ss, ∀ c ∈ spell s, p c) (hgap : ∀ c, gap c = true → p c) : ∀ c ∈ cs, p c := by
  induction h with
  | last s => exact hspell s (List.mem_cons_self ..)
  | more s hblanks _ ih =>
    intro c hc
    obtain hc | hc := List.mem_append.1 hc
    · exact hspell s (List.mem_cons_self ..) c hc
    obtain hc | hc := List.mem_append.1 hc
    · exact hgap c (hblanks c hc)
    · exact ih (fun s hs => hspell s (List.mem_cons_of_mem _ hs)) c hc

end Spaced

/-- An expression is written with its symbols and any gaps between them. -/
theorem ConstantExpr.Spells.of_gaps {t : Nat} {e : ConstantExpr t} {text : String} {s : Symbol}
    (rest : List (List Char × Symbol)) (he : e.symbols = s :: rest.map (·.2))
    (hgaps : ∀ r ∈ rest, ∀ c ∈ r.1, isGap c = true)
    (htext : text.toList = s.text ++ rest.flatMap fun r => r.1 ++ r.2.text) : e.Spells text := by
  rw [Spells, he, htext]
  exact .of_gaps s hgaps

/-! ### What can be read -/

/-- A decimal number is no longer than it may be. -/
def IntegerLiteral.Fits (l : IntegerLiteral) : Prop :=
  l.radix = .decimal → l.digits.length ≤ digitLimit

/-- A numeral can be read: a decimal number is no longer than it may be, and a binary one has no
letters behind it. -/
def Numeral.Fits : Numeral → Prop
  | integer l => l.Fits
  | binary l => l.suffix = []
  | character _ => True

/-- A numeral that can be read, or anything else. -/
def Symbol.Fits : Symbol → Prop
  | numeral n => n.Fits
  | _ => True

/-- An expression keeps the limits of the reader: at most 200 pairs of parentheses stand in each
other, and every numeral can be read. -/
structure ConstantExpr.Fits {t : Nat} (e : ConstantExpr t) : Prop where
  /-- Parentheses are not nested deeper than they may be. -/
  nesting_le : e.nesting ≤ nestingLimit
  /-- Every numeral can be read. -/
  fits : ∀ s ∈ e.symbols, s.Fits

/-! ### What stands next to what -/

namespace Symbol

/-- Whether an expression can begin with a symbol. -/
def begins : Symbol → Bool
  | numeral _ | name _ | opening | sign _ => true
  | closing | operator _ => false

/-- Whether an expression can end with a symbol. -/
def ends : Symbol → Bool
  | numeral _ | name _ | closing => true
  | opening | sign _ | operator _ => false

/-- Whether a symbol can stand behind another one: exactly where no expression has ended, another
one begins. -/
def Joins (s s' : Symbol) : Prop :=
  s.ends = !s'.begins

end Symbol

namespace ConstantExpr

theorem exists_symbols_eq_cons {t : Nat} (e : ConstantExpr t) :
    ∃ s ss, e.symbols = s :: ss ∧ s.begins = true := by
  induction e with
  | numeral n => exact ⟨_, _, rfl, rfl⟩
  | name n => exact ⟨_, _, rfl, rfl⟩
  | parens e ih => exact ⟨_, _, rfl, rfl⟩
  | unary op e h ih => exact ⟨_, _, rfl, rfl⟩
  | binary op l r h ihl ihr =>
    obtain ⟨s, ss, hl, hs⟩ := ihl
    exact ⟨s, ss ++ .operator op :: r.symbols, by rw [symbols, hl]; rfl, hs⟩

theorem symbols_ne_nil {t : Nat} (e : ConstantExpr t) : e.symbols ≠ [] := by
  obtain ⟨s, ss, he, -⟩ := e.exists_symbols_eq_cons
  rw [he]
  exact List.cons_ne_nil _ _

theorem exists_symbols_eq_concat {t : Nat} (e : ConstantExpr t) :
    ∃ ss s, e.symbols = ss ++ [s] ∧ s.ends = true := by
  induction e with
  | numeral n => exact ⟨[], _, rfl, rfl⟩
  | name n => exact ⟨[], _, rfl, rfl⟩
  | parens e ih => exact ⟨.opening :: e.symbols, _, rfl, rfl⟩
  | unary op e h ih =>
    obtain ⟨ss, s, he, hs⟩ := ih
    exact ⟨.sign op :: ss, s, by rw [symbols, he]; rfl, hs⟩
  | binary op l r h ihl ihr =>
    obtain ⟨ss, s, hr, hs⟩ := ihr
    exact ⟨l.symbols ++ .operator op :: ss, s, by rw [symbols, hr]; simp, hs⟩

/-- An expression stands behind a symbol that does not end one. -/
theorem isChain_cons_symbols {t : Nat} {e : ConstantExpr t} (h : e.symbols.IsChain Symbol.Joins)
    {s : Symbol} (hs : s.ends = false) : (s :: e.symbols).IsChain Symbol.Joins := by
  obtain ⟨s', ss, he, hs'⟩ := e.exists_symbols_eq_cons
  rw [he] at h ⊢
  exact .cons_cons (by rw [Symbol.Joins, hs, hs']; rfl) h

/-- A symbol that does not begin an expression stands behind one. -/
theorem isChain_symbols_append {t : Nat} {e : ConstantExpr t} (ss : List Symbol)
    (h : (ss ++ e.symbols).IsChain Symbol.Joins) {s : Symbol} {ss' : List Symbol}
    (hss' : (s :: ss').IsChain Symbol.Joins) (hs : s.begins = false) :
    (ss ++ e.symbols ++ s :: ss').IsChain Symbol.Joins := by
  obtain ⟨es, l, he, hl⟩ := e.exists_symbols_eq_concat
  refine List.isChain_append.2 ⟨h, hss', ?_⟩
  intro a ha b hb
  rw [he, ← List.append_assoc, List.getLast?_concat, Option.mem_some_iff] at ha
  rw [List.head?_cons, Option.mem_some_iff] at hb
  rw [← ha, ← hb, Symbol.Joins, hl, hs]
  rfl

/-- Every symbol of an expression can stand behind the one before it. -/
theorem isChain_symbols {t : Nat} (e : ConstantExpr t) : e.symbols.IsChain Symbol.Joins := by
  induction e with
  | numeral n => exact .singleton _
  | name n => exact .singleton _
  | parens e ih =>
    exact isChain_symbols_append [.opening] (isChain_cons_symbols ih rfl)
      (.singleton Symbol.closing) rfl
  | unary op e h ih => exact isChain_cons_symbols ih rfl
  | binary op l r h ihl ihr =>
    exact isChain_symbols_append [] ihl (isChain_cons_symbols ihr rfl) rfl

end ConstantExpr

/-! ### Integer expressions -/

/-- The symbol that a lexeme of an integer expression is. -/
def Lexeme.symbol : Lexeme → Symbol
  | literal l => .numeral (.integer l)
  | name n => .name n
  | opening => .opening
  | closing => .closing
  | sign op => .sign op
  | operator op => .operator (.integer op)

theorem Lexeme.text_symbol (l : Lexeme) : l.symbol.text = l.text := by
  cases l <;> rfl

/-- What is written with lexemes and blanks is written with symbols. -/
theorem Written.spaced {ls : List Lexeme} {cs : List Char} (h : Written Lexeme.text ls cs) :
    Spaced isSpacing Symbol.text (ls.map Lexeme.symbol) cs := by
  induction h with
  | last l =>
    rw [← l.text_symbol]
    exact .last _
  | more l hblanks _ ih =>
    rw [← l.text_symbol]
    exact .more _ hblanks ih

namespace IntegerExpr

/-- An integer expression among all constant expressions. -/
def constant {t : Nat} : IntegerExpr t → ConstantExpr t
  | literal l => .numeral (.integer l)
  | name n => .name n
  | parens e => .parens e.constant
  | unary op e h => .unary op e.constant h
  | binary op l r h => .binary (.integer op) l.constant r.constant h

theorem symbols_constant {t : Nat} (e : IntegerExpr t) :
    e.constant.symbols = e.lexemes.map Lexeme.symbol := by
  induction e with
  | literal l => rfl
  | name n => rfl
  | parens e ih => rw [constant, ConstantExpr.symbols, ih, lexemes, List.map_append]; rfl
  | unary op e h ih => rw [constant, ConstantExpr.symbols, ih, lexemes]; rfl
  | binary op l r h ihl ihr =>
    change l.constant.symbols ++ .operator (.integer op) :: r.constant.symbols = _
    rw [ihl, ihr, lexemes, List.map_append]
    rfl

theorem nesting_constant {t : Nat} (e : IntegerExpr t) : e.constant.nesting = e.nesting := by
  induction e with
  | literal l => rfl
  | name n => rfl
  | parens e ih => rw [constant, ConstantExpr.nesting, ih, nesting]
  | unary op e h ih => exact ih
  | binary op l r h ihl ihr =>
    change max l.constant.nesting r.constant.nesting = _
    rw [ihl, ihr, nesting]

/-- Every number in an expression is as long as it may be if all of them are. -/
theorem fits_of_decimals {t : Nat} (e : IntegerExpr t) (h : e.decimals ≤ digitLimit) :
    ∀ s ∈ e.constant.symbols, s.Fits := by
  induction e with
  | literal l =>
    intro s hs
    obtain rfl := List.mem_singleton.1 hs
    intro hr
    rwa [decimals, if_pos hr] at h
  | name n =>
    intro s hs
    obtain rfl := List.mem_singleton.1 hs
    trivial
  | parens e ih =>
    intro s hs
    simp only [constant, ConstantExpr.symbols, List.mem_append, List.mem_cons, List.not_mem_nil,
      or_false] at hs
    obtain (rfl | hs) | rfl := hs
    · trivial
    · exact ih h s hs
    · trivial
  | unary op e _ ih =>
    intro s hs
    obtain rfl | hs := List.mem_cons.1 hs
    · trivial
    · exact ih h s hs
  | binary op l r _ ihl ihr =>
    intro s hs
    rw [decimals] at h
    change s ∈ l.constant.symbols ++ .operator (.integer op) :: r.constant.symbols at hs
    simp only [List.mem_append, List.mem_cons] at hs
    obtain hs | rfl | hs := hs
    · exact ihl (by omega) s hs
    · trivial
    · exact ihr (by omega) s hs

/-- An integer expression that keeps the limits of the reader keeps them as a constant one. -/
theorem Fits.constant {t : Nat} {e : IntegerExpr t} (h : e.Fits) : e.constant.Fits :=
  ⟨e.nesting_constant ▸ h.nesting_le, e.fits_of_decimals h.decimals_le⟩

end IntegerExpr

end Bindery.Initializer
