import Bindery.Initializer.Respelling

/-!
# Numbers of expressions

A number is read off the front of a text. Decimal digits may be grouped by single underscores, and
so may the digits behind a mark of base sixteen, eight or two. Fractions, exponents and imaginary
numbers are recognised, but only integers have a value. A decimal integer other than zero has no
leading zero and at most 4300 digits. One that has a leading zero after all is read like a fraction
where the word else follows it directly, because that word starts like an exponent. What follows a
number must not look like a part of it.
-/

namespace Bindery.Initializer

open Bindery.Text

/-- Reads digits, with single underscores before digits. -/
def groupedDigits (p : Char → Bool) : List Char → Option (List Char × List Char)
  | [] => some ([], [])
  | ['_'] => none
  | '_' :: c :: cs =>
    if p c then (groupedDigits p cs).map fun r => (c :: r.1, r.2) else none
  | c :: cs =>
    if p c then (groupedDigits p cs).map fun r => (c :: r.1, r.2) else some ([], c :: cs)

/-- The value of a digit. -/
def digitValue (c : Char) : Nat :=
  if isAsciiDigit c then c.toNat - '0'.toNat
  else if 'a' ≤ c then c.toNat - 'a'.toNat + 10
  else c.toNat - 'A'.toNat + 10

/-- The number that digits stand for. -/
def digitsNumber (base : Nat) (digits : List Char) : Nat :=
  digits.foldl (fun n c => n * base + digitValue c) 0

/-- Whether a character can be part of a name. -/
def isNamePart (c : Char) : Bool :=
  isAsciiLetter c || isAsciiDigit c || c == '_' || 128 ≤ c.toNat

/-- Words that may follow a number without a blank. -/
def wordsAfterNumber : List (List Char) :=
  ["and", "else", "for", "if", "in", "is", "or", "not"].map String.toList

/-- Whether a number may end where this text goes on. -/
def endsNumber (cs : List Char) : Bool :=
  !cs.head?.any isNamePart || wordsAfterNumber.any (·.isPrefixOf cs)

/-- The greatest count of decimal digits. -/
def digitLimit : Nat := 4300

/-- Reads the digits behind the mark of a base. -/
def readBased (base : Nat) (p : Char → Bool) (cs : List Char) :
    Option (Option Nat × List Char) := do
  let (digits, rest) ← groupedDigits p cs
  if digits.isEmpty || rest.head?.any isAsciiDigit || !endsNumber rest then none
  else some (some (digitsNumber base digits), rest)

/-- Reads a fraction, if there is one: whether there was, and what follows. -/
def readFraction : List Char → Option (Bool × List Char)
  | '.' :: cs =>
    if cs.head?.any isAsciiDigit then (groupedDigits isAsciiDigit cs).map fun r => (true, r.2)
    else some (true, cs)
  | cs => some (false, cs)

/-- Reads an exponent, if there is one: whether there was, and what follows. A letter that is not
followed by digits is none, unless a sign stands behind it. -/
def readExponent (cs : List Char) : Option (Bool × List Char) :=
  match cs with
  | e :: rest =>
    if e = 'e' ∨ e = 'E' then
      let signed := rest.head?.any fun c => c = '+' ∨ c = '-'
      let digits := if signed then rest.tail else rest
      if digits.head?.any isAsciiDigit then
        (groupedDigits isAsciiDigit digits).map fun r => (true, r.2)
      else if signed then none
      else some (false, cs)
    else some (false, cs)
  | [] => some (false, [])

/-- The value of a decimal integer, if it can be written so. -/
def decimalValue? (digits : List Char) : Option Nat :=
  let n := digitsNumber 10 digits
  if n ≠ 0 ∧ (digits.head? = some '0' ∨ digitLimit < digits.length) then none else some n

/-- What a plain number is read as, if it can be written so: an integer, or no integer where it has
a leading zero and the word else follows it. -/
def plainNumber? (digits rest : List Char) : Option (Option Nat) :=
  match decimalValue? digits with
  | some n => some (some n)
  | none =>
    if digits.head? = some '0' ∧ "else".toList.isPrefixOf rest then some none else none

/-- Reads a decimal number. -/
def readDecimal (cs : List Char) : Option (Option Nat × List Char) := do
  let (digits, rest) ← groupedDigits isAsciiDigit cs
  let (fraction, rest) ← readFraction rest
  let (exponent, rest) ← readExponent rest
  let imaginary := rest.head?.any fun c => c = 'j' ∨ c = 'J'
  let rest := if imaginary then rest.tail else rest
  if !endsNumber rest then none
  else if fraction || exponent || imaginary then some (none, rest)
  else (plainNumber? digits rest).map fun value => (value, rest)

/-- Reads a number: its value if it is an integer, and what follows. -/
def readNumber (cs : List Char) : Option (Option Nat × List Char) :=
  match cs with
  | '0' :: x :: digits =>
    if x = 'x' ∨ x = 'X' then readBased 16 isHexDigit digits
    else if x = 'o' ∨ x = 'O' then readBased 8 isOctalDigit digits
    else if x = 'b' ∨ x = 'B' then readBased 2 (fun c => c == '0' || c == '1') digits
    else readDecimal cs
  | _ => readDecimal cs

end Bindery.Initializer
