import Bindery.Text.Word

/-!
# Respelled initializers

The initializer of an enumerator is respelled before it is read as an expression. A character in
quotes becomes its code, a number loses the letters behind it that tell its width, a leading zero
becomes the mark of an octal number, a scope is joined to its name by two underscores, and a slash
is doubled, since the division of integers is written with two.
-/

namespace Bindery.Initializer

open Bindery.Text

/-- Replaces quoted characters, with or without a backslash before them, by their codes. -/
def respellQuoted : List Char → List Char
  | [] => []
  | '\'' :: '\\' :: c :: '\'' :: cs =>
    if c = '\n' then '\'' :: respellQuoted ('\\' :: c :: '\'' :: cs)
    else (toString c.toNat).toList ++ respellQuoted cs
  | '\'' :: c :: '\'' :: cs =>
    if c = '\n' then '\'' :: respellQuoted (c :: '\'' :: cs)
    else (toString c.toNat).toList ++ respellQuoted cs
  | c :: cs => c :: respellQuoted cs

/-- The letters that may stand behind a number. -/
def isWidthLetter (c : Char) : Bool :=
  c == 'u' || c == 'U' || c == 'l' || c == 'L'

/-- Whether a character is a digit of a hexadecimal number. -/
def isHexDigit (c : Char) : Bool :=
  isAsciiDigit c || ('a' ≤ c && c ≤ 'f') || ('A' ≤ c && c ≤ 'F')

/-- Whether a character is a digit of an octal number. -/
def isOctalDigit (c : Char) : Bool :=
  '0' ≤ c && c ≤ '7'

/-- A word without the width letters behind its number. -/
def dropWidth (word : List Char) : List Char :=
  let split (p : Char → Bool) (lead digits : List Char) : List Char :=
    let number := digits.takeWhile p
    let letters := digits.dropWhile p
    if !number.isEmpty && !letters.isEmpty && letters.all isWidthLetter then lead ++ number
    else word
  match word with
  | '0' :: x :: digits =>
    if x = 'x' ∨ x = 'X' then split isHexDigit ['0', x] digits else split isDecimalDigit [] word
  | _ => split isDecimalDigit [] word

/-- A word whose leading zero is replaced by the mark of octal numbers, if it is one. -/
def markOctal (word : List Char) : List Char :=
  match word with
  | '0' :: digits =>
    if !digits.isEmpty && digits.all isOctalDigit then '0' :: 'o' :: digits else word
  | _ => word

/-- Joins scopes to their names by two underscores. -/
def joinScopes : List Char → List Char
  | [] => []
  | ':' :: ':' :: cs => '_' :: '_' :: joinScopes cs
  | c :: cs => c :: joinScopes cs

/-- Doubles every slash. -/
def doubleSlashes (cs : List Char) : List Char :=
  cs.flatMap fun c => if c = '/' then ['/', '/'] else [c]

/-- An initializer, respelled. -/
def respell (cs : List Char) : List Char :=
  doubleSlashes (joinScopes (mapWords markOctal (mapWords dropWidth (respellQuoted cs))))

end Bindery.Initializer
