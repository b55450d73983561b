import Bindery.Initializer.Number
import Bindery.Text.CharacterName

/-!
# Text literals of expressions

A text literal never has a value here, but an expression that holds one is only an expression if the
literal is well formed: it is closed, its escapes are complete and name characters that there are,
bytes are written in ASCII, and the braces of an interpolated literal part texts from the
expressions between them.
-/

namespace Bindery.Initializer

open Bindery.Text

/-- What the letters before a quote tell about a literal. -/
structure LiteralForm where
  /-- It stands for bytes. -/
  isBytes : Bool
  /-- Backslashes stand for themselves. -/
  isRaw : Bool
  /-- Braces hold expressions. -/
  isInterpolated : Bool
deriving DecidableEq, Repr, Inhabited

/-- The form that letters before a quote give a literal. -/
def LiteralForm.ofLetters? (letters : List Char) : Option LiteralForm :=
  match String.ofList (letters.map Char.toLower) with
  | "" => some ⟨false, false, false⟩
  | "u" => some ⟨false, false, false⟩
  | "b" => some ⟨true, false, false⟩
  | "r" => some ⟨false, true, false⟩
  | "f" => some ⟨false, false, true⟩
  | "br" => some ⟨true, true, false⟩
  | "rb" => some ⟨true, true, false⟩
  | "fr" => some ⟨false, true, true⟩
  | "rf" => some ⟨false, true, true⟩
  | _ => none

/-- Reads what stands between quotes: the text up to the closing quote, or the three of them, and
what follows. -/
def readQuoted (quote : Char) (triple : Bool) : List Char → Option (List Char × List Char)
  | [] => none
  | ['\\'] => none
  | '\\' :: c :: cs => (readQuoted quote triple cs).map fun r => ('\\' :: c :: r.1, r.2)
  | c :: cs =>
    if c = quote then
      if triple then
        match cs with
        | a :: b :: rest =>
          if a = quote ∧ b = quote then some ([], rest)
          else (readQuoted quote triple cs).map fun r => (c :: r.1, r.2)
        | _ => none
      else some ([], cs)
    else if c = '\n' ∧ !triple then none
    else (readQuoted quote triple cs).map fun r => (c :: r.1, r.2)

/-- How many digits an escape needs, by its letter. -/
def escapeWidth (isBytes : Bool) (letter : Char) : Nat :=
  if letter = 'x' then 2
  else if isBytes then 0
  else if letter = 'u' then 4
  else if letter = 'U' then 8
  else 0

/-- The greatest code point. -/
def codeLimit : Nat := 0x10FFFF

/-- Whether a text starts with the name of a character in braces. -/
def startsWithName : List Char → Bool
  | '\x7b' :: cs => cs.contains '\x7d' && isCharacterName (cs.takeWhile (· ≠ '\x7d'))
  | _ => false

/-- Whether every escape of a text is complete. -/
def escapesComplete (isBytes : Bool) : List Char → Bool
  | [] => true
  | '\\' :: c :: cs =>
    let width := escapeWidth isBytes c
    let digits := cs.take width
    let complete :=
      if c = 'N' ∧ !isBytes then startsWithName cs
      else digits.length = width && digits.all isHexDigit && digitsNumber 16 digits ≤ codeLimit
    complete && escapesComplete isBytes cs
  | _ :: cs => escapesComplete isBytes cs

/-- What closes a bracket. -/
def closerOf (opener : Char) : Char :=
  if opener = '(' then ')' else if opener = '[' then ']' else '\x7d'

/-- Whether a character opens a bracket. -/
def isOpener (c : Char) : Bool :=
  c == '(' || c == '[' || c == '\x7b'

/-- Whether a character closes a bracket. -/
def isCloser (c : Char) : Bool :=
  c == ')' || c == ']' || c == '\x7d'

/-- How deep brackets may be nested. -/
def nestingLimit : Nat := 200

/-- Reads an interpolated expression up to the mark that ends it: a closing brace, a colon, an
exclamation mark or an equals sign outside quotes and brackets. `quote` is the quote that is open
and whether it is a triple one, `opened` are the brackets that are open. -/
def readInterpolated :
    Option (Char × Bool) → List Char → List Char → Option (List Char × List Char)
  | _, _, [] => none
  | quote, opened, c :: cs =>
    if c = '\\' then none
    else
      let go (quote : Option (Char × Bool)) (opened : List Char) :=
        (readInterpolated quote opened cs).map fun r => (c :: r.1, r.2)
      match quote with
      | some (q, triple) =>
        if c = q then
          if triple then
            match cs with
            | a :: b :: rest =>
              if a = q ∧ b = q then
                (readInterpolated none opened rest).map fun r => (c :: a :: b :: r.1, r.2)
              else go quote opened
            | _ => go quote opened
          else go none opened
        else go quote opened
      | none =>
        if c = '\'' ∨ c = '"' then
          match cs with
          | a :: b :: rest =>
            if a = c ∧ b = c then
              (readInterpolated (some (c, true)) opened rest).map fun r => (c :: a :: b :: r.1, r.2)
            else go (some (c, false)) opened
          | _ => go (some (c, false)) opened
        else if isOpener c then
          if nestingLimit ≤ opened.length then none else go none (closerOf c :: opened)
        else if c = '#' then none
        else if opened.isEmpty && (c == '!' || c == '=' || c == '<' || c == '>') &&
            cs.head? == some '=' then
          match cs with
          | a :: rest => (readInterpolated none opened rest).map fun r => (c :: a :: r.1, r.2)
          | [] => none
        else if opened.isEmpty && (c == '!' || c == ':' || c == '=' || c == '\x7d') then
          some ([], c :: cs)
        else if isCloser c then
          match opened with
          | closer :: opened => if c = closer then go none opened else none
          | [] => none
        else go none opened

/-- Whether a character is a blank inside an expression. -/
def isSpacing (c : Char) : Bool :=
  c == ' ' || c == '\t' || c == '\x0c'

/-- Skips what may stand between an interpolated expression and its format: an equals sign with the
blanks behind it, and a conversion. -/
def skipConversion (cs : List Char) : Option (List Char) :=
  let cs :=
    match cs with
    | '=' :: rest => rest.dropWhile fun c => isSpacing c || c == '\n' || c == '\x0b' || c == '\r'
    | cs => cs
  match cs with
  | '!' :: c :: rest => if c = 's' ∨ c = 'r' ∨ c = 'a' then some rest else none
  | ['!'] => none
  | cs => some cs

/-- Reads the pieces of an interpolated text: the expressions in it, and what follows. At the top
level a doubled brace stands for a brace and the text goes on to its end; a format, which lies
inside, goes on to its closing brace and may hold expressions only at the first level. `steps`
bounds the number of pieces. -/
def readPieces (isRaw : Bool) :
    Nat → Nat → List Char → List Char → Option (List (List Char) × List Char)
  | 0, _, _, _ => none
  | steps + 1, level, piece, cs =>
    let complete := isRaw || escapesComplete false piece.reverse
    match cs with
    | [] => if complete then some ([], []) else none
    | '\\' :: 'N' :: '\x7b' :: rest =>
      if isRaw then readPieces isRaw steps level ('N' :: '\\' :: piece) ('\x7b' :: rest)
      else
        let name := rest.takeWhile (· ≠ '\x7d')
        if name.length = rest.length then none
        else
          readPieces isRaw steps level
            ('\x7d' :: name.reverse ++ '\x7b' :: 'N' :: '\\' :: piece)
            (rest.drop (name.length + 1))
    | '\x7b' :: '\x7b' :: rest =>
      if level = 0 then if complete then readPieces isRaw steps level [] rest else none
      else readField steps level complete ('\x7b' :: rest)
    | '\x7b' :: rest => readField steps level complete rest
    | '\x7d' :: rest =>
      if !complete then none
      else if 0 < level then some ([], '\x7d' :: rest)
      else
        match rest with
        | '\x7d' :: rest => readPieces isRaw steps level [] rest
        | _ => none
    | '\\' :: c :: rest =>
      if c = '\x7b' ∨ c = '\x7d' ∨ isRaw then
        readPieces isRaw steps level ('\\' :: piece) (c :: rest)
      else readPieces isRaw steps level (c :: '\\' :: piece) rest
    | c :: rest => readPieces isRaw steps level (c :: piece) rest
where
  /-- Reads an expression with its conversion and format, and what follows. -/
  readField (steps level : Nat) (complete : Bool) (cs : List Char) :
      Option (List (List Char) × List Char) := do
    if !complete || 2 ≤ level then none
    else
      let (field, rest) ← readInterpolated none [] cs
      if field.all fun c => isSpacing c || c == '\n' then none
      else
        let rest ← skipConversion rest
        let (inner, rest) ←
          match rest with
          | ':' :: rest => readPieces isRaw steps (level + 1) [] rest
          | rest => some ([], rest)
        match rest with
        | '\x7d' :: rest =>
          (readPieces isRaw steps level [] rest).map fun r => (field :: inner ++ r.1, r.2)
        | _ => none

/-- What the grammar needs to know of a literal. -/
structure Literal where
  /-- It stands for bytes. -/
  isBytes : Bool
  /-- The expressions interpolated in it. -/
  fields : List (List Char)
deriving DecidableEq, Repr, Inhabited

/-- A literal of a form with a text between its quotes, if it is well formed. -/
def Literal.ofText? (form : LiteralForm) (text : List Char) : Option Literal :=
  if form.isInterpolated then
    match readPieces form.isRaw (text.length + 1) 0 [] text with
    | some (fields, []) => some ⟨false, fields⟩
    | _ => none
  else if form.isBytes && text.any (128 ≤ ·.toNat) then none
  else if form.isRaw || escapesComplete form.isBytes text then some ⟨form.isBytes, []⟩
  else none

/-- Reads a literal from its quote on. -/
def readLiteral (form : LiteralForm) (cs : List Char) : Option (Literal × List Char) := do
  let (text, rest) ←
    match cs with
    | a :: b :: c :: rest =>
      if a = b ∧ a = c then readQuoted a true rest
      else if a = b then some ([], c :: rest)
      else readQuoted a false (b :: c :: rest)
    | [a, b] => if a = b then some ([], []) else none
    | _ => none
  let literal ← Literal.ofText? form text
  return (literal, rest)

end Bindery.Initializer
