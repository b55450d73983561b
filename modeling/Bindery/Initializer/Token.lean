import Bindery.Initializer.Literal
import Bindery.Text.Blank
import Bindery.Text.Identifier

/-!
# Tokens of expressions

A respelled initializer falls into words, numbers, literals and marks. Blanks part tokens, a
backslash joins a line to the next one, and a comment goes on to the end of its line. The expression
ends at the first line end outside brackets; only comments and empty lines may follow. Brackets must
match, and the first line must not be indented.
-/

namespace Bindery.Initializer

open Bindery.Text

/-- A token. -/
inductive Token where
  /-- A name or a reserved word. -/
  | word (text : String)
  /-- A number, with its value if it is an integer. -/
  | number (value : Option Nat)
  /-- A text literal. -/
  | literal (l : Literal)
  /-- A mark. -/
  | mark (text : String)
deriving DecidableEq, Repr, Inhabited

/-- The marks of expressions; a mark stands before those it begins with. -/
def marks : List (List Char) :=
  ["...", "**", "//", "<<", ">>", "<=", ">=", "==", "!=", ":=", "+", "-", "*", "%", "@", "&", "|",
    "^", "~", "<", ">", "(", ")", "[", "]", "\x7b", "\x7d", ",", ":", ".", "="].map String.toList

/-- Whether a word starts with this character. -/
def isWordStart (c : Char) : Bool :=
  isAsciiLetter c || c == '_' || 128 ≤ c.toNat

/-- Reads a word, or a literal with letters before its quote. -/
def readWord (cs : List Char) : Option (Token × List Char) :=
  let word := cs.takeWhile isNamePart
  let rest := cs.dropWhile isNamePart
  let quoted := rest.head?.any fun c => c = '\'' ∨ c = '"'
  match if quoted then LiteralForm.ofLetters? word else none with
  | some form => (readLiteral form rest).map fun r => (.literal r.1, r.2)
  | none =>
    if word.all (·.toNat < 128) || isIdentifier word then some (.word (String.ofList word), rest)
    else none

/-- Reads a mark. -/
def readMark (cs : List Char) : Option (Token × List Char) :=
  (marks.find? (·.isPrefixOf cs)).map fun m => (.mark (String.ofList m), cs.drop m.length)

/-- Reads the token at the front of a text. -/
def readToken (cs : List Char) : Option (Token × List Char) :=
  match cs with
  | [] => none
  | c :: rest =>
    if isAsciiDigit c || (c == '.' && rest.head?.any isAsciiDigit) then
      (readNumber cs).map fun r => (.number r.1, r.2)
    else if c = '\'' ∨ c = '"' then
      (readLiteral ⟨false, false, false⟩ cs).map fun r => (.literal r.1, r.2)
    else if isWordStart c then readWord cs
    else readMark cs

/-- The brackets that are open behind a token. `opened` holds what closes each of them, the last
first. -/
def nest (opened : List Char) : Token → Option (List Char)
  | .mark text =>
    match text.toList with
    | [c] =>
      if isOpener c then
        if nestingLimit ≤ opened.length then none else some (closerOf c :: opened)
      else if isCloser c then
        match opened with
        | closer :: rest => if c = closer then some rest else none
        | [] => none
      else some opened
    | _ => some opened
  | _ => some opened

/-- A text from its first token on: empty lines and comments are skipped, and a line that is
indented is refused. A form feed starts the line anew, and an indentation before a joined line is
`kept`. -/
def skipLines (kept indented : Bool) : List Char → Option (List Char)
  | [] => some []
  | ' ' :: cs => skipLines kept true cs
  | '\t' :: cs => skipLines kept true cs
  | '\x0c' :: cs => skipLines kept false cs
  | '\n' :: cs => skipLines false false cs
  | '#' :: cs => skipComment cs
  | '\\' :: '\n' :: c :: cs => skipLines (kept || indented) indented (c :: cs)
  | c :: cs => if kept || indented then none else some (c :: cs)
where
  /-- A text behind the comment it starts with. -/
  skipComment : List Char → Option (List Char)
    | [] => some []
    | '\n' :: cs => skipLines false false cs
    | _ :: cs => skipComment cs

/-- The tokens of a text, and whether they go on to its end. Every step reads at least one
character; `steps` bounds their number. -/
def scanFrom : Nat → List Char → List Char → List Token × Bool
  | 0, _, _ => ([], false)
  | steps + 1, opened, cs =>
    match cs with
    | [] => ([], opened.isEmpty)
    | '#' :: rest => scanFrom steps opened (rest.dropWhile (· ≠ '\n'))
    | '\\' :: '\n' :: c :: rest => scanFrom steps opened (c :: rest)
    | '\n' :: rest =>
      if !opened.isEmpty then scanFrom steps opened rest
      else ([], skipLines false false rest = some [])
    | c :: rest =>
      if isSpacing c then scanFrom steps opened rest
      else
        match readToken cs with
        | none => ([], false)
        | some (token, rest) =>
          match nest opened token with
          | none => ([], false)
          | some opened =>
            let (tokens, isWhole) := scanFrom steps opened rest
            (token :: tokens, isWhole)

/-- The tokens of a text up to the first place where there is none, and whether they are all. -/
def scanned (cs : List Char) : List Token × Bool :=
  match skipLines false false (unifyLineEnds cs) with
  | none => ([], false)
  | some cs => scanFrom (cs.length + 1) [] cs

/-- The tokens of a text. -/
def scan (cs : List Char) : Option (List Token) :=
  let (tokens, isWhole) := scanned cs
  if isWhole then some tokens else none

end Bindery.Initializer
