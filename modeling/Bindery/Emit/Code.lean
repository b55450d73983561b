import Bindery.Text.Blank

/-!
# Lines of generated code

Code is built line by line at a level of indentation. Empty lines are never indented. Besides plain
lines there are comments, documentation in triple quotes, and gaps, which only add the empty lines
that are missing. The finished text ends in exactly one line end.
-/

namespace Bindery

open Bindery.Text

/-- Code under construction. -/
structure Code where
  /-- The lines so far. -/
  lines : List String
  /-- The level of indentation. -/
  level : Nat
  /-- What one level of indentation is written as. -/
  unit : String
deriving DecidableEq, Repr, Inhabited

namespace Code

/-- Code without lines. -/
def empty (unit : String) : Code := ⟨[], 0, unit⟩

/-- A text written several times. -/
def times (n : Nat) (s : String) : String :=
  String.join (List.replicate n s)

/-- Adds a line. -/
def line (c : Code) (text : String) : Code :=
  { c with lines := c.lines ++ [if text = "" then "" else times c.level c.unit ++ text] }

/-- Adds lines. -/
def addLines (c : Code) (texts : List String) : Code :=
  texts.foldl line c

/-- How many empty lines the code ends with. -/
def trailing (c : Code) : Nat :=
  (c.lines.reverse.takeWhile (· == "")).length

/-- Adds the empty lines that are missing for a gap; no gap opens the code. -/
def blank (c : Code) (count : Int) : Code :=
  if c.lines.isEmpty then c
  else { c with lines := c.lines ++ List.replicate (count - c.trailing).toNat "" }

/-- The lines of a text, at least one. -/
def linesOf (text : String) : List String :=
  let parts := textLines text
  if parts.isEmpty then [""] else parts

/-- One line of a comment. -/
def commentLine (part : String) : String :=
  String.ofList (stripEnd ("# ".toList ++ part.toList))

/-- Adds a text as a comment. -/
def comment (c : Code) (text : String) : Code :=
  c.addLines ((linesOf text).map commentLine)

/-- The mark that opens and closes documentation. -/
def tripleQuote : String := "\"\"\""

/-- Characters of documentation with backslashes doubled. -/
def doubleBackslashes (cs : List Char) : List Char :=
  cs.flatMap fun c => if c = '\\' then ['\\', '\\'] else [c]

/-- Characters of documentation with a backslash before each of three quotes in a row. -/
def escapeQuotes : List Char → List Char
  | [] => []
  | '"' :: '"' :: '"' :: cs => '\\' :: '"' :: '\\' :: '"' :: '\\' :: '"' :: escapeQuotes cs
  | c :: cs => c :: escapeQuotes cs

/-- A line with a backslash before the quote it ends with. -/
def escapeLastQuote (cs : List Char) : List Char :=
  match cs.reverse with
  | '"' :: rest => rest.reverse ++ ['\\', '"']
  | _ => cs

/-- A text as it stands in documentation. -/
def escapeDocstring (text : String) : String :=
  String.ofList (escapeQuotes (doubleBackslashes text.toList))

/-- The lines of documentation. -/
def docstringLines (text : String) : List String :=
  match linesOf (escapeDocstring text) with
  | [] => []
  | [part] => [tripleQuote ++ String.ofList (escapeLastQuote part.toList) ++ tripleQuote]
  | part :: parts => (tripleQuote ++ part) :: parts ++ [tripleQuote]

/-- Adds a text as documentation. -/
def docstring (c : Code) (text : String) : Code :=
  c.addLines (docstringLines text)

/-- One level further in. -/
def indent (c : Code) : Code :=
  { c with level := c.level + 1 }

/-- One level further out; the outermost level stays. -/
def dedent (c : Code) : Code :=
  { c with level := c.level - 1 }

/-- Opens a block. -/
def openBlock (c : Code) (header : String) : Code :=
  (c.line header).indent

/-- Closes a block. -/
def closeBlock (c : Code) (footer : Option String) : Code :=
  match footer with
  | some f => c.dedent.line f
  | none => c.dedent

/-- The text of the code. -/
def output (c : Code) : String :=
  "\n".intercalate (c.lines.reverse.dropWhile (· == "")).reverse ++ "\n"

/-- Removes all lines and all indentation. -/
def clear (c : Code) : Code :=
  empty c.unit

end Code

end Bindery
