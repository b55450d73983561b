import Bindery.Emit.Code
import Bindery.Value.Compare
import Bindery.Value.Misfit

/-!
# Code from data

Code can be built from any values. A line of a value that counts as nothing is empty; any other line
has to be a text, because indentation is put before it. Comments and documentation have to be texts,
whether they are empty or not, and a gap is counted from the empty lines that are there.
-/

namespace Bindery.Code

/-- The text of a line that is given as data. -/
def lineText (text : Value) : Except Misfit String :=
  match text with
  | .text s => .ok s
  | _ => if text.truthy then .error (.notAppendable "str" text.typeName) else .ok ""

/-- Adds a line that is given as data. -/
def lineGiven (c : Code) (text : Value) : Except Misfit Code :=
  (lineText text).map c.line

/-- Adds lines that are given as data. -/
def linesGiven (c : Code) (texts : List Value) : Except Misfit Code :=
  texts.foldlM lineGiven c

/-- Adds the empty lines that are missing for a gap of a given count. Only whole counts can ask for
lines. -/
def blankGiven (c : Code) (count : Value) : Except Misfit Code :=
  if c.lines.isEmpty then .ok c
  else
    match count with
    | .int n => .ok (c.blank n)
    | .bool b => .ok (c.blank (if b then 1 else 0))
    | .float bits =>
      if (Quantity.ofInt c.trailing).before (.ofBits bits) then .error (.notACount count.typeName)
      else .ok c
    | _ => .error (.notOperands "-" count.typeName (Value.int c.trailing).typeName)

/-- Adds a comment that is given as data. -/
def commentGiven (c : Code) (text : Value) : Except Misfit Code :=
  (text.textFor "splitlines").map c.comment

/-- Adds documentation that is given as data. -/
def docstringGiven (c : Code) (text : Value) : Except Misfit Code :=
  (text.textFor "replace").map c.docstring

/-- Opens a block whose header is given as data. -/
def openBlockGiven (c : Code) (header : Value) : Except Misfit Code :=
  (c.lineGiven header).map indent

/-- Closes a block whose footer is given as data. -/
def closeBlockGiven (c : Code) (footer : Value) : Except Misfit Code :=
  match footer with
  | .null => .ok (c.closeBlock none)
  | _ => (lineText footer).map fun s => c.closeBlock (some s)

/-- A line that is given as a text is that line. -/
theorem lineGiven_text (c : Code) (s : String) : c.lineGiven (.text s) = .ok (c.line s) := rfl

/-- A block that is opened and closed with texts is that block. -/
theorem closeBlockGiven_text (c : Code) (s : String) :
    c.closeBlockGiven (.text s) = .ok (c.closeBlock (some s)) := rfl

end Bindery.Code
