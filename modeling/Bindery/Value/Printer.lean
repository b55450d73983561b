import Bindery.Decimal.Shortest
import Bindery.Text.Quoted
import Bindery.Value.Basic

/-!
# Texts of values

The literal of a value as generated code and messages write it. Shown as a whole, a text stands for
itself; inside a list or an object it is quoted.
-/

namespace Bindery.Value

/-- Doubles are written in place up to the sixteenth digit before and the fourth zero behind the
decimal point, and with an exponent of at least two digits beyond. -/
def floatLayout : Decimal.Layout := ⟨-4, 16, 2, "nan", "inf"⟩

mutual

/-- The literal of a value. -/
def literal : Value → String
  | null => "None"
  | bool b => if b then "True" else "False"
  | int n => toString n
  | float bits => floatLayout.text bits
  | text s => Text.quoted s
  | list items => "[" ++ ", ".intercalate (literals items) ++ "]"
  | object fields => "\x7b" ++ ", ".intercalate (fieldLiterals fields) ++ "\x7d"

/-- The literals of the items of a list. -/
def literals : List Value → List String
  | [] => []
  | v :: vs => literal v :: literals vs

/-- The literals of the fields of an object. -/
def fieldLiterals : List (String × Value) → List String
  | [] => []
  | (name, v) :: rest => (Text.quoted name ++ ": " ++ literal v) :: fieldLiterals rest

end

/-- A value as text: a text itself, the literal of anything else. -/
def shown : Value → String
  | text s => s
  | v => literal v

end Bindery.Value

/-!
## JSON texts of values

Values are written as JSON in ASCII: other characters are escaped as UTF-16 code units. On one line,
items are parted by a comma and a blank; laid out, every item stands on a line of its own, indented
by two blanks a level.
-/

namespace Bindery.Value

/-- One UTF-16 code unit as an escape. -/
def unitEscape (n : Nat) : List Char :=
  '\\' :: 'u' :: Text.hexDigits 4 n

/-- One character of a JSON string. -/
def jsonChar (c : Char) : List Char :=
  let n := c.toNat
  if c == '"' then ['\\', '"']
  else if c == '\\' then ['\\', '\\']
  else if c == '\n' then ['\\', 'n']
  else if c == '\r' then ['\\', 'r']
  else if c == '\t' then ['\\', 't']
  else if n = 8 then ['\\', 'b']
  else if n = 12 then ['\\', 'f']
  else if 32 ≤ n ∧ n < 127 then [c]
  else if n < 0x10000 then unitEscape n
  else unitEscape (0xD800 + (n - 0x10000) / 0x400) ++ unitEscape (0xDC00 + (n - 0x10000) % 0x400)

/-- A JSON string. -/
def jsonString (s : String) : String :=
  String.ofList ('"' :: s.toList.flatMap jsonChar ++ ['"'])

/-- Doubles in JSON. -/
def jsonFloatLayout : Decimal.Layout :=
  ⟨floatLayout.leastPoint, floatLayout.greatestPoint, floatLayout.exponentWidth, "NaN", "Infinity"⟩

/-- How the parts of lists and objects are separated. -/
inductive JsonLayout where
  /-- Everything on one line. -/
  | line
  /-- Every item on a line of its own, at this depth. -/
  | indented (depth : Nat)
deriving DecidableEq, Repr

/-- The layout one level deeper. -/
def JsonLayout.deeper : JsonLayout → JsonLayout
  | line => line
  | indented depth => indented (depth + 1)

/-- What stands before the first item. -/
def JsonLayout.opening : JsonLayout → String
  | line => ""
  | indented depth => "\n" ++ String.ofList (List.replicate (2 * (depth + 1)) ' ')

/-- What stands between two items. -/
def JsonLayout.between : JsonLayout → String
  | line => ", "
  | indented depth => ",\n" ++ String.ofList (List.replicate (2 * (depth + 1)) ' ')

/-- What stands behind the last item. -/
def JsonLayout.closing : JsonLayout → String
  | line => ""
  | indented depth => "\n" ++ String.ofList (List.replicate (2 * depth) ' ')

/-- Brackets around items; nothing between them where there is no item. -/
def JsonLayout.enclose (l : JsonLayout) (left right : String) (items : List String) : String :=
  if items.isEmpty then left ++ right
  else left ++ l.opening ++ l.between.intercalate items ++ l.closing ++ right

mutual

/-- The JSON text of a value. -/
def toJson (l : JsonLayout) : Value → String
  | null => "null"
  | bool b => if b then "true" else "false"
  | int n => toString n
  | float bits => jsonFloatLayout.text bits
  | text s => jsonString s
  | list items => l.enclose "[" "]" (itemsToJson l.deeper items)
  | object fields => l.enclose "\x7b" "\x7d" (fieldsToJson l.deeper fields)

/-- The JSON texts of the items of a list. -/
def itemsToJson (l : JsonLayout) : List Value → List String
  | [] => []
  | v :: vs => toJson l v :: itemsToJson l vs

/-- The JSON texts of the fields of an object. -/
def fieldsToJson (l : JsonLayout) : List (String × Value) → List String
  | [] => []
  | (name, v) :: rest => (jsonString name ++ ": " ++ toJson l v) :: fieldsToJson l rest

end

end Bindery.Value

/-!
## Values that can be written

Integers are written only up to a number of digits, on their own and inside of other values.
-/

namespace Bindery

/-- The greatest count of digits of an integer that is written. -/
def writtenDigits : Nat := 4300

mutual

/-- Whether every integer in a value can be written. -/
def Value.isWritable : Value → Bool
  | .int n => (toString n.natAbs).length ≤ writtenDigits
  | .list items => areWritable items
  | .object fields => fieldsWritable fields
  | _ => true

/-- Whether every integer in the items of a list can be written. -/
def Value.areWritable : List Value → Bool
  | [] => true
  | v :: vs => v.isWritable && Value.areWritable vs

/-- Whether every integer in the fields of an object can be written. -/
def Value.fieldsWritable : List (String × Value) → Bool
  | [] => true
  | (_, v) :: rest => v.isWritable && Value.fieldsWritable rest

end

end Bindery
