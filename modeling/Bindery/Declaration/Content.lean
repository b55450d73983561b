import Bindery.Declaration.Basic
import Bindery.Declaration.Fault
import Bindery.Report
import Bindery.Value.Printer

/-!
# Contents of attributes

Data can give any value to any attribute of a declaration. Besides values an attribute can hold a
list with declarations among its items, a kind, an access level or a place. Access levels and places
are read from values when they are given; these are the only values that can be refused.
-/

namespace Bindery

/-- An item of a list. -/
inductive Item where
  /-- A value. -/
  | value (v : Value)
  /-- A declaration, by number. -/
  | declaration (id : Nat)
deriving Repr, Inhabited

/-- The number of an item that is a declaration. -/
def Item.number? : Item → Option Nat
  | value _ => none
  | declaration id => some id

/-- What an attribute holds. -/
inductive Content where
  /-- A value, but no list. -/
  | value (v : Value)
  /-- A list. -/
  | list (items : List Item)
  /-- A kind. -/
  | kind (k : Kind)
  /-- An access level. -/
  | access (a : Access)
  /-- A place: its file, its line and its column. -/
  | location (file line column : Value)
deriving Repr, Inhabited

/-- The parts of a place. -/
def SourceLocation.parts : List String := ["file_path", "line", "column"]

/-- The access level a value names. -/
def Access.ofValue (v : Value) : Except GraphFault Access :=
  match v.text?.bind Access.ofWord? with
  | some a => .ok a
  | none => .error (.unknownAccess v.literal)

namespace Content

/-- A value as the content of an attribute. -/
def ofValue : Value → Content
  | .list items => list (items.map .value)
  | v => value v

/-- The content of an attribute that holds nothing. -/
def ofNothing : Content :=
  value .null

/-- Declarations as a list. -/
def ofNumbers (ids : List Nat) : Content :=
  list (ids.map .declaration)

/-- The name of a content's type in messages. -/
def typeName : Content → String
  | value v => v.typeName
  | list _ => "list"
  | kind _ => "DeclarationKind"
  | access _ => "AccessSpecifier"
  | location .. => "SourceLocation"

/-- A content as a value. Declarations in a list have no place in it, and what is no value at all is
nothing. -/
def toValue : Content → Value
  | value v => v
  | list items =>
    .list (items.filterMap fun i =>
      match i with
      | .value v => some v
      | .declaration _ => none)
  | _ => .null

/-- A value stays what it is as the content of an attribute. -/
theorem toValue_ofValue (v : Value) : (ofValue v).toValue = v := by
  cases v with
  | list items =>
    refine congrArg Value.list ?_
    induction items with
    | nil => rfl
    | cons v rest ih => exact congrArg (v :: ·) ih
  | _ => rfl

/-- What a walk over a content visits, if there can be one. -/
def items? : Content → Option (List Item)
  | value v => v.items?.map fun vs => vs.map .value
  | list items => some items
  | _ => none

/-- A place from its parts, or nothing. -/
def placeOf (v : Value) : Except GraphFault Content :=
  match v, v.items? with
  | .null, _ => .ok (value .null)
  | _, some [file, line, column] => .ok (location file line column)
  | _, some items =>
    match ArityFault.ofCall? "SourceLocation.__init__" SourceLocation.parts items.length with
    | some f => .error (.location f)
    | none => .ok (value .null)
  | _, none => .error (.notAPlace v.typeName)

/-- What the attribute of a name holds when it is given a value. -/
def ofGiven (name : String) (v : Value) : Except GraphFault Content :=
  if name = "access" then (Access.ofValue v).map access
  else if name = "location" then placeOf v
  else .ok (ofValue v)

end Content

end Bindery
