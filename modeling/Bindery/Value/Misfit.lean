import Bindery.Report
import Bindery.Value.Basic

/-!
# What values cannot do

A value of the wrong type is found out where something is done with it that its type does not allow:
it is walked over, looked up, compared, joined to a text, or asked for a part it does not have. Each
of these misfits is worded by the types of what takes part in it.
-/

namespace Bindery

/-- Something that the types of values do not allow. -/
inductive Misfit where
  /-- It cannot be walked over. -/
  | notIterable (typeName : String)
  /-- It cannot be spread into a list. -/
  | notSpreadable (typeName : String)
  /-- It cannot be looked up. -/
  | notAKey (typeName : String)
  /-- It stands for a text and is none. -/
  | notAText (typeName : String)
  /-- It stands for a part of a joined text and is none. -/
  | notJoinable (place : Nat) (typeName : String)
  /-- Nothing but its like can be put behind it. -/
  | notAppendable (typeName other : String)
  /-- It cannot be repeated that many times. -/
  | notACount (typeName : String)
  /-- It is no operand of an operation on one value. -/
  | notAnOperand (sign typeName : String)
  /-- They are no operands of an operation on two values. -/
  | notOperands (sign left right : String)
  /-- It does not give arguments by name. -/
  | notArguments (callee typeName : String)
  /-- It has no part of this name. -/
  | noOperation (typeName operation : String)
  /-- It cannot be called. -/
  | notCallable (typeName : String)
  /-- It does not come before or behind the other. -/
  | notOrdered (sign left right : String)
  /-- It has no items. -/
  | noItems (typeName : String)
  /-- Its items cannot be changed. -/
  | fixedItems (typeName : String)
  /-- It has no items among which another one could be. -/
  | holdsNothing (typeName : String)
  /-- It is no text that could be a part of another one. -/
  | notAPart (typeName : String)
  /-- It is no place in a list. -/
  | notAListPlace (typeName : String)
  /-- It is no place in a text. -/
  | notATextPlace (typeName : String)
  /-- It has no place in a text for what is to be put into one. -/
  | notUsed
  /-- There is no such place in a list. -/
  | beyondList
  /-- There is no such place in a text. -/
  | beyondText
  /-- There is no such place in anything. -/
  | beyondPlaces
  /-- There is nothing under a key, which is shown. -/
  | unknownKey (shown : String)
  /-- It is no name of an attribute. -/
  | notAnAttribute (typeName : String)
  /-- It stands for a name and a value and has another length. -/
  | notAPair (place length : Nat)
  /-- It cannot be written as JSON. -/
  | notWritable (typeName : String)
deriving DecidableEq, Repr, Inhabited

namespace Misfit

/-- The label of a misfit. -/
def label : Misfit → String
  | noOperation .. => "AttributeError"
  | beyondList => "IndexError"
  | beyondText => "IndexError"
  | beyondPlaces => "IndexError"
  | unknownKey _ => "KeyError"
  | notAPair .. => "ValueError"
  | _ => "TypeError"

/-- The message of a misfit. -/
def message : Misfit → String
  | notIterable typeName => "'" ++ typeName ++ "' object is not iterable"
  | notSpreadable typeName => "Value after * must be an iterable, not " ++ typeName
  | notAKey typeName => "unhashable type: '" ++ typeName ++ "'"
  | notAText typeName => "expected string or bytes-like object, got '" ++ typeName ++ "'"
  | notJoinable place typeName =>
    "sequence item " ++ toString place ++ ": expected str instance, " ++ typeName ++ " found"
  | notAppendable typeName other =>
    "can only concatenate " ++ typeName ++ " (not \"" ++ other ++ "\") to " ++ typeName
  | notACount typeName => "can't multiply sequence by non-int of type '" ++ typeName ++ "'"
  | notAnOperand sign typeName => "bad operand type for " ++ sign ++ ": '" ++ typeName ++ "'"
  | notOperands sign left right =>
    "unsupported operand type(s) for " ++ sign ++ ": '" ++ left ++ "' and '" ++ right ++ "'"
  | notArguments callee typeName =>
    callee ++ "() argument after ** must be a mapping, not " ++ typeName
  | noOperation typeName operation =>
    "'" ++ typeName ++ "' object has no attribute '" ++ operation ++ "'"
  | notCallable typeName => "'" ++ typeName ++ "' object is not callable"
  | notOrdered sign left right =>
    "'" ++ sign ++ "' not supported between instances of '" ++ left ++ "' and '" ++ right ++ "'"
  | noItems typeName => "'" ++ typeName ++ "' object is not subscriptable"
  | fixedItems typeName => "'" ++ typeName ++ "' object does not support item assignment"
  | holdsNothing typeName => "argument of type '" ++ typeName ++ "' is not iterable"
  | notAPart typeName => "'in <string>' requires string as left operand, not " ++ typeName
  | notAListPlace typeName => "list indices must be integers or slices, not " ++ typeName
  | notATextPlace typeName => "string indices must be integers, not '" ++ typeName ++ "'"
  | notUsed => "not all arguments converted during string formatting"
  | beyondList => "list index out of range"
  | beyondText => "string index out of range"
  | beyondPlaces => "cannot fit 'int' into an index-sized integer"
  | unknownKey shown => shown
  | notAnAttribute typeName => "attribute name must be string, not '" ++ typeName ++ "'"
  | notAPair place length =>
    "dictionary update sequence element #" ++ toString place ++ " has length " ++
      toString length ++ "; 2 is required"
  | notWritable typeName => "Object of type " ++ typeName ++ " is not JSON serializable"

/-- A misfit as it is reported. -/
def report (m : Misfit) : Report :=
  ⟨m.label, m.message⟩

end Misfit

end Bindery

/-!
## Values where texts are expected

What works on texts can be given any value. A text is what it is; any other value is found out by
the first thing that is done with it: it is searched, or joined to others, or is to do something
that only texts can do.
-/

namespace Bindery.Value

/-- The text that a value has to be to be searched. -/
def searched (v : Value) : Except Misfit String :=
  match v with
  | text s => .ok s
  | _ => .error (.notAText v.typeName)

/-- The text that a value has to be to do something that only texts can do. -/
def textFor (v : Value) (operation : String) : Except Misfit String :=
  match v with
  | text s => .ok s
  | _ => .error (.noOperation v.typeName operation)

/-- The texts that values have to be to be joined. The first that is none is told by its place. -/
def parts (values : List Value) : Except Misfit (List String) :=
  values.zipIdx.mapM fun (v, place) =>
    match v with
    | text s => .ok s
    | _ => .error (.notJoinable place v.typeName)

/-- Only texts can be searched. -/
theorem searched_eq_ok_iff (v : Value) (s : String) : v.searched = .ok s ↔ v = text s := by
  cases v <;> simp [searched]

/-- Only texts can do what texts do. -/
theorem textFor_eq_ok_iff (v : Value) (operation s : String) :
    v.textFor operation = .ok s ↔ v = text s := by
  cases v <;> simp [textFor]

end Bindery.Value
