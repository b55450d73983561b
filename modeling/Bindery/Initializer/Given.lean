import Bindery.Declaration.Basic
import Bindery.Initializer.Meaning
import Bindery.Value.Compare

/-!
# Initializers among given values

Names of initializers can be given any values. As long as all of them are constants nothing is
different; otherwise operations are made on whatever the operands are, as far as their types allow
it, and fail where they do not. Nothing is computed from doubles but sums, differences, products and
signs.

The main statement here says that initializers among constants have the value that their constants
give them.
-/

namespace Bindery.Initializer

/-- The sign of an operation on one value. -/
def UnaryOp.sign : UnaryOp → String
  | negate => "unary -"
  | keep => "unary +"
  | complement => "unary ~"

/-- The sign of an operation on two values. -/
def BinaryOp.sign : BinaryOp → String
  | add => "+"
  | subtract => "-"
  | multiply => "*"
  | divide => "//"
  | remainder => "%"
  | shiftLeft => "<<"
  | shiftRight => ">>"
  | bitOr => "|"
  | bitAnd => "&"
  | bitXor => "^"

/-- Whether an operation shifts. -/
def BinaryOp.isShift : BinaryOp → Bool
  | shiftLeft | shiftRight => true
  | _ => false

/-- A double with the opposite sign. -/
def oppositeBits (bits : UInt64) : UInt64 :=
  bits ^^^ 0x8000000000000000

/-- The result of an operation on one value. -/
def UnaryOp.ofValue (op : UnaryOp) (v : Value) : Except Misfit Value :=
  match op, v.asConstant?, v with
  | _, some c, _ => .ok (.int (op.apply c.toInt))
  | .negate, _, .float bits => .ok (.float (oppositeBits bits))
  | .keep, _, .float bits => .ok (.float bits)
  | _, _, _ => .error (.notAnOperand op.sign v.typeName)

/-- The double that a value counts as in an operation with doubles. -/
def double? (v : Value) : Option Float :=
  match v.asConstant?, v with
  | some c, _ => some (.ofInt c.toInt)
  | none, .float bits => some (.ofBits bits)
  | none, _ => none

/-- The result of an operation on two doubles, if there is one. -/
def BinaryOp.ofDoubles? : BinaryOp → Float → Float → Option Float
  | add, a, b => some (a + b)
  | subtract, a, b => some (a - b)
  | multiply, a, b => some (a * b)
  | _, _, _ => none

/-- Whether an operation on doubles is one. -/
def BinaryOp.takesDoubles : BinaryOp → Bool
  | add | subtract | multiply | divide | remainder => true
  | _ => false

/-- How many items a repetition can have. -/
def repetitionLimit : Nat := Nat.pow 2 20

/-- Whether a value can be repeated. -/
def isRepeatable : Value → Bool
  | .text _ | .list _ => true
  | _ => false

/-- A text or a list several times, if there is room. -/
def repeated? (v : Value) (count : Nat) : Option Value :=
  if repetitionLimit < (v.items?.getD []).length * count then none
  else
    match v with
    | .text s => some (.text (String.join (List.replicate count s)))
    | .list items => some (.list (List.replicate count items).flatten)
    | _ => none

/-- A product with something that can be repeated. -/
def repetition (v count : Value) : Except Misfit (Option Value) :=
  match count.asConstant? with
  | some c => .ok (repeated? v c.toInt.toNat)
  | none => .error (.notACount count.typeName)

/-- A value put into a text that has no place for it. Lists and objects may be left out. -/
def formatted (s : String) (v : Value) : Except Misfit (Option Value) :=
  if s.toList.contains '%' then .ok none
  else if (v.keyFault?).isSome then .ok (some (.text s))
  else .error .notUsed

/-- The result of an operation on two values that are not both constants. -/
def BinaryOp.ofOthers (op : BinaryOp) (v w : Value) : Except Misfit (Option Value) :=
  match op, v, w with
  | add, .text s, .text t => .ok (some (.text (s ++ t)))
  | add, .list items, .list others => .ok (some (.list (items ++ others)))
  | add, .text _, _ | add, .list _, _ => .error (.notAppendable v.typeName w.typeName)
  | remainder, .text s, _ => formatted s w
  | bitOr, .object fields, .object others =>
    .ok (some (.object (others.foldl (fun fs e => Fields.put fs e.1 e.2) fields)))
  | _, _, _ =>
    if op = multiply ∧ isRepeatable v then repetition v w
    else if op = multiply ∧ isRepeatable w then repetition w v
    else
      match double? v, double? w with
      | some a, some b =>
        if op.takesDoubles then .ok ((op.ofDoubles? a b).map fun c => .float c.toBits)
        else .error (.notOperands op.sign v.typeName w.typeName)
      | _, _ => .error (.notOperands op.sign v.typeName w.typeName)

/-- Whether a value is too great a count of places, which only numbers can be. -/
def isTooFar (count : Value) : Except Misfit Bool :=
  match count.quantity? with
  | some q => .ok ((Quantity.ofInt shiftLimit).before q)
  | none => .error (.notOrdered ">" count.typeName (Value.int shiftLimit).typeName)

/-- The result of an operation on two values, if it has one. -/
def BinaryOp.ofValues (op : BinaryOp) (v w : Value) : Except Misfit (Option Value) :=
  match v.asConstant?, w.asConstant? with
  | some a, some b => .ok ((op.combine a b).map (·.toValue))
  | _, _ => do
    if op.isShift then
      if ← isTooFar w then return none
    op.ofOthers v w

/-- The value of a name, if it has one. -/
def valueAt (known : Fields) (name : String) : Option Value :=
  (known.get? name).filter (!·.isNull)

/-- The value of an expression among given values, if it has one. -/
def Expr.valueAmong (known : Fields) : Expr → Except Misfit (Option Value)
  | constant c => .ok (some c.toValue)
  | name n => .ok (valueAt known n)
  | member n _ => .ok (valueAt known n)
  | unary op e => do
    match ← e.valueAmong known with
    | some v => some <$> op.ofValue v
    | none => return none
  | binary op l r => do
    match ← l.valueAmong known, ← r.valueAmong known with
    | some v, some w => op.ofValues v w
    | _, _ => return none
  | _ => .ok none

/-- Given values under respelled names; of names that are respelled alike the last counts. -/
def respelledFields (known : Fields) : Fields :=
  (known.map fun e => (String.ofList (joinScopes e.1.toList), e.2)).reverse

/-- The value of an initializer among given values, if it has one. Only an object gives values. -/
def valueAmong (known : Value) (text : String) : Except Misfit (Option Value) :=
  match parse (readable text) with
  | none => .ok none
  | some e =>
    match known with
    | .object fields => e.valueAmong (respelledFields fields)
    | _ => .error (.noOperation known.typeName "items")

/-- Constants as given values. -/
def Known.toFields (known : Known) : Fields :=
  known.map fun e => (e.1, e.2.toValue)

theorem asConstant?_toValue (c : Constant) : c.toValue.asConstant? = some c := by
  cases c <;> rfl

theorem UnaryOp.ofValue_toValue (op : UnaryOp) (c : Constant) :
    op.ofValue c.toValue = .ok (.int (op.apply c.toInt)) := by
  cases c <;> cases op <;> rfl

theorem valueAt_toFields (known : Known) (name : String) :
    valueAt known.toFields name = (known.get? name).map (·.toValue) := by
  induction known with
  | nil => rfl
  | cons e rest ih =>
    obtain ⟨n, c⟩ := e
    by_cases h : (n == name) = true
    · cases c <;> simp [valueAt, Known.toFields, Fields.get?, Known.get?, h, Constant.toValue,
        Value.isNull]
    · simpa [valueAt, Known.toFields, Fields.get?, Known.get?, h] using ih

/-- Among constants an expression has the value of its constant. -/
theorem Expr.valueAmong_toFields (known : Known) (e : Expr) :
    e.valueAmong known.toFields = .ok ((e.value? known).map (·.toValue)) := by
  induction e with
  | constant c => rfl
  | name n => simp [valueAmong, value?, valueAt_toFields]
  | member n h => simp [valueAmong, value?, valueAt_toFields]
  | unary op e ih =>
    cases h : e.value? known with
    | none => simp [valueAmong, value?, ih, h, bind, Except.bind, pure, Except.pure]
    | some c =>
      simp only [valueAmong, value?, ih, h, bind, Except.bind, Option.map_some,
        UnaryOp.ofValue_toValue, Functor.map, Except.map]
      rfl
  | binary op l r ihl ihr =>
    cases hl : l.value? known <;> cases hr : r.value? known <;>
      simp [valueAmong, value?, ihl, ihr, hl, hr, bind, Except.bind, pure, Except.pure,
        BinaryOp.ofValues, asConstant?_toValue]
  | _ => rfl

end Bindery.Initializer
