import Bindery.Decimal.Shortest
import Bindery.Value.Basic
import Bindery.Value.Misfit

/-!
# Comparing values

Values are the same when they are equal as numbers, texts, lists or objects: truth values and
doubles count as the numbers they are, and the order of the fields of an object does not matter.
Only numbers, texts and lists have an order, each among themselves. Lists and objects cannot be
keys.
-/

namespace Bindery

/-- A number as values are compared by it. -/
inductive Quantity where
  /-- No number. -/
  | nan
  /-- Beyond all numbers, or before all of them. -/
  | infinity (negative : Bool)
  /-- A number, times `2 ^ Decimal.bias`. -/
  | finite (scaled : Int)
deriving DecidableEq, Repr, Inhabited

namespace Quantity

/-- A whole number. -/
def ofInt (n : Int) : Quantity :=
  finite (n * Nat.pow 2 Decimal.bias)

/-- The number that a double is. -/
def ofBits (bits : UInt64) : Quantity :=
  match Decimal.ofBits bits with
  | .nan => nan
  | .infinity negative => infinity negative
  | .finite negative m =>
    let scaled : Int := m.significand * Nat.pow 2 m.exponent
    finite (if negative then -scaled else scaled)

/-- Whether two numbers are equal; what is no number equals nothing. -/
def same : Quantity → Quantity → Bool
  | nan, _ | _, nan => false
  | a, b => a == b

/-- Whether a number is less than another one. -/
def before : Quantity → Quantity → Bool
  | finite a, finite b => a < b
  | infinity negative, finite _ => negative
  | finite _, infinity negative => !negative
  | infinity negative, infinity negative' => negative && !negative'
  | _, _ => false

/-- No number is less than itself. -/
theorem before_self (a : Quantity) : a.before a = false := by
  cases a <;> simp [before]

end Quantity

namespace Value

/-- The number that a value counts as. -/
def quantity? : Value → Option Quantity
  | int n => some (.ofInt n)
  | bool b => some (.ofInt (if b then 1 else 0))
  | float bits => some (.ofBits bits)
  | _ => none

/-- Whether two values count as the same number. -/
def sameNumber (v w : Value) : Bool :=
  match v.quantity?, w.quantity? with
  | some a, some b => a.same b
  | _, _ => false

mutual

/-- Whether two values are the same. -/
def same : Value → Value → Bool
  | null, null => true
  | text s, text t => s == t
  | list items, list others => sameItems items others
  | object fields, object others =>
    fields.length == others.length && sameFields fields others
  | v, w => sameNumber v w

/-- Whether two lists have the same items. -/
def sameItems : List Value → List Value → Bool
  | [], [] => true
  | v :: vs, w :: ws => same v w && sameItems vs ws
  | _, _ => false

/-- Whether the fields of an object are the same in another one. -/
def sameFields : List (String × Value) → Fields → Bool
  | [], _ => true
  | (name, v) :: rest, others =>
    (match others.get? name with
      | some w => same v w
      | none => false) && sameFields rest others

end

mutual

/-- Whether a value comes before another one. -/
def before : Value → Value → Except Misfit Bool
  | text s, text t => .ok (s < t)
  | list items, list others => itemsBefore items others
  | v, w =>
    match v.quantity?, w.quantity? with
    | some a, some b => .ok (a.before b)
    | _, _ => .error (.notOrdered "<" v.typeName w.typeName)

/-- Whether a list comes before another one: the first items that differ decide, or else the
lengths. -/
def itemsBefore : List Value → List Value → Except Misfit Bool
  | _, [] => .ok false
  | [], _ => .ok true
  | v :: vs, w :: ws => if same v w then itemsBefore vs ws else before v w

end

/-- Why a value cannot be a key, if it cannot. -/
def keyFault? (v : Value) : Option Misfit :=
  match v with
  | list _ | object _ => some (.notAKey v.typeName)
  | _ => none

end Value

end Bindery
