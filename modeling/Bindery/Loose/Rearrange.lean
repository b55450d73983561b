import Bindery.Loose.Basic

/-!
# Rearranging lists

A list that an attribute holds is given the items that stood at some places of it, in the order of
the places. A place before the start counts from the end, and may occur more than once. Nothing
changes when there is no such place. What is no list can be asked for the items at places like any
value, but cannot be given others.
-/

namespace Bindery

namespace Value

/-- The place that a value is in something of a length, if there is one. -/
def placeIn? (place : Int) (length : Nat) : Option Nat :=
  let counted := if place < 0 then place + length else place
  if 0 ≤ counted ∧ counted < length then some counted.toNat else none

/-- A place is one of those that there are. -/
theorem placeIn?_lt {place : Int} {length n : Nat} (h : placeIn? place length = some n) :
    n < length := by
  simp only [placeIn?] at h
  split at h
  · split at h
    · simp only [Option.some.injEq] at h; omega
    · simp at h
  · split at h
    · simp only [Option.some.injEq] at h; omega
    · simp at h

/-- The whole number that a value counts as where places are counted. -/
def index? : Value → Option Int
  | int n => some n
  | bool b => some (if b then 1 else 0)
  | _ => none

/-- How far places can be counted. -/
def placeLimit : Nat := Nat.pow 2 63

/-- What is wrong with a place that is not there, where `beyond` says that something ends before
it. -/
def missingPlace (place : Int) (beyond : Misfit) : Misfit :=
  if place < -placeLimit ∨ placeLimit ≤ place then .beyondPlaces else beyond

end Value

namespace Content

/-- The item at a place of a list. -/
def itemAt (items : List Item) (place : Value) : Except Misfit Item :=
  match place.index? with
  | none => .error (.notAListPlace place.typeName)
  | some n =>
    match (Value.placeIn? n items.length).bind (items[·]?) with
    | some item => .ok item
    | none => .error (Value.missingPlace n .beyondList)

/-- What is found at a place of a value that is no list. -/
def checkPlace (v : Value) (place : Value) : Except Misfit Unit :=
  match v with
  | .text s =>
    match place.index? with
    | none => .error (.notATextPlace place.typeName)
    | some n =>
      if (Value.placeIn? n s.length).isSome then .ok ()
      else .error (Value.missingPlace n .beyondText)
  | .object fields =>
    match place.keyFault? with
    | some m => .error m
    | none =>
      if (place.text?.bind (Fields.get? fields)).isSome then .ok ()
      else .error (.unknownKey place.literal)
  | v => .error (.noItems v.typeName)

/-- What a content becomes when it is given the items at some places of it. -/
def rearranged (c : Content) (places : List Value) : Except Misfit Content :=
  match c with
  | list items => (places.mapM (itemAt items)).map list
  | value v => do
    places.forM (checkPlace v)
    match v with
    | .object _ => throw (.notAKey "slice")
    | v => throw (.fixedItems v.typeName)
  | c => .error (if places.isEmpty then .fixedItems c.typeName else .noItems c.typeName)

end Content

namespace LooseM

/-- Gives a list of a declaration the items at some places of it. -/
def rearrange (id : Nat) (list places : Value) : LooseM Unit := do
  let item := Item.declaration id
  let some name := list.text? | throw (.misfit (.notAnAttribute list.typeName))
  let l ← get
  let isWord := (l.decl? id).any fun d =>
    (d.get? name).isNone && LooseLibrary.requestWords.contains name
  let c ← if isWord then pure none else some <$> look (·.content item name)
  let some wanted := places.items? | throw (.misfit (.notIterable places.typeName))
  match c with
  | none =>
    throw (.misfit (if wanted.isEmpty then .fixedItems "method" else .noItems "method"))
  | some c =>
    match c.rearranged wanted with
    | .ok c => assign item name c
    | .error m => throw (.misfit m)

end LooseM

end Bindery
