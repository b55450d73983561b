import Bindery.Text.Quoted

/-!
# Reports of faults

Every part of the library names the causes of its faults by a type of its own. To the outside a
fault is reported by a label, which tells the sort of fault, and a message.
-/

namespace Bindery

/-- A fault as it is reported. -/
structure Report where
  /-- The sort of fault. -/
  label : String
  /-- What went wrong. -/
  message : String
deriving DecidableEq, Repr, Inhabited

end Bindery

/-!
## Arguments that do not fit

What is called by name takes a certain number of arguments. A call with fewer of them fails and
names those that are missing; a call with more of them fails and counts them. The count includes
what the call is made on.
-/

namespace Bindery

/-- Names in quotes, enumerated. -/
def enumerated : List String → String
  | [] => ""
  | [a] => Text.quoted a
  | [a, b] => Text.quoted a ++ " and " ++ Text.quoted b
  | [a, b, c] => Text.quoted a ++ ", " ++ Text.quoted b ++ ", and " ++ Text.quoted c
  | a :: rest => Text.quoted a ++ ", " ++ enumerated rest

/-- A call whose arguments do not fit. -/
inductive ArityFault where
  /-- Arguments are missing. -/
  | absent (callee : String) (names : List String)
  /-- There are more arguments than are taken. -/
  | surplus (callee : String) (taken given : Nat)
deriving DecidableEq, Repr, Inhabited

namespace ArityFault

/-- The fault of a call, if its arguments do not fit the parameters of what is called. -/
def ofCall? (callee : String) (parameters : List String) (given : Nat) : Option ArityFault :=
  if given < parameters.length then some (absent callee (parameters.drop given))
  else if parameters.length < given then some (surplus callee parameters.length given)
  else none

/-- Arguments fit exactly if there are as many as parameters. -/
theorem ofCall?_eq_none_iff (callee : String) (parameters : List String) (given : Nat) :
    ofCall? callee parameters given = none ↔ given = parameters.length := by
  unfold ofCall?
  split
  · simp; omega
  · split <;> simp <;> omega

/-- A count of things, in the singular or the plural. -/
def counted (n : Nat) (thing : String) : String :=
  toString n ++ " " ++ thing ++ if n = 1 then "" else "s"

/-- The message of a fault. -/
def message : ArityFault → String
  | absent callee names =>
    callee ++ "() missing " ++ counted names.length "required positional argument" ++ ": " ++
      enumerated names
  | surplus callee taken given =>
    callee ++ "() takes " ++ counted (taken + 1) "positional argument" ++ " but " ++
      toString (given + 1) ++ (if given = 0 then " was given" else " were given")

end ArityFault

end Bindery
