import Bindery.Naming.Basic
import Bindery.Value.Misfit

/-!
# Names from data

A name that is given as data may be no text. One that counts as nothing cannot be used, whatever it
is; any other one is looked at, which only texts allow. A name to be made usable is searched.
-/

namespace Bindery.Naming

/-- The name that a value is, if it can be used. -/
def usable? (name : Value) : Except Misfit (Option String) := do
  if !name.truthy then return none
  let s ← name.textFor "isascii"
  return if isValid s then some s else none

/-- The name made from a value. -/
def sanitizeGiven (name : Value) : Except Misfit String :=
  name.searched.map sanitize

/-- A text is as usable as it is valid. -/
theorem usable?_text (s : String) :
    usable? (.text s) = .ok (if isValid s then some s else none) := by
  by_cases h : s = ""
  · subst h; rfl
  · simp [usable?, Value.truthy, Value.textFor, h, bind, Except.bind, pure, Except.pure]

end Bindery.Naming
