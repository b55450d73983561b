import Bindery.Declaration.Attribute
import Bindery.TypeTable.Lookup
import Bindery.Value.Misfit

/-!
# Types from data

Types that are given as data have to be texts, which are searched for their normal spelling. The
declarations that they refer to can be made of data as well, each by itself and with a name to be
found by; an attribute that is not given holds what nothing else was put into, and a name has to be
a key.
-/

namespace Bindery

open Bindery.Signature

/-- The normal spelling of a type that is given as data. -/
def Signature.normalizeGiven (signature : Value) : Except Misfit String :=
  signature.searched.map normalize

/-- A text has the normal spelling that it has as a type. -/
theorem Signature.normalizeGiven_text (s : String) :
    normalizeGiven (.text s) = .ok (normalize s) := rfl

namespace Referent

/-- The number of a declaration that is not given one. -/
def unnumbered : Value := .int (-1)

/-- A declaration of a form as a type sees it, by its attributes. -/
def ofContents (f : Form) (contents : List (String × Content)) : Referent :=
  let value (name : String) (absent : Value) : Value :=
    ((contents.find? (·.1 == name)).map (·.2.toValue)).getD absent
  let isHidden := (value "is_incomplete" .null).truthy || (value "ignored" .null).truthy
  let form : ReferentForm :=
    match f with
    | .enumeration => .enumeration
    | .record => if isHidden then .other else .layoutClass
    | _ => .other
  ⟨value "id" unnumbered, value "name" (.text ""), form⟩

/-- A declaration made of data by itself, as a type sees it. -/
def ofData (f : Form) (attributes : Fields) : Except GraphFault Referent :=
  (f.givenAlone attributes).map (ofContents f)

/-- A declaration of which nothing is given has neither a number nor a name. -/
theorem ofData_nil (f : Form) (r : Referent) (h : ofData f [] = .ok r) :
    r.id = unnumbered ∧ r.name = .text "" := by
  have : ofData f [] = .ok (ofContents f []) := by cases f <;> rfl
  rw [this] at h
  cases h
  exact ⟨rfl, rfl⟩

end Referent

end Bindery
