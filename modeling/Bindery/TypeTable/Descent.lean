import Bindery.TypeTable.Lookup

/-!
# Types that are nested too deep

A description is searched part by part, and each part is searched inside the search for the whole.
There is room for a limited number of searches inside each other: the search of a pointer takes two
places for what it points to, the search of an array takes one. A type whose parts need more room
than there is has no description, and which of the last places is missing shows in the report.
-/

namespace Bindery

open Bindery.Signature

/-- How a search runs out of room. -/
inductive DescentFault where
  /-- Parts cannot be compared any more. -/
  | noComparison
  /-- Parts cannot be taken any more. -/
  | noCall
deriving DecidableEq, Repr, Inhabited

namespace DescentFault

/-- The message of a search without room. -/
def message : DescentFault → String
  | noComparison => "maximum recursion depth exceeded in comparison"
  | noCall => "maximum recursion depth exceeded while calling a Python object"

/-- How many places there are. -/
def room : Nat := 1000

/-- How many places are taken where a type is described by itself. -/
def takenAlone : Nat := 6

/-- How many places are taken where a type is described for a table under construction. -/
def takenByTable : Nat := 8

/-- How many places are taken where a type is described for a template. -/
def takenByEmission : Nat := 10

/-- What is missing to a search that begins where `used` places are taken. Besides its own place it
needs four more. -/
def ofUsed? (used : Nat) : Option DescentFault :=
  if used + 5 < room then none
  else if used + 5 = room then some noComparison
  else some noCall

end DescentFault

namespace TypeTable

/-- How the search for the description of a type runs out of room, if it does. It begins where
`used` places are taken. -/
def descentFault? (t : TypeTable) (used : Nat) (signature : List Char) : Option DescentFault :=
  match DescentFault.ofUsed? used with
  | some f => some f
  | none =>
    match _h : t.shape (normalizeChars signature) with
    | .pointer target => t.descentFault? (used + 2) target
    | .array item _ => t.descentFault? (used + 1) item
    | _ => none
termination_by signature.length
decreasing_by
  · exact Nat.lt_of_lt_of_le (shape_pointer_length_lt _h) (normalizeChars_length_le signature)
  · exact Nat.lt_of_lt_of_le (shape_array_length_lt _h) (normalizeChars_length_le signature)

/-- The description of a type, if there is room for the search. -/
def search (t : TypeTable) (used : Nat) (index : NameIndex) (signature : String) :
    Except DescentFault Descriptor :=
  match t.descentFault? used signature.toList with
  | some f => .error f
  | none => .ok (t.lookup index signature)

/-- A search that comes to its end gives the description. -/
theorem eq_lookup_of_search {t : TypeTable} {used : Nat} {index : NameIndex} {signature : String}
    {d : Descriptor} (h : t.search used index signature = .ok d) :
    d = t.lookup index signature := by
  unfold search at h
  split at h
  · simp at h
  · simpa using h.symm

end TypeTable

end Bindery
