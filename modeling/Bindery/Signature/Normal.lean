import Bindery.Text.Blank
import Bindery.Text.Word

/-!
# Normal spelling of native types

One native type has many spellings. The normal spelling drops qualifiers and elaborating keywords,
keeps single blanks between words and none around the marks of pointers and references, and names
a type without a leading mark of the global scope. It is never longer than the spelling it is made
from, which is what lets a search take a type apart step by step.
-/

namespace Bindery.Signature

open Bindery.Text

/-- Words that do not change which type is meant. -/
def qualifiers : List String :=
  ["const", "volatile", "restrict", "__restrict", "struct", "class", "union", "enum", "typename"]

/-- A qualifier becomes a blank; any other word stays. -/
def blankQualifier (word : List Char) : List Char :=
  if qualifiers.contains (String.ofList word) then [' '] else word

/-- The marks of pointers and references. -/
def isMark (c : Char) : Bool :=
  c == '*' || c == '&'

/-- Removes the blanks around the marks of pointers and references. -/
def tightenMarks (cs : List Char) : List Char :=
  go false cs
where
  /-- `afterMark` tells whether only blanks stand between the last mark and here. -/
  go (afterMark : Bool) : List Char → List Char
    | [] => []
    | c :: cs =>
      if isBlank c then
        if afterMark then go true cs
        else if (cs.dropWhile isBlank).head?.any isMark then go false cs
        else c :: go false cs
      else c :: go (isMark c) cs

/-- Removes one mark of the global scope from the front. -/
def dropGlobalScope : List Char → List Char
  | ':' :: ':' :: cs => cs
  | cs => cs

/-- The normal spelling of a type. -/
def normalizeChars (cs : List Char) : List Char :=
  dropGlobalScope (tightenMarks (strip (collapseBlanks (mapWords blankQualifier cs))))

/-- The normal spelling of a type. -/
def normalize (signature : String) : String :=
  String.ofList (normalizeChars signature.toList)

theorem blankQualifier_length_le (word : List Char) (h : word ≠ []) :
    (blankQualifier word).length ≤ word.length := by
  unfold blankQualifier
  split
  · exact List.length_pos_iff.2 h
  · exact Nat.le_refl _

theorem tightenMarks_go_length_le (afterMark : Bool) (cs : List Char) :
    (tightenMarks.go afterMark cs).length ≤ cs.length := by
  induction cs generalizing afterMark with
  | nil => simp [tightenMarks.go]
  | cons c cs ih =>
    have h1 := ih true
    have h2 := ih false
    have h3 := ih (isMark c)
    unfold tightenMarks.go
    repeat' split
    all_goals simp only [List.length_cons]; omega

theorem dropGlobalScope_length_le (cs : List Char) :
    (dropGlobalScope cs).length ≤ cs.length := by
  unfold dropGlobalScope
  split
  · simp only [List.length_cons]; omega
  · exact Nat.le_refl _

/-- The normal spelling is never longer than the spelling it is made from. -/
theorem normalizeChars_length_le (cs : List Char) : (normalizeChars cs).length ≤ cs.length :=
  calc
    _ ≤ _ := dropGlobalScope_length_le _
    _ ≤ _ := tightenMarks_go_length_le false _
    _ ≤ _ := strip_length_le _
    _ ≤ _ := collapseBlanks_length_le _
    _ ≤ _ := mapWords_length_le blankQualifier_length_le cs

/-- The parts of a qualified name, which stand between its double colons. There is always one. -/
def scopeParts : List Char → List (List Char)
  | [] => [[]]
  | ':' :: ':' :: cs => [] :: scopeParts cs
  | c :: cs =>
    match scopeParts cs with
    | [] => [[c]]
    | part :: parts => (c :: part) :: parts

/-- The last part of a qualified name. -/
def plainName (cs : List Char) : List Char :=
  (scopeParts cs).getLastD []

end Bindery.Signature
