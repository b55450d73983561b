/-!
# Tables of code points

A character property is kept as inclusive ranges of code points, written as a text of hexadecimal
numbers: a word such as 41-5A is a range and a word such as 5F is a single point. A table of
pairs puts a colon between the points and what they stand for. Reading a table is total: a
character that is no digit counts as zero.

A map is kept as runs of code points with the value of the first point of each run. The words of a
written map are a point and its value (41:61), a run of neighbours whose values are neighbours too
(41-5A:61), or a run of every second point (100-12E-2:101).
-/

namespace Bindery.Text

/-! ### Ranges -/

/-- An inclusive range of code points. -/
structure CodeRange where
  /-- The least code point of the range. -/
  first : Nat
  /-- The greatest code point of the range. -/
  last : Nat
deriving DecidableEq, Repr

/-- Membership in one range. -/
def CodeRange.contains (r : CodeRange) (n : Nat) : Bool :=
  r.first ≤ n && n ≤ r.last

/-- Whether some range of a table holds the code point. -/
def inTable (table : List CodeRange) (n : Nat) : Bool :=
  table.any (·.contains n)

theorem inTable_iff {table : List CodeRange} {n : Nat} :
    inTable table n = true ↔ ∃ r ∈ table, r.first ≤ n ∧ n ≤ r.last := by
  simp [inTable, CodeRange.contains]

/-- The value of a hexadecimal digit; anything else counts as zero. -/
def hexValue (c : Char) : Nat :=
  if '0' ≤ c ∧ c ≤ '9' then c.toNat - '0'.toNat
  else if 'A' ≤ c ∧ c ≤ 'F' then c.toNat - 'A'.toNat + 10
  else if 'a' ≤ c ∧ c ≤ 'f' then c.toNat - 'a'.toNat + 10
  else 0

/-- The number a run of hexadecimal digits writes. -/
def readHex (cs : List Char) : Nat :=
  cs.foldl (fun n c => 16 * n + hexValue c) 0

/-- The parts of a text between the characters that satisfy a test. There is one part more than
there are such characters. -/
def splitWhere (p : Char → Bool) : List Char → List (List Char)
  | [] => [[]]
  | c :: cs =>
    if p c then [] :: splitWhere p cs
    else
      match splitWhere p cs with
      | [] => [[c]]
      | part :: parts => (c :: part) :: parts

/-- The words of a table, which stand between blanks and line ends. -/
def tableWords (text : String) : List (List Char) :=
  (splitWhere (fun c => c == ' ' || c == '\n') text.toList).filter (· ≠ [])

/-- Reads a range such as 41-5A, or a single point such as 5F. -/
def readRange (word : List Char) : CodeRange :=
  match splitWhere (· == '-') word with
  | [first, last] => ⟨readHex first, readHex last⟩
  | _ => ⟨readHex word, readHex word⟩

/-- Reads a table of ranges. -/
def readRanges (text : String) : List CodeRange :=
  (tableWords text).map readRange

/-! ### Maps -/

/-- A run of code points whose values lie at one distance. -/
structure CodeRun where
  /-- The first code point of the run. -/
  first : Nat
  /-- The last code point of the run. -/
  last : Nat
  /-- The distance between neighbours in the run. -/
  step : Nat
  /-- What the first code point stands for. -/
  values : List Nat
deriving DecidableEq, Repr

/-- Whether a run holds a code point. -/
def CodeRun.contains (r : CodeRun) (n : Nat) : Bool :=
  r.first ≤ n && n ≤ r.last && (n - r.first) % r.step == 0

/-- The run of a map that holds a code point. -/
def findRun? (map : List CodeRun) (n : Nat) : Option CodeRun :=
  map.find? (·.contains n)

/-- Reads one word of a written map. -/
def readRun (word : List Char) : CodeRun :=
  match splitWhere (· == ':') word with
  | [points, values] =>
    let values := (splitWhere (· == '.') values).map readHex
    match splitWhere (· == '-') points with
    | [first, last] => ⟨readHex first, readHex last, 1, values⟩
    | [first, last, step] => ⟨readHex first, readHex last, readHex step, values⟩
    | _ => ⟨readHex points, readHex points, 1, values⟩
  | _ => ⟨1, 0, 1, []⟩

/-- Reads a written map. -/
def readRuns (text : String) : List CodeRun :=
  (tableWords text).map readRun

end Bindery.Text
