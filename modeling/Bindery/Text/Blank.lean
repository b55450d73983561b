/-!
# Blanks

Which characters count as white space, and the operations that remove it: from the ends of a text,
and, collapsed to one space, from its inside.
-/

namespace Bindery.Text

/-- White space: the ASCII blanks and separators of information, the next-line control and the
space separators of other scripts. -/
def isBlank (c : Char) : Bool :=
  let n := c.toNat
  (9 ≤ n && n ≤ 13) || (28 ≤ n && n ≤ 32) || n == 0x85 || n == 0xA0 || n == 0x1680 ||
    (0x2000 ≤ n && n ≤ 0x200A) || n == 0x2028 || n == 0x2029 || n == 0x202F || n == 0x205F ||
    n == 0x3000

theorem isBlank_space : isBlank ' ' = true := by decide

/-- Every blank of ASCII is a blank here. -/
theorem isBlank_of_isWhitespace {c : Char} (h : c.isWhitespace = true) : isBlank c = true := by
  simp only [Char.isWhitespace, Bool.or_eq_true, decide_eq_true_eq] at h
  rcases h with ((rfl | rfl) | rfl) | rfl <;> decide

/-- Drops the characters that satisfy a test from the end of a text. -/
def dropWhileEnd (p : Char → Bool) (cs : List Char) : List Char :=
  (cs.reverse.dropWhile p).reverse

/-- Removes the blanks at the start of a text. -/
def stripStart (cs : List Char) : List Char :=
  cs.dropWhile isBlank

/-- Removes the blanks at the end of a text. -/
def stripEnd (cs : List Char) : List Char :=
  dropWhileEnd isBlank cs

/-- Removes the blanks at both ends of a text. -/
def strip (cs : List Char) : List Char :=
  stripEnd (stripStart cs)

theorem dropWhileEnd_length_le (p : Char → Bool) (cs : List Char) :
    (dropWhileEnd p cs).length ≤ cs.length := by
  have h := (cs.reverse.dropWhile_suffix p).length_le
  simpa [dropWhileEnd] using h

theorem strip_length_le (cs : List Char) : (strip cs).length ≤ cs.length :=
  Nat.le_trans (dropWhileEnd_length_le isBlank _) (cs.dropWhile_suffix isBlank).length_le

/-- Removes the blanks at both ends of a string. -/
def stripText (s : String) : String :=
  String.ofList (strip s.toList)

/-- Every run of blanks becomes one space. -/
def collapseBlanks : List Char → List Char
  | [] => []
  | c :: cs =>
    if isBlank c then
      match cs with
      | [] => [' ']
      | d :: _ => if isBlank d then collapseBlanks cs else ' ' :: collapseBlanks cs
    else c :: collapseBlanks cs

theorem collapseBlanks_length_le (cs : List Char) : (collapseBlanks cs).length ≤ cs.length := by
  induction cs with
  | nil => simp [collapseBlanks]
  | cons c cs ih =>
    cases cs with
    | nil => by_cases h : isBlank c <;> simp [collapseBlanks, h]
    | cons d ds =>
      simp only [List.length_cons] at ih
      rw [collapseBlanks]
      repeat' split
      all_goals simp only [List.length_cons]; omega

/-- The words of a text, which stand between its blanks. -/
def blankWords (cs : List Char) : List (List Char) :=
  go [] cs
where
  /-- `word` is the word being read, last character first. -/
  go (word : List Char) : List Char → List (List Char)
    | [] => if word.isEmpty then [] else [word.reverse]
    | c :: cs =>
      if isBlank c then
        if word.isEmpty then go [] cs else word.reverse :: go [] cs
      else go (c :: word) cs

end Bindery.Text

/-!
## Lines of a text

Where a text breaks into lines, for comments and documentation. Besides the line feed there are
nine further breaks; a carriage return and the line feed after it are one break.
-/

namespace Bindery.Text

/-- The characters at which a line ends. -/
def isLineBreak (c : Char) : Bool :=
  let n := c.toNat
  (10 ≤ n && n ≤ 13) || (28 ≤ n && n ≤ 30) || n == 0x85 || n == 0x2028 || n == 0x2029

/-- The lines of a text without their breaks. A break at the very end opens no further line, so the
empty text has no line at all. -/
def splitLines (cs : List Char) : List (List Char) :=
  go [] cs
where
  /-- `line` is the line being read, last character first. -/
  go (line : List Char) : List Char → List (List Char)
    | [] => if line.isEmpty then [] else [line.reverse]
    | '\r' :: '\n' :: cs => line.reverse :: go [] cs
    | c :: cs => if isLineBreak c then line.reverse :: go [] cs else go (c :: line) cs

/-- The lines of a string. -/
def textLines (s : String) : List String :=
  (splitLines s.toList).map String.ofList

/-- A text in which every line feed, carriage return, or pair of them is one line feed. -/
def unifyLineEnds : List Char → List Char
  | [] => []
  | '\r' :: '\n' :: cs => '\n' :: unifyLineEnds cs
  | '\r' :: cs => '\n' :: unifyLineEnds cs
  | c :: cs => c :: unifyLineEnds cs

end Bindery.Text
