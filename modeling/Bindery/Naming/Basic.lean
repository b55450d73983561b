import Bindery.Text.Word

/-!
# Names of the generated module

Which names a Python module can use, how a native name is made into such a name character by
character, and how a name is told apart from names that are taken.
-/

namespace Bindery.Naming

open Bindery.Text

/-- The words that are reserved in Python modules. -/
def reservedWords : List String :=
  ["False", "None", "True", "and", "as", "assert", "async", "await", "break", "class", "continue",
    "def", "del", "elif", "else", "except", "finally", "for", "from", "global", "if", "import",
    "in", "is", "lambda", "nonlocal", "not", "or", "pass", "raise", "return", "try", "while",
    "with", "yield"]

/-- Whether a word is reserved. -/
def isReserved (cs : List Char) : Bool :=
  reservedWords.contains (String.ofList cs)

/-- The characters of module names. -/
def isNameChar (c : Char) : Bool :=
  isAsciiLetter c || isAsciiDigit c || c == '_'

/-- Whether a name can be used as it is: it starts with a letter or an underscore, goes on with
letters, digits and underscores of ASCII, and is not reserved. -/
def isValidChars (cs : List Char) : Bool :=
  match cs with
  | [] => false
  | c :: _ => cs.all isNameChar && !isAsciiDigit c && !isReserved cs

/-- Whether a name can be used as it is. -/
def isValid (name : String) : Bool :=
  isValidChars name.toList

/-- The name made from a native name: characters that cannot be used become underscores, an
underscore goes before a leading digit and behind a reserved word. A name of which only underscores
are left has no usable form, which is the empty text. -/
def sanitizeChars (cs : List Char) : List Char :=
  let text := cs.map fun c => if isNameChar c then c else '_'
  if text.all (· == '_') then []
  else
    let text := if text.head?.any isAsciiDigit then '_' :: text else text
    if isReserved text then text ++ ['_'] else text

/-- The name made from a native name. -/
def sanitize (name : String) : String :=
  String.ofList (sanitizeChars name.toList)

/-- A name with a number behind it. -/
def numbered (name : String) (n : Nat) : String :=
  name ++ "_" ++ toString n

/-- The first numbered form of a name, from `n` on, that is not taken; `tries` numbers are tried. -/
def firstFree (taken : List String) (name : String) : Nat → Nat → String
  | 0, n => numbered name n
  | tries + 1, n =>
    if taken.contains (numbered name n) then firstFree taken name tries (n + 1)
    else numbered name n

/-- A name that is not taken: the name itself, or else its first free numbered form from `n` on.
Among one number more than there are taken names, one is free. -/
def unique (taken : List String) (name : String) (n : Nat) : String :=
  if taken.contains name then firstFree taken name taken.length n else name

end Bindery.Naming
