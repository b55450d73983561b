import Bindery.Report
import Bindery.Text.Quoted
import Bindery.Value.Basic

/-!
# Failures that cannot be made

A failure that is described by data is made from arguments, and some kinds of failures do not take
all arguments: a failed pass or header takes one or two, a failure of a text's encoding takes texts
and places in them, a failure of a grammar takes the place of what it is about, and a group of
failures takes failures, which data cannot describe. A failure that cannot be made fails for that
itself.
-/

namespace Bindery

namespace Misuse

/-- An argument of another type than the one it has to have. -/
def wrongType (message : String) : Report := ⟨"TypeError", message⟩

/-- The first argument of the kinds with a wording of their own. A second one may follow it. -/
def ownArgument? (kind : String) : Option String :=
  match kind with
  | "ParseError" => some "header"
  | "PassError" => some "pass_name"
  | _ => none

/-- Why a failed pass or header cannot be made. -/
def ofOwn? (kind : String) (args : List Value) : Option Report :=
  (ownArgument? kind).bind fun name =>
    match args with
    | [] =>
      some (wrongType
        (kind ++ ".__init__() missing 1 required positional argument: " ++ Text.quoted name))
    | [_] | [_, _] => none
    | args =>
      some (wrongType (kind ++ ".__init__() takes from 2 to 3 positional arguments but " ++
        toString (args.length + 1) ++ " were given"))

/-- What an argument has to be. -/
inductive Role where
  /-- A text. -/
  | text
  /-- Bytes, which no value is. -/
  | bytes
  /-- A place in a text. -/
  | place
deriving DecidableEq, Repr, Inhabited

/-- The name of a value's type where a text is wanted. -/
def typeWord : Value → String
  | .null => "None"
  | v => v.typeName

/-- The places in texts that can be told. -/
def placeLimit : Nat := Nat.pow 2 63

/-- Why a value cannot be the argument at a place, which is counted from one. -/
def Role.refusal? (role : Role) (n : Nat) (v : Value) : Option Report :=
  match role, v with
  | .text, .text _ => none
  | .text, v => some (wrongType ("argument " ++ toString n ++ " must be str, not " ++ typeWord v))
  | .place, .int n =>
    if n.natAbs < placeLimit then none
    else some ⟨"OverflowError", "Python int too large to convert to C ssize_t"⟩
  | .place, .bool _ => none
  | .place, v =>
    some (wrongType ("'" ++ v.typeName ++ "' object cannot be interpreted as an integer"))
  | .bytes, _ => none

/-- What the failures of encodings are made from. -/
def encodingRoles? (kind : String) : Option (List Role) :=
  match kind with
  | "UnicodeDecodeError" => some [.text, .bytes, .place, .place, .text]
  | "UnicodeEncodeError" => some [.text, .text, .place, .place, .text]
  | "UnicodeTranslateError" => some [.text, .place, .place, .text]
  | _ => none

/-- Why a failure of an encoding cannot be made. That there are no bytes is noticed last. -/
def ofEncoding? (kind : String) (args : List Value) : Option Report :=
  (encodingRoles? kind).bind fun roles =>
    if args.length ≠ roles.length then
      some (wrongType ("function takes exactly " ++ toString roles.length ++ " arguments (" ++
        toString args.length ++ " given)"))
    else
      let given := roles.zip args
      let refused := (given.zipIdx 1).findSome? fun ((role, v), n) => role.refusal? n v
      refused.orElse fun _ =>
        (given.find? (·.1 == .bytes)).map fun (_, v) =>
          wrongType ("a bytes-like object is required, not '" ++ v.typeName ++ "'")

/-- The kinds of texts that break a grammar. -/
def grammarKinds : List String := ["SyntaxError", "IndentationError", "TabError"]

/-- Why a failure of a grammar cannot be made. Its place has four parts, or six with its end. -/
def ofGrammar? (kind : String) (args : List Value) : Option Report :=
  if !grammarKinds.contains kind then none
  else
    match args with
    | [_, place] =>
      match place.items? with
      | none => some (wrongType ("'" ++ place.typeName ++ "' object is not iterable"))
      | some parts =>
        let n := parts.length
        let given := toString n ++ " given)"
        if n < 4 then some (wrongType ("function takes at least 4 arguments (" ++ given))
        else if 6 < n then some (wrongType ("function takes at most 6 arguments (" ++ given))
        else if n = 5 then
          some (wrongType "end_offset must be provided when end_lineno is provided")
        else none
    | _ => none

/-- The kinds of groups of failures. -/
def groupKinds : List String := ["ExceptionGroup", "BaseExceptionGroup"]

/-- Why a group of failures cannot be made. No value is a failure, so none can. -/
def ofGroup? (kind : String) (args : List Value) : Option Report :=
  if !groupKinds.contains kind then none
  else
    let callee := "BaseExceptionGroup.__new__()"
    let members := "second argument (exceptions)"
    match args with
    | [.text _, .list []] | [.text _, .text ""] =>
      some ⟨"ValueError", members ++ " must be a non-empty sequence"⟩
    | [.text _, .list _] | [.text _, .text _] =>
      some ⟨"ValueError", "Item 0 of " ++ members ++ " is not an exception"⟩
    | [.text _, _] => some (wrongType (members ++ " must be a sequence"))
    | [v, _] => some (wrongType (callee ++ " argument 1 must be str, not " ++ typeWord v))
    | args =>
      some (wrongType (callee ++ " takes exactly 2 arguments (" ++ toString args.length ++
        " given)"))

/-- A group of failures cannot be made. -/
theorem isSome_ofGroup? {kind : String} (h : groupKinds.contains kind = true) (args : List Value) :
    (ofGroup? kind args).isSome = true := by
  unfold ofGroup?
  simp only [h, Bool.not_true, Bool.false_eq_true, if_false]
  split <;> rfl

end Misuse

/-- Why a failure of a kind cannot be made from arguments. -/
def misuse? (kind : String) (args : List Value) : Option Report :=
  [Misuse.ofOwn?, Misuse.ofEncoding?, Misuse.ofGrammar?, Misuse.ofGroup?].findSome? fun test =>
    test kind args

end Bindery
