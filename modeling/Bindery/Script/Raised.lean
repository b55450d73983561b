import Bindery.Script.Misuse
import Bindery.Value.Printer

/-!
# Failures described by data

A transform that is described by data can be told to fail. Such a failure has a kind of its own
choosing and the arguments it is made with, and its message follows from them: a missing key is
quoted, a failed pass and an unreadable header have the wording of their kind, a failed system call
has a number and a text, a failure of a grammar or an encoding tells its place, and any other
failure shows its only argument, or all of them in parentheses. A failure that cannot be made from
its arguments fails for that.
-/

namespace Bindery

/-- The message of a header that could not be read. -/
def headerMessage (header reason : String) : String :=
  "Could not parse '" ++ header ++ "'" ++ (if reason = "" then "" else ": " ++ reason)

/-- The message of a pass that failed. -/
def passMessage (pass : String) (cause : Option String) : String :=
  "Pass '" ++ pass ++ "' failed" ++
    match cause with
    | none => ""
    | some text => ": " ++ text

/-- A failure described by data. -/
structure Raised where
  /-- Its kind. -/
  kind : String
  /-- What it was made with. -/
  args : List Value
deriving Repr, Inhabited

namespace Raised

/-- Why a failure cannot be made from its arguments. -/
def misuse? (r : Raised) : Option Report :=
  Bindery.misuse? r.kind r.args

/-- The kinds of system calls that fail without a number of their own. -/
def systemKinds : List String := ["OSError", "IOError", "EnvironmentError"]

/-- The kinds of system calls that fail with a number. -/
def numberedKinds : List (Int × String) :=
  [(1, "PermissionError"), (2, "FileNotFoundError"), (3, "ProcessLookupError"),
    (4, "InterruptedError"), (10, "ChildProcessError"), (11, "BlockingIOError"),
    (13, "PermissionError"), (17, "FileExistsError"), (20, "NotADirectoryError"),
    (21, "IsADirectoryError"), (32, "BrokenPipeError"), (103, "ConnectionAbortedError"),
    (104, "ConnectionResetError"), (108, "BrokenPipeError"), (110, "TimeoutError"),
    (111, "ConnectionRefusedError"), (114, "BlockingIOError"), (115, "BlockingIOError")]

/-- Whether a failure is one of a system call. -/
def isSystem (r : Raised) : Bool :=
  systemKinds.contains r.kind || r.kind == "ConnectionError" ||
    numberedKinds.any (·.2 == r.kind)

/-- Whether a failed system call has a number. -/
def isNumbered (r : Raised) : Bool :=
  r.isSystem && 2 ≤ r.args.length && r.args.length ≤ 5

/-- The number of a failed system call, if it has one. -/
def number (r : Raised) : Int :=
  match r.args with
  | .int n :: _ => n
  | .bool b :: _ => b.toInt
  | _ => 0

/-- The kind of a failed system call by its number. -/
def systemKind (r : Raised) : String :=
  if r.isNumbered then ((numberedKinds.find? (·.1 == r.number)).map (·.2)).getD "OSError"
  else "OSError"

/-- The files that a failed system call is about. -/
def filesText : List Value → String
  | [] | .null :: _ => ""
  | [file, _, second] =>
    ": " ++ file.literal ++
      match second with
      | .null => ""
      | v => " -> " ++ v.literal
  | file :: _ => ": " ++ file.literal

/-- The kind of a failure that can be made. -/
def sort (r : Raised) : String :=
  if systemKinds.contains r.kind then r.systemKind else r.kind

/-- A failed system call in words. One that would block tells how far it came and not a file, if it
is given a number in place of a file. -/
def systemWording (r : Raised) (number text : Value) (files : List Value) : String :=
  let about :=
    match r.sort, files with
    | "BlockingIOError", .int _ :: _ | "BlockingIOError", .bool _ :: _ => ""
    | _, files => filesText files
  "[Errno " ++ number.shown ++ "] " ++ text.shown ++ about

/-- The last component of the name of a file. -/
def fileName (file : String) : String :=
  String.ofList (file.toList.reverse.takeWhile (· ≠ '/')).reverse

/-- A line of a file. One that cannot be told is shown as no line can be. -/
def lineText (line : Int) : String :=
  "line " ++ toString (if line.natAbs < Misuse.placeLimit then line else -1)

/-- The place that a failure of a grammar is about. -/
def grammarPlace (parts : List Value) : String :=
  match parts with
  | .text file :: .int line :: _ => " (" ++ fileName file ++ ", " ++ lineText line ++ ")"
  | .text file :: _ => " (" ++ fileName file ++ ")"
  | _ :: .int line :: _ => " (" ++ lineText line ++ ")"
  | _ => ""

/-- The character at a place of a text by its number, and its place; or the places, if there is not
just one character. -/
def characterPlace (text : String) (start stop : Int) : String :=
  match if 0 ≤ start ∧ stop = start + 1 then text.toList[start.toNat]? else none with
  | some c =>
    let digits (mark : String) (n : Nat) : String :=
      " '\\" ++ mark ++ String.ofList (Text.hexDigits n c.toNat)
    "character" ++
      (if c.toNat < 0x100 then digits "x" 2 else if c.toNat < 0x10000 then digits "u" 4
        else digits "U" 8) ++ "' in position " ++ toString start
  | none => "characters in position " ++ toString start ++ "-" ++ toString (stop - 1)

/-- A place in a text, as a number. -/
def placeOf : Value → Int
  | .int n => n
  | .bool b => b.toInt
  | _ => 0

/-- A failure with several arguments in words. -/
def wordingOf (r : Raised) : String :=
  match r.kind, r.args with
  | "PassError", [pass, .null] => passMessage pass.shown none
  | "PassError", [pass, cause] => passMessage pass.shown (some cause.shown)
  | "ParseError", [header, reason] =>
    headerMessage header.shown (if reason.truthy then reason.shown else "")
  | "UnicodeEncodeError", [.text codec, .text text, start, stop, .text reason] =>
    "'" ++ codec ++ "' codec can't encode " ++
      characterPlace text (placeOf start) (placeOf stop) ++ ": " ++ reason
  | "UnicodeTranslateError", [.text text, start, stop, .text reason] =>
    "can't translate " ++ characterPlace text (placeOf start) (placeOf stop) ++ ": " ++ reason
  | kind, first :: second :: rest =>
    if Misuse.grammarKinds.contains kind then
      first.shown ++ if rest.isEmpty then grammarPlace (second.items?.getD []) else ""
    else if r.isNumbered then r.systemWording first second rest
    else "(" ++ ", ".intercalate (Value.literals r.args) ++ ")"
  | _, _ => ""

/-- The message of a failure that can be made. Without arguments it is empty, but a failure of a
grammar shows that there is none. -/
def wording (r : Raised) : String :=
  match r.kind, r.args with
  | kind, [] => if Misuse.grammarKinds.contains kind then Value.null.shown else ""
  | "PassError", [pass] => passMessage pass.shown none
  | "ParseError", [header] => headerMessage header.shown ""
  | "KeyError", [key] => key.literal
  | _, [v] => v.shown
  | _, _ => r.wordingOf

/-- A failure as it is reported. -/
def report (r : Raised) : Report :=
  r.misuse?.getD ⟨r.sort, r.wording⟩

/-- The label of a failure. -/
def label (r : Raised) : String :=
  r.report.label

/-- The message of a failure. -/
def message (r : Raised) : String :=
  r.report.message

/-- The number of a system call that writes what nobody reads. -/
def unwantedNumber : Int := 32

/-- Whether a failure says that what is written is unwanted. -/
def isUnwanted (r : Raised) : Bool :=
  r.misuse?.isNone && r.isNumbered && r.number == unwantedNumber

/-- The kinds of failures that nothing holds back. -/
def unheldKinds : List String :=
  ["BaseException", "GeneratorExit", "KeyboardInterrupt", "SystemExit"]

/-- Whether nothing holds a failure back. -/
def isUnheld (r : Raised) : Bool :=
  unheldKinds.contains r.label

end Raised

end Bindery
