import Bindery.Options.Basic
import Bindery.Text.Blank
import Bindery.Text.Lowercase
import Bindery.Value.Printer
import Bindery.Value.Reader

/-!
# Configuration files

A configuration is an object whose keys are options. Its lists are lists of texts, and a single text
stands for a list of one. Relative paths in it are read at the directory of the file: headers and
include directories always, the output directory and the transform where they look like paths. Files
are written in JSON or YAML, by their suffix. An integer that is too long to be read or written is
no fault of the configuration, and neither is a path with a zero character where it is read at the
directory.
-/

namespace Bindery

open Bindery.Text

/-- A configuration is refused. -/
def refuse {α : Type} (f : ConfigFault) : Except Fault α :=
  .error (.config f)

/-- How the text of a YAML file is read: as a value, or with a message why not. -/
abbrev YamlReader := String → Except String Value

namespace Options

/-- A path read at a directory, if it is relative. -/
def resolveAt (here base : Path) (text : String) : Except Fault String :=
  let p := Path.ofText text
  if p.isAbsolute then .ok p.text
  else if (base.join p).hasZero then .error (.file ⟨.zeroCharacter, p⟩)
  else .ok (Path.resolve here (base.join p)).text

/-- Whether a text looks like a path. -/
def looksLikePath (text : String) : Bool :=
  ".py".toList.isSuffixOf text.toList || text.toList.contains '/' || text.toList.contains '\\'

/-- The value of an option that is a list: a list of texts, given as a list or as a single text. -/
def listValue (key : String) : Value → Except Fault Value
  | .null => .ok .null
  | .text s => .ok (Value.ofTexts [s])
  | .list items =>
    if Value.areWritable items then .ok (Value.ofTexts (items.map (·.shown)))
    else .error .tooManyDigits
  | _ => refuse (.notAList key)

/-- The paths of a list, read at a directory. -/
def pathList (here base : Path) (v : Value) : Except Fault Value := do
  let paths ← (← itemsOf v).mapM fun v => resolveAt here base v.shown
  return Value.ofTexts paths

/-- A value, read at a directory if it looks like a path. -/
def pathValue (here base : Path) (v : Value) : Except Fault Value :=
  if !v.truthy then .ok v
  else if !v.isWritable then .error .tooManyDigits
  else if looksLikePath v.shown then (resolveAt here base v.shown).map .text
  else .ok v

/-- Changes the value of an option, if it is given. -/
def adjust (f : String → Value → Except Fault Value) (data : Fields) (key : String) :
    Except Fault Fields :=
  match data.get? key with
  | none => .ok data
  | some v => (f key v).map (data.put key)

/-- Changes the values of some options, one after the other. -/
def adjustAll (f : String → Value → Except Fault Value) (names : List String) (data : Fields) :
    Except Fault Fields :=
  names.foldlM (adjust f) data

/-- Options from a configuration in which all keys are options. -/
def ofKnown (data : Fields) (here : Path) (base : Option Path) : Except Fault Options := do
  let data ← adjustAll listValue listKeys data
  match base with
  | none => ofFields data
  | some base => do
    let data ← adjustAll (fun _ => pathList here base) pathListKeys data
    ofFields (← adjustAll (fun _ => pathValue here base) pathKeys data)

/-- Options from a configuration. Relative paths are read at `base`, if there is one; the program
runs at `here`. -/
def ofConfig (data : Fields) (here : Path) (base : Option Path) : Except Fault Options :=
  let unknown := (data.names.filter (!keys.contains ·)).mergeSort (· ≤ ·)
  if !unknown.isEmpty then refuse (.unknownKeys unknown) else ofKnown data here base

/-- The value of a configuration text, by the suffix of its file. The empty text stands for an
object without keys, and so does an empty value in YAML. -/
def readConfig (yaml : YamlReader) (path : Path) (text : String) : Except Fault Value :=
  let suffix := String.ofList (lowercase path.suffix.toList)
  if suffix = ".yaml" ∨ suffix = ".yml" then
    match yaml text with
    | .ok v => .ok (if v.truthy then v else .object [])
    | .error cause => refuse (.unreadable path.text cause)
  else if suffix = ".json" then
    match Value.ofJson (if text = "" then "\x7b\x7d" else text) with
    | .ok v => .ok v
    | .error f =>
      match f.cause with
      | .tooManyDigits _ => .error (.unreadableInteger f)
      | _ => refuse (.unreadable path.text f.message)
  else refuse (.unsupportedFormat suffix)

/-- The text of a file. -/
def readText (files : FileTree) (path : Path) : Except Fault String := do
  let bytes ← (files.read path).mapError .file
  let cs ← (decodeStrict bytes).mapError .undecodable
  return String.ofList (unifyLineEnds cs)

/-- Options from a configuration file. -/
def load (files : FileTree) (yaml : YamlReader) (path : Path) : Except Fault Options := do
  if !(← (files.leadsAnywhere path).mapError .file) then refuse (.fileNotFound path.text)
  else
    let text ← readText files path
    match ← readConfig yaml path text with
    | .object data => ofConfig data files.here (some (Path.resolve files.here path.parent))
    | _ => refuse .notAnObject

end Options

end Bindery
