import Bindery.Declaration.Walk
import Bindery.Header.Members
import Bindery.Header.Search

/-!
# Parsing a header

A header is found, read and taken into the library as one unit, or it is given up and leaves no
trace but the numbers it used: a header that is missing or does not follow the grammar adds nothing,
and one that fails while its declarations are built has its unit discarded with all that is in it.
An access specifier without a word is the one failure that is not held back.
-/

namespace Bindery

/-- How bytes are made into the tree of a header. -/
abbrev Grammar := Source → SyntaxNode

/-- What all headers of a run share. -/
structure HeaderOptions where
  /-- Where headers are looked for. -/
  includeDirs : List Value
  /-- Definitions, which every unit notes down. -/
  defines : List Value
deriving Repr, Inhabited

/-- How parsing a header ends. -/
inductive HeaderOutcome where
  /-- The library has one more unit. -/
  | parsed
  /-- The header is given up. -/
  | failed (reason : String)
  /-- The run ends. -/
  | aborted (f : Fault)
deriving Repr, Inhabited

namespace HeaderOutcome

/-- Whether the header was taken into the library. -/
def isParsed : HeaderOutcome → Bool
  | parsed => true
  | _ => false

/-- Why the header was given up. -/
def reason? : HeaderOutcome → Option String
  | failed reason => some reason
  | _ => none

end HeaderOutcome

/-- Whether a fault only gives up the header it arose in. -/
def Fault.isHeldBack (f : Fault) : Bool :=
  ["ValueError", "TypeError", "KeyError", "RecursionError"].contains f.label

/-- The unit of a header before its contents are read. -/
def Header.openUnit (h : Header) (name : String) (defines : List Value) : Build Nat :=
  Build.edit <| Edit.create (.unit .empty h.file) none fun d =>
    { d with name := name, notes := d.notes.put "defines" (.list defines) }

/-- Reads a header as a new unit, which is listed at the end. -/
def Header.readUnit (h : Header) (name : String) (defines : List Value) (tree : SyntaxNode)
    (lib : Library) : HeaderOutcome × Library :=
  match (h.openUnit name defines).perform lib with
  | (.error f, lib) => (.aborted f, lib)
  | (.ok unit, lib) =>
    match (h.readItems (tree.size + 1) (h.commented none tree.children) unit).perform lib with
    | (.ok (), lib) => (.parsed, { lib with units := lib.units ++ [unit] })
    | (.error f, lib) =>
      if f.isHeldBack then (.failed (f.label ++ ": " ++ f.message), lib.discard unit)
      else (.aborted f, lib)

/-- The place of a fault of a header in words. -/
def faultPlace (source : Source) (n : SyntaxNode) : String :=
  let p := source.point n.start
  "syntax error at " ++ toString (p.row + 1) ++ ":" ++ toString (p.column + 1)

/-- Parses one header. -/
def Library.parseHeader (lib : Library) (files : FileTree) (grammar : Grammar)
    (options : HeaderOptions) (header : Value) : HeaderOutcome × Library :=
  match files.findHeader header options.includeDirs with
  | .error f => (.aborted f, lib)
  | .ok none => (.failed "file not found", lib)
  | .ok (some path) =>
    match files.read path with
    | .error f => (.failed f.message, lib)
    | .ok source =>
      let tree := grammar source
      match tree.firstFault? with
      | some n => (.failed (faultPlace source n), lib)
      | none => Header.readUnit ⟨path.text, source⟩ path.name options.defines tree lib

end Bindery
