import Bindery.Declaration.Form
import Bindery.Report

/-!
# Faults of the declaration graph

Why an operation on the graph of declarations is refused, and how the refusal is reported.
-/

namespace Bindery

/-- The causes of refusals. -/
inductive GraphFault where
  /-- No declaration is registered under a number, which is shown as it was given. -/
  | missing (id : String)
  /-- A kind of declaration does not take another one in. -/
  | refuses (owner child : Kind)
  /-- A kind of declaration holds no others. -/
  | childless (owner : Kind)
  /-- A class does not have the member that is to be removed; the names of both are shown. -/
  | notMember (child owner : String)
  /-- A scope does not have the declaration that is to be removed; the names of both are shown. -/
  | notDeclared (child owner : String)
  /-- A list does not have the declaration that is to be removed. -/
  | notListed
  /-- A unit that is not registered cannot be listed; its file is shown. -/
  | foreignUnit (file : String)
  /-- A value, which is shown, names no access level. -/
  | unknownAccess (shown : String)
  /-- A sort of declaration has no such part. -/
  | noPart (sort part : String)
  /-- An attribute with the name of what a creation is about. -/
  | reservedAttribute (name : String)
  /-- An attribute with the name of what a declaration is made in. -/
  | ownAttribute (sort name : String)
  /-- An attribute that every new declaration is given anyway. -/
  | fixedAttribute (sort name : String)
  /-- An attribute that a sort of declaration does not have. -/
  | unknownAttribute (sort name : String)
  /-- A location without all its parts, or with more than them. -/
  | location (f : ArityFault)
  /-- A value of a type that has no parts stands for a location. -/
  | notAPlace (typeName : String)
  /-- A declaration lies inside itself, so a way down from it has no end. -/
  | endless
  /-- A declaration lies inside itself, and what is done on the way down from it takes the last
  place there is. -/
  | endlessWork
deriving DecidableEq, Repr

/-- The message of a refusal. -/
def GraphFault.message : GraphFault → String
  | missing id => Text.quoted ("No declaration with id " ++ id)
  | refuses owner child => owner.word ++ " declarations cannot contain " ++ child.word
  | childless owner => owner.word ++ " declarations have no children"
  | notMember child owner => child ++ " is not a member of " ++ owner
  | notDeclared child owner => child ++ " is not declared in " ++ owner
  | notListed => "list.remove(x): x not in list"
  | foreignUnit file => "Translation unit " ++ file ++ " was not created by this library"
  | unknownAccess shown => shown ++ " is not a valid AccessSpecifier"
  | noPart sort part => "'" ++ sort ++ "' object has no attribute '" ++ part ++ "'"
  | reservedAttribute name =>
    "Library.create() got multiple values for argument '" ++ name ++ "'"
  | ownAttribute sort name =>
    sort ++ ".__init__() got multiple values for argument '" ++ name ++ "'"
  | fixedAttribute sort name =>
    "cxxbind.core.schema." ++ sort ++ "() got multiple values for keyword argument '" ++
      name ++ "'"
  | unknownAttribute sort name =>
    sort ++ ".__init__() got an unexpected keyword argument '" ++ name ++ "'"
  | location f => f.message
  | notAPlace typeName =>
    "cxxbind.core.schema.SourceLocation() argument after * must be an iterable, not " ++ typeName
  | endless => "maximum recursion depth exceeded"
  | endlessWork => "maximum recursion depth exceeded while calling a Python object"

/-- The label of a refusal. -/
def GraphFault.label : GraphFault → String
  | missing _ => "KeyError"
  | refuses .. => "TypeError"
  | childless _ => "TypeError"
  | notMember .. => "ValueError"
  | notDeclared .. => "ValueError"
  | notListed => "ValueError"
  | foreignUnit _ => "ValueError"
  | unknownAccess _ => "ValueError"
  | noPart .. => "AttributeError"
  | reservedAttribute _ => "TypeError"
  | ownAttribute .. => "TypeError"
  | fixedAttribute .. => "TypeError"
  | unknownAttribute .. => "TypeError"
  | location _ => "TypeError"
  | notAPlace _ => "TypeError"
  | endless => "RecursionError"
  | endlessWork => "RecursionError"

/-- A refusal as it is reported. -/
def GraphFault.report (f : GraphFault) : Report :=
  ⟨f.label, f.message⟩

end Bindery
