import Bindery.Initializer.Expression
import Bindery.Initializer.Grammar
import Bindery.Initializer.Nesting
import Bindery.Text.Blank

/-!
# The constants of initializers

An initializer has a constant if, respelled, it is an expression with a value. Names are looked up
among the enumerators before it, whose scopes are joined to their names like those of the
initializer. An obstacle stops an initializer from being read or evaluated at all.
-/

namespace Bindery.Initializer

open Bindery.Text

/-- Gives a name a constant. A known name keeps its place. -/
def Known.put (known : Known) (name : String) (c : Constant) : Known :=
  if known.any (·.1 == name) then known.map fun e => if e.1 == name then (name, c) else e
  else known ++ [(name, c)]

/-- Known constants under respelled names; of names that are respelled alike the last counts. -/
def Known.respelled (known : Known) : Known :=
  (known.map fun e => (String.ofList (joinScopes e.1.toList), e.2)).reverse

/-- The text that is read in place of an initializer. -/
def readable (text : String) : List Char :=
  respell (strip text.toList)

/-- What keeps an initializer from being read or evaluated. A text that is no expression meets no
obstacle beyond zero characters and the count of rules. -/
def obstacle? (text : String) : Option Obstacle :=
  let cs := readable text
  if cs.contains '\x00' then some .zeroCharacter
  else if Obstacle.ruleLimit < ruleDepth cs then some .tooManyRules
  else (parse cs).bind Obstacle.ofExpr?

/-- The constant of an initializer, if it has one. -/
def constant? (known : Known) (text : String) : Option Constant :=
  (parse (readable text)).bind (·.value? known.respelled)

end Bindery.Initializer
