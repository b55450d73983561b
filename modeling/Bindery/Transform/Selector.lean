/-!
# Naming a transform

A transform is named by the place that registers it and, after a colon, by its name there. The last
colon counts, and only if what follows it can be a name: it is not empty and no path goes on in it.
A single letter before the colon is the name of a drive, and belongs to a path.
-/

namespace Bindery

/-- The name of a transform taken apart. -/
structure Selector where
  /-- The place that registers it. -/
  target : String
  /-- Its name there, if it is given. -/
  name : Option String
deriving DecidableEq, Repr, Inhabited

namespace Selector

/-- Takes a name apart at its last colon. -/
def ofChars (cs : List Char) : Selector :=
  let selector := (cs.reverse.takeWhile (· ≠ ':')).reverse
  let target := cs.take (cs.length - selector.length - 1)
  if !cs.contains ':' || target.length ≤ 1 || selector.isEmpty || selector.contains '/' ||
      selector.contains '\\' then
    ⟨String.ofList cs, none⟩
  else ⟨String.ofList target, some (String.ofList selector)⟩

/-- Takes a name apart at its last colon. -/
def ofText (text : String) : Selector :=
  ofChars text.toList

end Selector

end Bindery
