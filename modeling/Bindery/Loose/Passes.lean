import Bindery.Loose.Edit
import Bindery.Loose.Sweep
import Bindery.Naming.Basic
import Bindery.Naming.Given
import Bindery.Pass.Basic
import Bindery.Pass.Names
import Bindery.Pass.Visitor

/-!
# Passes over loose libraries

What the passes do to a typed library they do to a loose one as well: forward declarations are
merged, names that cannot be used are replaced, overloads and the names of the module are told
apart, and visitors go through. Attributes are read when they are needed, and what one of them holds
is looked at only then, so a value of another type ends a pass where the pass comes upon it.
-/

namespace Bindery

open Bindery.Naming

/-!
### Forward declarations of loose libraries

Every class that counts as incomplete is merged into the first complete class of the same qualified
name: it is linked to what identifies that class, hands over its comment where the class has none
that counts, and leaves its scope.
-/

namespace LooseLibrary

/-- The complete classes by qualified name, the first of each name. -/
def definitions (l : LooseLibrary) : Except Fault (List (String × Item)) := do
  let named ← l.classes.mapM fun cls => do
    if ← l.truth cls "is_incomplete" then return none
    return some (← l.qualifiedName false cls, cls)
  return named.filterMap id

end LooseLibrary

namespace LooseM

/-- Links a forward declaration to its definition. -/
def link (item definition : Item) : LooseM Unit := do
  assign item "definition_id" (← look (·.content definition "id"))
  assign item "is_incomplete" (.value (.bool false))
  let comment ← look (·.content item "comment")
  if comment.toValue.truthy && !(← look (·.truth definition "comment")) then
    assign definition "comment" comment

end LooseM

namespace PassM

open LooseLibrary

/-- Merges one class into its definition, if it is a forward declaration. -/
def resolveLooseClass (definitions : List (String × Item)) (item : Item) :
    PassM LooseLibrary Unit := do
  if ← view (·.truth item "is_incomplete") then
    let name ← view (·.qualifiedName false item)
    match definitions.find? (·.1 == name) with
    | none => count fun t => { t with unresolved := t.unresolved ++ item.number?.toList }
    | some (_, definition) =>
      alter (LooseM.link item definition)
      item.number?.toList.forM fun id => alter (LooseM.remove id)
      count fun t => { t with resolved := t.resolved ++ item.number?.toList }

/-- Merges every forward declaration of a loose library into its definition. -/
def resolveLoose : PassM LooseLibrary Unit := do
  let definitions ← view (·.definitions)
  let classes ← view (·.classes.all)
  classes.forM (resolveLooseClass definitions)

end PassM

/-!
### Names that cannot be used, in loose libraries

A name that counts as nothing cannot be used, whatever it is; any other name has to be a text to be
looked at. Names are made as for typed declarations, out of whatever the attributes that take part
in them hold.
-/

namespace LooseLibrary

variable (l : LooseLibrary)

/-- The name of an item, if it can be used. -/
def usableName? (item : Item) : Except Fault (Option String) := do
  (usable? (← l.value item "name")).mapError .misfit

/-- The word for the kind of an item in made-up names. -/
def kindLabel (item : Item) : Except Fault String := do
  if l.hasForm .record item then
    if ← l.truth item "is_union" then return "Union"
    if ← l.truth item "is_struct" then return "Struct"
  match ← l.content item "kind" with
  | .kind k => return k.label
  | c => do
    let _ ← key c.toValue
    return Kind.unknownLabel

/-- The name made for an item of a scope whose own name cannot be used. -/
def deriveName (scope item : Item) (ordinals : Ordinals) : Except Fault (String × Ordinals) := do
  let name ← l.value item "name"
  if l.hasForm .parameter item && !name.truthy then
    return ("arg" ++ (← l.value item "index").shown, ordinals)
  let made ← (sanitizeGiven name).mapError .misfit
  if made ≠ "" then return (made, ordinals)
  let label ← l.kindLabel item
  let tail := "Anonymous" ++ label ++ toString (ordinals.of label)
  let scopeName ← l.value scope "name"
  let isOuter := l.hasForm .unit scope || !scopeName.truthy
  return (if isOuter then tail else scopeName.shown ++ "_" ++ tail, ordinals.next label)

end LooseLibrary

/-- The names of a scope that are taken, and how many nameless declarations it has had. -/
structure ScopeNames where
  /-- The names. -/
  taken : List String
  /-- The nameless declarations so far. -/
  ordinals : Ordinals
deriving Inhabited

namespace PassM

/-- Gives an item of a scope a usable name if it has none. -/
def cleanLooseChild (scope item : Item) (names : ScopeNames) :
    PassM LooseLibrary ScopeNames := do
  if (← view (·.usableName? item)).isSome then return names
  let (made, ordinals) ← view (·.deriveName scope item names.ordinals)
  let name := unique names.taken made 1
  let _ ← view (·.kindOf item)
  alter (LooseM.rename item (.text name))
  count fun t => { t with renamed := t.renamed + 1 }
  return ⟨name :: names.taken, ordinals⟩

/-- Cleans the names inside an item, down to a number of levels. -/
def cleanLooseFrom : Nat → Item → PassM LooseLibrary Unit
  | 0, _ => throw (.graph .endlessWork)
  | levels + 1, scope => do
    let children ← view (·.children scope)
    let taken ← children.filterMapM fun child => view (·.usableName? child)
    let _ ← children.foldlM
      (fun names child => do
        let names ← cleanLooseChild scope child names
        cleanLooseFrom levels child
        return names)
      (⟨taken, []⟩ : ScopeNames)

/-- Cleans the names of every unit of a loose library. -/
def cleanLoose : PassM LooseLibrary Unit := do
  let l := (← get).library
  l.units.forM fun id => cleanLooseFrom l.levels (.declaration id)

end PassM

/-!
### Overloads in loose libraries

Functions of one scope, and methods of one class, that have the same name are told apart by numbers.
Everything below the units is entered on the way, whether there are functions in it or not, so a
list that is none is found out wherever it is.
-/

/-- The names that telling overloads apart has met in a scope. -/
structure MetNames where
  /-- The texts that are taken. -/
  taken : List String
  /-- The names met so far, once for each declaration that had it. -/
  met : List Value
deriving Inhabited

namespace PassM

open LooseLibrary

/-- Gives one item a number if its name was met before. -/
def numberLoose (names : MetNames) (item : Item) : PassM LooseLibrary MetNames := do
  let name ← view (·.value item "name")
  let _ ← view fun _ => key name
  let before := names.met.countP (·.same name)
  let met := name :: names.met
  if before = 0 then return { names with met := met }
  let free := firstFree names.taken name.shown names.taken.length before
  alter (LooseM.rename item (.text free))
  return ⟨free :: names.taken, met⟩

/-- Tells the items of a list of a scope apart. -/
def separateLoose (scope : Item) (list : String) : PassM LooseLibrary Unit := do
  let c ← view (·.content scope list)
  let children ← view (·.children scope)
  let names ← children.mapM fun child => view fun l => l.value child "name" >>= key
  match c.items? with
  | some items =>
    let _ ← items.foldlM numberLoose ⟨names.filterMap (·.text?), []⟩
  | none => throw (.misfit (.notIterable c.typeName))

/-- Enters the functions, or the methods, of a list of an item. -/
def enterCallables (item : Item) (list : String) : PassM LooseLibrary Unit := do
  (← view (·.inside item list)).forM fun f => do
    let _ ← view (·.inside f "parameters")

/-- Enters the enumerations of an item. -/
def enterEnums (item : Item) : PassM LooseLibrary Unit := do
  (← view (·.inside item "enums")).forM fun e => do
    let _ ← view (·.inside e "items")

/-- Tells the overloads of a class apart and of those inside it, down to a number of levels. -/
def separateLooseClass : Nat → Item → PassM LooseLibrary Unit
  | 0, _ => throw (.graph .endless)
  | levels + 1, item => do
    separateLoose item "methods"
    (← view (·.inside item "classes")).forM (separateLooseClass levels)
    enterEnums item
    let _ ← view (·.inside item "fields")
    enterCallables item "methods"

/-- Tells the overloads of a scope apart and of all inside it, down to a number of levels. -/
def separateLooseScope : Nat → Item → PassM LooseLibrary Unit
  | 0, _ => throw (.graph .endless)
  | levels + 1, item => do
    separateLoose item "functions"
    (← view (·.inside item "namespaces")).forM (separateLooseScope levels)
    (← view (·.inside item "classes")).forM (separateLooseClass levels)
    enterEnums item
    enterCallables item "functions"

/-- Tells all overloads of a loose library apart. -/
def separateLooseOverloads : PassM LooseLibrary Unit := do
  let l := (← get).library
  l.units.forM fun id => separateLooseScope (l.levelsFor 2) (.declaration id)

end PassM

/-!
### Names that share the module, in loose libraries

Classes, enumerations and functions are given names of their own in the order of their attributes
`definition_order`, as far as these can be compared. A name has to be a key, but need not be a text.
-/

namespace LooseLibrary

variable (l : LooseLibrary)

/-- Whether an item is named in the module. -/
def isModuleLevel (item : Item) : Except Fault Bool := do
  if ← l.truth item "ignored" then return false
  if !(← l.truth item "name") then return false
  if l.hasForm .record item then
    if ← l.truth item "is_incomplete" then return false
  l.isOfKind item [.record, .enumeration, .function]

/-- The items named in the module, in definition order. -/
def moduleLevel : Except Fault (List Item) := do
  l.inOrder (← (l.walk.filter l.isModuleLevel).all)

end LooseLibrary

namespace PassM

open LooseLibrary

/-- Gives one item a name that is not taken, and adds the name to the taken ones. -/
def takeLooseName (taken : List Value) (item : Item) : PassM LooseLibrary (List Value) := do
  let name ← view (·.value item "name")
  let _ ← view fun _ => key name
  if !taken.any (·.same name) then return name :: taken
  let qualified ← view (·.qualifiedName false item)
  let candidate := sanitize (String.ofList (flattenScopes qualified.toList))
  let texts := taken.filterMap (·.text?)
  let free :=
    if candidate = "" then firstFree texts name.shown texts.length 1 else unique texts candidate 1
  let _ ← view (·.kindOf item)
  alter (LooseM.rename item (.text free))
  return .text free :: taken

/-- Gives every item of the module a name of its own. -/
def separateLooseModuleNames : PassM LooseLibrary Unit := do
  let items ← view (·.moduleLevel)
  let _ ← items.foldlM takeLooseName (moduleWords.map .text)

end PassM

/-!
### Visitors of loose libraries

A visitor described by data goes through the declarations of a loose library as it goes through
typed ones. It has to look names up, so a name that is no key ends it; new names can be any values.
-/

namespace PassM

open LooseLibrary

/-- The name of an item now, which has to be a key. -/
def keyNow (item : Item) : PassM LooseLibrary Value :=
  view fun l => l.value item "name" >>= key

/-- What a visitor does to an item itself. -/
def actLoose (script : VisitScript) (label : Kind) (item : Item) : PassM LooseLibrary Unit := do
  let id ← view (·.value item "id")
  let name ← view (·.value item "name")
  note (.list [script.name, .text label.word, id, name])
  let name ← keyNow item
  match script.rename.find? fun e => name.same (.text e.1) with
  | some (_, new) => alter (LooseM.rename item new)
  | none => pure ()
  let name ← view (·.value item "name")
  if script.remove.any (·.same name) then
    item.number?.toList.forM fun id => alter (LooseM.remove id)
  let name ← keyNow item
  match script.fail.find? fun e => name.same (.text e.1) with
  | some (_, failure) => throw (.raised failure)
  | none => pure ()

/-- Visits an item and what lies inside it, down to a number of levels. -/
def visitLoose (script : VisitScript) : Nat → Kind → Item → PassM LooseLibrary Unit
  | 0, _, _ => throw (.graph .endless)
  | levels + 1, label, item => do
    actLoose script label item
    if script.skip.contains label.word then return
    if label = .unit then visitLoose script levels .space item
    (listsOf label).forM fun (list, kind) => do
      (← view (·.inside item list)).forM (visitLoose script levels kind)

/-- Visits every unit of a loose library. -/
def visitLooseLibrary (script : VisitScript) : PassM LooseLibrary Unit := do
  let l := (← get).library
  l.units.forM fun id => visitLoose script (l.levelsFor 2 + 1) .unit (.declaration id)

end PassM

end Bindery
