import Bindery.Declaration.Library
import Bindery.Loose.Basic
import Bindery.Value.Sorting

/-!
# Sweeps through loose libraries

A sweep goes through what can be reached from the units of a loose library, item by item, and ends
where it meets something that cannot be entered. What it found before that counts: whoever takes the
items one by one gets them first and the fault afterwards. A way down that goes through more
declarations than there are goes through one of them twice and has no end; one that goes through
more of them than there is room for is given up in the same way.
-/

namespace Bindery

/-- What a sweep found. -/
structure Sweep where
  /-- The items, in order. -/
  found : List Item
  /-- What ended the sweep early, if anything did. -/
  fault : Option Fault
deriving Repr, Inhabited

namespace Sweep

/-- The sweep through given items, unless there is a fault instead of them. -/
def ofItems : Except Fault (List Item) → Sweep
  | .ok items => ⟨items, none⟩
  | .error f => ⟨[], some f⟩

/-- The items of a sweep that came to its end. -/
def all (s : Sweep) : Except Fault (List Item) :=
  match s.fault with
  | some f => .error f
  | none => .ok s.found

/-- Everything was found if and only if nothing ended the sweep. -/
theorem all_eq_ok_iff (s : Sweep) (items : List Item) :
    s.all = .ok items ↔ s.fault = none ∧ s.found = items := by
  unfold all
  cases s.fault <;> simp

/-- One sweep for each item, up to the first that ends early, and what ended the first one. -/
def follow (next : Item → Sweep) (last : Option Fault) : List Item → Sweep
  | [] => ⟨[], last⟩
  | i :: rest =>
    match next i with
    | ⟨found, some f⟩ => ⟨found, some f⟩
    | ⟨found, none⟩ =>
      let behind := follow next last rest
      ⟨found ++ behind.found, behind.fault⟩

/-- Each item of a sweep with a sweep of its own. -/
def flatMap (s : Sweep) (next : Item → Sweep) : Sweep :=
  follow next s.fault s.found

/-- The items of a sweep that pass a test, which may fail. -/
def filter (s : Sweep) (test : Item → Except Fault Bool) : Sweep :=
  s.flatMap fun i => .ofItems ((test i).map fun passes => if passes then [i] else [])

/-- What is read of each item; a fault of an item comes before one of the sweep. -/
def mapM {α : Type} (s : Sweep) (read : Item → Except Fault α) : Except Fault (List α) := do
  let values ← s.found.mapM read
  match s.fault with
  | some f => throw f
  | none => return values

/-- The first item that passes a test; the sweep goes no further than that. -/
def find? (s : Sweep) (test : Item → Except Fault Bool) : Except Fault (Option Item) := do
  match ← s.found.findM? test with
  | some i => return some i
  | none =>
    match s.fault with
    | some f => throw f
    | none => return none

end Sweep

namespace LooseLibrary

variable (l : LooseLibrary)

/-- The items on a list of an item, as they are spread into another list. -/
def spread (item : Item) (name : String) : Except Fault (List Item) := do
  let c ← l.content item name
  match c.items? with
  | some items => return items
  | none => throw (.misfit (.notSpreadable c.typeName))

/-- The items inside an item, in the order in which they are visited. -/
def children (item : Item) : Except Fault (List Item) := do
  l.canDo item "children"
  match l.formOf? item with
  | none => return []
  | some form =>
    let list := if form.isScope || form = .record then l.spread item else l.inside item
    return (← form.lists.mapM list).flatten

/-- An item and all below it by way of `next`, down to a number of levels. -/
def below (next : Item → Except Fault (List Item)) : Nat → Item → Sweep
  | 0, _ => ⟨[], some (.graph .endless)⟩
  | levels + 1, item =>
    let inner := (Sweep.ofItems (next item)).flatMap (below next levels)
    ⟨item :: inner.found, inner.fault⟩

/-- How many levels a way down can have that takes a number of places at each of them and does not
go through anything twice. -/
def levelsFor (places : Nat) : Nat :=
  min (l.created + 2) (Library.room / places)

/-- How many levels a way down can have that takes one place at each of them. -/
def levels : Nat :=
  l.levelsFor 1

/-- The units. -/
def roots : Sweep :=
  ⟨l.units.map .declaration, none⟩

/-- Every item below the units. -/
def walk : Sweep :=
  l.roots.flatMap (below l.children l.levels)

/-- The units and every scope below them. -/
def namespaces : Sweep :=
  l.roots.flatMap (below (l.inside · "namespaces") l.levels)

/-- The classes of an item and the classes inside them. -/
def classesOf (item : Item) : Sweep :=
  (Sweep.ofItems (l.inside item "classes")).flatMap (below (l.inside · "classes") l.levels)

/-- Every class, nested ones included. -/
def classes : Sweep :=
  l.namespaces.flatMap l.classesOf

/-- The functions of every scope. -/
def functions : Sweep :=
  l.namespaces.flatMap fun scope => .ofItems (l.inside scope "functions")

end LooseLibrary

end Bindery

/-!
## Dumps of loose libraries

A loose declaration as an object of the attributes that its form has, as they are. What holds
nothing has no field, and attributes that the form does not have are left out. A list is taken for
one of declarations when its first item is one; then all of its items have to be.
-/

namespace Bindery.LooseLibrary

variable (l : LooseLibrary)

mutual

/-- The dump of an item, down to a number of levels. -/
def dumpFrom : Nat → Item → Except Fault Value
  | 0, _ => .error (.graph .endless)
  | levels + 1, item => do
    l.canDo item "to_dict"
    match l.formOf? item with
    | none => return .object []
    | some form =>
      let fields ← form.attributes.filterMapM fun name => do
        let v ← dumpContent levels (← l.content item name)
        return v.map fun v => (name, v)
      return .object fields

/-- What an attribute holds in a dump, if it holds anything. -/
def dumpContent (levels : Nat) : Content → Except Fault (Option Value)
  | .value .null => .ok none
  | .value v => .ok (some v)
  | .kind k => .ok (some (.text k.word))
  | .access a => .ok (some (.text a.word))
  | .location file line column =>
    .ok (some (.object [("file_path", file), ("line", line), ("column", column)]))
  | .list (.declaration id :: rest) => do
    let items ← (Item.declaration id :: rest).mapM (dumpFrom levels)
    return some (.list items)
  | .list items =>
    match items.findSome? l.formOf? with
    | some form => .error (.misfit (.notWritable form.name))
    | none => .ok (some (Content.list items).toValue)

end

/-- The dump of a declaration. -/
def dumpDecl (id : Nat) : Except Fault Value :=
  l.dumpFrom (l.levelsFor 2) (.declaration id)

/-- The fields of the dump of a library. -/
def dumpFields : Except Fault Fields := do
  return [("namespace", l.namespaceName), ("library_name", l.libraryName),
    ("translation_units", .list (← l.units.mapM l.dumpDecl))]

/-- The dump of a library. -/
def dump : Except Fault Value :=
  l.dumpFields.map .object

end Bindery.LooseLibrary

/-!
## Definition order of loose declarations

Classes are put back into the order of their attributes `definition_order`, which all have to be
known before one list is sorted and have to be comparable while it is. A list whose sorting ends
early stays as far as it was sorted.
-/

namespace Bindery

namespace LooseLibrary

/-- Items with what an attribute of theirs holds. -/
def keyed (l : LooseLibrary) (items : List Item) (name : String) :
    Except Fault (List (Item × Value)) :=
  items.mapM fun i => return (i, ← l.value i name)

/-- Whether an item comes before another one by what is held beside it. -/
def keyBefore (a b : Item × Value) : Except Misfit Bool :=
  a.2.before b.2

/-- Items in the order of their attributes `definition_order`. -/
def inOrder (l : LooseLibrary) (items : List Item) : Except Fault (List Item) := do
  let keyed ← l.keyed items "definition_order"
  match (Sorted.ofList keyBefore keyed).outcome with
  | .ok sorted => return sorted.map (·.1)
  | .error m => throw (.misfit m)

end LooseLibrary

namespace LooseM

open LooseLibrary

/-- Sorts the classes of an item and those inside them, down to a number of levels. -/
def sortClasses : Nat → Item → LooseM Unit
  | 0, _ => throw (.graph .endless)
  | levels + 1, item => do
    match ← look (·.content item "classes") with
    | .list items => do
      let keyed ← look (·.keyed items "definition_order")
      let sorted := Sorted.ofList keyBefore keyed
      let items := sorted.items.map (·.1)
      assign item "classes" (.list items)
      match sorted.fault with
      | some m => throw (.misfit m)
      | none => items.forM (sortClasses levels)
    | c => throw (.misfit (.noOperation c.typeName "sort"))

/-- Sorts the classes of a scope and of the scopes inside it, down to a number of levels. Where
there are classes, looking at them takes more places than sorting the list does. -/
def sortScopes : Nat → Item → LooseM Unit
  | 0, item => do
    let hasClasses := !(← look (·.inside item "classes")).isEmpty
    throw (.graph (if hasClasses then .endless else .endlessWork))
  | levels + 1, item => do
    sortClasses levels item
    (← look (·.inside item "namespaces")).forM (sortScopes levels)

/-- Sorts the classes below a declaration. -/
def sortBelow (id : Nat) : LooseM Unit := do
  sortScopes ((← get).levels + 1) (.declaration id)

/-- Sorts the classes of every unit. -/
def sort : LooseM Unit := do
  (← get).units.forM sortBelow

end LooseM

end Bindery
