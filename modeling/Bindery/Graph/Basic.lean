import Bindery.Declaration.Library
import Bindery.Loose.Basic

/-!
# Declaration graphs

A graph is a typed library for as long as everything given to it has the type it is meant to have,
and a loose library from then on. A typed library in which declarations lie so deep that a way down
may not reach them counts as loose as well. Nothing that can be asked of a graph tells the two
apart, so an operation can be stated for typed libraries, where it has its laws, and be carried out
for both.
-/

namespace Bindery

/-- A library, typed or loose. -/
inductive Graph where
  /-- All attributes have their types. -/
  | typed (lib : Library)
  /-- Attributes hold anything. -/
  | loose (l : LooseLibrary)
deriving Repr, Inhabited

/-- A change of a graph that may fail. -/
abbrev GraphM := ExceptT Fault (StateM Graph)

namespace Graph

/-- A graph without declarations. -/
def empty (namespaceName libraryName : Value) : Graph :=
  typed (.empty namespaceName libraryName)

/-- A typed library as a graph, which is loose where declarations lie too deep. -/
def ofLibrary (lib : Library) : Graph :=
  if lib.hasDepths then loose (.ofLibrary lib) else typed lib

/-- A graph as a loose library. -/
def loosened : Graph → LooseLibrary
  | typed lib => .ofLibrary lib
  | loose l => l

/-- Whether declarations lie too deep does not show in what is loosened. -/
theorem loosened_ofLibrary (lib : Library) : (ofLibrary lib).loosened = .ofLibrary lib := by
  unfold ofLibrary
  split <;> rfl

/-- How many declarations are registered. -/
def size : Graph → Nat
  | typed lib => lib.size
  | loose l => l.size

/-- Loosening a graph changes nothing about what is registered. -/
theorem size_loosened (g : Graph) : g.loosened.size = g.size := by
  cases g
  · exact LooseLibrary.size_ofLibrary _
  · rfl

/-- The declarations that are listed as units. -/
def units : Graph → List Nat
  | typed lib => lib.units
  | loose l => l.units

/-- Whether a declaration of a number has been created. -/
def hasCreated : Graph → Nat → Bool
  | typed lib, id => id < lib.created
  | loose l, id => id < l.created

/-- Whether a number is registered. -/
def contains : Graph → Nat → Bool
  | typed lib, id => lib.contains id
  | loose l, id => l.contains id

/-- What identifies the declaration of a number: the number, unless data have changed that. -/
def idOf : Graph → Nat → Value
  | typed _, id => .int id
  | loose l, id => ((l.value (.declaration id) "id").toOption).getD (.int id)

/-- An answer about a graph, read in the way that fits it. -/
def ask {α : Type} (g : Graph) (typedly : Library → Except GraphFault α)
    (loosely : LooseLibrary → Except Fault α) : Except Fault α :=
  match g with
  | typed lib => (typedly lib).mapError .graph
  | loose l => loosely l

end Graph

namespace GraphM

/-- Changes a graph for good to a loose one and then as told. -/
def loosely {α : Type} (m : LooseM α) : GraphM α := do
  let (outcome, l) := (ExceptT.run m).run (← get).loosened
  set (Graph.loose l)
  match outcome with
  | .ok a => pure a
  | .error f => throw f

/-- Changes a graph in the way that fits it. -/
def change {α : Type} (edit : Edit α) (m : LooseM α) : GraphM α := do
  match ← get with
  | .loose _ => loosely m
  | .typed lib =>
    let (outcome, lib) := edit.perform lib
    set (Graph.typed lib)
    match outcome with
    | .ok a => pure a
    | .error f => throw (.graph f)

/-- Runs a change: its outcome and the graph it leaves. -/
def perform {α : Type} (m : GraphM α) (g : Graph) : Except Fault α × Graph :=
  (ExceptT.run m).run g

end GraphM

end Bindery
