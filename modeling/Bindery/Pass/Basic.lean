import Bindery.Declaration.Library
import Bindery.Fault

/-!
# Passes

A pass changes the library and may fail; what it did before it failed stays. Besides the library a
running pass has a log, which passes described by data write to, and a tally of what it did. What a
library is, is left open here.
-/

namespace Bindery

/-- What a pass did. -/
structure Tally where
  /-- How many declarations were renamed. -/
  renamed : Nat
  /-- Forward declarations that were linked, in order. -/
  resolved : List Nat
  /-- Forward declarations without definition, in order. -/
  unresolved : List Nat
deriving DecidableEq, Repr, Inhabited

/-- Nothing done. -/
def Tally.empty : Tally := ⟨0, [], []⟩

/-- What a running pass works on. -/
structure PassState (L : Type) where
  /-- The library. -/
  library : L
  /-- Entries written by passes described by data. -/
  log : List Value
  /-- What the pass did so far. -/
  tally : Tally
deriving Repr, Inhabited

/-- A step of a pass. -/
abbrev PassM (L : Type) := ExceptT Fault (StateM (PassState L))

namespace PassM

/-- Runs a step: its outcome and the state it leaves. -/
def perform {L α : Type} (m : PassM L α) (s : PassState L) : Except Fault α × PassState L :=
  (ExceptT.run m).run s

/-- A change of the library as a step of a pass. -/
def alter {L α : Type} (m : ExceptT Fault (StateM L) α) : PassM L α := do
  let s ← get
  let (outcome, lib) := (ExceptT.run m).run s.library
  set { s with library := lib }
  match outcome with
  | .ok a => pure a
  | .error f => throw f

/-- An edit as a step of a pass. -/
def edit {α : Type} (e : Edit α) : PassM Library α :=
  alter (ExceptT.mk ((ExceptT.run e).map (·.mapError .graph)))

/-- A look at the library as a step of a pass. -/
def view {L α : Type} (f : L → Except Fault α) : PassM L α := do
  match f (← get).library with
  | .ok a => pure a
  | .error e => throw e

/-- A look at a typed library as a step of a pass. -/
def look {α : Type} (f : Library → Except GraphFault α) : PassM Library α :=
  view fun lib => (f lib).mapError .graph

/-- Writes an entry into the log. -/
def note {L : Type} (entry : Value) : PassM L Unit :=
  modify fun s => { s with log := s.log ++ [entry] }

/-- Counts what the pass did. -/
def count {L : Type} (f : Tally → Tally) : PassM L Unit :=
  modify fun s => { s with tally := f s.tally }

end PassM

end Bindery
