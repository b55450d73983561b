/-!
# Sorting by refusable comparisons

A list is sorted by a comparison that may be refused. The run at its start is taken as it is, turned
round where it goes down, and every further item is put behind all those that it does not come
before, which is found by halving. A refused comparison ends the sort, and what it leaves is the
list with the items that had their places by then.
-/

namespace Bindery

/-- What a sort leaves. -/
structure Sorted (α ε : Type) where
  /-- The items, in the order they have then. -/
  items : List α
  /-- Why the sort ended early, if it did. -/
  fault : Option ε
deriving Repr, Inhabited

namespace Sorted

variable {α ε : Type} (before : α → α → Except ε Bool)

/-- How many items go on with a run that goes down, or does not, behind `last`. -/
def runLength (down : Bool) (last : α) : List α → Except ε Nat
  | [] => .ok 0
  | x :: xs => do
    if (← before x last) == down then return (← runLength down x xs) + 1 else return 0

/-- The run at the start of a list in ascending order, and the rest. -/
def openingRun : List α → Except ε (List α × List α)
  | a :: b :: rest => do
    let down ← before b a
    let n ← runLength before down b rest
    let run := a :: b :: rest.take n
    return (if down then run.reverse else run, rest.drop n)
  | xs => .ok (xs, [])

/-- The place for an item in a sorted list between two places. -/
def place (sorted : List α) (x : α) (low high : Nat) : Except ε Nat :=
  if _h : low < high then
    let middle := low + (high - low) / 2
    match sorted[middle]? with
    | none => .ok low
    | some y => do
      if ← before x y then place sorted x low middle else place sorted x (middle + 1) high
  else .ok low
termination_by high - low

/-- Puts items into a sorted list one after the other. -/
def insertAll (sorted : List α) : List α → Sorted α ε
  | [] => ⟨sorted, none⟩
  | x :: rest =>
    match place before sorted x 0 sorted.length with
    | .error e => ⟨sorted ++ x :: rest, some e⟩
    | .ok i => insertAll (sorted.take i ++ x :: sorted.drop i) rest

/-- Sorts a list. -/
def ofList (xs : List α) : Sorted α ε :=
  match openingRun before xs with
  | .error e => ⟨xs, some e⟩
  | .ok (run, rest) => insertAll before run rest

/-- The sorted items, if the sort came to its end. -/
def outcome (s : Sorted α ε) : Except ε (List α) :=
  match s.fault with
  | some e => .error e
  | none => .ok s.items

/-- What is put into a list is neither lost nor doubled. -/
theorem insertAll_perm (sorted rest : List α) :
    (insertAll before sorted rest).items.Perm (sorted ++ rest) := by
  induction rest generalizing sorted with
  | nil => simp [insertAll]
  | cons x rest ih =>
    unfold insertAll
    split
    · exact .refl _
    · next i _ =>
      refine (ih _).trans ?_
      have moved : (sorted.take i ++ x :: sorted.drop i).Perm (x :: sorted) := by
        simpa using @List.perm_middle _ x (sorted.take i) (sorted.drop i)
      exact (moved.append_right rest).trans List.perm_middle.symm

/-- A run and what is behind it make up the list. -/
theorem openingRun_perm {xs run rest : List α} (h : openingRun before xs = .ok (run, rest)) :
    (run ++ rest).Perm xs := by
  unfold openingRun at h
  split at h
  · next a b tail =>
    cases hd : before b a with
    | error e => simp [hd, bind, Except.bind] at h
    | ok down =>
      cases hn : runLength before down b tail with
      | error e => simp [hd, hn, bind, Except.bind] at h
      | ok n =>
        simp only [hd, hn, bind, Except.bind, pure, Except.pure, Except.ok.injEq,
          Prod.mk.injEq] at h
        obtain ⟨rfl, rfl⟩ := h
        have whole : (a :: b :: tail.take n) ++ tail.drop n = a :: b :: tail := by simp
        cases down
        · simp
        · refine ((List.reverse_perm _).append_right _).trans ?_
          rw [whole]
  · simp only [Except.ok.injEq, Prod.mk.injEq] at h
    obtain ⟨rfl, rfl⟩ := h
    simp

/-- A sort loses no item and doubles none, whether it comes to its end or not. -/
theorem ofList_perm (xs : List α) : (ofList before xs).items.Perm xs := by
  unfold ofList
  split
  · exact .refl _
  · next run rest h => exact (insertAll_perm before run rest).trans (openingRun_perm before h)

end Sorted

end Bindery
