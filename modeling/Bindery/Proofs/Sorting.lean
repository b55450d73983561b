import Bindery.Proofs.Outcome
import Bindery.Value.Compare
import Bindery.Value.Sorting
import Mathlib.Data.Set.List

/-!
# Sorting values

A sort comes to its end where no two items are refused to be compared, and it leaves the items in
another order then. Texts can always be told in order; among values that are to be told in order
one that is no text is found out at the latest when they are joined.
-/

namespace Bindery

namespace Sorted

variable {α ε : Type} {before : α → α → Except ε Bool}

/-- What comes of a sort are the items. -/
theorem perm_of_outcome {xs ys : List α} (h : (ofList before xs).outcome = .ok ys) :
    ys.Perm xs := by
  have hperm := ofList_perm before xs
  unfold outcome at h
  split at h
  · cases h
  · cases h
    exact hperm

section

variable {xs : List α} (h : ∀ a ∈ xs, ∀ b ∈ xs, ∃ c, before a b = .ok c)
include h

theorem exists_runLength (down : Bool) {last : α} (hlast : last ∈ xs) {rest : List α}
    (hrest : rest ⊆ xs) : ∃ n, runLength before down last rest = .ok n := by
  induction rest generalizing last with
  | nil => exact ⟨0, rfl⟩
  | cons x rest ih =>
    obtain ⟨hx, hrest⟩ := List.cons_subset.1 hrest
    obtain ⟨c, hc⟩ := h x hx last hlast
    obtain ⟨n, hn⟩ := ih hx hrest
    unfold runLength
    rw [hc]
    by_cases hdown : (c == down) = true
    · exact ⟨n + 1, by simp [hdown, hn, bind, Except.bind, pure, Except.pure]⟩
    · exact ⟨0, by simp [hdown, bind, Except.bind, pure, Except.pure]⟩

theorem exists_openingRun {ys : List α} (hys : ys ⊆ xs) :
    ∃ run rest, openingRun before ys = .ok (run, rest) := by
  unfold openingRun
  split
  · next a b rest =>
    obtain ⟨ha, hb, hrest⟩ := by simpa only [List.cons_subset] using hys
    obtain ⟨down, hdown⟩ := h b hb a ha
    obtain ⟨n, hn⟩ := exists_runLength h down hb hrest
    rw [hdown]
    exact ⟨_, _, by simp only [bind, Except.bind, hn]; rfl⟩
  · exact ⟨ys, [], rfl⟩

theorem exists_place {sorted : List α} (hsorted : sorted ⊆ xs) {x : α} (hx : x ∈ xs)
    (low high : Nat) : ∃ i, place before sorted x low high = .ok i := by
  -- Halving leaves a smaller range on either side.
  induction hsize : high - low using Nat.strongRecOn generalizing low high with
  | ind size ih =>
    unfold place
    split
    · next hlow =>
      cases hmiddle : sorted[low + (high - low) / 2]? with
      | none => exact ⟨low, by simp only [hmiddle]⟩
      | some y =>
        obtain ⟨c, hc⟩ := h x hx y (hsorted (List.mem_of_getElem? hmiddle))
        simp only [hmiddle, hc]
        cases c with
        | true => exact ih _ (by omega) low (low + (high - low) / 2) rfl
        | false => exact ih _ (by omega) (low + (high - low) / 2 + 1) high rfl
    · exact ⟨low, rfl⟩

theorem fault_insertAll {sorted rest : List α} (hsorted : sorted ⊆ xs) (hrest : rest ⊆ xs) :
    (insertAll before sorted rest).fault = none := by
  induction rest generalizing sorted with
  | nil => rfl
  | cons x rest ih =>
    obtain ⟨hx, hrest⟩ := List.cons_subset.1 hrest
    obtain ⟨i, hi⟩ := exists_place h hsorted hx 0 sorted.length
    unfold insertAll
    rw [hi]
    refine ih (List.append_subset.2 ⟨?_, List.cons_subset.2 ⟨hx, ?_⟩⟩) hrest
    · exact fun y hy => hsorted (List.take_subset i sorted hy)
    · exact fun y hy => hsorted (List.drop_subset i sorted hy)

/-- A sort in which nothing is refused comes to its end. -/
theorem exists_outcome : ∃ ys, (ofList before xs).outcome = .ok ys := by
  obtain ⟨run, rest, hrun⟩ := exists_openingRun h (List.Subset.refl xs)
  have hsubset : run ++ rest ⊆ xs := (openingRun_perm before hrun).subset
  obtain ⟨hfirst, hrest⟩ := List.append_subset.1 hsubset
  unfold outcome ofList
  rw [hrun]
  dsimp only
  rw [fault_insertAll h hfirst hrest]
  exact ⟨_, rfl⟩

end

end Sorted

namespace Value

/-- A value that is no text cannot be joined to others. -/
theorem exists_parts_error {values : List Value} (h : ∃ v ∈ values, v.text? = none) :
    ∃ m, parts values = .error m := by
  obtain ⟨v, hv, hnone⟩ := h
  cases hparts : parts values with
  | error m => exact ⟨m, rfl⟩
  | ok texts =>
    unfold parts at hparts
    obtain ⟨i, hi⟩ := List.mem_iff_getElem?.1 hv
    obtain ⟨text, htext⟩ := exists_of_mapM_ok hparts (List.mk_mem_zipIdx_iff_getElem?.2 hi)
    cases v with
    | text s => cases hnone
    | _ => cases htext

/-- Texts can be joined. -/
theorem parts_texts (texts : List String) : parts (texts.map text) = .ok texts := by
  unfold parts
  generalize 0 = place
  induction texts generalizing place with
  | nil => rfl
  | cons s texts ih =>
    rw [List.map_cons, List.zipIdx_cons, List.mapM_cons, ih]
    rfl

/-- Texts are told in order. -/
theorem exists_told {values : List Value} (h : ∀ v ∈ values, ∃ s, v = text s) :
    ∃ texts, (Sorted.ofList before values).outcome.bind parts = .ok texts ∧
      (texts.map text).Perm values := by
  have hcompared : ∀ v ∈ values, ∀ w ∈ values, ∃ c, before v w = .ok c := by
    intro v hv w hw
    obtain ⟨s, rfl⟩ := h v hv
    obtain ⟨t, rfl⟩ := h w hw
    exact ⟨_, rfl⟩
  obtain ⟨sorted, hsorted⟩ := Sorted.exists_outcome hcompared
  have hperm := Sorted.perm_of_outcome hsorted
  obtain ⟨texts, rfl⟩ : sorted ∈ Set.range (List.map text) := by
    rw [Set.range_list_map]
    exact fun v hv => (h v (hperm.mem_iff.1 hv)).imp fun s hs => hs.symm
  exact ⟨texts, by rw [hsorted]; exact parts_texts texts, hperm⟩

/-- Values that are not all texts cannot be told in order. -/
theorem exists_not_told {values : List Value} (h : ∃ v ∈ values, v.text? = none) :
    ∃ m, (Sorted.ofList before values).outcome.bind parts = .error m := by
  obtain ⟨v, hv, hnone⟩ := h
  cases hsorted : (Sorted.ofList before values).outcome with
  | error m => exact ⟨m, rfl⟩
  | ok sorted =>
    exact exists_parts_error ⟨v, (Sorted.perm_of_outcome hsorted).mem_iff.2 hv, hnone⟩

end Value

end Bindery
