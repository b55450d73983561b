import Bindery.Naming.Basic
import Mathlib.Data.List.Nodup
import Mathlib.Data.List.Perm.Subperm

/-!
# Usable and free names

A name that is made usable is usable unless nothing of it is left, a usable name stays so with a
number behind it, and a name that is looked for among numbered forms is never taken. The last holds
because there are more numbered forms tried than names taken.
-/

namespace Bindery.Naming

open Bindery.Text

/-! ### Numbered forms -/

/-- Numbered forms with different numbers differ. -/
theorem numbered_injective (name : String) : Function.Injective (numbered name) := by
  intro m n h
  have hl := congrArg String.toList h
  simp only [numbered, String.toList_append] at hl
  have hd := List.append_cancel_left hl
  rw [Nat.toString_eq_repr, Nat.toString_eq_repr, Nat.toList_repr, Nat.toList_repr] at hd
  have hn := congrArg (fun ds => Nat.ofDigitChars 10 ds 0) hd
  simpa using hn

/-- A search for a free name ends with a numbered form, from the number on that it began with. -/
theorem exists_firstFree_eq_numbered (taken : List String) (name : String) (tries n : Nat) :
    ∃ m ≥ n, firstFree taken name tries n = numbered name m := by
  induction tries generalizing n with
  | zero => exact ⟨n, Nat.le_refl n, rfl⟩
  | succ tries ih =>
    unfold firstFree
    split
    · obtain ⟨m, hm, hfound⟩ := ih (n + 1)
      exact ⟨m, by omega, hfound⟩
    · exact ⟨n, Nat.le_refl n, rfl⟩

/-- A search for a free name that ends with a taken one has met taken ones only. -/
theorem numbered_mem_of_firstFree_mem {taken : List String} {name : String} {tries n : Nat}
    (h : firstFree taken name tries n ∈ taken) :
    ∀ i ≤ tries, numbered name (n + i) ∈ taken := by
  induction tries generalizing n with
  | zero =>
    intro i hi
    obtain rfl : i = 0 := by omega
    exact h
  | succ tries ih =>
    unfold firstFree at h
    split at h
    · next hc =>
      intro i hi
      cases i with
      | zero => exact List.contains_iff_mem.1 hc
      | succ i =>
        have := ih h i (by omega)
        rwa [show n + 1 + i = n + (i + 1) by omega] at this
    · next hc => exact absurd (List.contains_iff_mem.2 h) hc

/-- Among one number more than there are taken names, one is free. -/
theorem firstFree_not_mem (taken : List String) (name : String) (n : Nat) :
    firstFree taken name taken.length n ∉ taken := by
  intro h
  have hall := numbered_mem_of_firstFree_mem h
  have hnodup : ((List.range (taken.length + 1)).map fun i => numbered name (n + i)).Nodup :=
    List.Nodup.map (fun i j hij => by have := numbered_injective name hij; omega)
      List.nodup_range
  have hsub : ((List.range (taken.length + 1)).map fun i => numbered name (n + i)) ⊆ taken := by
    intro x hx
    obtain ⟨i, hi, rfl⟩ := List.mem_map.1 hx
    exact hall i (by have := List.mem_range.1 hi; omega)
  have hlen := (List.Nodup.subperm hnodup hsub).length_le
  rw [List.length_map, List.length_range] at hlen
  omega

theorem unique_not_mem (taken : List String) (name : String) (n : Nat) :
    unique taken name n ∉ taken := by
  unfold unique
  split
  · exact firstFree_not_mem taken name n
  · next h => exact fun hm => h (List.contains_iff_mem.2 hm)

/-! ### Usable names -/

/-- A name is usable if it is not empty, has name characters only, starts with no digit and is not
reserved. -/
theorem isValid_iff {name : String} : isValid name = true ↔
    name.toList ≠ [] ∧ name.toList.all isNameChar = true ∧
      name.toList.head?.any isAsciiDigit = false ∧ isReserved name.toList = false := by
  unfold isValid isValidChars
  cases name.toList with
  | nil => simp
  | cons c cs => simp [and_assoc]

theorem ne_empty_of_isValid {name : String} (h : isValid name = true) : name ≠ "" := by
  rintro rfl
  exact absurd h (by decide)

/-- No reserved word has an underscore. -/
theorem isReserved_of_underscore {cs : List Char} (h : '_' ∈ cs) : isReserved cs = false := by
  have hwords : ∀ w ∈ reservedWords, '_' ∉ w.toList := by decide
  rw [← Bool.not_eq_true]
  intro hr
  have := hwords _ (List.contains_iff_mem.1 hr)
  rw [String.toList_ofList] at this
  exact this h

/-- The digits of a number are name characters. -/
theorem all_isNameChar_toString (n : Nat) : (toString n).toList.all isNameChar = true := by
  rw [List.all_eq_true, Nat.toString_eq_repr, Nat.toList_repr]
  intro c hc
  have := Nat.isDigit_of_mem_toDigits (by decide) (by decide) hc
  simp only [Char.isDigit, Bool.and_eq_true, decide_eq_true_eq] at this
  simp only [isNameChar, isAsciiDigit, Bool.or_eq_true, Bool.and_eq_true, decide_eq_true_eq]
  exact Or.inl (Or.inr this)

/-- A usable name stays usable with more name characters behind an underscore. -/
theorem isValid_append {name tail : String} (h : isValid name = true)
    (ht : tail.toList.all isNameChar = true) : isValid (name ++ "_" ++ tail) = true := by
  obtain ⟨hne, hall, hhead, -⟩ := isValid_iff.1 h
  obtain ⟨c, cs, hcs⟩ := List.exists_cons_of_ne_nil hne
  rw [isValid_iff, String.toList_append, String.toList_append, hcs]
  rw [hcs] at hall hhead
  refine ⟨by simp, ?_, by simpa using hhead, isReserved_of_underscore (by simp)⟩
  rw [List.all_append, List.all_append, hall, ht]
  decide

theorem isValid_numbered {name : String} (h : isValid name = true) (n : Nat) :
    isValid (numbered name n) = true :=
  isValid_append h (all_isNameChar_toString n)

theorem isValid_firstFree {name : String} (h : isValid name = true) (taken : List String)
    (tries n : Nat) : isValid (firstFree taken name tries n) = true := by
  induction tries generalizing n with
  | zero => exact isValid_numbered h n
  | succ tries ih =>
    unfold firstFree
    split
    · exact ih (n + 1)
    · exact isValid_numbered h n

theorem isValid_unique {name : String} (h : isValid name = true) (taken : List String) (n : Nat) :
    isValid (unique taken name n) = true := by
  unfold unique
  split
  · exact isValid_firstFree h taken _ n
  · exact h

/-- A name that is made usable is usable, unless nothing of it is left. -/
theorem isValid_sanitize {name : String} (h : sanitize name ≠ "") :
    isValid (sanitize name) = true := by
  rw [isValid_iff]
  have hne : (sanitize name).toList ≠ [] := fun hn => h (String.toList_inj.1 hn)
  refine ⟨hne, ?_⟩
  unfold sanitize at hne ⊢
  rw [String.toList_ofList] at hne ⊢
  unfold sanitizeChars at hne ⊢
  generalize hm : (name.toList.map fun c => if isNameChar c then c else '_') = text at hne ⊢
  have hall : text.all isNameChar = true := by
    rw [← hm, List.all_map, List.all_eq_true]
    intro c _
    simp only [Function.comp_apply]
    split
    · assumption
    · decide
  dsimp only at hne ⊢
  split at hne
  · exact absurd rfl hne
  · next hu =>
    rw [if_neg hu]
    -- only a text without a digit in front can be reserved
    by_cases hd : text.head?.any isAsciiDigit = true
    · have hr := isReserved_of_underscore (List.mem_cons_self : '_' ∈ '_' :: text)
      rw [if_pos hd, hr, if_neg Bool.false_ne_true]
      exact ⟨by rw [List.all_cons, hall]; decide, by rw [List.head?_cons]; decide, hr⟩
    · rw [if_neg hd]
      have hfront : text.head?.any isAsciiDigit = false := by simpa using hd
      by_cases hr : isReserved text = true
      · rw [if_pos hr]
        refine ⟨by rw [List.all_append, hall]; decide, ?_,
          isReserved_of_underscore (by simp)⟩
        cases text with
        | nil => decide
        | cons c cs => simpa using hfront
      · rw [if_neg hr]
        exact ⟨hall, hfront, by simpa using hr⟩

end Bindery.Naming
