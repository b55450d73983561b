import Bindery.Pass.Names
import Bindery.Proofs.Declaration.Pruned
import Bindery.Proofs.Declaration.Walk
import Bindery.Proofs.Naming.Names
import Bindery.Proofs.Step
import Mathlib.Tactic.SplitIfs

/-!
# Cleaned names and numbered overloads

Behind the cleaning of a tree every declaration below a unit has a name that can be used, but for
parameters, whose numbered names may be built on any integer. A scope is cleaned before what lies
inside it, so the names that are made after a scope are made after a name that can be used.

Telling overloads apart is never refused and only changes names: one that can be used gets a number
behind it, with which it can still be used.
-/

namespace Bindery

open Bindery.Naming

namespace Library

variable {lib out : Library}

/-- The declaration of a number has a name that can be used, or it is a parameter. -/
def Clean (lib : Library) (id : Nat) : Prop :=
  ∀ d, lib.decl? id = some d → d.body.form ≠ .parameter → isValid d.name = true

/-- Names that can be used stay so. -/
theorem Clean.renamed {id : Nat} (hc : lib.Clean id) (h : lib.RenamedTo out) : out.Clean id := by
  intro e he hf
  obtain ⟨d, hd, hde⟩ := h.slots.exists_of_decl?_out he
  rw [hde.body] at hf
  exact hde.valid (hc d hd hf)

end Library

/-! ### Names made for declarations -/

theorem kindLabel_isNameChar (d : Decl) : d.kindLabel.toList.all isNameChar = true := by
  have hlabel : ∀ k : Kind, k.label.toList.all isNameChar = true := by
    intro k
    cases k <;> decide
  unfold Decl.kindLabel
  split
  · split_ifs
    · decide
    · decide
    · exact hlabel _
  · exact hlabel _

/-- The name of what has no usable name of its own consists of name characters. -/
theorem anonymous_isNameChar (d : Decl) (n : Nat) :
    ("Anonymous" ++ d.kindLabel ++ toString n).toList.all isNameChar = true := by
  rw [String.toList_append, String.toList_append, List.all_append, List.all_append,
    kindLabel_isNameChar, all_isNameChar_toString]
  decide

theorem isValid_anonymous (d : Decl) (n : Nat) :
    isValid ("Anonymous" ++ d.kindLabel ++ toString n) = true := by
  have hwords : ∀ w ∈ reservedWords, w.toList.head? ≠ some 'A' := by decide
  have hhead : ("Anonymous" ++ d.kindLabel ++ toString n).toList.head? = some 'A' := by
    rw [String.toList_append, String.toList_append, List.append_assoc]
    rfl
  rw [isValid_iff]
  refine ⟨?_, anonymous_isNameChar d n, ?_, ?_⟩
  · intro hn
    rw [hn] at hhead
    cases hhead
  · rw [hhead]
    decide
  · rw [← Bool.not_eq_true]
    intro hr
    have hmem := List.contains_iff_mem.1 hr
    have := hwords _ hmem
    rw [String.toList_ofList] at this
    exact this hhead

/-- A usable name stays usable behind the name of its scope, where that can be used or has no part in
it. -/
theorem isValid_behind_scope {scope : Decl}
    (hs : isValid scope.name = true ∨ scope.body.form = .unit) {tail : String}
    (ht : isValid tail = true) (hc : tail.toList.all isNameChar = true) :
    isValid (if scope.kind = .unit ∨ scope.name = "" then tail
      else scope.name ++ "_" ++ tail) = true := by
  split_ifs with hu
  · exact ht
  · rcases hs with hs | hs
    · exact isValid_append hs hc
    · exact absurd (Or.inl (by simp [Decl.kind, Body.kind, hs, Form.kind])) hu

/-- The name made for a declaration in a scope with a usable name can be used, but for a parameter
without a name. -/
theorem isValid_deriveName_of_named {scope d : Decl} {ordinals : Ordinals}
    (hs : isValid scope.name = true ∨ scope.body.form = .unit)
    (hd : d.body.form = .parameter → d.name ≠ "") :
    isValid (deriveName scope d ordinals).1 = true := by
  have hmade : isValid (if sanitize d.name ≠ "" then (sanitize d.name, ordinals)
      else (if scope.kind = .unit ∨ scope.name = "" then
          "Anonymous" ++ d.kindLabel ++ toString (ordinals.of d.kindLabel)
        else scope.name ++ "_" ++
          ("Anonymous" ++ d.kindLabel ++ toString (ordinals.of d.kindLabel)),
        ordinals.next d.kindLabel)).1 = true := by
    by_cases hu : sanitize d.name = ""
    · rw [if_neg (not_not.2 hu)]
      exact isValid_behind_scope hs (isValid_anonymous d _) (anonymous_isNameChar d _)
    · rw [if_pos hu]
      exact isValid_sanitize hu
  unfold deriveName
  split
  · next hb =>
    rw [if_neg (hd (by rw [hb]; rfl))]
    exact hmade
  · exact hmade

/-- The name made for a declaration in a scope with a usable name can be used. -/
theorem isValid_deriveName {scope d : Decl} {ordinals : Ordinals}
    (hs : isValid scope.name = true ∨ scope.body.form = .unit) (hd : d.body.form ≠ .parameter) :
    isValid (deriveName scope d ordinals).1 = true :=
  isValid_deriveName_of_named hs fun hf => absurd hf hd

/-! ### Cleaning -/

/-- What is kept track of when nothing was done in a scope yet. -/
def Cleaning.start (lib : Library) (renamed : Nat) (scope : Decl) : Cleaning :=
  ⟨lib, renamed, ((lib.childrenOf scope).map (·.name)).filter isValid, []⟩

/-- Gives a child of a scope a usable name, and then what lies in it. -/
def Cleaning.cleanInto (n : Nat) (scope : Decl) (c : Cleaning) (child : Nat) : Cleaning :=
  let named := c.cleanChild scope child
  let s := Library.cleanFrom n child (named.library, named.renamed)
  { named with library := s.1, renamed := s.2 }

namespace Library

/-- A scope is cleaned child by child. -/
theorem cleanFrom_succ (n : Nat) {lib : Library} {id : Nat} {scope : Decl}
    (hd : lib.decl? id = some scope) (renamed : Nat) :
    cleanFrom (n + 1) id (lib, renamed) =
      let done := scope.body.children.foldl (Cleaning.cleanInto n scope)
        (.start lib renamed scope)
      (done.library, done.renamed) := by
  simp only [cleanFrom, hd]
  rfl

/-- Giving a declaration of a scope a usable name only changes names. -/
theorem renamedTo_cleanChild (c : Cleaning) (scope : Decl) (id : Nat) :
    c.library.RenamedTo (c.cleanChild scope id).library := by
  unfold Cleaning.cleanChild
  cases hd : c.library.decl? id with
  | none => exact .refl _
  | some d =>
    dsimp only
    split_ifs with hv
    · exact .refl _
    · refine RenamedTo.update fun e he hve => ?_
      rw [hd] at he
      cases he
      exact absurd hve hv

theorem clean_cleanChild {c : Cleaning} {scope : Decl}
    (hs : isValid scope.name = true ∨ scope.body.form = .unit) (id : Nat) :
    (c.cleanChild scope id).library.Clean id := by
  intro e he hf
  unfold Cleaning.cleanChild at he
  cases hd : c.library.decl? id with
  | none =>
    simp only [hd] at he
    cases he
  | some d =>
    simp only [hd] at he
    split_ifs at he with hv
    · rw [hd] at he
      cases he
      exact hv
    · rw [decl?_update, if_pos rfl, hd] at he
      cases he
      rw [Decl.name_rename]
      have hbody :
          (d.rename (unique c.taken (deriveName scope d c.ordinals).1 1)).body = d.body := by
        unfold Decl.rename
        split_ifs <;> rfl
      rw [hbody] at hf
      exact isValid_unique (isValid_deriveName hs hf) _ _

/-- Cleaning the names inside a declaration only changes names. -/
theorem renamedTo_cleanFrom (n id : Nat) (s : Library × Nat) :
    s.1.RenamedTo (cleanFrom n id s).1 := by
  induction n generalizing id s with
  | zero => exact .refl _
  | succ n ih =>
    obtain ⟨lib, renamed⟩ := s
    cases hd : lib.decl? id with
    | none =>
      simp only [cleanFrom, hd]
      exact .refl _
    | some scope =>
      rw [cleanFrom_succ n hd]
      refine List.foldlRecOn (motive := fun c : Cleaning => lib.RenamedTo c.library) _ _
        (.refl _) fun c hc child _ => ?_
      exact (hc.trans (renamedTo_cleanChild c scope child)).trans
        (ih child ((c.cleanChild scope child).library, (c.cleanChild scope child).renamed))

theorem renamedTo_cleanInto (n : Nat) (scope : Decl) (c : Cleaning) (child : Nat) :
    c.library.RenamedTo (c.cleanInto n scope child).library :=
  (renamedTo_cleanChild c scope child).trans (renamedTo_cleanFrom n child
    ((c.cleanChild scope child).library, (c.cleanChild scope child).renamed))

/-- Everything below a cleaned declaration has a name that can be used, if the declaration itself
has one or is a unit. -/
theorem clean_cleanFrom {n a : Nat} {s : Library × Nat} {d : Decl} (hd : s.1.decl? a = some d)
    (hv : isValid d.name = true ∨ d.body.form = .unit) {k x : Nat} (hk : k < n)
    (hb : s.1.Below a (k + 1) x) : (cleanFrom n a s).1.Clean x := by
  induction n generalizing a s d k x with
  | zero => exact absurd hk (Nat.not_lt_zero k)
  | succ n ih =>
    obtain ⟨lib, renamed⟩ := s
    obtain ⟨child, ⟨d', hd', hchild⟩, hb⟩ := below_succ_iff.1 hb
    rw [hd] at hd'
    cases hd'
    -- a child is cleaned with all below it, and stays so while the other ones are
    let Done : Cleaning → Nat → Prop := fun c child =>
      c.library.Clean child ∧ ∀ k x, k < n → lib.Below child (k + 1) x → c.library.Clean x
    suffices hdone : ∀ child ∈ d.body.children, Done _ child by
      rw [cleanFrom_succ n hd]
      obtain ⟨hfirst, hrest⟩ := hdone child hchild
      cases k with
      | zero =>
        rw [below_zero_iff] at hb
        subst hb
        exact hfirst
      | succ k => exact hrest k x (by omega) hb
    have hinside (c : Cleaning) (child : Nat) := renamedTo_cleanFrom n child
      ((c.cleanChild d child).library, (c.cleanChild d child).renamed)
    have hstep := renamedTo_cleanInto n d
    refine foldl_makes (I := fun c => lib.RenamedTo c.library) ?_ ?_ ?_ (.refl _)
    · exact fun c child hc => hc.trans (hstep c child)
    · intro c child x _ hx
      exact ⟨hx.1.renamed (hstep c child),
        fun k y hk hy => (hx.2 k y hk hy).renamed (hstep c child)⟩
    · intro c child _ hc
      have hclean := clean_cleanChild hv (c := c) child
      have hrenamed := hc.trans (renamedTo_cleanChild c d child)
      refine ⟨hclean.renamed (hinside c child), fun k y hk hy => ?_⟩
      obtain ⟨g, ⟨e, he, hg⟩, -⟩ := below_succ_iff.1 (hrenamed.below_iff.2 hy)
      refine ih he (.inl (hclean e he ?_)) hk (hrenamed.below_iff.2 hy)
      intro hf
      cases hbody : e.body <;> simp [hbody, Body.form] at hf
      rw [hbody] at hg
      cases hg

theorem renamedTo_cleanNames (lib : Library) : lib.RenamedTo lib.cleanNames.1 := by
  unfold cleanNames
  refine List.foldlRecOn (motive := fun s : Library × Nat => lib.RenamedTo s.1) _ _ (.refl _) ?_
  exact fun s hs id _ => hs.trans (renamedTo_cleanFrom _ id s)

/-- Behind the cleaning of a tree everything but the units can be named. -/
theorem IsTree.clean_cleanNames {lib : Library} (h : lib.IsTree) {id : Nat} (ha : lib.Attached id)
    (hu : id ∉ lib.units) : lib.cleanNames.1.Clean id := by
  obtain ⟨u, hmem, level, hb⟩ := ha
  have hlevel := h.level_lt_created hmem hb
  cases hb with
  | self => exact absurd hmem hu
  | @step level owner _ hb hl =>
    have hbelow := hb.step hl
    let Done : Library × Nat → Nat → Prop := fun s u =>
      ∀ k x, k < lib.created → lib.Below u (k + 1) x → s.1.Clean x
    suffices hdone : ∀ u ∈ lib.units, Done lib.cleanNames u from
      hdone u hmem level id (by omega) hbelow
    refine foldl_makes (I := fun s => lib.RenamedTo s.1) ?_ ?_ ?_ (.refl _)
    · exact fun s id hs => hs.trans (renamedTo_cleanFrom _ id s)
    · exact fun s id u hs hx k x hk hb => (hx k x hk hb).renamed (renamedTo_cleanFrom _ id s)
    · intro s u hu hs k x hk hb
      obtain ⟨d, hd, hf⟩ := h.unit_form u hu
      obtain ⟨e, he, hde⟩ := hs.slots.exists_of_decl? hd
      exact clean_cleanFrom he (.inr (hde.body ▸ hf)) hk (hs.below_iff.2 hb)

end Library

/-! ### Overloads -/

namespace Library

theorem renamedTo_overloadStep (o : Overloads) (id : Nat) :
    o.library.RenamedTo (o.step id).library := by
  unfold Overloads.step
  cases hd : o.library.decl? id with
  | none => exact .refl _
  | some d =>
    dsimp only
    split_ifs
    · exact .refl _
    · refine RenamedTo.update fun e he hv => ?_
      rw [hd] at he
      cases he
      exact isValid_firstFree hv _ _ _

theorem renamedTo_separate (lib : Library) (scope : Decl) (ids : List Nat) :
    lib.RenamedTo (lib.separate scope ids) := by
  unfold separate
  refine List.foldlRecOn (motive := fun o : Overloads => lib.RenamedTo o.library) _ _ (.refl _) ?_
  exact fun o ho id _ => ho.trans (renamedTo_overloadStep o id)

theorem renamedTo_separateIn (lib : Library) (id : Nat) : lib.RenamedTo (lib.separateIn id) := by
  unfold separateIn
  cases hd : lib.decl? id with
  | none => exact .refl _
  | some d =>
    cases hb : d.body <;> simp only [hb] <;>
      first
        | exact renamedTo_separate lib d _
        | exact .refl _

theorem renamedTo_separateBelow (lib : Library) (id : Nat) :
    lib.RenamedTo (lib.separateBelow id) := by
  unfold separateBelow
  refine List.foldlRecOn (motive := fun l : Library => lib.RenamedTo l) _ _ (.refl _) ?_
  exact fun l hl id _ => hl.trans (renamedTo_separateIn l id)

end Library

/-- Telling overloads apart is never refused and only changes names. -/
theorem PassM.outcomeOf_separateOverloads (s : PassState Library) :
    ∃ t, outcomeOf separateOverloads s = (.ok (), t) ∧ s.library.RenamedTo t.library := by
  unfold separateOverloads
  rw [outcomeOf_bind_ok (outcomeOf_get s)]
  refine outcomeOf_forM_ok
    (I := fun _ (t : PassState Library) => s.library.RenamedTo t.library) ?_ (.refl _)
  intro id _ t ht
  refine ⟨{ t with library := t.library.separateBelow id }, ?_, ?_⟩
  · rw [outcomeOf_edit, outcomeOf_modify]
    rfl
  · exact ht.trans (Library.renamedTo_separateBelow t.library id)

end Bindery
