import Bindery.Declaration.Walk
import Bindery.Proofs.Declaration.Tree
import Bindery.Proofs.Outcome

/-!
# Libraries compared slot by slot

Most changes of a library leave its numbers alone and change its declarations one by one. Two
libraries match when they have the same slots, registered alike, and the declarations of a number
are in some relation. What such a change keeps of the places and the scopes of declarations is
settled here for all relations at once.
-/

namespace Bindery.Library

variable {R S : Decl → Decl → Prop} {lib mid out : Library}

/-- What is registered behind a new declaration. -/
theorem registered?_append (lib : Library) (d : Decl) (id : Nat) :
    (lib.append d).registered? id = if id = lib.created then some d else lib.registered? id := by
  have hc : lib.created = lib.slots.length := rfl
  unfold registered? append
  rcases Nat.lt_trichotomy id lib.slots.length with hlt | rfl | hgt
  · rw [List.getElem?_append_left hlt, if_neg (by omega)]
  · rw [List.getElem?_concat_length, if_pos hc.symm]
    rfl
  · rw [if_neg (by omega), List.getElem?_eq_none (by simp; omega),
      List.getElem?_eq_none (by omega)]

/-- Changing one declaration leaves the others registered as they are. -/
theorem registered?_update_of_ne {id k : Nat} (f : Decl → Decl) (h : id ≠ k) :
    (lib.update id f).registered? k = lib.registered? k := by
  unfold registered? update
  simp [h]

theorem contains_eq_isSome (lib : Library) (id : Nat) :
    lib.contains id = (lib.registered? id).isSome := by
  unfold contains registered?
  cases lib.slots[id]? with
  | none => rfl
  | some s => cases hs : s.registered <;> simp [Option.filter, hs]

/-- Changing a declaration leaves everything registered as it is. -/
@[simp] theorem contains_update (lib : Library) (id : Nat) (f : Decl → Decl) (k : Nat) :
    (lib.update id f).contains k = lib.contains k := by
  unfold contains update
  rw [List.getElem?_modify]
  cases lib.slots[k]? with
  | none => rfl
  | some s => by_cases hk : id = k <;> simp [hk]

/-- Giving declarations up leaves all of them what they are. -/
theorem decl?_discard (lib : Library) (unit id : Nat) :
    (lib.discard unit).decl? id = lib.decl? id := by
  unfold decl? discard
  rw [List.getElem?_mapIdx, Option.map_map]
  congr 1
  funext s
  show Slot.decl (if _ then _ else _) = _
  split_ifs <;> rfl

/-- What is given up is no longer registered, and all else is as it was. -/
theorem registered?_discard (lib : Library) (top id : Nat) :
    (lib.discard top).registered? id =
      if id ∈ (lib.subtree top).map (·.id) then none else lib.registered? id := by
  unfold registered? discard
  simp only [List.getElem?_mapIdx, List.contains_iff_mem]
  cases lib.slots[id]? with
  | none => simp
  | some s => split_ifs <;> simp [Option.filter]

/-- Two libraries have the same slots, and the declarations in them are related. -/
def Matches (R : Decl → Decl → Prop) (lib out : Library) : Prop :=
  ∀ id : Nat, Option.Rel (fun s t : Slot => t.registered = s.registered ∧ R s.decl t.decl)
    lib.slots[id]? out.slots[id]?

theorem Matches.refl (hR : ∀ d, R d d) (lib : Library) : lib.Matches R lib := by
  intro id
  cases lib.slots[id]? with
  | none => exact .none
  | some s => exact .some ⟨rfl, hR s.decl⟩

theorem Matches.trans (hR : ∀ c d e, R c d → R d e → R c e) (h : lib.Matches R mid)
    (h' : mid.Matches R out) : lib.Matches R out := by
  intro id
  have h1 := h id
  have h2 := h' id
  revert h1 h2
  cases lib.slots[id]? <;> cases mid.slots[id]? <;> cases out.slots[id]? <;> intro h1 h2 <;>
    cases h1 <;> cases h2
  · exact .none
  · next hs ht => exact .some ⟨ht.1.trans hs.1, hR _ _ _ hs.2 ht.2⟩

theorem Matches.mono (h : lib.Matches R out) (hRS : ∀ d e, R d e → S d e) : lib.Matches S out := by
  intro id
  have hid := h id
  revert hid
  cases lib.slots[id]? <;> cases out.slots[id]? <;> intro hid <;> cases hid
  · exact .none
  · next hs => exact .some ⟨hs.1, hRS _ _ hs.2⟩

/-- Changing one declaration into a related one. -/
theorem matches_update (hR : ∀ d, R d d) {id : Nat} {f : Decl → Decl}
    (hf : ∀ d, lib.decl? id = some d → R d (f d)) : lib.Matches R (lib.update id f) := by
  intro k
  simp only [update, List.getElem?_modify]
  cases hk : lib.slots[k]? with
  | none => exact .none
  | some s =>
    refine .some ?_
    by_cases he : id = k
    · subst he
      have hd : lib.decl? id = some s.decl := by simp [decl?, hk]
      simp only [if_true]
      exact ⟨trivial, hf _ hd⟩
    · simp only [if_neg he]
      exact ⟨trivial, hR s.decl⟩

namespace Matches

variable (h : lib.Matches R out)
include h

theorem decl? (id : Nat) : Option.Rel R (lib.decl? id) (out.decl? id) := by
  unfold Library.decl?
  have hid := h id
  revert hid
  cases lib.slots[id]? <;> cases out.slots[id]? <;> intro hid <;> cases hid
  · exact .none
  · next hs => exact .some hs.2

theorem registered? (id : Nat) : Option.Rel R (lib.registered? id) (out.registered? id) := by
  unfold Library.registered?
  have hid := h id
  revert hid
  cases lib.slots[id]? <;> cases out.slots[id]? <;> intro hid <;> cases hid
  · exact .none
  · next s t hs =>
    simp only [Option.filter, hs.1]
    split
    · exact .some hs.2
    · exact .none

theorem exists_of_decl? {id : Nat} {d : Decl} (hd : lib.decl? id = some d) :
    ∃ e, out.decl? id = some e ∧ R d e := by
  have hid := h.decl? id
  rw [hd] at hid
  cases hid' : out.decl? id with
  | none => rw [hid'] at hid; cases hid
  | some e =>
    rw [hid'] at hid
    cases hid with
    | some hde => exact ⟨e, rfl, hde⟩

theorem exists_of_decl?_out {id : Nat} {e : Decl} (he : out.decl? id = some e) :
    ∃ d, lib.decl? id = some d ∧ R d e := by
  have hid := h.decl? id
  rw [he] at hid
  cases hid' : lib.decl? id with
  | none => rw [hid'] at hid; cases hid
  | some d =>
    rw [hid'] at hid
    cases hid with
    | some hde => exact ⟨d, rfl, hde⟩

theorem exists_of_registered? {id : Nat} {d : Decl} (hd : lib.registered? id = some d) :
    ∃ e, out.registered? id = some e ∧ R d e := by
  have hid := h.registered? id
  rw [hd] at hid
  cases hid' : out.registered? id with
  | none => rw [hid'] at hid; cases hid
  | some e =>
    rw [hid'] at hid
    cases hid with
    | some hde => exact ⟨e, rfl, hde⟩

theorem exists_of_registered?_out {id : Nat} {e : Decl} (he : out.registered? id = some e) :
    ∃ d, lib.registered? id = some d ∧ R d e := by
  have hid := h.registered? id
  rw [he] at hid
  cases hid' : lib.registered? id with
  | none => rw [hid'] at hid; cases hid
  | some d =>
    rw [hid'] at hid
    cases hid with
    | some hde => exact ⟨d, rfl, hde⟩

theorem created : out.created = lib.created := by
  have hlen : ∀ n, lib.slots.length ≤ n ↔ out.slots.length ≤ n := by
    intro n
    rw [← List.getElem?_eq_none_iff, ← List.getElem?_eq_none_iff]
    have hn := h n
    revert hn
    cases lib.slots[n]? <;> cases out.slots[n]? <;> intro hn <;> cases hn <;> simp
  exact Nat.le_antisymm ((hlen _).1 (Nat.le_refl _)) ((hlen _).2 (Nat.le_refl _))

/-- Related declarations with the same scopes around them have related ways outward. -/
theorem outwardFrom (hp : ∀ d e, R d e → e.parent = d.parent) (n : Nat) {d e : Decl}
    (hde : R d e) : Agree (List.Forall₂ R) (lib.outwardFrom n d) (out.outwardFrom n e) := by
  induction n generalizing d e with
  | zero => exact .ok (.cons hde .nil)
  | succ n ih =>
    have hparent : Agree (Option.Rel R) (lib.parentOf d) (out.parentOf e) := by
      unfold parentOf
      rw [hp d e hde]
      cases d.parent with
      | none => exact .ok .none
      | some p =>
        refine Agree.map (R := R) ?_ fun _ _ hab => .some hab
        unfold Library.get
        have hreg := h.registered? p
        revert hreg
        cases lib.registered? p <;> cases out.registered? p <;> intro hreg <;> cases hreg
        · exact .error _ _
        · next hs => exact .ok hs
    unfold Library.outwardFrom
    refine hparent.bind fun a b hab => ?_
    cases hab with
    | none => exact .ok (.cons hde .nil)
    | some hab => exact (ih hab).bind fun ds es hds => .ok (.cons hde hds)

theorem outward (hp : ∀ d e, R d e → e.parent = d.parent) {d e : Decl} (hde : R d e) :
    Agree (List.Forall₂ R) (lib.outward d) (out.outward e) := by
  unfold Library.outward
  rw [h.created]
  exact h.outwardFrom hp _ hde

/-- Qualified names are made of the same scopes. -/
theorem qualifiedName (hp : ∀ d e, R d e → e.parent = d.parent) {d e : Decl} (hde : R d e) :
    Agree (fun _ _ => True) (lib.qualifiedName d) (out.qualifiedName e) :=
  (h.outward hp hde).map fun _ _ _ => trivial

end Matches

/-- Where scopes agree with lists, the way outward from what can be reached comes to a unit. -/
theorem exists_outwardFrom (h : lib.IsTree) (hs : lib.ScopesAgree) (n : Nat) {id : Nat} {d : Decl}
    (ha : lib.Attached id) (hd : lib.decl? id = some d) : ∃ ds, lib.outwardFrom n d = .ok ds := by
  induction n generalizing id d with
  | zero => exact ⟨[d], rfl⟩
  | succ n ih =>
    obtain ⟨u, hu, level, hb⟩ := ha
    cases hb with
    | self =>
      have hp := hs.unit_parent id hu d hd
      refine ⟨[d], ?_⟩
      simp only [outwardFrom, parentOf, hp]
      rfl
    | @step level owner _ hb hl =>
      have hp := hs.listed_parent owner id d ⟨u, hu, level, hb⟩ hl hd
      obtain ⟨p, hreg, -⟩ := h.registered owner ⟨u, hu, level, hb⟩
      obtain ⟨ds, hds⟩ := ih ⟨u, hu, level, hb⟩ (decl?_of_registered? hreg)
      refine ⟨d :: ds, ?_⟩
      simp only [outwardFrom, parentOf, hp, get, hreg]
      show (do let rest ← lib.outwardFrom n p; pure (d :: rest)) = _
      rw [hds]
      rfl

theorem exists_qualifiedName (h : lib.IsTree) (hs : lib.ScopesAgree) {id : Nat} {d : Decl}
    (ha : lib.Attached id) (hd : lib.decl? id = some d) : ∃ q, lib.qualifiedName d = .ok q := by
  obtain ⟨ds, hds⟩ := exists_outwardFrom h hs lib.created ha hd
  exact ⟨joinNames (·.name) ds, by unfold qualifiedName outward; rw [hds]; rfl⟩

end Bindery.Library
