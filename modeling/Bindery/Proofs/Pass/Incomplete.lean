import Bindery.Proofs.Declaration.Pruned
import Bindery.Proofs.Declaration.Walk

/-!
# Merging forward declarations

Merging forward declarations into their classes only takes declarations out, whatever becomes of the
pass. In a tree whose declarations name the ones that list them as their scopes it is never refused:
every qualified name can be told, and what is to be taken out is still where it was listed.
-/

namespace Bindery

namespace Library

variable {lib : Library}

theorem link_prunedTo (lib : Library) (id definition : Nat) :
    lib.PrunedTo (lib.link id definition) := by
  have hlinked : lib.PrunedTo (lib.update id fun d =>
      { d with body := d.body.mapRecord fun r =>
        { r with definition := some definition, incomplete := false } }) := by
    refine PrunedTo.update fun d _ => ⟨rfl, rfl, rfl, rfl, rfl, ?_, fun list => ?_⟩
    · cases d.body <;> rfl
    · cases d.body with
      | record r =>
        rw [Body.mapRecord, Body.listOf_record, Body.listOf_record]
      | _ => exact List.Sublist.refl _
  unfold link
  dsimp only
  split_ifs
  · exact hlinked
  · refine hlinked.trans (PrunedTo.update fun d _ => ?_)
    split_ifs
    · exact ⟨rfl, rfl, rfl, rfl, rfl, rfl, fun _ => List.Sublist.refl _⟩
    · exact .refl d

/-- Linking a forward declaration takes nothing off a list. -/
theorem lists_link {id definition p x : Nat} (h : lib.Lists p x) :
    (lib.link id definition).Lists p x := by
  have hupdate : ∀ (lib : Library) (id : Nat) (f : Decl → Decl),
      (∀ d, (f d).body.children = d.body.children) →
        lib.Lists p x → (lib.update id f).Lists p x := by
    rintro lib id f hf ⟨d, hd, hx⟩
    unfold Lists
    rw [decl?_update, hd]
    split_ifs
    · exact ⟨f d, rfl, (hf d).symm ▸ hx⟩
    · exact ⟨d, rfl, hx⟩
  have hlinked := hupdate lib id (fun d =>
      { d with body := d.body.mapRecord fun r =>
        { r with definition := some definition, incomplete := false } })
    (by intro d; cases hb : d.body <;> rfl) h
  unfold link
  dsimp only
  split_ifs
  · exact hlinked
  · refine hupdate _ definition _ (fun d => ?_) hlinked
    split_ifs <;> rfl

end Library

namespace Edit

/-- Taking a declaration out of the one it was created in, which gives it up. -/
theorem outcomeOf_remove_of_erase? {lib : Library} {id p : Nat} {d o : Decl} {b : Body}
    (hd : lib.decl? id = some d) (hp : d.parent = some p) (ho : lib.registered? p = some o)
    (hid : o.id = p) (hb : o.body.erase? id = some b) :
    outcomeOf (remove id) lib = (.ok (), lib.update p fun d => { d with body := b }) := by
  unfold remove
  rw [outcomeOf_bind_ok (outcomeOf_get lib)]
  simp only [hd, hp]
  have hget : lib.get p = .ok o := by
    unfold Library.get
    rw [ho]
  rw [outcomeOf_bind, outcomeOf_editLook, hget]
  simp only [hid]
  have hout := outcomeOf_removeChild (Library.decl?_of_registered? ho) hd
  rwa [hb] at hout

/-- A declaration that the one it was created in lists can be taken out. -/
theorem outcomeOf_remove_ok {lib : Library} {id p : Nat} {d o : Decl}
    (hd : lib.decl? id = some d) (hp : d.parent = some p) (ho : lib.registered? p = some o)
    (hid : o.id = p) (hl : id ∈ o.body.children) :
    ∃ t, outcomeOf (remove id) lib = (.ok (), t) := by
  obtain ⟨b, hb⟩ := Option.isSome_iff_exists.1 (Body.erase?_isSome_of_mem hl)
  exact ⟨_, outcomeOf_remove_of_erase? hd hp ho hid hb⟩

end Edit

namespace PassM

/-- Merging one class prunes the library, and leaves everything else where it was. -/
theorem resolveClass_prunedTo (definitions : List (String × Nat)) (id : Nat)
    (s : PassState Library) :
    s.library.PrunedTo (outcomeOf (resolveClass definitions id) s).2.library ∧
      ∀ p x, x ≠ id → s.library.Lists p x →
        (outcomeOf (resolveClass definitions id) s).2.library.Lists p x := by
  have hsame : s.library.PrunedTo s.library ∧
      ∀ p x, x ≠ id → s.library.Lists p x → s.library.Lists p x :=
    ⟨.refl _, fun _ _ _ hl => hl⟩
  unfold resolveClass
  rw [outcomeOf_bind_ok (outcomeOf_get s)]
  cases hd : s.library.decl? id with
  | none => exact hsame
  | some d =>
    dsimp only
    split_ifs
    · rw [outcomeOf_bind, outcomeOf_look]
      cases hq : s.library.qualifiedName d with
      | error f => exact hsame
      | ok name =>
        simp only [Except.mapError]
        cases hf : definitions.find? (·.1 == name) with
        | none => exact hsame
        | some entry =>
          dsimp only
          rw [outcomeOf_bind, outcomeOf_edit, outcomeOf_modify]
          simp only [Except.mapError]
          rw [outcomeOf_bind, outcomeOf_edit]
          have hlink := Library.link_prunedTo s.library id entry.2
          obtain ⟨hpruned, hlists⟩ := Edit.remove_prunedTo (s.library.link id entry.2) id
          cases hr : (outcomeOf (Edit.remove id) (s.library.link id entry.2)).1 <;>
            exact ⟨hlink.trans hpruned, fun p x hne hl => hlists p x hne (Library.lists_link hl)⟩
    · exact hsame

/-- Merging forward declarations prunes the library, also where it is refused. -/
theorem resolveIncomplete_prunedTo (s : PassState Library) :
    s.library.PrunedTo (outcomeOf resolveIncomplete s).2.library := by
  unfold resolveIncomplete
  rw [outcomeOf_bind, outcomeOf_look]
  cases hd : s.library.definitions with
  | error f => exact .refl _
  | ok definitions =>
    simp only [Except.mapError]
    rw [outcomeOf_bind_ok (outcomeOf_get s)]
    refine outcomeOf_forM_keeps
      (P := fun t : PassState Library => s.library.PrunedTo t.library) ?_ (.refl _)
    intro id _ t ht
    exact ht.trans (resolveClass_prunedTo definitions id t).1

end PassM

namespace Library

variable {lib : Library}

theorem exists_definitions (h : lib.IsTree) (hs : lib.ScopesAgree) :
    ∃ definitions, lib.definitions = .ok definitions := by
  refine exists_foldlM_ok (fun d hd table => ?_) []
  have hw : d ∈ lib.walk :=
    (List.mem_filter.1 (h.classes_perm.subset (List.mem_filter.1 hd).1)).1
  obtain ⟨id, ha, hid⟩ := h.mem_walk.1 hw
  obtain ⟨q, hq⟩ := exists_qualifiedName h hs ha hid
  exact ⟨_, by rw [hq]; rfl⟩

end Library

namespace PassM

/-- A class that is still listed where it was can be merged. -/
theorem exists_resolveClass {lib : Library} (h : lib.IsTree) (hs : lib.ScopesAgree)
    {s : PassState Library} (hpruned : lib.PrunedTo s.library) {p id : Nat} (hp : lib.Attached p)
    (hl : lib.Lists p id) (hnow : s.library.Lists p id) (definitions : List (String × Nat)) :
    ∃ t, outcomeOf (resolveClass definitions id) s = (.ok (), t) := by
  have ha := hp.lists hl
  obtain ⟨c, hc, -⟩ := h.decl_of_attached ha
  obtain ⟨d, hd, hcd⟩ := hpruned.slots.exists_of_decl? hc
  obtain ⟨q, hq⟩ := hpruned.exists_qualifiedName hd fun e he =>
    Library.exists_qualifiedName h hs ha he
  unfold resolveClass
  rw [outcomeOf_bind_ok (outcomeOf_get s)]
  simp only [hd]
  split_ifs
  · rw [outcomeOf_bind, outcomeOf_look, hq]
    simp only [Except.mapError]
    cases hf : definitions.find? (·.1 == q) with
    | none => exact ⟨_, rfl⟩
    | some entry =>
      dsimp only
      rw [outcomeOf_bind, outcomeOf_edit, outcomeOf_modify]
      simp only [Except.mapError]
      rw [outcomeOf_bind, outcomeOf_edit]
      have hlink := hpruned.trans (Library.link_prunedTo s.library id entry.2)
      obtain ⟨e, he, hce⟩ := hlink.slots.exists_of_decl? hc
      have hlisted : (s.library.link id entry.2).Lists p id := Library.lists_link hnow
      obtain ⟨o, ho, hol⟩ := hlisted
      obtain ⟨o', ho', hid⟩ := hlink.registered h hp
      rw [Library.decl?_of_registered? ho'] at ho
      cases ho
      have hparent := hce.parent.trans (hs.listed_parent p id c hp hl hc)
      obtain ⟨t, ht⟩ := Edit.outcomeOf_remove_ok he hparent ho' hid hol
      simp only [ht]
      exact ⟨_, rfl⟩
  · exact ⟨_, rfl⟩

/-- Merging forward declarations is never refused in a tree whose scopes agree with its lists. -/
theorem exists_resolveIncomplete {s : PassState Library} (h : s.library.IsTree)
    (hs : s.library.ScopesAgree) : ∃ t, outcomeOf resolveIncomplete s = (.ok (), t) := by
  obtain ⟨definitions, hdef⟩ := Library.exists_definitions h hs
  unfold resolveIncomplete
  rw [outcomeOf_bind, outcomeOf_look, hdef]
  simp only [Except.mapError]
  rw [outcomeOf_bind_ok (outcomeOf_get s)]
  -- what is left to be merged is still listed where it was
  let Left : List Nat → PassState Library → Prop := fun ids t =>
    ids.Nodup ∧ s.library.PrunedTo t.library ∧ ∀ id ∈ ids, ∃ p, s.library.Attached p ∧
      s.library.Lists p id ∧ t.library.Lists p id
  have hleft : Left (s.library.classes.map (·.id)) s := by
    refine ⟨?_, .refl _, ?_⟩
    · have hperm := (h.classes_perm).map (·.id)
      refine hperm.nodup_iff.2 ?_
      exact h.walk_nodup.sublist (List.filter_sublist.map _)
    · intro id hid
      obtain ⟨d, hd, rfl⟩ := List.mem_map.1 hid
      obtain ⟨p, hp, hl⟩ := h.exists_owner_of_mem_classes hd
      exact ⟨p, hp, hl, hl⟩
  suffices hstep : ∀ id ids t, Left (id :: ids) t →
      ∃ t', outcomeOf (resolveClass definitions id) t = (.ok (), t') ∧ Left ids t' by
    obtain ⟨t, ht, -⟩ := outcomeOf_forM_ok hstep hleft
    exact ⟨t, ht⟩
  rintro id ids t ⟨hnodup, hpruned, hall⟩
  obtain ⟨p, hp, hl, hnow⟩ := hall id (List.mem_cons_self ..)
  obtain ⟨t', ht'⟩ := exists_resolveClass h hs hpruned hp hl hnow definitions
  obtain ⟨hstep, hlists⟩ := resolveClass_prunedTo definitions id t
  rw [ht'] at hstep hlists
  obtain ⟨hfirst, hrest⟩ := List.nodup_cons.1 hnodup
  refine ⟨t', ht', hrest, hpruned.trans hstep, fun x hx => ?_⟩
  obtain ⟨q, hq, hql, hqnow⟩ := hall x (List.mem_cons_of_mem _ hx)
  refine ⟨q, hq, hql, hlists q x ?_ hqnow⟩
  rintro rfl
  exact hfirst hx

end PassM

end Bindery
