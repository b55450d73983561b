import Bindery.Proofs.Declaration.Pruned
import Bindery.Proofs.Declaration.Removal
import Bindery.Proofs.Pass.Incomplete

/-!
# Sound libraries

Behind the merging of forward declarations a class refers to another one as its definition only if
that one is complete and refers to none itself, so a definition is found in one step. Together with
the tree of declarations and the scopes that agree with it this is what naming and emitting rely on,
and it is kept when declarations get other names.
-/

namespace Bindery

/-- A declaration is a complete definition: it is not incomplete and refers to no other one. -/
def Decl.IsFinal (d : Decl) : Prop :=
  d.isIncomplete = false ∧ d.body.record?.bind (·.definition) = none

namespace Library

variable {lib out : Library}

/-- A tree of declarations in which numbers and notes are as headers leave them and no class refers
to another one. -/
structure Loaded (lib : Library) : Prop where
  /-- The declarations form a tree. -/
  isTree : lib.IsTree
  /-- Scopes agree with lists. -/
  scopesAgree : lib.ScopesAgree
  /-- Places in the order are counted from zero. -/
  ordered : ∀ id d, lib.decl? id = some d → 0 ≤ d.order
  /-- No class refers to another one as its definition. -/
  undefined : ∀ id d, lib.decl? id = some d → d.body.record?.bind (·.definition) = none
  /-- What is noted down of a type is its number. -/
  noted : ∀ id d v, lib.decl? id = some d → d.notes.get? "type_declaration_id" = some v →
    ∃ t : Nat, v = .int t

/-- What merging leaves of such a tree. -/
structure Sound (lib : Library) : Prop where
  /-- The declarations form a tree. -/
  isTree : lib.IsTree
  /-- Scopes agree with lists. -/
  scopesAgree : lib.ScopesAgree
  /-- Places in the order are counted from zero. -/
  ordered : ∀ id d, lib.decl? id = some d → 0 ≤ d.order
  /-- Definitions are complete. -/
  final : ∀ id d x, lib.decl? id = some d → d.body.record?.bind (·.definition) = some x →
    ∃ e, lib.decl? x = some e ∧ e.IsFinal
  /-- What is noted down of a type is its number. -/
  noted : ∀ id d v, lib.decl? id = some d → d.notes.get? "type_declaration_id" = some v →
    ∃ t : Nat, v = .int t

/-- Other names keep a library sound. -/
theorem Sound.renamed (h : lib.Sound) (hr : lib.RenamedTo out) : out.Sound where
  isTree := hr.prunedTo.isTree h.isTree
  scopesAgree := hr.prunedTo.scopesAgree h.scopesAgree
  ordered := by
    intro id e he
    obtain ⟨d, hd, hde⟩ := hr.slots.exists_of_decl?_out he
    rw [hde.order]
    exact h.ordered id d hd
  final := by
    intro id e x he hx
    obtain ⟨d, hd, hde⟩ := hr.slots.exists_of_decl?_out he
    rw [hde.body] at hx
    obtain ⟨c, hc, hfinal⟩ := h.final id d x hd hx
    obtain ⟨c', hc', hcc⟩ := hr.slots.exists_of_decl? hc
    refine ⟨c', hc', ?_⟩
    unfold Decl.IsFinal Decl.isIncomplete
    rw [hcc.body]
    exact hfinal
  noted := by
    intro id e v he hv
    obtain ⟨d, hd, hde⟩ := hr.slots.exists_of_decl?_out he
    rw [hde.notes] at hv
    exact h.noted id d v hd hv

/-- In a sound library a definition is found in one step. -/
theorem Sound.resolveFrom_eq (h : lib.Sound) {id : Nat} {d : Decl} (hd : lib.decl? id = some d)
    (n : Nat) (seen : List Nat) : lib.resolveFrom (n + 1) seen d =
      match d.body.record?.bind (·.definition) with
      | none => .ok d
      | some x => lib.get x := by
  unfold resolveFrom
  cases hx : d.body.record?.bind (·.definition) with
  | none => rfl
  | some x =>
    dsimp only
    obtain ⟨e, he, -, hfinal⟩ := h.final id d x hd hx
    cases hr : lib.registered? x with
    | none =>
      simp only [get, hr]
      rfl
    | some e' =>
      rw [decl?_of_registered? hr] at he
      cases he
      have hend : lib.resolveFrom n (e.id :: seen) e = .ok e := by
        cases n with
        | zero => rfl
        | succ n =>
          unfold resolveFrom
          rw [hfinal]
      simp only [get, hr]
      show (if seen.contains e.id then Except.ok e else lib.resolveFrom n (e.id :: seen) e) = _
      rw [hend, ite_self]

/-- The definition behind a declaration of a sound library. -/
theorem Sound.resolve_eq (h : lib.Sound) (id : Nat) :
    lib.resolve id = lib.get id >>= fun d =>
      match d.body.record?.bind (·.definition) with
      | none => .ok d
      | some x => lib.get x := by
  unfold resolve
  cases hd : lib.registered? id with
  | none =>
    simp only [get, hd]
    rfl
  | some d =>
    have hget : lib.get id = .ok d := by simp only [get, hd]
    rw [hget]
    exact h.resolveFrom_eq (decl?_of_registered? hd) _ _

/-! ### What merging refers to -/

/-- Classes refer to some numbers only as their definitions, which are complete. -/
structure RefersTo (targets : List Nat) (lib : Library) : Prop where
  /-- The definitions are complete. -/
  final : ∀ x ∈ targets, ∃ e, lib.decl? x = some e ∧ e.IsFinal
  /-- Nothing else is referred to. -/
  among : ∀ id d x, lib.decl? id = some d → d.body.record?.bind (·.definition) = some x →
    x ∈ targets

variable {targets : List Nat}

/-- Changes that leave classes as complete as they are, and their definitions alone. -/
theorem RefersTo.of_matches (h : lib.RefersTo targets) (hm : lib.Matches (fun d e =>
    e.isIncomplete = d.isIncomplete ∧ e.body.record?.bind (·.definition) =
      d.body.record?.bind (·.definition)) out) : out.RefersTo targets where
  final := by
    intro x hx
    obtain ⟨d, hd, hfinal⟩ := h.final x hx
    obtain ⟨e, he, hincomplete, hdef⟩ := hm.exists_of_decl? hd
    exact ⟨e, he, hincomplete.trans hfinal.1, hdef.trans hfinal.2⟩
  among := by
    intro id e x he hx
    obtain ⟨d, hd, -, hdef⟩ := hm.exists_of_decl?_out he
    exact h.among id d x hd (hdef ▸ hx)

/-- Linking a forward declaration to a definition. -/
theorem RefersTo.link (h : lib.RefersTo targets) {id definition : Nat} {d : Decl}
    (hd : lib.decl? id = some d) (hi : d.isIncomplete = true) (hdef : definition ∈ targets) :
    (lib.link id definition).RefersTo targets := by
  have hlinked : (lib.update id fun d => { d with body := d.body.mapRecord fun r =>
      { r with definition := some definition, incomplete := false } }).RefersTo targets := by
    refine ⟨fun x hx => ?_, fun k e x he hx => ?_⟩
    · obtain ⟨e, he, hfinal⟩ := h.final x hx
      have hne : id ≠ x := by
        rintro rfl
        rw [hd] at he
        cases he
        rw [hfinal.1] at hi
        cases hi
      exact ⟨e, by rw [decl?_update, if_neg hne, he], hfinal⟩
    · rw [decl?_update] at he
      split_ifs at he with hk
      · subst hk
        rw [hd] at he
        cases he
        cases hb : d.body <;> simp [Decl.isIncomplete, hb, Body.record?] at hi
        simp [hb, Body.mapRecord, Body.record?] at hx
        exact hx ▸ hdef
      · exact h.among k e x he hx
  unfold Library.link
  dsimp only
  split_ifs
  · exact hlinked
  · refine hlinked.of_matches (matches_update (fun _ => ⟨rfl, rfl⟩) fun e _ => ?_)
    split_ifs <;> exact ⟨rfl, rfl⟩

/-- Taking a declaration out of its scope leaves classes as complete as they are, and their
definitions alone. -/
theorem remove_matches (lib : Library) (id : Nat) : lib.Matches (fun d e =>
    e.isIncomplete = d.isIncomplete ∧ e.body.record?.bind (·.definition) =
      d.body.record?.bind (·.definition)) (outcomeOf (Edit.remove id) lib).2 := by
  have hself : lib.Matches (fun d e => e.isIncomplete = d.isIncomplete ∧
      e.body.record?.bind (·.definition) = d.body.record?.bind (·.definition)) lib :=
    .refl (fun _ => ⟨rfl, rfl⟩) lib
  rcases Edit.remove_cases lib id with hout | hout | ⟨p, o, b, ho, hb, hout⟩ <;> rw [hout]
  · exact hself
  · exact hself
  · refine matches_update (fun _ => ⟨rfl, rfl⟩) fun d hd => ?_
    rw [ho] at hd
    cases hd
    exact Body.record?_erase? hb

/-- Taking a declaration out of its scope. -/
theorem RefersTo.remove (h : lib.RefersTo targets) (id : Nat) :
    (outcomeOf (Edit.remove id) lib).2.RefersTo targets :=
  h.of_matches (remove_matches lib id)

/-- Linking a forward declaration leaves the definitions of all other classes alone. -/
theorem definition_link {id definition k : Nat} {e : Decl} (hne : id ≠ k)
    (he : (lib.link id definition).decl? k = some e) : ∃ d, lib.decl? k = some d ∧
      e.body.record?.bind (·.definition) = d.body.record?.bind (·.definition) := by
  unfold link at he
  dsimp only at he
  split_ifs at he
  · rw [decl?_update, if_neg hne] at he
    exact ⟨e, he, rfl⟩
  · rw [decl?_update, decl?_update, if_neg hne] at he
    split_ifs at he
    · obtain ⟨d, hd, rfl⟩ := Option.map_eq_some_iff.1 he
      refine ⟨d, hd, ?_⟩
      split_ifs <;> rfl
    · exact ⟨e, he, rfl⟩

end Library

namespace PassM

/-- What is known by name as a definition is a complete class. -/
theorem exists_of_mem_definitions {lib : Library} {known : List (String × Nat)}
    (h : lib.definitions = .ok known) :
    ∀ entry ∈ known, ∃ d ∈ lib.classes, d.isIncomplete = false ∧ entry.2 = d.id := by
  unfold Library.definitions at h
  refine of_foldlM_ok (P := fun known : List (String × Nat) => ∀ entry ∈ known,
    ∃ d ∈ lib.classes, d.isIncomplete = false ∧ entry.2 = d.id) ?_ ?_ h
  · intro d hd table known htable hstep
    obtain ⟨hclass, hcomplete⟩ := List.mem_filter.1 hd
    obtain ⟨name, -, hname⟩ := bind_eq_ok_iff.1 hstep
    cases hname
    intro entry hentry
    split_ifs at hentry
    · exact htable entry hentry
    · rcases List.mem_append.1 hentry with hentry | hentry
      · exact htable entry hentry
      · rw [List.mem_singleton.1 hentry]
        exact ⟨d, hclass, by simpa using hcomplete, rfl⟩
  · intro entry hentry
    cases hentry

theorem resolveClass_refersTo {known : List (String × Nat)} {s : PassState Library}
    (h : s.library.RefersTo (known.map (·.2))) (id : Nat) :
    (outcomeOf (resolveClass known id) s).2.library.RefersTo (known.map (·.2)) := by
  unfold resolveClass
  rw [outcomeOf_bind_ok (outcomeOf_get s)]
  cases hd : s.library.decl? id with
  | none => exact h
  | some d =>
    dsimp only
    split_ifs with hi
    · rw [outcomeOf_bind, outcomeOf_look]
      cases hq : s.library.qualifiedName d with
      | error f => exact h
      | ok name =>
        simp only [Except.mapError]
        cases hf : known.find? (·.1 == name) with
        | none => exact h
        | some entry =>
          dsimp only
          have hmem : entry.2 ∈ known.map (·.2) :=
            List.mem_map_of_mem (List.mem_of_find?_eq_some hf)
          rw [outcomeOf_bind, outcomeOf_edit, outcomeOf_modify]
          simp only [Except.mapError]
          rw [outcomeOf_bind, outcomeOf_edit]
          have hout := (h.link hd hi hmem).remove id
          cases hr : (outcomeOf (Edit.remove id) (s.library.link id entry.2)).1 <;> exact hout
    · exact h

/-- Merging the forward declarations of a library as it is read makes it sound. -/
theorem resolveIncomplete_sound {s t : PassState Library} (hs : s.library.Loaded)
    (h : outcomeOf resolveIncomplete s = (.ok (), t)) : t.library.Sound := by
  have hpruned := resolveIncomplete_prunedTo s
  rw [h] at hpruned
  have hrefers : ∃ targets, t.library.RefersTo targets := by
    unfold resolveIncomplete at h
    obtain ⟨known, u, hlook, hrest⟩ := exists_of_outcomeOf_bind h
    obtain ⟨hd, hu⟩ := eq_of_outcomeOf_look hlook
    rw [hu, outcomeOf_bind_ok (outcomeOf_get s)] at hrest
    have hstart : s.library.RefersTo (known.map (·.2)) := by
      refine ⟨fun x hx => ?_, fun id d x hid hx => ?_⟩
      · obtain ⟨entry, hentry, rfl⟩ := List.mem_map.1 hx
        obtain ⟨d, hclass, hcomplete, hid⟩ := exists_of_mem_definitions hd entry hentry
        have hd' := (hs.isTree.attached_of_mem_classes hclass).2
        exact ⟨d, hid ▸ hd', hcomplete, hs.undefined _ d hd'⟩
      · rw [hs.undefined id d hid] at hx
        cases hx
    have hend := outcomeOf_forM_keeps (f := resolveClass known)
      (l := s.library.classes.map (·.id)) (P := fun t : PassState Library =>
        t.library.RefersTo (known.map (·.2)))
      (fun id _ u hu => resolveClass_refersTo hu id) hstart
    simp only [hrest] at hend
    exact ⟨_, hend⟩
  obtain ⟨targets, hrefers⟩ := hrefers
  refine ⟨hpruned.isTree hs.isTree, hpruned.scopesAgree hs.scopesAgree, ?_, ?_, ?_⟩
  · intro id e he
    obtain ⟨d, hd, hde⟩ := hpruned.slots.exists_of_decl?_out he
    rw [hde.order]
    exact hs.ordered id d hd
  · exact fun id d x hd hx => hrefers.final x (hrefers.among id d x hd hx)
  · intro id e v he hv
    obtain ⟨d, hd, hde⟩ := hpruned.slots.exists_of_decl?_out he
    rw [hde.notes] at hv
    exact hs.noted id d v hd hv

end PassM

/-! ### What can be reached is its own definition -/

/-- Where a declaration other than a unit was taken out, it cannot be reached any more. -/
theorem Edit.not_attached_of_remove {lib out : Library} (ht : lib.IsTree) (hs : lib.ScopesAgree)
    {id : Nat} {d : Decl} (hd : lib.decl? id = some d) (hform : d.body.form ≠ .unit)
    (h : outcomeOf (remove id) lib = (.ok (), out)) : ¬out.Attached id := by
  have hpruned : lib.PrunedTo out := by
    have hpruned := (remove_prunedTo lib id).1
    rwa [h] at hpruned
  rintro ⟨unit, hunit, level, hbelow⟩
  cases hbelow with
  | self =>
    obtain ⟨e, he, hunitForm⟩ := ht.unit_form id (hpruned.units.subset hunit)
    rw [hd] at he
    cases he
    exact hform hunitForm
  | @step level p _ hbelow hlists =>
    have hp : lib.Attached p := hpruned.attached ⟨unit, hunit, _, hbelow⟩
    have hparent := hs.listed_parent p id d hp (hpruned.lists hlists) hd
    obtain ⟨o, hregistered, hnumber⟩ := ht.registered p hp
    have ho := Library.decl?_of_registered? hregistered
    have hget : lib.get p = .ok o := by
      unfold Library.get
      rw [hregistered]
    unfold remove at h
    rw [outcomeOf_bind_ok (outcomeOf_get lib)] at h
    simp only [hd, hparent] at h
    rw [outcomeOf_bind, outcomeOf_editLook, hget] at h
    simp only [hnumber] at h
    have hout := outcomeOf_removeChild ho hd
    cases hb : o.body.erase? id with
    | none =>
      rw [hb] at hout
      obtain ⟨f, hout⟩ := hout
      rw [hout] at h
      cases h
    | some b =>
      rw [hb] at hout
      simp only at hout
      rw [hout] at h
      cases h
      obtain ⟨e, he, hlisted⟩ := hlists
      rw [Library.decl?_update, if_pos rfl, ho] at he
      cases he
      have hchildren := Body.children_erase? hb (ht.children_nodup p o hp ho)
      have hin : id ∈ o.body.children.filter (· != id) := hchildren ▸ hlisted
      simpa using (List.mem_filter.1 hin).2

namespace Library

/-- No class that can be reached refers to another one as its definition. -/
def SelfDefined (lib : Library) : Prop :=
  ∀ id d, lib.Attached id → lib.decl? id = some d → d.body.record?.bind (·.definition) = none

variable {lib out : Library}

theorem SelfDefined.renamed (h : lib.SelfDefined) (hr : lib.RenamedTo out) : out.SelfDefined := by
  intro id e ha he
  obtain ⟨d, hd, hde⟩ := hr.slots.exists_of_decl?_out he
  rw [hde.body]
  exact h id d (hr.attached_iff.1 ha) hd

/-- What can be reached is its own definition. -/
theorem SelfDefined.resolve (h : lib.SelfDefined) (ht : lib.IsTree) {id : Nat}
    (ha : lib.Attached id) {d : Decl} (hd : lib.decl? id = some d) : lib.resolve id = .ok d := by
  obtain ⟨e, he, -⟩ := ht.registered id ha
  have hsame := decl?_of_registered? he
  rw [hd] at hsame
  cases hsame
  have hget : lib.get id = .ok d := by
    unfold Library.get
    rw [he]
  unfold Library.resolve Library.resolveFrom
  rw [hget]
  show (match d.body.record?.bind (·.definition) with | none => _ | some _ => _) = _
  rw [h id d ha hd]

end Library

namespace PassM

/-- Merging a class that is made leaves the library alone, or links the class and takes it out. -/
theorem resolveClass_cases {known : List (String × Nat)} {id : Nat} {s t : PassState Library}
    (h : outcomeOf (resolveClass known id) s = (.ok (), t)) : t.library = s.library ∨
      ∃ d definition, s.library.decl? id = some d ∧ d.isIncomplete = true ∧
        outcomeOf (Edit.remove id) (s.library.link id definition) = (.ok (), t.library) := by
  unfold resolveClass at h
  rw [outcomeOf_bind_ok (outcomeOf_get s)] at h
  cases hd : s.library.decl? id with
  | none =>
    rw [hd] at h
    cases h
    exact .inl rfl
  | some d =>
    rw [hd] at h
    dsimp only at h
    split_ifs at h with hi
    · rw [outcomeOf_bind, outcomeOf_look] at h
      cases hq : s.library.qualifiedName d with
      | error f =>
        rw [hq] at h
        cases h
      | ok name =>
        rw [hq] at h
        simp only [Except.mapError] at h
        cases hf : known.find? (·.1 == name) with
        | none =>
          rw [hf] at h
          cases h
          exact .inl rfl
        | some entry =>
          rw [hf] at h
          dsimp only at h
          rw [outcomeOf_bind, outcomeOf_edit, outcomeOf_modify] at h
          simp only [Except.mapError] at h
          rw [outcomeOf_bind, outcomeOf_edit] at h
          cases hr : outcomeOf (Edit.remove id) (s.library.link id entry.2) with
          | mk r out =>
            rw [hr] at h
            cases r with
            | error f => cases h
            | ok u =>
              cases h
              exact .inr ⟨d, entry.2, rfl, hi, hr⟩
    · cases h
      exact .inl rfl

/-- Merging a class leaves what can be reached its own definition. -/
theorem resolveClass_selfDefined {lib : Library} (ht : lib.IsTree) (hs : lib.ScopesAgree)
    {known : List (String × Nat)} {id : Nat} {s t : PassState Library}
    (hpruned : lib.PrunedTo s.library) (hdefined : s.library.SelfDefined)
    (h : outcomeOf (resolveClass known id) s = (.ok (), t)) : t.library.SelfDefined := by
  rcases resolveClass_cases h with hsame | ⟨d, definition, hd, hi, hremove⟩
  · rwa [hsame]
  · have hlink := Library.link_prunedTo s.library id definition
    have hall := hpruned.trans hlink
    obtain ⟨e, he, hde⟩ := hlink.slots.exists_of_decl? hd
    have hform : e.body.form ≠ .unit := by
      rw [hde.form]
      cases hb : d.body <;> simp [Decl.isIncomplete, hb, Body.record?, Body.form] at hi ⊢
    have hgone := Edit.not_attached_of_remove (hall.isTree ht) (hall.scopesAgree hs) he hform
      hremove
    have hremoved := (Edit.remove_prunedTo (s.library.link id definition) id).1
    have hout := Library.remove_matches (s.library.link id definition) id
    rw [hremove] at hremoved hout
    intro k c hk hc
    have hne : id ≠ k := by
      rintro rfl
      exact hgone hk
    obtain ⟨c', hc', -, hdefinition⟩ := hout.exists_of_decl?_out hc
    obtain ⟨c'', hc'', hlinked⟩ := Library.definition_link hne hc'
    rw [hdefinition, hlinked]
    exact hdefined k c'' ((hlink.trans hremoved).attached hk) hc''

/-- Behind the merging of forward declarations, what can be reached is its own definition. -/
theorem resolveIncomplete_selfDefined {s t : PassState Library} (hs : s.library.Loaded)
    (h : outcomeOf resolveIncomplete s = (.ok (), t)) : t.library.SelfDefined := by
  unfold resolveIncomplete at h
  obtain ⟨known, u, hlook, hrest⟩ := exists_of_outcomeOf_bind h
  obtain ⟨-, hu⟩ := eq_of_outcomeOf_look hlook
  rw [hu, outcomeOf_bind_ok (outcomeOf_get s)] at hrest
  have hstart : s.library.PrunedTo s.library ∧ s.library.SelfDefined :=
    ⟨.refl _, fun id d _ hd => hs.undefined id d hd⟩
  refine (of_outcomeOf_forM_ok (P := fun t : PassState Library =>
    s.library.PrunedTo t.library ∧ t.library.SelfDefined) ?_ hstart hrest).2
  rintro id - u v ⟨hpruned, hdefined⟩ hstep
  have hmerged := (resolveClass_prunedTo known id u).1
  rw [hstep] at hmerged
  exact ⟨hpruned.trans hmerged,
    resolveClass_selfDefined hs.isTree hs.scopesAgree hpruned hdefined hstep⟩

end PassM

end Bindery
