import Bindery.Proofs.Declaration.Parents
import Bindery.Proofs.Declaration.Ranked

/-!
# Coherent libraries

Slots, lists, scopes and units say the same about where declarations are when declarations are
ranked by their numbers, units are registered outside all scopes, and what is registered lists what
is registered. Then the declarations below the units form a tree. Whatever is created, listed as a
unit, taken off a list or given up as a whole leaves a library coherent.
-/

namespace Bindery.Library

variable {lib out : Library}

/-- Slots, lists, scopes and units agree. -/
structure Coherent (lib : Library) : Prop extends lib.Ranked where
  /-- No unit is listed twice. -/
  units_nodup : lib.units.Nodup
  /-- Units are registered as such, outside all scopes. -/
  unit : ∀ u ∈ lib.units, ∃ d, lib.registered? u = some d ∧ d.body.form = .unit ∧ d.parent = none
  /-- What is registered lists what is registered. -/
  closed : ∀ p o c, lib.registered? p = some o → c ∈ o.body.children →
    ∃ d, lib.registered? c = some d

theorem coherent_empty (namespaceName libraryName : Value) :
    (empty namespaceName libraryName).Coherent where
  number := fun _ _ hd => nomatch hd
  parent := fun _ _ _ hd => nomatch hd
  lists := fun _ _ _ hd => nomatch hd
  units_nodup := .nil
  unit := fun _ hu => nomatch hu
  closed := fun _ _ _ ho => nomatch ho

namespace Coherent

/-- The declarations below the units form a tree, and scopes agree with lists. -/
theorem isTree (h : lib.Coherent) : lib.IsTree ∧ lib.ScopesAgree := by
  refine isTree_of_parents (P := fun id => ∃ d, lib.registered? id = some d) h.units_nodup ?_ ?_ ?_
  · intro u hu
    obtain ⟨d, hd, hf, hp⟩ := h.unit u hu
    exact ⟨⟨d, hd⟩, d, decl?_of_registered? hd, hf, hp⟩
  · rintro id ⟨d, hd⟩
    have hd' := decl?_of_registered? hd
    exact ⟨d, hd, (h.number id d hd').1, h.children_nodup hd',
      fun list _ c hc => (h.lists id d list hd').2 c hc⟩
  · rintro p id ⟨o, ho⟩ ⟨o', ho', hc⟩
    rw [decl?_of_registered? ho] at ho'
    cases ho'
    exact h.closed p o id ho hc

/-- Taking declarations off lists, and units off the list of units. -/
theorem of_matches (h : lib.Coherent) (hm : lib.Matches Decl.Narrows out)
    (hunits : out.units.Sublist lib.units) : out.Coherent where
  toRanked := h.toRanked.of_matches hm
  units_nodup := h.units_nodup.sublist hunits
  unit := by
    intro u hu
    obtain ⟨d, hd, hf, hp⟩ := h.unit u (hunits.subset hu)
    obtain ⟨e, he, hde⟩ := hm.exists_of_registered? hd
    exact ⟨e, he, hde.form.trans hf, hde.parent.trans hp⟩
  closed := by
    intro p o' c ho' hc
    obtain ⟨o, ho, hoo⟩ := hm.exists_of_registered?_out ho'
    obtain ⟨d, hd⟩ := h.closed p o c ho (hoo.children.subset hc)
    obtain ⟨e, he, -⟩ := hm.exists_of_registered? hd
    exact ⟨e, he⟩

/-- A new declaration that nothing lists. -/
theorem append (h : lib.Coherent) {d : Decl} (hid : d.id = lib.created)
    (horder : d.order = lib.created) (hparent : ∀ p, d.parent = some p → p < lib.created)
    (hempty : ∀ list, d.body.listOf list = []) : (lib.append d).Coherent where
  toRanked := h.toRanked.append hid horder hparent hempty
  units_nodup := h.units_nodup
  unit := by
    intro u hu
    obtain ⟨e, he, hrest⟩ := h.unit u hu
    have hlt := lt_created_of_decl? (decl?_of_registered? he)
    exact ⟨e, by rw [registered?_append, if_neg (Nat.ne_of_lt hlt), he], hrest⟩
  closed := by
    intro p o c ho hc
    rw [registered?_append] at ho
    split_ifs at ho
    · cases ho
      rw [Body.mem_children_iff] at hc
      obtain ⟨list, -, hmem⟩ := hc
      rw [hempty] at hmem
      cases hmem
    · obtain ⟨e, he⟩ := h.closed p o c ho hc
      have hlt := lt_created_of_decl? (decl?_of_registered? he)
      exact ⟨e, by rw [registered?_append, if_neg (Nat.ne_of_lt hlt), he]⟩

/-- A new declaration put into an earlier one that takes its form in. -/
theorem insert (h : lib.Coherent) {p : Nat} {o d : Decl} {b : Body} (hp : lib.decl? p = some o)
    (hb : o.body.insert? d.body lib.created = some b) (hid : d.id = lib.created)
    (horder : d.order = lib.created) (hparent : d.parent = some p)
    (hempty : ∀ list, d.body.listOf list = []) :
    ((lib.append d).update p fun o => { o with body := b }).Coherent := by
  obtain ⟨list, -, hform, hlists⟩ := Body.insert?_eq_some hb
  have hlt : p < lib.created := lt_created_of_decl? hp
  have hscope : ∀ q, d.parent = some q → q < lib.created := by
    intro q hq
    rw [hparent] at hq
    cases hq
    exact hlt
  have happend := h.append hid horder hscope hempty
  have howner : (lib.append d).decl? p = some o := by
    rw [decl?_append, if_neg (Nat.ne_of_lt hlt), hp]
  -- nothing but a list gets longer, and that by a declaration that is registered
  have hm : (lib.append d).Matches (fun a e => e.parent = a.parent ∧ e.body.form = a.body.form ∧
      ∀ c ∈ e.body.children, c ∈ a.body.children ∨ c = lib.created)
      ((lib.append d).update p fun o => { o with body := b }) := by
    refine matches_update (fun _ => ⟨rfl, rfl, fun _ hc => .inl hc⟩) fun a ha => ?_
    rw [howner] at ha
    cases ha
    refine ⟨rfl, hform, fun c hc => ?_⟩
    obtain ⟨l, hl, hmem⟩ := Body.mem_children_iff.1 hc
    have hlist := hlists l
    rw [hform] at hl
    rw [hlist] at hmem
    split_ifs at hmem
    · rcases List.mem_append.1 hmem with hmem | hmem
      · exact .inl (Body.mem_children_iff.2 ⟨l, hl, hmem⟩)
      · exact .inr (List.mem_singleton.1 hmem)
    · exact .inl (Body.mem_children_iff.2 ⟨l, hl, hmem⟩)
  refine ⟨h.toRanked.insert hp hb hid horder hparent hempty, happend.units_nodup, ?_, ?_⟩
  · intro u hu
    obtain ⟨a, ha, hf, hpar⟩ := happend.unit u hu
    obtain ⟨e, he, hep, hef, -⟩ := hm.exists_of_registered? ha
    exact ⟨e, he, hef.trans hf, hep.trans hpar⟩
  · intro q e c he hc
    obtain ⟨a, ha, -, -, hsub⟩ := hm.exists_of_registered?_out he
    have hreg : ∃ x, (lib.append d).registered? c = some x := by
      rcases hsub c hc with hc | rfl
      · exact happend.closed q a c ha hc
      · exact ⟨d, by rw [registered?_append, if_pos rfl]⟩
    obtain ⟨x, hx⟩ := hreg
    obtain ⟨y, hy, -⟩ := hm.exists_of_registered? hx
    exact ⟨y, hy⟩

/-- One more unit that is listed. -/
theorem addUnit (h : lib.Coherent) {id : Nat} {d : Decl} (hd : lib.registered? id = some d)
    (hform : d.body.form = .unit) (hparent : d.parent = none) (hnew : id ∉ lib.units) :
    Coherent { lib with units := lib.units ++ [id] } where
  toRanked := h.toRanked.of_decl?_eq fun _ => rfl
  units_nodup := by
    refine h.units_nodup.append (List.nodup_singleton id) fun u hu hid => ?_
    rw [List.mem_singleton.1 hid] at hu
    exact hnew hu
  unit := by
    intro u hu
    rcases List.mem_append.1 hu with hu | hu
    · exact h.unit u hu
    · rw [List.mem_singleton.1 hu]
      exact ⟨d, hd, hform, hparent⟩
  closed := h.closed

/-- What was created in no scope and is not listed can be given up with all below it. -/
theorem discard (h : lib.Coherent) {id : Nat} (hid : id < lib.created)
    (hroot : ∀ d, lib.decl? id = some d → d.parent = none) (hunlisted : id ∉ lib.units) :
    (lib.discard id).Coherent where
  toRanked := h.toRanked.of_decl?_eq (decl?_discard lib id)
  units_nodup := h.units_nodup
  unit := by
    intro u hu
    obtain ⟨d, hd, hf, hp⟩ := h.unit u hu
    refine ⟨d, ?_, hf, hp⟩
    have hout : u ∉ (lib.subtree id).map (·.id) := by
      rw [h.mem_map_id_subtree hid]
      rintro ⟨level, hb⟩
      have heq : id = u := h.eq_of_below (decl?_of_registered? hd) hp hb
      exact hunlisted (heq ▸ hu)
    rw [registered?_discard, if_neg hout, hd]
  closed := by
    intro p o c ho hc
    rw [registered?_discard] at ho
    split_ifs at ho with hin
    obtain ⟨d, hd⟩ := h.closed p o c ho hc
    refine ⟨d, ?_⟩
    have hl : lib.Lists p c := ⟨o, decl?_of_registered? ho, hc⟩
    have hout : c ∉ (lib.subtree id).map (·.id) := by
      rw [h.mem_map_id_subtree hid] at hin ⊢
      rintro ⟨level, hb⟩
      cases hb with
      | self =>
        have hscope := h.parent_of_lists hl (decl?_of_registered? hd)
        rw [hroot d (decl?_of_registered? hd)] at hscope
        cases hscope
      | step hb hl' => exact hin ⟨_, h.owner_unique hl' hl ▸ hb⟩
    rw [registered?_discard, if_neg hout, hd]

end Coherent

end Bindery.Library
