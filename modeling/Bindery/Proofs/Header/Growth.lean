import Bindery.Proofs.Declaration.Parents
import Bindery.Proofs.Declaration.Ranked

/-!
# Libraries that grow from a unit

While a header is read, its declarations are all there is below its unit: the unit comes first,
every other declaration was created in one that came before it and is listed there, on the list for
its form, and lists are in the order in which declarations came. What is added keeps this up, so at
any point the declarations form a tree below the unit that leaves nothing out.
-/

namespace Bindery

namespace Library

/-- There is a declaration of a number, of one of some forms. -/
def HasForm (lib : Library) (id : Nat) (forms : List Form) : Prop :=
  ∃ d, lib.decl? id = some d ∧ d.body.form ∈ forms

/-- Declarations as headers leave them, registered or not. -/
structure Orderly (lib : Library) : Prop extends lib.Ranked where
  /-- No class refers to another one as its definition. -/
  undefined : ∀ id d, lib.decl? id = some d → (d.body.record?.bind (·.definition)) = none
  /-- A type that is noted down is a class or an enumeration. -/
  noted : ∀ id d v, lib.decl? id = some d → d.notes.get? "type_declaration_id" = some v →
    ∃ t : Nat, v = .int t ∧ lib.HasForm t [.record, .enumeration]

/-- A library that holds a unit and what was read of it so far. -/
structure Growing (lib : Library) : Prop where
  /-- The unit comes first. -/
  root : ∃ d, lib.decl? 0 = some d ∧ d.body.form = .unit ∧ d.parent = none
  /-- Everything is registered. -/
  registered : ∀ id d, lib.decl? id = some d → lib.registered? id = some d
  /-- Numbers are their own and tell the order. -/
  number : ∀ id d, lib.decl? id = some d → d.id = id ∧ d.order = id
  /-- What is no unit was created in something that came before. -/
  inScope : ∀ id d, lib.decl? id = some d → id ≠ 0 → ∃ p < id, d.parent = some p ∧ lib.Lists p id
  /-- Lists are in order, and have what was created in their owner and is of their form. -/
  lists : ∀ p o list, lib.decl? p = some o → (o.body.listOf list).Pairwise (· < ·) ∧
    ∀ c ∈ o.body.listOf list, ∃ d, lib.decl? c = some d ∧ d.parent = some p ∧
      o.body.form.listFor? d.body.form = some list
  /-- No class refers to another one as its definition. -/
  undefined : ∀ id d, lib.decl? id = some d → (d.body.record?.bind (·.definition)) = none
  /-- A type that is noted down is a class or an enumeration. -/
  noted : ∀ id d v, lib.decl? id = some d → d.notes.get? "type_declaration_id" = some v →
    ∃ t : Nat, v = .int t ∧ lib.HasForm t [.record, .enumeration]

theorem Growing.orderly {lib : Library} (h : lib.Growing) : lib.Orderly := by
  refine ⟨⟨h.number, fun id d p hd hp => ?_, h.lists⟩, h.undefined, h.noted⟩
  by_cases hzero : id = 0
  · obtain ⟨r, hr, -, hroot⟩ := h.root
    rw [hzero, hr] at hd
    cases hd
    rw [hroot] at hp
    cases hp
  · obtain ⟨q, hlt, hq, -⟩ := h.inScope id d hd hzero
    rw [hp] at hq
    cases hq
    exact hlt

/-- A library in which every declaration of another one is left, in the same form. -/
def Grows (lib out : Library) : Prop :=
  ∀ id d, lib.decl? id = some d → ∃ e, out.decl? id = some e ∧ e.body.form = d.body.form

variable {lib mid out : Library}

theorem Grows.refl (lib : Library) : lib.Grows lib :=
  fun _ d hd => ⟨d, hd, rfl⟩

theorem Grows.trans (h : lib.Grows mid) (h' : mid.Grows out) : lib.Grows out := by
  intro id d hd
  obtain ⟨e, he, hde⟩ := h id d hd
  obtain ⟨f, hf, hef⟩ := h' id e he
  exact ⟨f, hf, hef.trans hde⟩

theorem HasForm.grows {id : Nat} {forms : List Form} (h : lib.HasForm id forms)
    (hg : lib.Grows out) : out.HasForm id forms := by
  obtain ⟨d, hd, hf⟩ := h
  obtain ⟨e, he, hde⟩ := hg id d hd
  exact ⟨e, he, hde ▸ hf⟩

theorem HasForm.lt {id : Nat} {forms : List Form} (h : lib.HasForm id forms) :
    id < lib.created := by
  obtain ⟨d, hd, -⟩ := h
  exact lt_created_of_decl? hd

end Library

/-! ### Changes that keep the lists -/

/-- Two declarations that only differ in what no list, number or scope depends on. -/
structure Decl.SameShape (d e : Decl) : Prop where
  /-- The number stays. -/
  id : e.id = d.id
  /-- The place in the order stays. -/
  order : e.order = d.order
  /-- The scope stays. -/
  parent : e.parent = d.parent
  /-- The form stays. -/
  form : e.body.form = d.body.form
  /-- The lists stay. -/
  lists : ∀ list, e.body.listOf list = d.body.listOf list
  /-- The definition stays. -/
  definition : e.body.record?.bind (·.definition) = d.body.record?.bind (·.definition)

theorem Decl.SameShape.refl (d : Decl) : d.SameShape d :=
  ⟨rfl, rfl, rfl, rfl, fun _ => rfl, rfl⟩

theorem Decl.SameShape.mem_children {d e : Decl} (h : d.SameShape e) {id : Nat}
    (hid : id ∈ d.body.children) : id ∈ e.body.children := by
  obtain ⟨list, hl, hmem⟩ := Body.mem_children_iff.1 hid
  exact Body.mem_children_iff.2 ⟨list, h.form ▸ hl, (h.lists list).symm ▸ hmem⟩

theorem Decl.SameShape.narrows {d e : Decl} (h : d.SameShape e) : d.Narrows e :=
  ⟨h.id, h.order, h.parent, h.form, fun list => h.lists list ▸ List.Sublist.refl _⟩

theorem Decl.SameShape.symm {d e : Decl} (h : d.SameShape e) : e.SameShape d :=
  ⟨h.id.symm, h.order.symm, h.parent.symm, h.form.symm, fun list => (h.lists list).symm,
    h.definition.symm⟩

namespace Library

variable {lib out : Library}

theorem registered?_of_matches {R : Decl → Decl → Prop} (hm : lib.Matches R out) {id : Nat}
    {d e : Decl} (hd : lib.registered? id = some d) (he : out.decl? id = some e) :
    out.registered? id = some e := by
  have hrel := hm.registered? id
  rw [hd] at hrel
  cases hr : out.registered? id with
  | none => rw [hr] at hrel; cases hrel
  | some e' => rw [← he, decl?_of_registered? hr]

theorem grows_of_matches (hm : lib.Matches Decl.SameShape out) : lib.Grows out := by
  intro id d hd
  obtain ⟨e, he, hde⟩ := hm.exists_of_decl? hd
  exact ⟨e, he, hde.form⟩

theorem Orderly.of_matches (h : lib.Orderly) (hm : lib.Matches Decl.SameShape out)
    (hnote : ∀ id e v, out.decl? id = some e → e.notes.get? "type_declaration_id" = some v →
      ∃ t : Nat, v = .int t ∧ lib.HasForm t [.record, .enumeration]) : out.Orderly := by
  refine ⟨h.toRanked.of_matches (hm.mono fun _ _ hde => hde.narrows), ?_, ?_⟩
  · intro id e he
    obtain ⟨d, hd, hde⟩ := hm.exists_of_decl?_out he
    exact hde.definition.trans (h.undefined id d hd)
  · intro id e v he hv
    obtain ⟨t, ht, hform⟩ := hnote id e v he hv
    exact ⟨t, ht, hform.grows (grows_of_matches hm)⟩

/-- Changing declarations in what no list, number or scope depends on. -/
theorem Growing.of_matches (h : lib.Growing) (hm : lib.Matches Decl.SameShape out)
    (hnote : ∀ id e v, out.decl? id = some e → e.notes.get? "type_declaration_id" = some v →
      ∃ t : Nat, v = .int t ∧ lib.HasForm t [.record, .enumeration]) :
    out.Growing ∧ lib.Grows out := by
  have horderly := h.orderly.of_matches hm hnote
  refine ⟨⟨?_, ?_, horderly.number, ?_, horderly.lists, horderly.undefined, horderly.noted⟩,
    grows_of_matches hm⟩
  · obtain ⟨d, hd, hf, hp⟩ := h.root
    obtain ⟨e, he, hde⟩ := hm.exists_of_decl? hd
    exact ⟨e, he, hde.form.trans hf, hde.parent.trans hp⟩
  · intro id e he
    obtain ⟨d, hd, -⟩ := hm.exists_of_decl?_out he
    exact registered?_of_matches hm (h.registered id d hd) he
  · intro id e he hne
    obtain ⟨d, hd, hde⟩ := hm.exists_of_decl?_out he
    obtain ⟨p, hlt, hp, o, ho, hid⟩ := h.inScope id d hd hne
    obtain ⟨o', ho', hoo⟩ := hm.exists_of_decl? ho
    exact ⟨p, hlt, hde.parent.trans hp, o', ho', hoo.mem_children hid⟩

/-! ### New declarations -/

/-- A declaration put into one that takes its form in. -/
theorem Growing.insert (h : lib.Growing) {p : Nat} {o d : Decl} {b : Body}
    (hp : lib.decl? p = some o) (hb : o.body.insert? d.body lib.created = some b)
    (hid : d.id = lib.created) (horder : d.order = lib.created) (hparent : d.parent = some p)
    (hempty : ∀ list, d.body.listOf list = [])
    (hdef : d.body.record?.bind (·.definition) = none)
    (hnote : d.notes.get? "type_declaration_id" = none)
    (hout : out = (lib.append d).update p fun o => { o with body := b }) :
    out.Growing ∧ lib.Grows out ∧ out.decl? lib.created = some d := by
  obtain ⟨list, hfor, hform, hlists⟩ := Body.insert?_eq_some hb
  have hlt : p < lib.created := lt_created_of_decl? hp
  have hnew : out.decl? lib.created = some d := by
    rw [hout, decl?_update, if_neg (Nat.ne_of_lt hlt), decl?_append, if_pos rfl]
  have howner : out.decl? p = some { o with body := b } := by
    rw [hout, decl?_update, if_pos rfl, decl?_append, if_neg (Nat.ne_of_lt hlt), hp]
    rfl
  have hother : ∀ k, k ≠ lib.created → k ≠ p → out.decl? k = lib.decl? k := by
    intro k hk hkp
    rw [hout, decl?_update, if_neg hkp.symm, decl?_append, if_neg hk]
  -- an old declaration stays, but that its list may have got longer by the new one
  have hold : ∀ k e, out.decl? k = some e → k ≠ lib.created → ∃ c, lib.decl? k = some c ∧
      e = { c with body := e.body } ∧ e.body.form = c.body.form ∧
      e.body.record?.bind (·.definition) = c.body.record?.bind (·.definition) ∧
      ∀ l, e.body.listOf l =
        if k = p ∧ l = list then c.body.listOf l ++ [lib.created] else c.body.listOf l := by
    intro k e he hk
    by_cases hkp : k = p
    · subst hkp
      rw [howner] at he
      cases he
      exact ⟨o, hp, rfl, hform, Body.definition_insert? hb, fun l => by simpa using hlists l⟩
    · rw [hother k hk hkp] at he
      exact ⟨e, he, rfl, rfl, rfl, fun l => by simp [hkp]⟩
  have hstay : ∀ k c, lib.decl? k = some c → ∃ e, out.decl? k = some e ∧
      e = { c with body := e.body } ∧ e.body.form = c.body.form := by
    intro k c hc
    have hk : k ≠ lib.created := Nat.ne_of_lt (lt_created_of_decl? hc)
    by_cases hkp : k = p
    · subst hkp
      rw [hp] at hc
      cases hc
      exact ⟨_, howner, rfl, hform⟩
    · exact ⟨c, (hother k hk hkp).trans hc, rfl, rfl⟩
  have hgrows : lib.Grows out := by
    intro k c hc
    obtain ⟨e, he, -, hf⟩ := hstay k c hc
    exact ⟨e, he, hf⟩
  have hranked : out.Ranked := by
    rw [hout]
    exact h.orderly.insert hp hb hid horder hparent hempty
  refine ⟨⟨?_, ?_, hranked.number, ?_, hranked.lists, ?_, ?_⟩, hgrows, hnew⟩
  · obtain ⟨c, hc, hf, hroot⟩ := h.root
    obtain ⟨e, he, heq, hef⟩ := hstay 0 c hc
    exact ⟨e, he, hef.trans hf, by rw [heq]; exact hroot⟩
  · intro k e he
    have hm : (lib.append d).Matches (fun _ _ => True) out := by
      rw [hout]
      exact matches_update (fun _ => trivial) fun _ _ => trivial
    by_cases hk : k = lib.created
    · subst hk
      exact registered?_of_matches hm (by rw [registered?_append, if_pos rfl]) he
    · obtain ⟨c, hc, -⟩ := hold k e he hk
      refine registered?_of_matches hm (d := c) ?_ he
      rw [registered?_append, if_neg hk]
      exact h.registered k c hc
  · intro k e he hne
    by_cases hk : k = lib.created
    · subst hk
      rw [hnew] at he
      cases he
      refine ⟨p, hlt, hparent, _, howner, Body.mem_children_iff.2 ⟨list, ?_, ?_⟩⟩
      · rw [hform]
        exact Form.mem_lists_of_listFor? hfor
      · show lib.created ∈ b.listOf list
        rw [hlists, if_pos rfl]
        exact List.mem_append_right _ (List.mem_singleton.2 rfl)
    · obtain ⟨c, hc, heq, -⟩ := hold k e he hk
      obtain ⟨q, hq, hqp, o', ho', hmem⟩ := h.inScope k c hc hne
      obtain ⟨e', he', -, hef⟩ := hstay q o' ho'
      obtain ⟨o'', ho'', -, -, -, hl''⟩ := hold q e' he' (Nat.ne_of_lt (lt_created_of_decl? ho'))
      rw [ho'] at ho''
      cases ho''
      refine ⟨q, hq, by rw [heq]; exact hqp, e', he', ?_⟩
      obtain ⟨l, hl, hmem⟩ := Body.mem_children_iff.1 hmem
      refine Body.mem_children_iff.2 ⟨l, hef ▸ hl, ?_⟩
      rw [hl'']
      split_ifs
      · exact List.mem_append_left _ hmem
      · exact hmem
  · intro k e he
    by_cases hk : k = lib.created
    · subst hk
      rw [hnew] at he
      cases he
      exact hdef
    · obtain ⟨c, hc, -, -, hd, -⟩ := hold k e he hk
      exact hd.trans (h.undefined k c hc)
  · intro k e v he hv
    by_cases hk : k = lib.created
    · subst hk
      rw [hnew] at he
      cases he
      rw [hnote] at hv
      cases hv
    · obtain ⟨c, hc, heq, -⟩ := hold k e he hk
      rw [heq] at hv
      obtain ⟨t, ht, hf⟩ := h.noted k c v hc hv
      exact ⟨t, ht, hf.grows hgrows⟩

end Library

end Bindery
