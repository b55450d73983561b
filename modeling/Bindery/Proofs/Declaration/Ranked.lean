import Bindery.Proofs.Declaration.Lists
import Bindery.Proofs.Declaration.Slots
import Bindery.Proofs.Declaration.Sorted
import Bindery.Proofs.Declaration.Walk
import Bindery.Proofs.Step

/-!
# Numbers as ranks

The number of a declaration tells where it is kept and when it came, and what it lies in came
before it. Where lists are in the order of numbers as well and hold what was created in their owner,
everything that a declaration has below it came later, each of two declarations lies in one place at
most, whether it can be reached from a unit or not, and sorting by the order in which declarations
came has nothing to do.
-/

namespace Bindery

/-- A declaration with nothing new on its lists, in its place and of its form. -/
structure Decl.Narrows (d e : Decl) : Prop where
  /-- The number stays. -/
  id : e.id = d.id
  /-- The place in the order stays. -/
  order : e.order = d.order
  /-- The scope it was created in stays. -/
  parent : e.parent = d.parent
  /-- The form stays. -/
  form : e.body.form = d.body.form
  /-- Lists only lose what they hold. -/
  lists : ∀ list, (e.body.listOf list).Sublist (d.body.listOf list)

theorem Decl.Narrows.refl (d : Decl) : d.Narrows d :=
  ⟨rfl, rfl, rfl, rfl, fun _ => List.Sublist.refl _⟩

theorem Decl.Narrows.trans {c d e : Decl} (h : c.Narrows d) (h' : d.Narrows e) : c.Narrows e :=
  ⟨h'.id.trans h.id, h'.order.trans h.order, h'.parent.trans h.parent, h'.form.trans h.form,
    fun list => (h'.lists list).trans (h.lists list)⟩

theorem Decl.Narrows.children {d e : Decl} (h : d.Narrows e) :
    e.body.children.Sublist d.body.children :=
  Body.children_sublist h.form h.lists

namespace Library

variable {lib out : Library}

/-- Declarations are kept, listed and ordered by their numbers, registered or not. -/
structure Ranked (lib : Library) : Prop where
  /-- Numbers are their own and tell the order. -/
  number : ∀ id d, lib.decl? id = some d → d.id = id ∧ d.order = id
  /-- What a declaration was created in came before. -/
  parent : ∀ id d p, lib.decl? id = some d → d.parent = some p → p < id
  /-- Lists are in order, and have what was created in their owner and is of their form. -/
  lists : ∀ p o list, lib.decl? p = some o → (o.body.listOf list).Pairwise (· < ·) ∧
    ∀ c ∈ o.body.listOf list, ∃ d, lib.decl? c = some d ∧ d.parent = some p ∧
      o.body.form.listFor? d.body.form = some list

theorem exists_decl?_of_lt {id : Nat} (h : id < lib.created) : ∃ d, lib.decl? id = some d := by
  unfold decl?
  rw [List.getElem?_eq_getElem h]
  exact ⟨_, rfl⟩

namespace Ranked

theorem of_decl?_eq (h : lib.Ranked) (he : ∀ id, out.decl? id = lib.decl? id) : out.Ranked where
  number := fun id d hd => h.number id d (he id ▸ hd)
  parent := fun id d p hd => h.parent id d p (he id ▸ hd)
  lists := by
    intro p o list ho
    simp only [he]
    exact h.lists p o list (he p ▸ ho)

/-- Lists may lose what they hold. -/
theorem of_matches (h : lib.Ranked) (hm : lib.Matches Decl.Narrows out) : out.Ranked where
  number := by
    intro id e he
    obtain ⟨d, hd, hde⟩ := hm.exists_of_decl?_out he
    obtain ⟨hid, horder⟩ := h.number id d hd
    exact ⟨hde.id.trans hid, hde.order.trans horder⟩
  parent := by
    intro id e p he hp
    obtain ⟨d, hd, hde⟩ := hm.exists_of_decl?_out he
    exact h.parent id d p hd (hde.parent ▸ hp)
  lists := by
    intro p o' list ho'
    obtain ⟨o, ho, hoo⟩ := hm.exists_of_decl?_out ho'
    obtain ⟨hsorted, hall⟩ := h.lists p o list ho
    refine ⟨hsorted.sublist (hoo.lists list), fun c hc => ?_⟩
    obtain ⟨d, hd, hp, hf⟩ := hall c ((hoo.lists list).subset hc)
    obtain ⟨e, he, hde⟩ := hm.exists_of_decl? hd
    exact ⟨e, he, hde.parent.trans hp, by rw [hoo.form, hde.form, hf]⟩

/-- A new declaration that nothing lists yet. -/
theorem append (h : lib.Ranked) {d : Decl} (hid : d.id = lib.created)
    (horder : d.order = lib.created) (hparent : ∀ p, d.parent = some p → p < lib.created)
    (hempty : ∀ list, d.body.listOf list = []) : (lib.append d).Ranked where
  number := by
    intro id e he
    rw [decl?_append] at he
    split_ifs at he with hnew
    · cases he
      exact ⟨hid.trans hnew.symm, by rw [horder, hnew]⟩
    · exact h.number id e he
  parent := by
    intro id e p he hp
    rw [decl?_append] at he
    split_ifs at he with hnew
    · cases he
      exact hnew ▸ hparent p hp
    · exact h.parent id e p he hp
  lists := by
    intro p o list ho
    rw [decl?_append] at ho
    split_ifs at ho with hnew
    · cases ho
      rw [hempty]
      exact ⟨.nil, fun c hc => absurd hc List.not_mem_nil⟩
    · obtain ⟨hsorted, hall⟩ := h.lists p o list ho
      refine ⟨hsorted, fun c hc => ?_⟩
      obtain ⟨e, he, hrest⟩ := hall c hc
      have hold : c ≠ lib.created := Nat.ne_of_lt (lt_created_of_decl? he)
      exact ⟨e, by rw [decl?_append, if_neg hold, he], hrest⟩

/-- A declaration put behind what its owner already lists. -/
theorem attach (h : lib.Ranked) {p c : Nat} {o d : Decl} {b : Body} (hp : lib.decl? p = some o)
    (hc : lib.decl? c = some d) (hparent : d.parent = some p)
    (hb : o.body.insert? d.body c = some b) (hlast : ∀ list, ∀ x ∈ o.body.listOf list, x < c) :
    (lib.update p fun o => { o with body := b }).Ranked := by
  obtain ⟨list, hfor, hform, hlists⟩ := Body.insert?_eq_some hb
  -- every declaration is what it was, but for the list that got longer
  have hold : ∀ id e, (lib.update p fun o => { o with body := b }).decl? id = some e →
      ∃ a, lib.decl? id = some a ∧ e.id = a.id ∧ e.order = a.order ∧ e.parent = a.parent ∧
        e.body.form = a.body.form ∧ ∀ l, e.body.listOf l =
          if id = p ∧ l = list then a.body.listOf l ++ [c] else a.body.listOf l := by
    intro id e he
    rw [decl?_update] at he
    split_ifs at he with hid
    · subst hid
      rw [hp] at he
      cases he
      exact ⟨o, hp, rfl, rfl, rfl, hform, fun l => by simpa using hlists l⟩
    · exact ⟨e, he, rfl, rfl, rfl, rfl, fun l => by simp [Ne.symm hid]⟩
  have hstay : ∀ id a, lib.decl? id = some a →
      ∃ e, (lib.update p fun o => { o with body := b }).decl? id = some e ∧
        e.parent = a.parent ∧ e.body.form = a.body.form := by
    intro id a ha
    rw [decl?_update, ha]
    split_ifs with hid
    · subst hid
      rw [hp] at ha
      cases ha
      exact ⟨_, rfl, rfl, hform⟩
    · exact ⟨a, rfl, rfl, rfl⟩
  refine ⟨?_, ?_, ?_⟩
  · intro id e he
    obtain ⟨a, ha, hid, horder, -⟩ := hold id e he
    rw [hid, horder]
    exact h.number id a ha
  · intro id e q he hq
    obtain ⟨a, ha, -, -, hpar, -⟩ := hold id e he
    exact h.parent id a q ha (hpar ▸ hq)
  · intro q e l he
    obtain ⟨a, ha, -, -, -, hef, hl⟩ := hold q e he
    obtain ⟨hsorted, hall⟩ := h.lists q a l ha
    have hbefore : ∀ x ∈ a.body.listOf l, ∃ y,
        (lib.update p fun o => { o with body := b }).decl? x = some y ∧ y.parent = some q ∧
          e.body.form.listFor? y.body.form = some l := by
      intro x hx
      obtain ⟨z, hz, hzp, hzf⟩ := hall x hx
      obtain ⟨y, hy, hyp, hyf⟩ := hstay x z hz
      exact ⟨y, hy, hyp.trans hzp, by rw [hef, hyf, hzf]⟩
    rw [hl]
    split_ifs with hlist
    · obtain ⟨rfl, rfl⟩ := hlist
      rw [hp] at ha
      cases ha
      obtain ⟨y, hy, hyp, hyf⟩ := hstay c d hc
      refine ⟨List.pairwise_append.2 ⟨hsorted, List.pairwise_singleton .., ?_⟩, ?_⟩
      · intro x hx z hz
        rw [List.mem_singleton.1 hz]
        exact hlast l x hx
      · intro x hx
        rcases List.mem_append.1 hx with hx | hx
        · exact hbefore x hx
        · rw [List.mem_singleton.1 hx]
          exact ⟨y, hy, hyp.trans hparent, by rw [hef, hyf, hfor]⟩
    · exact ⟨hsorted, hbefore⟩

/-- A new declaration put into an earlier one that takes its form in. -/
theorem insert (h : lib.Ranked) {p : Nat} {o d : Decl} {b : Body} (hp : lib.decl? p = some o)
    (hb : o.body.insert? d.body lib.created = some b) (hid : d.id = lib.created)
    (horder : d.order = lib.created) (hparent : d.parent = some p)
    (hempty : ∀ list, d.body.listOf list = []) :
    ((lib.append d).update p fun o => { o with body := b }).Ranked := by
  have hlt : p < lib.created := lt_created_of_decl? hp
  have hscope : ∀ q, d.parent = some q → q < lib.created := by
    intro q hq
    rw [hparent] at hq
    cases hq
    exact hlt
  refine (h.append hid horder hscope hempty).attach (c := lib.created) ?_ ?_ hparent hb ?_
  · rw [decl?_append, if_neg (Nat.ne_of_lt hlt), hp]
  · rw [decl?_append, if_pos rfl]
  · intro list x hx
    obtain ⟨e, he, -⟩ := (h.lists p o list hp).2 x hx
    exact lt_created_of_decl? he

/-! ### Places -/

variable (h : lib.Ranked)
include h

/-- Nothing is listed twice. -/
theorem children_nodup {id : Nat} {d : Decl} (hd : lib.decl? id = some d) :
    d.body.children.Nodup := by
  rw [Body.children_eq_flatMap_listOf, List.nodup_flatMap]
  have hnames : d.body.form.lists.Nodup := by
    cases d.body.form <;> decide
  refine ⟨fun list _ => (h.lists id d list hd).1.imp Nat.ne_of_lt, hnames.imp ?_⟩
  intro l m hne c hl hm
  obtain ⟨e, he, -, hfor⟩ := (h.lists id d l hd).2 c hl
  obtain ⟨e', he', -, hfor'⟩ := (h.lists id d m hd).2 c hm
  rw [he] at he'
  cases he'
  exact hne (Option.some.inj (hfor.symm.trans hfor'))

/-- What a declaration lists was created in it. -/
theorem exists_of_lists {p id : Nat} (hl : lib.Lists p id) :
    ∃ d, lib.decl? id = some d ∧ d.parent = some p := by
  obtain ⟨o, ho, hid⟩ := hl
  obtain ⟨list, -, hmem⟩ := Body.mem_children_iff.1 hid
  obtain ⟨d, hd, hp, -⟩ := (h.lists p o list ho).2 id hmem
  exact ⟨d, hd, hp⟩

theorem parent_of_lists {p id : Nat} {d : Decl} (hl : lib.Lists p id)
    (hd : lib.decl? id = some d) : d.parent = some p := by
  obtain ⟨e, he, hp⟩ := h.exists_of_lists hl
  rw [hd] at he
  cases he
  exact hp

/-- Nothing is listed by two declarations. -/
theorem owner_unique {p q id : Nat} (hl : lib.Lists p id) (hl' : lib.Lists q id) : p = q := by
  obtain ⟨d, hd, hp⟩ := h.exists_of_lists hl
  exact Option.some.inj (hp.symm.trans (h.parent_of_lists hl' hd))

/-- What a declaration lists came after it. -/
theorem lt_of_lists {p c : Nat} (hl : lib.Lists p c) : p < c ∧ c < lib.created := by
  obtain ⟨d, hd, hp⟩ := h.exists_of_lists hl
  exact ⟨h.parent c d p hd hp, lt_created_of_decl? hd⟩

/-- What lies a number of levels below a declaration came at least so much later. -/
theorem add_le_of_below {top level id : Nat} (hb : lib.Below top level id) :
    top + level ≤ id := by
  induction hb with
  | self => exact Nat.le_refl top
  | step _ hl ih =>
    have hlt := (h.lt_of_lists hl).1
    omega

/-- What lies below a declaration has been created if the declaration has. -/
theorem lt_created_of_below {top level id : Nat} (htop : top < lib.created)
    (hb : lib.Below top level id) : id < lib.created := by
  cases hb with
  | self => exact htop
  | step _ hl => exact (h.lt_of_lists hl).2

/-- What was created in no declaration lies below nothing but itself. -/
theorem eq_of_below {top level id : Nat} {d : Decl} (hd : lib.decl? id = some d)
    (hp : d.parent = none) (hb : lib.Below top level id) : top = id := by
  cases hb with
  | self => rfl
  | step _ hl =>
    rw [h.parent_of_lists hl hd] at hp
    cases hp

/-- The numbers of a subtree are those of what lies below its top. -/
theorem mem_map_id_subtree {top x : Nat} (htop : top < lib.created) :
    x ∈ (lib.subtree top).map (·.id) ↔ ∃ level, lib.Below top level x := by
  unfold subtree
  rw [List.mem_map]
  constructor
  · rintro ⟨d, hd, rfl⟩
    obtain ⟨level, y, -, hb, hy⟩ := mem_walkFrom.1 hd
    rw [(h.number y d hy).1]
    exact ⟨level, hb⟩
  · rintro ⟨level, hb⟩
    have hx : x < lib.created := h.lt_created_of_below htop hb
    obtain ⟨d, hd⟩ := exists_decl?_of_lt hx
    have hlevel := h.add_le_of_below hb
    exact ⟨d, mem_walkFrom.2 ⟨level, x, by omega, hb, hd⟩, (h.number x d hd).1⟩

/-! ### Ways outward -/

/-- A declaration has no more scopes around it than there are numbers before its own. -/
theorem outwardFrom_eq {n m id : Nat} {d : Decl} (hd : lib.decl? id = some d) (hn : id ≤ n)
    (hm : id ≤ m) : lib.outwardFrom n d = lib.outwardFrom m d := by
  induction id using Nat.strong_induction_on generalizing n m d with
  | _ id ih =>
    cases hp : d.parent with
    | none =>
      cases n <;> cases m <;> simp only [outwardFrom, parentOf, hp] <;> rfl
    | some p =>
      have hlt : p < id := h.parent id d p hd hp
      obtain ⟨n, rfl⟩ : ∃ k, n = k + 1 := ⟨n - 1, by omega⟩
      obtain ⟨m, rfl⟩ : ∃ k, m = k + 1 := ⟨m - 1, by omega⟩
      simp only [outwardFrom, parentOf, hp, get]
      cases hr : lib.registered? p with
      | none => rfl
      | some e =>
        have hrest : lib.outwardFrom n e = lib.outwardFrom m e :=
          ih _ hlt (decl?_of_registered? hr) (by omega) (by omega)
        show (do let rest ← lib.outwardFrom n e; pure (d :: rest)) =
          (do let rest ← lib.outwardFrom m e; pure (d :: rest))
        rw [hrest]

/-- Nor does it take more of them to come to its unit. -/
theorem unitFrom_eq {n m id : Nat} {d : Decl} (hd : lib.decl? id = some d) (hn : id < n)
    (hm : id < m) : lib.unitFrom n d = lib.unitFrom m d := by
  induction id using Nat.strong_induction_on generalizing n m d with
  | _ id ih =>
    obtain ⟨n, rfl⟩ : ∃ k, n = k + 1 := ⟨n - 1, by omega⟩
    obtain ⟨m, rfl⟩ : ∃ k, m = k + 1 := ⟨m - 1, by omega⟩
    unfold unitFrom parentOf get
    cases hp : d.parent with
    | none => cases d.body <;> rfl
    | some p =>
      have hlt : p < id := h.parent id d p hd hp
      cases hr : lib.registered? p with
      | none => cases d.body <;> simp only [hr] <;> rfl
      | some e =>
        have hscope : lib.unitFrom n e = lib.unitFrom m e :=
          ih _ hlt (decl?_of_registered? hr) (by omega) (by omega)
        cases d.body <;> simp only [hr] <;> first | rfl | exact hscope

/-! ### Sorting -/

/-- The order of a declaration is its number. -/
theorem orderOf_eq {id : Nat} {d : Decl} (hd : lib.decl? id = some d) : lib.orderOf id = id := by
  unfold orderOf
  rw [hd]
  exact (h.number id d hd).2

theorem sortByOrder_eq {id : Nat} {d : Decl} (hd : lib.decl? id = some d) (list : String) :
    lib.sortByOrder (d.body.listOf list) = d.body.listOf list := by
  obtain ⟨hsorted, hall⟩ := h.lists id d list hd
  have horder : ∀ c ∈ d.body.listOf list, lib.orderOf c = c := by
    intro c hc
    obtain ⟨e, he, -⟩ := hall c hc
    exact h.orderOf_eq he
  refine sortByOrder_of_pairwise (hsorted.imp_of_mem fun {a b} ha hb hab => ?_)
  rw [horder a ha, horder b hb]
  exact Int.ofNat_le.2 (Nat.le_of_lt hab)

theorem sortClassesOf_eq {id : Nat} {d : Decl} (hd : lib.decl? id = some d) :
    lib.sortClassesOf d.body = d.body := by
  rw [sortClassesOf_eq_withClasses, Body.classes, h.sortByOrder_eq hd]
  exact d.body.withClasses_classes

/-- Classes come in the order in which they were created, so sorting them changes nothing. -/
theorem sort_eq : outcomeOf Edit.sort lib = (.ok (), lib) := by
  have hlists : ∀ owners, lib.sortClassLists owners = lib := by
    intro owners
    unfold sortClassLists
    rw [List.map_congr_left (g := id), List.map_id]
    intro s hs
    obtain ⟨k, hk, rfl⟩ := List.mem_iff_getElem.1 hs
    have hd : lib.decl? k = some (lib.slots[k]).decl := by
      unfold decl?
      rw [List.getElem?_eq_getElem hk]
      rfl
    rw [h.sortClassesOf_eq hd]
    exact ite_self _
  have hbelow : ∀ id, outcomeOf (Edit.sortBelow id) lib = (.ok (), lib) := by
    intro id
    unfold Edit.sortBelow
    rw [outcomeOf_modify, hlists]
  unfold Edit.sort
  rw [outcomeOf_bind_ok (outcomeOf_get lib)]
  induction lib.units with
  | nil => rfl
  | cons u us ih =>
    show outcomeOf (Edit.sortBelow u >>= fun _ => us.forM Edit.sortBelow) lib = _
    rw [outcomeOf_bind_ok (hbelow u)]
    exact ih

end Ranked

end Library

end Bindery
