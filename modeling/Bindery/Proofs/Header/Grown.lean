import Bindery.Proofs.Declaration.Coherent
import Bindery.Proofs.Header.Unit
import Bindery.Proofs.Pass.Sound

/-!
# Libraries that headers were read into

Whatever headers were parsed and whatever became of them, a library consists of what was read of one
header behind what was read of the other ones. What was read of one refers to nothing outside, so
all of it is as it was while it grew from its unit; what was given up is not registered, and nothing
that is registered leads there.
-/

namespace Bindery.Library

variable {old lib out : Library}

theorem Orderly.of_decl?_eq (h : lib.Orderly) (he : ∀ id, out.decl? id = lib.decl? id) :
    out.Orderly := by
  have hform : ∀ t forms, lib.HasForm t forms → out.HasForm t forms := by
    rintro t forms ⟨d, hd, hf⟩
    exact ⟨d, (he t).trans hd, hf⟩
  refine ⟨h.toRanked.of_decl?_eq he, ?_, ?_⟩
  · exact fun id d hd => h.undefined id d (he id ▸ hd)
  · intro id d v hd hv
    obtain ⟨t, ht, hf⟩ := h.noted id d v (he id ▸ hd) hv
    exact ⟨t, ht, hform t _ hf⟩

/-- A declaration of a library is one of the old ones or one that was read behind them. -/
theorem decl?_graft_cases {id : Nat} {d : Decl} (hd : (old.graft lib).decl? id = some d) :
    (id < old.created ∧ old.decl? id = some d) ∨
      ∃ k c, id = old.up k ∧ lib.decl? k = some c ∧ d = c.renumber old.up := by
  by_cases hid : id < old.created
  · refine .inl ⟨hid, ?_⟩
    unfold decl? at hd ⊢
    rwa [slots_graft_of_lt old lib hid] at hd
  · obtain ⟨k, rfl⟩ : ∃ k, id = old.up k :=
      ⟨id - old.created, (Nat.sub_add_cancel (Nat.le_of_not_lt hid)).symm⟩
    rw [decl?_graft] at hd
    obtain ⟨c, hc, rfl⟩ := Option.map_eq_some_iff.1 hd
    exact .inr ⟨k, c, rfl, hc, rfl⟩

theorem decl?_graft_of_decl? {id : Nat} {d : Decl} (hd : old.decl? id = some d) :
    (old.graft lib).decl? id = some d := by
  have hid : id < old.created := lt_created_of_decl? hd
  unfold decl? at hd ⊢
  rwa [slots_graft_of_lt old lib hid]

theorem HasForm.graft_old {id : Nat} {forms : List Form} (h : old.HasForm id forms) :
    (old.graft lib).HasForm id forms := by
  obtain ⟨d, hd, hf⟩ := h
  exact ⟨d, decl?_graft_of_decl? hd, hf⟩

theorem HasForm.graft {id : Nat} {forms : List Form} (h : lib.HasForm id forms) :
    (old.graft lib).HasForm (old.up id) forms := by
  obtain ⟨d, hd, hf⟩ := h
  refine ⟨d.renumber old.up, ?_, ?_⟩
  · rw [decl?_graft, hd]
    rfl
  · show (d.body.renumber old.up).form ∈ forms
    rwa [Body.form_renumber]

/-- What was read of one more header, whatever became of it. -/
theorem Orderly.graft (h : old.Orderly) (hl : lib.Orderly) : (old.graft lib).Orderly := by
  have hmono : StrictMono old.up := fun a b hab => Nat.add_lt_add_right hab _
  refine ⟨⟨?_, ?_, ?_⟩, ?_, ?_⟩
  · intro id d hd
    rcases decl?_graft_cases hd with ⟨-, hd⟩ | ⟨k, c, rfl, hc, rfl⟩
    · exact h.number id d hd
    · obtain ⟨hid, horder⟩ := hl.number k c hc
      refine ⟨congrArg old.up hid, ?_⟩
      show (old.up c.order.toNat : Int) = old.up k
      rw [horder, Int.toNat_natCast]
  · intro id d p hd hp
    rcases decl?_graft_cases hd with ⟨-, hd⟩ | ⟨k, c, rfl, hc, rfl⟩
    · exact h.parent id d p hd hp
    · obtain ⟨q, hq, rfl⟩ := Option.map_eq_some_iff.1 (show c.parent.map old.up = some p from hp)
      exact hmono (hl.parent k c q hc hq)
  · intro p o list ho
    rcases decl?_graft_cases ho with ⟨-, ho⟩ | ⟨k, c, rfl, hc, rfl⟩
    · obtain ⟨hsorted, hall⟩ := h.lists p o list ho
      refine ⟨hsorted, fun x hx => ?_⟩
      obtain ⟨d, hd, hrest⟩ := hall x hx
      exact ⟨d, decl?_graft_of_decl? hd, hrest⟩
    · obtain ⟨hsorted, hall⟩ := hl.lists k c list hc
      show ((c.body.renumber old.up).listOf list).Pairwise _ ∧
        ∀ x ∈ (c.body.renumber old.up).listOf list, _
      rw [Body.listOf_renumber]
      refine ⟨hsorted.map _ fun _ _ hab => hmono hab, fun x hx => ?_⟩
      obtain ⟨y, hy, rfl⟩ := List.mem_map.1 hx
      obtain ⟨d, hd, hp, hf⟩ := hall y hy
      refine ⟨d.renumber old.up, ?_, ?_, ?_⟩
      · rw [decl?_graft, hd]
        rfl
      · show d.parent.map old.up = _
        rw [hp]
        rfl
      · show (c.body.renumber old.up).form.listFor? (d.body.renumber old.up).form = _
        rwa [Body.form_renumber, Body.form_renumber]
  · intro id d hd
    rcases decl?_graft_cases hd with ⟨-, hd⟩ | ⟨k, c, rfl, hc, rfl⟩
    · exact h.undefined id d hd
    · have hdef := hl.undefined k c hc
      show (c.body.renumber old.up).record?.bind (·.definition) = none
      cases hb : c.body <;> rw [hb] at hdef <;> try rfl
      next r =>
        have hnone : r.definition = none := hdef
        simp [Body.renumber, Body.record?, Record.renumber, hnone]
  · intro id d v hd hv
    rcases decl?_graft_cases hd with ⟨-, hd⟩ | ⟨k, c, rfl, hc, rfl⟩
    · obtain ⟨t, ht, hf⟩ := h.noted id d v hd hv
      exact ⟨t, ht, hf.graft_old⟩
    · have hnotes : (c.renumber old.up).notes = Fields.renumber old.up c.notes := rfl
      rw [hnotes, Fields.get?_renumber_self] at hv
      obtain ⟨w, hw, rfl⟩ := Option.map_eq_some_iff.1 hv
      obtain ⟨t, rfl, hf⟩ := hl.noted k c w hc hw
      exact ⟨old.up t, rfl, hf.graft⟩

/-! ### What is registered -/

/-- A library that headers were read into, one behind the other. -/
structure Grown (lib : Library) : Prop extends lib.Orderly where
  /-- Units are listed in the order they came in. -/
  units : lib.units.Pairwise (· < ·)
  /-- Units are registered as such, outside all scopes. -/
  unit : ∀ u ∈ lib.units, ∃ d, lib.registered? u = some d ∧ d.body.form = .unit ∧ d.parent = none
  /-- What is registered lists what is registered. -/
  closed : ∀ p o c, lib.registered? p = some o → c ∈ o.body.children →
    ∃ d, lib.registered? c = some d

theorem grown_empty (namespaceName libraryName : Value) :
    (empty namespaceName libraryName).Grown where
  number := fun _ _ hd => nomatch hd
  parent := fun _ _ _ hd => nomatch hd
  lists := fun _ _ _ hd => nomatch hd
  undefined := fun _ _ hd => nomatch hd
  noted := fun _ _ _ hd => nomatch hd
  units := .nil
  unit := fun _ hu => nomatch hu
  closed := fun _ _ _ ho => nomatch ho

theorem registered?_graft_of_lt (lib : Library) {id : Nat} (hid : id < old.created) :
    (old.graft lib).registered? id = old.registered? id := by
  unfold registered?
  rw [slots_graft_of_lt old lib hid]

/-- What was read of a header that was parsed is registered with its unit. -/
theorem Grown.parsed (h : old.Grown) (hl : lib.Growing) :
    Grown { old.graft lib with units := old.units ++ [old.created] } := by
  have hunit : ∀ u ∈ old.units, u < old.created := by
    intro u hu
    obtain ⟨d, hd, -⟩ := h.unit u hu
    exact lt_created_of_decl? (decl?_of_registered? hd)
  have horderly : Orderly { old.graft lib with units := old.units ++ [old.created] } :=
    (h.toOrderly.graft hl.orderly).of_decl?_eq fun _ => rfl
  refine ⟨horderly, ?_, ?_, ?_⟩
  · rw [List.pairwise_append]
    refine ⟨h.units, List.pairwise_singleton .., fun u hu v hv => ?_⟩
    rw [List.mem_singleton.1 hv]
    exact hunit u hu
  · intro u hu
    show ∃ d, (old.graft lib).registered? u = some d ∧ _
    rcases List.mem_append.1 hu with hu | hu
    · rw [registered?_graft_of_lt lib (hunit u hu)]
      exact h.unit u hu
    · obtain ⟨d, hd, hf, hp⟩ := hl.root
      have hzero : u = old.up 0 := by
        rw [List.mem_singleton.1 hu]
        exact (Nat.zero_add _).symm
      refine ⟨d.renumber old.up, ?_, (Body.form_renumber _ _).trans hf, ?_⟩
      · rw [hzero, registered?_graft, hl.registered 0 d hd]
        rfl
      · show d.parent.map old.up = none
        rw [hp]
        rfl
  · intro p o c ho hc
    show ∃ d, (old.graft lib).registered? c = some d
    rcases decl?_graft_cases (decl?_of_registered? ho) with ⟨hp, -⟩ | ⟨k, b, rfl, hb, rfl⟩
    · have hold : old.registered? p = some o := by
        rw [← registered?_graft_of_lt lib hp]
        exact ho
      obtain ⟨d, hd⟩ := h.closed p o c hold hc
      have hlt := lt_created_of_decl? (decl?_of_registered? hd)
      exact ⟨d, (registered?_graft_of_lt lib hlt).trans hd⟩
    · have hmem : c ∈ b.body.children.map old.up := by
        rw [← Body.children_renumber]
        exact hc
      obtain ⟨y, hy, rfl⟩ := List.mem_map.1 hmem
      obtain ⟨d, hd⟩ := hl.exists_of_lists ⟨b, hb, hy⟩
      refine ⟨d.renumber old.up, ?_⟩
      rw [registered?_graft, hl.registered y d hd]
      rfl

/-- What was read of a header that was given up is not registered. -/
theorem Grown.failed (h : old.Grown) (hl : lib.Growing) :
    ((old.graft lib).discard old.created).Grown := by
  obtain ⟨hunits, hkept, hnone⟩ := @Growing.discard_graft old lib hl
  have horderly := (h.toOrderly.graft hl.orderly).of_decl?_eq (decl?_discard _ old.created)
  have hreg : ∀ id, ((old.graft lib).discard old.created).registered? id = old.registered? id :=
    hl.showsNothing.registered
  refine ⟨horderly, hunits ▸ h.units, ?_, ?_⟩
  · rw [hunits]
    simp only [hreg]
    exact h.unit
  · simp only [hreg]
    exact h.closed

/-- Changing declarations in what no list, number or scope depends on. -/
theorem Grown.of_matches (h : lib.Grown) (hm : lib.Matches Decl.SameShape out)
    (hunits : out.units = lib.units)
    (hnote : ∀ id e v, out.decl? id = some e → e.notes.get? "type_declaration_id" = some v →
      ∃ t : Nat, v = .int t ∧ lib.HasForm t [.record, .enumeration]) : out.Grown := by
  refine ⟨h.toOrderly.of_matches hm hnote, hunits ▸ h.units, ?_, ?_⟩
  · intro u hu
    rw [hunits] at hu
    obtain ⟨d, hd, hf, hp⟩ := h.unit u hu
    obtain ⟨e, he, hde⟩ := hm.exists_of_decl? (decl?_of_registered? hd)
    exact ⟨e, registered?_of_matches hm hd he, hde.form.trans hf, hde.parent.trans hp⟩
  · intro p o' c ho' hc
    obtain ⟨o, ho, hoo⟩ := hm.exists_of_registered?_out ho'
    obtain ⟨d, hd⟩ := h.closed p o c ho (hoo.symm.mem_children hc)
    obtain ⟨e, he, -⟩ := hm.exists_of_decl? (decl?_of_registered? hd)
    exact ⟨e, registered?_of_matches hm hd he⟩

/-! ### Headers and marks -/

/-- Libraries that headers were parsed into one after the other, where declarations may have been
marked as ignored in between and since. -/
inductive FromHeaders : Library → Prop where
  /-- Before the first header. -/
  | empty (namespaceName libraryName : Value) : FromHeaders (empty namespaceName libraryName)
  /-- One more header, which may fail but does not end the run. -/
  | parse {lib : Library} (h : FromHeaders lib) (files : FileTree) (grammar : Grammar)
    (options : HeaderOptions) (header : Value)
    (goesOn : ∀ f, (lib.parseHeader files grammar options header).1 ≠ .aborted f) :
    FromHeaders (lib.parseHeader files grammar options header).2
  /-- One more declaration is ignored. -/
  | ignore {lib : Library} (h : FromHeaders lib) (id : Nat) :
    FromHeaders (lib.update id fun d => { d with ignored := true })

theorem FromHeaders.parsed {lib : Library} (h : lib.FromHeaders) {files : FileTree}
    {grammar : Grammar} {options : HeaderOptions} {header : Value}
    (hparsed : (lib.parseHeader files grammar options header).1.isParsed = true) :
    (lib.parseHeader files grammar options header).2.FromHeaders := by
  refine h.parse files grammar options header fun f hf => ?_
  rw [hf] at hparsed
  cases hparsed

theorem FromHeaders.grown (h : lib.FromHeaders) : lib.Grown := by
  induction h with
  | empty namespaceName libraryName => exact grown_empty _ _
  | @parse lib _ files grammar options header goesOn ih =>
    cases parseHeader_fate files grammar options header with
    | parsed new hgrowing hsame =>
      rw [hsame lib]
      exact ih.parsed hgrowing
    | unread reason hsame =>
      rw [hsame lib]
      exact ih
    | discarded reason new hgrowing hsame =>
      rw [hsame lib]
      exact ih.failed hgrowing
    | aborted f hsame => exact absurd (hsame lib).1 (goesOn f)
  | @ignore lib _ id ih =>
    have hmatches : lib.Matches (fun d e => d.SameShape e ∧ e.notes = d.notes)
        (lib.update id fun d => { d with ignored := true }) :=
      matches_update (fun d => ⟨.refl d, rfl⟩) fun _ _ =>
        ⟨⟨rfl, rfl, rfl, rfl, fun _ => rfl, rfl⟩, rfl⟩
    refine ih.of_matches (hmatches.mono fun _ _ hde => hde.1) rfl fun k e v he hv => ?_
    obtain ⟨d, hd, -, hnotes⟩ := hmatches.exists_of_decl?_out he
    exact ih.noted k d v hd (hnotes ▸ hv)

theorem Grown.coherent (h : lib.Grown) : lib.Coherent :=
  ⟨h.toRanked, h.units.imp Nat.ne_of_lt, h.unit, h.closed⟩

/-- A library that headers were read into is a tree, with numbers and notes as reading leaves
them. -/
theorem Grown.loaded (h : lib.Grown) : lib.Loaded := by
  obtain ⟨htree, hscopes⟩ := h.coherent.isTree
  refine ⟨htree, hscopes, ?_, h.undefined, ?_⟩
  · intro id d hd
    rw [(h.number id d hd).2]
    exact Int.natCast_nonneg id
  · intro id d v hd hv
    obtain ⟨t, ht, -⟩ := h.noted id d v hd hv
    exact ⟨t, ht⟩

end Bindery.Library

/-!
## The order of what was read

Numbers tell when a declaration was met, and so do places in the order: what stands in a scope was
met after the scope, lists are in the order in which their members came, also where a namespace was
opened again, and all of one unit came before anything of the units behind it. Headers that were
given up take numbers away and change nothing of this.
-/

namespace Bindery.Library

variable {old lib : Library}

/-! ### Units apart -/

/-- What came before a unit lists nothing that came behind it. -/
def UnitsApart (lib : Library) : Prop :=
  ∀ unit ∈ lib.units, ∀ p c, lib.Lists p c → p < unit → c < unit

/-- What is listed behind other declarations was listed before, or all of it is new. -/
theorem lists_graft_cases {p c : Nat} (hl : (old.graft lib).Lists p c) :
    old.Lists p c ∨ old.created ≤ p := by
  obtain ⟨o, ho, hc⟩ := hl
  rcases decl?_graft_cases ho with ⟨-, ho⟩ | ⟨k, -, rfl, -, -⟩
  · exact .inl ⟨o, ho, hc⟩
  · exact .inr (Nat.le_add_left _ _)

/-- What is read of one more header lies behind all units so far, whatever becomes of it. -/
theorem UnitsApart.graft (h : old.UnitsApart) (hg : old.Grown) {p c unit : Nat}
    (hu : unit ∈ old.units ∨ unit = old.created) (hl : (old.graft lib).Lists p c)
    (hp : p < unit) : c < unit := by
  have hle : unit ≤ old.created := by
    rcases hu with hu | rfl
    · obtain ⟨d, hd, -⟩ := hg.unit unit hu
      exact Nat.le_of_lt (lt_created_of_decl? (decl?_of_registered? hd))
    · exact Nat.le_refl _
  rcases lists_graft_cases hl with hl | hnew
  · rcases hu with hu | rfl
    · exact h unit hu p c hl hp
    · exact (hg.toOrderly.lt_of_lists hl).2
  · omega

theorem FromHeaders.unitsApart (h : lib.FromHeaders) : lib.UnitsApart := by
  induction h with
  | empty namespaceName libraryName => exact fun _ hu => nomatch hu
  | @parse lib hlib files grammar options header goesOn ih =>
    cases parseHeader_fate files grammar options header with
    | parsed new hgrowing hsame =>
      rw [hsame lib]
      intro unit hu p c hl hp
      refine ih.graft hlib.grown ?_ (show (lib.graft new).Lists p c from hl) hp
      rcases List.mem_append.1 hu with hu | hu
      · exact .inl hu
      · exact .inr (List.mem_singleton.1 hu)
    | unread reason hsame =>
      rw [hsame lib]
      exact ih
    | discarded reason new hgrowing hsame =>
      rw [hsame lib]
      rintro unit hu p c ⟨o, ho, hc⟩ hp
      rw [decl?_discard] at ho
      exact ih.graft hlib.grown (.inl hu) ⟨o, ho, hc⟩ hp
    | aborted f hsame => exact absurd (hsame lib).1 (goesOn f)
  | @ignore lib hlib id ih =>
    rintro unit hu p c ⟨o, ho, hc⟩ hp
    rw [decl?_update] at ho
    split_ifs at ho
    · obtain ⟨d, hd, rfl⟩ := Option.map_eq_some_iff.1 ho
      exact ih unit hu p c ⟨d, hd, hc⟩ hp
    · exact ih unit hu p c ⟨o, ho, hc⟩ hp

/-- What lies below one unit came before what lies below a later one. -/
theorem UnitsApart.lt_of_below (h : lib.UnitsApart) {unit top level id : Nat}
    (hu : unit ∈ lib.units) (htop : top < unit) (hb : lib.Below top level id) : id < unit := by
  induction hb with
  | self => exact htop
  | step _ hl ih => exact h unit hu _ _ hl ih

/-! ### Orders -/

/-- In a library that headers were read into, whatever became of them, a declaration was met after
the one it was created in, every list is strictly in order, everything in one unit was met before
anything in a later one, and sorting changes nothing. -/
theorem FromHeaders.met_in_order (h : lib.FromHeaders) :
    (∀ id d p, lib.decl? id = some d → d.parent = some p →
      ∃ e, lib.decl? p = some e ∧ e.order < d.order) ∧
    (∀ id d list, lib.decl? id = some d →
      (d.body.listOf list).Pairwise fun a b => lib.orderOf a < lib.orderOf b) ∧
    (lib.units.Pairwise fun u v => ∀ d ∈ lib.subtree u, ∀ e ∈ lib.subtree v, d.order < e.order) ∧
    outcomeOf Edit.sort lib = (.ok (), lib) := by
  have hgrown := h.grown
  have horderly := hgrown.toOrderly
  refine ⟨?_, ?_, ?_, horderly.sort_eq⟩
  · intro id d p hd hp
    have hlt := horderly.parent id d p hd hp
    have hcreated : p < lib.created := Nat.lt_trans hlt (lt_created_of_decl? hd)
    obtain ⟨e, he⟩ := exists_decl?_of_lt hcreated
    refine ⟨e, he, ?_⟩
    rw [(horderly.number id d hd).2, (horderly.number p e he).2]
    exact Int.ofNat_lt.2 hlt
  · intro id d list hd
    obtain ⟨hsorted, hall⟩ := horderly.lists id d list hd
    refine hsorted.imp_of_mem fun {a b} ha hb hab => ?_
    obtain ⟨c, hc, -⟩ := hall a ha
    obtain ⟨e, he, -⟩ := hall b hb
    rw [horderly.orderOf_eq hc, horderly.orderOf_eq he]
    exact Int.ofNat_lt.2 hab
  · refine hgrown.units.imp_of_mem fun {u v} _ hv huv d hd e he => ?_
    obtain ⟨_, x, -, hx, hdx⟩ := mem_walkFrom.1 hd
    obtain ⟨_, y, -, hy, hey⟩ := mem_walkFrom.1 he
    -- the later unit itself lies between the two
    have hbefore : x < v := h.unitsApart.lt_of_below hv huv hx
    have hbehind := horderly.add_le_of_below hy
    rw [(horderly.number x d hdx).2, (horderly.number y e hey).2]
    exact Int.ofNat_lt.2 (by omega)

/-- The tree of a header that opens a namespace twice, with a structure of one letter in each. -/
def reopenedTree : SyntaxNode :=
  let node (kind : String) (start stop : Nat) (field : Option String)
      (children : List SyntaxNode) : SyntaxNode :=
    ⟨kind, start, stop, true, false, field, children⟩
  let opened (start : Nat) : SyntaxNode :=
    node "namespace_definition" start (start + 28) none
      [node "namespace_identifier" (start + 10) (start + 11) (some "name") [],
        node "declaration_list" (start + 12) (start + 28) (some "body")
          [node "struct_specifier" (start + 14) (start + 25) none
            [node "type_identifier" (start + 21) (start + 22) (some "name") [],
              node "field_declaration_list" (start + 23) (start + 25) (some "body") []]]]
  node "translation_unit" 0 58 none [opened 0, opened 29]

/-- Parses a header where only one is there, which opens a namespace twice. -/
def parseReopened (lib : Library) (header : String) : HeaderOutcome × Library :=
  lib.parseHeader
    ⟨⟨.absolute, []⟩, [],
      [(["a.h"], "namespace a { struct S {}; }\nnamespace a { struct T {}; }\n".toUTF8.toList)]⟩
    (fun _ => reopenedTree) ⟨[], []⟩ (.text header)

theorem FromHeaders.parseReopened (h : lib.FromHeaders) {header : String}
    (goesOn : ∀ f, (lib.parseReopened header).1 ≠ .aborted f) :
    (lib.parseReopened header).2.FromHeaders :=
  .parse h _ _ _ _ goesOn

/-- A library into which a header was read behind one that is missing. -/
def reopened : Library :=
  (((empty .null .null).parseReopened "missing.h").2.parseReopened "a.h").2

/-- A namespace that is opened again goes on with its list. -/
theorem met_in_order_reopened :
    reopened.FromHeaders ∧
      (reopened.decl? 1).map (·.body.listOf "classes") = some [2, 3] ∧
      (∀ id d list, reopened.decl? id = some d →
        (d.body.listOf list).Pairwise fun a b => reopened.orderOf a < reopened.orderOf b) ∧
      outcomeOf Edit.sort reopened = (.ok (), reopened) := by
  have hmissing : ((empty .null .null).parseReopened "missing.h").1.reason?.isSome = true := by
    decide +kernel
  have hparsed : (((empty .null .null).parseReopened "missing.h").2.parseReopened
      "a.h").1.isParsed = true := by
    decide +kernel
  have hheaders : reopened.FromHeaders := by
    refine .parseReopened (.parseReopened (.empty .null .null) fun f hf => ?_) fun f hf => ?_
    · rw [hf] at hmissing
      cases hmissing
    · rw [hf] at hparsed
      cases hparsed
  obtain ⟨-, hlists, -, hsort⟩ := hheaders.met_in_order
  exact ⟨hheaders, by decide +kernel, hlists, hsort⟩

end Bindery.Library
