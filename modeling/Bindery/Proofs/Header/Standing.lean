import Bindery.Proofs.Header.Declared

/-!
# Where declarations stand

While a header is read, what was declared before stays where it is and what it is, and only lists
more. What is new is held by the scope that was open, and scopes stand below the unit, or whatever
reading began with, at a path of names. Namespaces of one scope have names of their own, since one
that is there is entered again; so no two namespaces stand at one path.
-/

namespace Bindery

/-- The access level of a data member or a member function. -/
def Body.access? : Body → Option Access
  | field _ access => some access
  | method _ traits => some traits.access
  | _ => none

/-- Only scopes go to the list of namespaces. -/
theorem Form.namespaces_eq_iff {owner child : Form} {list : String}
    (h : owner.listFor? child = some list) : "namespaces" = list ↔ child.isScope = true := by
  cases owner <;> cases child <;> simp [listFor?] at h <;> subst h <;> simp [isScope]

theorem Body.access?_insert? {b child c : Body} {id : Nat} (h : b.insert? child id = some c) :
    c.access? = b.access? := by
  cases b with
  | method p t =>
    cases child <;> cases h
    rfl
  | function p =>
    cases child <;> cases h
    rfl
  | enumeration items u s =>
    cases child <;> cases h
    rfl
  | unit s file | space s | record r =>
    obtain ⟨_, -, rfl⟩ := Option.map_eq_some_iff.1 h
    rfl
  | _ => cases h

/-- What a declaration may become: it lists what it listed, and perhaps more. -/
structure Decl.Widens (d e : Decl) : Prop where
  /-- The name stays. -/
  name : e.name = d.name
  /-- The scope stays. -/
  parent : e.parent = d.parent
  /-- The place stays. -/
  location : e.location = d.location
  /-- The form stays. -/
  form : e.body.form = d.body.form
  /-- The access level stays. -/
  access : e.body.access? = d.body.access?
  /-- Nothing goes from the lists. -/
  lists : ∀ list, d.body.listOf list ⊆ e.body.listOf list

theorem Decl.Widens.refl (d : Decl) : d.Widens d :=
  ⟨rfl, rfl, rfl, rfl, rfl, fun _ _ hc => hc⟩

theorem Decl.Widens.trans {d e f : Decl} (h : d.Widens e) (h' : e.Widens f) : d.Widens f :=
  ⟨h'.name.trans h.name, h'.parent.trans h.parent, h'.location.trans h.location,
    h'.form.trans h.form, h'.access.trans h.access,
    fun list => List.Subset.trans (h.lists list) (h'.lists list)⟩

namespace Library

/-- A library in which every declaration of another one is left and lists at least as much. -/
def Widens (lib out : Library) : Prop :=
  ∀ (id : Nat) (s : Slot), lib.slots[id]? = some s →
    ∃ t : Slot, out.slots[id]? = some t ∧ t.registered = s.registered ∧ s.decl.Widens t.decl

variable {lib mid out : Library}

namespace Widens

theorem refl (lib : Library) : lib.Widens lib :=
  fun _ s hs => ⟨s, hs, rfl, .refl _⟩

theorem trans (h : lib.Widens mid) (h' : mid.Widens out) : lib.Widens out := by
  intro id s hs
  obtain ⟨t, ht, hreg, hst⟩ := h id s hs
  obtain ⟨u, hu, hreg', htu⟩ := h' id t ht
  exact ⟨u, hu, hreg'.trans hreg, hst.trans htu⟩

theorem of_matches (h : lib.Matches Decl.Widens out) : lib.Widens out := by
  intro id s hs
  have hid := h id
  rw [hs] at hid
  cases ht : out.slots[id]? with
  | none =>
    rw [ht] at hid
    cases hid
  | some t =>
    rw [ht] at hid
    cases hid with
    | some hst => exact ⟨t, rfl, hst⟩

theorem append (lib : Library) (d : Decl) : lib.Widens (lib.append d) := by
  intro id s hs
  obtain ⟨hlt, -⟩ := List.getElem?_eq_some_iff.1 hs
  exact ⟨s, (List.getElem?_append_left hlt).trans hs, rfl, .refl _⟩

theorem exists_decl? (h : lib.Widens out) {id : Nat} {d : Decl} (hd : lib.decl? id = some d) :
    ∃ e, out.decl? id = some e ∧ d.Widens e := by
  obtain ⟨s, hs, rfl⟩ := Option.map_eq_some_iff.1 hd
  obtain ⟨t, ht, -, hst⟩ := h id s hs
  exact ⟨t.decl, by rw [decl?, ht, Option.map_some], hst⟩

theorem exists_registered? (h : lib.Widens out) {id : Nat} {d : Decl}
    (hd : lib.registered? id = some d) : ∃ e, out.registered? id = some e ∧ d.Widens e := by
  obtain ⟨s, hs, rfl⟩ := Option.map_eq_some_iff.1 hd
  obtain ⟨hs, hreg⟩ := Option.filter_eq_some_iff.1 hs
  obtain ⟨t, ht, hsame, hst⟩ := h id s hs
  refine ⟨t.decl, ?_, hst⟩
  rw [registered?, ht, Option.filter_some_pos (hsame.trans hreg), Option.map_some]

theorem created_le (h : lib.Widens out) : lib.created ≤ out.created := by
  by_contra hlt
  obtain ⟨d, hd⟩ := exists_decl?_of_lt (Nat.lt_of_not_le hlt)
  obtain ⟨e, he, -⟩ := h.exists_decl? hd
  exact absurd (lt_created_of_decl? he) (Nat.lt_irrefl _)

/-- What is there afterwards had its form before, if it was there. -/
theorem hasForm (h : lib.Widens out) {id : Nat} (hid : id < lib.created) {forms : List Form}
    (hform : out.HasForm id forms) : lib.HasForm id forms := by
  obtain ⟨d, hd⟩ := exists_decl?_of_lt hid
  obtain ⟨e, he, hde⟩ := h.exists_decl? hd
  obtain ⟨e', he', hf⟩ := hform
  rw [he] at he'
  cases he'
  exact ⟨d, hd, hde.form ▸ hf⟩

theorem hasForm_out (h : lib.Widens out) {id : Nat} {forms : List Form}
    (hform : lib.HasForm id forms) : out.HasForm id forms := by
  obtain ⟨d, hd, hf⟩ := hform
  obtain ⟨e, he, hde⟩ := h.exists_decl? hd
  exact ⟨e, he, hde.form ▸ hf⟩

end Widens

/-! ### Scopes and paths -/

/-- A declaration holds another one: that one was created in it, and is on its list for the form. -/
def Holds (lib : Library) (scope id : Nat) : Prop :=
  ∃ o d list, lib.decl? scope = some o ∧ lib.decl? id = some d ∧ d.parent = some scope ∧
    o.body.form.listFor? d.body.form = some list ∧ id ∈ o.body.listOf list

theorem Holds.widens {scope id : Nat} (h : lib.Holds scope id) (hw : lib.Widens out) :
    out.Holds scope id := by
  obtain ⟨o, d, list, ho, hd, hparent, hlist, hmem⟩ := h
  obtain ⟨o', ho', hoo⟩ := hw.exists_decl? ho
  obtain ⟨d', hd', hdd⟩ := hw.exists_decl? hd
  exact ⟨o', d', list, ho', hd', hdd.parent.trans hparent, by rw [hoo.form, hdd.form, hlist],
    hoo.lists list hmem⟩

/-- A namespace or a class stands below a root, inside of namespaces and classes of some names. The
root stands inside of none. -/
inductive ScopeAt (lib : Library) (root : Nat) : ScopePath → Nat → Prop where
  /-- The root. -/
  | root : ScopeAt lib root [] root
  /-- What a scope holds. -/
  | inside {path : ScopePath} {scope id : Nat} {d : Decl} {form : Form} :
      ScopeAt lib root path scope → lib.Holds scope id → scope < id →
      lib.registered? id = some d → d.body.form = form → form ∈ [Form.space, .record] →
      ScopeAt lib root (path ++ [(form, d.name)]) id

variable {root : Nat} {path : ScopePath}

theorem ScopeAt.widens {scope : Nat} (h : lib.ScopeAt root path scope) (hw : lib.Widens out) :
    out.ScopeAt root path scope := by
  induction h with
  | root => exact .root
  | inside _ hholds hlt hd hform hscope ih =>
    obtain ⟨e, he, hde⟩ := hw.exists_registered? hd
    rw [← hde.name]
    exact ih.inside (hholds.widens hw) hlt he (hde.form.trans hform) hscope

theorem ScopeAt.le {scope : Nat} (h : lib.ScopeAt root path scope) : root ≤ scope := by
  induction h with
  | root => exact Nat.le_refl _
  | inside _ _ hlt _ _ _ ih => exact Nat.le_trans ih (Nat.le_of_lt hlt)

theorem ScopeAt.eq_root {scope : Nat} (hat : lib.ScopeAt root [] scope) : scope = root := by
  generalize hpath : ([] : ScopePath) = path at hat
  cases hat with
  | root => rfl
  | inside _ _ _ _ _ _ => exact absurd hpath.symm (List.append_ne_nil_of_right_ne_nil _ nofun)

theorem ScopeAt.lt_of_ne_nil {path : ScopePath} {scope : Nat} (hat : lib.ScopeAt root path scope)
    (hpath : path ≠ []) : root < scope := by
  cases hat with
  | root => exact absurd rfl hpath
  | inside hscope _ hlt _ _ _ => exact Nat.lt_of_le_of_lt hscope.le hlt

/-- A declaration stands for something that a header declares: it has its form, its name, its place
and its access level, and is held by the scope at its path. -/
def Represents (lib : Library) (h : Header) (root id : Nat) (e : Declared) : Prop :=
  ∃ d scope, lib.registered? id = some d ∧ d.body.form = e.form ∧ d.name = e.name ∧
    d.location = some (h.location e.node) ∧ d.body.access? = e.access ∧ scope < id ∧
    lib.Holds scope id ∧ lib.ScopeAt root e.path scope

theorem Represents.widens {h : Header} {id : Nat} {e : Declared}
    (hr : lib.Represents h root id e) (hw : lib.Widens out) : out.Represents h root id e := by
  obtain ⟨d, scope, hd, hform, hname, hlocation, haccess, hlt, hholds, hat⟩ := hr
  obtain ⟨d', hd', hdd⟩ := hw.exists_registered? hd
  exact ⟨d', scope, hd', hdd.form.trans hform, hdd.name.trans hname,
    hdd.location.trans hlocation, hdd.access.trans haccess, hlt, hholds.widens hw, hat.widens hw⟩

/-! ### Namespaces of their own names -/

/-- The name of a declaration, if there is one. -/
def name? (lib : Library) (id : Nat) : Option String :=
  (lib.decl? id).map (·.name)

/-- From some number on, the namespaces that a declaration lists have names of their own; they came
behind it and were created in it. -/
def SpacesApart (lib : Library) (root : Nat) : Prop :=
  ∀ p o, root ≤ p → lib.decl? p = some o →
    (o.body.listOf "namespaces").Pairwise (fun a b => lib.name? a ≠ lib.name? b) ∧
      ∀ c ∈ o.body.listOf "namespaces", p < c ∧
        ∃ d, lib.registered? c = some d ∧ d.parent = some p ∧ d.body.form = .space

theorem Widens.name?_eq (hw : lib.Widens out) {id : Nat} {d : Decl} (hd : lib.decl? id = some d) :
    out.name? id = lib.name? id := by
  obtain ⟨e, he, hde⟩ := hw.exists_decl? hd
  rw [name?, name?, hd, he, Option.map_some, Option.map_some, hde.name]

/-- Where no namespace is listed that was not listed before, they keep names of their own. -/
theorem SpacesApart.widens (h : lib.SpacesApart root) (hw : lib.Widens out)
    (hout : ∀ p e, root ≤ p → out.decl? p = some e → e.body.listOf "namespaces" = [] ∨
      ∃ d, lib.decl? p = some d ∧ e.body.listOf "namespaces" = d.body.listOf "namespaces") :
    out.SpacesApart root := by
  intro p e hp he
  rcases hout p e hp he with hnone | ⟨d, hd, hsame⟩
  · rw [hnone]
    exact ⟨.nil, fun c hc => nomatch hc⟩
  · obtain ⟨hnames, hspaces⟩ := h p d hp hd
    rw [hsame]
    refine ⟨hnames.imp_of_mem fun {a b} ha hb hab => ?_, fun c hc => ?_⟩
    · obtain ⟨-, x, hx, -⟩ := hspaces a ha
      obtain ⟨-, y, hy, -⟩ := hspaces b hb
      rwa [hw.name?_eq (decl?_of_registered? hx), hw.name?_eq (decl?_of_registered? hy)]
    · obtain ⟨hlt, x, hx, hparent, hform⟩ := hspaces c hc
      obtain ⟨y, hy, hxy⟩ := hw.exists_registered? hx
      exact ⟨hlt, y, hy, hxy.parent.trans hparent, hxy.form.trans hform⟩

/-! ### New declarations -/

/-- What it comes to that a declaration was created in a scope. -/
structure Creates (lib : Library) (scope id : Nat) (d : Decl) (out : Library) : Prop where
  /-- It has the next number. -/
  number : id = lib.created
  /-- It is the only one that is new. -/
  created : out.created = lib.created + 1
  /-- The scope came before. -/
  lt : scope < id
  /-- The others are left. -/
  widens : lib.Widens out
  /-- It is as it was described. -/
  registered : out.registered? id = some d
  /-- The scope holds it. -/
  holds : out.Holds scope id
  /-- Only a namespace goes to a list of namespaces. -/
  spaces : ∀ p e, out.decl? p = some e → p ≠ id → ∃ o, lib.decl? p = some o ∧
    e.body.listOf "namespaces" = o.body.listOf "namespaces" ++
      if p = scope ∧ d.body.form.isScope then [id] else []

/-- A declaration that is no namespace leaves the namespaces what they are. -/
theorem Creates.spacesApart {scope id : Nat} {d : Decl} (h : lib.Creates scope id d out)
    (hapart : lib.SpacesApart root) (hform : d.body.form.isScope = false) :
    out.SpacesApart root := by
  refine hapart.widens h.widens fun p e _ he => ?_
  by_cases hp : p = id
  · subst hp
    rw [decl?_of_registered? h.registered] at he
    cases he
    refine .inl (Body.listOf_eq_nil ?_)
    revert hform
    cases d.body.form <;> decide
  · obtain ⟨o, ho, hlist⟩ := h.spaces p e he hp
    rw [hform, if_neg (by simp), List.append_nil] at hlist
    exact .inr ⟨o, ho, hlist⟩

/-- A namespace of a new name goes behind those that a scope has. -/
theorem Creates.spacesApart_space {scope id : Nat} {d : Decl} (h : lib.Creates scope id d out)
    (hapart : lib.SpacesApart root) (hform : d.body.form = .space)
    (hempty : d.body.listOf "namespaces" = [])
    (hnew : ∀ o, lib.decl? scope = some o →
      ∀ c ∈ o.body.listOf "namespaces", lib.name? c ≠ some d.name) :
    out.SpacesApart root := by
  intro p e hp he
  by_cases hid : p = id
  · subst hid
    rw [decl?_of_registered? h.registered] at he
    cases he
    rw [hempty]
    exact ⟨.nil, fun c hc => nomatch hc⟩
  obtain ⟨o, ho, hlist⟩ := h.spaces p e he hid
  obtain ⟨hnames, hspaces⟩ := hapart p o hp ho
  have hkept : ∀ c ∈ o.body.listOf "namespaces", out.name? c = lib.name? c ∧ p < c ∧
      ∃ x, out.registered? c = some x ∧ x.parent = some p ∧ x.body.form = .space := by
    intro c hc
    obtain ⟨hlt, x, hx, hparent, hspace⟩ := hspaces c hc
    obtain ⟨y, hy, hxy⟩ := h.widens.exists_registered? hx
    exact ⟨h.widens.name?_eq (decl?_of_registered? hx), hlt, y, hy, hxy.parent.trans hparent,
      hxy.form.trans hspace⟩
  have hnames' : (o.body.listOf "namespaces").Pairwise fun a b => out.name? a ≠ out.name? b :=
    hnames.imp_of_mem fun ha hb hab => by rwa [(hkept _ ha).1, (hkept _ hb).1]
  rw [hlist]
  by_cases hscope : p = scope
  · subst hscope
    obtain ⟨o', d', list, -, hd', hparent, -, -⟩ := h.holds
    have hname : out.name? id = some d.name := by
      rw [name?, decl?_of_registered? h.registered, Option.map_some]
    rw [decl?_of_registered? h.registered] at hd'
    cases hd'
    rw [if_pos ⟨rfl, by rw [hform]; rfl⟩]
    refine ⟨List.pairwise_append.2 ⟨hnames', List.pairwise_singleton .., ?_⟩, ?_⟩
    · intro c hc x hx
      rw [List.mem_singleton.1 hx, hname, (hkept c hc).1]
      exact hnew o ho c hc
    · intro c hc
      rcases List.mem_append.1 hc with hc | hc
      · exact (hkept c hc).2
      · rw [List.mem_singleton.1 hc]
        exact ⟨h.lt, d, h.registered, hparent, hform⟩
  · rw [if_neg fun hand => hscope hand.1, List.append_nil]
    exact ⟨hnames', fun c hc => (hkept c hc).2⟩

end Library

open Library

/-- Creating a declaration in one that is there. -/
theorem Header.creates_of_create (h : Header) {body : Body} {scope : Nat} {name comment : String}
    {n : SyntaxNode} {lib out : Library} {id : Nat} (hscope : lib.Has scope)
    (hrun : outcomeOf (h.create body scope name n comment) lib = (.ok id, out)) :
    lib.Creates scope id (h.describe name n comment (lib.blankDecl (some scope) body)) out := by
  obtain ⟨o, b, ho, hb, rfl, rfl⟩ := h.exists_of_create hscope hrun
  let d := h.describe name n comment (lib.blankDecl (some scope) body)
  obtain ⟨list, hlist, hform, hlists⟩ := Body.insert?_eq_some hb
  have hlt : scope < lib.created := lt_created_of_decl? ho
  have hne : scope ≠ lib.created := Nat.ne_of_lt hlt
  have hold : ∀ p, p ≠ lib.created → (lib.append d).decl? p = lib.decl? p := fun p hp => by
    rw [decl?_append, if_neg hp]
  have hscope : ((lib.append d).update scope fun o => { o with body := b }).decl? scope =
      some { o with body := b } := by
    rw [decl?_update, if_pos rfl, hold scope hne, ho, Option.map_some]
  have hnew : ((lib.append d).update scope fun o => { o with body := b }).registered? lib.created =
      some d := by
    rw [registered?_update_of_ne _ hne, registered?_append, if_pos rfl]
  refine ⟨rfl, ?_, hlt, ?_, hnew, ?_, fun p e he hp => ?_⟩
  · rw [created_update, created_append]
  · refine (Widens.append lib d).trans (.of_matches (matches_update .refl fun e he => ?_))
    rw [hold scope hne, ho] at he
    cases he
    refine ⟨rfl, rfl, rfl, hform, Body.access?_insert? hb, fun l c hc => ?_⟩
    show c ∈ b.listOf l
    rw [hlists]
    split_ifs
    · exact List.mem_append_left _ hc
    · exact hc
  · refine ⟨_, d, list, hscope, decl?_of_registered? hnew, rfl, ?_, ?_⟩
    · show b.form.listFor? body.form = some list
      rw [hform, hlist]
    · show lib.created ∈ b.listOf list
      rw [hlists, if_pos rfl]
      exact List.mem_append_right _ (List.mem_singleton.2 rfl)
  · by_cases hps : p = scope
    · subst hps
      rw [hscope] at he
      cases he
      refine ⟨o, ho, ?_⟩
      show b.listOf "namespaces" = o.body.listOf "namespaces" ++
        if p = p ∧ body.form.isScope = true then [lib.created] else []
      have hspaces := Form.namespaces_eq_iff hlist
      rw [hlists]
      by_cases hform : body.form.isScope = true
      · rw [if_pos (hspaces.2 hform), if_pos ⟨rfl, hform⟩]
      · rw [if_neg (mt hspaces.1 hform), if_neg fun hand => hform hand.2, List.append_nil]
    · rw [decl?_update, if_neg (Ne.symm hps), hold p hp] at he
      exact ⟨e, he, by rw [if_neg fun hand => hps hand.1, List.append_nil]⟩

/-! ### What steps declare -/

namespace Library

/-- The forms of what headers declare. -/
def declaredForms : List Form :=
  [.record, .enumeration, .function, .method, .field]

/-- What reading a part of a header comes to: what was there is left, namespaces have names of their
own, and the classes, enumerations, functions and data members that are new stand for what the part
declares, in order. -/
structure Declares (lib : Library) (h : Header) (root : Nat) (declared : List Declared)
    (out : Library) : Prop where
  /-- What was there is left. -/
  widens : lib.Widens out
  /-- Namespaces have names of their own. -/
  apart : out.SpacesApart root
  /-- What is new stands for what is declared. -/
  represents : ∃ ids : List Nat, ids.Pairwise (· < ·) ∧
    (∀ id, id ∈ ids ↔ lib.created ≤ id ∧ out.HasForm id declaredForms) ∧
    List.Forall₂ (out.Represents h root) ids declared

variable {lib mid out : Library} {h : Header} {root : Nat} {declared declared' : List Declared}

/-- Where nothing is new that headers declare. -/
theorem Declares.nothing (hw : lib.Widens out) (hapart : out.SpacesApart root)
    (hnone : ∀ id, lib.created ≤ id → ¬out.HasForm id declaredForms) :
    lib.Declares h root [] out := by
  refine ⟨hw, hapart, [], .nil, fun id => ?_, .nil⟩
  exact iff_of_false List.not_mem_nil fun hid => hnone id hid.1 hid.2

theorem Declares.refl (hapart : lib.SpacesApart root) : lib.Declares h root [] lib :=
  .nothing (.refl lib) hapart fun _ hid hform => Nat.not_lt_of_le hid hform.lt

theorem Declares.trans (hl : lib.Declares h root declared mid)
    (hm : mid.Declares h root declared' out) :
    lib.Declares h root (declared ++ declared') out := by
  obtain ⟨ids, hsorted, hids, hall⟩ := hl.represents
  obtain ⟨ids', hsorted', hids', hall'⟩ := hm.represents
  have hold : ∀ id ∈ ids, id < mid.created := fun id hid => ((hids id).1 hid).2.lt
  have hnew : ∀ id ∈ ids', mid.created ≤ id := fun id hid => ((hids' id).1 hid).1
  refine ⟨hl.widens.trans hm.widens, hm.apart, ids ++ ids', ?_, fun id => ?_, ?_⟩
  · refine List.pairwise_append.2 ⟨hsorted, hsorted', fun a ha b hb => ?_⟩
    exact Nat.lt_of_lt_of_le (hold a ha) (hnew b hb)
  · rw [List.mem_append, hids, hids']
    constructor
    · rintro (⟨hid, hform⟩ | ⟨hid, hform⟩)
      · exact ⟨hid, hm.widens.hasForm_out hform⟩
      · exact ⟨Nat.le_trans hl.widens.created_le hid, hform⟩
    · rintro ⟨hid, hform⟩
      by_cases hlt : id < mid.created
      · exact .inl ⟨hid, hm.widens.hasForm hlt hform⟩
      · exact .inr ⟨Nat.le_of_not_lt hlt, hform⟩
  · exact List.rel_append (hall.imp fun _ _ hr => hr.widens hm.widens) hall'

/-- What the units are does not matter. -/
theorem Declares.withUnits (hd : lib.Declares h root declared mid) (units : List Nat) :
    lib.Declares h root declared { mid with units := units } := by
  have hsame : mid.Declares h root [] { mid with units := units } := by
    refine .nothing (fun id s hs => ⟨s, hs, rfl, .refl _⟩) hd.apart fun id hid hform => ?_
    have hmid : mid.HasForm id declaredForms := hform
    exact Nat.not_lt_of_le hid hmid.lt
  rw [← List.append_nil declared]
  exact hd.trans hsame

/-- A change after which everything lists the namespaces that it listed. -/
theorem Declares.of_matches (hapart : lib.SpacesApart root) (hsize : out.created = lib.created)
    (hm : lib.Matches (fun d e => d.Widens e ∧
      e.body.listOf "namespaces" = d.body.listOf "namespaces") out) :
    lib.Declares h root [] out := by
  have hw : lib.Widens out := .of_matches (hm.mono fun _ _ hde => hde.1)
  refine .nothing hw (hapart.widens hw fun p e _ he => ?_) fun id hid hform => ?_
  · obtain ⟨d, hd, -, hsame⟩ := hm.exists_of_decl?_out he
    exact .inr ⟨d, hd, hsame⟩
  · exact Nat.not_lt_of_le hid (hsize ▸ hform.lt)

/-- What is created is all that is new. -/
theorem Creates.eq_of_hasForm {scope id k : Nat} {d : Decl} (h : lib.Creates scope id d out)
    (hk : lib.created ≤ k) {forms : List Form} (hform : out.HasForm k forms) :
    k = id ∧ d.body.form ∈ forms := by
  have hlt := hform.lt
  rw [h.created] at hlt
  have hid := h.number
  obtain rfl : k = id := by omega
  obtain ⟨e, he, hf⟩ := hform
  rw [decl?_of_registered? h.registered] at he
  cases he
  exact ⟨rfl, hf⟩

/-- Creating something of a form that headers do not declare. -/
theorem Creates.declares_nothing {scope id : Nat} {d : Decl} (hc : lib.Creates scope id d out)
    (hapart : out.SpacesApart root) (hform : d.body.form ∉ declaredForms) :
    lib.Declares h root [] out :=
  .nothing hc.widens hapart fun _ hk hf => hform (hc.eq_of_hasForm hk hf).2

/-- Creating what a header declares, in a scope that stands at its path. -/
theorem Creates.declares {scope id : Nat} {d : Decl} {e : Declared}
    (hc : lib.Creates scope id d out) (hapart : lib.SpacesApart root)
    (hat : lib.ScopeAt root e.path scope) (hform : d.body.form = e.form)
    (hdeclared : e.form ∈ declaredForms) (hname : d.name = e.name)
    (hlocation : d.location = some (h.location e.node)) (haccess : d.body.access? = e.access) :
    lib.Declares h root [e] out := by
  have hscope : d.body.form.isScope = false := by
    rw [hform]
    revert hdeclared
    cases e.form <;> decide
  refine ⟨hc.widens, hc.spacesApart hapart hscope, [id], List.pairwise_singleton .., fun k => ?_,
    .cons ⟨d, scope, hc.registered, hform, hname, hlocation, haccess, hc.lt, hc.holds,
      hat.widens hc.widens⟩ .nil⟩
  rw [List.mem_singleton]
  constructor
  · rintro rfl
    exact ⟨Nat.le_of_eq hc.number.symm, d, decl?_of_registered? hc.registered, hform ▸ hdeclared⟩
  · rintro ⟨hk, hf⟩
    exact (hc.eq_of_hasForm hk hf).1

end Library

variable {α β : Type} {h : Header} {root : Nat} {P P' : Library → Prop}
  {declared declared' : List Declared}

/-- What a step of reading a header declares: where `P` holds and the step `m` is not refused, it
declares all of `declared`, and `Q` holds of the result. -/
def Declaring (h : Header) (root : Nat) (P : Library → Prop) (declared : List Declared)
    (m : Build α) (Q : α → Library → Prop) : Prop :=
  ∀ lib a out, lib.SpacesApart root → P lib → outcomeOf m lib = (.ok a, out) →
    lib.Declares h root declared out ∧ Q a out

/-- What goes on holding while declarations come to list more. -/
def Enduring (P : Library → Prop) : Prop :=
  ∀ lib out, lib.Widens out → P lib → P out

theorem enduring_has (id : Nat) : Enduring (Library.Has id) := by
  rintro lib out hw ⟨d, hd⟩
  obtain ⟨e, he, -⟩ := hw.exists_decl? hd
  exact ⟨e, he⟩

namespace Declaring

variable {m : Build α} {Q Q' : α → Library → Prop} {R : β → Library → Prop}

theorem pure {a : α} (hQ : ∀ lib, P lib → Q a lib) :
    Declaring h root P [] (Pure.pure a : Build α) Q := by
  intro lib b out hapart hP hrun
  cases hrun
  exact ⟨.refl hapart, hQ lib hP⟩

theorem throw (f : Fault) : Declaring h root P declared (MonadExcept.throw f : Build α) Q := by
  intro lib b out _ _ hrun
  cases hrun

theorem bind {f : α → Build β} (hm : Declaring h root P declared m Q)
    (hf : ∀ a, Declaring h root (Q a) declared' (f a) R) :
    Declaring h root P (declared ++ declared') (m >>= f) R := by
  intro lib b out hapart hP hrun
  obtain ⟨a, mid, hfirst, hrest⟩ := exists_of_outcomeOf_bind hrun
  obtain ⟨hdeclares, hQ⟩ := hm lib a mid hapart hP hfirst
  obtain ⟨hdeclares', hR⟩ := hf a mid b out hdeclares.apart hQ hrest
  exact ⟨hdeclares.trans hdeclares', hR⟩

/-- A step behind one that declares nothing. -/
theorem behind {f : α → Build β} (hm : Declaring h root P [] m Q)
    (hf : ∀ a, Declaring h root (Q a) declared (f a) R) : Declaring h root P declared (m >>= f) R :=
  hm.bind hf

/-- A step before one that declares nothing. -/
theorem before {f : α → Build β} (hm : Declaring h root P declared m Q)
    (hf : ∀ a, Declaring h root (Q a) [] (f a) R) : Declaring h root P declared (m >>= f) R := by
  have hbind := hm.bind hf
  rwa [List.append_nil] at hbind

theorem mono (hm : Declaring h root P declared m Q) (hP : ∀ lib, P' lib → P lib)
    (hQ : ∀ a lib, Q a lib → Q' a lib) : Declaring h root P' declared m Q' := by
  intro lib a out hapart hlib hrun
  obtain ⟨hdeclares, hpost⟩ := hm lib a out hapart (hP lib hlib) hrun
  exact ⟨hdeclares, hQ a out hpost⟩

/-- What a step relies on still holds behind it if it endures. -/
theorem keep (hP : Enduring P) (hm : Declaring h root P declared m Q) :
    Declaring h root P declared m fun a lib => P lib ∧ Q a lib := by
  intro lib a out hapart hlib hrun
  obtain ⟨hdeclares, hQ⟩ := hm lib a out hapart hlib hrun
  exact ⟨hdeclares, hP lib out hdeclares.widens hlib, hQ⟩

/-- A step behind one of which nothing is known but what it declares. -/
theorem andThen {f : α → Build β} (hP : Enduring P)
    (hm : Declaring h root P declared m fun _ _ => True)
    (hf : ∀ a, Declaring h root P declared' (f a) R) :
    Declaring h root P (declared ++ declared') (m >>= f) R :=
  (hm.keep hP).bind fun a => (hf a).mono (fun _ hlib => hlib.1) fun _ _ hR => hR

theorem forM {l : List α} {f : α → Build PUnit} {s : α → List Declared} (hP : Enduring P)
    (hf : ∀ a ∈ l, Declaring h root P (s a) (f a) fun _ _ => True) :
    Declaring h root P (l.flatMap s) (l.forM f) fun _ _ => True := by
  induction l with
  | nil => exact pure fun _ _ => trivial
  | cons a l ih =>
    exact (hf a (List.mem_cons_self ..)).andThen hP fun _ =>
      ih fun x hx => hf x (List.mem_cons_of_mem _ hx)

/-- Steps none of which declares anything. -/
theorem forM_spares {l : List α} {f : α → Build PUnit} (hP : Enduring P)
    (hf : ∀ a ∈ l, Declaring h root P [] (f a) fun _ _ => True) :
    Declaring h root P [] (l.forM f) fun _ _ => True := by
  have hall := forM hP hf
  rwa [List.flatMap_eq_nil_iff.2 fun _ _ => rfl] at hall

theorem foldlM_spares {l : List α} {f : β → α → Build β} (hP : Enduring P)
    (hf : ∀ b, ∀ a ∈ l, Declaring h root P [] (f b a) fun _ _ => True) (b : β) :
    Declaring h root P [] (l.foldlM f b) fun _ _ => True := by
  induction l generalizing b with
  | nil => exact pure fun _ _ => trivial
  | cons a l ih =>
    rw [List.foldlM_cons]
    exact (hf b a (List.mem_cons_self ..)).andThen hP fun c =>
      ih (fun b x hx => hf b x (List.mem_cons_of_mem _ hx)) c

/-- A step that only looks at the library. -/
theorem look (hsame : ∀ lib, (outcomeOf m lib).2 = lib) :
    Declaring h root P [] m fun a lib => P lib ∧ outcomeOf m lib = (.ok a, lib) := by
  intro lib a out hapart hP hrun
  obtain rfl : lib = out := by rw [← hsame lib, hrun]
  exact ⟨.refl hapart, hP, hrun⟩

theorem of_same (hsame : ∀ lib, (outcomeOf m lib).2 = lib) :
    Declaring h root P [] m fun _ lib => P lib :=
  (look hsame).mono (fun _ hP => hP) fun _ _ hQ => hQ.1

/-- A step that relies on something that is no matter of the library. -/
theorem assume {p : Prop} (hm : p → Declaring h root P declared m Q) :
    Declaring h root (fun lib => P lib ∧ p) declared m Q :=
  fun lib a out hapart hP hrun => hm hP.2 lib a out hapart hP.1 hrun

end Declaring

end Bindery
