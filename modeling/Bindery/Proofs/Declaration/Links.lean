import Bindery.Proofs.Declaration.Slots
import Mathlib.Logic.Relation

/-!
# Following links to definitions

A class may refer to another declaration as the one that completes it. Nothing keeps such links from
forming long chains or circles, or from leading to numbers under which nothing is registered. From
every class they are followed to an end all the same, because every step but the last adds a number
to those met so far and only finitely many have been given out. Following them once more from that
end leads nowhere else: where links run into a circle, the end is the first declaration of the
circle that is met, and going round from there comes back to it.
-/

namespace Bindery

open Relation

/-- The number of the declaration that is to complete a class. -/
def Decl.link? (d : Decl) : Option Nat :=
  d.body.record?.bind (·.definition)

namespace Library

/-- Registered declarations are kept under their own numbers. -/
def Keyed (lib : Library) : Prop :=
  ∀ id d, lib.registered? id = some d → d.id = id

/-- The declaration of a number has a link to another number. -/
def Linked (lib : Library) (a b : Nat) : Prop :=
  ∃ d, lib.registered? a = some d ∧ d.link? = some b

/-- What the link of a declaration leads to. -/
def next? (lib : Library) (d : Decl) : Option (Except GraphFault Decl) :=
  d.link?.map lib.get

/-- How links are followed from a declaration when some numbers have been met, without a bound on
the steps. -/
inductive Follows (lib : Library) : List Nat → Decl → Except GraphFault Decl → Prop
  | unlinked {seen : List Nat} {d : Decl} (next : lib.next? d = none) : Follows lib seen d (.ok d)
  | missing {seen : List Nat} {d : Decl} {f : GraphFault} (next : lib.next? d = some (.error f)) :
      Follows lib seen d (.error f)
  | met {seen : List Nat} {d e : Decl} (next : lib.next? d = some (.ok e)) (known : e.id ∈ seen) :
      Follows lib seen d (.ok e)
  | further {seen : List Nat} {d e : Decl} {outcome : Except GraphFault Decl}
      (next : lib.next? d = some (.ok e)) (new : e.id ∉ seen)
      (rest : Follows lib (e.id :: seen) e outcome) : Follows lib seen d outcome

/-- How the declaration behind a number is found, without a bound on the steps. -/
inductive Resolves (lib : Library) (id : Nat) : Except GraphFault Decl → Prop
  | missing {f : GraphFault} (found : lib.get id = .error f) : Resolves lib id (.error f)
  | found {d : Decl} {outcome : Except GraphFault Decl} (found : lib.get id = .ok d)
      (rest : lib.Follows [d.id] d outcome) : Resolves lib id outcome

variable {lib : Library}

/-! ### Lookups -/

theorem get_eq_ok_iff {id : Nat} {d : Decl} : lib.get id = .ok d ↔ lib.registered? id = some d := by
  unfold get
  cases lib.registered? id with
  | none => exact ⟨nofun, nofun⟩
  | some e => exact ⟨fun h => by cases h; rfl, fun h => by cases h; rfl⟩

theorem get_eq_error_iff {id : Nat} {f : GraphFault} :
    lib.get id = .error f ↔ lib.contains id = false ∧ f = .missing (toString id) := by
  rw [contains_eq_isSome]
  unfold get
  cases lib.registered? id with
  | none => exact ⟨fun h => by cases h; exact ⟨rfl, rfl⟩, fun h => by rw [h.2]⟩
  | some e => exact ⟨nofun, fun h => by cases h.1⟩

/-! ### Following ends -/

/-- Following comes to one end at most. -/
theorem Follows.unique {seen : List Nat} {d : Decl} {r r' : Except GraphFault Decl}
    (h : lib.Follows seen d r) (h' : lib.Follows seen d r') : r = r' := by
  induction h with
  | unlinked next =>
    cases h' with
    | unlinked => rfl
    | missing next' | met next' | further next' => cases next.symm.trans next'
  | missing next =>
    cases h' with
    | missing next' =>
      cases next.symm.trans next'
      rfl
    | unlinked next' | met next' | further next' => cases next.symm.trans next'
  | met next known =>
    cases h' with
    | unlinked next' | missing next' => cases next.symm.trans next'
    | met next' =>
      cases next.symm.trans next'
      rfl
    | further next' new =>
      cases next.symm.trans next'
      exact absurd known new
  | further next new _ ih =>
    cases h' with
    | unlinked next' | missing next' => cases next.symm.trans next'
    | met next' known =>
      cases next.symm.trans next'
      exact absurd known new
    | further next' _ rest =>
      cases next.symm.trans next'
      exact ih rest

theorem resolveFrom_succ (lib : Library) (steps : Nat) (seen : List Nat) (d : Decl) :
    lib.resolveFrom (steps + 1) seen d =
      match lib.next? d with
      | none => .ok d
      | some (.error f) => .error f
      | some (.ok e) => if e.id ∈ seen then .ok e else lib.resolveFrom steps (e.id :: seen) e := by
  rw [resolveFrom]
  unfold next? Decl.link?
  cases d.body.record?.bind (·.definition) with
  | none => rfl
  | some target =>
    dsimp only [Option.map_some]
    cases lib.get target with
    | error f => rfl
    | ok e => exact if_congr List.contains_iff_mem rfl rfl

theorem registered?_of_next? {d e : Decl} (hkeyed : lib.Keyed) (h : lib.next? d = some (.ok e)) :
    d.link? = some e.id ∧ lib.registered? e.id = some e := by
  unfold next? at h
  obtain ⟨target, hlink, hfound⟩ := Option.map_eq_some_iff.1 h
  have hreg := get_eq_ok_iff.1 hfound
  rw [hkeyed target e hreg]
  exact ⟨hlink, hreg⟩

/-- As many steps as there are numbers that have not been met are enough. -/
theorem follows_resolveFrom (hkeyed : lib.Keyed) {steps : Nat} {seen : List Nat} {d : Decl}
    (hnodup : seen.Nodup) (hseen : ∀ id ∈ seen, id < lib.created)
    (hsteps : lib.created < steps + seen.length) :
    lib.Follows seen d (lib.resolveFrom steps seen d) := by
  induction steps generalizing seen d with
  | zero =>
    have hle := length_le_created hnodup hseen
    omega
  | succ steps ih =>
    rw [resolveFrom_succ]
    cases hnext : lib.next? d with
    | none => exact .unlinked hnext
    | some found =>
      cases found with
      | error f => exact .missing hnext
      | ok e =>
        dsimp only
        split_ifs with hknown
        · exact .met hnext hknown
        · have hreg := (registered?_of_next? hkeyed hnext).2
          refine .further hnext hknown (ih (List.nodup_cons.2 ⟨hknown, hnodup⟩) ?_ ?_)
          · rintro id (_ | ⟨_, hid⟩)
            · exact lt_created_of_decl? (decl?_of_registered? hreg)
            · exact hseen id hid
          · rw [List.length_cons]
            omega

theorem resolves_resolve (hkeyed : lib.Keyed) (id : Nat) : lib.Resolves id (lib.resolve id) := by
  unfold resolve
  cases hfound : lib.get id with
  | error f => exact .missing hfound
  | ok d =>
    have hreg := get_eq_ok_iff.1 hfound
    refine .found hfound (follows_resolveFrom hkeyed (List.nodup_singleton _) ?_ ?_)
    · rintro k (_ | ⟨_, ⟨⟩⟩)
      rw [hkeyed id d hreg]
      exact lt_created_of_decl? (decl?_of_registered? hreg)
    · rw [List.length_singleton]
      omega

theorem Resolves.unique {id : Nat} {r r' : Except GraphFault Decl} (h : lib.Resolves id r)
    (h' : lib.Resolves id r') : r = r' := by
  cases h with
  | missing found =>
    cases h' with
    | missing found' =>
      cases found.symm.trans found'
      rfl
    | found found' => cases found.symm.trans found'
  | found found rest =>
    cases h' with
    | missing found' => cases found.symm.trans found'
    | found found' rest' =>
      cases found.symm.trans found'
      exact rest.unique rest'

/-! ### Ways along links -/

/-- A way along links from a declaration to another one on which no number is met twice. The
numbers on it are listed from its end. -/
inductive Way (lib : Library) (first : Decl) : List Nat → Decl → Prop
  | start : Way lib first [first.id] first
  | step {seen : List Nat} {d e : Decl} (way : Way lib first seen d)
      (next : lib.next? d = some (.ok e)) (new : e.id ∉ seen) : Way lib first (e.id :: seen) e

section Ways

variable {first d : Decl} {seen : List Nat}

/-- Following links goes along every way. -/
theorem Way.follows (hway : lib.Way first seen d) {outcome : Except GraphFault Decl}
    (h : lib.Follows seen d outcome) : lib.Follows [first.id] first outcome := by
  induction hway with
  | start => exact h
  | step _ next new ih => exact ih (.further next new h)

/-- Following links stops behind a way: at a declaration without a link, at a number that is not
registered, or at a declaration that is on the way already. -/
theorem Follows.way {outcome : Except GraphFault Decl} (h : lib.Follows seen d outcome)
    (hway : lib.Way first seen d) : ∃ (later : List Nat) (last : Decl), lib.Way first later last ∧
      ((lib.next? last = none ∧ outcome = .ok last) ∨
        (∃ f, lib.next? last = some (.error f) ∧ outcome = .error f) ∨
        ∃ e, lib.next? last = some (.ok e) ∧ e.id ∈ later ∧ outcome = .ok e) := by
  induction h with
  | unlinked next => exact ⟨_, _, hway, .inl ⟨next, rfl⟩⟩
  | missing next => exact ⟨_, _, hway, .inr (.inl ⟨_, next, rfl⟩)⟩
  | met next known => exact ⟨_, _, hway, .inr (.inr ⟨_, next, known, rfl⟩)⟩
  | further next new _ ih => exact ih (.step hway next new)

variable (hkeyed : lib.Keyed) (hfirst : lib.registered? first.id = some first)
include hkeyed hfirst

theorem Way.registered? (hway : lib.Way first seen d) : lib.registered? d.id = some d := by
  cases hway with
  | start => exact hfirst
  | step _ next _ => exact (registered?_of_next? hkeyed next).2

theorem Way.reaches (hway : lib.Way first seen d) : ReflTransGen lib.Linked first.id d.id := by
  induction hway with
  | start => exact .refl
  | step way next _ ih =>
    exact ih.tail ⟨_, way.registered? hkeyed hfirst, (registered?_of_next? hkeyed next).1⟩

/-- Every way can be entered where it passes. -/
theorem Way.enter (hway : lib.Way first seen d) {e : Decl} (he : lib.registered? e.id = some e)
    (hmem : e.id ∈ seen) :
    ∃ later, e.id ∈ later ∧ lib.Way e later d ∧ ∀ k ∈ later, k ∈ seen := by
  have hsame : ∀ {c : Decl}, lib.registered? c.id = some c → e.id = c.id → e = c := by
    intro c hc heq
    rw [← heq, he] at hc
    exact Option.some.inj hc
  induction hway with
  | start =>
    obtain rfl := hsame hfirst (List.mem_singleton.1 hmem)
    exact ⟨_, hmem, .start, fun _ hk => hk⟩
  | @step seen d c way next new ih =>
    rcases List.mem_cons.1 hmem with heq | hmem
    · obtain rfl := hsame (registered?_of_next? hkeyed next).2 heq
      exact ⟨[e.id], List.mem_singleton_self _, .start,
        fun k hk => List.mem_cons.2 (.inl (List.mem_singleton.1 hk))⟩
    · obtain ⟨later, hlater, hway', hsub⟩ := ih hmem
      exact ⟨c.id :: later, List.mem_cons_of_mem _ hlater,
        .step hway' next fun hold => new (hsub _ hold),
        fun k hk => List.mem_cons.2 ((List.mem_cons.1 hk).imp_right (hsub k))⟩

end Ways

/-! ### Ends of links -/

/-- A number has one link at most. -/
theorem Linked.unique {a b c : Nat} (h : lib.Linked a b) (h' : lib.Linked a c) : b = c := by
  obtain ⟨d, hd, hb⟩ := h
  obtain ⟨d', hd', hc⟩ := h'
  cases hd.symm.trans hd'
  exact Option.some.inj (hb.symm.trans hc)

theorem Linked.contains {a b : Nat} (h : lib.Linked a b) : lib.contains a = true := by
  obtain ⟨d, hd, -⟩ := h
  rw [contains_eq_isSome, hd]
  rfl

/-- A number from which links lead nowhere reaches itself alone. -/
theorem eq_of_reaches {a b : Nat} (ha : ∀ x, ¬ lib.Linked a x)
    (h : ReflTransGen lib.Linked a b) : a = b := by
  rcases h.cases_head with rfl | ⟨x, hx, -⟩
  · rfl
  · exact absurd hx (ha x)

/-- From a circle links lead to no number outside of it. -/
theorem reaches_back {a b : Nat} (hcircle : TransGen lib.Linked a a)
    (h : ReflTransGen lib.Linked a b) : ReflTransGen lib.Linked b a := by
  induction h with
  | refl => exact .refl
  | tail _ hlink ih =>
    rcases ih.cases_head with rfl | ⟨x, hx, hback⟩
    · obtain ⟨x, hx, hback⟩ := TransGen.head'_iff.1 hcircle
      rwa [hlink.unique hx]
    · rwa [hlink.unique hx]

/-- Where links come to a number without a link, they come to no other end. -/
theorem eq_of_reaches_end {a b c : Nat} (hb : ReflTransGen lib.Linked a b)
    (hstop : ∀ x, ¬ lib.Linked b x) (hc : ReflTransGen lib.Linked a c)
    (hend : (∀ x, ¬ lib.Linked c x) ∨ TransGen lib.Linked c c) : b = c := by
  have hright : Relator.RightUnique lib.Linked := fun _ _ _ h h' => Linked.unique h h'
  rcases ReflTransGen.total_of_right_unique hright hb hc with hbc | hcb
  · exact eq_of_reaches hstop hbc
  · rcases hend with hplain | hcircle
    · exact (eq_of_reaches hplain hcb).symm
    · exact eq_of_reaches hstop (reaches_back hcircle hcb)

theorem not_linked_of_missing {id : Nat} (h : lib.contains id = false) (x : Nat) :
    ¬ lib.Linked id x := by
  intro hlink
  cases h.symm.trans hlink.contains

section Outcomes

variable (hkeyed : lib.Keyed) {id : Nat}
include hkeyed

/-- What a number resolves to is at the end of its links: following them once more stays there, and
if there is still a link, it belongs to a circle. -/
theorem Resolves.ends {r : Decl} (h : lib.Resolves id (.ok r)) :
    lib.registered? r.id = some r ∧ ReflTransGen lib.Linked id r.id ∧ lib.Resolves r.id (.ok r) ∧
      (r.link? = none ∨ TransGen lib.Linked r.id r.id) := by
  cases h with
  | @found first _ found rest =>
    have hreg := get_eq_ok_iff.1 found
    obtain rfl : first.id = id := hkeyed _ _ hreg
    obtain ⟨seen, d, hway, hend⟩ := rest.way .start
    have hd := hway.registered? hkeyed hreg
    have hreaches := hway.reaches hkeyed hreg
    rcases hend with ⟨hplain, hr⟩ | ⟨f, -, hr⟩ | ⟨e, hnext, hknown, hr⟩
    · cases hr
      exact ⟨hd, hreaches, .found (get_eq_ok_iff.2 hd) (.unlinked hplain),
        .inl (Option.map_eq_none_iff.1 hplain)⟩
    · cases hr
    · cases hr
      -- The links run into a circle: it is entered at `r`, and from there the way goes round.
      obtain ⟨hlink, hr⟩ := registered?_of_next? hkeyed hnext
      have hlast : lib.Linked d.id r.id := ⟨d, hd, hlink⟩
      obtain ⟨later, hlater, hround, -⟩ := hway.enter hkeyed hreg hr hknown
      exact ⟨hr, hreaches.tail hlast,
        .found (get_eq_ok_iff.2 hr) (hround.follows (.met hnext hlater)),
        .inr (TransGen.tail' (hround.reaches hkeyed hr) hlast)⟩

/-- A lookup fails at the number that links come to. -/
theorem Resolves.fails {f : GraphFault} (h : lib.Resolves id (.error f)) :
    ∃ target, ReflTransGen lib.Linked id target ∧ lib.contains target = false ∧
      f = .missing (toString target) := by
  cases h with
  | missing found => exact ⟨id, .refl, get_eq_error_iff.1 found⟩
  | @found first _ found rest =>
    have hreg := get_eq_ok_iff.1 found
    obtain rfl : first.id = id := hkeyed _ _ hreg
    obtain ⟨seen, d, hway, hend⟩ := rest.way .start
    rcases hend with ⟨-, hr⟩ | ⟨g, hnext, hr⟩ | ⟨e, -, -, hr⟩
    · cases hr
    · cases hr
      obtain ⟨target, hlink, hfound⟩ := Option.map_eq_some_iff.1 hnext
      exact ⟨target, (hway.reaches hkeyed hreg).tail ⟨d, hway.registered? hkeyed hreg, hlink⟩,
        get_eq_error_iff.1 hfound⟩
    · cases hr

end Outcomes

/-- Links are followed to an end from every number, however they run. What they lead to leads to
itself again, and where it has a link, it lies on a circle; a lookup fails exactly where links reach
a number under which nothing is registered. -/
theorem resolve_follows_every_link (hkeyed : lib.Keyed) (id : Nat) :
    (∀ outcome, lib.Resolves id outcome ↔ outcome = lib.resolve id) ∧
    (∀ r, lib.resolve id = .ok r →
      ReflTransGen lib.Linked id r.id ∧ lib.resolve r.id = .ok r ∧
        (r.link? ≠ none → TransGen lib.Linked r.id r.id)) ∧
    (∀ f, lib.resolve id = .error f ↔ ∃ target, ReflTransGen lib.Linked id target ∧
      lib.contains target = false ∧ f = .missing (toString target)) ∧
    ∀ f, lib.resolve id = .error f → f.label = "KeyError" := by
  have hends : ∀ k, lib.Resolves k (lib.resolve k) := resolves_resolve hkeyed
  have hfails : ∀ f, lib.resolve id = .error f → ∃ target, ReflTransGen lib.Linked id target ∧
      lib.contains target = false ∧ f = .missing (toString target) := by
    intro f hf
    exact Resolves.fails hkeyed (hf ▸ hends id)
  refine ⟨fun outcome => ⟨fun h => h.unique (hends id), fun h => h ▸ hends id⟩, ?_,
    fun f => ⟨hfails f, ?_⟩, ?_⟩
  · intro r hr
    obtain ⟨-, hreaches, hagain, hend⟩ := Resolves.ends hkeyed (hr ▸ hends id)
    exact ⟨hreaches, (hends r.id).unique hagain, fun hlink => hend.resolve_left hlink⟩
  · rintro ⟨target, hreaches, hmissing, rfl⟩
    have hstop := not_linked_of_missing hmissing
    cases hr : lib.resolve id with
    | error g =>
      obtain ⟨other, hother, hgone, rfl⟩ := hfails g hr
      rw [eq_of_reaches_end hreaches hstop hother (.inl (not_linked_of_missing hgone))]
    | ok r =>
      obtain ⟨hreg, hreaches', -, hend⟩ := Resolves.ends hkeyed (hr ▸ hends id)
      have hend' : (∀ x, ¬ lib.Linked r.id x) ∨ TransGen lib.Linked r.id r.id := by
        refine hend.imp_left fun hplain x hx => ?_
        obtain ⟨d, hd, hlink⟩ := hx
        cases hreg.symm.trans hd
        cases hplain.symm.trans hlink
      have hsame := eq_of_reaches_end hreaches hstop hreaches' hend'
      rw [hsame, contains_eq_isSome, hreg] at hmissing
      cases hmissing
  · intro f hf
    obtain ⟨target, -, -, rfl⟩ := hfails f hf
    rfl

/-! ### Classes with given links -/

/-- Classes that are numbered in a row and have given links. -/
def linkedClasses (links : List (Option Nat)) : Library :=
  { empty .null .null with
    slots := links.mapIdx fun id link => ⟨.blank id none (.record
      { incomplete := true, isStruct := false, isUnion := false, valueType := false, bases := []
        fields := [], methods := [], classes := [], enums := [], definition := link }), true⟩ }

/-- There are classes with every graph of links. -/
theorem linkedClasses_keyed (links : List (Option Nat)) :
    (linkedClasses links).Keyed ∧
      ∀ a b, (linkedClasses links).Linked a b ↔ links[a]? = some (some b) := by
  have hreg : ∀ id, (linkedClasses links).registered? id = links[id]?.map fun link =>
      .blank id none (.record
        { incomplete := true, isStruct := false, isUnion := false, valueType := false, bases := []
          fields := [], methods := [], classes := [], enums := [], definition := link }) := by
    intro id
    unfold registered? linkedClasses
    rw [List.getElem?_mapIdx]
    cases links[id]? <;> rfl
  constructor
  · intro id d hd
    rw [hreg] at hd
    obtain ⟨link, -, rfl⟩ := Option.map_eq_some_iff.1 hd
    rfl
  · intro a b
    unfold Linked
    rw [hreg]
    cases links[a]? with
    | none =>
      constructor
      · rintro ⟨d, hd, -⟩
        cases hd
      · nofun
    | some link =>
      constructor
      · rintro ⟨d, ⟨⟩, hb⟩
        exact congrArg some hb
      · intro h
        exact ⟨_, rfl, Option.some.inj h⟩

/-- A chain that leads into a circle, a link to a number that was not given out, and a class with
one that refers to it. -/
def tangled : Library :=
  linkedClasses [some 1, some 2, some 3, some 1, some 9, none, some 5]

theorem resolve_follows_every_link_tangled :
    tangled.Keyed ∧
    (List.range 8).map (fun id => (tangled.resolve id).toOption.map (·.id)) =
      [some 1, some 1, some 2, some 3, none, some 5, some 5, none] ∧
    TransGen tangled.Linked 1 1 ∧
    ∃ target, ReflTransGen tangled.Linked 4 target ∧ tangled.contains target = false := by
  have hkeyed : tangled.Keyed := (linkedClasses_keyed _).1
  refine ⟨hkeyed, by decide, ?_, ?_⟩
  · obtain ⟨-, hfound, -⟩ := resolve_follows_every_link hkeyed 0
    exact (hfound _ rfl).2.2 (by decide)
  · obtain ⟨-, -, hfails, -⟩ := resolve_follows_every_link hkeyed 4
    obtain ⟨target, hreaches, hmissing, -⟩ := (hfails _).1 rfl
    exact ⟨target, hreaches, hmissing⟩

end Library

end Bindery
