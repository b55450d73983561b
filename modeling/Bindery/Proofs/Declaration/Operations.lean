import Bindery.Proofs.Declaration.Creation
import Bindery.Proofs.Declaration.Removal
import Mathlib.Logic.Relation

/-!
# Operations one after the other

However often declarations are created, listed as units, taken out, renamed, sorted and given up, a
library stays coherent: what can be reached from a unit is registered, is met once, and names the
declaration that lists it as its scope. Numbers are given out once, also those of declarations that
were given up or that no declaration took in.
-/

namespace Bindery.Library

variable {lib mid out : Library}

/-- One operation on a library and what it leaves, whether it is refused or not. -/
inductive Step (lib : Library) : Library → Prop where
  /-- A new declaration of any form, with any attributes, in one that is registered or in none. -/
  | create {form : Form} {parent : Option Nat} {attributes : Fields}
    {given : List (String × Content)} {d : Decl}
    (scope : ∀ p, parent = some p → lib.contains p = true)
    (accepted : form.given attributes = .ok given)
    (made : lib.newDecl? form parent given = some d) :
    Step lib (outcomeOf (Edit.create d.body parent fun _ => d) lib).2
  /-- A unit is listed that is in no scope and not listed yet. -/
  | addUnit {id : Nat} {d : Decl} (found : lib.decl? id = some d) (form : d.body.form = .unit)
    (root : d.parent = none) (unlisted : id ∉ lib.units) :
    Step lib (outcomeOf (Edit.addUnit id) lib).2
  /-- A declaration is taken out of its scope. -/
  | remove (id : Nat) : Step lib (outcomeOf (Edit.remove id) lib).2
  /-- A declaration gets another name. -/
  | rename (id : Nat) (name : String) : Step lib (outcomeOf (Edit.rename id name) lib).2
  /-- The classes of all units are sorted. -/
  | sort : Step lib (outcomeOf Edit.sort lib).2
  /-- What is in no scope and not listed is given up with all below it. -/
  | discard {id : Nat} {d : Decl} (found : lib.decl? id = some d) (root : d.parent = none)
    (unlisted : id ∉ lib.units) : Step lib (outcomeOf (Edit.discard id) lib).2

/-- Any number of operations, one after the other. -/
def Run : Library → Library → Prop :=
  Relation.ReflTransGen Step

/-- What was created keeps its number, its place in the order, its scope and its form, and what was
given up stays so. -/
structure Keeps (lib out : Library) : Prop where
  /-- Numbers are only ever added. -/
  created : lib.created ≤ out.created
  /-- Declarations stay under their numbers. -/
  decl : ∀ id d, lib.decl? id = some d → ∃ e, out.decl? id = some e ∧ e.id = d.id ∧
    e.order = d.order ∧ e.parent = d.parent ∧ e.body.form = d.body.form
  /-- No number is registered again. -/
  contains : ∀ id < lib.created, out.contains id = true → lib.contains id = true

namespace Keeps

theorem refl (lib : Library) : lib.Keeps lib :=
  ⟨Nat.le_refl _, fun _ d hd => ⟨d, hd, rfl, rfl, rfl, rfl⟩, fun _ _ hc => hc⟩

theorem trans (h : lib.Keeps mid) (h' : mid.Keeps out) : lib.Keeps out where
  created := Nat.le_trans h.created h'.created
  decl := by
    intro id d hd
    obtain ⟨e, he, hid, horder, hparent, hform⟩ := h.decl id d hd
    obtain ⟨f, hf, hid', horder', hparent', hform'⟩ := h'.decl id e he
    exact ⟨f, hf, hid'.trans hid, horder'.trans horder, hparent'.trans hparent,
      hform'.trans hform⟩
  contains := by
    intro id hid hc
    exact h.contains id hid (h'.contains id (Nat.lt_of_lt_of_le hid h.created) hc)

end Keeps

/-- Changes that leave declarations in their places, and with them what is registered. -/
theorem Keeps.of_matches {R : Decl → Decl → Prop} (hm : lib.Matches R out)
    (hR : ∀ d e, R d e → e.id = d.id ∧ e.order = d.order ∧ e.parent = d.parent ∧
      e.body.form = d.body.form) : lib.Keeps out where
  created := Nat.le_of_eq hm.created.symm
  decl := by
    intro id d hd
    obtain ⟨e, he, hde⟩ := hm.exists_of_decl? hd
    exact ⟨e, he, hR d e hde⟩
  contains := by
    intro id _ hc
    rw [contains_eq_isSome] at hc ⊢
    obtain ⟨e, he⟩ := Option.isSome_iff_exists.1 hc
    obtain ⟨d, hd, -⟩ := hm.exists_of_registered?_out he
    rw [hd]
    rfl

theorem Keeps.of_narrows (hm : lib.Matches Decl.Narrows out) : lib.Keeps out :=
  .of_matches hm fun _ _ hde => ⟨hde.id, hde.order, hde.parent, hde.form⟩

theorem Keeps.append (lib : Library) (d : Decl) : lib.Keeps (lib.append d) where
  created := by
    rw [created_append]
    exact Nat.le_succ _
  decl := by
    intro id e he
    have hlt := lt_created_of_decl? he
    exact ⟨e, by rw [decl?_append, if_neg (Nat.ne_of_lt hlt), he], rfl, rfl, rfl, rfl⟩
  contains := by
    intro id hid hc
    rw [contains_eq_isSome, registered?_append, if_neg (Nat.ne_of_lt hid)] at hc
    rwa [contains_eq_isSome]

/-- Putting something on the lists of a declaration. -/
theorem Keeps.update {p : Nat} {o : Decl} {b : Body} (ho : lib.decl? p = some o)
    (hform : b.form = o.body.form) : lib.Keeps (lib.update p fun o => { o with body := b }) := by
  refine .of_matches (matches_update (fun _ => ⟨rfl, rfl, rfl, rfl⟩) fun d hd => ?_)
    fun _ _ hde => hde
  rw [ho] at hd
  cases hd
  exact ⟨rfl, rfl, rfl, hform⟩

theorem Keeps.discard (lib : Library) (id : Nat) : lib.Keeps (lib.discard id) where
  created := by
    unfold Library.created Library.discard
    rw [List.length_mapIdx]
  decl := fun k d hd => ⟨d, by rw [decl?_discard, hd], rfl, rfl, rfl, rfl⟩
  contains := by
    intro k _ hc
    rw [contains_eq_isSome, registered?_discard] at hc
    rw [contains_eq_isSome]
    split_ifs at hc
    · cases hc
    · exact hc

/-! ### Creating -/

/-- A declaration that is created, whether another one takes it in, refuses it, or is not asked. -/
theorem create_cases {form : Form} {parent : Option Nat} {attributes : Fields}
    {given : List (String × Content)} {d : Decl}
    (scope : ∀ p, parent = some p → lib.contains p = true)
    (accepted : form.given attributes = .ok given) (made : lib.newDecl? form parent given = some d) :
    (outcomeOf (Edit.create d.body parent fun _ => d) lib).2 = lib.append d ∨
      ∃ p o b, d.parent = some p ∧ lib.decl? p = some o ∧
        o.body.insert? d.body lib.created = some b ∧
        outcomeOf (Edit.create d.body parent fun _ => d) lib =
          (.ok lib.created, (lib.append d).update p fun o => { o with body := b }) := by
  obtain ⟨-, -, hparent, -, -⟩ := newDecl?_fresh accepted made
  cases parent with
  | none => exact .inl (congrArg Prod.snd (Edit.outcomeOf_create_none rfl))
  | some p =>
    have hreg := scope p rfl
    rw [contains_eq_isSome] at hreg
    obtain ⟨o, hr⟩ := Option.isSome_iff_exists.1 hreg
    have ho := decl?_of_registered? hr
    have hout := Edit.outcomeOf_create d.body (fun _ => d) ho rfl
    cases hb : o.body.insert? d.body lib.created with
    | none =>
      rw [hb] at hout
      exact .inl (congrArg Prod.snd hout)
    | some b =>
      rw [hb] at hout
      exact .inr ⟨p, o, b, hparent, ho, hb, hout⟩

/-- What is created has the next number, which nothing had before. -/
theorem created_of_create {form : Form} {parent : Option Nat} {attributes : Fields}
    {given : List (String × Content)} {d : Decl}
    (scope : ∀ p, parent = some p → lib.contains p = true)
    (accepted : form.given attributes = .ok given) (made : lib.newDecl? form parent given = some d) :
    (outcomeOf (Edit.create d.body parent fun _ => d) lib).2.created = lib.created + 1 ∧
      (outcomeOf (Edit.create d.body parent fun _ => d) lib).2.registered? lib.created = some d := by
  rcases create_cases scope accepted made with hout | ⟨p, o, b, -, ho, -, hout⟩ <;> rw [hout]
  · exact ⟨created_append .., by rw [registered?_append, if_pos rfl]⟩
  · have hlt : p ≠ lib.created := Nat.ne_of_lt (lt_created_of_decl? ho)
    refine ⟨by rw [created_update, created_append], ?_⟩
    rw [registered?_update_of_ne _ hlt, registered?_append, if_pos rfl]

/-- A unit is listed behind the others if it is registered, and is refused otherwise. -/
theorem outcomeOf_addUnit (lib : Library) (id : Nat) :
    if lib.contains id = true then
      outcomeOf (Edit.addUnit id) lib = (.ok (), { lib with units := lib.units ++ [id] })
    else ∃ f, outcomeOf (Edit.addUnit id) lib = (.error f, lib) := by
  unfold Edit.addUnit
  rw [outcomeOf_bind_ok (outcomeOf_get lib)]
  split_ifs with hc
  · rfl
  · cases hd : lib.decl? id with
    | none => exact ⟨_, rfl⟩
    | some d => cases hb : d.body <;> simp only [hb] <;> exact ⟨_, rfl⟩

/-! ### Steps and runs -/

/-- An operation leaves a coherent library coherent and gives no number out twice. -/
theorem Step.coherent (h : lib.Coherent) (hs : lib.Step out) : out.Coherent ∧ lib.Keeps out := by
  cases hs with
  | @create form parent attributes given d scope accepted made =>
    obtain ⟨hid, horder, hparent, -, hempty⟩ := newDecl?_fresh accepted made
    rcases create_cases scope accepted made with hout | ⟨p, o, b, hp, ho, hb, hout⟩ <;> rw [hout]
    · have hbefore : ∀ p, d.parent = some p → p < lib.created := by
        intro p hp
        have hreg := scope p (hparent.symm.trans hp)
        rw [contains_eq_isSome] at hreg
        obtain ⟨o, ho⟩ := Option.isSome_iff_exists.1 hreg
        exact lt_created_of_decl? (decl?_of_registered? ho)
      exact ⟨h.append hid horder hbefore hempty, .append lib d⟩
    · obtain ⟨list, -, hform, -⟩ := Body.insert?_eq_some hb
      have howner : (lib.append d).decl? p = some o := by
        rw [decl?_append, if_neg (Nat.ne_of_lt (lt_created_of_decl? ho)), ho]
      exact ⟨h.insert ho hb hid horder hp hempty, (Keeps.append lib d).trans (.update howner hform)⟩
  | @addUnit id d found form root unlisted =>
    have hout := outcomeOf_addUnit lib id
    split_ifs at hout with hc
    · rw [hout]
      rw [contains_eq_isSome] at hc
      obtain ⟨e, he⟩ := Option.isSome_iff_exists.1 hc
      have hsame := decl?_of_registered? he
      rw [found] at hsame
      cases hsame
      exact ⟨h.addUnit he form root unlisted,
        Nat.le_refl _, fun _ d hd => ⟨d, hd, rfl, rfl, rfl, rfl⟩, fun _ _ hc => hc⟩
    · obtain ⟨f, hout⟩ := hout
      rw [hout]
      exact ⟨h, .refl lib⟩
  | remove id =>
    have hpruned := (Edit.remove_prunedTo lib id).1
    have hm := hpruned.slots.mono fun _ _ hde => hde.narrows
    exact ⟨h.of_matches hm hpruned.units, .of_narrows hm⟩
  | rename id name =>
    have hm : lib.Matches Decl.Narrows (lib.update id (·.rename name)) :=
      matches_update Decl.Narrows.refl fun d _ => (d.prunedTo_rename name).narrows
    exact ⟨h.of_matches hm (List.Sublist.refl _), .of_narrows hm⟩
  | sort =>
    rw [h.sort_eq]
    exact ⟨h, .refl lib⟩
  | @discard id d found root unlisted =>
    have hroot : ∀ e, lib.decl? id = some e → e.parent = none := by
      intro e he
      rw [found] at he
      cases he
      exact root
    exact ⟨h.discard (lt_created_of_decl? found) hroot unlisted, .discard lib id⟩

theorem Run.coherent (h : lib.Coherent) (hr : lib.Run out) : out.Coherent ∧ lib.Keeps out := by
  induction hr with
  | refl => exact ⟨h, .refl lib⟩
  | tail _ hs ih =>
    obtain ⟨hmid, hkeeps⟩ := ih
    obtain ⟨hout, hkeeps'⟩ := hs.coherent hmid
    exact ⟨hout, hkeeps.trans hkeeps'⟩

/-! ### What holds at every point of a run -/

/-- What can be relied on in a library, whatever was done to it. -/
structure WellFormed (lib : Library) : Prop where
  /-- A declaration is kept under its own number, which is its place in the order as well. -/
  number : ∀ id d, lib.decl? id = some d → d.id = id ∧ d.order = id
  /-- Later operations leave numbers to the declarations that have them. -/
  keeps : ∀ out, lib.Run out → lib.Keeps out
  /-- What is created gets a number and a place in the order that nothing had before, also where
  the declaration that it is meant for refuses it. -/
  fresh : ∀ form parent attributes given d, (∀ p, parent = some p → lib.contains p = true) →
    form.given attributes = .ok given → lib.newDecl? form parent given = some d →
    (∀ id e, lib.decl? id = some e → e.id < d.id ∧ e.order < d.order) ∧
      (outcomeOf (Edit.create d.body parent fun _ => d) lib).2.registered? d.id = some d
  /-- What can be reached from a unit is registered, is met once, and has a qualified name. -/
  reached : ∀ id, lib.Attached id → lib.contains id = true ∧
    (lib.walk.map (·.id)).count id = 1 ∧
    ∀ d, lib.decl? id = some d → ∃ name, lib.qualifiedName d = .ok name
  /-- What a declaration lists was created in it. -/
  listed : ∀ p id d, lib.Lists p id → lib.decl? id = some d → d.parent = some p
  /-- Units were created in no scope. -/
  root : ∀ u ∈ lib.units, ∀ d, lib.decl? u = some d → d.parent = none
  /-- What a declaration was created in has a smaller number. -/
  parent : ∀ id d p, lib.decl? id = some d → d.parent = some p → p < id
  /-- Climbing outward comes to an end: levels beyond the number of a declaration find nothing. -/
  climb : ∀ id d n, lib.decl? id = some d → id ≤ n →
    lib.outwardFrom n d = lib.outward d ∧ lib.unitFrom (n + 1) d = lib.unitOf d
  /-- A removal takes one declaration out, with all below it, or changes nothing. -/
  removal : ∀ id,
    (∃ out, outcomeOf (Edit.remove id) lib = (.ok (), out) ∧ lib.TakenOut id out) ∨
      ∃ f, outcomeOf (Edit.remove id) lib = (.error f, lib)

/-- At every point of a run the library is well-formed. -/
theorem Run.wellFormed {namespaceName libraryName : Value}
    (hr : (empty namespaceName libraryName).Run lib) : lib.WellFormed := by
  have h : lib.Coherent := (hr.coherent (coherent_empty namespaceName libraryName)).1
  obtain ⟨htree, hscopes⟩ := h.isTree
  refine ⟨h.number, fun out hout => (hout.coherent h).2, ?_, ?_, ?_, hscopes.unit_parent, h.parent,
    ?_, Edit.outcomeOf_remove h⟩
  · intro form parent attributes given d scope accepted made
    obtain ⟨hid, horder, -⟩ := newDecl?_fresh accepted made
    refine ⟨fun id e he => ?_, ?_⟩
    · have hlt := lt_created_of_decl? he
      obtain ⟨heid, heorder⟩ := h.number id e he
      rw [hid, horder, heid, heorder]
      exact ⟨hlt, Int.ofNat_lt.2 hlt⟩
    · rw [hid]
      exact (created_of_create scope accepted made).2
  · intro id ha
    obtain ⟨d, hd, hid⟩ := htree.registered id ha
    have hmem : d ∈ lib.walk := htree.mem_walk.2 ⟨id, ha, decl?_of_registered? hd⟩
    refine ⟨by rw [contains_eq_isSome, hd]; rfl, ?_, fun e he => exists_qualifiedName htree hscopes
      ha he⟩
    exact List.count_eq_one_of_mem htree.walk_nodup (List.mem_map.2 ⟨d, hmem, hid⟩)
  · exact fun p id d hl hd => h.parent_of_lists hl hd
  · intro id d n hd hn
    have hlt := lt_created_of_decl? hd
    exact ⟨h.outwardFrom_eq hd hn (by omega), h.unitFrom_eq hd (by omega) (by omega)⟩

/-- Creates a declaration of a form without attributes. -/
def createBlank (lib : Library) (form : Form) (parent : Option Nat) : Library :=
  (outcomeOf (Edit.create (.blank form) parent fun _ => lib.blankDecl parent (.blank form)) lib).2

theorem Run.createBlank {start : Library} (hr : start.Run lib) (form : Form) {parent : Option Nat}
    (scope : ∀ p, parent = some p → lib.contains p = true) :
    start.Run (lib.createBlank form parent) :=
  hr.tail (@Step.create _ _ _ [] [] _ scope rfl rfl)

/-- A library with one unit. -/
def opened : Library :=
  (outcomeOf (Edit.addUnit 0) ((empty .null .null).createBlank .unit none)).2

/-- The unit with a scope in it, which refuses a field and takes a class in; a second unit is given
up. -/
def crowded : Library :=
  (outcomeOf (Edit.discard 4) ((((opened.createBlank .space (some 0)).createBlank .field
    (some 1)).createBlank .record (some 1)).createBlank .unit none)).2

/-- The field stays registered by itself, and the number of the second unit is used up. -/
theorem wellFormed_crowded : (empty .null .null).Run crowded ∧ crowded.WellFormed ∧
    crowded.walk.map (·.id) = [0, 1, 3] ∧
    (List.range 6).map crowded.contains = [true, true, true, true, false, false] := by
  have hscope : ∀ {p : Nat} {lib : Library}, lib.contains p = true →
      ∀ q, some p = some q → lib.contains q = true := by
    rintro p lib hc q ⟨⟩
    exact hc
  have hroot : ∀ {lib : Library}, ∀ q : Nat, none = some q → lib.contains q = true :=
    fun _ hq => nomatch hq
  have hopened : (empty .null .null).Run opened :=
    (Run.createBlank .refl .unit hroot).tail
      (@Step.addUnit _ 0 _ rfl rfl rfl List.not_mem_nil)
  have hcrowded : (empty .null .null).Run crowded := by
    refine Relation.ReflTransGen.tail ?_ (@Step.discard _ 4 _ rfl rfl (by decide))
    refine Run.createBlank ?_ .unit hroot
    refine Run.createBlank ?_ .record (hscope (by decide))
    refine Run.createBlank ?_ .field (hscope (by decide))
    exact Run.createBlank hopened .space (hscope (by decide))
  exact ⟨hcrowded, hcrowded.wellFormed, by decide +kernel, by decide +kernel⟩

end Bindery.Library
