import Bindery.Pass.Visitor
import Bindery.Proofs.Declaration.Kept

/-!
# Visitors that remove what they visit

A visitor comes to everything that a walk meets, in the order of the walk, and to every unit once
more before it comes to it as a scope. It does so as well when it takes declarations out of the
library while it visits them: a list is read before anything on it is visited, and nothing is
visited again that could be missing from the list that held it. What is left in the end is what was
neither taken out nor lay below something that was.
-/

namespace Bindery

open PassM

/-- The kind as which a declaration is visited. A unit is visited as a scope. -/
def Form.visitedAs : Form → Kind
  | unit => .space
  | f => f.kind

/-- A visitor that takes chosen declarations out when it comes to them, and goes on inside
everything. -/
def PassM.removing (visitor : Value) (removed : Nat → Bool) (label : Kind) (id : Nat) :
    PassM Library Bool := do
  arrive visitor label id
  if removed id then edit (Edit.remove id)
  return true

/-- What a visitor writes down when it comes to a declaration as one of a kind. -/
def visitEntry (visitor : Value) (visit : Kind × Decl) : Value :=
  .list [visitor, .text visit.1.word, .int visit.2.id, .text visit.2.name]

namespace Library

variable {lib out : Library}

/-! ### What is visited -/

/-- The visits to a declaration and to what lies below it, down to a number of levels. -/
def visitsFrom (lib : Library) (levels id : Nat) : List (Kind × Decl) :=
  (lib.walkFrom levels id).map fun d => (d.body.form.visitedAs, d)

/-- All visits. Every unit is visited as a unit before it is visited as a scope. -/
def visits (lib : Library) : List (Kind × Decl) :=
  lib.units.flatMap fun u =>
    (lib.decl? u).toList.map (Kind.unit, ·) ++ lib.visitsFrom lib.created u

/-- What is left of a library when everything that is not kept is off all lists. -/
structure Shed (lib : Library) (keep : Nat → Bool) (out : Library) : Prop where
  /-- The names of the library stay. -/
  names : out.namespaceName = lib.namespaceName ∧ out.libraryName = lib.libraryName
  /-- Units are lost that are not kept. -/
  units : out.units = lib.units.filter keep
  /-- There are as many declarations. -/
  created : out.created = lib.created
  /-- What is registered stays so, and nothing else is. -/
  contains : ∀ id, out.contains id = lib.contains id
  /-- What can be reached loses from its lists what is not kept, and nothing else. -/
  attached : ∀ id d, lib.Attached id → lib.decl? id = some d →
    out.decl? id = some { d with body := d.body.keep keep }
  /-- What cannot be reached stays as it is. -/
  others : ∀ id, ¬ lib.Attached id → out.decl? id = lib.decl? id

namespace Shed

theorem refl (lib : Library) : lib.Shed (fun _ => true) lib where
  names := ⟨rfl, rfl⟩
  units := (List.filter_eq_self.2 fun _ _ => rfl).symm
  created := rfl
  contains := fun _ => rfl
  attached := by
    intro id d _ hd
    rw [Body.keep_true, hd]
  others := fun _ _ => rfl

/-- What is kept matters for what can be reached only. -/
theorem congr {p q : Nat → Bool} (h : lib.Shed p out) (hpq : ∀ id, lib.Attached id → p id = q id) :
    lib.Shed q out :=
  { h with
    units := h.units.trans
      (List.filter_congr fun u hu => hpq u (attached_of_mem_units hu))
    attached := by
      intro id d ha hd
      rw [h.attached id d ha hd,
        Body.keep_congr fun c hc => hpq c (ha.lists ⟨d, hd, hc⟩)] }

/-- Taking out a unit that may be gone already, or something else that is not. -/
theorem remove {keep : Nat → Bool} (h : lib.IsTree) (hs : lib.ScopesAgree)
    (hout : lib.Shed keep out) {id : Nat} (ha : lib.Attached id)
    (hkept : id ∈ lib.units ∨ keep id = true) :
    ∃ t, outcomeOf (Edit.remove id) out = (.ok (), t) ∧
      lib.Shed (fun k => keep k && k != id) t := by
  obtain ⟨d, hd, -⟩ := h.decl_of_attached ha
  unfold Edit.remove
  rw [outcomeOf_bind_ok (outcomeOf_get out)]
  simp only [hout.attached id d ha hd]
  obtain ⟨u, hu, level, hb⟩ := ha
  cases hb with
  | self =>
    simp only [hs.unit_parent id hu d hd]
    refine ⟨_, rfl, { hout with units := ?_, attached := ?_ }⟩
    · show out.units.erase id = _
      rw [hout.units, (h.units_nodup.filter keep).erase_eq_filter, List.filter_filter]
      exact List.filter_congr fun k _ => Bool.and_comm ..
    · intro k e hk he
      refine (hout.attached k e hk he).trans ?_
      rw [Body.keep_congr (q := fun k => keep k && k != id)]
      intro c hc
      have hne : c ≠ id := fun heq => h.unit_apart k c hk ⟨e, he, hc⟩ (heq ▸ hu)
      simp [hne]
  | @step level p _ hb hl =>
    have hp : lib.Attached p := ⟨u, hu, level, hb⟩
    have hunit : id ∉ lib.units := h.unit_apart p id hp hl
    have hid : keep id = true := hkept.resolve_left hunit
    obtain ⟨o, ho, hmem⟩ := hl
    obtain ⟨e, he⟩ : ∃ e, out.registered? p = some e := by
      obtain ⟨o', ho', -⟩ := h.registered p hp
      rw [← Option.isSome_iff_exists, ← contains_eq_isSome, hout.contains, contains_eq_isSome, ho']
      rfl
    have hout_p := hout.attached p o hp ho
    have hself : e.id = p := by
      have heq := Option.some.inj ((decl?_of_registered? he).symm.trans hout_p)
      rw [heq]
      exact (h.id_of_decl? hp ho : o.id = p)
    have herase : (o.body.keep keep).erase? id =
        some (o.body.keep fun k => keep k && k != id) := by
      rw [Body.erase?_eq_keep, Body.keep_keep]
      · rw [Body.children_keep]
        exact (h.children_nodup p o hp ho).filter keep
      · rw [Body.children_keep]
        exact List.mem_filter.2 ⟨hmem, hid⟩
    have hremoved := Edit.outcomeOf_removeChild hout_p
      (hout.attached id d (hp.lists ⟨o, ho, hmem⟩) hd)
    rw [herase] at hremoved
    simp only [hs.listed_parent p id d hp ⟨o, ho, hmem⟩ hd]
    rw [outcomeOf_bind, outcomeOf_editLook]
    simp only [get, he, hself]
    refine ⟨_, hremoved, ⟨hout.names, ?_, ?_, ?_, ?_, ?_⟩⟩
    · show out.units = _
      rw [hout.units]
      refine List.filter_congr fun k hk => ?_
      have hne : k ≠ id := fun heq => hunit (heq ▸ hk)
      simp [hne]
    · rw [created_update, hout.created]
    · intro k
      rw [contains_update, hout.contains]
    · intro k c hk hc
      rw [decl?_update, hout.attached k c hk hc]
      split_ifs with heq
      · subst heq
        rw [ho] at hc
        cases hc
        rfl
      · rw [Body.keep_congr (q := fun k => keep k && k != id)]
        intro x hx
        have hne : x ≠ id := by
          rintro rfl
          exact heq (h.one_owner _ _ _ hp hk ⟨o, ho, hmem⟩ ⟨c, hc, hx⟩)
        simp [hne]
    · intro k hk
      rw [decl?_update, if_neg, hout.others k hk]
      rintro rfl
      exact hk hp

end Shed

/-! ### Visits one after the other -/

/-- Nothing but units stands among numbers twice. -/
def Once (lib : Library) (ids : List Nat) : Prop :=
  ids.Pairwise fun a b => a = b → a ∈ lib.units

/-- What has not been taken out after some visits. -/
def spared (removed : Nat → Bool) (seen : List Nat) (id : Nat) : Bool :=
  !(removed id && seen.contains id)

/-- A step makes visits and takes out what is to be removed among what it visits, whatever has been
visited before. -/
def Makes (lib : Library) (visitor : Value) (removed : Nat → Bool) (m : PassM Library Unit)
    (visits : List (Kind × Decl)) : Prop :=
  ∀ seen s, lib.Once (seen ++ visits.map (·.2.id)) → lib.Shed (spared removed seen) s.library →
    ∃ out, outcomeOf m s = (.ok (), ⟨out, s.log ++ visits.map (visitEntry visitor), s.tally⟩) ∧
      lib.Shed (spared removed (seen ++ visits.map (·.2.id))) out

namespace Makes

variable {visitor : Value} {removed : Nat → Bool} {m n : PassM Library Unit}
  {vs ws : List (Kind × Decl)}

theorem nil : lib.Makes visitor removed (pure ()) [] := by
  intro seen s _ hshed
  exact ⟨s.library, by simp, by simpa using hshed⟩

theorem andThen (hm : lib.Makes visitor removed m vs) (hn : lib.Makes visitor removed n ws) :
    lib.Makes visitor removed (m >>= fun _ => n) (vs ++ ws) := by
  intro seen s honce hshed
  rw [List.map_append, ← List.append_assoc] at honce
  obtain ⟨mid, hmid, hshed⟩ := hm seen s (honce.sublist (List.sublist_append_left ..)) hshed
  obtain ⟨out, hout, hshed⟩ := hn _ ⟨mid, _, s.tally⟩ honce hshed
  refine ⟨out, ?_, ?_⟩
  · rw [outcomeOf_bind_ok hmid, hout, List.map_append, List.append_assoc]
  · rw [List.map_append, ← List.append_assoc]
    exact hshed

theorem forM {α : Type} {f : α → PassM Library Unit} {g : α → List (Kind × Decl)} {l : List α}
    (h : ∀ a ∈ l, lib.Makes visitor removed (f a) (g a)) :
    lib.Makes visitor removed (l.forM f) (l.flatMap g) := by
  induction l with
  | nil => exact nil
  | cons a l ih =>
    rw [List.flatMap_cons]
    exact andThen (h a (List.mem_cons_self ..)) (ih fun b hb => h b (List.mem_cons_of_mem _ hb))

end Makes

/-- What is done at a declaration that has not been visited before, or is a unit. -/
theorem outcomeOf_removing (visitor : Value) (removed : Nat → Bool) (h : lib.IsTree)
    (hs : lib.ScopesAgree) (label : Kind) {id : Nat} {d : Decl} (ha : lib.Attached id)
    (hd : lib.decl? id = some d) {seen : List Nat} {s : PassState Library}
    (honce : lib.Once (seen ++ [id])) (hshed : lib.Shed (spared removed seen) s.library) :
    ∃ out, outcomeOf (removing visitor removed label id) s =
      (.ok true, ⟨out, s.log ++ [visitEntry visitor (label, d)], s.tally⟩) ∧
        lib.Shed (spared removed (seen ++ [id])) out := by
  have harrive : outcomeOf (arrive visitor label id) s =
      (.ok (), { s with log := s.log ++ [visitEntry visitor (label, d)] }) := by
    have hname : ((s.library.decl? id).map (·.name)).getD "" = d.name := by
      rw [hshed.attached id d ha hd]
      rfl
    unfold arrive nameNow note visitEntry
    rw [bind_assoc, outcomeOf_bind_ok (outcomeOf_get s), pure_bind, hname, h.id_of_decl? ha hd]
    rfl
  unfold removing
  rw [outcomeOf_bind_ok harrive]
  cases hr : removed id with
  | false =>
    refine ⟨s.library, rfl, hshed.congr fun k _ => ?_⟩
    by_cases hk : k = id <;> simp [spared, hk, hr]
  | true =>
    have hkept : id ∈ lib.units ∨ spared removed seen id = true := by
      by_cases hmem : id ∈ seen
      · exact .inl ((List.pairwise_append.1 honce).2.2 id hmem id (List.mem_singleton_self id) rfl)
      · exact .inr (by simp [spared, hmem])
    obtain ⟨out, hout, hshed⟩ := hshed.remove h hs ha hkept
    refine ⟨out, ?_, hshed.congr fun k _ => ?_⟩
    · simp only [if_true]
      rw [outcomeOf_bind, outcomeOf_edit, hout]
      rfl
    · by_cases hk : k = id <;> simp [spared, hk, hr]

namespace Makes

variable {visitor : Value} {removed : Nat → Bool} {m : PassM Library Unit} {vs : List (Kind × Decl)}

/-- A visit to a declaration and what lies inside it. -/
theorem enter (h : lib.IsTree) (hs : lib.ScopesAgree) {label : Kind} {id : Nat} {d : Decl}
    (ha : lib.Attached id) (hd : lib.decl? id = some d) (hm : lib.Makes visitor removed m vs) :
    lib.Makes visitor removed (do if ← removing visitor removed label id then m)
      ((label, d) :: vs) := by
  intro seen s honce hshed
  have hseen : seen ++ ((label, d) :: vs).map (·.2.id) = seen ++ [id] ++ vs.map (·.2.id) := by
    simp [h.id_of_decl? ha hd]
  rw [hseen] at honce ⊢
  obtain ⟨mid, hmid, hshed⟩ := outcomeOf_removing visitor removed h hs label ha hd
    (List.pairwise_append.1 honce).1 hshed
  obtain ⟨out, hout, hshed⟩ := hm _ ⟨mid, s.log ++ [visitEntry visitor (label, d)], s.tally⟩
    honce hshed
  refine ⟨out, ?_, hshed⟩
  rw [outcomeOf_bind_ok hmid]
  simpa using hout

/-- A list is read when the visitor comes to it, and nothing is missing from it then. -/
theorem list (h : lib.IsTree) {id : Nat} {d : Decl} {list : String} {f : Nat → PassM Library Unit}
    {g : Nat → List (Kind × Decl)} (ha : lib.Attached id) (hd : lib.decl? id = some d)
    (hself : ∀ c ∈ d.body.listOf list, c ∈ (g c).map (·.2.id))
    (hf : ∀ c ∈ d.body.listOf list, lib.Makes visitor removed (f c) (g c)) :
    lib.Makes visitor removed (do
      let inside := (((← MonadState.get).library.decl? id).map (·.body.listOf list)).getD []
      inside.forM f) ((d.body.listOf list).flatMap g) := by
  intro seen s honce hshed
  have hread : (((s.library.decl? id).map (·.body.listOf list)).getD []) = d.body.listOf list := by
    rw [hshed.attached id d ha hd]
    show (d.body.keep _).listOf list = _
    rw [Body.listOf_keep, List.filter_eq_self]
    intro c hc
    have hl : lib.Lists id c :=
      ⟨d, hd, Body.mem_children_iff.2 ⟨list, Body.mem_lists_of_mem_listOf hc, hc⟩⟩
    have hseen : c ∉ seen := by
      intro hmem
      refine h.unit_apart id c ha hl ((List.pairwise_append.1 honce).2.2 c hmem c ?_ rfl)
      rw [List.map_flatMap]
      exact List.mem_flatMap.2 ⟨c, hc, hself c hc⟩
    simp [spared, hseen]
  rw [outcomeOf_bind_ok (outcomeOf_get s)]
  simp only [hread]
  exact forM hf seen s honce hshed

end Makes

/-- A unit with a scope, which holds a class with a class inside, and with a function that takes an
argument, and a unit behind it. -/
def nested : Library :=
  ⟨.text "", .text "", [0, 6],
    [⟨{ Decl.blank 0 none (.unit ⟨[1], [], [], [4]⟩ "a.h") with name := "a.h" }, true⟩,
      ⟨{ Decl.blank 1 (some 0) (.space ⟨[], [2], [], []⟩) with name := "n" }, true⟩,
      ⟨{ Decl.blank 2 (some 1) (.record ⟨false, true, false, false, [], [], [], [3], [], none⟩) with
        name := "A" }, true⟩,
      ⟨{ Decl.blank 3 (some 2) (.record ⟨false, true, false, false, [], [], [], [], [], none⟩) with
        name := "B" }, true⟩,
      ⟨{ Decl.blank 4 (some 0) (.function ⟨"void", [5], false⟩) with name := "f" }, true⟩,
      ⟨{ Decl.blank 5 (some 4) (.parameter "int" 0) with name := "x" }, true⟩,
      ⟨{ Decl.blank 6 none (.unit .empty "b.h") with name := "b.h" }, true⟩]⟩

end Library

end Bindery
