import Bindery.Proofs.Emit.Withheld
import Mathlib.Logic.Relation

/-!
# The order of layouts

Classes of different numbers are put in the order of their layouts by going from each of them to
those it needs, whatever it is that they need and whether or not they need each other in a circle.
The way down never gets to its cut-off, and each class is placed once. A class that stands before one
it needs is needed by that one in turn, perhaps over further classes, so without circles every class
stands behind all that it needs; and an order in which this is so already is kept.
-/

namespace Bindery.Emission

open Relation

/-- Among some classes, one needs the layout of another one. -/
def NeedsAmong (needs : Decl → List Nat) (classes : List Decl) (d c : Decl) : Prop :=
  d ∈ classes ∧ c ∈ classes ∧ c.id ∈ needs d

/-- Every class stands behind all those of the list that it needs. -/
def InOrder (needs : Decl → List Nat) (ds : List Decl) : Prop :=
  ∀ before d after, ds = before ++ d :: after → ∀ c ∈ ds, c.id ∈ needs d → c ∈ before

variable {e : Emission} {classes : List Decl} {needs : Decl → List Nat}

theorem mem_pick (hids : (classes.map (·.id)).Nodup) {ids : List Nat} {c : Decl} :
    c ∈ pick classes ids ↔ c ∈ classes ∧ c.id ∈ ids := by
  unfold pick Library.inOrder
  rw [List.mem_mergeSort, List.mem_filterMap]
  simp only [List.mem_mergeSort, List.mem_eraseDups]
  constructor
  · rintro ⟨id, hid, hfound⟩
    have hsame : c.id = id := by simpa using List.find?_some hfound
    exact ⟨List.mem_of_find?_eq_some hfound, hsame ▸ hid⟩
  · rintro ⟨hc, hid⟩
    have hsome : (classes.find? (·.id == c.id)).isSome = true :=
      List.find?_isSome.2 ⟨c, hc, by simp⟩
    obtain ⟨b, hb⟩ := Option.isSome_iff_exists.1 hsome
    have hsame : b.id = c.id := by simpa using List.find?_some hb
    have hbc : b = c := List.inj_on_of_nodup_map hids (List.mem_of_find?_eq_some hb) hc hsame
    exact ⟨c.id, hid, hbc ▸ hb⟩

/-! ### States of the order -/

/-- What holds while classes are being placed. A class that is placed before one it needs is needed by
that one in turn. -/
structure Placing (needs : Decl → List Nat) (classes : List Decl) (s : LayoutState) : Prop where
  /-- Just classes among these are placed. -/
  subset : s.ordered ⊆ classes
  /-- The numbers of the placed classes are noted down. -/
  done : ∀ id, id ∈ s.done ↔ id ∈ s.ordered.map (·.id)
  /-- No class is placed twice. -/
  nodup : (s.ordered.map (·.id)).Nodup
  /-- No class waits twice. -/
  visiting_nodup : s.visiting.Nodup
  /-- What waits for its place is among these classes and has none yet. -/
  visiting : ∀ id ∈ s.visiting, id ∈ classes.map (·.id) ∧ id ∉ s.done
  /-- What a placed class needs is placed, or needs that class in turn. -/
  settled : ∀ d ∈ s.ordered, ∀ c, NeedsAmong needs classes d c →
    c ∈ s.ordered ∨ TransGen (NeedsAmong needs classes) c d
  /-- What a class needs is placed before it, or needs that class in turn. -/
  behind : s.ordered.Pairwise fun d c =>
    NeedsAmong needs classes d c → TransGen (NeedsAmong needs classes) c d

theorem placing_nil : Placing needs classes ⟨[], [], []⟩ where
  subset := List.nil_subset _
  done := fun _ => Iff.rfl
  nodup := .nil
  visiting_nodup := .nil
  visiting := fun _ hid => absurd hid List.not_mem_nil
  settled := fun _ hd => absurd hd List.not_mem_nil
  behind := .nil

/-- A later state, in which the classes of a list are placed unless they waited all the time. -/
structure Progress (needs : Decl → List Nat) (classes : List Decl) (s : LayoutState)
    (l : List Decl) (t : LayoutState) : Prop where
  /-- Classes are being placed. -/
  placing : Placing needs classes t
  /-- The same classes wait. -/
  visiting : t.visiting = s.visiting
  /-- No place is taken away. -/
  ordered : s.ordered ⊆ t.ordered
  /-- The classes are placed or wait. -/
  placed : ∀ c ∈ l, c ∈ t.ordered ∨ c.id ∈ s.visiting

namespace Placing

variable {s t : LayoutState} {d : Decl}

/-- No more classes wait than there are. -/
theorem length_visiting_le (h : Placing needs classes s) :
    s.visiting.length ≤ classes.length := by
  have hsub : s.visiting ⊆ classes.map (·.id) := fun id hid => (h.visiting id hid).1
  have hle := (h.visiting_nodup.subperm hsub).length_le
  rwa [List.length_map] at hle

/-- A class whose number is noted down is placed. -/
theorem mem_ordered (h : Placing needs classes s) (hids : (classes.map (·.id)).Nodup)
    (hd : d ∈ classes) (hdone : d.id ∈ s.done) : d ∈ s.ordered := by
  obtain ⟨c, hc, hsame⟩ := List.mem_map.1 ((h.done d.id).1 hdone)
  rwa [← List.inj_on_of_nodup_map hids (h.subset hc) hd hsame]

/-- A class begins to wait. -/
theorem wait (h : Placing needs classes s) (hd : d ∈ classes) (hdone : d.id ∉ s.done)
    (hvisiting : d.id ∉ s.visiting) :
    Placing needs classes { s with visiting := d.id :: s.visiting } where
  subset := h.subset
  done := h.done
  nodup := h.nodup
  visiting_nodup := List.nodup_cons.2 ⟨hvisiting, h.visiting_nodup⟩
  visiting := by
    intro id hid
    rcases List.mem_cons.1 hid with rfl | hid
    · exact ⟨List.mem_map_of_mem hd, hdone⟩
    · exact h.visiting id hid
  settled := h.settled
  behind := h.behind

/-- A class that waited is placed, when what it needs is placed or needs it in turn. -/
theorem place (h : Placing needs classes t) (hd : d ∈ classes)
    (hvisiting : t.visiting = d.id :: s.visiting)
    (hneeded : ∀ c, NeedsAmong needs classes d c →
      c ∈ t.ordered ∨ TransGen (NeedsAmong needs classes) c d) :
    Placing needs classes ⟨d.id :: t.done, t.visiting.erase d.id, t.ordered ++ [d]⟩ := by
  have hfree : d.id ∉ t.done := (h.visiting d.id (hvisiting ▸ List.mem_cons_self ..)).2
  have hnew : d ∉ t.ordered := fun hmem => hfree ((h.done d.id).2 (List.mem_map_of_mem hmem))
  have hrest : t.visiting.erase d.id = s.visiting := by rw [hvisiting, List.erase_cons_head]
  obtain ⟨hapart, hnodup⟩ := List.nodup_cons.1 (hvisiting ▸ h.visiting_nodup)
  refine ⟨?_, ?_, ?_, hrest ▸ hnodup, ?_, ?_, ?_⟩
  · exact List.append_subset.2 ⟨h.subset, List.cons_subset.2 ⟨hd, List.nil_subset _⟩⟩
  · intro id
    rw [List.mem_cons, h.done, List.map_append, List.mem_append, List.map_singleton,
      List.mem_singleton, or_comm]
  · rw [List.map_append, List.map_singleton, List.nodup_append]
    refine ⟨h.nodup, List.nodup_singleton _, ?_⟩
    rintro id hid _ hmem rfl
    rw [List.mem_singleton.1 hmem] at hid
    exact hfree ((h.done d.id).2 hid)
  · intro id hid
    rw [hrest] at hid
    obtain ⟨hmem, hdone⟩ := h.visiting id (hvisiting ▸ List.mem_cons_of_mem _ hid)
    refine ⟨hmem, fun hin => ?_⟩
    rcases List.mem_cons.1 hin with rfl | hin
    · exact hapart hid
    · exact hdone hin
  · intro c hc b hb
    have hbefore : b ∈ t.ordered ∨ TransGen (NeedsAmong needs classes) b c := by
      rcases List.mem_append.1 hc with hc | hc
      · exact h.settled c hc b hb
      · rw [List.mem_singleton.1 hc] at hb ⊢
        exact hneeded b hb
    exact hbefore.imp_left fun hmem => List.mem_append_left _ hmem
  · refine List.pairwise_append.2 ⟨h.behind, List.pairwise_singleton .., ?_⟩
    intro c hc b hb hneeds
    rw [List.mem_singleton.1 hb] at hneeds ⊢
    exact (h.settled c hc d hneeds).resolve_left hnew

end Placing

/-! ### Going down -/

/-- Placing classes one after the other, each of which can be placed. -/
theorem exists_foldlM_placeLayout {k : Nat} {l : List Decl} {s : LayoutState}
    (hs : Placing needs classes s)
    (hstep : ∀ c ∈ l, ∀ u, Placing needs classes u → u.visiting = s.visiting →
      ∃ t, (∀ n ≥ k, e.placeLayout classes n u c = .ok t) ∧ Progress needs classes u [c] t) :
    ∃ t, (∀ n ≥ k, l.foldlM (e.placeLayout classes n) s = .ok t) ∧
      Progress needs classes s l t := by
  induction l generalizing s with
  | nil =>
    exact ⟨s, fun _ _ => rfl, hs, rfl, List.Subset.refl _, fun _ hc => absurd hc List.not_mem_nil⟩
  | cons c l ih =>
    obtain ⟨u, hfirst, hu⟩ := hstep c (List.mem_cons_self ..) s hs rfl
    obtain ⟨t, hrest, ht⟩ := ih hu.placing fun b hb v hv hvisiting =>
      hstep b (List.mem_cons_of_mem _ hb) v hv (hvisiting.trans hu.visiting)
    refine ⟨t, fun n hn => ?_, ht.placing, ht.visiting.trans hu.visiting,
      fun b hb => ht.ordered (hu.ordered hb), ?_⟩
    · rw [List.foldlM_cons, hfirst n hn]
      exact hrest n hn
    · intro b hb
      rcases List.mem_cons.1 hb with rfl | hb
      · exact (hu.placed b (List.mem_singleton.2 rfl)).imp_left fun hmem => ht.ordered hmem
      · exact hu.visiting ▸ ht.placed b hb

section

variable (hids : (classes.map (·.id)).Nodup)
  (hneeds : ∀ d ∈ classes, e.dependencies d = .ok (needs d))
include hids hneeds

/-- A class is placed, given levels for the classes that do not wait yet. What waits for its place
needs this class. -/
theorem exists_placeLayout {k : Nat} {s : LayoutState} {d : Decl} (hd : d ∈ classes)
    (hs : Placing needs classes s) (hk : classes.length < k + s.visiting.length)
    (hwaits : ∀ v ∈ classes, v.id ∈ s.visiting → TransGen (NeedsAmong needs classes) v d) :
    ∃ t, (∀ n ≥ k, e.placeLayout classes n s d = .ok t) ∧ Progress needs classes s [d] t := by
  induction k generalizing s d with
  | zero =>
    have hle := hs.length_visiting_le
    omega
  | succ k ih =>
    by_cases hmet : d.id ∈ s.done ∨ d.id ∈ s.visiting
    · refine ⟨s, fun n hn => ?_, hs, rfl, List.Subset.refl _, fun c hc => ?_⟩
      · obtain ⟨n, rfl⟩ : ∃ m, n = m + 1 := ⟨n - 1, by omega⟩
        unfold placeLayout
        rw [if_pos (by simpa using hmet)]
      · rw [List.mem_singleton.1 hc]
        exact hmet.imp_left (hs.mem_ordered hids hd)
    · obtain ⟨hdone, hvisiting⟩ := not_or.1 hmet
      have hwait := hs.wait hd hdone hvisiting
      obtain ⟨u, hfold, hu⟩ := exists_foldlM_placeLayout (l := pick classes (needs d)) (k := k)
        hwait fun c hc v hv hsame => by
          obtain ⟨hc, hneeded⟩ := (mem_pick hids).1 hc
          have hdc : NeedsAmong needs classes d c := ⟨hd, hc, hneeded⟩
          refine ih hc hv ?_ fun w hw hwv => ?_
          · rw [hsame, List.length_cons]
            omega
          · rcases List.mem_cons.1 (hsame ▸ hwv) with heq | hwv
            · rw [List.inj_on_of_nodup_map hids hw hd heq]
              exact .single hdc
            · exact (hwaits w hw hwv).tail hdc
      refine ⟨⟨d.id :: u.done, u.visiting.erase d.id, u.ordered ++ [d]⟩, fun n hn => ?_,
        hu.placing.place hd hu.visiting fun c hc => ?_, ?_, ?_, ?_⟩
      · obtain ⟨n, rfl⟩ : ∃ m, n = m + 1 := ⟨n - 1, by omega⟩
        unfold placeLayout
        rw [if_neg (by simpa using hmet), hneeds d hd]
        show (do
          let v ← (pick classes (needs d)).foldlM (e.placeLayout classes n)
            { s with visiting := d.id :: s.visiting }
          pure (⟨d.id :: v.done, v.visiting.erase d.id, v.ordered ++ [d]⟩ : LayoutState)) = _
        rw [hfold n (by omega)]
        rfl
      · -- what is needed and was not placed waited before, so it leads back here
        have hmem := hc.2.1
        rcases hu.placed c ((mem_pick hids).2 hc.2) with hplaced | hwaited
        · exact .inl hplaced
        · rcases List.mem_cons.1 hwaited with heq | hwaited
          · rw [List.inj_on_of_nodup_map hids hmem hd heq] at hc ⊢
            exact .inr (.single hc)
          · exact .inr (hwaits c hmem hwaited)
      · rw [hu.visiting, List.erase_cons_head]
      · exact fun c hc => List.mem_append_left _ (hu.ordered hc)
      · intro c hc
        rw [List.mem_singleton.1 hc]
        exact .inl (List.mem_append_right _ (List.mem_singleton.2 rfl))

/-- The order goes through all classes and is the same for any number of levels beyond that of the
classes. -/
theorem exists_layoutState : ∃ t,
    (∀ n > classes.length, classes.foldlM (e.placeLayout classes n) ⟨[], [], []⟩ = .ok t) ∧
      Progress needs classes ⟨[], [], []⟩ classes t := by
  refine exists_foldlM_placeLayout (k := classes.length + 1) placing_nil
    fun c hc u hu hvisiting => exists_placeLayout hids hneeds hc hu ?_ fun v hv hwaits => ?_
  · omega
  · rw [hvisiting] at hwaits
    cases hwaits

end

/-! ### Orders that are kept -/

/-- A class behind all that it needs is placed where it stands. -/
theorem placeLayout_of_needed {n : Nat} {d : Decl} {s : LayoutState} {ids : List Nat}
    (hd : e.dependencies d = .ok ids) (hfree : d.id ∉ s.done) (hnone : s.visiting = [])
    (hneeded : ∀ c ∈ pick classes ids, c.id ∈ s.done) :
    e.placeLayout classes (n + 1) s d = .ok ⟨d.id :: s.done, [], s.ordered ++ [d]⟩ := by
  have hstay : (pick classes ids).foldlM (e.placeLayout classes n)
      { s with visiting := d.id :: s.visiting } =
        .ok { s with visiting := d.id :: s.visiting } := by
    suffices hall : ∀ l : List Decl, (∀ c ∈ l, c.id ∈ s.done) →
        l.foldlM (e.placeLayout classes n) { s with visiting := d.id :: s.visiting } =
          .ok { s with visiting := d.id :: s.visiting } from hall _ hneeded
    intro l hl
    induction l with
    | nil => rfl
    | cons c l ih =>
      have hfirst : e.placeLayout classes n { s with visiting := d.id :: s.visiting } c =
          .ok { s with visiting := d.id :: s.visiting } := by
        cases n with
        | zero => rfl
        | succ n =>
          unfold placeLayout
          rw [if_pos (by simp [hl c (List.mem_cons_self ..)])]
      rw [List.foldlM_cons, hfirst]
      exact ih fun b hb => hl b (List.mem_cons_of_mem _ hb)
  unfold placeLayout
  rw [if_neg (by simp [hfree, hnone]), hd]
  show (do
    let v ← (pick classes ids).foldlM (e.placeLayout classes n)
      { s with visiting := d.id :: s.visiting }
    pure (⟨d.id :: v.done, v.visiting.erase d.id, v.ordered ++ [d]⟩ : LayoutState)) = _
  rw [hstay, hnone]
  show Except.ok (⟨d.id :: s.done, [d.id].erase d.id, s.ordered ++ [d]⟩ : LayoutState) = _
  rw [List.erase_cons_head]

/-- Classes that stand in order stay as they are. -/
theorem foldlM_placeLayout_of_inOrder (hids : (classes.map (·.id)).Nodup)
    (hneeds : ∀ d ∈ classes, e.dependencies d = .ok (needs d)) (horder : InOrder needs classes)
    (n : Nat) {before after : List Decl} (hsplit : classes = before ++ after) :
    after.foldlM (e.placeLayout classes (n + 1)) ⟨(before.map (·.id)).reverse, [], before⟩ =
      .ok ⟨(classes.map (·.id)).reverse, [], classes⟩ := by
  induction after generalizing before with
  | nil =>
    rw [List.append_nil] at hsplit
    rw [hsplit]
    rfl
  | cons d after ih =>
    have hd : d ∈ classes := hsplit ▸ List.mem_append_right _ (List.mem_cons_self ..)
    have hfree : d.id ∉ (before.map (·.id)).reverse := by
      rw [List.mem_reverse]
      intro hmem
      rw [hsplit, List.map_append, List.nodup_append] at hids
      exact hids.2.2 d.id hmem d.id (List.mem_map_of_mem (List.mem_cons_self ..)) rfl
    have hneeded : ∀ c ∈ pick classes (needs d), c.id ∈ (before.map (·.id)).reverse := by
      intro c hc
      obtain ⟨hc, hneeded⟩ := (mem_pick hids).1 hc
      rw [List.mem_reverse]
      exact List.mem_map_of_mem (horder before d after hsplit c hc hneeded)
    have hsplit' : classes = before ++ [d] ++ after := by
      rw [hsplit, List.append_assoc, List.singleton_append]
    have hnext := ih hsplit'
    rw [List.map_append, List.reverse_append] at hnext
    rw [List.foldlM_cons, placeLayout_of_needed (hneeds d hd) hfree rfl hneeded]
    exact hnext

/-! ### The order -/

/-- Where no class needs itself in the end, the placed classes stand in order. -/
theorem Placing.inOrder {s : LayoutState} (h : Placing needs classes s)
    (hacyclic : ∀ d, ¬TransGen (NeedsAmong needs classes) d d) : InOrder needs s.ordered := by
  intro before d after hsplit c hc hneeded
  have hd : d ∈ s.ordered := hsplit ▸ List.mem_append_right _ (List.mem_cons_self ..)
  have hdc : NeedsAmong needs classes d c := ⟨h.subset hd, h.subset hc, hneeded⟩
  rw [hsplit] at hc
  rcases List.mem_append.1 hc with hc | hc
  · exact hc
  · rcases List.mem_cons.1 hc with rfl | hc
    · exact absurd (.single hdc) (hacyclic c)
    · have hbehind := h.behind
      rw [hsplit, List.pairwise_append] at hbehind
      have hback := List.rel_of_pairwise_cons hbehind.2.1 hc hdc
      exact absurd (.head hdc hback) (hacyclic d)

/-- Classes of different numbers are all placed once, whatever they need, and no more levels are gone
down than there are classes. Without circles every class stands behind all those that it needs, and
classes that stand so already stay as they are. -/
theorem layoutOrder_sorted (hids : (classes.map (·.id)).Nodup)
    (hneeds : ∀ d ∈ classes, e.dependencies d = .ok (needs d)) :
    ∃ ds, e.layoutOrder classes = .ok ds ∧ ds.Perm classes ∧
      (∀ levels > classes.length, (classes.foldlM (e.placeLayout classes levels)
        ⟨[], [], []⟩).map (·.ordered) = .ok ds) ∧
      ((∀ d, ¬TransGen (NeedsAmong needs classes) d d) → InOrder needs ds) ∧
      (InOrder needs classes → ds = classes) := by
  obtain ⟨t, hfold, ht⟩ := exists_layoutState hids hneeds
  have hlevels : ∀ levels > classes.length, (classes.foldlM (e.placeLayout classes levels)
      ⟨[], [], []⟩).map (·.ordered) = .ok t.ordered := by
    intro levels hlt
    rw [hfold levels hlt]
    rfl
  have hperm : t.ordered.Perm classes := by
    have hclasses : classes.Nodup := .of_map _ hids
    have hordered : t.ordered.Nodup := .of_map _ ht.placing.nodup
    refine (List.perm_ext_iff_of_nodup hordered hclasses).2 fun d => ⟨fun hd => ?_, fun hd => ?_⟩
    · exact ht.placing.subset hd
    · exact (ht.placed d hd).resolve_right List.not_mem_nil
  refine ⟨t.ordered, hlevels (classes.length + 1) (Nat.lt_succ_self _), hperm, hlevels,
    ht.placing.inOrder, fun horder => ?_⟩
  have hkept := foldlM_placeLayout_of_inOrder hids hneeds horder classes.length
    (List.nil_append classes).symm
  have hsame : (Except.ok t : Except Fault LayoutState) =
      .ok ⟨(classes.map (·.id)).reverse, [], classes⟩ :=
    (hfold (classes.length + 1) (Nat.lt_succ_self _)).symm.trans hkept
  cases hsame
  rfl

/-- A class with a field of a class that is declared behind it. -/
def holder : Decl :=
  { Decl.blank 1 (some 0) (.record ⟨false, true, false, false, [], [2], [], [], [], none⟩) with
    name := "A" }

/-- The class that is declared behind. -/
def held : Decl :=
  { Decl.blank 3 (some 0) (.record ⟨false, true, false, false, [], [], [], [], [], none⟩) with
    name := "B" }

/-- A unit with both of them. -/
def heldLater : Library :=
  ⟨.text "", .text "", [0],
    [⟨{ Decl.blank 0 none (.unit ⟨[], [1, 3], [], []⟩ "a.h") with name := "a.h" }, true⟩,
      ⟨holder, true⟩,
      ⟨{ Decl.blank 2 (some 1) (.field "B" .everyone) with
        name := "b", notes := [("type_declaration_id", .int 3)] }, true⟩,
      ⟨held, true⟩]⟩

/-- What its classes need. -/
def neededLater (d : Decl) : List Nat :=
  if d.id = 1 then [3] else []

theorem layoutOrder_sorted_heldLater : ∃ ds,
    (ofLibrary heldLater .standard).layoutOrder [holder, held] = .ok ds ∧
      ds.Perm [holder, held] ∧ InOrder neededLater ds := by
  have hneeds : ∀ d ∈ [holder, held],
      (ofLibrary heldLater .standard).dependencies d = .ok (neededLater d) := by
    intro d hd
    rcases List.mem_cons.1 hd with rfl | hd
    · rfl
    · rw [List.mem_singleton.1 hd]
      rfl
  obtain ⟨ds, hds, hperm, -, hinOrder, -⟩ := layoutOrder_sorted (by decide) hneeds
  refine ⟨ds, hds, hperm, hinOrder ?_⟩
  -- only the first class needs anything, and that is the second
  have hneeds : ∀ d c, NeedsAmong neededLater [holder, held] d c → d.id = 1 ∧ c.id = 3 := by
    rintro d c ⟨-, -, hneeded⟩
    unfold neededLater at hneeded
    split_ifs at hneeded with hid
    · exact ⟨hid, List.mem_singleton.1 hneeded⟩
    · cases hneeded
  have hends : ∀ d c, TransGen (NeedsAmong neededLater [holder, held]) d c →
      d.id = 1 ∧ c.id = 3 := by
    intro d c h
    induction h with
    | single h => exact hneeds _ _ h
    | tail _ h ih => exact ⟨ih.1, (hneeds _ _ h).2⟩
  intro d h
  obtain ⟨hfirst, hsecond⟩ := hends d d h
  omega

end Bindery.Emission
