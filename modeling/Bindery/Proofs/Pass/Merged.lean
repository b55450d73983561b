import Bindery.Proofs.Declaration.Parents
import Bindery.Proofs.Pass.Merging

/-!
# What merging forward declarations comes to

Just the forward declarations with a complete class of their qualified name leave the library, which
is otherwise met in the same order as before. They are linked to the first such class, which takes a
comment over where it has none, and nothing else is changed. What is still incomplete has no
definition, so that there is nothing to do a second time.
-/

namespace Bindery

namespace Library

variable {lib out : Library}

/-- What is left of a library when its forward declarations were merged into their definitions. -/
structure MergedInto (lib out : Library) : Prop where
  /-- What is merged are the forward declarations that can be reached and for which there is a
  complete class of the same qualified name that can be. -/
  merged : ∀ id, id ∈ lib.forwards.map (·.id) ↔ ∃ d ∈ lib.walk, d.id = id ∧ d.isIncomplete = true ∧
    ∃ c ∈ lib.walk, c.isComplete = true ∧ lib.sameName c d = true
  /-- Each of them is linked to the first such class, counts as complete and can be reached no
  more. -/
  linked : ∀ d ∈ lib.forwards, ∃ c, lib.definitionFor? d = some c ∧
    out.decl? d.id = some (d.linkTo (some c.id)) ∧ ¬out.Attached d.id
  /-- Its link is followed to that class, which may be linked further itself. -/
  resolve : ∀ d ∈ lib.forwards, ∀ c, lib.definitionFor? d = some c →
    c.body.record?.bind (·.definition) = none →
      ∃ e, out.decl? c.id = some e ∧ e.id = c.id ∧ out.resolve d.id = .ok e
  /-- What is still incomplete has its qualified name for itself. -/
  rest : ∀ d ∈ out.walk, d.isIncomplete = true → ∀ c ∈ out.walk, c.isComplete = true →
    out.sameName c d = false
  /-- A walk meets all else in the order in which it met it before. -/
  walk : out.walk.map (·.id) = (lib.walk.map (·.id)).filter (· ∉ lib.forwards.map (·.id))
  /-- All else that can be reached loses the forward declarations on its lists, and takes the first
  comment of its own forward declarations if it has none. -/
  others : ∀ id d, lib.Attached id → lib.decl? id = some d → id ∉ lib.forwards.map (·.id) →
    out.decl? id = some { d with
      comment := if d.comment = "" then lib.handedComment lib.forwards id else d.comment
      body := d.body.keep (· ∉ lib.forwards.map (·.id)) }
  /-- What cannot be reached stays as it is. -/
  apart : ∀ id, ¬lib.Attached id → out.decl? id = lib.decl? id
  /-- All that is registered stays so. -/
  contains : ∀ id, out.contains id = lib.contains id

/-- Classes of a tree are what a walk meets of them. -/
theorem IsTree.mem_classes (h : lib.IsTree) {d : Decl} :
    d ∈ lib.classes ↔ d ∈ lib.walk ∧ d.body.isRecord = true :=
  h.classes_perm.mem_iff.trans List.mem_filter

theorem isRecord_of_isIncomplete {d : Decl} (h : d.isIncomplete = true) :
    d.body.isRecord = true := by
  unfold Decl.isIncomplete at h
  unfold Body.isRecord
  cases hr : d.body.record? with
  | none => simp [hr] at h
  | some r => rfl

/-- There is a definition where some complete class has the qualified name. -/
theorem IsTree.definitionFor?_isSome_iff (h : lib.IsTree) {d : Decl} :
    (lib.definitionFor? d).isSome = true ↔
      ∃ c ∈ lib.walk, c.isComplete = true ∧ lib.sameName c d = true := by
  unfold definitionFor? Decl.isComplete
  rw [List.find?_isSome]
  simp only [h.mem_classes, Bool.and_eq_true, Bool.not_eq_true']
  constructor
  · rintro ⟨c, ⟨hc, hrecord⟩, hcomplete, hname⟩
    exact ⟨c, hc, ⟨hrecord, hcomplete⟩, hname⟩
  · rintro ⟨c, hc, ⟨hrecord, hcomplete⟩, hname⟩
    exact ⟨c, ⟨hc, hrecord⟩, hcomplete, hname⟩

theorem IsTree.mem_forwards (h : lib.IsTree) {d : Decl} : d ∈ lib.forwards ↔ d ∈ lib.walk ∧
    d.isIncomplete = true ∧ ∃ c ∈ lib.walk, c.isComplete = true ∧ lib.sameName c d = true := by
  unfold forwards isForward
  rw [List.mem_filter, h.mem_classes, Bool.and_eq_true, h.definitionFor?_isSome_iff]
  constructor
  · rintro ⟨⟨hd, -⟩, hrest⟩
    exact ⟨hd, hrest⟩
  · rintro ⟨hd, hincomplete, hdefined⟩
    exact ⟨⟨hd, isRecord_of_isIncomplete hincomplete⟩, hincomplete, hdefined⟩

section

variable (h : lib.IsTree) (hs : lib.ScopesAgree)
  (hempty : ∀ d ∈ lib.walk, d.isIncomplete = true → d.body.children = [])
include h hs hempty

/-- Merging all forward declarations takes them out. -/
theorem prunedTo_mergedBy : lib.PrunedTo (lib.mergedBy lib.forwards) := by
  have hpruned := PassM.resolveIncomplete_prunedTo ⟨lib, [], .empty⟩
  rwa [PassM.outcomeOf_resolveIncomplete h hs hempty] at hpruned

omit hempty in
/-- What a declaration lists is a forward declaration just if one that was created in it is. -/
theorem stays_forwards {id x : Nat} (ha : lib.Attached id) (hl : lib.Lists id x) :
    stays lib.forwards id x = decide (x ∉ lib.forwards.map (·.id)) := by
  unfold stays
  rw [Bool.eq_iff_iff, Bool.not_eq_true', List.any_eq_false, decide_eq_true_iff, List.mem_map]
  constructor
  · rintro hnone ⟨d, hd, rfl⟩
    have hdecl := (h.decl?_of_mem_walk (h.mem_forwards.1 hd).1).2
    refine hnone d hd ?_
    rw [hs.listed_parent id d.id d ha hl hdecl]
    simp
  · intro hnone d hd hsame
    rw [Bool.and_eq_true, beq_iff_eq] at hsame
    exact hnone ⟨d, hd, hsame.1⟩

omit hempty in
theorem mergedBy_others {id : Nat} {d : Decl} (ha : lib.Attached id) (hd : lib.decl? id = some d)
    (hkept : id ∉ lib.forwards.map (·.id)) : (lib.mergedBy lib.forwards).decl? id = some { d with
      comment := if d.comment = "" then lib.handedComment lib.forwards id else d.comment
      body := d.body.keep (· ∉ lib.forwards.map (·.id)) } := by
  rw [decl?_mergedBy, hd, Option.map_some, mergedDecl_of_not_mem hkept,
    Body.keep_congr fun x hx => stays_forwards h hs ha ⟨d, hd, hx⟩]

omit hempty in
theorem mergedBy_apart {id : Nat} (ha : ¬lib.Attached id) :
    (lib.mergedBy lib.forwards).decl? id = lib.decl? id := by
  have hattached : ∀ d ∈ lib.classes, d.id ≠ id := by
    rintro d hd rfl
    exact ha (h.attached_of_mem_classes hd).1
  have hkept : id ∉ lib.forwards.map (·.id) := by
    intro hin
    obtain ⟨d, hd, hid⟩ := List.mem_map.1 hin
    exact hattached d (List.mem_filter.1 hd).1 hid
  have hcomment : lib.handedComment lib.forwards id = "" := by
    unfold handedComment
    rw [List.find?_eq_none.2]
    · rfl
    · intro d _ hfound
      rw [Bool.and_eq_true, beq_iff_eq] at hfound
      obtain ⟨c, hc, hid⟩ := Option.map_eq_some_iff.1 hfound.1
      exact hattached c (of_definitionFor? hc).1 hid
  have hstays : ∀ x, stays lib.forwards id x = true := by
    intro x
    unfold stays
    rw [Bool.not_eq_true', List.any_eq_false]
    intro d hd hsame
    rw [Bool.and_eq_true, beq_iff_eq, beq_iff_eq] at hsame
    have hmem := (List.mem_filter.1 hd).1
    obtain ⟨p, hp, hl⟩ := h.exists_owner_of_mem_classes hmem
    have hparent := hs.listed_parent p d.id d hp hl (h.attached_of_mem_classes hmem).2
    rw [hsame.2] at hparent
    exact ha (Option.some.inj hparent ▸ hp)
  rw [decl?_mergedBy]
  cases lib.decl? id with
  | none => rfl
  | some d =>
    rw [Option.map_some, mergedDecl_of_not_mem hkept, hcomment, ite_empty_comment,
      funext hstays, Body.keep_true]

theorem walk_mergedBy : (lib.mergedBy lib.forwards).walk.map (·.id) =
    (lib.walk.map (·.id)).filter (· ∉ lib.forwards.map (·.id)) := by
  refine h.walk_without_leaves rfl (created_mergedBy ..) ?_ ?_ ?_
  · intro u hu hin
    obtain ⟨d, hd, rfl⟩ := List.mem_map.1 hin
    obtain ⟨hwalk, hincomplete, -⟩ := h.mem_forwards.1 hd
    obtain ⟨e, he, hform⟩ := h.unit_form d.id hu
    rw [(h.decl?_of_mem_walk hwalk).2] at he
    cases he
    have hrecord := isRecord_of_isIncomplete hincomplete
    cases hbody : d.body <;> simp [hbody, Body.form, Body.isRecord, Body.record?] at hform hrecord
  · intro k hin e he
    obtain ⟨d, hd, rfl⟩ := List.mem_map.1 hin
    obtain ⟨hwalk, hincomplete, -⟩ := h.mem_forwards.1 hd
    rw [(h.decl?_of_mem_walk hwalk).2] at he
    cases he
    exact hempty _ hwalk hincomplete
  · intro k ha hkept d hd
    exact ⟨_, mergedBy_others h hs ha hd hkept, rfl, Body.children_keep ..⟩

/-- What is met after merging was met before and is not merged itself. -/
theorem exists_of_mem_walk_mergedBy {e : Decl} (he : e ∈ (lib.mergedBy lib.forwards).walk) :
    ∃ d ∈ lib.walk, d ∉ lib.forwards ∧ e = lib.mergedDecl lib.forwards d.id d ∧
      e.isIncomplete = d.isIncomplete ∧ e.isComplete = d.isComplete ∧
        ∀ x ∈ e.body.children, x ∈ d.body.children := by
  have hout := (prunedTo_mergedBy h hs hempty).isTree h
  obtain ⟨ha, hdecl⟩ := hout.decl?_of_mem_walk he
  have hkept : e.id ∉ lib.forwards.map (·.id) := by
    have hid : e.id ∈ (lib.mergedBy lib.forwards).walk.map (·.id) := List.mem_map_of_mem he
    rw [walk_mergedBy h hs hempty, List.mem_filter] at hid
    simpa using hid.2
  have hattached := (prunedTo_mergedBy h hs hempty).attached ha
  obtain ⟨d, hd, hid⟩ := h.decl_of_attached hattached
  rw [decl?_mergedBy, hd, Option.map_some, ← hid] at hdecl
  rw [← hid] at hkept
  have heq := Option.some.inj hdecl
  have hmerged := heq.symm.trans (mergedDecl_of_not_mem hkept)
  have hincomplete : e.isIncomplete = d.isIncomplete := by
    rw [hmerged]
    exact (Body.record?_keep _ d.body).1
  have hrecord : e.body.isRecord = d.body.isRecord := by
    rw [hmerged]
    show (d.body.keep _).isRecord = _
    cases d.body <;> rfl
  refine ⟨d, h.mem_walk.2 ⟨e.id, hattached, hd⟩, fun hin => hkept (List.mem_map_of_mem hin),
    heq.symm, hincomplete, by unfold Decl.isComplete; rw [hincomplete, hrecord], ?_⟩
  rw [hmerged]
  intro x hx
  rw [Body.children_keep] at hx
  exact (List.mem_filter.1 hx).1

/-- What is still incomplete after merging has its qualified name for itself. -/
theorem sameName_mergedBy {c d : Decl} (hd : d ∈ (lib.mergedBy lib.forwards).walk)
    (hincomplete : d.isIncomplete = true) (hc : c ∈ (lib.mergedBy lib.forwards).walk)
    (hcomplete : c.isComplete = true) : (lib.mergedBy lib.forwards).sameName c d = false := by
  obtain ⟨d, hwalk, hkept, rfl, hsame, -⟩ := exists_of_mem_walk_mergedBy h hs hempty hd
  obtain ⟨c, hcwalk, -, rfl, -, hcsame, -⟩ := exists_of_mem_walk_mergedBy h hs hempty hc
  rw [Bool.eq_false_iff]
  intro hname
  unfold sameName at hname
  rw [qualifiedName_mergedDecl, qualifiedName_mergedDecl] at hname
  exact hkept (h.mem_forwards.2 ⟨hwalk, hsame ▸ hincomplete, c, hcwalk, hcsame ▸ hcomplete, hname⟩)

/-- A merged forward declaration is linked to its definition and out of reach. -/
theorem linked_mergedBy {d : Decl} (hd : d ∈ lib.forwards) : ∃ c, lib.definitionFor? d = some c ∧
    (lib.mergedBy lib.forwards).decl? d.id = some (d.linkTo (some c.id)) ∧
      ¬(lib.mergedBy lib.forwards).Attached d.id := by
  have hin : d.id ∈ lib.forwards.map (·.id) := List.mem_map_of_mem hd
  obtain ⟨hwalk, -, hdefined⟩ := h.mem_forwards.1 hd
  obtain ⟨c, hc⟩ := Option.isSome_iff_exists.1 (h.definitionFor?_isSome_iff.2 hdefined)
  refine ⟨c, hc, ?_, fun ha => ?_⟩
  · rw [decl?_mergedBy, (h.decl?_of_mem_walk hwalk).2, Option.map_some, mergedDecl_of_mem hin, hc]
    rfl
  · have hout := (prunedTo_mergedBy h hs hempty).isTree h
    obtain ⟨e, he, hid⟩ := hout.decl_of_attached ha
    have hmet : d.id ∈ (lib.mergedBy lib.forwards).walk.map (·.id) :=
      hid ▸ List.mem_map_of_mem (hout.mem_walk.2 ⟨_, ha, he⟩)
    rw [walk_mergedBy h hs hempty, List.mem_filter] at hmet
    simp [hin] at hmet

omit hs hempty in
/-- The link of a merged forward declaration ends at its definition, if that is not linked. -/
theorem resolve_mergedBy {c d : Decl} (hd : d ∈ lib.forwards)
    (hc : lib.definitionFor? d = some c) (hlast : c.body.record?.bind (·.definition) = none) :
    ∃ e, (lib.mergedBy lib.forwards).decl? c.id = some e ∧ e.id = c.id ∧
      (lib.mergedBy lib.forwards).resolve d.id = .ok e := by
  obtain ⟨hwalk, hincomplete, -⟩ := h.mem_forwards.1 hd
  obtain ⟨hcmem, hccomplete, -⟩ := of_definitionFor? hc
  have hdmem : d ∈ lib.classes := h.mem_classes.2 ⟨hwalk, isRecord_of_isIncomplete hincomplete⟩
  have hkept : c.id ∉ lib.forwards.map (·.id) := by
    intro hin
    obtain ⟨b, hb, hid⟩ := List.mem_map.1 hin
    obtain ⟨hbwalk, hbincomplete, -⟩ := h.mem_forwards.1 hb
    have hbmem := h.mem_classes.2 ⟨hbwalk, isRecord_of_isIncomplete hbincomplete⟩
    exact h.id_ne_of_isIncomplete hbmem hcmem hbincomplete hccomplete hid.symm
  have hget : ∀ b ∈ lib.classes, (lib.mergedBy lib.forwards).get b.id =
      .ok (lib.mergedDecl lib.forwards b.id b) := by
    intro b hb
    obtain ⟨ha, hdecl⟩ := h.attached_of_mem_classes hb
    obtain ⟨b', hb', -⟩ := h.registered b.id ha
    obtain rfl : b = b' := Option.some.inj (hdecl.symm.trans (decl?_of_registered? hb'))
    unfold get
    rw [registered?_mergedBy, hb']
    rfl
  have hlink : (lib.mergedDecl lib.forwards d.id d).body.record?.bind (·.definition) =
      some c.id := by
    rw [mergedDecl_of_mem (List.mem_map_of_mem hd), hc]
    have hrecord := isRecord_of_isIncomplete hincomplete
    unfold Decl.linkTo
    cases hb : d.body <;> simp [hb, Body.isRecord, Body.record?] at hrecord
    rfl
  have hend : (lib.mergedDecl lib.forwards c.id c).body.record?.bind (·.definition) = none := by
    rw [mergedDecl_of_not_mem hkept]
    exact (Body.record?_keep _ c.body).2.trans hlast
  have hid : (lib.mergedDecl lib.forwards c.id c).id = c.id := by
    rw [mergedDecl_of_not_mem hkept]
  have hne : c.id ≠ (lib.mergedDecl lib.forwards d.id d).id := by
    rw [mergedDecl_of_mem (List.mem_map_of_mem hd)]
    exact (h.id_ne_of_isIncomplete hdmem hcmem hincomplete hccomplete : c.id ≠ d.id)
  refine ⟨lib.mergedDecl lib.forwards c.id c, ?_, hid, ?_⟩
  · rw [decl?_mergedBy, (h.attached_of_mem_classes hcmem).2]
    rfl
  · have hstop : ∀ steps seen, (lib.mergedBy lib.forwards).resolveFrom steps seen
        (lib.mergedDecl lib.forwards c.id c) = .ok (lib.mergedDecl lib.forwards c.id c) := by
      intro steps seen
      cases steps with
      | zero => rfl
      | succ steps =>
        unfold resolveFrom
        rw [hend]
    unfold resolve
    rw [hget d hdmem]
    show resolveFrom _ (_ + 1) [_] _ = _
    unfold resolveFrom
    simp only [hlink, hget c hcmem]
    show (if _ then _ else _) = _
    rw [hid, if_neg (by simpa using hne), hstop]

/-- Merging all forward declarations of a library. -/
theorem mergedInto_mergedBy : lib.MergedInto (lib.mergedBy lib.forwards) where
  merged := by
    intro id
    rw [List.mem_map]
    constructor
    · rintro ⟨d, hd, rfl⟩
      obtain ⟨hwalk, hincomplete, hdefined⟩ := h.mem_forwards.1 hd
      exact ⟨d, hwalk, rfl, hincomplete, hdefined⟩
    · rintro ⟨d, hwalk, rfl, hincomplete, hdefined⟩
      exact ⟨d, h.mem_forwards.2 ⟨hwalk, hincomplete, hdefined⟩, rfl⟩
  linked := fun d hd => linked_mergedBy h hs hempty hd
  resolve := fun d hd c hc hlast => resolve_mergedBy h hd hc hlast
  rest := fun d hd hincomplete c hc hcomplete =>
    sameName_mergedBy h hs hempty hd hincomplete hc hcomplete
  walk := walk_mergedBy h hs hempty
  others := fun id d ha hd hkept => mergedBy_others h hs ha hd hkept
  apart := fun id ha => mergedBy_apart h hs ha
  contains := by
    intro id
    unfold contains
    rw [slots_mergedBy]
    cases lib.slots[id]? <;> rfl

end

end Library

namespace PassM

/-- Merging forward declarations takes those out that have a definition, links them to it and leaves
all else alone, and does nothing when it is done again. -/
theorem resolveIncomplete_mergedInto {s : PassState Library} (h : s.library.IsTree)
    (hs : s.library.ScopesAgree)
    (hempty : ∀ d ∈ s.library.walk, d.isIncomplete = true → d.body.children = []) :
    ∃ t, outcomeOf resolveIncomplete s = (.ok (), t) ∧
      t.tally.resolved = s.tally.resolved ++ s.library.forwards.map (·.id) ∧
      s.library.MergedInto t.library ∧
      ∃ u, outcomeOf resolveIncomplete t = (.ok (), u) ∧ u.library = t.library := by
  refine ⟨_, outcomeOf_resolveIncomplete h hs hempty, rfl,
    Library.mergedInto_mergedBy h hs hempty, ?_⟩
  have hpruned := Library.prunedTo_mergedBy h hs hempty
  have hstill : ∀ e ∈ (s.library.mergedBy s.library.forwards).walk, e.isIncomplete = true →
      e.body.children = [] := by
    intro e he hincomplete
    obtain ⟨d, hd, -, -, hsame, -, hchildren⟩ :=
      Library.exists_of_mem_walk_mergedBy h hs hempty he
    rw [List.eq_nil_iff_forall_not_mem]
    intro x hx
    have hin := hchildren x hx
    rw [hempty d hd (hsame ▸ hincomplete)] at hin
    cases hin
  -- nothing that is still incomplete has a definition
  have hnone : (s.library.mergedBy s.library.forwards).forwards = [] := by
    rw [List.eq_nil_iff_forall_not_mem]
    intro d hd
    obtain ⟨hwalk, hincomplete, c, hc, hcomplete, hname⟩ := (hpruned.isTree h).mem_forwards.1 hd
    rw [Library.sameName_mergedBy h hs hempty hwalk hincomplete hc hcomplete] at hname
    cases hname
  refine ⟨_, outcomeOf_resolveIncomplete (hpruned.isTree h) (hpruned.scopesAgree hs) hstill, ?_⟩
  show (s.library.mergedBy s.library.forwards).mergedBy
    (s.library.mergedBy s.library.forwards).forwards = _
  rw [hnone, Library.mergedBy_nil]
  rfl

/-- Two units, the first of which declares a class that the second one defines, and another class
that is defined nowhere. -/
def announced : Library :=
  ⟨.text "", .text "", [0, 3],
    [⟨{ Decl.blank 0 none (.unit ⟨[], [1, 2], [], []⟩ "a.h") with name := "a.h" }, true⟩,
      ⟨{ Decl.blank 1 (some 0) (.record ⟨true, true, false, false, [], [], [], [], [], none⟩) with
        name := "A", comment := "The first class." }, true⟩,
      ⟨{ Decl.blank 2 (some 0) (.record ⟨true, true, false, false, [], [], [], [], [], none⟩) with
        name := "B" }, true⟩,
      ⟨{ Decl.blank 3 none (.unit ⟨[], [4], [], []⟩ "b.h") with name := "b.h" }, true⟩,
      ⟨{ Decl.blank 4 (some 3) (.record ⟨false, true, false, false, [], [5], [], [], [], none⟩) with
        name := "A" }, true⟩,
      ⟨{ Decl.blank 5 (some 4) (.field "int" .everyone) with name := "x" }, true⟩]⟩

theorem resolveIncomplete_announced :
    ∃ t, outcomeOf resolveIncomplete ⟨announced, [], .empty⟩ = (.ok (), t) ∧
      t.tally.resolved = [1] ∧ announced.MergedInto t.library ∧
      t.library.walk.map (·.id) = [0, 2, 3, 4, 5] := by
  obtain ⟨htree, hscopes⟩ :=
    Library.isTree_of_isRegular (by decide +kernel : announced.isRegular = true)
  obtain ⟨t, ht, hresolved, hmerged, -⟩ :=
    resolveIncomplete_mergedInto (s := ⟨announced, [], .empty⟩) htree hscopes (by decide +kernel)
  have hforwards : announced.forwards.map (·.id) = [1] := by decide +kernel
  rw [hforwards] at hresolved
  refine ⟨t, ht, hresolved, hmerged, ?_⟩
  rw [hmerged.walk, hforwards]
  decide +kernel

/-- A unit with a forward declaration, with the class that it declares, which is linked to another
one itself, and with that one. -/
def linkedOn : Library :=
  ⟨.text "", .text "", [0],
    [⟨{ Decl.blank 0 none (.unit ⟨[], [1, 2, 3], [], []⟩ "a.h") with name := "a.h" }, true⟩,
      ⟨{ Decl.blank 1 (some 0) (.record ⟨true, false, false, false, [], [], [], [], [], none⟩) with
        name := "A" }, true⟩,
      ⟨{ Decl.blank 2 (some 0) (.record ⟨false, false, false, false, [], [], [], [], [], some 3⟩) with
        name := "A" }, true⟩,
      ⟨{ Decl.blank 3 (some 0) (.record ⟨false, false, false, false, [], [], [], [], [], none⟩) with
        name := "B" }, true⟩]⟩

/-- A unit with a forward declaration that was created in no scope, and with its class. -/
def adopted : Library :=
  ⟨.text "", .text "", [0],
    [⟨{ Decl.blank 0 none (.unit ⟨[], [1, 2], [], []⟩ "a.h") with name := "a.h" }, true⟩,
      ⟨{ Decl.blank 1 none (.record ⟨true, false, false, false, [], [], [], [], [], none⟩) with
        name := "A" }, true⟩,
      ⟨{ Decl.blank 2 (some 0) (.record ⟨false, false, false, false, [], [], [], [], [], none⟩) with
        name := "A" }, true⟩]⟩

theorem adopted_isTree : adopted.IsTree := by
  have htree := (Library.isTree_of_isRegular (by decide +kernel :
    (adopted.update 1 fun d => { d with parent := some 0 }).isRegular = true)).1
  have hsame : adopted.Rearranged (adopted.update 1 fun d => { d with parent := some 0 }) :=
    ⟨rfl, Library.matches_update (fun _ => ⟨rfl, rfl, fun _ => .refl _⟩)
      fun _ _ => ⟨rfl, rfl, fun _ => .refl _⟩⟩
  exact hsame.symm.isTree htree

/-- The link of a merged forward declaration need not end at its definition, and a forward
declaration that does not name the scope it stands in stays there. -/
theorem not_merged_away :
    (¬∀ s : PassState Library, s.library.IsTree → s.library.ScopesAgree →
      (∀ d ∈ s.library.walk, d.isIncomplete = true → d.body.children = []) →
      ∀ t, outcomeOf resolveIncomplete s = (.ok (), t) → ∀ d ∈ s.library.forwards,
        (t.library.resolve d.id).toOption.map (·.id) =
          (s.library.definitionFor? d).map (·.id)) ∧
    (¬∀ s : PassState Library, s.library.IsTree →
      (∀ d ∈ s.library.walk, d.isIncomplete = true → d.body.children = []) →
      ∀ t, outcomeOf resolveIncomplete s = (.ok (), t) → ∀ d ∈ s.library.forwards,
        ¬t.library.Attached d.id) := by
  refine ⟨fun hall => ?_, fun hall => ?_⟩
  · obtain ⟨htree, hscopes⟩ :=
      Library.isTree_of_isRegular (by decide +kernel : linkedOn.isRegular = true)
    have hempty : ∀ d ∈ linkedOn.walk, d.isIncomplete = true → d.body.children = [] := by
      decide +kernel
    have hrun := outcomeOf_resolveIncomplete (s := ⟨linkedOn, [], .empty⟩) htree hscopes hempty
    have hends := hall ⟨linkedOn, [], .empty⟩ htree hscopes hempty _ hrun
    have hfound : (linkedOn.forwards.any fun d =>
        ((linkedOn.mergedBy linkedOn.forwards).resolve d.id).toOption.map (·.id) !=
          (linkedOn.definitionFor? d).map (·.id)) = true := by decide +kernel
    obtain ⟨d, hd, hne⟩ := List.any_eq_true.1 hfound
    exact bne_iff_ne.1 hne (hends d hd)
  · have hseen : ((outcomeOf resolveIncomplete ⟨adopted, [], .empty⟩).1.isOk &&
        (outcomeOf resolveIncomplete ⟨adopted, [], .empty⟩).2.library.units == [0] &&
          ((outcomeOf resolveIncomplete ⟨adopted, [], .empty⟩).2.library.decl? 0).any fun d =>
            d.body.children.contains 1) = true := by decide +kernel
    have hforwards : (adopted.forwards.any (·.id == 1)) = true := by decide +kernel
    have hgone := hall ⟨adopted, [], .empty⟩ adopted_isTree (by decide +kernel)
    generalize outcomeOf resolveIncomplete ⟨adopted, [], .empty⟩ = out at hseen hgone
    obtain ⟨made, t⟩ := out
    simp only [Bool.and_eq_true, beq_iff_eq, Option.any_eq_true] at hseen
    obtain ⟨⟨hmade, hunits⟩, o, ho, hmem⟩ := hseen
    obtain ⟨_, rfl⟩ := exists_of_isOk hmade
    obtain ⟨d, hd, hid⟩ := List.any_eq_true.1 hforwards
    refine hgone t rfl d hd (beq_iff_eq.1 hid ▸ ⟨0, hunits ▸ List.mem_singleton.2 rfl, 1, ?_⟩)
    exact .step .self ⟨o, ho, List.contains_iff_mem.1 hmem⟩

end PassM

end Bindery
