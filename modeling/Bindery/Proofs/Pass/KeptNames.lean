import Bindery.Proofs.Declaration.Parents
import Bindery.Proofs.Pass.ModuleNames

/-!
# Names that are kept

A name that is free is kept, and one that is taken is replaced by one that is free. So whether a
declaration of the module keeps its name depends on the names taken before its turn: the words of
the module, and what the declarations before it were given. A name that was given in the place of
another one counts like any other, and the first declaration that was called so all along loses it.
-/

namespace Bindery

open Bindery.Naming

namespace PassM

/-! ### Names taken one after the other -/

/-- A free name is kept. -/
theorem outcomeOf_takeName_of_not_mem {taken : List String} {id : Nat} {s : PassState Library}
    {d : Decl} (hd : s.library.decl? id = some d) (hfree : d.name ∉ taken) :
    outcomeOf (takeName taken id) s = (.ok (d.name :: taken), s) := by
  unfold takeName
  rw [outcomeOf_bind_ok (outcomeOf_get s)]
  simp only [hd]
  rw [if_pos (by simpa using hfree)]
  rfl

/-- What becomes of the names of a library and of the taken ones when the declarations of some
numbers take names. -/
structure Taking (ids : List Nat) (taken after : List String) (lib out : Library) : Prop where
  /-- What is taken stays so. -/
  grown : taken ⊆ after
  /-- No other declaration is renamed. -/
  others : ∀ x ∉ ids, out.nameOf x = lib.nameOf x
  /-- The names that the declarations came with are taken. -/
  original : ∀ x ∈ ids, lib.nameOf x ∈ after
  /-- The names that they have now were free. -/
  free : ∀ x ∈ ids, out.nameOf x ∉ taken
  /-- Where none of them had two turns, only the names that they have now were added. -/
  added : ids.Nodup → after = (ids.map out.nameOf).reverse ++ taken
  /-- The numbers still have declarations. -/
  found : ∀ x, (∃ d, lib.decl? x = some d) → ∃ d, out.decl? x = some d

theorem Taking.nil (taken : List String) (lib : Library) : Taking [] taken taken lib lib where
  grown := List.Subset.refl _
  others := fun _ _ => rfl
  original := fun _ hx => absurd hx List.not_mem_nil
  free := fun _ hx => absurd hx List.not_mem_nil
  added := fun _ => rfl
  found := fun _ hx => hx

theorem Taking.of_takeName {taken after : List String} {id : Nat} {s t : PassState Library}
    (h : outcomeOf (takeName taken id) s = (.ok after, t))
    (hd : ∃ d, s.library.decl? id = some d) : Taking [id] taken after s.library t.library := by
  obtain ⟨d, hd⟩ := hd
  obtain ⟨hrenamed, hothers, hfree, rfl⟩ := outcomeOf_takeName h hd
  refine ⟨List.subset_cons_self .., ?_, ?_, ?_, fun _ => rfl, ?_⟩
  · intro x hx
    exact hothers x (by simpa using hx)
  · intro x hx
    obtain rfl := List.mem_singleton.1 hx
    rw [Library.nameOf_of_decl? hd]
    by_cases hmem : d.name ∈ taken
    · exact List.mem_cons_of_mem _ hmem
    · rw [outcomeOf_takeName_of_not_mem hd hmem] at h
      obtain ⟨-, rfl⟩ := Prod.mk.inj h
      rw [Library.nameOf_of_decl? hd]
      exact List.mem_cons_self ..
  · intro x hx
    obtain rfl := List.mem_singleton.1 hx
    exact hfree
  · rintro x ⟨e, he⟩
    obtain ⟨e', he', -⟩ := hrenamed.slots.exists_of_decl? he
    exact ⟨e', he'⟩

/-- Turns taken one behind the other. -/
theorem Taking.append {ids later : List Nat} {taken middle after : List String}
    {lib mid out : Library} (h : Taking ids taken middle lib mid)
    (h' : Taking later middle after mid out) : Taking (ids ++ later) taken after lib out where
  grown := List.Subset.trans h.grown h'.grown
  others := by
    intro x hx
    rw [List.mem_append, not_or] at hx
    rw [h'.others x hx.2, h.others x hx.1]
  original := by
    intro x hx
    by_cases hfirst : x ∈ ids
    · exact h'.grown (h.original x hfirst)
    · rw [← h.others x hfirst]
      exact h'.original x ((List.mem_append.1 hx).resolve_left hfirst)
  free := by
    intro x hx
    by_cases hlater : x ∈ later
    · exact fun hmem => h'.free x hlater (h.grown hmem)
    · rw [h'.others x hlater]
      exact h.free x ((List.mem_append.1 hx).resolve_right hlater)
  added := by
    intro hnodup
    obtain ⟨hids, hlater, happart⟩ := List.nodup_append'.1 hnodup
    have hsame : ids.map out.nameOf = ids.map mid.nameOf :=
      List.map_congr_left fun x hx => h'.others x fun hx' => happart hx hx'
    rw [h'.added hlater, h.added hids, List.map_append, hsame, List.reverse_append,
      List.append_assoc]
  found := fun x hx => h'.found x (h.found x hx)

theorem Taking.of_takeNames {ids : List Nat} {taken after : List String} {s t : PassState Library}
    (h : outcomeOf (ids.foldlM takeName taken) s = (.ok after, t))
    (hd : ∀ id ∈ ids, ∃ d, s.library.decl? id = some d) :
    Taking ids taken after s.library t.library := by
  induction ids generalizing s taken with
  | nil =>
    cases h
    exact .nil _ _
  | cons id ids ih =>
    rw [List.foldlM_cons] at h
    obtain ⟨next, u, hfirst, h⟩ := exists_of_outcomeOf_bind h
    have hturn := Taking.of_takeName hfirst (hd id (List.mem_cons_self ..))
    exact hturn.append (ih h fun x hx => hturn.found x (hd x (List.mem_cons_of_mem _ hx)))

/-- A declaration keeps its name just if the name is free in its turn and the turn is its last. -/
theorem Taking.nameOf_eq_iff {before after : List Nat} {id : Nat}
    {taken middle next all : List String} {s u v : PassState Library} {out : Library}
    (first : Taking before taken middle s.library u.library)
    (hturn : outcomeOf (takeName middle id) u = (.ok next, v))
    (last : Taking after next all v.library out) (hd : ∃ d, s.library.decl? id = some d) :
    out.nameOf id = s.library.nameOf id ↔ s.library.nameOf id ∉ middle ∧ id ∉ after := by
  have own := Taking.of_takeName hturn (first.found id hd)
  constructor
  · intro hkept
    have hlast : id ∉ after := by
      intro hmem
      have horiginal := (first.append own).original id (by simp)
      exact last.free id hmem (hkept ▸ horiginal)
    rw [last.others id hlast] at hkept
    exact ⟨hkept ▸ own.free id (List.mem_singleton_self _), hlast⟩
  · rintro ⟨hfree, hlast⟩
    have hfirst : id ∉ before := fun hmem => hfree (first.original id hmem)
    have hsame := first.others id hfirst
    obtain ⟨d, hd⟩ := first.found id hd
    rw [← hsame, Library.nameOf_of_decl? hd] at hfree
    rw [outcomeOf_takeName_of_not_mem hd hfree] at hturn
    obtain ⟨-, rfl⟩ := Prod.mk.inj hturn
    rw [last.others id hlast, hsame]

/-! ### The names of a module -/

/-- The names that are taken when the declarations of some numbers have had their turns. -/
def takenBy (s : PassState Library) (ids : List Nat) : List String :=
  match (outcomeOf (ids.foldlM takeName moduleWords) s).1 with
  | .ok taken => taken
  | .error _ => moduleWords

/-- What comes earlier in definition order stands before a declaration of the module. -/
theorem mem_before_of_order_lt {lib : Library} {before after : List Decl} {d e : Decl}
    (h : lib.moduleLevel = before ++ d :: after) (he : e ∈ lib.moduleLevel)
    (hlt : e.order < d.order) : e ∈ before := by
  have hsorted : lib.moduleLevel.Pairwise fun a b => decide (a.order ≤ b.order) = true :=
    List.pairwise_mergeSort (fun a b c hab hbc => by simp only [decide_eq_true_eq] at *; omega)
      (fun a b => by simp only [Bool.or_eq_true, decide_eq_true_eq]; omega) _
  rw [h] at hsorted he
  obtain ⟨hbehind, -⟩ := List.pairwise_cons.1 (List.pairwise_append.1 hsorted).2.1
  rcases List.mem_append.1 he with hbefore | hmem
  · exact hbefore
  · rcases List.mem_cons.1 hmem with rfl | hafter
    · omega
    · have hle := hbehind e hafter
      rw [decide_eq_true_eq] at hle
      omega

/-- The run, parted at the turn of one declaration of the module. -/
theorem exists_turn {s t : PassState Library}
    (hd : ∀ d ∈ s.library.moduleLevel, s.library.decl? d.id = some d)
    (h : outcomeOf separateModuleNames s = (.ok (), t)) {before after : List Decl} {d : Decl}
    (hsplit : s.library.moduleLevel = before ++ d :: after) :
    ∃ next all u v,
      Taking (before.map (·.id)) moduleWords (takenBy s (before.map (·.id))) s.library u.library ∧
      outcomeOf (takeName (takenBy s (before.map (·.id))) d.id) u = (.ok next, v) ∧
      Taking (after.map (·.id)) next all v.library t.library := by
  have hfound : ∀ e ∈ before ++ d :: after, ∃ e', s.library.decl? e.id = some e' :=
    fun e he => ⟨e, hd e (hsplit ▸ he)⟩
  unfold separateModuleNames at h
  rw [outcomeOf_bind_ok (outcomeOf_get s)] at h
  obtain ⟨all, u, hall, h⟩ := exists_of_outcomeOf_bind h
  cases h
  rw [hsplit, List.map_append, List.map_cons, List.foldlM_append] at hall
  obtain ⟨taken, u, hbefore, hrest⟩ := exists_of_outcomeOf_bind hall
  rw [List.foldlM_cons] at hrest
  obtain ⟨next, v, hturn, hafter⟩ := exists_of_outcomeOf_bind hrest
  have htaken : takenBy s (before.map (·.id)) = taken := by
    unfold takenBy
    rw [hbefore]
  have first : Taking (before.map (·.id)) moduleWords taken s.library u.library := by
    refine Taking.of_takeNames hbefore fun id hid => ?_
    obtain ⟨e, he, rfl⟩ := List.mem_map.1 hid
    exact hfound e (List.mem_append_left _ he)
  have own : Taking [d.id] taken next u.library v.library :=
    Taking.of_takeName hturn (first.found d.id (hfound d (by simp)))
  refine ⟨next, all, u, v, htaken ▸ first, htaken ▸ hturn, ?_⟩
  refine Taking.of_takeNames hafter fun id hid => ?_
  obtain ⟨e, he, rfl⟩ := List.mem_map.1 hid
  exact own.found e.id (first.found e.id (hfound e (by simp [he])))

/-- A declaration of the module keeps its name just if the name is not taken when its turn comes,
and there is no other turn. Taken are the words of the module and the names that the declarations
before it were given, which need not be those they came with. -/
theorem separateModuleNames_keeps_iff {s : PassState Library}
    (hd : ∀ d ∈ s.library.moduleLevel, s.library.decl? d.id = some d) :
    (s.library.IsTree → s.library.ScopesAgree →
      ∃ t, outcomeOf separateModuleNames s = (.ok (), t)) ∧
    ∀ t, outcomeOf separateModuleNames s = (.ok (), t) →
      ∀ before d after, s.library.moduleLevel = before ++ d :: after →
        (∀ e ∈ s.library.moduleLevel, e.order < d.order → e ∈ before) ∧
        (t.library.nameOf d.id = d.name ↔
          d.name ∉ takenBy s (before.map (·.id)) ∧ d.id ∉ after.map (·.id)) ∧
        moduleWords ⊆ takenBy s (before.map (·.id)) ∧
        (∀ e ∈ before, e.name ∈ takenBy s (before.map (·.id))) ∧
        ((s.library.moduleLevel.map (·.id)).Nodup → ∀ n, n ∈ takenBy s (before.map (·.id)) ↔
          n ∈ moduleWords ∨ ∃ e ∈ before, t.library.nameOf e.id = n) := by
  refine ⟨exists_separateModuleNames, ?_⟩
  intro t h before d after hsplit
  obtain ⟨next, all, u, v, first, hturn, last⟩ := exists_turn hd h hsplit
  have hname : ∀ e ∈ before ++ d :: after, s.library.nameOf e.id = e.name :=
    fun e he => Library.nameOf_of_decl? (hd e (hsplit ▸ he))
  have hown : ∃ e, s.library.decl? d.id = some e := ⟨d, hd d (by simp [hsplit])⟩
  refine ⟨fun e he hlt => mem_before_of_order_lt hsplit he hlt, ?_, first.grown, ?_, ?_⟩
  · rw [← hname d (by simp)]
    exact first.nameOf_eq_iff hturn last hown
  · intro e he
    rw [← hname e (List.mem_append_left _ he)]
    exact first.original e.id (List.mem_map.2 ⟨e, he, rfl⟩)
  · intro hnodup n
    rw [hsplit, List.map_append, List.map_cons] at hnodup
    obtain ⟨hbefore, -, happart⟩ := List.nodup_append'.1 hnodup
    have own := Taking.of_takeName hturn (first.found d.id hown)
    have hsame : (before.map (·.id)).map u.library.nameOf =
        (before.map (·.id)).map t.library.nameOf := by
      refine List.map_congr_left fun x hx => ?_
      have hlater : x ∉ [d.id] ++ after.map (·.id) := fun hx' => happart hx hx'
      exact ((own.append last).others x hlater).symm
    rw [first.added hbefore, hsame, List.mem_append, List.mem_reverse, List.map_map,
      List.mem_map]
    exact or_comm

/-- A unit with a class, with another class of the same name in a second scope, and with a class
whose name is what the second one is called by its scope. -/
def foretold : Library :=
  ⟨.text "", .text "", [0],
    [⟨{ Decl.blank 0 none (.unit ⟨[1, 3], [5], [], []⟩ "a.h") with name := "a.h" }, true⟩,
      ⟨{ Decl.blank 1 (some 0) (.space ⟨[], [2], [], []⟩) with name := "a" }, true⟩,
      ⟨{ Decl.blank 2 (some 1) (.record ⟨false, true, false, false, [], [], [], [], [], none⟩) with
        name := "Foo" }, true⟩,
      ⟨{ Decl.blank 3 (some 0) (.space ⟨[], [4], [], []⟩) with name := "b" }, true⟩,
      ⟨{ Decl.blank 4 (some 3) (.record ⟨false, true, false, false, [], [], [], [], [], none⟩) with
        name := "Foo" }, true⟩,
      ⟨{ Decl.blank 5 (some 0) (.record ⟨false, true, false, false, [], [], [], [], [], none⟩) with
        name := "b_Foo" }, true⟩]⟩

theorem isTree_foretold : foretold.IsTree ∧ foretold.ScopesAgree :=
  Library.isTree_of_isRegular (by decide +kernel)

theorem moduleLevel_foretold :
    foretold.moduleLevel = foretold.walk.filter Library.isModuleLevel :=
  List.mergeSort_of_pairwise (by decide +kernel)

theorem separateModuleNames_keeps_foretold :
    ∃ t, outcomeOf separateModuleNames ⟨foretold, [], .empty⟩ = (.ok (), t) ∧
      t.library.nameOf 2 = "Foo" ∧ t.library.nameOf 4 ≠ "Foo" ∧ t.library.nameOf 5 ≠ "b_Foo" := by
  obtain ⟨htree, hscopes⟩ := isTree_foretold
  obtain ⟨hruns, hkeeps⟩ := separateModuleNames_keeps_iff (s := ⟨foretold, [], .empty⟩)
    fun d hd => (htree.decl?_of_mem_walk (List.mem_filter.1 (List.mem_mergeSort.1 hd)).1).2
  obtain ⟨t, ht⟩ := hruns htree hscopes
  refine ⟨t, ht, ?_, ?_, ?_⟩
  · obtain ⟨-, hiff, -⟩ := hkeeps t ht [] _ _ (moduleLevel_foretold.trans rfl)
    exact hiff.2 ⟨by decide +kernel, by decide +kernel⟩
  · obtain ⟨-, hiff, -⟩ := hkeeps t ht [_] _ _ (moduleLevel_foretold.trans rfl)
    exact fun hkept => (hiff.1 hkept).1 (by decide +kernel)
  · obtain ⟨-, hiff, -⟩ := hkeeps t ht [_, _] _ _ (moduleLevel_foretold.trans rfl)
    exact fun hkept => (hiff.1 hkept).1 (by decide +kernel)

/-- The first declaration of a name can lose it to one that only takes it in its turn. -/
theorem first_not_kept :
    ¬∀ s : PassState Library, s.library.IsTree → s.library.ScopesAgree →
      ∀ t, outcomeOf separateModuleNames s = (.ok (), t) →
        ∀ d ∈ s.library.moduleLevel, d.name ∉ moduleWords →
          (∀ e ∈ s.library.moduleLevel, e.order < d.order → e.name ≠ d.name) →
            t.library.nameOf d.id = d.name := by
  intro hall
  obtain ⟨htree, hscopes⟩ := isTree_foretold
  obtain ⟨t, ht⟩ := exists_separateModuleNames (s := ⟨foretold, [], .empty⟩) htree hscopes
  have hkept := hall ⟨foretold, [], .empty⟩ htree hscopes t ht
  have hfirst : ∃ d ∈ foretold.moduleLevel, d.name = "b_Foo" ∧ d.id = 5 ∧
      ∀ e ∈ foretold.moduleLevel, e.order < d.order → e.name ≠ d.name := by
    rw [moduleLevel_foretold]
    decide +kernel
  obtain ⟨d, hd, hname, hid, hbefore⟩ := hfirst
  have hrun : (outcomeOf ([2, 4, 5].foldlM takeName moduleWords)
      ⟨foretold, [], .empty⟩).2.library.nameOf 5 = "b_Foo_1" := by decide +kernel
  have hids : foretold.moduleLevel.map (·.id) = [2, 4, 5] := by
    rw [moduleLevel_foretold]
    decide +kernel
  unfold separateModuleNames at ht
  rw [outcomeOf_bind_ok (outcomeOf_get _), hids] at ht
  obtain ⟨_, u, hfold, ht⟩ := exists_of_outcomeOf_bind ht
  cases ht
  rw [hfold] at hrun
  have hsame := hkept d hd (by rw [hname]; decide) hbefore
  rw [hid, hname, hrun] at hsame
  exact absurd hsame (by decide)

end PassM

end Bindery
