import Bindery.Pass.Names
import Bindery.Proofs.Declaration.Pruned
import Bindery.Proofs.Declaration.Walk
import Bindery.Proofs.Naming.Names
import Bindery.Proofs.Step

/-!
# Names of their own

Giving the declarations of a module names of their own only changes names. The taken names are the
words of the module and the names of the declarations met so far, each of them once; a name that is
given is not among them and no declaration met before is renamed, so in the end all names differ.
-/

namespace Bindery

open Bindery.Naming

namespace Library

/-- The name of the declaration of a number. -/
def nameOf (lib : Library) (id : Nat) : String :=
  ((lib.decl? id).map (·.name)).getD ""

theorem nameOf_of_decl? {lib : Library} {id : Nat} {d : Decl} (h : lib.decl? id = some d) :
    lib.nameOf id = d.name := by
  simp [nameOf, h]

theorem nameOf_congr {lib out : Library} {x : Nat} (h : out.decl? x = lib.decl? x) :
    out.nameOf x = lib.nameOf x := by
  unfold nameOf
  rw [h]

theorem nameOf_rename {lib : Library} {id : Nat} {d : Decl} (h : lib.decl? id = some d)
    (name : String) : (lib.update id (·.rename name)).nameOf id = name := by
  simp [nameOf, decl?_update, h, Decl.name_rename]

theorem nameOf_rename_of_ne {lib : Library} {id x : Nat} (h : id ≠ x) (name : String) :
    (lib.update id (·.rename name)).nameOf x = lib.nameOf x := by
  simp [nameOf, decl?_update, h]

end Library

namespace PassM

/-- Taking a name changes nothing but names, whether it is refused or not. -/
theorem takeName_renamedTo (taken : List String) (id : Nat) (s : PassState Library) :
    s.library.RenamedTo (outcomeOf (takeName taken id) s).2.library := by
  unfold takeName
  rw [outcomeOf_bind_ok (outcomeOf_get s)]
  cases hd : s.library.decl? id with
  | none => exact .refl _
  | some d =>
    dsimp only
    split_ifs
    · exact .refl _
    · rw [outcomeOf_bind, outcomeOf_look]
      cases s.library.qualifiedName d with
      | error f => exact .refl _
      | ok qualified =>
        simp only [Except.mapError]
        rw [outcomeOf_bind, outcomeOf_edit]
        refine Library.RenamedTo.update fun e he hv => isValid_unique ?_ _ _
        rw [hd] at he
        cases he
        split_ifs with hcandidate
        · exact hv
        · exact isValid_sanitize hcandidate

/-- What taking a name comes to: it is refused, or the declaration has a name of its own now, which
is taken, and nothing else is renamed. -/
theorem outcomeOf_takeName {taken : List String} {id : Nat} {s t : PassState Library}
    {after : List String} (h : outcomeOf (takeName taken id) s = (.ok after, t))
    {d : Decl} (hd : s.library.decl? id = some d) :
    s.library.RenamedTo t.library ∧ (∀ x ≠ id, t.library.nameOf x = s.library.nameOf x) ∧
      t.library.nameOf id ∉ taken ∧ after = t.library.nameOf id :: taken := by
  have hrenamed := takeName_renamedTo taken id s
  rw [h] at hrenamed
  refine ⟨hrenamed, ?_⟩
  unfold takeName at h
  rw [outcomeOf_bind_ok (outcomeOf_get s)] at h
  simp only [hd] at h
  split_ifs at h with hfree
  · cases h
    rw [Library.nameOf_of_decl? hd]
    exact ⟨fun _ _ => rfl, by simpa using hfree, rfl⟩
  · obtain ⟨qualified, u, hlook, hrest⟩ := exists_of_outcomeOf_bind h
    obtain ⟨-, hu⟩ := eq_of_outcomeOf_look hlook
    rw [hu, outcomeOf_bind, outcomeOf_edit] at hrest
    cases hrest
    set candidate := sanitize (String.ofList (flattenScopes qualified.toList)) with hc
    set name := unique taken (if candidate = "" then d.name else candidate) 1 with hn
    have hname : (s.library.update id (·.rename name)).nameOf id = name :=
      Library.nameOf_rename hd name
    refine ⟨fun x hx => Library.nameOf_rename_of_ne hx.symm name, ?_, ?_⟩
    · show (s.library.update id (·.rename name)).nameOf id ∉ taken
      rw [hname]
      exact unique_not_mem _ _ _
    · show name :: taken = (s.library.update id (·.rename name)).nameOf id :: taken
      rw [hname]

/-- Where qualified names can be told, taking a name is not refused. -/
theorem exists_takeName {s : PassState Library} {id : Nat}
    (hq : ∀ d, s.library.decl? id = some d → ∃ q, s.library.qualifiedName d = .ok q)
    (taken : List String) : ∃ after t, outcomeOf (takeName taken id) s = (.ok after, t) := by
  unfold takeName
  rw [outcomeOf_bind_ok (outcomeOf_get s)]
  cases hd : s.library.decl? id with
  | none => exact ⟨_, _, rfl⟩
  | some d =>
    obtain ⟨q, hq⟩ := hq d hd
    dsimp only
    split_ifs
    · exact ⟨_, _, rfl⟩
    · rw [outcomeOf_bind, outcomeOf_look, hq]
      exact ⟨_, _, rfl⟩

/-- Taking names one after the other: the names taken in the end all differ. `done` has the
declarations whose names were taken before, last first. -/
theorem outcomeOf_takeNames {ids done : List Nat} {s t : PassState Library}
    {taken after : List String} (h : outcomeOf (ids.foldlM takeName taken) s = (.ok after, t))
    (hd : ∀ id ∈ ids, ∃ d, s.library.decl? id = some d) (hids : ids.Nodup)
    (happart : ∀ id ∈ ids, id ∉ done) (htaken : taken = done.map s.library.nameOf ++ moduleWords)
    (hnodup : taken.Nodup) : s.library.RenamedTo t.library ∧
      ((ids.reverse ++ done).map t.library.nameOf ++ moduleWords).Nodup := by
  induction ids generalizing done s taken with
  | nil =>
    cases h
    exact ⟨.refl _, by rw [htaken] at hnodup; exact hnodup⟩
  | cons id ids ih =>
    rw [List.foldlM_cons] at h
    obtain ⟨next, u, hfirst, h⟩ := exists_of_outcomeOf_bind h
    obtain ⟨d, hid⟩ := hd id (List.mem_cons_self ..)
    obtain ⟨hrenamed, hothers, hfree, rfl⟩ := outcomeOf_takeName hfirst hid
    obtain ⟨hnew, hids⟩ := List.nodup_cons.1 hids
    have hstill : ∀ x ∈ ids, ∃ d, u.library.decl? x = some d := by
      intro x hx
      obtain ⟨d, hd⟩ := hd x (List.mem_cons_of_mem _ hx)
      obtain ⟨e, he, -⟩ := hrenamed.slots.exists_of_decl? hd
      exact ⟨e, he⟩
    have happart' : ∀ x ∈ ids, x ∉ id :: done := by
      intro x hx hmem
      rcases List.mem_cons.1 hmem with rfl | hmem
      · exact hnew hx
      · exact happart x (List.mem_cons_of_mem _ hx) hmem
    have htaken' : u.library.nameOf id :: taken =
        (id :: done).map u.library.nameOf ++ moduleWords := by
      have hsame : done.map u.library.nameOf = done.map s.library.nameOf := by
        refine List.map_congr_left fun x hx => hothers x ?_
        rintro rfl
        exact happart x (List.mem_cons_self ..) hx
      rw [htaken, List.map_cons, hsame]
      rfl
    obtain ⟨hrest, hall⟩ :=
      ih h hstill hids happart' htaken' (List.nodup_cons.2 ⟨hfree, hnodup⟩)
    refine ⟨hrenamed.trans hrest, ?_⟩
    rw [List.reverse_cons, List.append_assoc]
    exact hall

theorem decl?_of_mem_moduleLevel {lib : Library} (h : lib.IsTree) {id : Nat}
    (hid : id ∈ lib.moduleLevel.map (·.id)) :
    lib.Attached id ∧ ∃ d, lib.decl? id = some d := by
  obtain ⟨d, hd, rfl⟩ := List.mem_map.1 hid
  have hw : d ∈ lib.walk := (List.mem_filter.1 (List.mem_mergeSort.1 hd)).1
  obtain ⟨ha, hd'⟩ := h.decl?_of_mem_walk hw
  exact ⟨ha, d, hd'⟩

theorem moduleLevel_nodup {lib : Library} (h : lib.IsTree) :
    (lib.moduleLevel.map (·.id)).Nodup := by
  have hperm := (List.mergeSort_perm (lib.walk.filter Library.isModuleLevel)
    fun a b => decide (a.order ≤ b.order)).map (·.id)
  exact hperm.nodup_iff.2 (h.walk_nodup.sublist (List.filter_sublist.map _))

/-- Giving names of their own to the declarations of a module only changes names, and in the end
their names differ from each other and from the words of the module. -/
theorem outcomeOf_separateModuleNames {s t : PassState Library} (h : s.library.IsTree)
    (ho : outcomeOf separateModuleNames s = (.ok (), t)) : s.library.RenamedTo t.library ∧
      ((s.library.moduleLevel.map (·.id)).map t.library.nameOf ++ moduleWords).Nodup := by
  unfold separateModuleNames at ho
  rw [outcomeOf_bind_ok (outcomeOf_get s)] at ho
  obtain ⟨after, u, hf, ho⟩ := exists_of_outcomeOf_bind ho
  cases ho
  obtain ⟨hrenamed, hnodup⟩ := outcomeOf_takeNames hf
    (fun id hid => (decl?_of_mem_moduleLevel h hid).2) (moduleLevel_nodup h)
    (fun _ _ => List.not_mem_nil) rfl (by decide)
  refine ⟨hrenamed, ?_⟩
  rw [List.append_nil, List.map_reverse] at hnodup
  exact (((List.reverse_perm _).append_right _).nodup_iff).1 hnodup

/-- Nothing but names changes, whether some name is refused or not. -/
theorem separateModuleNames_renamedTo (s : PassState Library) :
    s.library.RenamedTo (outcomeOf separateModuleNames s).2.library := by
  unfold separateModuleNames
  rw [outcomeOf_bind_ok (outcomeOf_get s)]
  let P : PassState Library → Prop := fun t => s.library.RenamedTo t.library
  refine outcomeOf_bind_leaves (P := P) (Q := P) ?_ (fun _ ht => ht) fun _ _ ht => ht
  exact outcomeOf_foldlM_keeps (fun id _ taken t ht => ht.trans (takeName_renamedTo taken id t))
    (.refl s.library)

/-- In a tree whose scopes agree with its lists this is never refused. -/
theorem exists_separateModuleNames {s : PassState Library} (h : s.library.IsTree)
    (hs : s.library.ScopesAgree) : ∃ t, outcomeOf separateModuleNames s = (.ok (), t) := by
  unfold separateModuleNames
  rw [outcomeOf_bind_ok (outcomeOf_get s)]
  suffices hfold : ∃ after t, outcomeOf ((s.library.moduleLevel.map (·.id)).foldlM takeName
      moduleWords) s = (.ok after, t) ∧ s.library.RenamedTo t.library by
    obtain ⟨after, t, ht, -⟩ := hfold
    rw [outcomeOf_bind_ok ht]
    exact ⟨t, rfl⟩
  refine outcomeOf_foldlM_ok
    (I := fun _ (t : PassState Library) => s.library.RenamedTo t.library) ?_ (.refl _)
  intro id hid taken u hu
  obtain ⟨ha, d, hd⟩ := decl?_of_mem_moduleLevel h hid
  have hq : ∀ e, u.library.decl? id = some e → ∃ q, u.library.qualifiedName e = .ok q :=
    fun e he => Library.exists_qualifiedName (hu.prunedTo.isTree h) (hu.prunedTo.scopesAgree hs)
      (hu.attached_iff.2 ha) he
  obtain ⟨after, t, ht⟩ := exists_takeName hq taken
  obtain ⟨e, he, -⟩ := hu.slots.exists_of_decl? hd
  exact ⟨after, t, ht, hu.trans (outcomeOf_takeName ht he).1⟩

end PassM

end Bindery
