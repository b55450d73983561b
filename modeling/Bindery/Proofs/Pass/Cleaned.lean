import Bindery.Proofs.Declaration.Parents
import Bindery.Proofs.Pass.CleanNames
import Bindery.Proofs.Pass.ModuleNames
import Mathlib.Tactic.IntervalCases

/-!
# What cleaning names comes to

A scope is cleaned child by child, and what lies inside a child is cleaned before the next one comes.
Names that can be used stay, and what gets a name is given one that nothing in the scope has, not even
what comes later and keeps its own. Cleaning a child changes nothing outside of it, so that what holds
of each scope behind its own cleaning holds of all of them in the end.
-/

namespace Bindery

open Bindery.Naming

/-! ### Names of parameters -/

theorem isValid_arg (n : Nat) : isValid ("arg" ++ toString n) = true := by
  have hwords : ∀ w ∈ reservedWords, w.toList.take 3 ≠ ['a', 'r', 'g'] := by decide
  have hchars : ("arg" ++ toString n).toList = 'a' :: 'r' :: 'g' :: (toString n).toList := by
    rw [String.toList_append]
    rfl
  rw [isValid_iff, hchars]
  refine ⟨by simp, ?_, by simp only [List.head?_cons]; decide, ?_⟩
  · simp only [List.all_cons, all_isNameChar_toString]
    decide
  · rw [← Bool.not_eq_true]
    intro hr
    have hnone := hwords _ (List.contains_iff_mem.1 hr)
    rw [String.toList_ofList] at hnone
    exact hnone rfl

/-- A parameter has its place, if it is one, from zero on. -/
def Decl.Placed (d : Decl) : Prop :=
  ∀ type index, d.body = .parameter type index → 0 ≤ index

/-- The name made for a declaration in a scope with a usable name can be used, also for a parameter
that has its place. -/
theorem isValid_deriveName_of_placed {scope d : Decl} {ordinals : Ordinals}
    (hs : isValid scope.name = true ∨ scope.body.form = .unit) (hd : d.Placed) :
    isValid (deriveName scope d ordinals).1 = true := by
  by_cases hnamed : d.body.form = .parameter → d.name ≠ ""
  · exact isValid_deriveName_of_named hs hnamed
  · simp only [Classical.not_imp, not_not] at hnamed
    cases hb : d.body with
    | parameter type index =>
      obtain ⟨n, rfl⟩ := Int.eq_ofNat_of_zero_le (hd type index hb)
      unfold deriveName
      simp only [hb, if_pos hnamed.2]
      exact isValid_arg n
    | _ => simp [hb, Body.form] at hnamed

/-! ### One scope -/

namespace Library

section

variable {lib mid cur out : Library} {children told : List Nat}

/-- Some of what lies in a scope has names that can be used. -/
structure CleanedIn (lib out : Library) (children : List Nat) : Prop where
  /-- What had one stays as it is. -/
  kept : ∀ x ∈ children, ∀ d, lib.decl? x = some d → isValid d.name = true →
    out.decl? x = some d
  /-- All else gets one and remembers the name it had at first. -/
  made : ∀ x ∈ children, ∀ d, lib.decl? x = some d → isValid d.name = false →
    ∃ name, isValid name = true ∧
      out.decl? x = some { d with name := name, givenName := some (d.givenName.getD d.name) }
  /-- Names are shared only by what had them before. -/
  apart : ∀ x ∈ children, ∀ y ∈ children, x ≠ y → out.nameOf x = out.nameOf y →
    isValid (lib.nameOf x) = true ∧ isValid (lib.nameOf y) = true

/-- What becomes of declarations elsewhere does not matter. -/
theorem CleanedIn.congr (h : lib.CleanedIn cur children)
    (hlib : ∀ x ∈ children, mid.decl? x = lib.decl? x)
    (hout : ∀ x ∈ children, out.decl? x = cur.decl? x) : mid.CleanedIn out children where
  kept := by
    intro x hx d hd hv
    rw [hout x hx]
    exact h.kept x hx d (hlib x hx ▸ hd) hv
  made := by
    intro x hx d hd hv
    rw [hout x hx]
    exact h.made x hx d (hlib x hx ▸ hd) hv
  apart := by
    intro x hx y hy hne hsame
    rw [nameOf_congr (hout x hx), nameOf_congr (hout y hy)] at hsame
    rw [nameOf_congr (hlib x hx), nameOf_congr (hlib y hy)]
    exact h.apart x hx y hy hne hsame

/-- How far the names of a scope were cleaned. -/
structure CleaningIn (lib : Library) (children told : List Nat) (c : Cleaning) : Prop where
  /-- They were cleaned. -/
  cleaned : lib.CleanedIn c.library told
  /-- No name that was made is one that is kept. -/
  fresh : ∀ x ∈ told, isValid (lib.nameOf x) = false → ∀ y ∈ children,
    isValid (lib.nameOf y) = true → c.library.nameOf x ≠ lib.nameOf y
  /-- Names that can be used are taken. -/
  taken_old : ∀ x ∈ children, isValid (lib.nameOf x) = true → lib.nameOf x ∈ c.taken
  /-- So are the new ones. -/
  taken_new : ∀ x ∈ told, c.library.nameOf x ∈ c.taken

/-- What cleaning one child comes to. -/
theorem cleanChild_cases {c : Cleaning} {q : Nat} {e : Decl} (he : c.library.decl? q = some e)
    {scope : Decl} (hs : isValid scope.name = true ∨ scope.body.form = .unit) (hplaced : e.Placed) :
    (isValid e.name = true ∧ c.cleanChild scope q = c) ∨
      (isValid e.name = false ∧ ∃ name, isValid name = true ∧ name ∉ c.taken ∧
        (c.cleanChild scope q).library = c.library.update q (·.rename name) ∧
        (c.cleanChild scope q).taken = name :: c.taken) := by
  unfold Cleaning.cleanChild
  simp only [he]
  cases hv : isValid e.name with
  | true => exact .inl ⟨rfl, if_pos rfl⟩
  | false =>
    refine .inr ⟨rfl, unique c.taken (deriveName scope e c.ordinals).1 1,
      isValid_unique (isValid_deriveName_of_placed hs hplaced) _ _, unique_not_mem _ _ _, ?_, ?_⟩ <;>
    rfl

/-- A child that was cleaned has a name that can be used. -/
theorem exists_of_cleanChild {c : Cleaning} {q : Nat} {e : Decl}
    (he : c.library.decl? q = some e) {scope : Decl}
    (hs : isValid scope.name = true ∨ scope.body.form = .unit) (hplaced : e.Placed) :
    ∃ g, (c.cleanChild scope q).library.decl? q = some g ∧ isValid g.name = true := by
  rcases cleanChild_cases he hs hplaced with ⟨hv, hsame⟩ | ⟨-, name, hvalid, -, hlibrary, -⟩
  · rw [hsame]
    exact ⟨e, he, hv⟩
  · refine ⟨e.rename name, ?_, (Decl.name_rename e name).symm ▸ hvalid⟩
    rw [hlibrary, decl?_update, if_pos rfl, he]
    rfl

namespace CleaningIn

variable {c : Cleaning} {q : Nat} {e : Decl}

/-- What becomes of declarations elsewhere does not matter. -/
theorem congr (h : lib.CleaningIn children told c) (hout : ∀ x ∈ told, out.decl? x =
    c.library.decl? x) (renamed : Nat) :
    lib.CleaningIn children told { c with library := out, renamed := renamed } := by
  have hname : ∀ x ∈ told, out.nameOf x = c.library.nameOf x := fun x hx => nameOf_congr (hout x hx)
  refine ⟨h.cleaned.congr (fun _ _ => rfl) hout, fun x hx => ?_, h.taken_old, fun x hx => ?_⟩
  · show _ → ∀ y ∈ children, _ → out.nameOf x ≠ _
    rw [hname x hx]
    exact h.fresh x hx
  · show out.nameOf x ∈ c.taken
    rw [hname x hx]
    exact h.taken_new x hx

/-- A child whose name can be used. -/
theorem keep (h : lib.CleaningIn children told c) (hq : q ∈ children)
    (hsame : c.library.decl? q = lib.decl? q) (he : lib.decl? q = some e)
    (hv : isValid e.name = true) : lib.CleaningIn children (told ++ [q]) c := by
  have hold : lib.nameOf q = e.name := nameOf_of_decl? he
  have hnow : c.library.nameOf q = lib.nameOf q := nameOf_congr hsame
  have hvalid : isValid (lib.nameOf q) = true := hold ▸ hv
  have hlast : ∀ x ∈ told, c.library.nameOf x = c.library.nameOf q →
      isValid (lib.nameOf x) = true := by
    intro x hx heq
    by_contra hinvalid
    exact h.fresh x hx (Bool.eq_false_iff.2 hinvalid) q hq hvalid (heq.trans hnow)
  refine ⟨⟨?_, ?_, ?_⟩, ?_, h.taken_old, ?_⟩
  · intro x hx d hd hvd
    rcases List.mem_append.1 hx with hx | hx
    · exact h.cleaned.kept x hx d hd hvd
    · rw [List.mem_singleton.1 hx] at hd ⊢
      exact hsame.trans hd
  · intro x hx d hd hvd
    rcases List.mem_append.1 hx with hx | hx
    · exact h.cleaned.made x hx d hd hvd
    · rw [List.mem_singleton.1 hx, he] at hd
      rw [← Option.some.inj hd, hv] at hvd
      cases hvd
  · intro x hx y hy hne heq
    rcases List.mem_append.1 hx with hx | hx <;> rcases List.mem_append.1 hy with hy | hy
    · exact h.cleaned.apart x hx y hy hne heq
    · rw [List.mem_singleton.1 hy] at heq ⊢
      exact ⟨hlast x hx heq, hvalid⟩
    · rw [List.mem_singleton.1 hx] at heq ⊢
      exact ⟨hvalid, hlast y hy heq.symm⟩
    · rw [List.mem_singleton.1 hx, List.mem_singleton.1 hy] at hne
      exact absurd rfl hne
  · intro x hx hinvalid y hy hvy
    rcases List.mem_append.1 hx with hx | hx
    · exact h.fresh x hx hinvalid y hy hvy
    · rw [List.mem_singleton.1 hx, hvalid] at hinvalid
      cases hinvalid
  · intro x hx
    rcases List.mem_append.1 hx with hx | hx
    · exact h.taken_new x hx
    · rw [List.mem_singleton.1 hx, hnow]
      exact h.taken_old q hq hvalid

/-- A child that is given a name. -/
theorem make (h : lib.CleaningIn children told c) (hnew : q ∉ told)
    (hsame : c.library.decl? q = lib.decl? q) (he : lib.decl? q = some e)
    (hv : isValid e.name = false) {c' : Cleaning} {name : String} (hvalid : isValid name = true)
    (hfree : name ∉ c.taken) (hlibrary : c'.library = c.library.update q (·.rename name))
    (htaken : c'.taken = name :: c.taken) : lib.CleaningIn children (told ++ [q]) c' := by
  have hnow : c'.library.nameOf q = name := by
    rw [hlibrary]
    exact nameOf_rename (hsame.trans he) name
  have hdecl : c'.library.decl? q =
      some { e with name := name, givenName := some (e.givenName.getD e.name) } := by
    have hne : name ≠ e.name := by
      rintro rfl
      rw [hvalid] at hv
      cases hv
    rw [hlibrary, decl?_update, if_pos rfl, hsame, he, Option.map_some]
    unfold Decl.rename
    rw [if_neg hne]
  have helse : ∀ x ∈ told, c'.library.decl? x = c.library.decl? x := by
    intro x hx
    rw [hlibrary, decl?_update, if_neg]
    rintro rfl
    exact hnew hx
  have hstill : ∀ x ∈ told, c'.library.nameOf x = c.library.nameOf x :=
    fun x hx => nameOf_congr (helse x hx)
  have hlast : ∀ x ∈ told, c'.library.nameOf x ≠ c'.library.nameOf q := by
    intro x hx heq
    rw [hnow, hstill x hx] at heq
    exact hfree (heq ▸ h.taken_new x hx)
  have hbefore : lib.CleanedIn c'.library told := h.cleaned.congr (fun _ _ => rfl) helse
  refine ⟨⟨?_, ?_, ?_⟩, ?_, ?_, ?_⟩
  · intro x hx d hd hvd
    rcases List.mem_append.1 hx with hx | hx
    · exact hbefore.kept x hx d hd hvd
    · rw [List.mem_singleton.1 hx, he] at hd
      rw [← Option.some.inj hd, hv] at hvd
      cases hvd
  · intro x hx d hd hvd
    rcases List.mem_append.1 hx with hx | hx
    · exact hbefore.made x hx d hd hvd
    · rw [List.mem_singleton.1 hx] at hd ⊢
      rw [he] at hd
      exact ⟨name, hvalid, Option.some.inj hd ▸ hdecl⟩
  · intro x hx y hy hne heq
    rcases List.mem_append.1 hx with hx | hx <;> rcases List.mem_append.1 hy with hy | hy
    · exact hbefore.apart x hx y hy hne heq
    · rw [List.mem_singleton.1 hy] at heq
      exact absurd heq (hlast x hx)
    · rw [List.mem_singleton.1 hx] at heq
      exact absurd heq.symm (hlast y hy)
    · rw [List.mem_singleton.1 hx, List.mem_singleton.1 hy] at hne
      exact absurd rfl hne
  · intro x hx hinvalid y hy hvy
    rcases List.mem_append.1 hx with hx | hx
    · rw [hstill x hx]
      exact h.fresh x hx hinvalid y hy hvy
    · rw [List.mem_singleton.1 hx, hnow]
      rintro rfl
      exact hfree (h.taken_old y hy hvy)
  · intro x hx hvx
    rw [htaken]
    exact List.mem_cons_of_mem _ (h.taken_old x hx hvx)
  · intro x hx
    rw [htaken]
    rcases List.mem_append.1 hx with hx | hx
    · rw [hstill x hx]
      exact List.mem_cons_of_mem _ (h.taken_new x hx)
    · rw [List.mem_singleton.1 hx, hnow]
      exact List.mem_cons_self ..

/-- Nothing is done to the names of a scope at first. -/
theorem start (renamed : Nat) (scope : Decl) :
    lib.CleaningIn scope.body.children [] (.start lib renamed scope) where
  cleaned := ⟨fun _ hx => absurd hx List.not_mem_nil, fun _ hx => absurd hx List.not_mem_nil,
    fun _ hx => absurd hx List.not_mem_nil⟩
  fresh := fun _ hx => absurd hx List.not_mem_nil
  taken_old := by
    intro x hx hv
    cases hd : lib.decl? x with
    | none =>
      rw [nameOf, hd] at hv
      cases hv
    | some d =>
      rw [nameOf_of_decl? hd] at hv ⊢
      exact List.mem_filter.2
        ⟨List.mem_map.2 ⟨d, List.mem_filterMap.2 ⟨x, hx, hd⟩, rfl⟩, hv⟩
  taken_new := fun _ hx => absurd hx List.not_mem_nil

end CleaningIn

end

/-! ### What cleaning leaves alone -/

section

variable {lib out : Library} {a n x : Nat} {scope : Decl}

/-- Naming a child changes nothing else. -/
theorem decl?_cleanChild {c : Cleaning} {child : Nat} (hx : x ≠ child) :
    (c.cleanChild scope child).library.decl? x = c.library.decl? x := by
  unfold Cleaning.cleanChild
  cases c.library.decl? child with
  | none => rfl
  | some d =>
    dsimp only
    split_ifs
    · rfl
    · exact (decl?_update ..).trans (if_neg (Ne.symm hx))

/-- What each step of a fold leaves as it is stays so. -/
theorem decl?_foldl {σ : Type} {V : σ → Library} {f : σ → Nat → σ} {l : List Nat}
    (hkeep : ∀ s q, (V s).RenamedTo (V (f s q)))
    (hstep : ∀ s, lib.RenamedTo (V s) → ∀ q ∈ l, (V (f s q)).decl? x = (V s).decl? x)
    {s : σ} (hs : lib.RenamedTo (V s)) :
    (V (l.foldl f s)).decl? x = (V s).decl? x := by
  refine (List.foldlRecOn (motive := fun t => lib.RenamedTo (V t) ∧
    (V t).decl? x = (V s).decl? x) l f ⟨hs, rfl⟩ ?_).2
  intro t ht q hq
  exact ⟨ht.1.trans (hkeep t q), (hstep t ht.1 q hq).trans ht.2⟩

/-- Cleaning the names inside a declaration changes nothing that does not lie in it. -/
theorem decl?_cleanFrom (hx : ∀ k, ¬lib.Below a (k + 1) x) (n renamed : Nat) :
    (cleanFrom n a (lib, renamed)).1.decl? x = lib.decl? x := by
  induction n generalizing lib a renamed with
  | zero => rfl
  | succ n ih =>
    cases ha : lib.decl? a with
    | none => simp only [cleanFrom, ha]
    | some scope =>
      rw [cleanFrom_succ n ha]
      refine decl?_foldl (V := Cleaning.library) (renamedTo_cleanInto n scope) ?_
        (s := .start lib renamed scope) (.refl lib)
      intro c hc child hchild
      have hlists : lib.Lists a child := ⟨scope, ha, hchild⟩
      have hne : x ≠ child := by
        rintro rfl
        exact hx 0 (below_succ_iff.2 ⟨x, hlists, .self⟩)
      have hnamed := hc.trans (renamedTo_cleanChild c scope child)
      refine (ih (fun k hk => ?_) _).trans (decl?_cleanChild hne)
      exact hx (k + 1) (below_succ_iff.2 ⟨child, hlists, hnamed.below_iff.1 hk⟩)

/-- Cleaning a child changes nothing but the child and what lies in it. -/
theorem decl?_cleanInto {c : Cleaning} (hc : lib.RenamedTo c.library) {child : Nat}
    (hx : ∀ k, ¬lib.Below child k x) (n : Nat) (scope : Decl) :
    (c.cleanInto n scope child).library.decl? x = c.library.decl? x := by
  have hnamed := hc.trans (renamedTo_cleanChild c scope child)
  refine (decl?_cleanFrom (fun k hk => hx (k + 1) (hnamed.below_iff.1 hk)) n _).trans ?_
  refine decl?_cleanChild ?_
  rintro rfl
  exact hx 0 .self

end

/-! ### All scopes -/

section

variable {lib : Library} {a : Nat} {scope : Decl}

/-- Parameters that can be reached have their places from zero on. -/
def ParametersPlaced (lib : Library) : Prop :=
  ∀ id d, lib.Attached id → lib.decl? id = some d → d.Placed

/-- Other names leave parameters at their places. -/
theorem ParametersPlaced.renamed {out : Library} (hp : lib.ParametersPlaced)
    (h : lib.RenamedTo out) : out.ParametersPlaced := by
  intro id e ha he type index hb
  obtain ⟨d, hd, hde⟩ := h.slots.exists_of_decl?_out he
  exact hp id d (h.attached_iff.1 ha) hd type index (hde.body ▸ hb)

/-- The names of a scope are cleaned, whatever is done inside its children on the way. -/
theorem CleaningIn.foldl (h : lib.IsTree) (hp : lib.ParametersPlaced) (ha : lib.Attached a)
    (hd : lib.decl? a = some scope) (hs : isValid scope.name = true ∨ scope.body.form = .unit)
    (n : Nat) {told l : List Nat} (hsplit : scope.body.children = told ++ l) {c : Cleaning}
    (hc : lib.CleaningIn scope.body.children told c) (hrenamed : lib.RenamedTo c.library)
    (hsame : ∀ x ∈ l, c.library.decl? x = lib.decl? x) :
    lib.CleaningIn scope.body.children scope.body.children
      (l.foldl (Cleaning.cleanInto n scope) c) := by
  induction l generalizing told c with
  | nil =>
    rw [List.append_nil] at hsplit
    exact hsplit ▸ hc
  | cons q l ih =>
    have hlists : ∀ x ∈ scope.body.children, lib.Lists a x := fun x hx => ⟨scope, hd, hx⟩
    have hq : q ∈ scope.body.children := hsplit ▸ by simp
    have hnodup := h.children_nodup a scope ha hd
    rw [hsplit] at hnodup
    obtain ⟨e, he, -⟩ := h.decl_of_attached (ha.lists (hlists q hq))
    have hqsame := hsame q (List.mem_cons_self ..)
    -- the child gets a name that is free, if it needs one
    have hnamed : lib.CleaningIn scope.body.children (told ++ [q]) (c.cleanChild scope q) := by
      rcases cleanChild_cases (hqsame.trans he) hs (hp q e (ha.lists (hlists q hq)) he) with
        ⟨hv, hsame'⟩ | ⟨hv, name, hvalid, hfree, hlibrary, htaken⟩
      · rw [hsame']
        exact hc.keep hq hqsame he hv
      · refine hc.make ?_ hqsame he hv hvalid hfree hlibrary htaken
        exact fun hin => (List.disjoint_of_nodup_append hnodup) hin (List.mem_cons_self ..)
    -- what is done inside of it concerns no child of the scope
    have hinside : ∀ x ∈ scope.body.children, (c.cleanInto n scope q).library.decl? x =
        (c.cleanChild scope q).library.decl? x := by
      intro x hx
      refine decl?_cleanFrom (fun k hk => ?_) n _
      have hbelow := (hrenamed.trans (renamedTo_cleanChild c scope q)).below_iff.1 hk
      have := h.level_unique ha (below_succ_iff.2 ⟨x, hlists x hx, .self⟩)
        (below_succ_iff.2 ⟨q, hlists q hq, hbelow⟩)
      omega
    have hsplit' : scope.body.children = told ++ [q] ++ l := by
      rw [hsplit, List.append_assoc, List.singleton_append]
    refine ih hsplit' (hnamed.congr (fun x hx => hinside x ?_) _)
      (hrenamed.trans (renamedTo_cleanInto n scope c q)) fun x hx => ?_
    · rw [hsplit']
      exact List.mem_append_left _ hx
    · have hne : x ≠ q := by
        rintro rfl
        exact (List.nodup_cons.1 hnodup.of_append_right).1 hx
      rw [hinside x (by rw [hsplit']; exact List.mem_append_right _ hx), decl?_cleanChild hne]
      exact hsame x (List.mem_cons_of_mem _ hx)

/-- Where the steps of a fold change parts that are apart, what one of them cleans stays clean. -/
theorem cleanedIn_foldl {σ : Type} {V : σ → Library} {f : σ → Nat → σ} {l children : List Nat}
    {q : Nat} (hl : l.Nodup) (hq : q ∈ l) (hkeep : ∀ s q, (V s).RenamedTo (V (f s q)))
    (hstep : ∀ s, lib.RenamedTo (V s) → ∀ p ∈ l, p ≠ q → ∀ x ∈ children,
      (V (f s p)).decl? x = (V s).decl? x)
    (hmake : ∀ s, lib.RenamedTo (V s) → (V s).CleanedIn (V (f s q)) children)
    {s : σ} (hs : lib.RenamedTo (V s)) :
    (V s).CleanedIn (V (l.foldl f s)) children := by
  obtain ⟨before, after, rfl⟩ := List.append_of_mem hq
  have hbefore : ∀ x ∈ children, (V (before.foldl f s)).decl? x = (V s).decl? x := by
    intro x hx
    refine decl?_foldl hkeep (fun t ht p hp => hstep t ht p (by simp [hp]) ?_ x hx) hs
    rintro rfl
    exact (List.disjoint_of_nodup_append hl) hp (List.mem_cons_self ..)
  have hmid : lib.RenamedTo (V (before.foldl f s)) :=
    List.foldlRecOn (motive := fun t => lib.RenamedTo (V t)) _ _ hs
      fun t ht p _ => ht.trans (hkeep t p)
  have hafter : ∀ x ∈ children, (V (after.foldl f (f (before.foldl f s) q))).decl? x =
      (V (f (before.foldl f s) q)).decl? x := by
    intro x hx
    refine decl?_foldl hkeep (fun t ht p hp => hstep t ht p (by simp [hp]) ?_ x hx)
      (hmid.trans (hkeep _ q))
    rintro rfl
    exact (List.nodup_cons.1 hl.of_append_right).1 hp
  rw [List.foldl_append, List.foldl_cons]
  exact (hmake _ hmid).congr (fun x hx => (hbefore x hx).symm) hafter

/-- Every scope in a cleaned declaration is cleaned. -/
theorem IsTree.cleanedIn_cleanFrom (h : lib.IsTree) (hp : lib.ParametersPlaced)
    (ha : lib.Attached a) (hd : lib.decl? a = some scope)
    (hs : isValid scope.name = true ∨ scope.body.form = .unit) {n k y : Nat} {e : Decl}
    (hk : k < n) (hb : lib.Below a k y) (he : lib.decl? y = some e) (renamed : Nat) :
    lib.CleanedIn (cleanFrom n a (lib, renamed)).1 e.body.children := by
  induction n generalizing lib a scope k e renamed with
  | zero => exact absurd hk (Nat.not_lt_zero k)
  | succ n ih =>
    rw [cleanFrom_succ n hd]
    cases k with
    | zero =>
      rw [below_zero_iff] at hb
      subst hb
      rw [hd] at he
      cases he
      exact (CleaningIn.foldl h hp ha hd hs n rfl (.start renamed _) (.refl lib)
        fun _ _ => rfl).cleaned
    | succ k =>
      obtain ⟨q, ⟨d, hd', hq⟩, hb⟩ := below_succ_iff.1 hb
      rw [hd] at hd'
      cases hd'
      have hlists : ∀ c ∈ scope.body.children, lib.Lists a c := fun c hc => ⟨scope, hd, hc⟩
      have hqa := ha.lists (hlists q hq)
      have hin : ∀ x ∈ e.body.children, lib.Below q (k + 1) x := fun x hx => hb.step ⟨e, he, hx⟩
      refine cleanedIn_foldl (V := Cleaning.library) (h.children_nodup a scope ha hd) hq
        (renamedTo_cleanInto n scope) ?_ ?_ (s := .start lib renamed scope) (.refl lib)
      · intro c hc p hpin hne x hx
        refine decl?_cleanInto hc (fun m hm => hne ?_) n scope
        exact h.sibling_unique ha (hlists p hpin) (hlists q hq) hm (hin x hx)
      · intro c hc
        have hnamed := hc.trans (renamedTo_cleanChild c scope q)
        -- the child has a name that can be used by now
        obtain ⟨b, hbq, -⟩ := h.decl_of_attached hqa
        obtain ⟨b', hbq', -⟩ := hc.slots.exists_of_decl? hbq
        obtain ⟨g, hg, hv⟩ := exists_of_cleanChild hbq' hs
          (hp.renamed hc q b' (hc.attached_iff.2 hqa) hbq')
        obtain ⟨f, hf, hef⟩ := hnamed.slots.exists_of_decl? he
        have hmade := ih (hnamed.prunedTo.isTree h) (hp.renamed hnamed)
          (hnamed.attached_iff.2 hqa) hg (.inl hv) (by omega) (hnamed.below_iff.2 hb) hf
          (c.cleanChild scope q).renamed
        rw [hef.body] at hmade
        refine hmade.congr (fun x hx => (decl?_cleanChild ?_).symm) fun _ _ => rfl
        rintro rfl
        exact h.not_below_self hqa (hin x hx)

/-- Every scope of a tree is cleaned. -/
theorem IsTree.cleanedIn_cleanNames (h : lib.IsTree) (hp : lib.ParametersPlaced)
    (ha : lib.Attached a) (hd : lib.decl? a = some scope) :
    lib.CleanedIn lib.cleanNames.1 scope.body.children := by
  obtain ⟨u, hu, k, hb⟩ := ha
  refine cleanedIn_foldl (V := Prod.fst) h.units_nodup hu
    (fun s q => renamedTo_cleanFrom lib.created q s) ?_ ?_ (s := (lib, 0)) (.refl lib)
  · rintro ⟨cur, renamed⟩ hcur p hpin hne x hx
    refine decl?_cleanFrom (fun m hm => hne ?_) _ _
    exact (h.place_unique hpin hu (hcur.below_iff.1 hm) (hb.step ⟨scope, hd, hx⟩)).1
  · rintro ⟨cur, renamed⟩ hcur
    obtain ⟨d, hd', hform⟩ := h.unit_form u hu
    obtain ⟨e, he, hde⟩ := hcur.slots.exists_of_decl? hd'
    obtain ⟨f, hf, hsf⟩ := hcur.slots.exists_of_decl? hd
    rw [← hsf.body]
    exact (hcur.prunedTo.isTree h).cleanedIn_cleanFrom (hp.renamed hcur)
      (hcur.attached_iff.2 (attached_of_mem_units hu)) he (.inr (hde.body ▸ hform))
      (h.level_lt_created hu hb) (hcur.below_iff.2 hb) hf renamed

/-- Units, and what cannot be reached, stay as they are. -/
theorem IsTree.decl?_cleanNames (h : lib.IsTree) {x : Nat}
    (hx : lib.Attached x → x ∈ lib.units) : lib.cleanNames.1.decl? x = lib.decl? x := by
  refine decl?_foldl (V := Prod.fst)
    (fun s q => renamedTo_cleanFrom lib.created q s) ?_ (s := (lib, 0)) (.refl lib)
  rintro ⟨cur, renamed⟩ hcur u hu
  refine decl?_cleanFrom (fun k hk => ?_) _ _
  have hb := hcur.below_iff.1 hk
  have hxu := hx ⟨u, hu, k + 1, hb⟩
  have := (h.place_unique hu hxu hb .self).2
  omega

/-! ### Once more -/

/-- Where all names can be used nothing is done. -/
theorem cleanFrom_of_valid
    (hv : ∀ k x d, lib.Below a (k + 1) x → lib.decl? x = some d → isValid d.name = true)
    (n renamed : Nat) : cleanFrom n a (lib, renamed) = (lib, renamed) := by
  induction n generalizing a renamed with
  | zero => rfl
  | succ n ih =>
    cases ha : lib.decl? a with
    | none => simp only [cleanFrom, ha]
    | some scope =>
      rw [cleanFrom_succ n ha]
      refine List.foldlRecOn (motive := fun c : Cleaning =>
        (c.library, c.renamed) = (lib, renamed)) _ _ rfl ?_
      intro c hc child hchild
      obtain ⟨rfl, rfl⟩ := Prod.mk.inj hc
      have hlists : c.library.Lists a child := ⟨scope, ha, hchild⟩
      have hkeep : c.cleanChild scope child = c := by
        unfold Cleaning.cleanChild
        cases hd : c.library.decl? child with
        | none => rfl
        | some d => exact if_pos (hv 0 child d (below_succ_iff.2 ⟨child, hlists, .self⟩) hd)
      simp only [Cleaning.cleanInto, hkeep]
      rw [ih fun k x d hb => hv (k + 1) x d (below_succ_iff.2 ⟨child, hlists, hb⟩)]

theorem cleanNames_of_valid
    (hv : ∀ u ∈ lib.units, ∀ k x d, lib.Below u (k + 1) x → lib.decl? x = some d →
      isValid d.name = true) : lib.cleanNames = (lib, 0) := by
  refine List.foldlRecOn (motive := fun s => s = (lib, 0)) _ _ rfl ?_
  rintro s rfl u hu
  exact cleanFrom_of_valid (hv u hu) _ _

end

end Library

namespace PassM

theorem outcomeOf_cleanNames (s : PassState Library) :
    outcomeOf cleanNames s = (.ok (), { s with
      library := s.library.cleanNames.1
      tally := { s.tally with renamed := s.tally.renamed + s.library.cleanNames.2 } }) := by
  unfold cleanNames
  rw [outcomeOf_modify]

/-- Behind the cleaning of a tree all that can be reached but the units has a name that can be used.
Where a declaration had one, it stays as it is; where it had none, it gets one and remembers the
first. In a scope, names are shared only by what shared them before, and the ones that are made by
nothing. Units and what cannot be reached stay as they are. Done again, it changes nothing. -/
theorem cleanNames_cleaned {s : PassState Library} (h : s.library.IsTree)
    (hp : s.library.ParametersPlaced) :
    ∃ t, outcomeOf cleanNames s = (.ok (), t) ∧
      (∀ id, t.library.Attached id ↔ s.library.Attached id) ∧
      t.library.units = s.library.units ∧
      (∀ id, s.library.Attached id → id ∉ s.library.units →
        ∃ d e, s.library.decl? id = some d ∧ t.library.decl? id = some e ∧
          isValid e.name = true ∧ (isValid d.name = true → e = d) ∧
          (isValid d.name = false →
            e = { d with name := e.name, givenName := some (d.givenName.getD d.name) })) ∧
      (∀ a d, s.library.Attached a → s.library.decl? a = some d →
        ∀ x ∈ d.body.children, ∀ y ∈ d.body.children, x ≠ y →
          t.library.nameOf x = t.library.nameOf y →
            isValid (t.library.nameOf x) = true ∧
              s.library.nameOf x = t.library.nameOf x ∧
              s.library.nameOf y = t.library.nameOf x) ∧
      (∀ id, (s.library.Attached id → id ∈ s.library.units) →
        t.library.decl? id = s.library.decl? id) ∧
      outcomeOf cleanNames t = (.ok (), t) := by
  set lib := s.library with hlib
  have hrenamed := lib.renamedTo_cleanNames
  have hcleaned : ∀ id, lib.Attached id → id ∉ lib.units →
      ∃ d e, lib.decl? id = some d ∧ lib.cleanNames.1.decl? id = some e ∧
        isValid e.name = true ∧ (isValid d.name = true → e = d) ∧
        (isValid d.name = false →
          e = { d with name := e.name, givenName := some (d.givenName.getD d.name) }) := by
    intro id ha hu
    obtain ⟨d, hd, -⟩ := h.decl_of_attached ha
    -- it lies in some scope
    obtain ⟨u, hmem, level, hb⟩ := ha
    cases hb with
    | self => exact absurd hmem hu
    | @step level owner _ hb hl =>
      obtain ⟨scope, hscope, hin⟩ := hl
      have hscoped := h.cleanedIn_cleanNames hp ⟨u, hmem, level, hb⟩ hscope
      cases hv : isValid d.name with
      | true => exact ⟨d, d, hd, hscoped.kept id hin d hd hv, hv, fun _ => rfl,
          fun hf => Bool.noConfusion (hv.symm.trans hf)⟩
      | false =>
        obtain ⟨name, hvalid, he⟩ := hscoped.made id hin d hd hv
        exact ⟨d, _, hd, he, hvalid, fun ht => Bool.noConfusion (hv.symm.trans ht), fun _ => rfl⟩
  refine ⟨_, outcomeOf_cleanNames s, fun id => hrenamed.attached_iff, hrenamed.units, hcleaned, ?_,
    fun id hid => h.decl?_cleanNames hid, ?_⟩
  · intro a d ha hd x hx y hy hne hsame
    have hscoped := h.cleanedIn_cleanNames hp ha hd
    obtain ⟨hvx, hvy⟩ := hscoped.apart x hx y hy hne hsame
    have hkept : ∀ z ∈ d.body.children, isValid (lib.nameOf z) = true →
        lib.nameOf z = lib.cleanNames.1.nameOf z := by
      intro z hz hv
      obtain ⟨e, he, -⟩ := h.decl_of_attached (ha.lists ⟨d, hd, hz⟩)
      rw [Library.nameOf_of_decl? he] at hv ⊢
      exact (Library.nameOf_of_decl? (hscoped.kept z hz e he hv)).symm
    have hx' := hkept x hx hvx
    exact ⟨hx' ▸ hvx, hx', (hkept y hy hvy).trans hsame.symm⟩
  · have hagain : lib.cleanNames.1.cleanNames = (lib.cleanNames.1, 0) := by
      refine Library.cleanNames_of_valid fun u hu k x e hb he => ?_
      rw [hrenamed.units] at hu
      have hbelow := hrenamed.below_iff.1 hb
      have hnot : x ∉ lib.units := by
        intro hx
        have := (h.place_unique hu hx hbelow .self).2
        omega
      obtain ⟨-, e', -, he', hv, -⟩ := hcleaned x ⟨u, hu, k + 1, hbelow⟩ hnot
      rw [he] at he'
      exact Option.some.inj he' ▸ hv
    rw [outcomeOf_cleanNames, hagain]
    rfl

/-- A unit with a class that is called like a reserved word and one that is called as that would be
made usable, and with a nameless function that has a nameless parameter and one that is called as
that would be. -/
def clashing : Library :=
  ⟨.text "", .text "", [0],
    [⟨{ Decl.blank 0 none (.unit ⟨[], [1, 2], [], [3]⟩ "a.h") with name := "a.h" }, true⟩,
      ⟨{ Decl.blank 1 (some 0) (.blank .record) with name := "class" }, true⟩,
      ⟨{ Decl.blank 2 (some 0) (.blank .record) with name := "class_" }, true⟩,
      ⟨Decl.blank 3 (some 0) (.function ⟨"void", [4, 5], false⟩), true⟩,
      ⟨Decl.blank 4 (some 3) (.parameter "int" 0), true⟩,
      ⟨{ Decl.blank 5 (some 3) (.parameter "int" 1) with name := "arg0" }, true⟩]⟩

theorem cleanNames_clashing :
    ∃ t, outcomeOf cleanNames ⟨clashing, [], .empty⟩ = (.ok (), t) ∧
      (∀ id ∈ [1, 2, 3, 4, 5], isValid (t.library.nameOf id) = true) ∧
      (∀ id ∈ [2, 5], t.library.decl? id = clashing.decl? id) ∧
      t.library.nameOf 1 ≠ t.library.nameOf 2 ∧ t.library.nameOf 4 ≠ t.library.nameOf 5 ∧
      outcomeOf cleanNames t = (.ok (), t) := by
  obtain ⟨htree, -⟩ := Library.isTree_of_isRegular (by decide +kernel : clashing.isRegular = true)
  have hplaced : clashing.ParametersPlaced := by
    intro id d _ hd type index hb
    have hid : id < 6 := Library.lt_created_of_decl? hd
    interval_cases id <;> cases hd <;> cases hb <;> decide
  obtain ⟨t, ht, -, -, hnames, hscopes, -, hagain⟩ :=
    cleanNames_cleaned (s := ⟨clashing, [], .empty⟩) htree hplaced
  have hattached : ∀ id ∈ [0, 1, 2, 3, 4, 5], clashing.Attached id := by
    intro id hid
    have hwalk : [0, 1, 2, 3, 4, 5] = clashing.walk.map (·.id) := by decide +kernel
    rw [hwalk] at hid
    obtain ⟨d, hd, rfl⟩ := List.mem_map.1 hid
    exact (htree.decl?_of_mem_walk hd).1
  have hinside : ∀ id ∈ [1, 2, 3, 4, 5], clashing.Attached id ∧ id ∉ clashing.units := fun id hid =>
    ⟨hattached id (List.mem_cons_of_mem _ hid), by revert id; decide⟩
  -- neither of the names that were made is shared
  have hapart : ∀ a d x y, clashing.Attached a → clashing.decl? a = some d → x ∈ d.body.children →
      y ∈ d.body.children → x ≠ y → isValid (clashing.nameOf x) = false →
        t.library.nameOf x ≠ t.library.nameOf y := by
    intro a d x y ha hd hx hy hne hinvalid hsame
    obtain ⟨hv, hold, -⟩ := hscopes a d ha hd x hx y hy hne hsame
    rw [← hold, hinvalid] at hv
    cases hv
  refine ⟨t, ht, fun id hid => ?_, fun id hid => ?_, ?_, ?_, hagain⟩
  · obtain ⟨d, e, -, he, hv, -⟩ := hnames id (hinside id hid).1 (hinside id hid).2
    rw [Library.nameOf_of_decl? he]
    exact hv
  · have hin : id ∈ [1, 2, 3, 4, 5] := by revert id; decide
    have hold : ∀ id ∈ [2, 5], isValid (clashing.nameOf id) = true := by decide +kernel
    obtain ⟨d, e, hd, he, -, hkept, -⟩ := hnames id (hinside id hin).1 (hinside id hin).2
    have hv := hold id hid
    rw [Library.nameOf_of_decl? hd] at hv
    rw [he, hkept hv]
    exact hd.symm
  · exact hapart 0 _ 1 2 (hattached 0 (by decide)) rfl (by decide) (by decide) (by decide)
      (by decide +kernel)
  · exact hapart 3 _ 4 5 (hattached 3 (by decide)) rfl (by decide) (by decide) (by decide)
      (by decide +kernel)

end PassM

end Bindery
