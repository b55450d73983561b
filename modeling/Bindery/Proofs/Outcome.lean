import Mathlib.Data.List.Forall2

/-!
# Outcomes that agree

Two computations agree when both are refused or both come to results that belong together. How a
refusal is worded is left open, since it may name numbers that differ between the two. Where a
computation comes to a result, so do its parts, and what its steps keep holds of the result.
-/

namespace Bindery

variable {ε ε' α β γ δ : Type}

/-- Both outcomes are refusals, or both are results that belong together. -/
inductive Agree (R : α → β → Prop) : Except ε α → Except ε' β → Prop where
  /-- Results that belong together. -/
  | ok {a : α} {b : β} : R a b → Agree R (.ok a) (.ok b)
  /-- Two refusals. -/
  | error (e : ε) (e' : ε') : Agree R (.error e) (.error e')

namespace Agree

variable {R : α → β → Prop} {S : γ → δ → Prop} {x : Except ε α} {y : Except ε' β}

theorem mono {R' : α → β → Prop} (h : Agree R x y) (hR : ∀ a b, R a b → R' a b) :
    Agree R' x y := by
  cases h with
  | ok hab => exact .ok (hR _ _ hab)
  | error e e' => exact .error e e'

theorem bind {f : α → Except ε γ} {g : β → Except ε' δ} (h : Agree R x y)
    (hf : ∀ a b, R a b → Agree S (f a) (g b)) : Agree S (x >>= f) (y >>= g) := by
  cases h with
  | ok hab => exact hf _ _ hab
  | error e e' => exact .error e e'

theorem map {f : α → γ} {g : β → δ} (h : Agree R x y) (hf : ∀ a b, R a b → S (f a) (g b)) :
    Agree S (x.map f) (y.map g) := by
  cases h with
  | ok hab => exact .ok (hf _ _ hab)
  | error e e' => exact .error e e'

theorem mapError {η η' : Type} (h : Agree R x y) (f : ε → η) (g : ε' → η') :
    Agree R (x.mapError f) (y.mapError g) := by
  cases h with
  | ok hab => exact .ok hab
  | error e e' => exact .error _ _

/-- Going through two lists that belong together comes to outcomes that agree. -/
theorem foldlM {ι κ : Type} {f : α → ι → Except ε α} {f' : β → κ → Except ε' β} {g : ι → κ}
    {l : List ι} (hf : ∀ i ∈ l, ∀ a b, R a b → Agree R (f a i) (f' b (g i))) {a : α} {b : β}
    (hab : R a b) : Agree R (l.foldlM f a) ((l.map g).foldlM f' b) := by
  induction l generalizing a b with
  | nil => exact .ok hab
  | cons i l ih =>
    rw [List.map_cons, List.foldlM_cons, List.foldlM_cons]
    refine (hf i (List.mem_cons_self ..) a b hab).bind fun c d hcd => ?_
    exact ih (fun j hj => hf j (List.mem_cons_of_mem _ hj)) hcd

theorem foldlM_self {ι : Type} {f : α → ι → Except ε α} {f' : β → ι → Except ε' β} {l : List ι}
    (hf : ∀ i ∈ l, ∀ a b, R a b → Agree R (f a i) (f' b i)) {a : α} {b : β} (hab : R a b) :
    Agree R (l.foldlM f a) (l.foldlM f' b) := by
  have h := foldlM (g := id) hf hab
  rwa [List.map_id] at h

/-- An outcome agrees with itself. -/
theorem refl (x : Except ε α) : Agree Eq x x := by
  cases x with
  | error e => exact .error e e
  | ok a => exact .ok rfl

theorem mapM {ι κ : Type} {f : ι → Except ε γ} {f' : κ → Except ε' δ} {g : ι → κ} {r : γ → δ}
    {l : List ι} (hf : ∀ i ∈ l, Agree (fun c d => d = r c) (f i) (f' (g i))) :
    Agree (fun cs ds => ds = cs.map r) (l.mapM f) ((l.map g).mapM f') := by
  induction l with
  | nil => exact .ok rfl
  | cons i l ih =>
    rw [List.map_cons, List.mapM_cons, List.mapM_cons]
    refine (hf i (List.mem_cons_self ..)).bind fun c d hcd => ?_
    refine (ih fun j hj => hf j (List.mem_cons_of_mem _ hj)).bind fun cs ds hds => ?_
    exact .ok (by rw [hcd, hds, List.map_cons])

theorem filterMapM {ι κ : Type} {f : ι → Except ε (Option γ)} {f' : κ → Except ε' (Option δ)}
    {g : ι → κ} {r : γ → δ} {l : List ι}
    (hf : ∀ i ∈ l, Agree (fun c d => d = c.map r) (f i) (f' (g i))) :
    Agree (fun cs ds => ds = cs.map r) (l.filterMapM f) ((l.map g).filterMapM f') := by
  induction l with
  | nil => exact .ok rfl
  | cons i l ih =>
    rw [List.map_cons, List.filterMapM_cons, List.filterMapM_cons]
    refine (hf i (List.mem_cons_self ..)).bind fun c d hcd => ?_
    have hrest := ih fun j hj => hf j (List.mem_cons_of_mem _ hj)
    subst hcd
    cases c with
    | none => exact hrest
    | some c => exact hrest.bind fun cs ds hds => .ok (by rw [hds, List.map_cons])

theorem filterM {ι κ : Type} {f : ι → Except ε Bool} {k : κ → Except ε' Bool} {g : ι → κ}
    {l : List ι} (hf : ∀ i ∈ l, Agree Eq (f i) (k (g i))) :
    Agree (fun is js => js = is.map g) (l.filterM f) ((l.map g).filterM k) := by
  suffices haux : ∀ acc : List ι, Agree (fun is js => js = is.map g) (List.filterAuxM f l acc)
      (List.filterAuxM k (l.map g) (acc.map g)) from
    (haux []).bind fun is js hjs => .ok (by rw [hjs, List.map_reverse])
  induction l with
  | nil => exact fun acc => .ok rfl
  | cons i l ih =>
    intro acc
    rw [List.map_cons]
    unfold List.filterAuxM
    refine (hf i (List.mem_cons_self ..)).bind fun b b' hb => ?_
    subst hb
    have hrest := ih fun j hj => hf j (List.mem_cons_of_mem _ hj)
    cases b with
    | false => exact hrest acc
    | true => exact hrest (i :: acc)

/-- What is known of the first outcome. -/
theorem known (h : Agree R x y) : Agree (fun a b => x = .ok a ∧ R a b) x y := by
  cases h with
  | ok hab => exact .ok ⟨rfl, hab⟩
  | error e e' => exact .error e e'

/-- Where one of two outcomes that agree is a result, the other one is. -/
theorem exists_ok {a : α} (h : Agree R (.ok a : Except ε α) y) : ∃ b, y = .ok b ∧ R a b := by
  cases h with
  | ok hab => exact ⟨_, rfl, hab⟩

end Agree

/-! ### Results -/

/-- Two computations in a row come to a result if both of them do. -/
theorem bind_eq_ok_iff {x : Except ε α} {f : α → Except ε β} {b : β} :
    x >>= f = .ok b ↔ ∃ a, x = .ok a ∧ f a = .ok b := by
  constructor
  · intro h
    cases x with
    | error e => cases h
    | ok a => exact ⟨a, rfl, h⟩
  · rintro ⟨a, rfl, h⟩
    exact h

/-- Other words for a refusal do not change what comes out. -/
theorem eq_ok_of_mapError {η : Type} {x : Except ε α} {f : ε → η} {a : α}
    (h : x.mapError f = .ok a) : x = .ok a := by
  cases x with
  | error e => cases h
  | ok b =>
    cases h
    rfl

/-- An outcome that is known to have a property is a result. -/
theorem exists_of_any {x : Except ε α} {p : α → Bool} (h : x.toOption.any p = true) :
    ∃ a, x = .ok a ∧ p a = true := by
  cases x with
  | error e => cases h
  | ok a => exact ⟨a, rfl, h⟩

theorem exists_of_isOk {x : Except ε α} (h : x.isOk = true) : ∃ a, x = .ok a := by
  cases x with
  | error e => cases h
  | ok a => exact ⟨a, rfl⟩

/-- The results for the members of a list, if none of them is refused. -/
theorem mem_iff_of_mapM_ok {f : α → Except ε β} {l : List α} {bs : List β}
    (h : l.mapM f = .ok bs) {b : β} : b ∈ bs ↔ ∃ a ∈ l, f a = .ok b := by
  induction l generalizing bs with
  | nil =>
    cases h
    simp
  | cons a l ih =>
    rw [List.mapM_cons] at h
    obtain ⟨c, hc, h⟩ := bind_eq_ok_iff.1 h
    obtain ⟨cs, hcs, h⟩ := bind_eq_ok_iff.1 h
    cases h
    rw [List.mem_cons, ih hcs, List.exists_mem_cons_iff, hc]
    constructor
    · rintro (rfl | hrest)
      · exact .inl rfl
      · exact .inr hrest
    · rintro (hfirst | hrest)
      · cases hfirst
        exact .inl rfl
      · exact .inr hrest

/-- Where a list is not refused, none of its members is. -/
theorem exists_of_mapM_ok {f : α → Except ε β} {l : List α} {bs : List β}
    (h : l.mapM f = .ok bs) {a : α} (ha : a ∈ l) : ∃ b, f a = .ok b := by
  induction l generalizing bs with
  | nil => cases ha
  | cons a' l ih =>
    rw [List.mapM_cons] at h
    obtain ⟨c, hc, h⟩ := bind_eq_ok_iff.1 h
    obtain ⟨cs, hcs, -⟩ := bind_eq_ok_iff.1 h
    rcases List.mem_cons.1 ha with rfl | ha
    · exact ⟨c, hc⟩
    · exact ih hcs ha

/-- Where a list is refused, one of its members is. -/
theorem exists_of_mapM_error {f : α → Except ε β} {l : List α} {e : ε} (h : l.mapM f = .error e) :
    ∃ a ∈ l, f a = .error e := by
  induction l with
  | nil => cases h
  | cons a l ih =>
    rw [List.mapM_cons] at h
    cases ha : f a with
    | error e' =>
      rw [ha] at h
      cases h
      exact ⟨a, List.mem_cons_self .., ha⟩
    | ok b =>
      rw [ha] at h
      cases hl : l.mapM f with
      | ok bs => rw [hl] at h; cases h
      | error e' =>
        rw [hl] at h
        cases h
        obtain ⟨a', hmem, ha'⟩ := ih hl
        exact ⟨a', List.mem_cons_of_mem _ hmem, ha'⟩

/-- Where no member of a list is refused, the list is not. -/
theorem exists_mapM_ok {f : α → Except ε β} {l : List α} (h : ∀ a ∈ l, ∃ b, f a = .ok b) :
    ∃ bs, l.mapM f = .ok bs := by
  induction l with
  | nil => exact ⟨[], rfl⟩
  | cons a l ih =>
    obtain ⟨b, hb⟩ := h a (List.mem_cons_self ..)
    obtain ⟨bs, hbs⟩ := ih fun x hx => h x (List.mem_cons_of_mem _ hx)
    refine ⟨b :: bs, ?_⟩
    rw [List.mapM_cons, hb, hbs]
    rfl

/-- The results for the members of a list that have one, if none of them is refused. -/
theorem mem_iff_of_filterMapM_ok {f : α → Except ε (Option β)} {l : List α} {bs : List β}
    (h : l.filterMapM f = .ok bs) {b : β} : b ∈ bs ↔ ∃ a ∈ l, f a = .ok (some b) := by
  induction l generalizing bs with
  | nil =>
    cases h
    simp
  | cons a l ih =>
    rw [List.filterMapM_cons] at h
    obtain ⟨r, hr, h⟩ := bind_eq_ok_iff.1 h
    rw [List.exists_mem_cons_iff, hr]
    cases r with
    | none =>
      rw [ih h]
      simp
    | some c =>
      obtain ⟨cs, hcs, h⟩ := bind_eq_ok_iff.1 h
      cases h
      rw [List.mem_cons, ih hcs]
      simp [eq_comm]

/-- Where every member of a list has a result, the results come in its order. -/
theorem forall₂_of_filterMapM_ok {f : α → Except ε (Option β)} {l : List α} {bs : List β}
    (hsome : ∀ a ∈ l, f a ≠ .ok none) (h : l.filterMapM f = .ok bs) :
    List.Forall₂ (fun a b => f a = .ok (some b)) l bs := by
  induction l generalizing bs with
  | nil =>
    cases h
    exact .nil
  | cons a l ih =>
    rw [List.filterMapM_cons] at h
    obtain ⟨r, hr, h⟩ := bind_eq_ok_iff.1 h
    cases r with
    | none => exact absurd hr (hsome a (List.mem_cons_self ..))
    | some b =>
      obtain ⟨cs, hcs, h⟩ := bind_eq_ok_iff.1 h
      cases h
      exact .cons hr (ih (fun x hx => hsome x (List.mem_cons_of_mem _ hx)) hcs)

/-- Where no member of a list is refused, picking results out of it is not. -/
theorem exists_filterMapM_ok {f : α → Except ε (Option β)} {l : List α}
    (h : ∀ a ∈ l, ∃ b, f a = .ok b) : ∃ bs, l.filterMapM f = .ok bs := by
  induction l with
  | nil => exact ⟨[], rfl⟩
  | cons a l ih =>
    obtain ⟨r, hr⟩ := h a (List.mem_cons_self ..)
    obtain ⟨bs, hbs⟩ := ih fun x hx => h x (List.mem_cons_of_mem _ hx)
    rw [List.filterMapM_cons]
    cases r with
    | none => exact ⟨bs, bind_eq_ok_iff.2 ⟨none, hr, hbs⟩⟩
    | some b =>
      exact ⟨b :: bs, bind_eq_ok_iff.2 ⟨some b, hr, bind_eq_ok_iff.2 ⟨bs, hbs, rfl⟩⟩⟩

/-- What every step keeps is kept by going through a list, if that is not refused. -/
theorem of_foldlM_ok {P : β → Prop} {f : β → α → Except ε β} {l : List α}
    (hf : ∀ a ∈ l, ∀ b c, P b → f b a = .ok c → P c) {b c : β} (hb : P b)
    (h : l.foldlM f b = .ok c) : P c := by
  induction l generalizing b with
  | nil =>
    cases h
    exact hb
  | cons a l ih =>
    rw [List.foldlM_cons] at h
    obtain ⟨d, ha, h⟩ := bind_eq_ok_iff.1 h
    have hd := hf a (List.mem_cons_self ..) b d hb ha
    exact ih (fun x hx => hf x (List.mem_cons_of_mem _ hx)) hd h

/-- What is picked out of a list, if none of its members is refused. -/
theorem mem_iff_of_filterM_ok {f : α → Except ε Bool} {l out : List α}
    (h : l.filterM f = .ok out) {a : α} : a ∈ out ↔ a ∈ l ∧ f a = .ok true := by
  suffices haux : ∀ (l acc out : List α), List.filterAuxM f l acc = .ok out →
      (a ∈ out ↔ (a ∈ l ∧ f a = .ok true) ∨ a ∈ acc) by
    unfold List.filterM at h
    obtain ⟨picked, hpicked, h⟩ := bind_eq_ok_iff.1 h
    cases h
    rw [List.mem_reverse, haux l [] picked hpicked]
    simp
  intro l
  induction l with
  | nil =>
    rintro acc _ ⟨⟩
    simp
  | cons b l ih =>
    intro acc out h
    unfold List.filterAuxM at h
    obtain ⟨isPicked, hb, h⟩ := bind_eq_ok_iff.1 h
    rw [ih _ out h, List.mem_cons]
    by_cases hsame : a = b
    · subst hsame
      cases isPicked <;> simp [hb]
    · cases isPicked <;> simp [hsame]

/-- What is picked out of a list is in it. -/
theorem subset_of_filterM_ok {f : α → Except ε Bool} {l out : List α}
    (h : l.filterM f = .ok out) : out ⊆ l :=
  fun _ ha => ((mem_iff_of_filterM_ok h).1 ha).1

/-- What is collected on the way through a list is what its members bring. -/
theorem mem_iff_of_foldlM_ok {f : List β → α → Except ε (List β)} {b : β} {P : α → Prop}
    {l : List α} (hf : ∀ a ∈ l, ∀ found out, f found a = .ok out → (b ∈ out ↔ b ∈ found ∨ P a))
    {found out : List β} (h : l.foldlM f found = .ok out) :
    b ∈ out ↔ b ∈ found ∨ ∃ a ∈ l, P a := by
  induction l generalizing found with
  | nil =>
    cases h
    simp
  | cons a l ih =>
    rw [List.foldlM_cons] at h
    obtain ⟨mid, hmid, h⟩ := bind_eq_ok_iff.1 h
    rw [ih (fun x hx => hf x (List.mem_cons_of_mem _ hx)) h,
      hf a (List.mem_cons_self ..) found mid hmid, List.exists_mem_cons_iff, or_assoc]

/-- Where no member of a list is refused, going through the list is not. -/
theorem exists_foldlM_ok {f : β → α → Except ε β} {l : List α}
    (hf : ∀ a ∈ l, ∀ b, ∃ c, f b a = .ok c) (b : β) : ∃ c, l.foldlM f b = .ok c := by
  induction l generalizing b with
  | nil => exact ⟨b, rfl⟩
  | cons a l ih =>
    obtain ⟨c, hc⟩ := hf a (List.mem_cons_self ..) b
    rw [List.foldlM_cons, hc]
    exact ih (fun x hx => hf x (List.mem_cons_of_mem _ hx)) c

/-- Where every step comes to a result and keeps something, going through a list does. -/
theorem exists_foldlM_keeping {P : β → Prop} {f : β → α → Except ε β} {l : List α}
    (hf : ∀ a ∈ l, ∀ b, P b → ∃ c, f b a = .ok c ∧ P c) {b : β} (hb : P b) :
    ∃ c, l.foldlM f b = .ok c ∧ P c := by
  induction l generalizing b with
  | nil => exact ⟨b, rfl, hb⟩
  | cons a l ih =>
    obtain ⟨c, hc, hkept⟩ := hf a (List.mem_cons_self ..) b hb
    rw [List.foldlM_cons, hc]
    exact ih (fun x hx => hf x (List.mem_cons_of_mem _ hx)) hkept

end Bindery
