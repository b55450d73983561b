import Bindery.Header.Build
import Bindery.Pass.Basic
import Bindery.Proofs.Outcome

/-!
# Steps that may fail

Reading a header, making a pass and editing a library are all steps that change a state and may be
refused, and what was done before a refusal stays. A step is taken apart here into its parts: where
one part is refused the rest is not entered, and where it is not the rest goes on from the state
that the part left.
-/

namespace Bindery

variable {ε σ α β : Type}

/-- The outcome of a step and the state it leaves. -/
def outcomeOf (m : ExceptT ε (StateM σ) α) (s : σ) : Except ε α × σ :=
  (ExceptT.run m).run s

theorem edit_perform (m : Edit α) (lib : Library) : m.perform lib = outcomeOf m lib := rfl

theorem build_perform (m : Build α) (lib : Library) : m.perform lib = outcomeOf m lib := rfl

theorem pass_perform {L : Type} (m : PassM L α) (s : PassState L) :
    m.perform s = outcomeOf m s := rfl

@[simp] theorem outcomeOf_pure (a : α) (s : σ) :
    outcomeOf (ε := ε) (pure a) s = (.ok a, s) := rfl

@[simp] theorem outcomeOf_throw (e : ε) (s : σ) :
    outcomeOf (α := α) (throw e) s = (.error e, s) := rfl

@[simp] theorem outcomeOf_get (s : σ) : outcomeOf (ε := ε) get s = (.ok s, s) := rfl

@[simp] theorem outcomeOf_set (s t : σ) : outcomeOf (ε := ε) (set t) s = (.ok ⟨⟩, t) := rfl

@[simp] theorem outcomeOf_modify (f : σ → σ) (s : σ) :
    outcomeOf (ε := ε) (modify f) s = (.ok ⟨⟩, f s) := rfl

theorem outcomeOf_bind (m : ExceptT ε (StateM σ) α) (f : α → ExceptT ε (StateM σ) β) (s : σ) :
    outcomeOf (m >>= f) s =
      match outcomeOf m s with
      | (.ok a, t) => outcomeOf (f a) t
      | (.error e, t) => (.error e, t) := by
  show (ExceptT.run (m >>= f)).run s = _
  unfold outcomeOf
  simp only [ExceptT.run_bind, StateT.run_bind]
  show (match (ExceptT.run m).run s with | (r, t) => _) = _
  cases h : (ExceptT.run m).run s with
  | mk r t => cases r <;> rfl

/-- A step goes on behind a part that is not refused. -/
theorem outcomeOf_bind_ok {m : ExceptT ε (StateM σ) α} {a : α} {s t : σ}
    (h : outcomeOf m s = (.ok a, t)) (f : α → ExceptT ε (StateM σ) β) :
    outcomeOf (m >>= f) s = outcomeOf (f a) t := by
  rw [outcomeOf_bind, h]

/-- A step ends with a part that is refused. -/
theorem outcomeOf_bind_error {m : ExceptT ε (StateM σ) α} {e : ε} {s t : σ}
    (h : outcomeOf m s = (.error e, t)) (f : α → ExceptT ε (StateM σ) β) :
    outcomeOf (m >>= f) s = (.error e, t) := by
  rw [outcomeOf_bind, h]

/-- What is not refused comes from a part that is not refused and what was done behind it. -/
theorem exists_of_outcomeOf_bind {m : ExceptT ε (StateM σ) α} {f : α → ExceptT ε (StateM σ) β}
    {b : β} {s u : σ} (h : outcomeOf (m >>= f) s = (.ok b, u)) :
    ∃ a t, outcomeOf m s = (.ok a, t) ∧ outcomeOf (f a) t = (.ok b, u) := by
  rw [outcomeOf_bind] at h
  cases hm : outcomeOf m s with
  | mk r t =>
    rw [hm] at h
    cases r with
    | error e => cases h
    | ok a => exact ⟨a, t, rfl, h⟩

/-- A step leaves what its second part makes of any state that the first part leaves, or what the
first part leaves. -/
theorem outcomeOf_bind_leaves {P Q : σ → Prop} {m : ExceptT ε (StateM σ) α}
    {f : α → ExceptT ε (StateM σ) β} {s : σ} (hm : P (outcomeOf m s).2) (hend : ∀ t, P t → Q t)
    (hnext : ∀ a t, P t → Q (outcomeOf (f a) t).2) : Q (outcomeOf (m >>= f) s).2 := by
  rw [outcomeOf_bind]
  revert hm
  rcases outcomeOf m s with ⟨e | a, t⟩ <;> intro hm
  · exact hend t hm
  · exact hnext a t hm

/-! ### Steps for the members of a list -/

theorem outcomeOf_forM_cons (f : α → ExceptT ε (StateM σ) PUnit) (a : α) (l : List α) (s : σ) :
    outcomeOf ((a :: l).forM f) s = outcomeOf (f a >>= fun _ => l.forM f) s := rfl

/-- What every step keeps is kept by the steps for the members of a list. -/
theorem outcomeOf_forM_keeps {P : σ → Prop} {f : α → ExceptT ε (StateM σ) PUnit} {l : List α}
    (hstep : ∀ a ∈ l, ∀ s, P s → P (outcomeOf (f a) s).2) {s : σ} (h : P s) :
    P (outcomeOf (l.forM f) s).2 := by
  induction l generalizing s with
  | nil => exact h
  | cons a l ih =>
    show P (outcomeOf (f a >>= fun _ => l.forM f) s).2
    rw [outcomeOf_bind]
    have ha := hstep a (List.mem_cons_self ..) s h
    revert ha
    rcases outcomeOf (f a) s with ⟨r | r, t⟩ <;> intro ha
    · exact ha
    · exact ih (fun b hb => hstep b (List.mem_cons_of_mem _ hb)) ha

/-- What every step keeps is kept by steps that each have the result of the one before. -/
theorem outcomeOf_foldlM_keeps {P : σ → Prop} {f : β → α → ExceptT ε (StateM σ) β} {l : List α}
    (hstep : ∀ a ∈ l, ∀ b s, P s → P (outcomeOf (f b a) s).2) {b : β} {s : σ} (h : P s) :
    P (outcomeOf (l.foldlM f b) s).2 := by
  induction l generalizing b s with
  | nil => exact h
  | cons a l ih =>
    rw [List.foldlM_cons]
    exact outcomeOf_bind_leaves (hstep a (List.mem_cons_self ..) b s h) (fun _ ht => ht)
      fun c t ht => ih (fun x hx => hstep x (List.mem_cons_of_mem _ hx)) ht

/-- Where the steps for the members of a list are made, what every step that is made keeps is kept
by all of them. -/
theorem of_outcomeOf_forM_ok {P : σ → Prop} {f : α → ExceptT ε (StateM σ) PUnit} {l : List α}
    (hstep : ∀ a ∈ l, ∀ s t, P s → outcomeOf (f a) s = (.ok ⟨⟩, t) → P t) {s t : σ} (h : P s)
    (hrun : outcomeOf (l.forM f) s = (.ok ⟨⟩, t)) : P t := by
  induction l generalizing s with
  | nil =>
    cases hrun
    exact h
  | cons a l ih =>
    rw [outcomeOf_forM_cons] at hrun
    obtain ⟨_, mid, ha, hrest⟩ := exists_of_outcomeOf_bind hrun
    exact ih (fun b hb => hstep b (List.mem_cons_of_mem _ hb))
      (hstep a (List.mem_cons_self ..) s mid h ha) hrest

/-- Where every step is made, given what holds before the steps that are left, all are made. -/
theorem outcomeOf_forM_ok {I : List α → σ → Prop} {f : α → ExceptT ε (StateM σ) PUnit}
    (hstep : ∀ a l s, I (a :: l) s → ∃ t, outcomeOf (f a) s = (.ok ⟨⟩, t) ∧ I l t) {l : List α}
    {s : σ} (h : I l s) : ∃ t, outcomeOf (l.forM f) s = (.ok ⟨⟩, t) ∧ I [] t := by
  induction l generalizing s with
  | nil => exact ⟨s, rfl, h⟩
  | cons a l ih =>
    obtain ⟨t, ha, hi⟩ := hstep a l s h
    show ∃ t, outcomeOf (f a >>= fun _ => l.forM f) s = (.ok ⟨⟩, t) ∧ I [] t
    rw [outcomeOf_bind_ok ha]
    exact ih hi

/-- Where every step is made with the result of the one before it, all are made. -/
theorem outcomeOf_foldlM_ok {I : β → σ → Prop} {f : β → α → ExceptT ε (StateM σ) β} {l : List α}
    (hstep : ∀ a ∈ l, ∀ b s, I b s → ∃ c t, outcomeOf (f b a) s = (.ok c, t) ∧ I c t) {b : β}
    {s : σ} (h : I b s) : ∃ c t, outcomeOf (l.foldlM f b) s = (.ok c, t) ∧ I c t := by
  induction l generalizing b s with
  | nil => exact ⟨b, s, rfl, h⟩
  | cons a l ih =>
    obtain ⟨c, t, ha, hi⟩ := hstep a (List.mem_cons_self ..) b s h
    rw [List.foldlM_cons, outcomeOf_bind_ok ha]
    exact ih (fun x hx => hstep x (List.mem_cons_of_mem _ hx)) hi

/-- Where a step does for a member of a list what no later step undoes, it is done for all members
in the end. -/
theorem foldl_makes {I : β → Prop} {Q : β → α → Prop} {f : β → α → β} {l : List α}
    (hkeep : ∀ b a, I b → I (f b a)) (hstay : ∀ b a x, I b → Q b x → Q (f b a) x)
    (hmake : ∀ b, ∀ a ∈ l, I b → Q (f b a) a) {b : β} (h : I b) : ∀ a ∈ l, Q (l.foldl f b) a := by
  have hafter : ∀ (l : List α) (b : β) (x : α), I b → Q b x → Q (l.foldl f b) x := by
    intro l
    induction l with
    | nil => exact fun _ _ _ hq => hq
    | cons a l ih => exact fun b x hb hq => ih _ x (hkeep b a hb) (hstay b a x hb hq)
  induction l generalizing b with
  | nil => exact fun a ha => absurd ha List.not_mem_nil
  | cons c l ih =>
    intro a ha
    rw [List.foldl_cons]
    rcases List.mem_cons.1 ha with rfl | ha
    · exact hafter l _ a (hkeep b a h) (hmake b a (List.mem_cons_self ..) h)
    · exact ih (fun b x hx => hmake b x (List.mem_cons_of_mem _ hx)) (hkeep b c h) a ha

/-! ### What steps leave -/

/-- A step leaves a state that is related to the one it began at, whether it is refused or not. -/
def Leaves (R : σ → σ → Prop) (m : ExceptT ε (StateM σ) α) : Prop :=
  ∀ s, R s (outcomeOf m s).2

namespace Leaves

variable {R : σ → σ → Prop} [IsPreorder σ R]

theorem pure (a : α) : Leaves R (Pure.pure a : ExceptT ε (StateM σ) α) :=
  fun s => refl_of R s

theorem throw (e : ε) : Leaves R (MonadExcept.throw e : ExceptT ε (StateM σ) α) :=
  fun s => refl_of R s

theorem get : Leaves R (MonadState.get : ExceptT ε (StateM σ) σ) :=
  fun s => refl_of R s

theorem bind {m : ExceptT ε (StateM σ) α} {f : α → ExceptT ε (StateM σ) β} (hm : Leaves R m)
    (hf : ∀ a, Leaves R (f a)) : Leaves R (m >>= f) :=
  fun s => outcomeOf_bind_leaves (hm s) (fun _ ht => ht) fun a t ht => trans_of R ht (hf a t)

theorem forM {f : α → ExceptT ε (StateM σ) PUnit} {l : List α} (hf : ∀ a ∈ l, Leaves R (f a)) :
    Leaves R (l.forM f) :=
  fun s => outcomeOf_forM_keeps (fun a ha t ht => trans_of R ht (hf a ha t)) (refl_of R s)

theorem foldlM {f : β → α → ExceptT ε (StateM σ) β} {l : List α}
    (hf : ∀ b, ∀ a ∈ l, Leaves R (f b a)) (b : β) : Leaves R (l.foldlM f b) :=
  fun s => outcomeOf_foldlM_keeps (fun a ha c t ht => trans_of R ht (hf c a ha t)) (refl_of R s)

end Leaves

/-! ### Steps that go on alike -/

/-- Two steps come to the same end: both are refused, or both are made with results that belong
together and leave states that do. -/
inductive Alike {ε' τ γ : Type} (R : α → γ → Prop) (S : σ → τ → Prop) :
    Except ε α × σ → Except ε' γ × τ → Prop where
  /-- Both are made. -/
  | ok {a : α} {c : γ} {s : σ} {t : τ} : R a c → S s t → Alike R S (.ok a, s) (.ok c, t)
  /-- Both are refused. -/
  | error (e : ε) (e' : ε') (s : σ) (t : τ) : Alike R S (.error e, s) (.error e', t)

namespace Alike

variable {ε' τ γ δ : Type} {R : α → γ → Prop} {Q : β → δ → Prop} {S T : σ → τ → Prop}

theorem bind {m : ExceptT ε (StateM σ) α} {n : ExceptT ε' (StateM τ) γ}
    {f : α → ExceptT ε (StateM σ) β} {f' : γ → ExceptT ε' (StateM τ) δ} {s : σ} {t : τ}
    (h : Alike R S (outcomeOf m s) (outcomeOf n t))
    (hf : ∀ a c s t, R a c → S s t → Alike Q T (outcomeOf (f a) s) (outcomeOf (f' c) t)) :
    Alike Q T (outcomeOf (m >>= f) s) (outcomeOf (n >>= f') t) := by
  rw [outcomeOf_bind, outcomeOf_bind]
  revert h
  cases outcomeOf m s
  cases outcomeOf n t
  intro h
  cases h with
  | ok hac hst => exact hf _ _ _ _ hac hst
  | error e e' => exact .error e e' _ _

theorem forM {f : α → ExceptT ε (StateM σ) PUnit} {k : γ → ExceptT ε' (StateM τ) PUnit}
    {g : α → γ} {l : List α} (hf : ∀ a ∈ l, ∀ s t, S s t →
      Alike (fun _ _ => True) S (outcomeOf (f a) s) (outcomeOf (k (g a)) t)) {s : σ} {t : τ}
    (h : S s t) :
    Alike (fun _ _ => True) S (outcomeOf (l.forM f) s) (outcomeOf ((l.map g).forM k) t) := by
  induction l generalizing s t with
  | nil => exact .ok trivial h
  | cons a l ih =>
    refine bind (m := f a) (n := k (g a)) (hf a (List.mem_cons_self ..) s t h) ?_
    exact fun _ _ s t _ hst => ih (fun b hb => hf b (List.mem_cons_of_mem _ hb)) hst

theorem foldlM {f : β → α → ExceptT ε (StateM σ) β} {f' : δ → γ → ExceptT ε' (StateM τ) δ}
    {g : α → γ} {l : List α} (hf : ∀ a ∈ l, ∀ b d s t, Q b d → S s t →
      Alike Q S (outcomeOf (f b a) s) (outcomeOf (f' d (g a)) t)) {b : β} {d : δ} {s : σ} {t : τ}
    (hbd : Q b d) (h : S s t) :
    Alike Q S (outcomeOf (l.foldlM f b) s) (outcomeOf ((l.map g).foldlM f' d) t) := by
  induction l generalizing b d s t with
  | nil => exact .ok hbd h
  | cons a l ih =>
    rw [List.map_cons, List.foldlM_cons, List.foldlM_cons]
    refine bind (hf a (List.mem_cons_self ..) b d s t hbd h) ?_
    exact fun b d s t hbd hst => ih (fun c hc => hf c (List.mem_cons_of_mem _ hc)) hbd hst

theorem mono {R' : α → γ → Prop} {x : Except ε α × σ} {y : Except ε' γ × τ} (h : Alike R S x y)
    (hR : ∀ a c, R a c → R' a c) (hS : ∀ s t, S s t → T s t) : Alike R' T x y := by
  cases h with
  | ok hac hst => exact .ok (hR _ _ hac) (hS _ _ hst)
  | error e e' => exact .error e e' _ _

/-- What is known of the state that one of the steps leaves. -/
theorem and_left {P : σ → Prop} {x : Except ε α × σ} {y : Except ε' γ × τ} (h : Alike R S x y)
    (hP : P x.2) : Alike R (fun s t => P s ∧ S s t) x y := by
  cases h with
  | ok hac hst => exact .ok hac ⟨hP, hst⟩
  | error e e' => exact .error e e' _ _

/-- Where one of two steps that go on alike is made, the other one is. -/
theorem exists_ok {a : α} {s : σ} {y : Except ε' γ × τ}
    (h : Alike R S ((.ok a, s) : Except ε α × σ) y) :
    ∃ c t, y = (.ok c, t) ∧ R a c ∧ S s t := by
  cases h with
  | ok hac hst => exact ⟨_, _, rfl, hac, hst⟩

end Alike

/-! ### Edits as parts of other steps -/

theorem outcomeOf_editLook (f : Library → Except GraphFault α) (lib : Library) :
    outcomeOf (Edit.look f) lib = (f lib, lib) := by
  unfold Edit.look
  rw [outcomeOf_bind_ok (outcomeOf_get lib)]
  cases f lib <;> rfl

theorem outcomeOf_buildEdit (e : Edit α) (lib : Library) :
    outcomeOf (Build.edit e) lib =
      ((outcomeOf e lib).1.mapError Fault.graph, (outcomeOf e lib).2) := by
  unfold Build.edit
  rw [outcomeOf_bind_ok (outcomeOf_get lib)]
  simp only [edit_perform]
  rw [outcomeOf_bind_ok (outcomeOf_set lib _)]
  cases (outcomeOf e lib).1 <;> rfl

theorem outcomeOf_edit (e : Edit α) (s : PassState Library) :
    outcomeOf (PassM.edit e) s =
      ((outcomeOf e s.library).1.mapError .graph,
        { s with library := (outcomeOf e s.library).2 }) := by
  unfold PassM.edit PassM.alter
  rw [outcomeOf_bind_ok (outcomeOf_get s)]
  have hrun : (ExceptT.run (ExceptT.mk ((ExceptT.run e).map (·.mapError .graph)))).run s.library =
      ((outcomeOf e s.library).1.mapError Fault.graph, (outcomeOf e s.library).2) := rfl
  simp only [hrun]
  cases h : (outcomeOf e s.library).1 <;> rfl

theorem outcomeOf_look (f : Library → Except GraphFault α) (s : PassState Library) :
    outcomeOf (PassM.look f) s = ((f s.library).mapError .graph, s) := by
  unfold PassM.look PassM.view
  rw [outcomeOf_bind_ok (outcomeOf_get s)]
  cases h : f s.library <;> simp only [h] <;> rfl

/-- What a look finds is what is there, and it changes nothing. -/
theorem eq_of_outcomeOf_look {f : Library → Except GraphFault α} {s t : PassState Library} {a : α}
    (h : outcomeOf (PassM.look f) s = (.ok a, t)) : f s.library = .ok a ∧ t = s := by
  rw [outcomeOf_look] at h
  obtain ⟨hfound, rfl⟩ := Prod.mk.inj h
  exact ⟨eq_ok_of_mapError hfound, rfl⟩

namespace Alike

variable {γ : Type} {R : α → γ → Prop} {s t : PassState Library}

/-- Edits that go on alike do so as parts of a pass. -/
theorem edit {S : Library → Library → Prop} {e : Edit α} {e' : Edit γ}
    (h : Alike R S (outcomeOf e s.library) (outcomeOf e' t.library)) :
    Alike R (fun s t => S s.library t.library) (outcomeOf (PassM.edit e) s)
      (outcomeOf (PassM.edit e') t) := by
  rw [outcomeOf_edit, outcomeOf_edit]
  revert h
  cases outcomeOf e s.library
  cases outcomeOf e' t.library
  intro h
  cases h with
  | ok hac hst => exact .ok hac hst
  | error e e' => exact .error _ _ _ _

/-- A look at two libraries that shows things that belong together. -/
theorem look {S : PassState Library → PassState Library → Prop}
    {f : Library → Except GraphFault α} {g : Library → Except GraphFault γ}
    (h : Agree R (f s.library) (g t.library)) (hst : S s t) :
    Alike R S (outcomeOf (PassM.look f) s) (outcomeOf (PassM.look g) t) := by
  rw [outcomeOf_look, outcomeOf_look]
  revert h
  cases f s.library <;> cases g t.library <;> intro h <;> cases h
  · exact .error _ _ _ _
  · next hac => exact .ok hac hst

end Alike

end Bindery
