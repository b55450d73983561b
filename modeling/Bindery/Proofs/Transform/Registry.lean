import Bindery.Transform.Registry

/-!
# Tables of transforms

What a table of transforms holds after transforms were registered one after the other. Those before
the first refusal are in the table then, each under its name, unless the name came up again. The
table is what it was before exactly if they bring no further name and the last ones for the known
names are those that were there.
-/

namespace Bindery

namespace Quantity

/-- Numbers that equal a third one are equal. -/
theorem same_of_same {a b c : Quantity} (ha : a.same c = true) (hb : b.same c = true) :
    a.same b = true := by
  cases a <;> cases b <;> cases c <;> simp_all [same]

end Quantity

namespace Value

/-- Only a text is the same as a text. -/
theorem same_text_iff {v : Value} {s : String} : v.same (.text s) = true ↔ v = .text s := by
  have hnumber (v : Value) : v.sameNumber (.text s) = false := by
    unfold sameNumber
    cases v.quantity? <;> rfl
  cases v <;> simp only [same, hnumber, beq_iff_eq, reduceCtorEq, text.injEq]

/-- A text is the same as a text only. -/
theorem text_same_iff {v : Value} {s : String} : (text s).same v = true ↔ v = .text s := by
  have hnumber (v : Value) : (text s).sameNumber v = false := rfl
  cases v <;> simp only [same, hnumber, Bool.false_eq_true, beq_iff_eq, reduceCtorEq, text.injEq]
  exact eq_comm

/-- What is the same as a number counts as that number. -/
theorem same_iff_of_quantity? {v w : Value} {b : Quantity} (hw : w.quantity? = some b) :
    v.same w = true ↔ ∃ a, v.quantity? = some a ∧ a.same b = true := by
  have hnumber : v.sameNumber w = true ↔ ∃ a, v.quantity? = some a ∧ a.same b = true := by
    unfold sameNumber
    rw [hw]
    cases v.quantity? <;> simp
  rw [← hnumber]
  cases w with
  | bool _ | int _ | float _ => cases v <;> simp only [same]
  | _ => exact nomatch hw

/-- Values that are the same as a third one are the same, if they are to be keys. -/
theorem same_of_same {v w u : Value} (hkey : u.keyFault? = none) (hv : v.same u = true)
    (hw : w.same u = true) : v.same w = true := by
  cases hu : u.quantity? with
  | some c =>
    obtain ⟨a, ha, hac⟩ := (same_iff_of_quantity? hu).1 hv
    obtain ⟨b, hb, hbc⟩ := (same_iff_of_quantity? hu).1 hw
    exact (same_iff_of_quantity? hb).2 ⟨a, ha, Quantity.same_of_same hac hbc⟩
  | none =>
    cases u with
    | text s =>
      rw [same_text_iff.1 hv, same_text_iff.1 hw]
      exact same_text_iff.2 rfl
    | null =>
      have hnull {v : Value} (h : v.same null = true) : v = null := by
        cases v <;> simp_all [same, sameNumber, quantity?]
      rw [hnull hv, hnull hw]
      rfl
    | list _ | object _ => exact nomatch hkey
    | _ => exact nomatch hu

end Value

namespace Registry

variable {α : Type}

/-- A transform with the name it is to be registered under. -/
abbrev Offer (α : Type) := Value × Candidate α

/-- The transforms that are registered, of some that are offered one after the other: those before
the first that is refused. -/
def accepted (r : Registry α) : List (Offer α) → List (Offer α)
  | [] => []
  | o :: os =>
    match r.register o.1 o.2 with
    | .ok r => o :: accepted r os
    | .error _ => []

/-- The table with transforms that were put under their names one after the other. -/
def putAll (r : Registry α) (os : List (Offer α)) : Registry α :=
  os.foldl (fun r o => r.put o.1 o.2) r

/-- The last of some transforms that goes under a name. -/
def lastFor (os : List (Offer α)) (name : Value) : Option (Candidate α) :=
  (os.reverse.find? fun o => name.same o.1).map (·.2)

/-- What is registered is put under its name. -/
theorem eq_put_of_register {r r' : Registry α} {name : Value} {c : Candidate α}
    (h : r.register name c = .ok r') : r' = r.put name c := by
  unfold register at h
  split at h
  · cases h
  · split at h
    · cases h
    · exact (Except.ok.inj h).symm
    · split at h
      · exact (Except.ok.inj h).symm
      · cases h

theorem accepted_cons_of_ok {r r' : Registry α} {o : Offer α} (h : r.register o.1 o.2 = .ok r')
    (os : List (Offer α)) : r.accepted (o :: os) = o :: (r.put o.1 o.2).accepted os := by
  rw [accepted, h, eq_put_of_register h]

theorem accepted_cons_of_error {r : Registry α} {o : Offer α} {f : RegistryFault}
    (h : r.register o.1 o.2 = .error f) (os : List (Offer α)) : r.accepted (o :: os) = [] := by
  unfold accepted
  rw [h]

/-- What is offered behind transforms that are all registered. -/
theorem accepted_append_of_eq {r : Registry α} {os : List (Offer α)} (h : r.accepted os = os)
    (ps : List (Offer α)) : r.accepted (os ++ ps) = os ++ (r.putAll os).accepted ps := by
  induction os generalizing r with
  | nil => rfl
  | cons o os ih =>
    cases ho : r.register o.1 o.2 with
    | error f => rw [accepted_cons_of_error ho] at h; cases h
    | ok r' =>
      rw [accepted_cons_of_ok ho] at h
      rw [List.cons_append, accepted_cons_of_ok ho, ih (List.cons.inj h).2]
      rfl

/-- What is offered behind a transform that is refused is not registered. -/
theorem accepted_append_of_ne {r : Registry α} {os : List (Offer α)} (h : r.accepted os ≠ os)
    (ps : List (Offer α)) : r.accepted (os ++ ps) = r.accepted os := by
  induction os generalizing r with
  | nil => exact absurd rfl h
  | cons o os ih =>
    cases ho : r.register o.1 o.2 with
    | error f => rw [List.cons_append, accepted_cons_of_error ho, accepted_cons_of_error ho]
    | ok r' =>
      rw [accepted_cons_of_ok ho] at h
      rw [List.cons_append, accepted_cons_of_ok ho, accepted_cons_of_ok ho,
        ih fun heq => h (by rw [heq])]

/-! ### Names of a table -/

theorem contains_iff {r : Registry α} {name : Value} :
    r.contains name = true ↔ ∃ e ∈ r, e.1.same name = true := by
  unfold contains get?
  rw [Option.isSome_map, List.find?_isSome]

theorem contains_eq_any (r : Registry α) (name : Value) :
    r.contains name = r.names.any (·.same name) := by
  rw [Bool.eq_iff_iff, contains_iff, names, List.any_map, List.any_eq_true]
  rfl

/-- Whether a name is known depends on the names alone. -/
theorem contains_congr {r r' : Registry α} (h : r.names = r'.names) (name : Value) :
    r.contains name = r'.contains name := by
  rw [contains_eq_any, contains_eq_any, h]

/-- A name that is not known is a further name. -/
theorem names_put_of_not_contains {r : Registry α} {name : Value} (h : r.contains name = false)
    (c : Candidate α) : (r.put name c).names = r.names ++ [name] := by
  unfold put names
  rw [h, if_neg Bool.false_ne_true, List.map_append]
  rfl

theorem names_prefix_putAll (r : Registry α) (os : List (Offer α)) :
    r.names <+: (r.putAll os).names := by
  induction os generalizing r with
  | nil => exact List.prefix_refl _
  | cons o os ih =>
    refine .trans ?_ (ih (r.put o.1 o.2))
    cases h : r.contains o.1 with
    | true => exact names_put_of_contains r o.1 o.2 h ▸ List.prefix_refl _
    | false => exact names_put_of_not_contains h o.2 ▸ List.prefix_append _ _

/-- No further name is in the table exactly if all names were known. -/
theorem names_putAll_iff {r : Registry α} {os : List (Offer α)} :
    (r.putAll os).names = r.names ↔ ∀ o ∈ os, r.contains o.1 = true := by
  induction os generalizing r with
  | nil => exact iff_of_true rfl fun _ h => nomatch h
  | cons o os ih =>
    show ((r.put o.1 o.2).putAll os).names = r.names ↔ _
    rw [List.forall_mem_cons]
    cases h : r.contains o.1 with
    | true =>
      have hnames := names_put_of_contains r o.1 o.2 h
      rw [← hnames, ih]
      simp only [contains_congr hnames, true_and]
    | false =>
      simp only [Bool.false_eq_true, false_and, iff_false]
      intro heq
      have hprefix := names_prefix_putAll (r.put o.1 o.2) os
      rw [heq, names_put_of_not_contains h] at hprefix
      have hlength := hprefix.length_le
      rw [List.length_append, List.length_singleton] at hlength
      exact absurd hlength (Nat.not_succ_le_self _)

/-! ### Transforms of a table -/

/-- A transform for a known name goes to all entries of this name. -/
theorem put_of_contains {r : Registry α} {name : Value} (h : r.contains name = true)
    (c : Candidate α) :
    r.put name c = r.map fun e => (e.1, if e.1.same name then c else e.2) := by
  unfold put
  rw [if_pos h]
  refine List.map_congr_left fun e _ => ?_
  split <;> rfl

theorem lastFor_cons (o : Offer α) (os : List (Offer α)) (name : Value) :
    lastFor (o :: os) name = (lastFor os name).or (if name.same o.1 then some o.2 else none) := by
  unfold lastFor
  rw [List.reverse_cons, List.find?_append, List.find?_singleton]
  cases os.reverse.find? fun o => name.same o.1 with
  | some p => rfl
  | none => cases name.same o.1 <;> simp

/-- Where all names were known every entry has the last transform for its name. -/
theorem putAll_of_contains {r : Registry α} {os : List (Offer α)}
    (h : ∀ o ∈ os, r.contains o.1 = true) :
    r.putAll os = r.map fun e => (e.1, (lastFor os e.1).getD e.2) := by
  induction os generalizing r with
  | nil => exact (List.map_id' r).symm
  | cons o os ih =>
    obtain ⟨ho, hos⟩ := List.forall_mem_cons.1 h
    have hnames := names_put_of_contains r o.1 o.2 ho
    show (r.put o.1 o.2).putAll os = _
    rw [ih fun p hp => by rw [contains_congr hnames]; exact hos p hp, put_of_contains ho,
      List.map_map]
    refine List.map_congr_left fun e _ => ?_
    simp only [Function.comp_apply, lastFor_cons]
    cases e.1.same o.1 <;> cases lastFor os e.1 <;> simp

/-- A table is what it was exactly if no further name came up and the last transforms for the known
names are those that were there. -/
theorem putAll_eq_self_iff {r : Registry α} {os : List (Offer α)} :
    r.putAll os = r ↔ (∀ o ∈ os, r.contains o.1 = true) ∧
      ∀ e ∈ r, ∀ c, lastFor os e.1 = some c → c = e.2 := by
  constructor
  · intro h
    have hknown := names_putAll_iff.1 (congrArg names h)
    refine ⟨hknown, fun e he c hc => ?_⟩
    rw [putAll_of_contains hknown] at h
    have hfixed := List.map_inj_left.1 (h.trans (List.map_id' r).symm) e he
    rw [hc] at hfixed
    exact (Prod.mk.inj hfixed).2
  · rintro ⟨hknown, hlast⟩
    rw [putAll_of_contains hknown]
    refine (List.map_congr_left fun e he => ?_).trans (List.map_id' r)
    cases hc : lastFor os e.1 with
    | none => rfl
    | some c => rw [hlast e he c hc]; rfl

/-- What is put under a name is found under it, unless the name is not even the same as itself. -/
theorem get?_put_self (r : Registry α) {name : Value} (hself : name.same name = true)
    (c : Candidate α) : (r.put name c).get? name = some c := by
  unfold get?
  cases h : r.contains name with
  | true =>
    rw [put_of_contains h, List.find?_map]
    obtain ⟨e, he⟩ := Option.isSome_iff_exists.1 (List.find?_isSome.2 (contains_iff.1 h))
    have hsame := List.find?_some he
    simp only [Function.comp_def, he, Option.map_some, hsame, if_true]
  | false =>
    have hnone : r.find? (·.1.same name) = none :=
      List.find?_eq_none.2 fun e he hs => Bool.false_ne_true (h ▸ contains_iff.2 ⟨e, he, hs⟩)
    unfold put
    rw [h, if_neg Bool.false_ne_true, List.find?_append, hnone]
    simp [hself]

theorem get?_put_text (r : Registry α) (name : Value) (c : Candidate α) (s : String) :
    (r.put name c).get? (.text s) =
      if (Value.text s).same name then some c else r.get? (.text s) := by
  by_cases hname : name = .text s
  · subst hname
    have hself := Value.same_text_iff.2 (rfl : Value.text s = .text s)
    rw [if_pos hself, get?_put_self r hself]
  · have hother : (Value.text s).same name = false :=
      Bool.eq_false_iff.2 fun h => hname (Value.text_same_iff.1 h)
    rw [hother, if_neg Bool.false_ne_true]
    unfold get?
    cases h : r.contains name with
    | true =>
      rw [put_of_contains h, List.find?_map]
      simp only [Function.comp_def, Option.map_map]
      refine Option.map_congr fun e he => ?_
      have hsame : e.1.same (.text s) = true := by simpa using List.find?_some he
      rw [Value.same_text_iff.1 hsame, hother, if_neg Bool.false_ne_true]
    | false =>
      have hnone : List.find? (·.1.same (.text s)) [(name, c)] = none :=
        List.find?_eq_none.2 fun e he hs => by
          rw [List.mem_singleton.1 he] at hs
          exact hname (Value.same_text_iff.1 hs)
      unfold put
      rw [h, if_neg Bool.false_ne_true, List.find?_append, hnone, Option.or_none]

/-- A text is answered with the last transform that was put under it. -/
theorem get?_putAll_text (r : Registry α) (os : List (Offer α)) (s : String) :
    (r.putAll os).get? (.text s) = (lastFor os (.text s)).or (r.get? (.text s)) := by
  induction os generalizing r with
  | nil => rfl
  | cons o os ih =>
    show ((r.put o.1 o.2).putAll os).get? (.text s) = _
    rw [ih, get?_put_text, lastFor_cons]
    cases (Value.text s).same o.1 <;> cases lastFor os (.text s) <;> simp

end Registry

end Bindery
