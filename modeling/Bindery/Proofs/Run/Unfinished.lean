import Bindery.Proofs.Run.Enactment
import Bindery.Proofs.Run.FailedHeaders

/-!
# Stages that fail midway

The stage of a run counts as reached before it is worked on. So output is generated from a library
whose processing failed midway, if whoever runs the stages goes on, and a library is processed whose
parsing failed. What is generated is complete exactly where the stages before it ended well.
-/

namespace Bindery

variable {W H S P α : Type}

/-- The library was handed to the template only behind a stage of processing that ended well, and
was processed only behind a stage of parsing that ended well. -/
structure Event.Completed (events : List (Event P)) : Prop where
  /-- Processing ended well before the library was handed to the template. -/
  emitting : ∀ earlier later, events = earlier ++ .emitting :: later →
    .ended .process true ∈ earlier
  /-- Parsing ended well before the library was processed. -/
  processing : ∀ earlier later, events = earlier ++ .entered .process :: later →
    .ended .parse true ∈ earlier

/-- What is said of whatever stands before a member that occurs once. -/
theorem forall_split_iff {a : α} {l m : List α} (hl : a ∉ l) (hm : a ∉ m) {Q : List α → Prop} :
    (∀ earlier later, l ++ a :: m = earlier ++ a :: later → Q earlier) ↔ Q l := by
  constructor
  · intro h
    exact h l m rfl
  · intro h earlier later hsame
    obtain ⟨rfl, -, -⟩ := (List.append_cons_inj_of_notMem hl hm).1 hsame
    exact h

/-- Nothing is said of what stands before a member that does not occur. -/
theorem forall_split_of_not_mem {a : α} {l : List α} (h : a ∉ l) {Q : List α → Prop} :
    ∀ earlier later, l = earlier ++ a :: later → Q earlier := by
  rintro earlier later rfl
  exact absurd (List.mem_append_right _ (List.mem_cons_self ..)) h

/-- What ends with the last member of a list does so with that member or without it. -/
theorem concat_sublist_concat_iff {l m : List α} {a b : α} :
    (l ++ [a]).Sublist (m ++ [b]) ↔ (l ++ [a]).Sublist m ∨ (a = b ∧ l.Sublist m) := by
  constructor
  · intro h
    obtain ⟨l₁, l₂, hsame, h₁, h₂⟩ := List.sublist_append_iff.1 h
    rcases List.sublist_singleton.1 h₂ with rfl | rfl
    · rw [hsame, List.append_nil]
      exact .inl h₁
    · obtain ⟨rfl, hab⟩ := List.append_inj' hsame rfl
      exact .inr ⟨(List.cons.inj hab).1, h₁⟩
  · rintro (h | ⟨rfl, h⟩)
    · exact h.trans (List.sublist_append_left m [b])
    · exact h.append_right [a]

namespace Stage

/-- The calls that come to a stage occur in order in calls that come as far. -/
theorem calls_sublist_iff (s : Stage) (calls : List Call) :
    s.calls.Sublist calls ↔ s.rank ≤ (reached calls).rank := by
  induction calls using List.reverseRecOn generalizing s with
  | nil => cases s <;> decide
  | append_singleton calls call ih =>
    have hone (k : Call) : k.target.calls.Sublist (calls ++ [call]) ↔
        k.target.rank ≤ ((reached calls).next call).rank := by
      rw [calls_target, concat_sublist_concat_iff, ← calls_target, ih, ih]
      generalize reached calls = t
      cases k <;> cases call <;> cases t <;> decide
    rw [reached_append]
    cases s with
    | idle => exact iff_of_true (List.nil_sublist _) (Nat.zero_le _)
    | parsed => exact hone .parse
    | processed => exact hone .process
    | generated => exact hone .generate

end Stage

/-- An event that does not happen while the library is processed is none of those that do. -/
theorem Event.not_mem_of_inner {events : List (Event P)} (h : ∀ e ∈ events, e.isInner = true)
    {e : Event P} (he : e.isInner = false) : e ∉ events := by
  intro hmem
  rw [h e hmem] at he
  exact Bool.noConfusion he

namespace Company

variable (co : Company W H S P) (w : W)

theorem completed_parsed : Event.Completed (co.after w [.parse]).events := by
  rw [(parsed_events co w).2]
  exact ⟨forall_split_of_not_mem (by simp), forall_split_of_not_mem (by simp)⟩

theorem mem_parsed_iff :
    .ended .parse true ∈ (co.after w [.parse]).events ↔ co.endsWell w .parse = true := by
  rw [(parsed_events co w).2]
  simp only [List.mem_cons, reduceCtorEq, Event.ended.injEq, true_and, List.not_mem_nil, or_false,
    false_or]
  exact eq_comm

theorem mem_processed_iff :
    .ended .process true ∈ (co.after w [.parse, .process]).events ↔
      co.endsWell w .process = true := by
  obtain ⟨es, hes, hevents⟩ := processed_events co w
  have hended : Event.ended .process true ∉ es := Event.not_mem_of_inner hes.inner rfl
  rw [hevents, (parsed_events co w).2]
  simp only [List.mem_append, List.mem_cons, reduceCtorEq, Event.ended.injEq, true_and, hended,
    List.not_mem_nil, or_false, false_or, false_and]
  exact eq_comm

/-- The library is processed behind parsing, once, whatever is done then. -/
theorem processing_iff (rest : List (Event P)) (hrest : .entered .process ∉ rest) :
    (∀ earlier later, (co.after w [.parse]).events ++ .entered .process :: rest =
      earlier ++ .entered .process :: later → .ended .parse true ∈ earlier) ↔
        co.endsWell w .parse = true := by
  rw [forall_split_iff (Q := (.ended .parse true ∈ ·)) _ hrest, mem_parsed_iff]
  rw [(parsed_events co w).2]
  simp

/-- What was processed is complete where parsing ended well. -/
theorem completed_processed_iff :
    Event.Completed (co.after w [.parse, .process]).events ↔ co.endsWell w .parse = true := by
  obtain ⟨es, hes, hevents⟩ := processed_events co w
  have hentered : Event.entered .process ∉ es := Event.not_mem_of_inner hes.inner rfl
  have hemitting : Event.emitting ∉ es := Event.not_mem_of_inner hes.inner rfl
  have hprocessing := processing_iff co w
    (es ++ [.ended .process (co.endsWell w .process)]) (by simp [hentered])
  rw [← hevents] at hprocessing
  constructor
  · intro h
    exact hprocessing.1 h.processing
  · intro h
    refine ⟨forall_split_of_not_mem ?_, hprocessing.2 h⟩
    rw [hevents, (parsed_events co w).2]
    simp [hemitting]

/-- What was generated is complete where parsing ended well and, unless there was nothing to
generate, processing did. -/
theorem completed_generated_iff :
    Event.Completed (co.after w [.parse, .process, .generate]).events ↔
      co.endsWell w .parse = true ∧
        (co.bare (co.after w [.parse, .process]).world = false → co.endsWell w .process = true) := by
  obtain ⟨es, hes, hprocessed⟩ := processed_events co w
  obtain ⟨-, hevents⟩ := generated_events co w
  let tail : List (Event P) := .entered .generate ::
    ((if co.bare (co.after w [.parse, .process]).world then [] else [.emitting]) ++
      [.ended .generate (co.endsWell w .generate)])
  have hentered : Event.entered .process ∉ es := Event.not_mem_of_inner hes.inner rfl
  have hemitting : Event.emitting ∉ (co.after w [.parse, .process]).events := by
    rw [hprocessed, (parsed_events co w).2]
    simp [Event.not_mem_of_inner hes.inner (e := .emitting) rfl]
  have hprocessing := processing_iff co w
    ((es ++ [.ended .process (co.endsWell w .process)]) ++ tail) (by
      cases hbare : co.bare (co.after w [.parse, .process]).world <;>
        simp [tail, hbare, hentered])
  rw [← List.cons_append, ← List.append_assoc, ← hprocessed] at hprocessing
  have hgenerating : (∀ earlier later, (co.after w [.parse, .process]).events ++ tail =
      earlier ++ .emitting :: later → .ended .process true ∈ earlier) ↔
        (co.bare (co.after w [.parse, .process]).world = false →
          co.endsWell w .process = true) := by
    cases hbare : co.bare (co.after w [.parse, .process]).world with
    | true =>
      refine iff_of_true (forall_split_of_not_mem ?_) (fun h => nomatch h)
      simp [tail, hbare, hemitting]
    | false =>
      have htail : (co.after w [.parse, .process]).events ++ tail =
          ((co.after w [.parse, .process]).events ++ [.entered .generate]) ++
            .emitting :: [.ended .generate (co.endsWell w .generate)] := by
        simp [tail, hbare]
      have hlast : Event.ended .process true ∈
          (co.after w [.parse, .process]).events ++ [.entered .generate] ↔
            co.endsWell w .process = true := by
        rw [List.mem_append, mem_processed_iff]
        simp
      rw [htail]
      refine (forall_split_iff (Q := (Event.ended .process true ∈ ·)) ?_ (by simp)).trans ?_
      · simp [hemitting]
      · rw [hlast]
        simp
  show Event.Completed (co.after w [.parse, .process, .generate]).events ↔ _
  rw [hevents, ← hprocessing, ← hgenerating]
  exact ⟨fun h => ⟨h.processing, h.emitting⟩, fun h => ⟨h.2, h.1⟩⟩

/-- What is processed and generated is complete exactly where each stage that was worked on found
the one before it ended well: parsing, where processing was called some time after it, and
processing, where something was generated after it. -/
theorem completed_iff (calls : List Call) :
    Event.Completed (co.after w calls).events ↔
      (List.Sublist [.parse, .process] calls → co.endsWell w .parse = true) ∧
        (List.Sublist [.parse, .process, .generate] calls →
          co.bare (co.after w [.parse, .process]).world = false →
            co.endsWell w .process = true) := by
  have hprocess := Stage.calls_sublist_iff .processed calls
  have hgenerate := Stage.calls_sublist_iff .generated calls
  rw [after_eq, show List.Sublist [.parse, .process] calls ↔ _ from hprocess,
    show List.Sublist [.parse, .process, .generate] calls ↔ _ from hgenerate]
  cases Stage.reached calls with
  | idle =>
    refine iff_of_true ⟨forall_split_of_not_mem List.not_mem_nil,
      forall_split_of_not_mem List.not_mem_nil⟩ ⟨fun h => ?_, fun h => ?_⟩
    · exact absurd h (by decide)
    · exact absurd h (by decide)
  | parsed =>
    refine iff_of_true (completed_parsed co w) ⟨fun h => ?_, fun h => ?_⟩
    · exact absurd h (by decide)
    · exact absurd h (by decide)
  | processed =>
    refine (completed_processed_iff co w).trans ⟨fun h => ⟨fun _ => h, fun h => ?_⟩, fun h => ?_⟩
    · exact absurd h (by decide)
    · exact h.1 (by decide)
  | generated =>
    refine (completed_generated_iff co w).trans ⟨fun h => ⟨fun _ => h.1, fun _ => h.2⟩, fun h => ?_⟩
    exact ⟨h.1 (by decide), h.2 (by decide)⟩

end Company

namespace Run

/-- A transform that fails before the passes. -/
def failing : TransformScript :=
  { TransformScript.idle "failing" with
    before := [⟨"raise", .error (.raised ⟨"RuntimeError", [.text "no"]⟩)⟩] }

/-- A grammar that takes every text for an empty header. -/
def emptyHeader : Grammar := fun source =>
  ⟨"translation_unit", 0, source.length, true, false, none, []⟩

/-- Output is generated from a library that was not processed to the end. -/
theorem generated_unfinished :
    let options := Options.default.withHeaders ["plain.h"]
    let r := after emptyHeader (start options failing shelf) [.parse]
    (r.perform process).1.isOk = false ∧ ((r.perform process).2.perform generate).1.isOk = true ∧
      r.outputs = [] ∧ ((r.perform process).2.perform generate).2.outputs ≠ [] ∧
      ¬ Event.Completed ((company emptyHeader options failing).after (.start shelf)
        [.parse, .process, .generate]).events := by
  refine ⟨by decide +kernel, by decide +kernel, by decide +kernel, by decide +kernel, ?_⟩
  have hbare : (company emptyHeader (Options.default.withHeaders ["plain.h"]) failing).bare
      ((company emptyHeader (Options.default.withHeaders ["plain.h"]) failing).after
        (.start shelf) [.parse, .process]).world = false := by
    decide +kernel
  have hfailed : (company emptyHeader (Options.default.withHeaders ["plain.h"]) failing).endsWell
      (.start shelf) .process = false := by
    decide +kernel
  intro h
  have hwell := ((Company.completed_generated_iff _ _).1 h).2 hbare
  rw [hfailed] at hwell
  exact Bool.noConfusion hwell

end Run

end Bindery
