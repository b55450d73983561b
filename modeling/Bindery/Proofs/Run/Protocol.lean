import Bindery.Proofs.Run.Course
import Mathlib.Data.List.Induction

/-!
# The protocol of the stages

Whoever calls the stages of a course, in whatever order and whatever fails, gets past the check of
the stage at most once for each of them, in order. The transform is called at its places in order,
each pass is made at most once and none after one that failed. A call that does not come next is
refused and changes nothing.
-/

namespace Bindery

variable {W H S P α : Type}

namespace Event

/-- The calls that got past the check of the stage. -/
def calls (events : List (Event P)) : List Call :=
  events.filterMap fun
    | entered call => some call
    | _ => none

/-- The places at which the transform was called. -/
def hooks (events : List (Event P)) : List Hook :=
  events.filterMap fun
    | hook h => some h
    | _ => none

/-- The passes that were made, with whether they went well. -/
def results (events : List (Event P)) : List (P × Bool) :=
  events.filterMap fun
    | made p well => some (p, well)
    | _ => none

/-- Passes that were made, as events. -/
def ofResults (results : List (P × Bool)) : List (Event P) :=
  results.map fun r => made r.1 r.2

variable {events : List (Event P)} {rs : List (P × Bool)}

@[simp] theorem calls_append (l : List (Event P)) :
    calls (events ++ l) = calls events ++ calls l :=
  List.filterMap_append

@[simp] theorem hooks_append (l : List (Event P)) :
    hooks (events ++ l) = hooks events ++ hooks l :=
  List.filterMap_append

@[simp] theorem results_append (l : List (Event P)) :
    results (events ++ l) = results events ++ results l :=
  List.filterMap_append

@[simp] theorem calls_ofResults : calls (ofResults rs) = [] := by
  induction rs with
  | nil => rfl
  | cons r rs ih => exact ih

@[simp] theorem hooks_ofResults : hooks (ofResults rs) = [] := by
  induction rs with
  | nil => rfl
  | cons r rs ih => exact ih

@[simp] theorem results_ofResults : results (ofResults rs) = rs := by
  induction rs with
  | nil => rfl
  | cons r rs ih => exact congrArg (r :: ·) ih

/-- Whether an event can happen while the library is processed. -/
def isInner : Event P → Bool
  | hook _ | made .. => true
  | _ => false

theorem isInner_of_mem_ofResults {e : Event P} (h : e ∈ ofResults rs) : e.isInner = true := by
  obtain ⟨r, -, rfl⟩ := List.mem_map.1 h
  rfl

theorem calls_of_isInner (h : ∀ e ∈ events, e.isInner = true) : calls events = [] := by
  refine List.filterMap_eq_nil_iff.2 fun e he => ?_
  cases e with
  | entered call => exact nomatch h _ he
  | ended call well => rfl
  | hook place => rfl
  | made p well => rfl
  | emitting => rfl

end Event

/-- No pass was made after one that failed. -/
def Stops (results : List (P × Bool)) : Prop :=
  ∀ earlier p later, results = earlier ++ (p, false) :: later → later = []

theorem Stops.nil : Stops ([] : List (P × Bool)) := by
  intro earlier p later h
  have := congrArg List.length h
  simp at this

theorem Stops.singleton (r : P × Bool) : Stops [r] := by
  intro earlier p later h
  have hlength := congrArg List.length h
  simp only [List.length_append, List.length_cons, List.length_nil] at hlength
  exact List.eq_nil_of_length_eq_zero (by omega)

theorem Stops.cons {p : P} {results : List (P × Bool)} (h : Stops results) :
    Stops ((p, true) :: results) := by
  intro earlier q later hsame
  cases earlier with
  | nil => cases hsame
  | cons r earlier => exact h earlier q later (List.cons.inj hsame).2

/-- The protocol that a course keeps to. -/
structure Course.Orderly (co : Company W H S P) (c : Course W H P) : Prop where
  /-- The calls that got past the check of the stage are the first of all stages, in order. -/
  calls : Event.calls c.events <+: [.parse, .process, .generate]
  /-- The transform was called at the first of its places, in order. -/
  hooks : Event.hooks c.events <+: [.setupHeaders, .preprocess, .setupPasses, .postprocess]
  /-- The passes of every run are registered before all others. -/
  builtins : c.roster = none ∨ co.builtins <+: c.registered
  /-- The passes that were made are the first of those that are registered, in order, each of them
  made once. -/
  made : (Event.results c.events).map Prod.fst <+: c.registered
  /-- No pass was made after one that failed. -/
  stops : Stops (Event.results c.events)
  /-- A call gets past the check of the stage when it comes next. -/
  admitted : ∀ call, c.stage = call.expected →
    Event.calls (co.attempt call c).2.events = Event.calls c.events ++ [call]
  /-- Any other call is refused and changes nothing. -/
  refused : ∀ call, c.stage ≠ call.expected → ∃ f, co.attempt call c = (.error f, c) ∧
    f = .stageOrder call.target.word c.stage.word call.expected.word ∧
    f.label = "PipelineStateError"
  /-- The stage never moves backwards. -/
  forward : ∀ call, c.stage.rank ≤ (co.attempt call c).2.stage.rank

namespace Course

/-- Two courses that differ at most in the world and in what has become of the headers. -/
structure Quiet (c d : Course W H P) : Prop where
  stage_eq : d.stage = c.stage
  roster_eq : d.roster = c.roster
  events_eq : d.events = c.events

namespace Quiet

variable {c d e : Course W H P}

theorem refl (c : Course W H P) : c.Quiet c := ⟨rfl, rfl, rfl⟩

theorem trans (h : c.Quiet d) (h' : d.Quiet e) : c.Quiet e :=
  ⟨h'.stage_eq.trans h.stage_eq, h'.roster_eq.trans h.roster_eq, h'.events_eq.trans h.events_eq⟩

theorem act (m : Act W α) (c : Course W H P) : c.Quiet (outcomeOf (act m) c).2 := by
  rw [outcomeOf_act]
  exact ⟨rfl, rfl, rfl⟩

end Quiet

/-- A course with a roster: since some events, passes of it were made but nothing else happened. -/
structure Handled (co : Company W H S P) (stage : Stage) (before : List (Event P))
    (rs : List (P × Bool)) (roster : Roster P) (c : Course W H P) : Prop where
  stage_eq : c.stage = stage
  roster_eq : c.roster = some roster
  events_eq : c.events = before ++ Event.ofResults rs
  builtins : co.builtins <+: roster.passes
  made : rs.map Prod.fst <+: roster.passes
  stops : Stops rs
  unsealed : roster.sealed = false → rs = []

/-- A course in which, since some events, a roster was handled. -/
def HandledSince (co : Company W H S P) (stage : Stage) (before : List (Event P))
    (c : Course W H P) : Prop :=
  ∃ rs roster, Handled co stage before rs roster c

end Course

open Course

namespace Company

variable {co : Company W H S P} {stage : Stage} {before : List (Event P)} {c : Course W H P}

/-- Passes are made in order, up to the first that fails. -/
theorem makePasses_events (co : Company W H S P) (ps : List P) (c : Course W H P) :
    ∃ rs, Quiet { c with events := c.events ++ Event.ofResults rs }
      (outcomeOf (ps.forM co.makePass) c).2 ∧ rs.map Prod.fst <+: ps ∧ Stops rs := by
  induction ps generalizing c with
  | nil => exact ⟨[], ⟨rfl, rfl, (List.append_nil _).symm⟩, List.nil_prefix, .nil⟩
  | cons p ps ih =>
    rw [outcomeOf_forM_cons, outcomeOf_bind, outcomeOf_makePass]
    rcases outcomeOf (co.make p) c.world with ⟨f | u, w⟩
    · exact ⟨[(p, false)], ⟨rfl, rfl, rfl⟩, List.prefix_append [p] ps, .singleton _⟩
    · obtain ⟨rs, hquiet, hprefix, hstops⟩ :=
        ih { c with world := w, events := c.events ++ [.made p true] }
      refine ⟨(p, true) :: rs, ⟨hquiet.stage_eq, hquiet.roster_eq, ?_⟩,
        List.cons_prefix_cons.2 ⟨rfl, hprefix⟩, hstops.cons⟩
      exact hquiet.events_eq.trans (List.append_assoc _ _ _)

/-- Running the passes leaves the roster handled. -/
theorem runPasses_handled (h : HandledSince co stage before c) :
    HandledSince co stage before (outcomeOf co.runPasses c).2 := by
  obtain ⟨rs, roster, h⟩ := h
  rw [outcomeOf_runPasses co h.roster_eq]
  cases hsealed : roster.sealed with
  | true => exact ⟨rs, roster, h⟩
  | false =>
    rw [if_neg Bool.false_ne_true]
    obtain rfl := h.unsealed hsealed
    obtain ⟨rs, hquiet, hprefix, hstops⟩ := makePasses_events co roster.passes
      { c with roster := some { roster with sealed := true } }
    refine ⟨rs, { roster with sealed := true }, hquiet.stage_eq.trans h.stage_eq, hquiet.roster_eq,
      ?_, h.builtins, hprefix, hstops, fun h => nomatch h⟩
    rw [show before = c.events from (h.events_eq.trans (List.append_nil _)).symm]
    exact hquiet.events_eq

/-- Registering a pass leaves the roster handled. -/
theorem enroll_handled (h : HandledSince co stage before c) (ready : Act W P) :
    HandledSince co stage before (outcomeOf (enroll ready) c).2 := by
  obtain ⟨rs, roster, h⟩ := h
  rw [outcomeOf_enroll h.roster_eq]
  cases hsealed : roster.sealed with
  | true => exact ⟨rs, roster, h⟩
  | false =>
    have hquiet := Quiet.act ready c
    obtain rfl := h.unsealed hsealed
    rw [if_neg Bool.false_ne_true, outcomeOf_bind]
    cases hready : outcomeOf (act ready) c with
    | mk outcome d =>
      rw [hready] at hquiet
      cases outcome with
      | error f =>
        exact ⟨[], roster, hquiet.stage_eq.trans h.stage_eq, hquiet.roster_eq.trans h.roster_eq,
          hquiet.events_eq.trans h.events_eq, h.builtins, h.made, h.stops, fun _ => rfl⟩
      | ok p =>
        exact ⟨[], ⟨roster.passes ++ [p], false⟩, hquiet.stage_eq.trans h.stage_eq, rfl,
          hquiet.events_eq.trans h.events_eq, h.builtins.trans (List.prefix_append _ _),
          List.nil_prefix, h.stops, fun _ => rfl⟩

/-- Whatever a transform does with the roster leaves it handled. -/
theorem register_handled (program : Registering W P) (h : HandledSince co stage before c) :
    HandledSince co stage before (outcomeOf (co.register program) c).2 := by
  induction program generalizing c with
  | leave outcome =>
    unfold register
    rw [outcomeOf_given]
    exact h
  | work step next ih =>
    obtain ⟨rs, roster, h⟩ := h
    exact ih _ (c := { c with world := step c.world }) ⟨rs, roster, h.stage_eq, h.roster_eq,
      h.events_eq, h.builtins, h.made, h.stops, h.unsealed⟩
  | look next ih => exact ih _ h
  | add ready next ih =>
    unfold register
    rw [outcomeOf_bind_ok (outcomeOf_caught _ _)]
    exact ih _ (enroll_handled h ready)
  | close next ih =>
    obtain ⟨rs, roster, h⟩ := h
    have hclosed : c.roster.map ({ · with sealed := true }) =
        some { roster with sealed := true } := by
      rw [h.roster_eq]
      rfl
    exact ih (c := { c with roster := c.roster.map ({ · with sealed := true }) })
      ⟨rs, _, h.stage_eq, hclosed, h.events_eq, h.builtins, h.made, h.stops, fun h => nomatch h⟩
  | run next ih =>
    unfold register
    rw [outcomeOf_bind_ok (outcomeOf_caught _ _)]
    exact ih _ (runPasses_handled h)

/-- The passes of every run are registered in order. -/
theorem outcomeOf_enroll_all (ps earlier : List P) (h : c.roster = some ⟨earlier, false⟩) :
    outcomeOf (ps.forM fun p => enroll (W := W) (H := H) (pure p)) c =
      (.ok (), { c with roster := some ⟨earlier ++ ps, false⟩ }) := by
  induction ps generalizing c earlier with
  | nil =>
    rw [List.append_nil, ← h]
    rfl
  | cons p ps ih =>
    have hone : outcomeOf (enroll (H := H) (pure (f := Act W) p)) c =
        (.ok (), { c with roster := some ⟨earlier ++ [p], false⟩ }) := by
      rw [outcomeOf_enroll h]
      rfl
    show outcomeOf (enroll (pure p) >>= fun _ => ps.forM fun p => enroll (pure p)) c = _
    rw [outcomeOf_bind_ok hone, ih (earlier ++ [p]) rfl, List.append_assoc]
    rfl

/-! ### The stages -/

/-- Parsing calls the transform once and does nothing else that the protocol is about. -/
theorem outcomeOf_parseBody (co : Company W H S P) (c : Course W H P) :
    Quiet { c with events := c.events ++ [.hook .setupHeaders] } (outcomeOf co.parseBody c).2 := by
  have hone : ∀ s header (c : Course W H P), c.Quiet (outcomeOf (co.parseOne s header) c).2 := by
    intro s header c
    refine outcomeOf_bind_leaves (Quiet.act (co.parseHeader s header) c) (fun _ h => h) ?_
    rintro (_ | reason) d h
    · exact h.trans ⟨rfl, rfl, rfl⟩
    · exact h.trans ⟨rfl, rfl, rfl⟩
  unfold parseBody
  rw [outcomeOf_bind_ok (outcomeOf_modify _ _), outcomeOf_bind_ok (outcomeOf_note _ _)]
  refine Quiet.trans (d := { c with
    world := co.begin c.world
    events := c.events ++ [.hook .setupHeaders] }) ⟨rfl, rfl, rfl⟩ ?_
  refine outcomeOf_bind_leaves (Quiet.act _ _) (fun _ h => h) fun extra d hd => hd.trans ?_
  refine outcomeOf_bind_leaves (Quiet.act _ _) (fun _ h => h) fun r e he => ?_
  exact outcomeOf_forM_keeps (P := d.Quiet) (fun header _ c hc => hc.trans (hone r.1 header c)) he

/-- What processing the library comes to. -/
inductive Processed (co : Company W H S P) (c : Course W H P) : Course W H P → Prop where
  /-- The library could not be put into order. -/
  | unsorted {d} : c.Quiet d → Processed co c d
  /-- The transform failed before the passes. -/
  | unprepared {d} : Quiet { c with events := c.events ++ [.hook .preprocess] } d → Processed co c d
  /-- It came to the roster. -/
  | handled {d} :
    HandledSince co c.stage (c.events ++ [.hook .preprocess, .hook .setupPasses]) d →
    Processed co c d
  /-- All passes were made. -/
  | passed {d e} :
    HandledSince co c.stage (c.events ++ [.hook .preprocess, .hook .setupPasses]) d →
    Quiet { d with events := d.events ++ [.hook .postprocess] } e → Processed co c e

/-- The passes of every run are registered before the transform is called. -/
theorem outcomeOf_setUpBody (co : Company W H S P) (c : Course W H P) :
    outcomeOf co.setUpBody c = outcomeOf (co.register co.setupPasses) { c with
      roster := some ⟨co.builtins, false⟩
      events := c.events ++ [.hook .setupPasses] } := by
  unfold setUpBody
  rw [outcomeOf_bind_ok (outcomeOf_modify _ _),
    outcomeOf_bind_ok (outcomeOf_enroll_all _ [] rfl), outcomeOf_bind_ok (outcomeOf_note _ _)]
  rfl

theorem setUpBody_handled (co : Company W H S P) (c : Course W H P) :
    HandledSince co c.stage (c.events ++ [.hook .setupPasses]) (outcomeOf co.setUpBody c).2 := by
  rw [outcomeOf_setUpBody]
  exact register_handled _ ⟨[], ⟨co.builtins, false⟩, rfl, rfl, (List.append_nil _).symm,
    List.prefix_rfl, List.nil_prefix, .nil, fun _ => rfl⟩

/-- Processing calls the transform at its places, with the passes between. -/
theorem outcomeOf_processBody (co : Company W H S P) (c : Course W H P) :
    Processed co c (outcomeOf co.processBody c).2 := by
  unfold processBody
  refine outcomeOf_bind_leaves (Quiet.act co.sort c) (fun _ h => .unsorted h) fun _ d hd => ?_
  rw [outcomeOf_bind_ok (outcomeOf_note _ _)]
  have hnoted : Quiet { c with events := c.events ++ [.hook .preprocess] }
      { d with events := d.events ++ [.hook .preprocess] } :=
    ⟨hd.stage_eq, hd.roster_eq, congrArg (· ++ [.hook .preprocess]) hd.events_eq⟩
  refine outcomeOf_bind_leaves (hnoted.trans (Quiet.act _ _)) (fun _ h => .unprepared h)
    fun _ d hd => ?_
  have hset := setUpBody_handled co d
  rw [hd.stage_eq, hd.events_eq, List.append_assoc] at hset
  refine outcomeOf_bind_leaves hset (fun _ h => .handled h) fun _ d hd => ?_
  refine outcomeOf_bind_leaves (runPasses_handled hd) (fun _ h => .handled h) fun _ d hd => ?_
  rw [outcomeOf_bind_ok (outcomeOf_note _ _)]
  exact .passed hd (Quiet.act _ _)

/-- Generating hands the library to the template, if there is anything in it. -/
theorem outcomeOf_generateBody (co : Company W H S P) (c : Course W H P) :
    Quiet { c with events := c.events ++ if co.bare c.world then [] else [.emitting] }
      (outcomeOf co.generateBody c).2 := by
  unfold generateBody
  rw [outcomeOf_bind_ok (outcomeOf_get c)]
  cases co.bare c.world with
  | true => exact ⟨rfl, rfl, (List.append_nil _).symm⟩
  | false =>
    rw [if_neg Bool.false_ne_true, if_neg Bool.false_ne_true,
      outcomeOf_bind_ok (outcomeOf_note _ _)]
    exact outcomeOf_bind_leaves (Quiet.act _ _) (fun _ h => h) fun _ d h => h.trans ⟨rfl, rfl, rfl⟩

/-- What happens while a library is processed: the transform is called at its places, passes are
made, and nothing else. -/
structure Proceeds (co : Company W H S P) (d : Course W H P) (es : List (Event P)) : Prop where
  inner : ∀ e ∈ es, e.isInner = true
  hooks : Event.hooks es <+: [.preprocess, .setupPasses, .postprocess]
  builtins : d.roster = none ∨ co.builtins <+: d.registered
  made : (Event.results es).map Prod.fst <+: d.registered
  stops : Stops (Event.results es)

namespace Processed

/-- What was registered in a course whose roster is handled. -/
theorem registered_eq {rs : List (P × Bool)} {roster : Roster P}
    (h : Handled co stage before rs roster c) : c.registered = roster.passes := by
  unfold registered
  rw [h.roster_eq]
  rfl

/-- The events of processing a library. -/
theorem exists_events {d : Course W H P} (h : Processed co c d) (hnone : c.roster = none) :
    d.stage = c.stage ∧ ∃ es, d.events = c.events ++ es ∧ Proceeds co d es := by
  have hinner : ∀ rs : List (P × Bool), ∀ e ∈ Event.ofResults rs, e.isInner = true :=
    fun rs e => Event.isInner_of_mem_ofResults
  cases h with
  | unsorted h =>
    exact ⟨h.stage_eq, [], h.events_eq.trans (List.append_nil _).symm, by simp, List.nil_prefix,
      .inl (h.roster_eq.trans hnone), List.nil_prefix, .nil⟩
  | unprepared h =>
    exact ⟨h.stage_eq, [.hook .preprocess], h.events_eq, by simp [Event.isInner],
      List.prefix_append _ _, .inl (h.roster_eq.trans hnone), List.nil_prefix, .nil⟩
  | handled h =>
    obtain ⟨rs, roster, h⟩ := h
    refine ⟨h.stage_eq, [.hook .preprocess, .hook .setupPasses] ++ Event.ofResults rs,
      h.events_eq.trans (List.append_assoc _ _ _), ?_, ?_, ?_, ?_, ?_⟩
    · simpa [Event.isInner] using hinner rs
    · rw [Event.hooks_append, Event.hooks_ofResults]
      exact List.prefix_append _ _
    · exact .inr (registered_eq h ▸ h.builtins)
    · rw [Event.results_append, Event.results_ofResults, registered_eq h]
      exact h.made
    · rw [Event.results_append, Event.results_ofResults]
      exact h.stops
  | passed h hquiet =>
    obtain ⟨rs, roster, h⟩ := h
    have hregistered : d.registered = roster.passes := by
      unfold registered
      rw [hquiet.roster_eq, h.roster_eq]
      rfl
    refine ⟨hquiet.stage_eq.trans h.stage_eq, [.hook .preprocess, .hook .setupPasses] ++
      Event.ofResults rs ++ [.hook .postprocess], ?_, ?_, ?_, ?_, ?_, ?_⟩
    · rw [hquiet.events_eq, h.events_eq, List.append_assoc, List.append_assoc, List.append_assoc]
    · simpa [Event.isInner, or_imp, forall_and] using hinner rs
    · rw [Event.hooks_append, Event.hooks_append, Event.hooks_ofResults]
      exact List.prefix_rfl
    · exact .inr (hregistered ▸ h.builtins)
    · rw [Event.results_append, Event.results_append, Event.results_ofResults, hregistered]
      exact (List.append_nil rs).symm ▸ h.made
    · rw [Event.results_append, Event.results_append, Event.results_ofResults]
      exact (List.append_nil rs).symm ▸ h.stops

end Processed

end Company

/-! ### Calls -/

namespace Stage

/-- The stage that a call comes to, from another one. -/
def next (s : Stage) (call : Call) : Stage :=
  if s = call.expected then call.target else s

/-- The stage that calls come to. -/
def reached (calls : List Call) : Stage :=
  calls.foldl next idle

/-- The calls that come to a stage. -/
def calls : Stage → List Call
  | idle => []
  | parsed => [.parse]
  | processed => [.parse, .process]
  | generated => [.parse, .process, .generate]

theorem reached_append (calls : List Call) (call : Call) :
    reached (calls ++ [call]) = (reached calls).next call := by
  unfold reached
  rw [List.foldl_append]
  rfl

theorem rank_le_next (s : Stage) (call : Call) : s.rank ≤ (s.next call).rank := by
  cases s <;> cases call <;> decide

theorem calls_prefix (s : Stage) : s.calls <+: [.parse, .process, .generate] := by
  cases s <;> decide

theorem calls_target (call : Call) : call.target.calls = call.expected.calls ++ [call] := by
  cases call <;> rfl

end Stage

namespace Company

variable {co : Company W H S P} {c : Course W H P}

theorem attempt_of_ne {call : Call} (h : c.stage ≠ call.expected) :
    co.attempt call c =
      (.error (.stageOrder call.target.word c.stage.word call.expected.word), c) := by
  unfold attempt
  rw [outcomeOf_enter_of_ne h]

/-- A course in which a call got past the check of the stage. -/
def entered (call : Call) (c : Course W H P) : Course W H P :=
  { c with stage := call.target, events := c.events ++ [.entered call] }

/-- A call that comes next does what it is for. -/
theorem attempt_of_eq {call : Call} (h : c.stage = call.expected) :
    co.attempt call c =
      let r := outcomeOf (co.body call) (entered call c)
      (r.1, { r.2 with events := r.2.events ++ [.ended call r.1.isOk] }) := by
  unfold attempt
  rw [outcomeOf_enter_of_eq h]
  rfl

theorem body_stage (co : Company W H S P) (call : Call) (c : Course W H P) :
    (outcomeOf (co.body call) c).2.stage = c.stage := by
  cases call with
  | parse => exact (outcomeOf_parseBody co c).stage_eq
  | process =>
    cases outcomeOf_processBody co c with
    | unsorted h => exact h.stage_eq
    | unprepared h => exact h.stage_eq
    | handled h => exact h.elim fun _ h => h.elim fun _ h => h.stage_eq
    | passed h hquiet => exact h.elim fun _ h => h.elim fun _ h => hquiet.stage_eq.trans h.stage_eq
  | generate => exact (outcomeOf_generateBody co c).stage_eq

/-- A call comes to the stage it is for, or leaves the stage as it is. -/
theorem attempt_stage (co : Company W H S P) (call : Call) (c : Course W H P) :
    (co.attempt call c).2.stage = c.stage.next call := by
  unfold Stage.next
  by_cases h : c.stage = call.expected
  · rw [attempt_of_eq h, if_pos h]
    exact body_stage co call _
  · rw [attempt_of_ne h, if_neg h]

theorem after_append (co : Company W H S P) (w : W) (calls : List Call) (call : Call) :
    co.after w (calls ++ [call]) = (co.attempt call (co.after w calls)).2 := by
  unfold after
  rw [List.foldl_append]
  rfl

/-- Calls come to the stage that follows from their order alone. -/
theorem after_stage (co : Company W H S P) (w : W) (calls : List Call) :
    (co.after w calls).stage = Stage.reached calls := by
  induction calls using List.reverseRecOn with
  | nil => rfl
  | append_singleton calls call ih =>
    rw [after_append, attempt_stage, ih, Stage.reached_append]

/-- Calls that did not get past the check of the stage leave no trace. -/
theorem after_eq (co : Company W H S P) (w : W) (calls : List Call) :
    co.after w calls = co.after w (Stage.reached calls).calls := by
  induction calls using List.reverseRecOn with
  | nil => rfl
  | append_singleton calls call ih =>
    have hstage := after_stage co w calls
    rw [Stage.reached_append, after_append]
    unfold Stage.next
    by_cases h : Stage.reached calls = call.expected
    · rw [if_pos h, Stage.calls_target, after_append, ih, h]
    · rw [if_neg h, attempt_of_ne (hstage.symm ▸ h)]
      exact ih

/-! ### Events -/

/-- Whether the call that comes to a stage ends well there. -/
def endsWell (co : Company W H S P) (w : W) (call : Call) : Bool :=
  (co.attempt call (co.after w call.expected.calls)).1.isOk

/-- What happens while headers are parsed. -/
theorem parsed_events (co : Company W H S P) (w : W) :
    (co.after w [.parse]).roster = none ∧ (co.after w [.parse]).events =
      [.entered .parse, .hook .setupHeaders, .ended .parse (co.endsWell w .parse)] := by
  have hbody := outcomeOf_parseBody co (entered .parse (start w))
  have hafter : co.after w [.parse] = (co.attempt .parse (start w)).2 := rfl
  have hwell : co.endsWell w .parse = (co.attempt .parse (start w)).1.isOk := rfl
  rw [hafter, hwell, attempt_of_eq rfl]
  exact ⟨hbody.roster_eq, congrArg (· ++ _) hbody.events_eq⟩

/-- What happens while the library is processed. -/
theorem processed_events (co : Company W H S P) (w : W) :
    ∃ es, Proceeds co (co.after w [.parse, .process]) es ∧
      (co.after w [.parse, .process]).events = (co.after w [.parse]).events ++
        .entered .process :: (es ++ [.ended .process (co.endsWell w .process)]) := by
  have hstage : (co.after w [.parse]).stage = .parsed := after_stage co w [.parse]
  have hbody := outcomeOf_processBody co (entered .process (co.after w [.parse]))
  obtain ⟨-, es, hevents, hinner, hhooks, hbuiltins, hmade, hstops⟩ :=
    hbody.exists_events (parsed_events co w).1
  have hafter : co.after w [.parse, .process] = (co.attempt .process (co.after w [.parse])).2 := rfl
  have hwell : co.endsWell w .process = (co.attempt .process (co.after w [.parse])).1.isOk := rfl
  rw [hwell, hafter, attempt_of_eq hstage]
  refine ⟨es, ⟨hinner, hhooks, hbuiltins, hmade, hstops⟩, (congrArg (· ++ _) hevents).trans ?_⟩
  show ((co.after w [.parse]).events ++ [.entered .process]) ++ es ++ _ = _
  rw [List.append_assoc, List.append_assoc]
  rfl

/-- What happens while output is generated. -/
theorem generated_events (co : Company W H S P) (w : W) :
    let c := co.after w [.parse, .process]
    let d := co.after w [.parse, .process, .generate]
    d.roster = c.roster ∧ d.events = c.events ++ .entered .generate ::
      ((if co.bare c.world then [] else [.emitting]) ++
        [.ended .generate (co.endsWell w .generate)]) := by
  have hstage : (co.after w [.parse, .process]).stage = .processed := after_stage co w _
  have hbody := outcomeOf_generateBody co (entered .generate (co.after w [.parse, .process]))
  have hafter : co.after w [.parse, .process, .generate] =
      (co.attempt .generate (co.after w [.parse, .process])).2 := rfl
  have hwell : co.endsWell w .generate =
      (co.attempt .generate (co.after w [.parse, .process])).1.isOk := rfl
  dsimp only
  rw [hwell, hafter, attempt_of_eq hstage]
  refine ⟨hbody.roster_eq, (congrArg (· ++ _) hbody.events_eq).trans ?_⟩
  show ((co.after w [.parse, .process]).events ++ [.entered .generate]) ++ _ ++ _ = _
  rw [List.append_assoc, List.append_assoc]
  rfl

/-! ### The protocol -/

/-- The protocol, as far as what has happened goes. -/
structure Lawful (co : Company W H S P) (s : Stage) (c : Course W H P) : Prop where
  calls : Event.calls c.events = s.calls
  hooks : Event.hooks c.events <+: [.setupHeaders, .preprocess, .setupPasses, .postprocess]
  builtins : c.roster = none ∨ co.builtins <+: c.registered
  made : (Event.results c.events).map Prod.fst <+: c.registered
  stops : Stops (Event.results c.events)

theorem lawful_parsed (co : Company W H S P) (w : W) :
    Lawful co .parsed (co.after w [.parse]) := by
  obtain ⟨hroster, hevents⟩ := parsed_events co w
  have hresults : Event.results (co.after w [.parse]).events = [] := by
    rw [hevents]
    rfl
  refine ⟨?_, ?_, .inl hroster, ?_, ?_⟩
  · rw [hevents]
    rfl
  · rw [hevents]
    exact List.prefix_append [_] _
  · rw [hresults]
    exact List.nil_prefix
  · rw [hresults]
    exact .nil

theorem lawful_processed (co : Company W H S P) (w : W) :
    Lawful co .processed (co.after w [.parse, .process]) := by
  have hparsed := (parsed_events co w).2
  obtain ⟨es, hes, hevents⟩ := processed_events co w
  have hcalls := Event.calls_of_isInner hes.inner
  rw [hparsed] at hevents
  have hresults : Event.results (co.after w [.parse, .process]).events = Event.results es := by
    rw [hevents, Event.results_append]
    show Event.results (es ++ _) = _
    rw [Event.results_append]
    exact List.append_nil _
  refine ⟨?_, ?_, hes.builtins, hresults ▸ hes.made, hresults ▸ hes.stops⟩
  · rw [hevents, Event.calls_append]
    show [.parse] ++ .process :: Event.calls (es ++ _) = _
    rw [Event.calls_append, hcalls]
    rfl
  · rw [hevents, Event.hooks_append]
    show .setupHeaders :: Event.hooks (es ++ _) <+: _
    rw [Event.hooks_append]
    refine List.cons_prefix_cons.2 ⟨rfl, ?_⟩
    show Event.hooks es ++ [] <+: _
    rw [List.append_nil]
    exact hes.hooks

theorem lawful (co : Company W H S P) (w : W) (s : Stage) : Lawful co s (co.after w s.calls) := by
  cases s with
  | idle => exact ⟨rfl, List.nil_prefix, .inl rfl, List.nil_prefix, .nil⟩
  | parsed => exact lawful_parsed co w
  | processed => exact lawful_processed co w
  | generated =>
    obtain ⟨hcalls, hhooks, hbuiltins, hmade, hstops⟩ := lawful_processed co w
    obtain ⟨hroster, hevents⟩ := generated_events co w
    have hregistered : (co.after w [.parse, .process, .generate]).registered =
        (co.after w [.parse, .process]).registered := by
      unfold registered
      rw [hroster]
    have hresults : Event.results (co.after w [.parse, .process, .generate]).events =
        Event.results (co.after w [.parse, .process]).events := by
      rw [hevents, Event.results_append]
      cases co.bare (co.after w [.parse, .process]).world <;> exact List.append_nil _
    have hhooked : Event.hooks (co.after w [.parse, .process, .generate]).events =
        Event.hooks (co.after w [.parse, .process]).events := by
      rw [hevents, Event.hooks_append]
      cases co.bare (co.after w [.parse, .process]).world <;> exact List.append_nil _
    dsimp only [Stage.calls]
    refine ⟨?_, ?_, ?_, ?_, ?_⟩
    · rw [hevents, Event.calls_append, hcalls]
      cases co.bare (co.after w [.parse, .process]).world <;> rfl
    · rw [hhooked]
      exact hhooks
    · rw [hroster, hregistered]
      exact hbuiltins
    · rw [hresults, hregistered]
      exact hmade
    · rw [hresults]
      exact hstops

/-- Every course keeps to the protocol. -/
theorem after_orderly (co : Company W H S P) (w : W) (calls : List Call) :
    (co.after w calls).Orderly co := by
  rw [after_eq]
  generalize Stage.reached calls = s
  obtain ⟨hcalls, hhooks, hbuiltins, hmade, hstops⟩ := lawful co w s
  have hstage : (co.after w s.calls).stage = s := by
    rw [after_stage]
    cases s <;> rfl
  refine ⟨?_, hhooks, hbuiltins, hmade, hstops, ?_, ?_, ?_⟩
  · rw [hcalls]
    exact s.calls_prefix
  · intro call hnext
    rw [← after_append, hcalls, hstage.symm.trans hnext, ← Stage.calls_target]
    exact (lawful co w call.target).calls
  · intro call hnext
    exact ⟨_, attempt_of_ne hnext, rfl, rfl⟩
  · intro call
    rw [attempt_stage]
    exact Stage.rank_le_next _ call

end Company

end Bindery
