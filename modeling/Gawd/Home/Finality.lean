import Gawd.Home.History

/-!
Finality along a ledger: a terminal Job never changes again, and a cancelled one is never granted another
attempt.
-/

namespace Gawd.Home

open Gawd.Logic Gawd.Wire Gawd.Journal

/-- The next state of a Job is an allowed transition, or repeats a terminal state. -/
def StateStep (before after : JobState) : Prop :=
  transitionAllowed before after = true ∨ (before.isTerminal = true ∧ after = before)

theorem StateStep.terminal {before : JobState} (step : StateStep before after) (ended : before.isTerminal = true) :
    after = before := by
  rcases step with allowed | ⟨_, same⟩
  · simp [transitionAllowed, ended] at allowed
  · exact same

/-- The states a Job went through. -/
def JobRecord.states (record : JobRecord) : List JobState :=
  record.events.map fun event => event.payload.stateAfter

/-- What a later record of a Job keeps of an earlier one. -/
structure Extends (before after : JobRecord) : Prop where
  final : before.snapshot.state.isTerminal = true →
    after.snapshot.state = before.snapshot.state ∧ after.snapshot.result = before.snapshot.result ∧
      after.snapshot.error = before.snapshot.error ∧
      after.snapshot.currentAttempt = before.snapshot.currentAttempt
  events : ∃ later, after.events = before.events ++ later ∧
    (before.snapshot.state.isTerminal = true →
      ∀ event ∈ later, isLateReceipt event.payload.kind = true ∧
        event.payload.stateAfter = before.snapshot.state)

theorem Extends.refl (record : JobRecord) : Extends record record :=
  ⟨fun _ => ⟨rfl, rfl, rfl, rfl⟩, [], by simp⟩

theorem Extends.trans (one : Extends first second) (two : Extends second third) : Extends first third := by
  obtain ⟨later, appended, late⟩ := one.events
  obtain ⟨later', appended', late'⟩ := two.events
  refine ⟨fun ended => ?_, later ++ later', by rw [appended', appended, List.append_assoc], fun ended => ?_⟩
  · obtain ⟨state, result, error, current⟩ := one.final ended
    obtain ⟨state', result', error', current'⟩ := two.final (by rw [state]; exact ended)
    exact ⟨state'.trans state, result'.trans result, error'.trans error, current'.trans current⟩
  · have state := (one.final ended).1
    intro event member
    rcases List.mem_append.mp member with early | recent
    · exact late ended event early
    · obtain ⟨kind, after⟩ := late' (by rw [state]; exact ended) event recent
      exact ⟨kind, after.trans state⟩

variable {snapshot : JobSnapshot}

/-- An admitted event of a Job: a late fact about the state it leaves alone, or an allowed transition. -/
theorem checkTransition_eq_ok {event : JobEvent} (checked : checkTransition snapshot event = .ok ()) :
    event.sequence = snapshot.lastSequence + 1 ∧
      ((snapshot.state = event.stateAfter ∧ isLateReceipt event.kind = true) ∨
        transitionAllowed snapshot.state event.stateAfter = true) := by
  simp only [checkTransition, bind_eq_ok, reject_eq_ok, not_not] at checked
  obtain ⟨_, sequence, rest⟩ := checked
  refine ⟨sequence, ?_⟩
  have allowed : ¬ ((decide (snapshot.state = event.stateAfter ∧ isLateReceipt event.kind = true) = false) ∧
      transitionAllowed snapshot.state event.stateAfter = false) := by
    split at rest
    · simp only [bind_eq_ok, reject_eq_ok] at rest
      obtain ⟨_, _, fine⟩ := rest
      exact fine
    · simpa only [bind_eq_ok, reject_eq_ok] using rest
  by_cases late : snapshot.state = event.stateAfter ∧ isLateReceipt event.kind = true
  · exact .inl late
  · right
    simpa [late] using allowed

theorem checkTransition_stateStep {event : JobEvent} (checked : checkTransition snapshot event = .ok ()) :
    StateStep snapshot.state event.stateAfter := by
  obtain ⟨_, ⟨same, _⟩ | allowed⟩ := checkTransition_eq_ok checked
  · by_cases ended : snapshot.state.isTerminal = true
    · exact .inr ⟨ended, same.symm⟩
    · left
      simp [transitionAllowed, ended, ← same]
  · exact .inl allowed

/-- Only a late receipt may follow a terminal state, and it changes nothing. -/
theorem advanceSnapshot_late {event : JobEvent} (late : isLateReceipt event.kind = true) :
    (advanceSnapshot snapshot event).result = snapshot.result ∧
      (advanceSnapshot snapshot event).error = snapshot.error ∧
      (advanceSnapshot snapshot event).currentAttempt = snapshot.currentAttempt := by
  cases kind : event.kind <;> simp_all [isLateReceipt, advanceSnapshot, JobEventKind.makesCurrent]

variable {event : SignedRecord JobEvent}

theorem JobStep.extends (step : JobStep event (some before) after) : Extends before after := by
  cases step with
  | advanced _ checked =>
    have late : before.snapshot.state.isTerminal = true →
        before.snapshot.state = event.payload.stateAfter ∧ isLateReceipt event.payload.kind = true := by
      intro ended
      rcases (checkTransition_eq_ok checked).2 with late | allowed
      · exact late
      · simp [transitionAllowed, ended] at allowed
    refine ⟨fun ended => ?_, [event], rfl, fun ended => ?_⟩
    · obtain ⟨result, error, current⟩ := advanceSnapshot_late (late ended).2
      exact ⟨(late ended).1.symm, result, error, current⟩
    · intro other member
      rw [List.mem_singleton] at member
      subst member
      exact ⟨(late ended).2, (late ended).1.symm⟩

/-- Every Job of the earlier state is there later, and the later record extends it. -/
def Settled (before after : HomeState) : Prop :=
  ∀ job record, before.jobs.get? job = some record →
    ∃ next, after.jobs.get? job = some next ∧ Extends record next

theorem Settled.refl (state : HomeState) : Settled state state :=
  fun _ record found => ⟨record, found, .refl record⟩

theorem Settled.trans (first second third : HomeState) (one : Settled first second) (two : Settled second third) :
    Settled first third := by
  intro job record found
  obtain ⟨next, held, extended⟩ := one job record found
  obtain ⟨last, kept, extended'⟩ := two job next held
  exact ⟨last, kept, extended.trans extended'⟩

theorem EventApplied.settled (applied : EventApplied event before after) : Settled before after := by
  intro job record found
  obtain ⟨next, step, lookup⟩ := applied.stepped
  rw [lookup job]
  by_cases hit : job = event.payload.handle.job
  · subst hit
    rw [found] at step
    exact ⟨next, by simp, step.extends⟩
  · exact ⟨record, by simp [hit, found], .refl record⟩

theorem EventsApplied.settled (applied : EventsApplied events before after) : Settled before after := by
  induction applied with
  | nil => exact .refl _
  | cons first _ ih => exact Settled.trans _ _ _ first.settled ih

theorem RecordApplied.jobs [Crypto] (applied : RecordApplied record before after) :
    ∃ settled, settled.jobs = before.jobs ∧ EventsApplied record.events settled after := by
  obtain ⟨granted, settled, first, second, third⟩ := applied.parts
  have early : granted.jobs = before.jobs := Applied.kept HomeState.jobs GrantApplied.jobs first
  have late : settled.jobs = granted.jobs := Applied.kept HomeState.jobs ReceiptApplied.jobs second
  exact ⟨settled, late.trans early, third⟩

/-- A record of one event moves one Job. -/
theorem RecordApplied.single [Crypto] (applied : RecordApplied ⟨grant, receipt, [event]⟩ before after) :
    ∃ next, JobStep event (before.jobs.get? event.payload.handle.job) next ∧
      ∀ other, after.jobs.get? other =
        if other = event.payload.handle.job then some next else before.jobs.get? other := by
  obtain ⟨settled, same, events⟩ := applied.jobs
  cases events with
  | cons first rest =>
    cases rest
    rw [← same]
    exact first.stepped

theorem RecordApplied.settled [Crypto] (applied : RecordApplied record before after) : Settled before after := by
  obtain ⟨settled, same, events⟩ := applied.jobs
  intro job found present
  rw [← same] at present
  exact events.settled job found present

/-- Along any ledger, a Job that ended stays as it ended. -/
theorem Grown.settled [Crypto] (shorter : Grown allowed ledger before)
    (longer : Grown allowed (ledger ++ later) after) : Settled before after :=
  Grown.along Settled.refl Settled.trans (fun _ _ _ _ _ _ _ applied => applied.settled) shorter longer

/-- A Job's record tells its whole course: from queued, by allowed steps, to the state it is in. -/
structure Traced (record : JobRecord) : Prop where
  first : record.states.head? = some .queued
  course : record.states.IsChain StateStep
  last : record.states.getLast? = some record.snapshot.state

theorem JobStep.traced (step : JobStep event before after) (traced : ∀ record ∈ before, Traced record) :
    Traced after := by
  cases step with
  | submitted _ _ queued =>
    refine ⟨?_, ?_, ?_⟩
    all_goals simp [JobRecord.states, JobSnapshot.submitted, queued]
  | @advanced record _ checked =>
    obtain ⟨first, course, last⟩ := traced record rfl
    have states : JobRecord.states ⟨advanceSnapshot record.snapshot event.payload, record.events ++ [event]⟩ =
        record.states ++ [event.payload.stateAfter] := by
      simp [JobRecord.states]
    refine ⟨?_, ?_, ?_⟩
    · rw [states, List.head?_append, first]
      rfl
    · rw [states, List.isChain_append]
      refine ⟨course, List.isChain_singleton _, fun state member next single => ?_⟩
      rw [last, Option.mem_some_iff] at member
      simp only [List.head?_cons, Option.mem_some_iff] at single
      subst member single
      exact checkTransition_stateStep checked
    · rw [states, List.getLast?_append]
      rfl

/-- Every Job of a state satisfies a condition. -/
def EachJob (condition : JobId → JobRecord → Prop) (state : HomeState) : Prop :=
  ∀ job record, state.jobs.get? job = some record → condition job record

/-- A condition on what is known of each Job that each event's step keeps is kept by all of them. -/
theorem EventsApplied.eachSlot (condition : JobId → Option JobRecord → Prop)
    (step : ∀ event ∈ events, ∀ before after, JobStep event before after →
      condition event.payload.handle.job before → condition event.payload.handle.job (some after))
    (applied : EventsApplied events before after) (holds : ∀ job, condition job (before.jobs.get? job)) :
    ∀ job, condition job (after.jobs.get? job) := by
  induction applied with
  | nil => exact holds
  | @cons event _ _ _ _ first _ ih =>
    refine ih (fun event member => step event (List.mem_cons_of_mem _ member)) fun job => ?_
    obtain ⟨next, stepped, lookup⟩ := first.stepped
    rw [lookup job]
    by_cases hit : job = event.payload.handle.job
    · rw [if_pos hit]
      subst hit
      exact step event List.mem_cons_self _ _ stepped (holds _)
    · rw [if_neg hit]
      exact holds job

theorem RecordApplied.eachSlot [Crypto] (condition : JobId → Option JobRecord → Prop)
    (step : ∀ event ∈ record.events, ∀ before after, JobStep event before after →
      condition event.payload.handle.job before → condition event.payload.handle.job (some after))
    (applied : RecordApplied record before after) (holds : ∀ job, condition job (before.jobs.get? job)) :
    ∀ job, condition job (after.jobs.get? job) := by
  obtain ⟨settled, same, events⟩ := applied.jobs
  refine events.eachSlot condition step fun job => ?_
  rw [same]
  exact holds job

theorem RecordApplied.eachJob [Crypto] (step : ∀ event ∈ record.events, ∀ before after, JobStep event before after →
      (∀ record ∈ before, condition event.payload.handle.job record) → condition event.payload.handle.job after)
    (applied : RecordApplied record before after) (holds : EachJob condition before) : EachJob condition after := by
  have slots : ∀ job, ∀ record ∈ after.jobs.get? job, condition job record := by
    refine applied.eachSlot (fun job slot => ∀ record ∈ slot, condition job record)
      (fun event member before after stepped old record same => ?_) holds
    obtain ⟨⟩ := same
    exact step event member before after stepped old
  exact slots

theorem Grown.traced [Crypto] (grown : Grown allowed ledger state) : EachJob (fun _ record => Traced record) state := by
  refine Grown.invariant (fun _ state => EachJob (fun _ record => Traced record) state) ?_ ?_ grown
  · intro job record found
    cases found
  · intro _ _ _ _ traced _ _ applied
    exact applied.eachJob (fun _ _ _ _ step old => step.traced old) traced

end Gawd.Home
