import Gawd.Home.Finality

/-!
Attempt numbering along a ledger: each Job is granted the attempts 1, 2, …, n in this order, once each and
within its delivery bound, and never again once it is cancelled.
-/

namespace Gawd.Home

open Gawd.Logic Gawd.Wire Gawd.Journal

/-- The grants of a ledger in the order in which they became durable. -/
def ledgerGrants (ledger : List HomeLedgerRecord) : List (SignedRecord ExecutionGrant) :=
  ledger.filterMap HomeLedgerRecord.grant

/-- The grants of one Job. -/
def grantsOf (job : JobId) (ledger : List HomeLedgerRecord) : List (SignedRecord ExecutionGrant) :=
  (ledgerGrants ledger).filter fun grant => grant.payload.attempt.job = job

theorem ledgerGrants_append {record : HomeLedgerRecord} :
    ledgerGrants (ledger ++ [record]) = ledgerGrants ledger ++ record.grant.toList := by
  cases present : record.grant <;> simp [ledgerGrants, present]

theorem grantsOf_append {record : HomeLedgerRecord} :
    grantsOf job (ledger ++ [record]) =
      grantsOf job ledger ++ record.grant.toList.filter fun grant => grant.payload.attempt.job = job := by
  rw [grantsOf, ledgerGrants_append, List.filter_append, grantsOf]

/-- A Job is kept under its own identity and within the attempts any Job may have. -/
def WellKept (job : JobId) (record : JobRecord) : Prop :=
  record.snapshot.spec.handle.job = job ∧ record.snapshot.spec.delivery.maxAttempts ≤ maxJobAttempts

theorem advanceSnapshot_spec {snapshot : JobSnapshot} :
    (advanceSnapshot snapshot event).spec.handle = snapshot.spec.handle ∧
      (advanceSnapshot snapshot event).spec.delivery = snapshot.spec.delivery := by
  cases kind : event.kind <;> simp [advanceSnapshot, kind]

variable {allowed : HomeState → HomeLedgerRecord → Prop} {snapshot : JobSnapshot}

theorem EventsApplied.attemptsKept (applied : EventsApplied events before after) : AttemptsKept before after := by
  induction applied with
  | nil => exact .refl _
  | cons first _ ih => exact first.kept.trans ih

section

variable [Crypto]

theorem JobStep.wellKept {event : SignedRecord JobEvent} (step : JobStep event before after)
    (verified : verifyJobEvent event = .ok ()) (kept : ∀ record ∈ before, WellKept event.payload.handle.job record) :
    WellKept event.payload.handle.job after := by
  cases step with
  | @submitted spec kind _ _ =>
    obtain ⟨handle, valid⟩ := JobEvent.submitted_of_valid (verifyJobEvent_valid verified) kind
    exact ⟨congrArg JobHandle.job handle, JobSpec.maxAttempts_le valid⟩
  | @advanced record _ _ =>
    obtain ⟨handle, delivery⟩ := advanceSnapshot_spec
    obtain ⟨keyed, bounded⟩ := kept record rfl
    exact ⟨by rw [handle]; exact keyed, by rw [delivery]; exact bounded⟩

theorem Grown.wellKept (grown : Grown allowed ledger state) : EachJob WellKept state := by
  refine Grown.invariant (fun _ state => EachJob WellKept state) ?_ ?_ grown
  · intro job record found
    cases found
  · intro _ _ _ _ kept _ _ applied
    exact applied.eachJob (fun event member _ _ step old => step.wellKept (applied.verified event member) old) kept

/-- A record of one event advances the Job of its handle. -/
theorem RecordApplied.advanced (applied : RecordApplied ⟨grant, receipt, [event]⟩ before after)
    (kept : EachJob WellKept before) {record : JobRecord} (found : before.jobs.get? job = some record)
    (handle : event.payload.handle = record.snapshot.spec.handle) (other : JobId) :
    after.jobs.get? other = if other = job then
      some ⟨advanceSnapshot record.snapshot event.payload, record.events ++ [event]⟩ else before.jobs.get? other := by
  have keyed : event.payload.handle.job = job := by
    rw [handle]
    exact (kept job record found).1
  obtain ⟨next, step, lookup⟩ := applied.single
  rw [keyed, found] at step
  rw [keyed] at lookup
  cases step with
  | advanced _ _ => exact lookup other

section

variable (kept : EachJob WellKept before) (produced : Produced before record)

include kept produced

/-- Each event of a produced record steps its Job as it was before the record; other Jobs stay. -/
theorem Produced.steps (applied : RecordApplied record before after) :
    (∀ event ∈ record.events, ∃ next, JobStep event (before.jobs.get? event.payload.handle.job) next ∧
      after.jobs.get? event.payload.handle.job = some next) ∧
    ∀ job, (∀ event ∈ record.events, event.payload.handle.job ≠ job) →
      after.jobs.get? job = before.jobs.get? job := by
  have one : ∀ {grant receipt} {event : SignedRecord JobEvent},
      RecordApplied ⟨grant, receipt, [event]⟩ before after →
      (∀ other ∈ [event], ∃ next, JobStep other (before.jobs.get? other.payload.handle.job) next ∧
        after.jobs.get? other.payload.handle.job = some next) ∧
      ∀ job, (∀ other ∈ [event], other.payload.handle.job ≠ job) →
        after.jobs.get? job = before.jobs.get? job := by
    intro grant receipt event applied
    obtain ⟨next, step, lookup⟩ := applied.single
    refine ⟨fun other member => ?_, fun job differ => ?_⟩
    · rw [List.mem_singleton] at member
      subst member
      exact ⟨next, step, by rw [lookup, if_pos rfl]⟩
    · rw [lookup, if_neg (differ event List.mem_cons_self).symm]
  cases produced with
  | submission _ | dispatch _ | observation _ _ _ | continuation _ _ => exact one applied
  | @spawn parent child job found _ held continues kind absent =>
    obtain ⟨settled, same, events⟩ := applied.jobs
    cases events with
    | cons first rest =>
      cases rest with
      | cons second rest =>
        cases rest
        obtain ⟨next, step, lookup⟩ := first.stepped
        obtain ⟨next', step', lookup'⟩ := second.stepped
        rw [same] at step lookup
        have differ : child.payload.handle.job ≠ parent.payload.handle.job := by
          intro equal
          have keyed := (kept job found held).1
          rw [continues.handle, keyed] at equal
          rw [equal, held] at absent
          cases absent
        rw [lookup, if_neg differ] at step'
        refine ⟨fun event member => ?_, fun other apart => ?_⟩
        · rcases List.mem_pair.mp member with rfl | rfl
          · exact ⟨next, step, by rw [lookup', if_neg differ.symm, lookup, if_pos rfl]⟩
          · exact ⟨next', step', by rw [lookup', if_pos rfl]⟩
        · rw [lookup', if_neg (apart child (by simp)).symm, lookup, if_neg (apart parent (by simp)).symm]


/-- What an event of a produced record is to the Job that it finds. -/
inductive JobAdvance (before : HomeState) (record : HomeLedgerRecord) (event : SignedRecord JobEvent) (job : JobRecord) :
    Prop where
  | dispatch {grant : SignedRecord ExecutionGrant} {deployment : SignedRecord DeploymentReceipt} :
      record.grant = some grant → Dispatches before grant event.payload →
      checkDispatch job.snapshot deployment = .ok () → JobAdvance before record event job
  | observation {receipt : SignedRecord ExecutionReceipt} : record.receipt = some receipt →
      event.payload.handle.job = receipt.payload.attempt.job →
      (event.payload.stateAfter, event.payload.cancelRequested, event.payload.kind) =
        receiptOutcome job.snapshot (before.highest receipt.payload.attempt) receipt.payload →
      JobAdvance before record event job
  | continuation : Continues job.snapshot event.payload → JobAdvance before record event job

theorem Produced.jobAdvance (member : event ∈ record.events)
    (found : before.jobs.get? event.payload.handle.job = some job)
    (kind : ∀ spec, event.payload.kind ≠ .submitted spec) : JobAdvance before record event job := by
  have same : ∀ {slot : JobId} {held : JobRecord}, before.jobs.get? slot = some held →
      event.payload.handle = held.snapshot.spec.handle → event.payload.handle.job = slot ∧ held = job := by
    intro slot held present handle
    have keyed : event.payload.handle.job = slot := by
      rw [handle]
      exact (kept slot held present).1
    rw [keyed, present] at found
    exact ⟨keyed, Option.some.inj found⟩
  cases produced with
  | submission submitted =>
    obtain rfl := List.mem_singleton.mp member
    exact absurd submitted (kind _)
  | dispatch dispatches =>
    obtain rfl := List.mem_singleton.mp member
    obtain ⟨held, deployment, present, ready, handle, -⟩ := dispatches.job
    obtain ⟨-, rfl⟩ := same present handle
    exact .dispatch rfl dispatches ready
  | observation present handle outcome =>
    obtain rfl := List.mem_singleton.mp member
    obtain ⟨keyed, rfl⟩ := same present handle
    exact .observation rfl keyed outcome
  | continuation present continues =>
    obtain rfl := List.mem_singleton.mp member
    obtain ⟨-, rfl⟩ := same present continues.handle
    exact .continuation continues
  | spawn present continues submitted _ =>
    rcases List.mem_pair.mp member with rfl | rfl
    · obtain ⟨-, rfl⟩ := same present continues.handle
      exact .continuation continues
    · exact absurd submitted (kind _)

/-- A produced record leaves a Job alone or advances it by one event. -/
theorem Produced.next (applied : RecordApplied record before after) {id : JobId} {job : JobRecord}
    (found : before.jobs.get? id = some job) :
    after.jobs.get? id = some job ∨ ∃ event ∈ record.events, event.payload.handle.job = id ∧
      JobAdvance before record event job ∧
      after.jobs.get? id = some ⟨advanceSnapshot job.snapshot event.payload, job.events ++ [event]⟩ := by
  obtain ⟨steps, others⟩ := produced.steps kept applied
  by_cases touched : ∃ event ∈ record.events, event.payload.handle.job = id
  · obtain ⟨event, member, rfl⟩ := touched
    obtain ⟨next, step, present⟩ := steps event member
    rw [found] at step
    cases step with
    | advanced kind _ => exact .inr ⟨event, member, rfl, produced.jobAdvance kept member found kind, present⟩
  · rw [not_exists] at touched
    rw [others id fun event member same => touched event ⟨member, same⟩]
    exact .inl found

/-- The step rule for what holds of every Job along a ledger. -/
theorem Produced.eachJob {holds : JobId → JobRecord → Prop} (applied : RecordApplied record before after)
    (submitted : ∀ event ∈ record.events, ∀ spec, event.payload.kind = .submitted spec →
      holds event.payload.handle.job ⟨JobSnapshot.submitted spec event.payload, [event]⟩)
    (advanced : ∀ event ∈ record.events, ∀ job, before.jobs.get? event.payload.handle.job = some job →
      JobAdvance before record event job → checkTransition job.snapshot event.payload = .ok () →
      holds event.payload.handle.job job →
      holds event.payload.handle.job ⟨advanceSnapshot job.snapshot event.payload, job.events ++ [event]⟩)
    (held : EachJob holds before) : EachJob holds after := by
  obtain ⟨steps, others⟩ := produced.steps kept applied
  intro id job present
  by_cases touched : ∃ event ∈ record.events, event.payload.handle.job = id
  · obtain ⟨event, member, rfl⟩ := touched
    obtain ⟨next, step, stepped⟩ := steps event member
    obtain rfl := Option.some.inj (present.symm.trans stepped)
    generalize old : before.jobs.get? event.payload.handle.job = slot at step
    cases step with
    | submitted kind _ _ => exact submitted event member _ kind
    | @advanced prior kind checked =>
      exact advanced event member prior old (produced.jobAdvance kept member old kind) checked (held _ prior old)
  · rw [not_exists] at touched
    rw [others id fun event member same => touched event ⟨member, same⟩] at present
    exact held id job present

end

/-- A record without a grant leaves the grants alone. -/
theorem RecordApplied.grants_none (applied : RecordApplied record before after) (absent : record.grant = none) :
    after.grants = before.grants ∧ after.nextGrantSequence = before.nextGrantSequence := by
  obtain ⟨granted, settled, first, second, third⟩ := applied.parts
  rw [absent] at first
  subst first
  have events := third.attemptsKept
  exact ⟨events.grants.trans (Applied.kept HomeState.grants ReceiptApplied.grants second),
    events.nextGrantSequence.trans (Applied.kept HomeState.nextGrantSequence ReceiptApplied.nextGrantSequence second)⟩

/-- A record with a grant keeps it under its attempt. -/
theorem RecordApplied.grants_some (applied : RecordApplied record before after) (present : record.grant = some grant) :
    (∀ existing, before.grants.get? (attemptKey grant.payload.attempt) = some existing →
      canonicalHash existing = canonicalHash grant) ∧
    (∀ key, after.grants.get? key = if key = attemptKey grant.payload.attempt then
      (before.grants.get? key).or (some grant) else before.grants.get? key) ∧
    after.nextGrantSequence = max before.nextGrantSequence (grant.payload.grantSequence + 1) := by
  obtain ⟨granted, settled, first, second, third⟩ := applied.parts
  rw [present] at first
  have events := third.attemptsKept
  refine ⟨first.fresh, fun key => ?_, ?_⟩
  · rw [events.grants, Applied.kept HomeState.grants ReceiptApplied.grants second]
    exact first.grants key
  · rw [events.nextGrantSequence, Applied.kept HomeState.nextGrantSequence ReceiptApplied.nextGrantSequence second]
    exact first.nextGrantSequence

/-- An attempt of the Job that the ledger has granted. -/
def Attempted (ledger : List HomeLedgerRecord) (job : JobId) (attempt : AttemptId) : Prop :=
  attempt.job = job ∧ 0 < attempt.number ∧ attempt.number ≤ (grantsOf job ledger).length

/-- The numbering of a Job: its current attempt is granted, and its grants stay within its bound. -/
structure JobNumbered (ledger : List HomeLedgerRecord) (job : JobId) (record : JobRecord) : Prop where
  fresh : record.snapshot.currentAttempt = none → grantsOf job ledger = []
  current : ∀ attempt ∈ record.snapshot.currentAttempt, Attempted ledger job attempt
  bounded : (grantsOf job ledger).length ≤ record.snapshot.spec.delivery.maxAttempts

/-- The numbering of a ledger and the state that grew from it. -/
structure Numbered (ledger : List HomeLedgerRecord) (state : HomeState) : Prop where
  kept : EachJob WellKept state
  grants : ∀ job number, state.grants.get? (toLex (job, number + 1)) = (grantsOf job ledger)[number]?
  zero : ∀ job, state.grants.get? (toLex (job, 0)) = none
  numbers : ∀ job, (grantsOf job ledger).map (fun grant => grant.payload.attempt.number) =
    List.range' 1 (grantsOf job ledger).length
  jobs : EachJob (JobNumbered ledger) state
  known : ∀ job, state.jobs.get? job = none → grantsOf job ledger = []
  ordered : (ledgerGrants ledger).Pairwise fun earlier later =>
    earlier.payload.grantSequence < later.payload.grantSequence
  fenced : ∀ grant ∈ ledgerGrants ledger, grant.payload.grantSequence < state.nextGrantSequence

section

omit [Crypto]

theorem numbered_initial : Numbered [] .initial where
  kept job record found := by cases found
  grants job number := rfl
  zero job := rfl
  numbers job := rfl
  jobs job record found := by cases found
  known job absent := rfl
  ordered := .nil
  fenced grant member := by cases member

/-- A kept grant belongs to an attempt of the ledger. -/
theorem Numbered.attempted (numbered : Numbered ledger state)
    (found : state.grants.get? (attemptKey attempt) = some grant) : Attempted ledger attempt.job attempt := by
  cases number : attempt.number with
  | zero =>
    rw [attemptKey, number, numbered.zero] at found
    cases found
  | succ previous =>
    rw [attemptKey, number, numbered.grants] at found
    obtain ⟨within, -⟩ := List.getElem?_eq_some_iff.mp found
    exact ⟨rfl, by omega, by omega⟩

theorem stageEvent_makesCurrent {receipt : ExecutionReceipt}
    (made : attempt ∈ JobEventKind.makesCurrent (stageEvent snapshot receipt).2.2) : attempt = receipt.attempt := by
  unfold stageEvent at made
  cases stage : receipt.stage <;> simp [stage, JobEventKind.makesCurrent] at made
  all_goals exact made.symm

theorem receiptOutcome_current {receipt : ExecutionReceipt}
    (made : attempt ∈ JobEventKind.makesCurrent (receiptOutcome snapshot highest receipt).2.2) :
    attempt = receipt.attempt := by
  unfold receiptOutcome at made
  split at made
  · simp [JobEventKind.makesCurrent] at made
  · exact stageEvent_makesCurrent made

end

/-- Only granted attempts are heard of. -/
theorem RecordApplied.receipt_granted (applied : RecordApplied record before after) (absent : record.grant = none)
    (present : record.receipt = some receipt) :
    ∃ grant, before.grants.get? (attemptKey receipt.payload.attempt) = some grant := by
  obtain ⟨granted, settled, first, second, -⟩ := applied.parts
  rw [absent] at first
  rw [present] at second
  subst first
  obtain ⟨grant, held, -⟩ := second.granted
  exact ⟨grant, held⟩

/-- Whatever a record without a grant makes current was granted before. -/
theorem Produced.attempted (numbered : Numbered ledger before) (produced : Produced before record)
    (applied : RecordApplied record before after) (absent : record.grant = none) :
    ∀ event ∈ record.events, ∀ attempt ∈ JobEventKind.makesCurrent event.payload.kind,
      Attempted ledger event.payload.handle.job attempt := by
  intro event member attempt made
  obtain ⟨next, step, -⟩ := (produced.steps numbered.kept applied).1 event member
  generalize old : before.jobs.get? event.payload.handle.job = slot at step
  cases step with
  | submitted kind _ _ => simp [kind, JobEventKind.makesCurrent] at made
  | @advanced job kind _ =>
    cases produced.jobAdvance numbered.kept member old kind with
    | dispatch present _ _ =>
      rw [absent] at present
      cases present
    | continuation continues => exact (numbered.jobs _ job old).current attempt (continues.current attempt made)
    | observation present keyed outcome =>
      simp only [Prod.ext_iff] at outcome
      rw [outcome.2.2] at made
      obtain ⟨grant, held⟩ := applied.receipt_granted absent present
      rw [receiptOutcome_current made, keyed]
      exact numbered.attempted held

omit [Crypto] in
theorem JobStep.numbered {event : SignedRecord JobEvent} (step : JobStep event before after)
    (made : ∀ attempt ∈ JobEventKind.makesCurrent event.payload.kind, Attempted ledger job attempt)
    (known : before = none → grantsOf job ledger = []) (numbered : ∀ record ∈ before, JobNumbered ledger job record) :
    JobNumbered ledger job after := by
  cases step with
  | submitted _ _ _ =>
    refine ⟨fun _ => known rfl, fun attempt current => (nomatch current), ?_⟩
    simp [known rfl]
  | @advanced record _ _ =>
    have old := numbered record rfl
    refine ⟨fun absent => old.fresh ?_, fun attempt current => ?_, ?_⟩
    · simp only [advanceSnapshot, Option.or_eq_none_iff] at absent
      exact absent.2
    · simp only [advanceSnapshot, Option.mem_def, Option.or_eq_some_iff] at current
      rcases current with fresh | ⟨-, kept⟩
      · exact made attempt fresh
      · exact old.current attempt kept
    · rw [(advanceSnapshot_spec).2]
      exact old.bounded

/-- A record without a grant keeps the numbering. -/
theorem Numbered.step_other (numbered : Numbered ledger before) (produced : Produced before record)
    (applied : RecordApplied record before after) (absent : record.grant = none) :
    Numbered (ledger ++ [record]) after := by
  obtain ⟨grants, next⟩ := applied.grants_none absent
  have all : ledgerGrants (ledger ++ [record]) = ledgerGrants ledger := by
    simp [ledgerGrants_append, absent]
  have own : ∀ job, grantsOf job (ledger ++ [record]) = grantsOf job ledger := by
    simp [grantsOf_append, absent]
  have slots : ∀ job, (after.jobs.get? job = none → grantsOf job ledger = []) ∧
      ∀ found ∈ after.jobs.get? job, JobNumbered ledger job found := by
    refine applied.eachSlot (fun job slot => (slot = none → grantsOf job ledger = []) ∧
        ∀ found ∈ slot, JobNumbered ledger job found)
      (fun event member old next step slot => ⟨fun missing => (nomatch missing), ?_⟩)
      fun job => ⟨numbered.known job, numbered.jobs job⟩
    intro found same
    obtain ⟨⟩ := same
    exact step.numbered (produced.attempted numbered applied absent event member) slot.1 slot.2
  refine ⟨?_, ?_, ?_, ?_, ?_, ?_, by rw [all]; exact numbered.ordered, ?_⟩
  · exact applied.eachJob (fun event member _ _ step old => step.wellKept (applied.verified event member) old)
      numbered.kept
  · intro job number
    rw [grants, own]
    exact numbered.grants job number
  · intro job
    rw [grants]
    exact numbered.zero job
  · intro job
    rw [own]
    exact numbered.numbers job
  · intro job found held
    obtain ⟨fresh, current, bounded⟩ := (slots job).2 found held
    refine ⟨fun missing => by rw [own]; exact fresh missing, fun attempt member => ?_, by rw [own]; exact bounded⟩
    unfold Attempted
    rw [own]
    exact current attempt member
  · intro job missing
    rw [own]
    exact (slots job).1 missing
  · intro grant member
    rw [next]
    rw [all] at member
    exact numbered.fenced grant member

omit [Crypto] in
theorem nextNumber_of_bounded (bounded : nextNumber number ≤ maxJobAttempts) : nextNumber number = number + 1 := by
  unfold nextNumber maxJobAttempts at *
  omega

/-- What dispatching a Job requires of it. -/
theorem checkDispatch_eq_ok (ready : checkDispatch snapshot deployment = .ok ()) :
    snapshot.state.isTerminal = false ∧ snapshot.cancelRequested = false ∧
      (snapshot.state = .queued ∨ snapshot.state = .retryPending) ∧
      JobSnapshot.nextAttemptNumber snapshot ≤ snapshot.spec.delivery.maxAttempts := by
  simp only [checkDispatch, bind_eq_ok, reject_eq_ok, not_or, not_and, not_not, not_lt] at ready
  obtain ⟨_, ⟨running, uncancelled⟩, _, state, _, _, _, _, _, bounded⟩ := ready
  refine ⟨by simpa using running, by simpa using uncancelled, ?_, bounded⟩
  by_cases queued : snapshot.state = .queued
  · exact .inl queued
  · exact .inr (state queued)

/-- The hash of a grant identifies it. -/
def GrantsIdentified : Prop :=
  ∀ left right : SignedRecord ExecutionGrant, canonicalHash left = canonicalHash right → left = right

/-- The next grant of a Job has the next number. -/
theorem Dispatches.next (identified : GrantsIdentified) (numbered : Numbered ledger before)
    (applied : RecordApplied ⟨some grant, receipt, events⟩ before after)
    (dispatches : Dispatches before grant event) :
    grant.payload.attempt.number = (grantsOf grant.payload.attempt.job ledger).length + 1 := by
  obtain ⟨record, deployment, found, ready, -, number⟩ := dispatches.job
  have own := numbered.jobs _ record found
  obtain ⟨-, -, -, bound⟩ := checkDispatch_eq_ok ready
  cases current : record.snapshot.currentAttempt with
  | none =>
    rw [own.fresh current, number]
    simp [JobSnapshot.nextAttemptNumber, current]
  | some attempt =>
    obtain ⟨-, -, granted⟩ := own.current attempt current
    have next : grant.payload.attempt.number = attempt.number + 1 := by
      have small := (numbered.kept _ record found).2
      simp only [JobSnapshot.nextAttemptNumber, current, Option.map_some, Option.getD_some] at number bound
      rw [number]
      exact nextNumber_of_bounded (le_trans bound small)
    -- a number that was granted before would name the same grant, but its sequence is older
    by_contra differ
    have within : attempt.number < (grantsOf grant.payload.attempt.job ledger).length := by omega
    have held := numbered.grants grant.payload.attempt.job attempt.number
    rw [List.getElem?_eq_getElem within] at held
    have key : attemptKey grant.payload.attempt = toLex (grant.payload.attempt.job, attempt.number + 1) := by
      rw [attemptKey, next]
    have same := identified _ _ ((applied.grants_some rfl).1 _ (by rw [key]; exact held))
    have older := numbered.fenced _ (List.mem_filter.mp (List.getElem_mem within)).1
    rw [same, dispatches.sequence] at older
    exact lt_irrefl _ older

omit [Crypto] in
theorem grantsOf_dispatch (job : JobId) (ledger : List HomeLedgerRecord) (grant : SignedRecord ExecutionGrant)
    (events : List (SignedRecord JobEvent)) : grantsOf job (ledger ++ [⟨some grant, none, events⟩]) =
      if job = grant.payload.attempt.job then grantsOf job ledger ++ [grant] else grantsOf job ledger := by
  rw [grantsOf_append]
  by_cases hit : job = grant.payload.attempt.job
  · simp [hit]
  · simp [hit, Ne.symm hit]

omit [Crypto] in
/-- The granted Job has the new attempt as its current one. -/
theorem advanceSnapshot_dispatched (snapshot) {event : JobEvent} (kind : event.kind = .dispatchGranted grantHash attempt) :
    (advanceSnapshot snapshot event).currentAttempt = some attempt := by
  simp [advanceSnapshot, kind, JobEventKind.makesCurrent]

/-- A record with a grant continues the numbering by one. -/
theorem Numbered.step_dispatch (identified : GrantsIdentified) (numbered : Numbered ledger before)
    {event : SignedRecord JobEvent} (dispatches : Dispatches before grant event.payload)
    (applied : RecordApplied ⟨some grant, none, [event]⟩ before after) :
    Numbered (ledger ++ [⟨some grant, none, [event]⟩]) after := by
  have next := dispatches.next identified numbered applied
  obtain ⟨record, deployment, found, ready, handle, number⟩ := dispatches.job
  obtain ⟨-, grants, sequence⟩ := applied.grants_some rfl
  obtain ⟨-, -, -, bound⟩ := checkDispatch_eq_ok ready
  have all : ledgerGrants (ledger ++ [⟨some grant, none, [event]⟩]) = ledgerGrants ledger ++ [grant] := by
    simp [ledgerGrants_append]
  have lookup := applied.advanced numbered.kept found handle
  have current := advanceSnapshot_dispatched record.snapshot dispatches.kind
  refine ⟨?_, fun job index => ?_, fun job => ?_, fun job => ?_, fun job other held => ?_, fun job missing => ?_, ?_, ?_⟩
  · exact applied.eachJob (fun event member _ _ step old => step.wellKept (applied.verified event member) old)
      numbered.kept
  · rw [grants, grantsOf_dispatch, numbered.grants]
    simp only [attemptKey, EmbeddingLike.apply_eq_iff_eq, Prod.mk.injEq, next]
    by_cases hit : job = grant.payload.attempt.job
    · subst hit
      simp only [true_and, if_true, List.getElem?_append, Nat.add_right_cancel_iff]
      split <;> split <;> simp_all
      omega
    · simp [hit]
  · rw [grants, numbered.zero]
    simp [attemptKey, next]
  · rw [grantsOf_dispatch]
    split
    · rename_i hit
      subst hit
      rw [List.map_append, numbered.numbers, List.length_append, List.length_singleton, List.range'_concat]
      simp [next, Nat.add_comm]
    · exact numbered.numbers job
  · rw [lookup] at held
    by_cases hit : job = grant.payload.attempt.job
    · subst hit
      rw [if_pos rfl] at held
      obtain ⟨⟩ := held
      have length : (grantsOf grant.payload.attempt.job (ledger ++ [⟨some grant, none, [event]⟩])).length =
          grant.payload.attempt.number := by
        rw [grantsOf_dispatch, if_pos rfl, List.length_append, List.length_singleton, next]
      refine ⟨fun absent => by simp [current] at absent, fun attempt same => ?_, ?_⟩
      · rw [current, Option.mem_some_iff] at same
        subst same
        exact ⟨rfl, by omega, length.ge⟩
      · rw [length, advanceSnapshot_spec.2, number]
        exact bound
    · rw [if_neg hit] at held
      have same := grantsOf_dispatch job ledger grant [event]
      rw [if_neg hit] at same
      obtain ⟨fresh, attempted, bounded⟩ := numbered.jobs job other held
      unfold Attempted at attempted
      rw [← same] at fresh attempted bounded
      exact ⟨fresh, attempted, bounded⟩
  · rw [lookup] at missing
    by_cases hit : job = grant.payload.attempt.job
    · simp [hit] at missing
    · rw [if_neg hit] at missing
      rw [grantsOf_dispatch, if_neg hit]
      exact numbered.known job missing
  · rw [all, List.pairwise_append]
    refine ⟨numbered.ordered, List.pairwise_singleton _ _, fun earlier member later single => ?_⟩
    rw [List.mem_singleton] at single
    subst single
    rw [dispatches.sequence]
    exact numbered.fenced earlier member
  · intro other member
    rw [all] at member
    rw [sequence]
    rcases List.mem_append.mp member with old | new
    · exact lt_of_lt_of_le (numbered.fenced other old) (le_max_left _ _)
    · rw [List.mem_singleton] at new
      subst new
      exact lt_of_lt_of_le (Nat.lt_succ_self _) (le_max_right _ _)

/-- Every grown ledger is numbered. -/
theorem Grown.numbered (identified : GrantsIdentified) (grown : Grown allowed ledger state) :
    Numbered ledger state := by
  refine Grown.invariant Numbered numbered_initial (fun ledger record before after numbered produced _ applied => ?_)
    grown
  cases present : record.grant with
  | none => exact numbered.step_other produced applied present
  | some grant =>
    cases produced with
    | dispatch dispatches => exact numbered.step_dispatch identified dispatches applied
    | submission _ | observation _ _ _ | continuation _ _ | spawn _ _ _ _ => cases present

end

end Gawd.Home
