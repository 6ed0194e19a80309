import Gawd.Home.Delivery

/-!
What placement and retry policy are asked. A question is not kept: the Home builds it again from the Job, once
when recovery emits it and once when a decision is checked against it.
-/

namespace Gawd.Home

open Gawd.Logic Gawd.Wire

variable {α : Type} {failure : AttemptId × ValueRef × Bool}

theorem receiptOutcome_pending {snapshot : JobSnapshot}
    (pending : (receiptOutcome snapshot highest receipt).1 = .retryPending)
    (told : retryFailure (receiptOutcome snapshot highest receipt).2.2 = none) : snapshot.state = .retryPending := by
  unfold receiptOutcome stageEvent at pending told
  split at pending
  · exact pending
  · cases stage : receipt.stage <;> simp_all [retryFailure]

theorem retryFailure_current (failed : retryFailure kind = some failure) :
    JobEventKind.makesCurrent kind = some failure.1 := by
  cases kind <;> simp_all [retryFailure, JobEventKind.makesCurrent]
  all_goals rw [← failed]

section

variable [Crypto] {host : Host} {home : FunctionHome} {record : JobRecord} {handle : JobHandle}

/-- What placement is asked about a Job. -/
def FunctionHome.placementOf (home : FunctionHome) (record : JobRecord) (job : JobHandle) : PlacementQuestion :=
  ⟨job, home.config.epoch, home.config.authority, record.snapshot.spec.function.function,
    [record.snapshot.spec.deployment], record.snapshot.spec.evidence⟩

/-- What a valid record says was valid before it was signed. -/
theorem signed_valid [Validate α] {question : α} (made : SignedRecord.sign schema question signer = .ok signed)
    (valid : validate signed = .ok ()) : validate question = .ok () := by
  obtain ⟨-, -, payload⟩ := SignedRecord.sign_eq_ok made
  simp only [validate, SignedRecord.validateWith, bind_eq_ok] at valid
  rw [← payload]
  grind

/-- About a queued Job one question is asked, about any other none. -/
theorem placementQuestion_eq_ok
    (writable : ensureAuthoritativeState home = .ok () home) (own : handle.home = home.config.home)
    (found : home.state.jobs.get? handle.job = some record) :
    placementQuestion host handle home = .ok asked home ↔
      match asked with
      | none => record.snapshot.state ≠ .queued
      | some question => record.snapshot.state = .queued ∧
        SignedRecord.sign .policy (home.placementOf record handle) host.signer = .ok question ∧
        verifyPlacementQuestion question = .ok () := by
  have present : findJob home.state handle.job = .ok record := orError_eq_ok.mpr found
  rw [run_eq_ok, placementQuestion, wp_ran writable, wp_bind, wp_get, wp_passed (reject_of_not (not_not.mpr own)),
    wp_passed present]
  by_cases queued : record.snapshot.state = .queued
  · rw [if_neg (not_not.mpr queued), ← run_eq_ok]
    simp only [run_bind_eq_ok, run_lift_eq_ok, run_pure, ofInvalid, ofSigning, mapError_eq_ok]
    constructor
    · rintro ⟨_, _, ⟨valid, rfl⟩, signed, _, ⟨made, rfl⟩, _, _, ⟨verified, rfl⟩, ⟨⟩⟩
      exact ⟨queued, made, verified⟩
    · cases asked with
      | none => exact fun other => absurd queued other
      | some question =>
        rintro ⟨-, made, verified⟩
        have checked := verified
        rw [verifyPlacementQuestion, bind_eq_ok] at checked
        obtain ⟨_, valid, -⟩ := checked
        exact ⟨_, _, ⟨signed_valid made valid, rfl⟩, _, _, ⟨made, rfl⟩, _, _, ⟨verified, rfl⟩, rfl⟩
  · rw [if_pos queued, wp_pure]
    cases asked <;> simp [queued]

/-- A decision that was applied is applied again to a Home that would still ask the same about the Job, and that
holds the grant of its current attempt. It recovers that grant just when the Job is still queued: about a Job in
flight nothing is asked any more, and the decision is refused. -/
theorem applyPlacementDecision_again {decision : SignedRecord PlacementDecision} {first issued : FunctionHome}
    {minted grant : SignedRecord ExecutionGrant} {before : JobRecord} {attempt : AttemptId}
    (applied : applyPlacementDecision host decision first = .ok minted issued)
    (found : first.state.jobs.get? decision.payload.job.job = some before)
    (healthy : home.authoritative = .ok ()) (own : home.config.home = first.config.home)
    (now : home.state.jobs.get? decision.payload.job.job = some record)
    (same : home.placementOf record decision.payload.job = first.placementOf before decision.payload.job)
    (alive : ¬ (record.snapshot.state.isTerminal ∨ record.snapshot.cancelRequested))
    (current : record.snapshot.currentAttempt = some attempt)
    (durable : home.state.grants.get? (attemptKey attempt) = some grant) :
    (applyPlacementDecision host decision home = .ok grant home ↔ record.snapshot.state = .queued) ∧
      (inFlight record.snapshot.state = true → applyPlacementDecision host decision home =
        .error (.state "job has no outstanding placement question") home) := by
  rw [applyPlacementDecision] at applied
  simp only [run_bind_eq_ok, run_lift_eq_ok] at applied
  obtain ⟨_, _, entered, _, _, ⟨valid, rfl⟩, _, _, ⟨genuine, rfl⟩, asked, _, ask, question, _, ⟨posed, rfl⟩,
    _, _, ⟨binds, rfl⟩, _, _, ⟨trusted, rfl⟩, _, _, ⟨⟩, _, _, ⟨mine, rfl⟩, _, _, ⟨present, rfl⟩, _, _, ⟨-, rfl⟩,
    _, _, ⟨selected, rfl⟩, -⟩ := applied
  obtain rfl := wp_ok (ensureAuthoritativeState_reads first) entered
  obtain rfl := wp_ok (placementQuestion_reads first) ask
  obtain rfl := orError_eq_ok.mp posed
  obtain rfl := Option.some.inj (found.symm.trans (findJob_eq_ok present))
  rw [reject_eq_ok, not_not] at mine selected
  have writable := ensureAuthoritativeState_runs healthy
  have own := mine.trans own.symm
  have refused : record.snapshot.state ≠ .queued → applyPlacementDecision host decision home =
      .error (.state "job has no outstanding placement question") home := by
    intro other
    have silent : placementQuestion host decision.payload.job home = .ok none home :=
      (placementQuestion_eq_ok writable own now).mpr other
    rw [run_eq_error, applyPlacementDecision, wp_ran writable, wp_passed valid, wp_passed genuine, wp_ran silent,
      wp_bind, wp_lift]
    simp [orError]
  refine ⟨⟨fun run => ?_, fun queued => ?_⟩, fun flying => refused fun queued => by simp [queued, inFlight] at flying⟩
  · by_contra other
    rw [refused other] at run
    cases run
  · -- The question is built from the Job once more, and it is the one the decision binds.
    have again : placementQuestion host decision.payload.job home = .ok (some question) home := by
      obtain ⟨-, made, verified⟩ := (placementQuestion_eq_ok entered mine found).mp ask
      exact (placementQuestion_eq_ok writable own now).mpr ⟨queued, by rw [same, made], verified⟩
    have held : findJob home.state decision.payload.job.job = .ok record := orError_eq_ok.mpr now
    have pinned : record.snapshot.spec.deployment = before.snapshot.spec.deployment := by
      simpa [FunctionHome.placementOf] using congrArg PlacementQuestion.candidates same
    rw [run_eq_ok, applyPlacementDecision, wp_ran writable, wp_passed valid, wp_passed genuine, wp_ran again,
      wp_passed posed, wp_passed binds, wp_passed trusted, wp_bind, wp_get,
      wp_passed (reject_of_not (not_not.mpr own)), wp_passed held, wp_passed (reject_of_not alive),
      wp_passed (reject_of_not (not_not.mpr (pinned ▸ selected)))]
    simp [current, durable]

/-- What retry policy is asked about a failure of a Job. -/
def FunctionHome.retryOf (home : FunctionHome) (record : JobRecord) (failure : AttemptId × ValueRef × Bool) :
    RetryQuestion :=
  ⟨{ record.snapshot with homeEpoch := home.config.epoch, authority := home.config.authority }, failure.1, failure.2.1,
    failure.2.2, [record.snapshot.spec.deployment], record.snapshot.spec.evidence⟩

/-- The newest failure of a Job. -/
def newestFailure (events : List (SignedRecord JobEvent)) : Option (AttemptId × ValueRef × Bool) :=
  (events.reverse.filterMap fun event => retryFailure event.payload.kind).head?

/-- A retry question is about the newest failure where that is a failure of the current attempt. -/
theorem retryQuestion_eq_ok
    (writable : ensureAuthoritativeState home = .ok () home)
    (own : record.snapshot.spec.handle.home = home.config.home)
    (found : home.state.jobs.get? record.snapshot.spec.handle.job = some record)
    (pending : record.snapshot.state = .retryPending) (current : record.snapshot.currentAttempt = some failure.1)
    (newest : newestFailure record.events = some failure) :
    retryQuestion host record.snapshot.spec.handle failure.1 home = .ok question home ↔
      SignedRecord.sign .policy (home.retryOf record failure) host.signer = .ok question ∧
        verifyRetryQuestion question = .ok () := by
  have last : lastFailure record.events failure.1 = some failure := by
    obtain ⟨rest, split⟩ := List.head?_eq_some_iff.mp newest
    rw [lastFailure, split]
    simp
  have present : findJob home.state record.snapshot.spec.handle.job = .ok record := orError_eq_ok.mpr found
  simp only [retryQuestion, run_bind_eq_ok, run_lift_eq_ok, run_pure, ofInvalid, ofSigning, mapError_eq_ok,
    reject_eq_ok, orError_eq_ok]
  constructor
  · rintro ⟨_, _, -, _, _, ⟨⟩, _, _, ⟨-, rfl⟩, _, _, ⟨held, rfl⟩, _, _, ⟨-, rfl⟩, _, _, ⟨posed, rfl⟩,
      _, _, ⟨-, rfl⟩, _, _, ⟨made, rfl⟩, _, _, ⟨verified, rfl⟩, ⟨⟩⟩
    obtain rfl := Except.ok.inj (present.symm.trans held)
    obtain rfl := Option.some.inj (last.symm.trans posed)
    exact ⟨made, verified⟩
  · rintro ⟨made, verified⟩
    have checked := verified
    rw [verifyRetryQuestion, bind_eq_ok] at checked
    obtain ⟨_, valid, -⟩ := checked
    have valid := signed_valid made valid
    have fits := valid
    unfold validate instValidateRetryQuestion at fits
    simp only [bind_eq_ok, reject_eq_ok, not_or, not_not] at fits
    obtain ⟨_, -, _, -, _, -, _, ⟨abode, job, -⟩, -⟩ := fits
    exact ⟨_, _, writable, _, _, rfl, (), _, ⟨by simpa only [not_or, not_not] using ⟨own, abode, job⟩, rfl⟩, _, _,
      ⟨present, rfl⟩, (), _, ⟨by simp [pending, current], rfl⟩, _, _, ⟨last, rfl⟩, _, _, ⟨valid, rfl⟩, _, _,
      ⟨made, rfl⟩, _, _, ⟨verified, rfl⟩, rfl⟩

/-- The newest failure of a Job that awaits a retry is one of its current attempt. -/
def Failed (record : JobRecord) : Prop :=
  record.snapshot.state = .retryPending → ∃ failure, newestFailure record.events = some failure ∧
    record.snapshot.currentAttempt = some failure.1

/-- A receipt after which a Job still awaits a retry, and that tells no failure, makes no other attempt current. -/
def FailureStands (state : HomeState) (record : HomeLedgerRecord) : Prop :=
  ∀ receipt ∈ record.receipt, ∀ job ∈ state.jobs.get? receipt.payload.attempt.job,
    let outcome := receiptOutcome job.snapshot (state.highest receipt.payload.attempt) receipt.payload
    outcome.1 = .retryPending → retryFailure outcome.2.2 = none →
      ∀ attempt ∈ JobEventKind.makesCurrent outcome.2.2, job.snapshot.currentAttempt = some attempt

omit [Crypto] in
theorem Failed.advance {job : JobRecord} {event : SignedRecord JobEvent} (failed : Failed job)
    (kept : event.payload.stateAfter = .retryPending → retryFailure event.payload.kind = none →
      job.snapshot.state = .retryPending ∧
      ∀ attempt ∈ JobEventKind.makesCurrent event.payload.kind, job.snapshot.currentAttempt = some attempt) :
    Failed ⟨advanceSnapshot job.snapshot event.payload, job.events ++ [event]⟩ := by
  intro pending
  cases told : retryFailure event.payload.kind with
  | some failure => exact ⟨failure, by simp [newestFailure, told], by simp [advanceSnapshot, retryFailure_current told]⟩
  | none =>
    obtain ⟨waiting, same⟩ := kept pending told
    obtain ⟨failure, newest, current⟩ := failed waiting
    refine ⟨failure, by simpa [newestFailure, told] using newest, ?_⟩
    cases made : JobEventKind.makesCurrent event.payload.kind with
    | none => simpa [advanceSnapshot, made] using current
    | some attempt => simpa [advanceSnapshot, made, current] using (same attempt made).symm

theorem Grown.failed (grown : Grown FailureStands ledger state) : EachJob (fun _ => Failed) state := by
  induction grown with
  | nil =>
    intro job record found
    cases found
  | @snoc _ _ record before after earlier produced stands run ih =>
    refine produced.eachJob earlier.wellKept (recordApplied_of_run run) ?_ ?_ ih
    · intro event _ spec _ pending
      cases pending
    · intro event member job found advances checked old
      refine old.advance fun pending told => ?_
      cases advances with
      | dispatch _ dispatches _ =>
        rw [dispatches.state] at pending
        cases pending
      | continuation continues =>
        refine ⟨?_, continues.current⟩
        rcases (checkTransition_eq_ok checked).2 with ⟨same, -⟩ | allowed
        · exact same.trans pending
        · -- Only an attempt in flight brings a Job here, and what continues the Job leaves that to receipts.
          by_contra other
          have flying : inFlight job.snapshot.state = true := by
            rw [pending] at allowed
            cases state : job.snapshot.state <;> simp_all [transitionAllowed, inFlight, JobState.isTerminal]
          exact other ((continues.steady (.inl flying)).symm.trans pending)
      | @observation receipt present keyed outcome =>
        simp only [Prod.ext_iff] at outcome
        rw [outcome.1] at pending
        rw [outcome.2.2] at told ⊢
        rw [keyed] at found
        exact ⟨receiptOutcome_pending pending told, stands receipt present job found pending told⟩

/-- What recovery emits for a question that it signs and verifies. -/
theorem recovered_eq_some [Validate α] {question : α} {verify : SignedRecord α → Except ContractError Unit}
    (pose : SignedRecord α → HomeDispatch) (injective : Function.Injective pose) :
    (do
      let signed ← (SignedRecord.sign .policy question host.signer).toOption
      let _ ← (verify signed).toOption
      return pose signed : Option HomeDispatch) = some (pose signed) ↔
      SignedRecord.sign .policy question host.signer = .ok signed ∧ verify signed = .ok () := by
  have read : ∀ {ε β : Type} {result : Except ε β} {value : β}, result.toOption = some value ↔ result = .ok value := by
    intro _ _ result _
    cases result <;> simp [Except.toOption]
  simp only [Option.bind_eq_bind, Option.bind_eq_some_iff, read, Option.pure_def, Option.some.injEq, injective.eq_iff]
  constructor
  · rintro ⟨_, made, _, verified, rfl⟩
    exact ⟨made, verified⟩
  · rintro ⟨made, verified⟩
    exact ⟨signed, made, (), verified, rfl⟩

omit [Crypto] in
theorem authoritative_and_iff {rest : Unit → Action α} {value : α} {emitted : Prop}
    (same : ensureAuthoritativeState home = .ok () home →
      (emitted ↔ (ensureAuthoritativeState >>= rest) home = .ok value after)) :
    home.authoritative = .ok () ∧ emitted ↔ (ensureAuthoritativeState >>= rest) home = .ok value after := by
  constructor
  · rintro ⟨healthy, told⟩
    exact (same (ensureAuthoritativeState_runs healthy)).mp told
  · intro ran
    have entered := ran
    simp only [ensureAuthoritativeState, run_bind_eq_ok, run_lift_eq_ok] at entered
    obtain ⟨_, _, ⟨_, _, ⟨⟩, healthy, -⟩, -⟩ := entered
    exact ⟨healthy, (same (ensureAuthoritativeState_runs healthy)).mpr ran⟩

theorem failureStands_free : Unobserved FailureStands := by
  intro state record absent _ receipt present
  rw [absent] at present
  cases present

namespace Fleet

variable {ι : Type} [DecidableEq ι] {fleet : Fleet ι} {world : World ι}

theorem recovered_questions (identified : HandoffsIdentified)
    (reached : (fleet.observed FailureStands).Reachable world) {root : ι}
    (running : (world root).process? = some home) {job : JobId} (found : home.state.jobs.get? job = some record) :
    (record.snapshot.state = .queued → ∀ question,
      home.authoritative = .ok () ∧ recoveryDispatchForKey host home (recoveryKey job homeRecoveryPlacement 0) =
          some ⟨.role functionPolicyRole, .selectDeployment question, none⟩ ↔
        placementQuestion host record.snapshot.spec.handle home = .ok (some question) home) ∧
    (record.snapshot.state = .retryPending → ∃ attempt, record.snapshot.currentAttempt = some attempt ∧ ∀ question,
      home.authoritative = .ok () ∧ recoveryDispatchForKey host home (recoveryKey job homeRecoveryRetry 0) =
          some ⟨.role functionPolicyRole, .decideRetry question, some (retryCorrelation attempt)⟩ ↔
        retryQuestion host record.snapshot.spec.handle attempt home = .ok question home) := by
  have sound := (worldSound_of_reachable identified failureStands_free reached root).process home running
  have own := homed_of_replay sound.replays job record found
  have keyed := (sound.grown.wellKept job record found).1
  subst keyed
  refine ⟨fun queued question => ?_, fun pending => ?_⟩
  · refine authoritative_and_iff fun writable => ?_
    have key : recoveryDispatchForKey host home (recoveryKey record.snapshot.spec.handle.job homeRecoveryPlacement 0) =
        recoverPlacement host home record := by
      simp [recoveryDispatchForKey, recoveryKey, HomeRecoveryKey.job, HomeRecoveryKey.kind, found, queued]
    rw [key]
    refine .trans ?_ (placementQuestion_eq_ok writable own found).symm
    exact (recovered_eq_some _ fun _ _ equal => by cases equal; rfl).trans (and_iff_right queued).symm
  · obtain ⟨failure, newest, current⟩ := sound.grown.failed _ record found pending
    refine ⟨failure.1, current, fun question => authoritative_and_iff fun writable => ?_⟩
    have key : recoveryDispatchForKey host home (recoveryKey record.snapshot.spec.handle.job homeRecoveryRetry 0) =
        recoverRetry host home record := by
      simp [recoveryDispatchForKey, recoveryKey, HomeRecoveryKey.job, HomeRecoveryKey.kind, found, pending,
        homeRecoveryPlacement, homeRecoveryRetry]
    rw [newestFailure] at newest
    rw [key, recoverRetry, newest]
    refine .trans ?_ (retryQuestion_eq_ok writable own found pending current newest).symm
    exact recovered_eq_some (fun question => ⟨_, .decideRetry question, _⟩) fun _ _ equal => by cases equal; rfl

end Fleet

end

namespace Sample

open Wire.Sample

section

attribute [local instance] Wire.Sample.collisionFree

theorem recovered_questions_submitted : ∃ home record, (world submitted ()).process? = some home ∧
    home.state.jobs.get? job = some record ∧ record.snapshot.state = .queued ∧ ∀ question,
      home.authoritative = .ok () ∧ recoveryDispatchForKey host home (recoveryKey job homeRecoveryPlacement 0) =
          some ⟨.role functionPolicyRole, .selectDeployment question, none⟩ ↔
        placementQuestion host record.snapshot.spec.handle home = .ok (some question) home := by
  obtain ⟨home, running, record, found, queued, _⟩ := submitted_runs
  exact ⟨home, record, running, found, queued,
    (Fleet.recovered_questions handoffsIdentified submitted_observed running found).1 queued⟩

end

attribute [local instance] Wire.Sample.crypto

/-- The answer to the question about the accepted Job. -/
def decision : SignedRecord PlacementDecision :=
  signed .policy (.key 6) ⟨⟨home, job⟩, .sha256 0, deployment.payload.deployment, []⟩

/-- The Home that accepted the Job, before and after the decision is applied. -/
def placed : Option (FunctionHome × SignedRecord ExecutionGrant × FunctionHome) :=
  (world submitted ()).process?.bind fun first =>
    match applyPlacementDecision host decision first with
    | .ok minted issued => some (first, minted, issued)
    | .error _ _ => none

theorem applyPlacementDecision_again_dispatching : ∃ first minted issued,
    applyPlacementDecision host decision first = .ok minted issued ∧ applyPlacementDecision host decision issued =
      .error (.state "job has no outstanding placement question") issued := by
  obtain ⟨first, _, before, found, minted, issued, ran, record, now, _, durable, healthy, own, same, state, cancel, current⟩ :
      ∃ first ∈ (world submitted ()).process?, ∃ before ∈ first.state.jobs.get? job, ∃ minted issued,
      applyPlacementDecision host decision first = .ok minted issued ∧ ∃ record ∈ issued.state.jobs.get? job,
      ∃ _ ∈ issued.state.grants.get? (attemptKey (attempt 1)), issued.authoritative = .ok () ∧
      issued.config.home = first.config.home ∧
      issued.placementOf record ⟨home, job⟩ = first.placementOf before ⟨home, job⟩ ∧
      record.snapshot.state = .dispatching ∧ record.snapshot.cancelRequested = false ∧
      record.snapshot.currentAttempt = some (attempt 1) := by decide +kernel
  refine ⟨first, minted, issued, ran, (applyPlacementDecision_again ran found healthy own now same ?_ current
    durable).2 (by rw [state]; rfl)⟩
  simp [state, cancel, JobState.isTerminal]

/-- The decision is applied, its grant is durable and its attempt in flight, and it is refused when it comes once
more. -/
theorem decision_refused_again : placed.any (fun (first, minted, issued) =>
    issued.authoritative = .ok () ∧ issued.config.epoch = first.config.epoch ∧
    (issued.state.jobs.get? job).any (fun record => inFlight record.snapshot.state ∧
      record.snapshot.cancelRequested = false ∧ record.snapshot.currentAttempt = some (attempt 1)) ∧
    issued.state.grants.get? (attemptKey (attempt 1)) = some minted ∧
    applyPlacementDecision host decision issued matches .error _ _) = true := by
  decide +kernel

/-- A Job fails twice, and then its first attempt reports progress. -/
def failedTwice : List Command :=
  [.openHome host config, .operate host (submit (.atLeastOnce 3)), .operate host issue,
    .operate host (observe 1 1 (.failed value true)), .operate host issue,
    .operate host (observe 2 1 (.failed value true)), .operate host (observe 1 2 (.progress 1 value))]

/-- Policy may still be asked about the first attempt, which is current again; recovery asks nothing. -/
theorem retry_notRecovered : fleet.system.Reachable (world failedTwice) ∧
    (world failedTwice ()).process?.any (fun now => now.authoritative = .ok () ∧
      (now.state.jobs.get? job).any (fun record => record.snapshot.state = .retryPending ∧
        record.snapshot.currentAttempt = some (attempt 1)) ∧
      (retryQuestion host ⟨home, job⟩ (attempt 1) now matches .ok _ _) ∧
      recoveryDispatchForKey host now (recoveryKey job homeRecoveryRetry 0) = none) = true :=
  ⟨world_reachable (by simp [failedTwice, Ours]; rfl), by decide +kernel⟩

end Sample

end Gawd.Home
