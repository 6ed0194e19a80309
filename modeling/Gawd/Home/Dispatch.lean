import Gawd.Home.Operations

/-!
Attempts: the policy questions a Home signs, the decisions it admits, the grants it issues and the
executor receipts it applies.
-/

namespace Gawd.Home

open Gawd.Logic Gawd.Wire Gawd.Journal

section

variable [Crypto]

def findJob (state : HomeState) (job : JobId) : Except HomeError JobRecord :=
  orError (.notFound job.text.render) (state.jobs.get? job)

/-- The bounded placement question of a queued Job; its only candidate is the accepted deployment. -/
def placementQuestion (host : Host) (handle : JobHandle) : Action (Option (SignedRecord PlacementQuestion)) := do
  ensureAuthoritativeState
  let home ← get
  reject (handle.home ≠ home.config.home) (HomeError.notFound handle.job.text.render)
  let job ← findJob home.state handle.job
  if job.snapshot.state ≠ .queued then
    return none
  else
    let question : PlacementQuestion :=
      { job := handle
        homeEpoch := home.config.epoch
        authority := home.config.authority
        function := job.snapshot.spec.function.function
        candidates := [job.snapshot.spec.deployment]
        evidence := job.snapshot.spec.evidence }
    ofInvalid (validate question)
    let signed ← ofSigning (SignedRecord.sign .policy question host.signer)
    ofInvalid (verifyPlacementQuestion signed)
    return some signed

/-- The failure a retry question reports. -/
def retryFailure : JobEventKind → Option (AttemptId × ValueRef × Bool)
  | .attemptFailed attempt error retryable => some (attempt, error, retryable)
  | .indeterminate attempt reason executionMayHaveOccurred =>
    some (attempt,
      .inline (.object [("execution_may_have_occurred", .bool executionMayHaveOccurred),
        ("kind", .string "executor_recovery_ambiguity"), ("reason", .string reason)]),
      true)
  | _ => none

/-- The newest durable failure of an attempt. -/
def lastFailure (events : List (SignedRecord JobEvent)) (attempt : AttemptId) :
    Option (AttemptId × ValueRef × Bool) :=
  (events.reverse.filterMap fun event => retryFailure event.payload.kind).find? fun failure =>
    failure.1 = attempt

def retryQuestion (host : Host) (handle : JobHandle) (failedAttempt : AttemptId) :
    Action (SignedRecord RetryQuestion) := do
  ensureAuthoritativeState
  let home ← get
  reject (handle.home ≠ home.config.home ∨ failedAttempt.home ≠ handle.home ∨ failedAttempt.job ≠ handle.job)
    (HomeError.notFound handle.job.text.render)
  let job ← findJob home.state handle.job
  reject (job.snapshot.state ≠ .retryPending ∨ job.snapshot.currentAttempt ≠ some failedAttempt)
    (HomeError.state "job has no outstanding retry question for that failed attempt")
  let (_, failure, retryable) ← orError
    (HomeError.state "durable failed-attempt event is unavailable for retry policy")
    (lastFailure job.events failedAttempt)
  let question : RetryQuestion :=
    { snapshot := { job.snapshot with
        homeEpoch := home.config.epoch, authority := home.config.authority }
      failedAttempt
      failure
      executorRetryableHint := retryable
      candidates := [job.snapshot.spec.deployment]
      evidence := job.snapshot.spec.evidence }
  ofInvalid (validate question)
  let signed ← ofSigning (SignedRecord.sign .policy question host.signer)
  ofInvalid (verifyRetryQuestion signed)
  return signed

/-- The grant `issue_grant` signs for the next attempt of a Job. -/
def FunctionHome.nextGrant (home : FunctionHome) (record : JobRecord) (job : JobId) (number routeSequence : Nat)
    (deployment : SignedRecord DeploymentReceipt) (issuedAtUnixMs deadlineUnixMs : Option Nat) :
    ExecutionGrant where
  attempt := ⟨home.config.home, job, number⟩
  requestHash := record.snapshot.spec.requestHash
  homeEpoch := home.config.epoch
  homeRouteSequence := routeSequence
  homeRealm := home.config.realm
  homeNode := home.config.node
  homeCoordinator := home.config.coordinator
  owner := home.config.home
  authority := home.config.authority
  function := record.snapshot.spec.function.function
  deployment := deployment
  input := record.snapshot.spec.input
  delivery := record.snapshot.spec.delivery
  grantSequence := home.state.nextGrantSequence
  issuedAtUnixMs := issuedAtUnixMs
  deadlineUnixMs := deadlineUnixMs

/-- The number of the next attempt after the current one. -/
def JobSnapshot.nextAttemptNumber (snapshot : JobSnapshot) : Nat :=
  (snapshot.currentAttempt.map fun attempt => nextNumber attempt.number).getD 1

/-- Whether a Job may be granted its next attempt on this deployment. -/
def checkDispatch (snapshot : JobSnapshot) (deployment : SignedRecord DeploymentReceipt) :
    Except HomeError Unit := do
  reject (snapshot.state.isTerminal ∨ snapshot.cancelRequested)
    (.state "terminal/cancel-requested job cannot dispatch")
  let state := JobState.debug snapshot.state
  reject (snapshot.state ≠ .queued ∧ snapshot.state ≠ .retryPending)
    (.state s!"job is {state}, expected queued or retry_pending")
  reject (deployment.payload.function ≠ snapshot.spec.function.function)
    (.invalid "deployment does not pin the job function")
  reject (canonicalHash deployment ≠ canonicalHash snapshot.spec.deployment)
    (.unauthorized "alternate deployment requires an explicit signed placement decision")
  let number := JobSnapshot.nextAttemptNumber snapshot
  reject (number = 0 ∨ snapshot.spec.delivery.maxAttempts < number)
    (.state "delivery attempt bound exhausted")

/-- Durably grant one exact attempt. -/
def issueGrant (host : Host) (job : JobId) (deployment : SignedRecord DeploymentReceipt)
    (issuedAtUnixMs deadlineUnixMs : Option Nat) : Action (SignedRecord ExecutionGrant) := do
  ensureAuthoritativeState
  ofInvalid (validate deployment)
  reject (verifyDeploymentReceipt deployment ≠ .ok ())
    (HomeError.unauthorized "deployment receipt signature is invalid")
  ofRefusal "deployment" (host.allowDeployment deployment)
  let home ← get
  let record ← findJob home.state job
  checkDispatch record.snapshot deployment
  let number := JobSnapshot.nextAttemptNumber record.snapshot
  let routeSequence ← home.custody.activeRouteSequence
  let grant := home.nextGrant record job number routeSequence deployment issuedAtUnixMs deadlineUnixMs
  ofInvalid (validate grant)
  let signed ← ofSigning (SignedRecord.sign .execute grant host.signer)
  let event ← signEvent host record.snapshot.spec.handle .dispatching false issuedAtUnixMs
    (.dispatchGranted (canonicalHash signed) ⟨home.config.home, job, number⟩)
  persistAndApply host ⟨some signed, none, [event]⟩
  return signed

def applyPlacementDecision (host : Host) (decision : SignedRecord PlacementDecision) :
    Action (SignedRecord ExecutionGrant) := do
  ensureAuthoritativeState
  ofInvalid (validate decision)
  reject (decision.schema ≠ .policy ∨ decision.verify = false)
    (HomeError.unauthorized "placement decision signature is invalid")
  let expected ← placementQuestion host decision.payload.job
  let question ← orError (HomeError.state "job has no outstanding placement question") expected
  reject (decision.payload.questionHash ≠ canonicalHash question)
    (HomeError.unauthorized "placement decision does not bind the exact outstanding signed question")
  ofRefusal "placement decision" (host.allowPlacementDecision decision)
  let home ← get
  reject (decision.payload.job.home ≠ home.config.home)
    (HomeError.notFound decision.payload.job.job.text.render)
  let job ← findJob home.state decision.payload.job.job
  reject (job.snapshot.state.isTerminal ∨ job.snapshot.cancelRequested)
    (HomeError.state "placement decision arrived after the job stopped dispatching")
  reject (decision.payload.selected ≠ job.snapshot.spec.deployment.payload.deployment)
    (HomeError.unauthorized "placement decision selected a deployment outside the accepted candidate set")
  match job.snapshot.currentAttempt.bind fun attempt => home.state.grants.get? (attemptKey attempt) with
  | some grant => return grant
  | none => issueGrant host decision.payload.job.job job.snapshot.spec.deployment none none

/-- Schedule the retry a decision names, unless it is scheduled already. -/
def scheduleRetry (host : Host) (job : JobRecord) (nextAttempt : AttemptId) (notBeforeUnixMs : Option Nat) :
    Action Unit := do
  let scheduled := job.events.any fun event =>
    match event.payload.kind with
    | .retryScheduled existing _ => existing = nextAttempt
    | _ => false
  if scheduled then pure ()
  else do
    let event ← signEvent host job.snapshot.spec.handle .retryPending job.snapshot.cancelRequested none
      (.retryScheduled nextAttempt notBeforeUnixMs)
    persistAndApply host ⟨none, none, [event]⟩

def retryAttempt (host : Host) (jobId : JobId) (failedAttempt nextAttempt : AttemptId)
    (deployment : SignedRecord DeploymentReceipt) (notBeforeUnixMs : Option Nat) :
    Action (Option (SignedRecord ExecutionGrant)) := do
  let home ← get
  reject (nextAttempt.home ≠ home.config.home ∨ nextAttempt.job ≠ jobId ∨
      failedAttempt.home ≠ home.config.home ∨ failedAttempt.job ≠ jobId)
    (HomeError.conflict "retry decision names a different job")
  ensureAuthoritativeState
  let job ← findJob home.state jobId
  reject (canonicalHash deployment ≠ canonicalHash job.snapshot.spec.deployment)
    (HomeError.unauthorized "retry selected a deployment outside the admitted candidate set")
  match home.state.grants.get? (toLex (jobId, nextAttempt.number)) with
  | some existing => return some existing
  | none => do
    reject (job.snapshot.state ≠ .retryPending)
      (HomeError.state "retry decision requires retry_pending state")
    let current ← orError (HomeError.state "retry has no failed attempt") job.snapshot.currentAttempt
    reject (current ≠ failedAttempt ∨ nextAttempt.number ≠ nextNumber current.number ∨
        job.snapshot.spec.delivery.maxAttempts < nextAttempt.number)
      (HomeError.state "retry decision violates the numbered attempt bound")
    scheduleRetry host job nextAttempt notBeforeUnixMs
    let grant ← issueGrant host jobId deployment none none
    return some grant

/-- The event a policy's decision to stop stands for. -/
def stopEvent (snapshot : JobSnapshot) (reason : String) : JobState → Except HomeError JobEventKind
  | .failed =>
    .ok (.failed (.inline (.object [("kind", .string "policy_stopped_retry"), ("reason", .string reason)])))
  | .cancelled => .ok (.cancelled reason)
  | .indeterminate => do
    let attempt ← orError (.state "indeterminate retry stop has no current attempt") snapshot.currentAttempt
    return .indeterminate attempt reason false
  | _ =>
    .error (.invalid "retry policy cannot synthesize success or another non-failure terminal")

def stopRetry (host : Host) (jobId : JobId) (failedAttempt : AttemptId) (terminalState : JobState)
    (reason : String) : Action (Option (SignedRecord ExecutionGrant)) := do
  ensureAuthoritativeState
  let home ← get
  let job ← findJob home.state jobId
  if job.snapshot.state.isTerminal then
    return none
  else
    reject (job.snapshot.state ≠ .retryPending) (HomeError.state "retry stop requires retry_pending state")
    reject (job.snapshot.currentAttempt ≠ some failedAttempt)
      (HomeError.conflict "retry stop does not bind the current failed attempt")
    let kind ← stopEvent job.snapshot reason terminalState
    let event ← signEvent host job.snapshot.spec.handle terminalState job.snapshot.cancelRequested none kind
    persistAndApply host ⟨none, none, [event]⟩
    return none

def RetryDecision.question : RetryDecision → JobHandle × AttemptId × Text
  | .retry questionHash job failedAttempt _ _ _ => (job, failedAttempt, questionHash)
  | .stop questionHash job failedAttempt _ _ => (job, failedAttempt, questionHash)

def applyRetryDecision (host : Host) (decision : SignedRecord RetryDecision) :
    Action (Option (SignedRecord ExecutionGrant)) := do
  ensureAuthoritativeState
  ofInvalid (validate decision)
  reject (decision.schema ≠ .policy ∨ decision.verify = false)
    (HomeError.unauthorized "retry decision signature is invalid")
  let (handle, failedAttempt, questionHash) := RetryDecision.question decision.payload
  let home ← get
  reject (handle.home ≠ home.config.home) (HomeError.notFound handle.job.text.render)
  let expected ← retryQuestion host handle failedAttempt
  reject (questionHash ≠ canonicalHash expected)
    (HomeError.unauthorized "retry decision does not bind the exact outstanding signed question")
  ofRefusal "retry decision" (host.allowRetryDecision decision)
  match decision.payload with
  | .retry _ job failedAttempt nextAttempt deployment notBeforeUnixMs =>
    retryAttempt host job.job failedAttempt nextAttempt deployment notBeforeUnixMs
  | .stop _ job failedAttempt terminalState reason => stopRetry host job.job failedAttempt terminalState reason

/-! Executor receipts -/

inductive ApplyReceiptOutcome where
  | applied (event : SignedRecord JobEvent)
  | duplicate (event : SignedRecord JobEvent)
deriving DecidableEq

def isAtLeastOnce : DeliveryMode → Bool
  | .atLeastOnce _ => true
  | .atMostOnce => false

/-- A failed attempt leaves room for another one. -/
def mayRetry (snapshot : JobSnapshot) (number : Nat) : Bool :=
  isAtLeastOnce snapshot.spec.delivery ∧ number < snapshot.spec.delivery.maxAttempts

/-- The Job state and event an executor's stage stands for. -/
def stageEvent (snapshot : JobSnapshot) (receipt : ExecutionReceipt) : JobState × Bool × JobEventKind :=
  let attempt := receipt.attempt
  let cancel := snapshot.cancelRequested
  let retry := mayRetry snapshot attempt.number
  match receipt.stage with
  | .claimed => (.dispatching, cancel, .claimed attempt receipt.executor)
  | .started => (.running, cancel, .started attempt)
  | .progress sequence progress => (snapshot.state, cancel, .progress attempt sequence progress)
  | .checkpoint sequence checkpoint => (snapshot.state, cancel, .checkpoint attempt sequence checkpoint)
  | .succeeded result => (.succeeded, cancel, .succeeded attempt result)
  | .failed error retryable =>
    (if retry then .retryPending else .failed, cancel, .attemptFailed attempt error retryable)
  | .cancelled reason => (.cancelled, true, .cancelled reason)
  | .indeterminate reason executionMayHaveOccurred =>
    (if retry then .retryPending
      else if snapshot.spec.delivery = .atMostOnce then .indeterminate else .failed,
      cancel, .indeterminate attempt reason executionMayHaveOccurred)
  | .controlAcknowledged control disposition _ =>
    (snapshot.state, cancel, .controlAcknowledged control attempt disposition)
  | .controlQueued control => (snapshot.state, cancel, .controlQueued control attempt)

def eventFromReceipt (host : Host) (snapshot : JobSnapshot) (receipt : ExecutionReceipt) :
    Action (JobState × Bool × JobEventKind) := do
  requireReceiptValues host receipt.stage
  match receipt.stage with
  | .succeeded result => requireResultRecipientWraps result snapshot.spec.resultRecipients
  | _ => pure ()
  return stageEvent snapshot receipt

/-- The event that retained an exact receipt. -/
def receiptEvent (state : HomeState) (job : JobId) (receiptHash : Text) :
    Except HomeError (SignedRecord JobEvent) :=
  orError (.state "receipt dedup state is incomplete")
    ((state.jobs.get? job).bind fun record => record.events.find? (carriesReceipt receiptHash))

/-- A receipt behind its attempt's high-water mark, or of an ended Job, is only recorded. -/
def classifyReceipt (host : Host) (snapshot : JobSnapshot) (highest : Nat) (receipt : ExecutionReceipt) :
    Action (JobState × Bool × JobEventKind) := do
  if receipt.sequence < highest ∨ snapshot.state.isTerminal then
    requireReceiptValues host receipt.stage
    return (snapshot.state, snapshot.cancelRequested, .lateReceipt receipt.attempt receipt.stage)
  else
    eventFromReceipt host snapshot receipt

def applyNewReceipt (host : Host) (receipt : SignedRecord ExecutionReceipt) : Action ApplyReceiptOutcome := do
  let home ← get
  let key := attemptKey receipt.payload.attempt
  let sequence := receipt.payload.sequence
  let grant ← orError (HomeError.state "receipt has no durable attempt grant") (home.state.grants.get? key)
  ofUnauthorized (verifyExecutionReceipt receipt grant)
  ofRefusal "executor receipt" (host.allowExecutorReceipt receipt grant.payload.deployment)
  let job ← findJob home.state receipt.payload.attempt.job
  let highest := (home.state.highestReceiptSequences.get? key).getD 0
  reject (sequence = highest)
    (HomeError.state s!"receipt sequence {sequence} matches the high-water mark but has no retained identity")
  let (stateAfter, cancelRequested, kind) ← classifyReceipt host job.snapshot highest receipt.payload
  let event ← signEventWithReceipt host job.snapshot.spec.handle stateAfter cancelRequested
    receipt.payload.observedAtUnixMs kind (some receipt)
  persistAndApply host ⟨none, some receipt, [event]⟩
  return .applied event

def applyExecutorReceipt (host : Host) (receipt : SignedRecord ExecutionReceipt) :
    Action ApplyReceiptOutcome := do
  ensureAuthoritativeState
  ofInvalid (validate receipt)
  let home ← get
  let receiptHash := canonicalHash receipt
  match home.state.receipts.get? (receiptKey receipt.payload) with
  | some existing =>
    if existing = receiptHash then do
      let event ← receiptEvent home.state receipt.payload.attempt.job receiptHash
      return .duplicate event
    else
      let job := receipt.payload.attempt.job.text.render
      let number := receipt.payload.attempt.number
      let sequence := receipt.payload.sequence
      throw (.conflict s!"{job} attempt {number} receipt sequence {sequence}")
  | none => applyNewReceipt host receipt

end

end Gawd.Home
