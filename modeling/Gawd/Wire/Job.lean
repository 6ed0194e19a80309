import Gawd.Wire.Execution

/-!
Job contracts: submissions, accepted specifications, controls, the events of a Job's ledger and the
snapshots a Home signs.
-/

namespace Gawd.Wire

open Gawd.Logic

section

variable [Crypto]

/-- Caller-authored request; a signed outer record provides authorization. -/
structure JobSubmit where
  home : HomeId
  callerIdempotencyKey : String
  function : FunctionSelector
  input : ValueRef
  delivery : DeliveryMode
  allowDuplicateEffects : Bool
  parent : Option JobHandle
  causal : List CausalLink
  access : JobAccess
  evidence : List EvidenceRef
  resultRecipients : List HomeId
  submittedAtUnixMs : Option Nat
deriving DecidableEq

instance : Validate JobSubmit where
  validate submit := do
    validate submit.home
    validateText "caller_idempotency_key" submit.callerIdempotencyKey maxIdempotencyKeyBytes
    validate submit.function
    validate submit.input
    validate submit.delivery
    validateSome validate submit.parent
    validateCausalLinks submit.causal
    validate submit.access
    validateVec "job evidence" submit.evidence maxEvidenceRefs
    validateVec "result recipients" submit.resultRecipients maxResultRecipients
    ensureMessageBound submit

def JobSubmit.requestHash (submit : JobSubmit) : Except ContractError Text := do
  validate submit
  return canonicalHash submit

/-- Immutable accepted job specification; alias resolution has already been pinned. -/
structure JobSpec where
  handle : JobHandle
  root : JobHandle
  callerIdempotencyKey : String
  requestHash : Text
  function : ResolvedFunction
  deployment : SignedRecord DeploymentReceipt
  input : ValueRef
  delivery : DeliveryMode
  allowDuplicateEffects : Bool
  parent : Option JobHandle
  causal : List CausalLink
  access : JobAccess
  evidence : List EvidenceRef
  resultRecipients : List HomeId
  acceptedAtUnixMs : Option Nat
deriving DecidableEq

instance : Validate JobSpec where
  validate spec := do
    validate spec.handle
    validate spec.root
    reject (spec.root.home ≠ spec.handle.home)
      (.invalid "job root and handle must belong to the same Home")
    validateText "caller_idempotency_key" spec.callerIdempotencyKey maxIdempotencyKeyBytes
    validateSha256 "request_hash" spec.requestHash
    validate spec.function
    verifyDeploymentReceipt spec.deployment
    reject (spec.deployment.payload.function ≠ spec.function.function ∨
        spec.deployment.payload.artifactHash ≠ spec.function.artifactHash)
      (.invalid "accepted deployment does not match the resolved function/artifact")
    validate spec.input
    validate spec.delivery
    match spec.parent with
    | some parent =>
      validate parent
      reject (parent.home ≠ spec.handle.home ∨ spec.root = spec.handle)
        (.invalid "child parent/root must share its Home and root cannot be the child")
    | none =>
      reject (spec.root ≠ spec.handle)
        (.invalid "a root job must name itself as its immutable workflow root")
    validateCausalLinks spec.causal
    validate spec.access
    validateVec "job evidence" spec.evidence maxEvidenceRefs
    validateVec "result recipients" spec.resultRecipients maxResultRecipients
    ensureMessageBound spec

inductive JobState where
  | queued
  | blocked
  | dispatching
  | running
  | retryPending
  | succeeded
  | failed
  | cancelled
  | indeterminate
deriving DecidableEq

def JobState.isTerminal : JobState → Bool
  | .succeeded | .failed | .cancelled | .indeterminate => true
  | _ => false

inductive JobControlKind where
  | steer (value : ValueRef)
  | cancel (reason : String)
  | accessUpdate (addReaders removeReaders addControllers removeControllers : List HomeId)
  | proposeChild (parentAttempt : AttemptId) (parentEventHash : Text) (spawnKey : String)
    (childRequestHash : Text) (submit : SignedRecord JobSubmit)
    (resolution : SignedRecord ResolutionReceipt) (deployment : SignedRecord DeploymentReceipt)
deriving DecidableEq

instance : Validate JobControlKind where
  validate
    | .steer value => validate value
    | .cancel reason => validateText "cancel reason" reason maxReasonBytes
    | .accessUpdate addReaders removeReaders addControllers removeControllers => do
      validateVec "add_readers" addReaders maxJobDelegates
      validateVec "remove_readers" removeReaders maxJobDelegates
      validateVec "add_controllers" addControllers maxJobDelegates
      validateVec "remove_controllers" removeControllers maxJobDelegates
    | .proposeChild parentAttempt parentEventHash spawnKey childRequestHash submit resolution deployment => do
      validate parentAttempt
      validateSha256 "parent_event_hash" parentEventHash
      validateText "spawn_key" spawnKey maxIdempotencyKeyBytes
      validateSha256 "child_request_hash" childRequestHash
      validate submit
      reject (submit.schema ≠ .job ∨ submit.verify = false) (.crypto "child submission signature is invalid")
      let requestHash ← submit.payload.requestHash
      reject (requestHash ≠ childRequestHash)
        (.invalid "child request hash does not match the signed submission")
      validate resolution
      reject (resolution.schema ≠ .functionDeploy ∨ resolution.verify = false)
        (.crypto "child resolution receipt signature is invalid")
      verifyDeploymentReceipt deployment
      reject (resolution.payload.selector ≠ submit.payload.function ∨
          resolution.payload.function ≠ deployment.payload.function ∨
          resolution.payload.artifactHash ≠ deployment.payload.artifactHash)
        (.invalid "child submission, resolution, and deployment pins do not match")

structure JobControl where
  handle : JobHandle
  expectedHomeEpoch : Nat
  control : ControlId
  issuedAtUnixMs : Option Nat
  kind : JobControlKind
deriving DecidableEq

instance : Validate JobControl where
  validate control := do
    validate control.handle
    reject (control.expectedHomeEpoch = 0) (.invalid "expected home epoch must be non-zero")
    validate control.control
    validate control.kind
    match control.kind with
    | .proposeChild parentAttempt .. =>
      reject (parentAttempt.home ≠ control.handle.home ∨ parentAttempt.job ≠ control.handle.job)
        (.invalid "child proposal parent attempt does not belong to controlled job")
    | _ => pure ()
    ensureMessageBound control

inductive JobEventKind where
  | submitted (spec : JobSpec)
  | blocked (reason : String)
  | dispatchGranted (grantHash : Text) (attempt : AttemptId)
  | claimed (attempt : AttemptId) (executor : Text)
  | started (attempt : AttemptId)
  | progress (attempt : AttemptId) (sequence : Nat) (progress : ValueRef)
  | checkpoint (attempt : AttemptId) (sequence : Nat) (checkpoint : ValueRef)
  | controlRequested (request : SignedRecord JobControl) (attempt : Option AttemptId)
  | controlQueued (control : ControlId) (attempt : AttemptId)
  | controlAcknowledged (control : ControlId) (attempt : AttemptId) (disposition : ControlDisposition)
  | attemptFailed (attempt : AttemptId) (error : ValueRef) (retryable : Bool)
  | retryScheduled (nextAttempt : AttemptId) (notBeforeUnixMs : Option Nat)
  | succeeded (attempt : AttemptId) (result : ValueRef)
  | failed (error : ValueRef)
  | cancelled (reason : String)
  | indeterminate (attempt : AttemptId) (reason : String) (executionMayHaveOccurred : Bool)
  | lateReceipt (attempt : AttemptId) (observed : ExecutionStage)
  | accessUpdated (control : ControlId) (requestHash : Text) (access : JobAccess)
  | childSpawned (parentAttempt : AttemptId) (parentEventHash : Text) (spawnKey : String)
    (child root : JobHandle) (childRequestHash : Text)
  | custodyPrepared (handoff : HandoffId) (nextEpoch : Nat)
  | custodyActivated (handoff : HandoffId)
deriving DecidableEq

instance : Validate JobEventKind where
  validate
    | .submitted spec => validate spec
    | .blocked reason => validateText "job event reason" reason maxReasonBytes
    | .cancelled reason => validateText "job event reason" reason maxReasonBytes
    | .indeterminate attempt reason _ => do
      validate attempt
      validateText "job event reason" reason maxReasonBytes
    | .lateReceipt attempt observed => do
      validate attempt
      validate observed
    | .dispatchGranted grantHash attempt => do
      validateSha256 "grant_hash" grantHash
      validate attempt
    | .claimed attempt executor => do
      validate attempt
      validateText "executor" executor maxIdBytes
    | .started attempt => validate attempt
    | .progress attempt sequence progress => do
      validate attempt
      reject (sequence = 0) (.invalid "progress sequence must be non-zero")
      progress.validateWithLimit maxProgressBytes
    | .checkpoint attempt sequence checkpoint => do
      validate attempt
      reject (sequence = 0) (.invalid "checkpoint sequence must be non-zero")
      validate checkpoint
    | .controlRequested request attempt => do
      validate request
      reject (request.schema ≠ .job ∨ request.verify = false)
        (.crypto "job control event contains an invalid caller signature")
      match attempt with
      | none => pure ()
      | some attempt =>
        validate attempt
        reject (attempt.home ≠ request.payload.handle.home ∨ attempt.job ≠ request.payload.handle.job)
          (.invalid "job control event attempt belongs to another Job")
    | .controlQueued control attempt => do
      validate control
      validate attempt
    | .controlAcknowledged control attempt _ => do
      validate control
      validate attempt
    | .attemptFailed attempt error _ => do
      validate attempt
      error.validateWithLimit maxErrorBytes
    | .retryScheduled nextAttempt _ => validate nextAttempt
    | .succeeded attempt result => do
      validate attempt
      validate result
    | .failed error => error.validateWithLimit maxErrorBytes
    | .accessUpdated control requestHash access => do
      validate control
      validateSha256 "access control request_hash" requestHash
      validate access
    | .childSpawned parentAttempt parentEventHash spawnKey child root childRequestHash => do
      validate parentAttempt
      validateSha256 "parent_event_hash" parentEventHash
      validateText "spawn_key" spawnKey maxIdempotencyKeyBytes
      validate child
      validate root
      reject (child.home ≠ root.home ∨ parentAttempt.home ≠ root.home ∨ parentAttempt.job = child.job)
        (.invalid "child/root Homes must match and a child cannot equal its parent")
      validateSha256 "child_request_hash" childRequestHash
    | .custodyPrepared handoff nextEpoch => do
      validate handoff
      reject (nextEpoch = 0) (.invalid "next epoch must be non-zero")
    | .custodyActivated handoff => validate handoff

/-- One event of a Job's ledger, signed by the Home's epoch key. -/
structure JobEvent where
  handle : JobHandle
  homeEpoch : Nat
  authority : HomeAuthority
  sequence : Nat
  occurredAtUnixMs : Option Nat
  stateAfter : JobState
  cancelRequested : Bool
  kind : JobEventKind
  foreignReceipt : Option (SignedRecord ExecutionReceipt)
deriving DecidableEq

def receiptMatchesEvent (receipt : ExecutionReceipt) (event : JobEventKind) : Bool :=
  match receipt.stage, event with
  | .claimed, .claimed attempt executor => attempt = receipt.attempt && executor = receipt.executor
  | .started, .started attempt => attempt = receipt.attempt
  | .progress leftSequence left, .progress attempt rightSequence right =>
    attempt = receipt.attempt && leftSequence = rightSequence && left = right
  | .checkpoint leftSequence left, .checkpoint attempt rightSequence right =>
    attempt = receipt.attempt && leftSequence = rightSequence && left = right
  | .succeeded left, .succeeded attempt right => attempt = receipt.attempt && left = right
  | .failed left leftRetryable, .attemptFailed attempt right rightRetryable =>
    attempt = receipt.attempt && left = right && leftRetryable = rightRetryable
  | .indeterminate left leftMay, .indeterminate attempt right rightMay =>
    attempt = receipt.attempt && left = right && leftMay = rightMay
  | observed, .lateReceipt attempt eventObserved =>
    attempt = receipt.attempt && observed = eventObserved
  | .cancelled left, .cancelled right => left = right
  | .controlQueued left, .controlQueued right attempt => attempt = receipt.attempt && left = right
  | .controlAcknowledged left leftDisposition _, .controlAcknowledged right attempt rightDisposition =>
    attempt = receipt.attempt && left = right && leftDisposition = rightDisposition
  | _, _ => false

instance : Validate JobEvent where
  validate event := do
    validate event.handle
    reject (event.homeEpoch = 0 ∨ event.sequence = 0)
      (.invalid "home epoch and event sequence must be non-zero")
    event.authority.verify event.handle.home event.homeEpoch .jobHome
    validate event.kind
    match event.kind with
    | .submitted spec =>
      reject (spec.handle ≠ event.handle)
        (.invalid "Submitted event handle does not match its accepted specification")
    | .childSpawned parentAttempt _ _ child root _ =>
      reject (parentAttempt.home ≠ event.handle.home ∨ parentAttempt.job ≠ event.handle.job ∨
          child.home ≠ event.handle.home ∨ root.home ≠ event.handle.home)
        (.invalid "ChildSpawned parent/child/root do not share the event lineage")
    | .lateReceipt .. =>
      reject (event.foreignReceipt = none) (.invalid "LateReceipt event omits its exact foreign receipt")
    | _ => pure ()
    match event.foreignReceipt with
    | none => pure ()
    | some receipt =>
      validate receipt
      reject (receipt.schema ≠ .execute ∨ receipt.verify = false ∨
          receipt.signer ≠ receipt.payload.executor ∨
          receipt.payload.attempt.home ≠ event.handle.home ∨
          receipt.payload.attempt.job ≠ event.handle.job ∨
          receiptMatchesEvent receipt.payload event.kind = false)
        (.invalid "foreign execution receipt does not exactly match the Home event")
    ensureMessageBound event

/-- Verify an event all the way to its Abode root. -/
def verifyJobEvent (record : SignedRecord JobEvent) : Except ContractError Unit := do
  validate record
  reject (record.schema ≠ .job ∨ record.verify = false) (.crypto "invalid job-event signature")
  reject (record.signer ≠ record.payload.authority.operationalKey)
    (.invalid "job-event signer is not the root-authorized Home epoch key")

/-- Home-endorsed control forwarding; the caller's signature stays nested. -/
structure ExecutionControl where
  callerRequest : SignedRecord JobControl
  acceptedEvent : SignedRecord JobEvent
  attempt : AttemptId
  grantHash : Text
  homeEpoch : Nat
  homeRouteSequence : Nat
  homeSequence : Nat
  homeRealm : String
  homeNode : String
  homeCoordinator : String
  authority : HomeAuthority
deriving DecidableEq

instance : Validate ExecutionControl where
  validate control := do
    validate control.callerRequest
    reject (control.callerRequest.schema ≠ .job ∨ control.callerRequest.verify = false)
      (.crypto "execution control contains an invalid caller request signature")
    reject (control.homeEpoch = 0 ∨ control.homeRouteSequence = 0 ∨ control.homeSequence = 0)
      (.invalid "execution control home epoch/route/event sequences must be non-zero")
    validateSha256 "execution control grant_hash" control.grantHash
    validateText "control home_realm" control.homeRealm maxIdBytes
    validateText "control home_node" control.homeNode maxIdBytes
    validateText "control home_coordinator" control.homeCoordinator maxIdBytes
    verifyJobEvent control.acceptedEvent
    match control.acceptedEvent.payload.kind with
    | .controlRequested request (some attempt) =>
      reject (request ≠ control.callerRequest ∨ attempt ≠ control.attempt ∨
          control.acceptedEvent.payload.handle ≠ control.callerRequest.payload.handle ∨
          control.acceptedEvent.payload.homeEpoch ≠ control.callerRequest.payload.expectedHomeEpoch ∨
          control.acceptedEvent.payload.sequence ≠ control.homeSequence)
        (.invalid "execution control does not exactly continue its durable accepted event")
    | _ =>
      throw (.invalid "execution control acceptance proof is not a delivered ControlRequested event")
    reject (control.homeEpoch < control.callerRequest.payload.expectedHomeEpoch)
      (.invalid "caller control expects an epoch newer than the endorsing Home")
    reject (control.attempt.home ≠ control.callerRequest.payload.handle.home ∨
        control.attempt.job ≠ control.callerRequest.payload.handle.job)
      (.invalid "execution control attempt does not belong to the controlled Job")
    validate control.attempt
    control.authority.verify control.callerRequest.payload.handle.home control.homeEpoch .jobControl
    requireCustodyLocation "execution control" control.homeEpoch control.authority control.homeRealm
      control.homeNode
    ensureMessageBound control

def verifyExecutionControl (record : SignedRecord ExecutionControl) : Except ContractError Unit := do
  validate record
  reject (record.schema ≠ .execute ∨ record.verify = false)
    (.crypto "invalid home-endorsed execution-control signature")
  reject (record.signer ≠ record.payload.authority.operationalKey)
    (.invalid "execution-control signer is not the authorized home epoch key")

structure JobSnapshot where
  spec : JobSpec
  state : JobState
  cancelRequested : Bool
  homeEpoch : Nat
  authority : HomeAuthority
  lastSequence : Nat
  currentAttempt : Option AttemptId
  result : Option ValueRef
  error : Option ValueRef
deriving DecidableEq

instance : Validate JobSnapshot where
  validate snapshot := do
    validate snapshot.spec
    reject (snapshot.homeEpoch = 0 ∨ snapshot.lastSequence = 0)
      (.invalid "home epoch and last sequence must be non-zero")
    snapshot.authority.verify snapshot.spec.handle.home snapshot.homeEpoch .jobHome
    match snapshot.currentAttempt with
    | none => pure ()
    | some attempt =>
      validate attempt
      reject (attempt.home ≠ snapshot.spec.handle.home ∨ attempt.job ≠ snapshot.spec.handle.job)
        (.invalid "snapshot current attempt belongs to a different Job handle")
    validateSome validate snapshot.result
    validateSome (ValueRef.validateWithLimit maxErrorBytes) snapshot.error
    ensureMessageBound snapshot

theorem JobSpec.maxAttempts_le {spec : JobSpec} (valid : validate spec = .ok ()) :
    spec.delivery.maxAttempts ≤ maxJobAttempts := by
  have inner : validate spec.delivery = .ok () := by
    unfold validate instValidateJobSpec at valid
    simp only [bind_eq_ok] at valid
    obtain ⟨-, -, -, -, -, -, -, -, -, -, -, -, -, -, -, -, -, -, _, delivery, -⟩ := valid
    exact delivery
  unfold validate instValidateDeliveryMode at inner
  simp only [reject_eq_ok, not_or, Nat.not_lt] at inner
  exact inner.2

/-- A valid submission event names the specification it accepts. -/
theorem JobEvent.submitted_of_valid {event : JobEvent} {spec : JobSpec} (valid : validate event = .ok ())
    (kind : event.kind = .submitted spec) : spec.handle = event.handle ∧ validate spec = .ok () := by
  unfold validate instValidateJobEvent at valid
  simp only [kind, bind_eq_ok, reject_eq_ok, Decidable.not_not] at valid
  obtain ⟨_, _, _, _, _, _, _, inner, _, handle, _⟩ := valid
  exact ⟨handle, inner⟩

theorem verifyJobEvent_valid {event : SignedRecord JobEvent} (verified : verifyJobEvent event = .ok ()) :
    validate event.payload = .ok () := by
  simp only [verifyJobEvent, bind_eq_ok] at verified
  obtain ⟨_, valid, _⟩ := verified
  have inner : event.validateWith (validate event.payload) = .ok () := valid
  simp only [SignedRecord.validateWith, bind_eq_ok] at inner
  obtain ⟨_, _, _, _, _, _, _, payload, _⟩ := inner
  exact payload

end

end Gawd.Wire
