import Gawd.Executor.Ledger

/-!
The operations of a running executor.
-/

namespace Gawd.Executor

open Gawd.Logic Gawd.Wire Gawd.Journal

/-- Run a ledger step on the state the process holds. -/
def inState {α : Type} (program : Ledger α) : Action α :=
  zoom FunctionExecutor.state (fun state executor => { executor with state }) id program

/-- Once a durable append has failed, every capability stays inert until reopen. -/
def ensureOperational : Action Unit := do
  let executor ← get
  mapError ExecutorError.journal executor.journal.ensureHealthy

def tick : Action Nat := do
  let executor ← get
  set { executor with clock := executor.clock + 1 }
  return executor.clock

/-- An append needs a record slot beyond those reserved after it. -/
def ensureAppendCapacity (reservationAfterAppend : Nat) : Action Unit := do
  let executor ← get
  let remaining ← mapError ExecutorError.journal executor.journal.remainingRecords
  reject (remaining ≤ reservationAfterAppend) ExecutorError.capacity

def requireLiveTarget (host : Host) (target : Nat) (deployment : DeploymentReceipt) : Action Unit := do
  let time ← tick
  match host.targetIsLive time target deployment with
  | .ok true => pure ()
  | .ok false => throw (.targetUnavailable (toString target))
  | .error reason => throw (.liveness reason)

/-- The deployment's creature, provided it resolves to exactly that local creature. -/
def exactLocalTarget (host : Host) (grant : ExecutionGrant) : Except ExecutorError (Nat × Address) := do
  let raw := grant.deployment.payload.creature
  let id ← orError (.address s!"deployment target `{raw}` is not a numeric CreatureId") (parseU64 raw)
  reject (id = 0 ∨ toString id ≠ raw)
    (.address s!"deployment target `{raw}` is not one canonical positive CreatureId")
  let target ← mapError ExecutorError.address (host.functionTarget grant)
  let found := target.debug
  reject (target ≠ .creature id)
    (.address s!"deployment target `{raw}` resolved to `{found}` instead of its exact local CreatureId")
  return (id, target)

section

variable [Crypto]

def ofSigning {α : Type} : Except ContractError α → Except ExecutorError α :=
  mapError fun error => .signing error.display

/-- Make a record durable, then apply it. -/
def commit (host : Host) (record : ExecutorLedgerRecord) : Action Unit := do
  let executor ← get
  validateRecord executor.config host.signer.publicKey record
  let time ← tick
  let _ ← zoom FunctionExecutor.journal (fun journal executor => { executor with journal })
    ExecutorError.journal (SignedJournal.append record host.signer (host.fate time))
  inState (applyRecord executor.config host.signer.publicKey record)

def signReceipt (host : Host) (grant : SignedRecord ExecutionGrant) (sequence : Nat)
    (observedAtUnixMs : Option Nat) (stage : ExecutionStage) : Action (SignedRecord ExecutionReceipt) := do
  ensureOperational
  let executor ← get
  let receipt : ExecutionReceipt :=
    ⟨grant.payload.attempt, canonicalHash grant, executor.config.executor, sequence, observedAtUnixMs, stage⟩
  ofInvalid (validate receipt)
  ofSigning (SignedRecord.sign .execute receipt host.signer)

def livenessRefusal (kind reason : String) : ExecutionStage :=
  .failed (.inline (.object [("execution_may_have_occurred", .bool false), ("kind", .string kind),
    ("reason", .string (String.ofList (reason.toList.take (maxReasonBytes / 4))))])) true

def signLivenessRefusal (host : Host) (grant : SignedRecord ExecutionGrant) (sequence : Nat)
    (error : ExecutorError) : Action (SignedRecord ExecutionReceipt) :=
  match error with
  | .targetUnavailable reason =>
    signReceipt host grant sequence grant.payload.issuedAtUnixMs
      (livenessRefusal "deployment_target_unavailable" reason)
  | .liveness reason =>
    signReceipt host grant sequence grant.payload.issuedAtUnixMs
      (livenessRefusal "deployment_liveness_unavailable" reason)
  | other => throw other

/-- The only place where a call comes into being. -/
def functionCall (host : Host) (grant : SignedRecord ExecutionGrant) : Action FunctionCall := do
  ensureOperational
  let executor ← get
  let dispatch : ExecutorDispatch :=
    ⟨grant.payload.attempt, canonicalHash grant, grant.payload.deployment.payload.deployment,
      executor.config.executorCreature, grant.payload.deployment.payload.creature⟩
  let executorDispatch ← ofSigning (SignedRecord.sign .call dispatch host.signer)
  let call : FunctionCall :=
    ⟨grant.payload.attempt, grant.payload.function, grant.payload.input, grant, executorDispatch⟩
  ofInvalid (validate call)
  return call

def functionControl (host : Host) (grant : SignedRecord ExecutionGrant)
    (endorsement : SignedRecord ExecutionControl) : Action FunctionControl := do
  ensureOperational
  let executor ← get
  let dispatch : ExecutorControlDispatch :=
    ⟨grant.payload.attempt, canonicalHash grant, canonicalHash endorsement,
      grant.payload.deployment.payload.deployment, executor.config.executorCreature,
      grant.payload.deployment.payload.creature⟩
  let executorDispatch ← ofSigning (SignedRecord.sign .call dispatch host.signer)
  let control : FunctionControl := ⟨grant.payload.attempt, endorsement, grant, executorDispatch⟩
  ofInvalid (validate control)
  return control

/-- A claimed attempt whose target is gone fails before its call. -/
def failBeforeStart (host : Host) (grant : SignedRecord ExecutionGrant) (error : ExecutorError) :
    Action ClaimOutcome := do
  let executor ← get
  ensureAppendCapacity (durableRecordReservations executor.state - 1)
  let failed ← signLivenessRefusal host grant 2 error
  commit host (.receipt failed)
  return .terminal failed

/-- Make Started durable, and only then produce the call. -/
def startAttempt (host : Host) (grant : SignedRecord ExecutionGrant)
    (claimed : SignedRecord ExecutionReceipt) (target : Address) : Action ClaimOutcome := do
  let executor ← get
  ensureAppendCapacity (durableRecordReservations executor.state)
  let started ← signReceipt host grant 2 grant.payload.issuedAtUnixMs .started
  commit host (.receipt started)
  let call ← functionCall host grant
  return .claimed [claimed, started] call target

/-- Continue a claim whose Started gate has not been crossed; otherwise repeat what is known. -/
def claimAgain (host : Host) (grant : SignedRecord ExecutionGrant) (existing : AttemptRecord) :
    Action ClaimOutcome := do
  reject (existing.grantHash ≠ canonicalHash grant)
    (ExecutorError.conflict "different grant for an already-claimed AttemptId")
  let receipt ← orError (ExecutorError.conflict "claimed attempt has no receipt") existing.receipts.getLast?
  if existing.terminal = false ∧ receipt.payload.stage = .claimed then
    let (targetId, target) ← exactLocalTarget host grant.payload
    match ← observe (requireLiveTarget host targetId grant.payload.deployment.payload) with
    | .error error => failBeforeStart host grant error
    | .ok _ => startAttempt host grant receipt target
  else if existing.terminal then
    return .terminal receipt
  else
    return .duplicate receipt

/-- A first grant for its attempt: refuse it when the target is gone, else claim and start it. -/
def claimFirst (host : Host) (grant : SignedRecord ExecutionGrant) : Action ClaimOutcome := do
  let executor ← get
  reject (executor.config.maxAttempts ≤ executor.state.attempts.size) ExecutorError.capacity
  let registered ← orError (ExecutorError.unauthorized "grant deployment is not registered")
    (executor.state.deployments.get? grant.payload.deployment.payload.deployment)
  reject (canonicalHash registered ≠ canonicalHash grant.payload.deployment)
    (ExecutorError.unauthorized "grant deployment differs from the durable registry pin")
  let (targetId, target) ← exactLocalTarget host grant.payload
  match ← observe (requireLiveTarget host targetId grant.payload.deployment.payload) with
  | .error error =>
    ensureAppendCapacity (durableRecordReservations executor.state)
    let failed ← signLivenessRefusal host grant 1 error
    commit host (.refuse grant failed)
    return .terminal failed
  | .ok _ =>
    ensureAppendCapacity (saturatingAdd (durableRecordReservations executor.state) 2)
    let receipt ← signReceipt host grant 1 grant.payload.issuedAtUnixMs .claimed
    commit host (.claim grant receipt)
    match ← observe (requireLiveTarget host targetId grant.payload.deployment.payload) with
    | .error error => failBeforeStart host grant error
    | .ok _ => startAttempt host grant receipt target

def claim (host : Host) (grant : SignedRecord ExecutionGrant) : Action ClaimOutcome := do
  ensureOperational
  ofInvalid (validate grant)
  ofUnauthorized (verifyExecutionGrant grant)
  mapError (fun _ => ExecutorError.unauthorized "invalid deployment receipt signature")
    (verifyDeploymentReceipt grant.payload.deployment)
  let executor ← get
  let pinned := grant.payload.deployment.payload.executor.render
  let own := executor.config.executor.render
  reject (grant.payload.deployment.payload.executor ≠ executor.config.executor)
    (ExecutorError.invalid s!"grant targets executor `{pinned}`, this executor is `{own}`")
  validateHomeFence executor.state grant
  match executor.state.attempts.get? grant.payload.attempt with
  | some existing => claimAgain host grant existing
  | none => claimFirst host grant

/-- A progress or checkpoint that was recorded before is repeated; a changed or older one is refused. -/
def earlierObservation (record : AttemptRecord) (kind : String) (sequence highest : Nat)
    (index : Option Nat) (stage : ExecutionStage) : Except ExecutorError (Option RecordOutcome) := do
  match index.bind fun index => record.receipts[index]? with
  | some existing =>
    reject (existing.payload.stage ≠ stage) (.conflict s!"{kind} sequence {sequence} changed contents")
    return some (.duplicate existing)
  | none =>
    reject (sequence ≤ highest) (.conflict s!"{kind} sequence {sequence} is not newer than {highest}")
    reject (maxAttemptObservations ≤ record.observationCount) .capacity
    return none

/-- An acknowledgment needs its queued control; a repeated one is recognised, a divergent one refused. -/
def earlierAcknowledgment (state : ExecutorState) (key : ControlKey) (stage : ExecutionStage) :
    Except ExecutorError (Option RecordOutcome) := do
  let name := key.control.text.render
  let queued ← orError (ExecutorError.conflict s!"control `{name}` was not durably queued")
    (state.controls.get? key)
  match queued.acknowledged with
  | some existing =>
    reject (existing.payload.stage ≠ stage) (.conflict s!"control `{name}` received divergent acknowledgments")
    return some (.duplicate existing)
  | none => return none

/-- What is already known about a stage that is to be recorded. -/
def earlierRecord (state : ExecutorState) (attempt : AttemptId) (record : AttemptRecord)
    (stage : ExecutionStage) : Except ExecutorError (Option RecordOutcome) :=
  match stage with
  | .progress sequence _ =>
    earlierObservation record "progress" sequence record.highestProgressSequence
      (record.progressReceipts.get? sequence) stage
  | .checkpoint sequence _ =>
    earlierObservation record "checkpoint" sequence record.highestCheckpointSequence
      (record.checkpointReceipts.get? sequence) stage
  | .controlAcknowledged control _ _ => earlierAcknowledgment state ⟨attempt, control⟩ stage
  | _ => .ok none

/-- After the terminal stage only acknowledgments are new; a repeat is judged by the last receipt. -/
def afterTerminal (record : AttemptRecord) (stage : ExecutionStage) :
    Except ExecutorError (Option RecordOutcome) :=
  if record.terminal ∧ isControlAcknowledged stage = false then
    match record.receipts.getLast? with
    | some last => if last.payload.stage = stage then .ok (some (.duplicate last)) else .error .terminal
    | none => .error .terminal
  else
    .ok none

/-- Reservations that recording a stage gives back. -/
def consumedReservations (state : ExecutorState) (attempt : AttemptId) (record : AttemptRecord)
    (stage : ExecutionStage) : Nat :=
  let consumesAttempt := if !record.terminal && stageTerminal stage then 1 else 0
  let consumesControl :=
    match stage with
    | .controlAcknowledged control _ _ =>
      if isPendingControl state (some ⟨attempt, control⟩) then 1 else 0
    | _ => 0
  consumesAttempt + consumesControl

/-- Persist progress, checkpoint or terminal state before it is reported. -/
def recordStage (host : Host) (attempt : AttemptId) (stage : ExecutionStage)
    (observedAtUnixMs : Option Nat) : Action RecordOutcome := do
  ensureOperational
  ofInvalid (validate stage)
  let executor ← get
  let record ← orError ExecutorError.notFound (executor.state.attempts.get? attempt)
  match ← earlierRecord executor.state attempt record stage with
  | some outcome => return outcome
  | none =>
    match ← afterTerminal record stage with
    | some outcome => return outcome
    | none =>
      ensureAppendCapacity (durableRecordReservations executor.state -
        consumedReservations executor.state attempt record stage)
      let receipt ← signReceipt host record.grant (record.receipts.length + 1) observedAtUnixMs stage
      commit host (.receipt receipt)
      return .recorded receipt

/-- A control that is already queued: repeat its newest receipt, after taking over a newer return route. -/
def requeueControl (host : Host) (request : SignedRecord ExecutionControl) (existing : ControlRecord) :
    Action RecordOutcome := do
  let executor ← get
  let name := request.payload.callerRequest.payload.control.text.render
  reject (existing.requestHash ≠ canonicalHash request ∧ sameControlIntent existing.request request = false)
    (ExecutorError.conflict s!"control `{name}` was replayed with different signed contents")
  if existing.requestHash = canonicalHash request then
    return .duplicate (existing.acknowledged.getD existing.queued)
  else
    ensureAppendCapacity (durableRecordReservations executor.state)
    commit host (.control request existing.queued)
    return .duplicate (existing.acknowledged.getD existing.queued)

def recordControlQueued (host : Host) (attempt : AttemptId) (request : SignedRecord ExecutionControl) :
    Action RecordOutcome := do
  ensureOperational
  ofUnauthorized (verifyExecutionControl request)
  reject (request.payload.attempt ≠ attempt)
    (ExecutorError.unauthorized "control endorsement names a different attempt")
  let control := request.payload.callerRequest.payload.control
  let executor ← get
  validateControlFence executor.state request
  let record ← orError ExecutorError.notFound (executor.state.attempts.get? attempt)
  reject (request.payload.grantHash ≠ record.grantHash ∨
      request.payload.callerRequest.payload.handle.home ≠ record.grant.payload.owner)
    (ExecutorError.unauthorized "control endorsement does not name the exact accepted attempt grant")
  match executor.state.controls.get? ⟨attempt, control⟩ with
  | some existing => requeueControl host request existing
  | none =>
    reject (maxJobControls ≤ record.controlCount) ExecutorError.capacity
    reject record.terminal ExecutorError.terminal
    ensureAppendCapacity (saturatingAdd (durableRecordReservations executor.state) 1)
    let receipt ← signReceipt host record.grant (record.receipts.length + 1)
      request.payload.callerRequest.payload.issuedAtUnixMs (.controlQueued control)
    commit host (.control request receipt)
    return .recorded receipt

/-- Reconcile one exact attempt for its current Home. -/
def query (host : Host) (request : SignedRecord ExecutionQuery) :
    Action (SignedRecord ExecutionReceipt × Address) := do
  ensureOperational
  ofUnauthorized (verifyExecutionQuery request)
  let executor ← get
  let record ← orError ExecutorError.notFound (executor.state.attempts.get? request.payload.attempt)
  let receipt ← orError ExecutorError.notFound record.receipts.getLast?
  reject (request.payload.grantHash ≠ record.grantHash ∨
      request.payload.attempt ≠ record.grant.payload.attempt ∨
      request.payload.attempt.home ≠ record.grant.payload.owner)
    (ExecutorError.unauthorized "execution query does not name the exact accepted Home grant")
  validateQueryFence executor.state request
  let target ← mapError ExecutorError.address (host.queryHomeTarget record.grant.payload request.payload)
  let fenced := (executor.state.homeFences.get? request.payload.attempt.home).any fun fence =>
    fence.covers (queryFence request)
  if fenced then
    return (receipt, target)
  else
    ensureAppendCapacity (durableRecordReservations executor.state)
    commit host (.homeFence request)
    return (receipt, target)

/-- The identities an executor attests for a registration. -/
def deploymentReceipt (config : ExecutorConfig) (registration : DeploymentRegistration) :
    DeploymentReceipt where
  deployment := registration.deployment
  function := registration.function
  artifactHash := registration.artifactHash
  realm := config.realm
  node := config.node
  executor := config.executor
  executorCreature := config.executorCreature
  creature := registration.targetCreature
  evidence := registration.evidence
  registeredAtUnixMs := none

def register (host : Host) (request : SignedRecord DeploymentRegistration) :
    Action (SignedRecord DeploymentReceipt) := do
  ensureOperational
  ofUnauthorized (verifyDeploymentRegistration request)
  let executor ← get
  let config := executor.config
  let registration := request.payload
  reject (registration.authorization.payload.targetRealm ≠ config.realm ∨
      registration.authorization.payload.targetNode ≠ some config.node)
    (ExecutorError.unauthorized "deployment authorization targets a different Realm/node")
  reject (positiveCreatureId registration.targetCreature = false)
    (ExecutorError.invalid "deployment target must be one exact positive numeric CreatureId")
  let expected ← ofInvalid (deriveDeploymentId registration.function registration.artifactHash
    config.realm config.node registration.targetCreature)
  reject (registration.deployment ≠ expected)
    (ExecutorError.invalid "DeploymentId is not derived from the immutable function/location/target pin")
  mapError (fun reason => ExecutorError.unauthorized s!"registration refused: {reason}")
    (host.admitRegister request)
  reject (config.executorCreature = "auto")
    (ExecutorError.configuration "executor must be bound before registering a deployment")
  let targetId ← orError (ExecutorError.invalid "deployment target is not numeric")
    (parseU64 registration.targetCreature)
  requireLiveTarget host targetId (deploymentReceipt config registration)
  let receipt ← ofSigning
    (SignedRecord.sign .functionDeploy (deploymentReceipt config registration) host.signer)
  ofInvalid (verifyDeploymentReceipt receipt)
  reject (registration.deployment ∈ executor.state.deploymentTombstones)
    (ExecutorError.conflict "a tombstoned DeploymentId cannot be resurrected")
  match executor.state.deployments.get? registration.deployment with
  | some existing =>
    if existing.payload = receipt.payload then
      return existing
    else
      reject (sameDeploymentBinding existing.payload receipt.payload = false)
        (ExecutorError.conflict "DeploymentId is already registered with different contents")
      persistRegistration executor receipt
  | none => persistRegistration executor receipt
where
  persistRegistration (executor : FunctionExecutor) (receipt : SignedRecord DeploymentReceipt) :
      Action (SignedRecord DeploymentReceipt) := do
    reject (executor.config.maxDeployments ≤ executor.state.deployments.size) ExecutorError.capacity
    ensureAppendCapacity (durableRecordReservations executor.state)
    commit host (.register request receipt)
    return receipt

def signUndeployReceipt (host : Host) (deployment : DeploymentId) :
    Action (SignedRecord UndeployReceipt) := do
  ensureOperational
  let executor ← get
  reject (positiveCreatureId executor.config.executorCreature = false)
    (ExecutorError.configuration "executor must be bound before acknowledging an undeploy")
  let payload : UndeployReceipt := ⟨deployment, executor.config.executor, executor.config.executorCreature⟩
  let receipt ← ofSigning (SignedRecord.sign .functionDeploy payload host.signer)
  ofInvalid (verifyUndeployReceipt receipt)
  return receipt

def undeploy (host : Host) (request : SignedRecord UndeployRequest) :
    Action (SignedRecord UndeployReceipt) := do
  ensureOperational
  ofInvalid (validate request)
  reject (request.schema ≠ .functionDeploy ∨ request.verify = false ∨
      request.signer ≠ request.payload.requestedBy.text)
    (ExecutorError.unauthorized "invalid undeploy authorization")
  let executor ← get
  let id := request.payload.deployment
  if id ∈ executor.state.deploymentTombstones then
    signUndeployReceipt host id
  else
    let deployment ← orError ExecutorError.notFound (executor.state.deployments.get? id)
    mapError (fun reason => ExecutorError.unauthorized s!"undeploy refused: {reason}")
      (host.admitUndeploy request deployment)
    reject (executor.state.attempts.values.any fun attempt =>
        !attempt.terminal && decide (attempt.grant.payload.deployment.payload.deployment = id))
      (ExecutorError.conflict "deployment has a nonterminal claimed attempt")
    ensureAppendCapacity (durableRecordReservations executor.state)
    commit host (.undeploy request id)
    signUndeployReceipt host id

end

end Gawd.Executor
