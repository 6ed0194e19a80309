import Gawd.Executor.Operations

/-!
The executor as a creature: reopening its root, sweeping over what it had said before, and answering
messages with dispatches.
-/

namespace Gawd.Executor

open Gawd.Logic Gawd.Wire Gawd.Journal

def validateReservationCounters (state : ExecutorState) : Except ExecutorError Unit := do
  let attempts := state.attempts.values
  reject (attempts.any fun attempt => attempt.receipts.length ≠ attempt.receiptRecoveryOrdinals.length)
    (.conflict "receipt recovery ordinals diverged from retained receipts")
  reject (state.nonterminalAttempts ≠ (attempts.filter fun attempt => !attempt.terminal).length ∨
      state.unacknowledgedControls ≠
        (state.controls.values.filter fun control => control.acknowledged.isNone).length ∨
      (attempts.map fun attempt => attempt.receipts.length).sum ≠ state.nextReceiptRecoveryOrdinal)
    (.conflict "executor durable-record reservation counters diverged from recovered state")

/-- Attempts whose call may have been made by an earlier process. -/
def unfinishedAttempts (state : ExecutorState) : List AttemptRecord :=
  state.attempts.values.filter fun attempt =>
    !attempt.terminal &&
      (attempt.receipts.getLast?.map fun receipt => receipt.payload.stage) ≠ some .claimed

/-- How an ambiguous attempt ends, by its delivery mode. -/
def recoveryStage : DeliveryMode → ExecutionStage
  | .atMostOnce =>
    .indeterminate "executor recovered a claimed attempt with unknown call outcome" true
  | .atLeastOnce _ =>
    .failed (.inline (.object [("execution_may_have_occurred", .bool true),
      ("kind", .string "executor_recovery_ambiguity")])) true

inductive Dispatch where
  | receipt (target : Address) (receipt : SignedRecord ExecutionReceipt)
  | call (target : Address) (call : FunctionCall)
  | control (target : Address) (control : FunctionControl)
  | error (target : Address) (error : ExecutorError)
  | registered (receipt : SignedRecord DeploymentReceipt)
  | undeployed (receipt : SignedRecord UndeployReceipt)
  | refused (error : ExecutorError)
  | poke (me : Nat)

/-- The function calls among some dispatches. -/
def calls (dispatches : List Dispatch) : List FunctionCall :=
  dispatches.filterMap fun
    | .call _ call => some call
    | _ => none

@[simp] theorem calls_receipts (home : Address) (receipts : List (SignedRecord ExecutionReceipt)) :
    calls (receipts.map (.receipt home)) = [] := by
  unfold calls
  rw [List.filterMap_map, List.filterMap_eq_nil_iff]
  intro receipt _
  rfl

@[simp] theorem calls_poke (hasMore : Bool) (me : Option Nat) :
    calls (if hasMore then (me.map Dispatch.poke).toList else []) = [] := by
  cases hasMore <;> cases me <;> rfl

@[simp] theorem calls_append (first second : List Dispatch) : calls (first ++ second) = calls first ++ calls second :=
  List.filterMap_append

section

variable [Crypto]

/-- Terminalise one recovered attempt; its sequence was read before the loop began. -/
def terminaliseRecovered (host : Host) (attempt : AttemptRecord) : Action Unit := do
  let executor ← get
  ensureAppendCapacity (durableRecordReservations executor.state - 1)
  let payload : ExecutionReceipt :=
    ⟨attempt.grant.payload.attempt, canonicalHash attempt.grant, executor.config.executor,
      attempt.receipts.length + 1, none, recoveryStage attempt.grant.payload.delivery⟩
  let receipt ← ofSigning (SignedRecord.sign .execute payload host.signer)
  commit host (.receipt receipt)

def terminaliseEach (host : Host) : List AttemptRecord → Action Unit
  | [] => pure ()
  | attempt :: rest => do
    terminaliseRecovered host attempt
    terminaliseEach host rest

def ensureReservedCapacity : Action Unit := do
  let executor ← get
  let remaining ← mapError ExecutorError.journal executor.journal.remainingRecords
  reject (remaining < durableRecordReservations executor.state) ExecutorError.capacity

/-- Check the replayed state and end the attempts whose call is in doubt. -/
def settleRecovered (host : Host) : Action Unit := do
  let executor ← get
  validateReservationCounters executor.state
  ensureReservedCapacity
  reject (executor.config.maxAttempts < executor.state.attempts.size) ExecutorError.capacity
  reject (executor.config.maxDeployments < executor.state.deployments.size) ExecutorError.capacity
  terminaliseEach host (unfinishedAttempts executor.state)
  let executor ← get
  validateReservationCounters executor.state
  ensureReservedCapacity

/-- Everything an open does once the journal is there. -/
def recoverState (host : Host) : Action Unit := do
  let executor ← get
  inState (replay executor.config host.signer.publicKey executor.journal.events)
  settleRecovered host

def openJournal (config : ExecutorConfig) (host : Host) (fault : Option String)
    (files : Files ExecutorLedgerRecord) : Except ExecutorError FunctionExecutor := do
  reject (config.executor.isBlank ∨ config.maxAttempts = 0 ∨ config.maxDeployments = 0 ∨
      (Text.plain config.realm).isBlank ∨ (Text.plain config.node).isBlank ∨
      (Text.plain config.executorCreature).isBlank)
    (.configuration "executor and max_attempts must be non-empty/non-zero")
  reject (host.signer.publicKey ≠ config.executor)
    (.configuration "executor identity must equal the injected signer public key")
  let journal ← mapError ExecutorError.journal (SignedJournal.openWithSchema files executorChainSchema
    host.signer config.journalCaps fault)
  return ⟨config, journal, .initial, .idle, none, 0⟩

/-- Open a root. A failing open may have written to the files before it failed. -/
def openWithLiveness (config : ExecutorConfig) (host : Host) (fault : Option String)
    (files : Files ExecutorLedgerRecord) : Except ExecutorError FunctionExecutor × Files ExecutorLedgerRecord :=
  match openJournal config host fault files with
  | .error error => (.error error, files)
  | .ok executor =>
    match recoverState host executor with
    | .ok _ executor => (.ok executor, executor.journal.files)
    | .error error executor => (.error error, executor.journal.files)

/-- Where a receipt goes: to the fenced return route when it is at least as new as the grant's. -/
def recoveryHomeTarget (host : Host) (grant : SignedRecord ExecutionGrant) : Action Address := do
  ensureOperational
  let executor ← get
  match executor.state.homeFences.get? grant.payload.attempt.home with
  | some fence =>
    if fence.covers (grantFence grant) then
      let coordinator ← mapError ExecutorError.address (parseAddress fence.homeCoordinator)
      mapError ExecutorError.address (routedAddress executor.config.realm executor.config.node
        fence.homeRealm fence.homeNode coordinator)
    else
      mapError ExecutorError.address (host.homeTarget grant.payload)
  | none => mapError ExecutorError.address (host.homeTarget grant.payload)

/-- The live creature of a deployment that is still registered exactly as the grant pins it. -/
def liveDeploymentTarget (host : Host) (grant : SignedRecord ExecutionGrant) : Action Address := do
  let executor ← get
  let pinned := grant.payload.deployment.payload.deployment
  let deployment ← orError
    (ExecutorError.unauthorized "control grant deployment is no longer registered")
    (executor.state.deployments.get? pinned)
  reject (pinned ∈ executor.state.deploymentTombstones ∨
      canonicalHash deployment ≠ canonicalHash grant.payload.deployment)
    (ExecutorError.unauthorized "control grant differs from the exact live deployment registration")
  let (targetId, target) ← exactLocalTarget host grant.payload
  requireLiveTarget host targetId grant.payload.deployment.payload
  return target

def liveAttemptTarget (host : Host) (grant : SignedRecord ExecutionGrant) (requireNonterminal : Bool) :
    Action Address := do
  ensureOperational
  let executor ← get
  if requireNonterminal then
    let attempt ← orError ExecutorError.notFound (executor.state.attempts.get? grant.payload.attempt)
    reject attempt.terminal ExecutorError.terminal
    liveDeploymentTarget host grant
  else
    liveDeploymentTarget host grant

def liveControlTarget (host : Host) (grant : SignedRecord ExecutionGrant) : Action Address :=
  liveAttemptTarget host grant false

def liveControlForwardTarget (host : Host) (grant : SignedRecord ExecutionGrant) : Action Address :=
  liveAttemptTarget host grant true

/-- A recovery command for a control that is still queued. -/
def pendingControl (state : ExecutorState) (attempt : AttemptRecord) (key : AttemptId)
    (stage : ExecutionStage) : Option (SignedRecord ExecutionControl) :=
  match stage with
  | .controlQueued control =>
    if attempt.terminal then none
    else
      match state.controls.get? ⟨key, control⟩ with
      | some pending => if pending.acknowledged.isNone then some pending.request else none
      | none => none
  | _ => none

/-- What recovering one retained receipt asks for. -/
def recoveryWork (state : ExecutorState) (key : AttemptId) (attempt : AttemptRecord) (index : Nat)
    (receipt : SignedRecord ExecutionReceipt) : AttemptRecoveryWork :=
  if index + 1 = attempt.receipts.length ∧ attempt.terminal = false ∧ receipt.payload.stage = .claimed then
    .resume attempt.grant receipt
  else
    .receipt attempt.grant receipt (pendingControl state attempt key receipt.payload.stage)

/-- All retained receipts in recovery order, with their ordinals and the work they ask for. -/
def recoveryCandidates (state : ExecutorState) :
    List (AttemptId × SignedRecord ExecutionReceipt × Nat × AttemptRecoveryWork) :=
  state.attempts.entries.flatMap fun (key, attempt) =>
    (attempt.receipts.zip attempt.receiptRecoveryOrdinals).zipIdx.map fun ((receipt, ordinal), index) =>
      (key, receipt, ordinal, recoveryWork state key attempt index receipt)

def takeNextReceiptRecovery : Action (Option AttemptRecoveryWork) := do
  ensureOperational
  let executor ← get
  let sweep := executor.recoverySweep
  if sweep.active = false ∨ sweep.receiptsRemaining = 0 then
    return none
  else
    let next := (recoveryCandidates executor.state).find? fun (key, receipt, ordinal, _) =>
      decide (ordinal ≤ sweep.receiptHighWaterOrdinal) &&
        sweep.receiptAfter.all fun (afterKey, afterSequence) =>
          decide (afterKey < key ∨ (afterKey = key ∧ afterSequence < receipt.payload.sequence))
    match next with
    | none =>
      set { executor with recoverySweep := { sweep with receiptsRemaining := 0 } }
      return none
    | some (key, receipt, _, work) =>
      set { executor with
        recoverySweep := { sweep with
          receiptAfter := some (key, receipt.payload.sequence)
          receiptsRemaining := sweep.receiptsRemaining - 1 } }
      return some work

/-- Resume a claim that never crossed its Started gate. -/
def dispatchResume (host : Host) (home : Address) (grant : SignedRecord ExecutionGrant)
    (claimed : SignedRecord ExecutionReceipt) : Action (List Dispatch) := do
  match ← observe (claim host grant) with
  | .ok (.claimed receipts call target) => return receipts.map (.receipt home) ++ [.call target call]
  | .ok (.duplicate receipt) =>
    if claimed.payload.sequence < receipt.payload.sequence then
      return [.receipt home claimed, .receipt home receipt]
    else
      return [.receipt home receipt]
  | .ok (.terminal receipt) => return [.receipt home claimed, .receipt home receipt]
  | .error _ => return []

/-- Forward a queued control to its live target, when that is still possible. -/
def forwardControl (host : Host) (grant : SignedRecord ExecutionGrant)
    (request : SignedRecord ExecutionControl) : Action (List Dispatch) := do
  match ← observe (liveControlForwardTarget host grant) with
  | .error _ => return []
  | .ok target =>
    match ← observe (functionControl host grant request) with
    | .error _ => return []
    | .ok control => return [.control target control]

def dispatchAttemptRecovery (host : Host) (work : AttemptRecoveryWork) : Action (List Dispatch) := do
  match work with
  | .resume grant claimed =>
    match ← observe (recoveryHomeTarget host grant) with
    | .error _ => return []
    | .ok home => dispatchResume host home grant claimed
  | .receipt grant receipt control =>
    match ← observe (recoveryHomeTarget host grant) with
    | .error _ => return []
    | .ok home =>
      match control with
      | none => return [.receipt home receipt]
      | some control => return .receipt home receipt :: (← forwardControl host grant control)

/-- Drain the sweep until it is empty or the outcome is nearly full. Every round takes one of the
remaining receipts, so their number bounds the rounds. -/
def sweepLoop (host : Host) : (rounds : Nat) → (sent : List Dispatch) → Action (List Dispatch)
  | 0, sent => return sent
  | rounds + 1, sent => do
    let executor ← get
    if executor.recoverySweep.receiptsRemaining = 0 ∨ maxExecutorRecoveryDispatches - sent.length < 3 then
      return sent
    else
      match ← takeNextReceiptRecovery with
      | none => return sent
      | some work =>
        let more ← dispatchAttemptRecovery host work
        ensureOperational
        sweepLoop host rounds (sent ++ more)

def continueRecoverySweep (host : Host) : Action (List Dispatch) := do
  ensureOperational
  let executor ← get
  let sent ← sweepLoop host executor.recoverySweep.receiptsRemaining []
  let executor ← get
  let hasMore := decide (executor.recoverySweep.receiptsRemaining ≠ 0)
  set { executor with recoverySweep := { executor.recoverySweep with active := hasMore } }
  let poke := if hasMore then (executor.me.map Dispatch.poke).toList else []
  ensureOperational
  return sent ++ poke

/-- Start one finite sweep over the receipts retained now. -/
def recoveryDispatches (host : Host) : Action (List Dispatch) := do
  ensureOperational
  let executor ← get
  let remaining := (executor.state.attempts.values.map fun attempt => attempt.receipts.length).sum
  set { executor with
    recoverySweep := ⟨executor.state.nextReceiptRecoveryOrdinal, remaining, none, decide (remaining ≠ 0)⟩ }
  continueRecoverySweep host

def bind (host : Host) (me : Nat) : Action (List Dispatch) := do
  modify fun executor => { executor with
    me := some me
    config := { executor.config with executorCreature := toString me } }
  recoveryDispatches host

/-- A decoded message the executor acts on. -/
inductive Message where
  | register (request : SignedRecord DeploymentRegistration)
  | undeploy (request : SignedRecord UndeployRequest)
  | grant (grant : SignedRecord ExecutionGrant)
  | query (request : SignedRecord ExecutionQuery)
  | control (request : SignedRecord ExecutionControl)
  | result (result : FunctionResult)
  | progress (attempt : AttemptId) (sequence : Nat) (progress : ValueRef)
  | checkpoint (attempt : AttemptId) (sequence : Nat) (checkpoint : ValueRef)
  | controlResult (attempt : AttemptId) (control : ControlId) (disposition : ControlDisposition)
      (detail : Option String)
  | recoveryPoke

/-- A delivered message: its sender, and whether it came unforwarded from and to this creature. -/
structure Envelope where
  sender : Address
  receiver : Address
  hasOrigin : Bool
  message : Message

def grantOf (attempt : AttemptId) : Action (SignedRecord ExecutionGrant) := do
  ensureOperational
  let executor ← get
  let record ← orError ExecutorError.notFound (executor.state.attempts.get? attempt)
  return record.grant

/-- Record a stage reported by the pinned target, and report it to the Home. -/
def reportStage (host : Host) (sender : Address) (attempt : AttemptId) (stage : ExecutionStage) :
    Action (List Dispatch) := do
  let grant ← grantOf attempt
  let expected ← liveControlTarget host grant
  reject (sender ≠ expected)
    (ExecutorError.unauthorized "function result sender does not match the pinned target")
  let outcome ← recordStage host attempt stage none
  let home ← recoveryHomeTarget host grant
  return [.receipt home outcome.receipt]

def onResult (host : Host) (sender : Address) (result : FunctionResult) : Action (List Dispatch) := do
  ensureOperational
  ofInvalid (validate result)
  match result.outcome with
  | .ok value => reportStage host sender result.attempt (.succeeded value)
  | .error error => reportStage host sender result.attempt (.failed error false)

def onFunctionObservation (host : Host) (sender : Address) (attempt : AttemptId) (stage : ExecutionStage) :
    Action (List Dispatch) := do
  ensureOperational
  reportStage host sender attempt stage

def onControlResult (host : Host) (sender : Address) (attempt : AttemptId) (control : ControlId)
    (disposition : ControlDisposition) (detail : Option String) : Action (List Dispatch) := do
  ensureOperational
  let executor ← get
  if executor.state.controls.contains ⟨attempt, control⟩ = false then
    return []
  else
    reportStage host sender attempt (.controlAcknowledged control disposition detail)

def onGrant (host : Host) (grant : SignedRecord ExecutionGrant) : Action (List Dispatch) := do
  let outcome ← observe (claim host grant)
  let home ← recoveryHomeTarget host grant
  match outcome with
  | .ok (.claimed receipts call target) => return receipts.map (.receipt home) ++ [.call target call]
  | .ok (.duplicate receipt) => return [.receipt home receipt]
  | .ok (.terminal receipt) => return [.receipt home receipt]
  | .error error => return [.error home error]

def onQuery (host : Host) (request : SignedRecord ExecutionQuery) : Action (List Dispatch) := do
  let (receipt, target) ← query host request
  return [.receipt target receipt]

/-- A queued control goes to the Home as a receipt and, while it waits, to the target as a command. -/
def relayControl (host : Host) (grant : SignedRecord ExecutionGrant)
    (request : SignedRecord ExecutionControl) (outcome : RecordOutcome) : Action (List Dispatch) := do
  ensureOperational
  let executor ← get
  let record ← orError ExecutorError.notFound (executor.state.attempts.get? request.payload.attempt)
  if record.terminal then
    let home ← mapError ExecutorError.address (host.controlHomeTarget grant.payload request.payload)
    return [.receipt home outcome.receipt]
  else
    let home ← recoveryHomeTarget host grant
    match outcome.receipt.payload.stage with
    | .controlQueued _ => return .receipt home outcome.receipt :: (← forwardControl host grant request)
    | _ => return [.receipt home outcome.receipt]

def onControl (host : Host) (request : SignedRecord ExecutionControl) : Action (List Dispatch) := do
  ensureOperational
  match verifyExecutionControl request with
  | .error _ => return [.refused (.unauthorized "invalid control signature")]
  | .ok _ =>
    match ← observe (grantOf request.payload.attempt) with
    | .error error => return [.refused error]
    | .ok grant =>
      if grant.payload.owner ≠ request.payload.callerRequest.payload.handle.home ∨
          canonicalHash grant ≠ request.payload.grantHash then
        return [.refused
          (.unauthorized "control endorsement does not match the exact accepted attempt grant")]
      else
        match ← observe (recordControlQueued host request.payload.attempt request) with
        | .error error => return [.refused error]
        | .ok outcome => relayControl host grant request outcome

/-- The private continuation of a sweep is taken only from the executor itself. -/
def onRecoveryPoke (host : Host) (envelope : Envelope) : Action (List Dispatch) := do
  let executor ← get
  match executor.me with
  | none => return []
  | some me =>
    if envelope.hasOrigin = false ∧ envelope.sender = .creature me ∧ envelope.receiver = .creature me then
      continueRecoverySweep host
    else
      return []

/-- Answer one message; an error answers with nothing. -/
def respond (host : Host) (envelope : Envelope) : Action (List Dispatch) := do
  match envelope.message with
  | .recoveryPoke => onRecoveryPoke host envelope
  | message =>
    ensureOperational
    let outcome ← respondTo message
    ensureOperational
    return outcome
where
  respondTo : Message → Action (List Dispatch)
    | .register request => do
      match ← observe (register host request) with
      | .ok receipt => return [.registered receipt]
      | .error error => return [.refused error]
    | .undeploy request => do
      match ← observe (undeploy host request) with
      | .ok receipt => return [.undeployed receipt]
      | .error error => return [.refused error]
    | .grant grant => onGrant host grant
    | .query request => onQuery host request
    | .control request => onControl host request
    | .result result => onResult host envelope.sender result
    | .progress attempt sequence progress =>
      onFunctionObservation host envelope.sender attempt (.progress sequence progress)
    | .checkpoint attempt sequence checkpoint =>
      onFunctionObservation host envelope.sender attempt (.checkpoint sequence checkpoint)
    | .controlResult attempt control disposition detail =>
      onControlResult host envelope.sender attempt control disposition detail
    | .recoveryPoke => return []

/-- Run a handler: its dispatches, or none when it failed, and the process it leaves behind. -/
def handled (program : Action (List Dispatch)) (executor : FunctionExecutor) :
    List Dispatch × FunctionExecutor :=
  match program executor with
  | .ok dispatches executor => (dispatches, executor)
  | .error _ executor => ([], executor)

def handle (host : Host) (envelope : Envelope) (executor : FunctionExecutor) :
    List Dispatch × FunctionExecutor :=
  handled (respond host envelope) executor

end

end Gawd.Executor
