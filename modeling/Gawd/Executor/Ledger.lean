import Gawd.Executor.State

/-!
The executor's ledger: which records are well formed, and how each one changes the state. Live
operations and replay go through the same two functions.
-/

namespace Gawd.Executor

open Gawd.Logic Gawd.Wire Gawd.Journal

def ofInvalid {α : Type} : Except ContractError α → Except ExecutorError α :=
  mapError fun error => .invalid error.display

def ofUnauthorized {α : Type} : Except ContractError α → Except ExecutorError α :=
  mapError fun error => .unauthorized error.display

/-- A member of a JSON object. -/
def jsonMember (key : String) : Json → Option Json
  | .object members => (members.find? fun member => member.1 = key).map Prod.snd
  | _ => none

/-- A failure that says the call was never made because its target was not there. -/
def isLivenessRefusal : ExecutionStage → Bool
  | .failed (.inline value) true =>
    jsonMember "execution_may_have_occurred" value = some (.bool false) ∧
      (jsonMember "kind" value = some (.string "deployment_target_unavailable") ∨
        jsonMember "kind" value = some (.string "deployment_liveness_unavailable"))
  | _ => false

section

variable [Crypto]

def validateReceipt (config : ExecutorConfig) (journalSigner : Text)
    (receipt : SignedRecord ExecutionReceipt) : Except ExecutorError Unit := do
  ofInvalid (validate receipt)
  reject (receipt.schema ≠ .execute ∨ receipt.signer ≠ journalSigner ∨
      receipt.payload.executor ≠ config.executor ∨ receipt.verify = false)
    (.unauthorized "persisted receipt signature is invalid")

def validateRecord (config : ExecutorConfig) (journalSigner : Text) :
    ExecutorLedgerRecord → Except ExecutorError Unit
  | .register request receipt => do
    ofUnauthorized (verifyDeploymentRegistration request)
    reject (request.payload.authorization.payload.targetRealm ≠ config.realm ∨
        request.payload.authorization.payload.targetNode ≠ some config.node)
      (.unauthorized "persisted registration authorization targets another Realm/node")
    let expected ← ofInvalid (deriveDeploymentId request.payload.function request.payload.artifactHash
      config.realm config.node request.payload.targetCreature)
    reject (request.payload.deployment ≠ expected)
      (.invalid "persisted DeploymentId is not derived from its exact binding")
    ofUnauthorized (verifyDeploymentReceipt receipt)
    reject (receipt.signer ≠ journalSigner ∨ receipt.payload.executor ≠ config.executor ∨
        receipt.payload.realm ≠ config.realm ∨ receipt.payload.node ≠ config.node ∨
        receipt.payload.deployment ≠ request.payload.deployment ∨
        receipt.payload.function ≠ request.payload.function ∨
        receipt.payload.artifactHash ≠ request.payload.artifactHash ∨
        receipt.payload.creature ≠ request.payload.targetCreature ∨
        positiveCreatureId receipt.payload.executorCreature = false ∨
        positiveCreatureId receipt.payload.creature = false)
      (.conflict "deployment receipt does not match registration/executor")
  | .undeploy request deployment => do
    ofInvalid (validate request)
    reject (request.schema ≠ .functionDeploy ∨ request.verify = false ∨
        request.signer ≠ request.payload.requestedBy.text ∨ request.payload.deployment ≠ deployment)
      (.unauthorized "persisted undeploy authorization is invalid")
  | .claim grant receipt => do
    ofUnauthorized (verifyExecutionGrant grant)
    reject (grant.payload.deployment.payload.executor ≠ config.executor)
      (.invalid "persisted grant targets another executor")
    validateReceipt config journalSigner receipt
    ofUnauthorized (verifyExecutionReceipt receipt grant)
    reject (receipt.payload.attempt ≠ grant.payload.attempt ∨ receipt.payload.sequence ≠ 1 ∨
        receipt.payload.stage ≠ .claimed)
      (.conflict "claim receipt does not match grant")
  | .refuse grant receipt => do
    ofUnauthorized (verifyExecutionGrant grant)
    reject (grant.payload.deployment.payload.executor ≠ config.executor)
      (.invalid "persisted refusal grant targets another executor")
    validateReceipt config journalSigner receipt
    ofUnauthorized (verifyExecutionReceipt receipt grant)
    reject (receipt.payload.attempt ≠ grant.payload.attempt ∨ receipt.payload.sequence ≠ 1 ∨
        isLivenessRefusal receipt.payload.stage = false)
      (.conflict "pre-execution refusal receipt does not match grant")
  | .control request receipt => do
    ofUnauthorized (verifyExecutionControl request)
    validateReceipt config journalSigner receipt
    reject (receipt.payload.stage ≠ .controlQueued request.payload.callerRequest.payload.control ∨
        receipt.payload.attempt ≠ request.payload.attempt)
      (.conflict "control queued receipt does not match the signed request/attempt")
  | .homeFence query => ofUnauthorized (verifyExecutionQuery query)
  | .receipt receipt => validateReceipt config journalSigner receipt

/-- The fence a Home-signed message carries. -/
def grantFence (grant : SignedRecord ExecutionGrant) : HomeFence :=
  ⟨grant.payload.homeEpoch, grant.payload.homeRouteSequence, grant.signer,
    canonicalHash grant.payload.authority, grant.payload.homeRealm, grant.payload.homeNode,
    grant.payload.homeCoordinator⟩

def controlFence (control : SignedRecord ExecutionControl) : HomeFence :=
  ⟨control.payload.homeEpoch, control.payload.homeRouteSequence, control.signer,
    canonicalHash control.payload.authority, control.payload.homeRealm, control.payload.homeNode,
    control.payload.homeCoordinator⟩

def queryFence (query : SignedRecord ExecutionQuery) : HomeFence :=
  ⟨query.payload.homeEpoch, query.payload.homeRouteSequence, query.signer,
    canonicalHash query.payload.authority, query.payload.homeRealm, query.payload.homeNode,
    query.payload.homeCoordinator⟩

end

/-- A message must not come from behind the fence, nor disagree with it at the same revision. -/
def validateFence (state : ExecutorState) (home : HomeId) (noun routeNoun : String) (next : HomeFence) :
    Except ExecutorError Unit :=
  match state.homeFences.get? home with
  | none => .ok ()
  | some fence => do
    let epoch := next.epoch
    let fenceEpoch := fence.epoch
    reject (next.epoch < fence.epoch)
      (.unauthorized s!"stale {noun} epoch {epoch} is fenced by epoch {fenceEpoch}")
    reject (next.epoch = fence.epoch ∧
        (next.operationalSigner ≠ fence.operationalSigner ∨ next.authorityHash ≠ fence.authorityHash))
      (.unauthorized s!"same {noun} epoch presented divergent operational authority")
    reject (next.epoch = fence.epoch ∧
        (next.routeSequence < fence.routeSequence ∨
          (next.routeSequence = fence.routeSequence ∧
            (next.homeRealm ≠ fence.homeRealm ∨ next.homeNode ≠ fence.homeNode ∨
              next.homeCoordinator ≠ fence.homeCoordinator))))
      (.unauthorized s!"stale or divergent same-revision {routeNoun} return route")

/-- The held fence is at least as new as `next`. -/
def HomeFence.covers (fence next : HomeFence) : Bool :=
  next.epoch < fence.epoch ∨ (fence.epoch = next.epoch ∧ next.routeSequence ≤ fence.routeSequence)

def advanceFence (home : HomeId) (noun routeNoun : String) (next : HomeFence) : Ledger Unit := do
  let state ← get
  validateFence state home noun routeNoun next
  match state.homeFences.get? home with
  | some fence =>
    if fence.covers next then pure ()
    else set { state with homeFences := state.homeFences.insert home next }
  | none => set { state with homeFences := state.homeFences.insert home next }

section

variable [Crypto]

def validateHomeFence (state : ExecutorState) (grant : SignedRecord ExecutionGrant) :
    Except ExecutorError Unit :=
  validateFence state grant.payload.owner "Home" "Home" (grantFence grant)

def advanceHomeFence (grant : SignedRecord ExecutionGrant) : Ledger Unit :=
  advanceFence grant.payload.owner "Home" "Home" (grantFence grant)

def validateControlFence (state : ExecutorState) (control : SignedRecord ExecutionControl) :
    Except ExecutorError Unit :=
  validateFence state control.payload.attempt.home "control Home" "control" (controlFence control)

def advanceControlFence (control : SignedRecord ExecutionControl) : Ledger Unit :=
  advanceFence control.payload.attempt.home "control Home" "control" (controlFence control)

def validateQueryFence (state : ExecutorState) (query : SignedRecord ExecutionQuery) :
    Except ExecutorError Unit :=
  validateFence state query.payload.attempt.home "query Home" "query" (queryFence query)

def advanceQueryFence (query : SignedRecord ExecutionQuery) : Ledger Unit :=
  advanceFence query.payload.attempt.home "query Home" "query" (queryFence query)

def applyRegister (receipt : SignedRecord DeploymentReceipt) : Ledger Unit := do
  let state ← get
  let id := receipt.payload.deployment
  reject (id ∈ state.deploymentTombstones) (ExecutorError.conflict "registration follows tombstone")
  set { state with deployments := state.deployments.insert id receipt }
  match state.deployments.get? id with
  | some existing =>
    reject (sameDeploymentBinding existing.payload receipt.payload = false)
      (ExecutorError.conflict "conflicting persisted deployment registration")
  | none => pure ()

def applyUndeploy (deployment : DeploymentId) : Ledger Unit := do
  let state ← get
  reject (state.deployments.contains deployment = false ∧ deployment ∉ state.deploymentTombstones)
    (ExecutorError.conflict "undeploy precedes registration")
  set { state with
    deployments := state.deployments.erase deployment
    deploymentTombstones :=
      if deployment ∈ state.deploymentTombstones then state.deploymentTombstones
      else deployment :: state.deploymentTombstones }

/-- The record of an attempt that has just been claimed or refused. -/
def AttemptRecord.first (grant : SignedRecord ExecutionGrant) (receipt : SignedRecord ExecutionReceipt)
    (ordinal : Nat) : AttemptRecord where
  grant := grant
  grantHash := canonicalHash grant
  receipts := [receipt]
  receiptRecoveryOrdinals := [ordinal]
  observationCount := if isObservation receipt.payload.stage then 1 else 0
  highestProgressSequence := progressSequence receipt.payload.stage
  highestCheckpointSequence := checkpointSequence receipt.payload.stage
  progressReceipts :=
    match receipt.payload.stage with
    | .progress sequence _ => SortedMap.insert ∅ sequence 0
    | _ => ∅
  checkpointReceipts :=
    match receipt.payload.stage with
    | .checkpoint sequence _ => SortedMap.insert ∅ sequence 0
    | _ => ∅
  controlCount := 0
  terminal := stageTerminal receipt.payload.stage

def nextRecoveryOrdinal : Ledger Nat := do
  let state ← get
  let ordinal ← checkedIncrement state.nextReceiptRecoveryOrdinal
  set { state with nextReceiptRecoveryOrdinal := ordinal }
  return ordinal

/-- An attempt that is still open reserves a slot for its terminal receipt. -/
def reserveAttempt (terminal : Bool) : Ledger Unit := do
  if terminal = false then
    let state ← get
    let count ← checkedIncrement state.nonterminalAttempts
    set { state with nonterminalAttempts := count }

def applyClaim (grant : SignedRecord ExecutionGrant) (receipt : SignedRecord ExecutionReceipt) :
    Ledger Unit := do
  let state ← get
  let registered ← orError (ExecutorError.unauthorized "claim precedes deployment registration")
    (state.deployments.get? grant.payload.deployment.payload.deployment)
  reject (canonicalHash registered ≠ canonicalHash grant.payload.deployment)
    (ExecutorError.conflict "claim deployment differs from registry")
  match state.attempts.get? grant.payload.attempt with
  | some existing =>
    reject (existing.grantHash ≠ canonicalHash grant) (ExecutorError.conflict "two grants for one AttemptId")
  | none => do
    advanceHomeFence grant
    let ordinal ← nextRecoveryOrdinal
    reserveAttempt (stageTerminal receipt.payload.stage)
    modify fun state => { state with
      attempts := state.attempts.insert grant.payload.attempt (.first grant receipt ordinal) }

/-- Change the record of one attempt, or fail when there is none. -/
def modifyAttempt (attempt : AttemptId) (error : ExecutorError) (change : AttemptRecord → AttemptRecord) :
    Ledger Unit := do
  let state ← get
  let record ← orError error (state.attempts.get? attempt)
  set { state with attempts := state.attempts.insert attempt (change record) }

/-- Change the record of one control, or fail when there is none. -/
def modifyControl (key : ControlKey) (error : ExecutorError) (change : ControlRecord → ControlRecord) :
    Ledger Unit := do
  let state ← get
  let record ← orError error (state.controls.get? key)
  set { state with controls := state.controls.insert key (change record) }

/-- A control re-endorsed by a newer Home keeps its queued receipt and takes the new return route. -/
def applyReendorsement (request : SignedRecord ExecutionControl) (receipt : SignedRecord ExecutionReceipt)
    (key : ControlKey) (existing : ControlRecord) : Ledger Unit := do
  if existing.requestHash = canonicalHash request then
    return
  reject (sameControlIntent existing.request request = false)
    (ExecutorError.conflict "persisted ControlId has divergent signed requests")
  reject (existing.queued ≠ receipt)
    (ExecutorError.conflict "re-endorsed control changed its original queued receipt")
  advanceControlFence request
  modifyControl key (.conflict "control disappeared during current endorsement update") fun record =>
    { record with requestHash := canonicalHash request, request := request }

/-- A newly queued control reserves a slot for its acknowledgment. -/
def queueControl (key : ControlKey) (control : ControlRecord) : Ledger Unit := do
  let state ← get
  let count ← checkedIncrement state.unacknowledgedControls
  set { state with
    unacknowledgedControls := count
    controls := state.controls.insert key control }

/-- The bookkeeping after a queued receipt has joined its attempt. -/
def settleControl (key : ControlKey) (control : ControlRecord) : Ledger Unit := do
  let ordinal ← nextRecoveryOrdinal
  modifyAttempt control.queued.payload.attempt
    (.conflict "control attempt disappeared while recording recovery order") fun record =>
      { record with receiptRecoveryOrdinals := record.receiptRecoveryOrdinals ++ [ordinal] }
  queueControl key control

def applyQueuedControl (request : SignedRecord ExecutionControl) (receipt : SignedRecord ExecutionReceipt)
    (key : ControlKey) : Ledger Unit := do
  let state ← get
  let attempt ← orError ExecutorError.notFound (state.attempts.get? receipt.payload.attempt)
  ofUnauthorized (verifyExecutionReceipt receipt attempt.grant)
  reject (attempt.grantHash ≠ request.payload.grantHash ∨
      attempt.grant.payload.owner ≠ request.payload.callerRequest.payload.handle.home ∨
      request.payload.attempt ≠ receipt.payload.attempt)
    (ExecutorError.unauthorized "persisted control does not match the exact accepted attempt grant")
  reject (receipt.payload.sequence ≠ attempt.receipts.length + 1 ∨ attempt.terminal)
    (ExecutorError.conflict "persisted control receipt is out of sequence or terminal")
  reject (maxJobControls ≤ attempt.controlCount) ExecutorError.capacity
  advanceControlFence request
  modifyAttempt receipt.payload.attempt
    (.conflict "attempt disappeared during control fence advancement") fun record =>
      { record with receipts := record.receipts ++ [receipt], controlCount := record.controlCount + 1 }
  settleControl key ⟨canonicalHash request, request, receipt, none⟩

def applyControl (request : SignedRecord ExecutionControl) (receipt : SignedRecord ExecutionReceipt) :
    Ledger Unit := do
  let state ← get
  let key : ControlKey := ⟨receipt.payload.attempt, request.payload.callerRequest.payload.control⟩
  validateControlFence state request
  match state.controls.get? key with
  | some existing => applyReendorsement request receipt key existing
  | none => applyQueuedControl request receipt key

def applyHomeFence (query : SignedRecord ExecutionQuery) : Ledger Unit := do
  let state ← get
  let attempt ← orError ExecutorError.notFound (state.attempts.get? query.payload.attempt)
  reject (attempt.grantHash ≠ query.payload.grantHash ∨
      attempt.grant.payload.owner ≠ query.payload.attempt.home)
    (ExecutorError.unauthorized "persisted query fence does not name its exact accepted grant")
  advanceQueryFence query

/-- What a receipt must satisfy to be the next one of its attempt. -/
def AttemptRecord.admits (record : AttemptRecord) (receipt : SignedRecord ExecutionReceipt) :
    Except ExecutorError Unit := do
  ofUnauthorized (verifyExecutionReceipt receipt record.grant)
  let sequence := receipt.payload.sequence
  let count := record.receipts.length
  reject (sequence ≠ count + 1) (.conflict s!"receipt sequence {sequence} is not next after {count}")
  reject (record.terminal ∧ isControlAcknowledged receipt.payload.stage = false) .terminal
  reject (isObservation receipt.payload.stage ∧ maxAttemptObservations ≤ record.observationCount) .capacity
  match receipt.payload.stage with
  | .progress sequence _ =>
    reject (sequence ≤ record.highestProgressSequence)
      (.conflict "persisted progress sequence is not monotonic")
  | .checkpoint sequence _ =>
    reject (sequence ≤ record.highestCheckpointSequence)
      (.conflict "persisted checkpoint sequence is not monotonic")
  | _ => pure ()

/-- Append the next receipt to the record of its attempt. -/
def AttemptRecord.push (record : AttemptRecord) (receipt : SignedRecord ExecutionReceipt) :
    AttemptRecord :=
  let observed :=
    match receipt.payload.stage with
    | .progress sequence _ =>
      { record with
        highestProgressSequence := sequence
        progressReceipts := record.progressReceipts.insert sequence record.receipts.length
        observationCount := record.observationCount + 1 }
    | .checkpoint sequence _ =>
      { record with
        highestCheckpointSequence := sequence
        checkpointReceipts := record.checkpointReceipts.insert sequence record.receipts.length
        observationCount := record.observationCount + 1 }
    | _ => record
  { observed with
    terminal := record.terminal || stageTerminal receipt.payload.stage
    receipts := record.receipts ++ [receipt] }

/-- The control a receipt acknowledges. -/
def acknowledgedControl (receipt : SignedRecord ExecutionReceipt) : Option ControlKey :=
  match receipt.payload.stage with
  | .controlAcknowledged control _ _ => some ⟨receipt.payload.attempt, control⟩
  | _ => none

/-- The acknowledged control is known and still waits for its acknowledgment. -/
def isPendingControl (state : ExecutorState) (key : Option ControlKey) : Bool :=
  match key.bind state.controls.get? with
  | some control => control.acknowledged.isNone
  | none => false

def releaseAttemptReservation (becameTerminal : Bool) : Ledger Unit := do
  if becameTerminal then
    let state ← get
    let count ← checkedDecrement state.nonterminalAttempts "nonterminal reservation underflow"
    set { state with nonterminalAttempts := count }

def releaseControlReservation (pending : Bool) : Ledger Unit := do
  if pending then
    let state ← get
    let count ← checkedDecrement state.unacknowledgedControls "control reservation underflow"
    set { state with unacknowledgedControls := count }

def acknowledgeControl (receipt : SignedRecord ExecutionReceipt) : Ledger Unit :=
  match acknowledgedControl receipt with
  | some key =>
    modifyControl key (.conflict "control disappeared while applying its acknowledgment") fun control =>
      { control with acknowledged := some receipt }
  | none => pure ()

/-- The bookkeeping after a receipt has joined its attempt. -/
def settleReceipt (receipt : SignedRecord ExecutionReceipt) (becameTerminal pending : Bool) :
    Ledger Unit := do
  let ordinal ← nextRecoveryOrdinal
  modifyAttempt receipt.payload.attempt
    (.conflict "receipt attempt disappeared while recording recovery order") fun record =>
      { record with receiptRecoveryOrdinals := record.receiptRecoveryOrdinals ++ [ordinal] }
  releaseAttemptReservation becameTerminal
  releaseControlReservation pending
  acknowledgeControl receipt

def applyReceipt (receipt : SignedRecord ExecutionReceipt) : Ledger Unit := do
  let state ← get
  let acknowledged := acknowledgedControl receipt
  reject (acknowledged.any fun key => state.controls.contains key = false)
    (ExecutorError.conflict "control acknowledgment precedes durable forwarding")
  let record ← orError ExecutorError.notFound (state.attempts.get? receipt.payload.attempt)
  record.admits receipt
  set { state with attempts := state.attempts.insert receipt.payload.attempt (record.push receipt) }
  settleReceipt receipt (!record.terminal && stageTerminal receipt.payload.stage)
    (isPendingControl state acknowledged)

def applyRecord (config : ExecutorConfig) (journalSigner : Text) (record : ExecutorLedgerRecord) :
    Ledger Unit := do
  validateRecord config journalSigner record
  match record with
  | .register _ receipt => applyRegister receipt
  | .undeploy _ deployment => applyUndeploy deployment
  | .claim grant receipt => applyClaim grant receipt
  | .refuse grant receipt => applyClaim grant receipt
  | .control request receipt => applyControl request receipt
  | .homeFence query => applyHomeFence query
  | .receipt receipt => applyReceipt receipt

/-- Fold a recovered ledger into a state. -/
def replay (config : ExecutorConfig) (journalSigner : Text) : List ExecutorLedgerRecord → Ledger Unit
  | [] => pure ()
  | record :: rest => do
    applyRecord config journalSigner record
    replay config journalSigner rest

end

end Gawd.Executor
