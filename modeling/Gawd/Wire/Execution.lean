import Gawd.Wire.Authority

/-!
Execution contracts: delivery modes, deployments, the grant of one attempt, the executor's stages and
the receipts it signs for them.
-/

namespace Gawd.Wire

open Gawd.Logic

inductive DeliveryMode where
  | atMostOnce
  | atLeastOnce (maxAttempts : Nat)
deriving DecidableEq

def DeliveryMode.maxAttempts : DeliveryMode → Nat
  | .atMostOnce => 1
  | .atLeastOnce maxAttempts => maxAttempts

instance : Validate DeliveryMode where
  validate delivery :=
    reject (delivery.maxAttempts = 0 ∨ maxJobAttempts < delivery.maxAttempts)
      (.invalid s!"delivery attempts must be in 1..={maxJobAttempts}")

/-- Exact live target of a deployment. -/
structure DeploymentReceipt where
  deployment : DeploymentId
  function : FunctionId
  artifactHash : Text
  realm : String
  node : String
  executor : Text
  executorCreature : String
  creature : String
  evidence : List EvidenceRef
  registeredAtUnixMs : Option Nat
deriving DecidableEq

instance : Validate DeploymentReceipt where
  validate receipt := do
    validate receipt.deployment
    validate receipt.function
    validateSha256 "artifact_hash" receipt.artifactHash
    validateText "deployment.realm" receipt.realm maxIdBytes
    validateText "deployment.node" receipt.node maxIdBytes
    validateEd25519PublicKey "deployment.executor" receipt.executor
    validateCreatureId "deployment.executor_creature" receipt.executorCreature
    validateCreatureId "deployment.creature" receipt.creature
    validateVec "deployment evidence" receipt.evidence maxEvidenceRefs

section

variable [Crypto]

/-- Verify that a deployment receipt was signed by the executor it binds. -/
def verifyDeploymentReceipt (record : SignedRecord DeploymentReceipt) : Except ContractError Unit := do
  validate record
  let found := record.schema.name
  let expected := Schema.functionDeploy.name
  reject (record.schema ≠ .functionDeploy)
    (.invalid s!"deployment receipt schema is `{found}`, expected `{expected}`")
  reject (record.verify = false) (.crypto "invalid deployment receipt signature")
  reject (record.signer ≠ record.payload.executor)
    (.invalid "deployment receipt signer does not match its executor identity")

/-- A record of a moved Home names the location its custody proof fixes. -/
def requireCustodyLocation (noun : String) (epoch : Nat) (authority : HomeAuthority)
    (realm node : String) : Except ContractError Unit :=
  if 1 < epoch then do
    let prepared ← orError (.invalid s!"moved {noun} authority omits its Prepared proof") authority.prepared
    let custody := prepared.payload.grant.payload
    reject (realm ≠ custody.destinationRealm ∨ node ≠ custody.destinationNode)
      (.invalid s!"{noun} location does not match its custody proof")
  else
    .ok ()

/-- Durable execution permission for one numbered attempt. -/
structure ExecutionGrant where
  attempt : AttemptId
  requestHash : Text
  homeEpoch : Nat
  homeRouteSequence : Nat
  homeRealm : String
  homeNode : String
  homeCoordinator : String
  owner : HomeId
  authority : HomeAuthority
  function : FunctionId
  deployment : SignedRecord DeploymentReceipt
  input : ValueRef
  delivery : DeliveryMode
  grantSequence : Nat
  issuedAtUnixMs : Option Nat
  deadlineUnixMs : Option Nat
deriving DecidableEq

instance : Validate ExecutionGrant where
  validate grant := do
    validate grant.attempt
    validateSha256 "execution grant request_hash" grant.requestHash
    reject (grant.homeEpoch = 0 ∨ grant.homeRouteSequence = 0 ∨ grant.grantSequence = 0)
      (.invalid "home epoch, route sequence, and grant sequence must be non-zero")
    validateText "home_realm" grant.homeRealm maxIdBytes
    validateText "home_node" grant.homeNode maxIdBytes
    validateText "home_coordinator" grant.homeCoordinator maxIdBytes
    validate grant.owner
    reject (grant.attempt.home ≠ grant.owner)
      (.invalid "execution attempt does not belong to the granting Home")
    grant.authority.verify grant.owner grant.homeEpoch .jobHome
    requireCustodyLocation "execution grant" grant.homeEpoch grant.authority grant.homeRealm
      grant.homeNode
    validate grant.function
    verifyDeploymentReceipt grant.deployment
    reject (grant.deployment.payload.function ≠ grant.function)
      (.invalid "deployment receipt does not pin the granted function")
    validate grant.input
    validate grant.delivery
    match grant.issuedAtUnixMs, grant.deadlineUnixMs with
    | some issued, some deadline =>
      reject (deadline ≤ issued) (.invalid "execution deadline must be later than issue time")
    | _, _ => pure ()
    ensureMessageBound grant

/-- Verify an execution grant and prove its signer is the root-authorized Home epoch key. -/
def verifyExecutionGrant (record : SignedRecord ExecutionGrant) : Except ContractError Unit := do
  validate record
  reject (record.schema ≠ .execute ∨ record.verify = false) (.crypto "invalid execution grant signature")
  reject (record.signer ≠ record.payload.authority.operationalKey)
    (.invalid "execution grant signer is not the authorized epoch operational key")

/-- Current-Home-authorized reconciliation request for one exact durable attempt. -/
structure ExecutionQuery where
  attempt : AttemptId
  grantHash : Text
  homeEpoch : Nat
  homeRouteSequence : Nat
  homeRealm : String
  homeNode : String
  homeCoordinator : String
  authority : HomeAuthority
  query : ControlId
deriving DecidableEq

instance : Validate ExecutionQuery where
  validate query := do
    validate query.attempt
    validateSha256 "execution query grant_hash" query.grantHash
    reject (query.homeEpoch = 0 ∨ query.homeRouteSequence = 0)
      (.invalid "execution query Home epoch and route sequence must be non-zero")
    validateText "query home_realm" query.homeRealm maxIdBytes
    validateText "query home_node" query.homeNode maxIdBytes
    validateText "query home_coordinator" query.homeCoordinator maxIdBytes
    query.authority.verify query.attempt.home query.homeEpoch .jobHome
    requireCustodyLocation "execution query" query.homeEpoch query.authority query.homeRealm
      query.homeNode
    validate query.query
    ensureMessageBound query

def verifyExecutionQuery (record : SignedRecord ExecutionQuery) : Except ContractError Unit := do
  validate record
  reject (record.schema ≠ .execute ∨ record.verify = false) (.crypto "invalid execution query signature")
  reject (record.signer ≠ record.payload.authority.operationalKey)
    (.invalid "execution query signer is not the active root-authorized Home key")

inductive ControlDisposition where
  | applied
  | rejected
  | unsupported
  | tooLate
deriving DecidableEq

inductive ExecutionStage where
  | claimed
  | started
  | progress (sequence : Nat) (progress : ValueRef)
  | checkpoint (sequence : Nat) (checkpoint : ValueRef)
  | succeeded (result : ValueRef)
  | failed (error : ValueRef) (retryable : Bool)
  | indeterminate (reason : String) (executionMayHaveOccurred : Bool)
  | cancelled (reason : String)
  | controlQueued (control : ControlId)
  | controlAcknowledged (control : ControlId) (disposition : ControlDisposition) (detail : Option String)
deriving DecidableEq

instance : Validate ExecutionStage where
  validate
    | .claimed => .ok ()
    | .started => .ok ()
    | .progress sequence progress => do
      reject (sequence = 0) (.invalid "progress sequence must be non-zero")
      progress.validateWithLimit maxProgressBytes
    | .checkpoint sequence checkpoint => do
      reject (sequence = 0) (.invalid "checkpoint sequence must be non-zero")
      validate checkpoint
    | .succeeded result => validate result
    | .failed error _ => error.validateWithLimit maxErrorBytes
    | .indeterminate reason _ => validateText "indeterminate reason" reason maxReasonBytes
    | .cancelled reason => validateText "cancel reason" reason maxReasonBytes
    | .controlQueued control => validate control
    | .controlAcknowledged control _ detail => do
      validate control
      validateOptionalText "control detail" (detail.map Text.plain) maxReasonBytes

/-- One fact about an attempt, in the executor's own numbering. -/
structure ExecutionReceipt where
  attempt : AttemptId
  grantHash : Text
  executor : Text
  sequence : Nat
  observedAtUnixMs : Option Nat
  stage : ExecutionStage
deriving DecidableEq

instance : Validate ExecutionReceipt where
  validate receipt := do
    validate receipt.attempt
    validateSha256 "execution receipt grant_hash" receipt.grantHash
    validateEd25519PublicKey "executor" receipt.executor
    reject (receipt.sequence = 0) (.invalid "execution receipt sequence must be non-zero")
    validate receipt.stage
    ensureMessageBound receipt

/-- Verify an execution fact against the exact accepted, Home-signed attempt grant. -/
def verifyExecutionReceipt (record : SignedRecord ExecutionReceipt) (grant : SignedRecord ExecutionGrant) :
    Except ContractError Unit := do
  verifyExecutionGrant grant
  validate record
  let found := record.schema.name
  let expected := Schema.execute.name
  reject (record.schema ≠ .execute)
    (.invalid s!"execution receipt schema is `{found}`, expected `{expected}`")
  reject (record.verify = false) (.crypto "invalid execution receipt signature")
  reject (record.payload.attempt ≠ grant.payload.attempt ∨ record.payload.grantHash ≠ canonicalHash grant)
    (.invalid "execution receipt does not continue the exact signed grant")
  reject (record.signer ≠ grant.payload.deployment.payload.executor ∨
      record.payload.executor ≠ grant.payload.deployment.payload.executor)
    (.invalid "execution receipt signer does not match the pinned executor")

theorem attempt_of_verified {receipt : SignedRecord ExecutionReceipt} {grant : SignedRecord ExecutionGrant}
    (verified : verifyExecutionReceipt receipt grant = .ok ()) : receipt.payload.attempt = grant.payload.attempt := by
  simp only [verifyExecutionReceipt, bind_eq_ok, reject_eq_ok, not_or, not_not] at verified
  obtain ⟨_, _, _, _, _, _, _, _, _, ⟨named, _⟩, _⟩ := verified
  exact named

/-- Stable-executor-signed proof of the executor's current process-local dispatch route. -/
structure ExecutorDispatch where
  attempt : AttemptId
  grantHash : Text
  deployment : DeploymentId
  executorCreature : String
  targetCreature : String
deriving DecidableEq

instance : Validate ExecutorDispatch where
  validate dispatch := do
    validate dispatch.attempt
    validateSha256 "executor dispatch grant_hash" dispatch.grantHash
    validate dispatch.deployment
    validateCreatureId "executor dispatch route" dispatch.executorCreature
    validateCreatureId "executor dispatch target" dispatch.targetCreature

def verifyExecutorDispatch (record : SignedRecord ExecutorDispatch) (grant : SignedRecord ExecutionGrant) :
    Except ContractError Unit := do
  validate record
  verifyExecutionGrant grant
  reject (record.schema ≠ .call ∨ record.verify = false) (.crypto "invalid executor dispatch signature")
  reject (record.signer ≠ grant.payload.deployment.payload.executor ∨
      record.payload.attempt ≠ grant.payload.attempt ∨ record.payload.grantHash ≠ canonicalHash grant ∨
      record.payload.deployment ≠ grant.payload.deployment.payload.deployment ∨
      record.payload.targetCreature ≠ grant.payload.deployment.payload.creature)
    (.invalid "executor dispatch does not continue its exact deployment grant")

/-- The typed call an executor proxies into a creature. -/
structure FunctionCall where
  attempt : AttemptId
  function : FunctionId
  input : ValueRef
  grant : SignedRecord ExecutionGrant
  executorDispatch : SignedRecord ExecutorDispatch
deriving DecidableEq

instance : Validate FunctionCall where
  validate call := do
    validate call.attempt
    validate call.function
    validate call.input
    verifyExecutionGrant call.grant
    verifyExecutorDispatch call.executorDispatch call.grant
    reject (call.attempt ≠ call.grant.payload.attempt ∨ call.function ≠ call.grant.payload.function ∨
        call.input ≠ call.grant.payload.input)
      (.invalid "function call does not exactly continue its signed execution grant")
    ensureMessageBound call

/-- What a creature reports for its call. -/
structure FunctionResult where
  attempt : AttemptId
  outcome : Except ValueRef ValueRef

instance : Validate FunctionResult where
  validate result := do
    validate result.attempt
    match result.outcome with
    | .ok value => validate value
    | .error error => error.validateWithLimit maxErrorBytes
    ensureMessageBound result

end

end Gawd.Wire
