import Gawd.Wire.Job

/-!
Deployment contracts between a deployer and an executor, and the executor's dispatch of a cooperative
control into a creature.
-/

namespace Gawd.Wire

open Gawd.Logic

structure DeploymentRequest where
  requestedBy : HomeId
  function : FunctionSelector
  targetRealm : String
  targetNode : Option String
  evidence : List EvidenceRef
  requestedAtUnixMs : Option Nat
deriving DecidableEq

structure UndeployRequest where
  requestedBy : HomeId
  deployment : DeploymentId
  reason : Option String
deriving DecidableEq

instance : Validate UndeployRequest where
  validate request := do
    validate request.requestedBy
    validate request.deployment
    validateOptionalText "undeploy reason" (request.reason.map Text.plain) maxReasonBytes

/-- Executor-signed acknowledgement that a deployment tombstone is durable. -/
structure UndeployReceipt where
  deployment : DeploymentId
  executor : Text
  executorCreature : String
deriving DecidableEq

instance : Validate UndeployReceipt where
  validate receipt := do
    validate receipt.deployment
    validateEd25519PublicKey "undeploy.executor" receipt.executor
    validateCreatureId "undeploy.executor_creature" receipt.executorCreature

/-- The loaded identities a deployer asks an executor to register. -/
structure DeploymentRegistration where
  authorization : SignedRecord DeploymentRequest
  resolution : SignedRecord ResolutionReceipt
  deployment : DeploymentId
  function : FunctionId
  artifactHash : Text
  targetCreature : String
  evidence : List EvidenceRef
deriving DecidableEq

/-- What the identity of one loaded target instance is hashed from. -/
structure DeploymentIdentity where
  domain : String
  function : FunctionId
  artifactHash : Text
  realm : String
  node : String
  targetCreature : String
deriving DecidableEq

section

variable [Crypto]

instance : Validate DeploymentRequest where
  validate request := do
    validate request.requestedBy
    validate request.function
    validateText "target_realm" request.targetRealm maxIdBytes
    validateOptionalText "target_node" (request.targetNode.map Text.plain) maxIdBytes
    validateVec "deployment evidence" request.evidence maxEvidenceRefs
    ensureMessageBound request

instance : Validate DeploymentRegistration where
  validate registration := do
    let authorization := registration.authorization
    let resolution := registration.resolution
    validate authorization
    reject (authorization.schema ≠ .functionDeploy ∨ authorization.verify = false ∨
        authorization.signer ≠ authorization.payload.requestedBy.text)
      (.crypto "deployment registration authorization signature is invalid")
    validate resolution
    reject (resolution.schema ≠ .functionDeploy ∨ resolution.verify = false)
      (.crypto "deployment registration resolution signature is invalid")
    reject (authorization.payload.function ≠ resolution.payload.selector ∨
        resolution.payload.function ≠ registration.function ∨
        resolution.payload.artifactHash ≠ registration.artifactHash)
      (.invalid "deployment authorization, resolution, function, and artifact do not match")
    validate registration.deployment
    validate registration.function
    validateSha256 "artifact_hash" registration.artifactHash
    validateCreatureId "registration.target_creature" registration.targetCreature
    validateVec "registration evidence" registration.evidence maxEvidenceRefs

def verifyDeploymentRegistration (record : SignedRecord DeploymentRegistration) :
    Except ContractError Unit := do
  validate record
  reject (record.schema ≠ .functionDeploy ∨ record.verify = false)
    (.crypto "deployment registration request signature is invalid")

/-- Derive a deterministic identity for one exact loaded target instance. -/
def deriveDeploymentId (function : FunctionId) (artifactHash : Text) (realm node targetCreature : String) :
    Except ContractError DeploymentId := do
  validate function
  validateSha256 "artifact_hash" artifactHash
  validateText "realm" realm maxIdBytes
  validateText "node" node maxIdBytes
  validateText "target_creature" targetCreature maxIdBytes
  return ⟨canonicalHash (⟨"gawd.deployment.id.v1", function, artifactHash, realm, node, targetCreature⟩ :
    DeploymentIdentity)⟩

def verifyUndeployReceipt (record : SignedRecord UndeployReceipt) : Except ContractError Unit := do
  validate record
  let found := record.schema.name
  let expected := Schema.functionDeploy.name
  reject (record.schema ≠ .functionDeploy)
    (.invalid s!"undeploy receipt schema is `{found}`, expected `{expected}`")
  reject (record.verify = false) (.crypto "invalid undeploy receipt signature")
  reject (record.signer ≠ record.payload.executor)
    (.invalid "undeploy receipt signer does not match its executor identity")

/-- Stable-executor-signed current route for one cooperative control. -/
structure ExecutorControlDispatch where
  attempt : AttemptId
  grantHash : Text
  controlHash : Text
  deployment : DeploymentId
  executorCreature : String
  targetCreature : String
deriving DecidableEq

instance : Validate ExecutorControlDispatch where
  validate dispatch := do
    validate dispatch.attempt
    validateSha256 "executor control dispatch grant_hash" dispatch.grantHash
    validateSha256 "executor control dispatch control_hash" dispatch.controlHash
    validate dispatch.deployment
    validateCreatureId "executor control dispatch route" dispatch.executorCreature
    validateCreatureId "executor control dispatch target" dispatch.targetCreature

def verifyExecutorControlDispatch (record : SignedRecord ExecutorControlDispatch)
    (control : SignedRecord ExecutionControl) (grant : SignedRecord ExecutionGrant) :
    Except ContractError Unit := do
  validate record
  verifyExecutionControl control
  verifyExecutionGrant grant
  reject (record.schema ≠ .call ∨ record.verify = false)
    (.crypto "invalid executor control dispatch signature")
  reject (record.signer ≠ grant.payload.deployment.payload.executor ∨
      record.payload.attempt ≠ grant.payload.attempt ∨
      record.payload.attempt ≠ control.payload.attempt ∨
      record.payload.grantHash ≠ canonicalHash grant ∨
      control.payload.grantHash ≠ canonicalHash grant ∨
      record.payload.controlHash ≠ canonicalHash control ∨
      record.payload.deployment ≠ grant.payload.deployment.payload.deployment ∨
      record.payload.targetCreature ≠ grant.payload.deployment.payload.creature)
    (.invalid "executor control dispatch does not continue its exact grant and Home endorsement")

/-- Proof-bearing cooperative control delivered into a creature. -/
structure FunctionControl where
  attempt : AttemptId
  endorsement : SignedRecord ExecutionControl
  grant : SignedRecord ExecutionGrant
  executorDispatch : SignedRecord ExecutorControlDispatch
deriving DecidableEq

instance : Validate FunctionControl where
  validate control := do
    validate control.attempt
    verifyExecutionControl control.endorsement
    verifyExecutionGrant control.grant
    verifyExecutorControlDispatch control.executorDispatch control.endorsement control.grant
    reject (control.attempt ≠ control.endorsement.payload.attempt ∨
        control.attempt ≠ control.grant.payload.attempt)
      (.invalid "function control does not name its exact endorsed and granted attempt")
    ensureMessageBound control

end

/-! Concrete values on which runs can be evaluated: one Home, one executor and one deployment. -/

namespace Sample

/-- Every signature verifies and every digest is the same; nothing evaluated here turns on either. -/
@[reducible] def crypto : Crypto where
  sha256 _ := 0
  canonicalDigest _ := 0
  encodedLen _ := 0
  verify _ _ := true

attribute [local instance] crypto

def signature : Text := "signature"

def signed {α : Type} (schema : Schema) (signer : Text) (payload : α) : SignedRecord α :=
  ⟨schema, signer, payload, signature⟩

def signerOf (publicKey : Text) : AuthoritySigner := ⟨publicKey, fun _ => .ok signature⟩

def rootKey : Text := .key 1

def homeKey : Text := .key 2

def executorKey : Text := .key 3

def home : HomeId := ⟨rootKey⟩

def job : JobId := ⟨.sha256 0⟩

def authority : HomeAuthority :=
  .mk (signed .home rootKey ⟨home, rootKey, none⟩)
    (signed .home rootKey ⟨home, 1, homeKey, none, none, [.jobHome, .jobControl, .custody, .locate], []⟩)
    none

def function : FunctionId := ⟨.sha256 7, "main"⟩

def deployment : SignedRecord DeploymentReceipt :=
  signed .functionDeploy executorKey
    ⟨⟨.sha256 0⟩, function, .sha256 8, "realm", "node", executorKey, "5", "9", [], none⟩

def registration : SignedRecord DeploymentRegistration :=
  signed .functionDeploy (.key 4)
    ⟨signed .functionDeploy rootKey ⟨home, .id function, "realm", some "node", [], none⟩,
      signed .functionDeploy (.key 4) ⟨.id function, function, .sha256 8, none, []⟩,
      ⟨.sha256 0⟩, function, .sha256 8, "9", []⟩

def attempt (number : Nat) : AttemptId := ⟨home, job, number⟩

def value : ValueRef := .inline .null

/-- The grant of a numbered attempt of the Job. -/
def grant (number : Nat) (delivery : DeliveryMode) : SignedRecord ExecutionGrant :=
  signed .execute homeKey
    ⟨attempt number, .sha256 0, 1, 1, "realm", "node", "role:home", home, authority, function, deployment,
      value, delivery, number, none, none⟩

def receipt (number sequence : Nat) (stage : ExecutionStage) : SignedRecord ExecutionReceipt :=
  signed .execute executorKey ⟨attempt number, .sha256 0, executorKey, sequence, none, stage⟩

def control : ControlId := ⟨"steer"⟩

def controlRequest : SignedRecord JobControl :=
  signed .job rootKey ⟨⟨home, job⟩, 1, control, none, .steer value⟩

/-- The Home's endorsement of the control for the first attempt. -/
def executionControl : SignedRecord ExecutionControl :=
  signed .execute homeKey
    ⟨controlRequest,
      signed .job homeKey ⟨⟨home, job⟩, 1, authority, 5, none, .running, false,
        .controlRequested controlRequest (some (attempt 1)), none⟩,
      attempt 1, .sha256 0, 1, 1, 5, "realm", "node", "role:home", authority⟩

def executionQuery : SignedRecord ExecutionQuery :=
  signed .execute homeKey ⟨attempt 1, .sha256 0, 1, 1, "realm", "node", "role:home", authority, ⟨"query"⟩⟩

end Sample

end Gawd.Wire
