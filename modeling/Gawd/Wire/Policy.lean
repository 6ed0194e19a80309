import Gawd.Wire.Job

/-!
Policy contracts: the questions a Home signs about placing and retrying a Job, and the decisions that
answer them.
-/

namespace Gawd.Wire

open Gawd.Logic

/-- What a Function declares about repeating its effects. -/
inductive EffectClass where
  | readOnly
  | idempotent
  | nonIdempotent
  | unknown
deriving DecidableEq

section

variable [Crypto]

/-- Every candidate is a deployment of the one function the Job pinned. -/
def verifyCandidates (function : FunctionId) (message : String) :
    List (SignedRecord DeploymentReceipt) → Except ContractError Unit
  | [] => .ok ()
  | candidate :: rest => do
    verifyDeploymentReceipt candidate
    reject (candidate.payload.function ≠ function) (.invalid message)
    verifyCandidates function message rest

/-- Select one exact live deployment from a bounded candidate set. -/
structure PlacementQuestion where
  job : JobHandle
  homeEpoch : Nat
  authority : HomeAuthority
  function : FunctionId
  candidates : List (SignedRecord DeploymentReceipt)
  evidence : List EvidenceRef
deriving DecidableEq

instance : Validate PlacementQuestion where
  validate question := do
    validate question.job
    reject (question.homeEpoch = 0) (.invalid "placement-question Home epoch must be non-zero")
    question.authority.verify question.job.home question.homeEpoch .jobHome
    validate question.function
    reject (question.candidates = [] ∨ maxEventPageItems < question.candidates.length)
      (.limit s!"placement candidates must contain 1..={maxEventPageItems} records")
    verifyCandidates question.function "placement candidate pins a different function" question.candidates
    validateVec "placement evidence" question.evidence maxEvidenceRefs

def verifyPlacementQuestion (record : SignedRecord PlacementQuestion) : Except ContractError Unit := do
  validate record
  reject (record.schema ≠ .policy ∨ record.verify = false) (.crypto "invalid placement-question signature")
  reject (record.signer ≠ record.payload.authority.operationalKey)
    (.invalid "placement-question signer is not the root-authorized Home epoch key")

structure PlacementDecision where
  job : JobHandle
  questionHash : Text
  selected : DeploymentId
  evidence : List EvidenceRef
deriving DecidableEq

instance : Validate PlacementDecision where
  validate decision := do
    validate decision.job
    validateSha256 "placement decision question_hash" decision.questionHash
    validate decision.selected
    validateVec "placement decision evidence" decision.evidence maxEvidenceRefs

/-- Asked after one terminal attempt receipt: retry or stop. -/
structure RetryQuestion where
  snapshot : JobSnapshot
  failedAttempt : AttemptId
  failure : ValueRef
  executorRetryableHint : Bool
  candidates : List (SignedRecord DeploymentReceipt)
  evidence : List EvidenceRef
deriving DecidableEq

instance : Validate RetryQuestion where
  validate question := do
    validate question.snapshot
    validate question.failedAttempt
    reject (question.snapshot.state ≠ .retryPending)
      (.invalid "retry question snapshot must be retry_pending")
    reject (question.failedAttempt.home ≠ question.snapshot.spec.handle.home ∨
        question.failedAttempt.job ≠ question.snapshot.spec.handle.job ∨
        question.snapshot.currentAttempt ≠ some question.failedAttempt)
      (.invalid "retry question failed attempt does not match the snapshot's current job attempt")
    question.failure.validateWithLimit maxErrorBytes
    reject (maxEventPageItems < question.candidates.length)
      (.limit s!"retry candidates exceed {maxEventPageItems}")
    verifyCandidates question.snapshot.spec.function.function
      "retry candidate pins a different immutable function" question.candidates
    validateVec "retry evidence" question.evidence maxEvidenceRefs

def verifyRetryQuestion (record : SignedRecord RetryQuestion) : Except ContractError Unit := do
  validate record
  reject (record.schema ≠ .policy ∨ record.verify = false) (.crypto "invalid retry-question signature")
  reject (record.signer ≠ record.payload.snapshot.authority.operationalKey)
    (.invalid "retry-question signer is not the root-authorized Home epoch key")

inductive RetryDecision where
  | retry (questionHash : Text) (job : JobHandle) (failedAttempt nextAttempt : AttemptId)
    (deployment : SignedRecord DeploymentReceipt) (notBeforeUnixMs : Option Nat)
  | stop (questionHash : Text) (job : JobHandle) (failedAttempt : AttemptId) (terminalState : JobState)
    (reason : String)
deriving DecidableEq

/-- `number.saturating_add(1)` on an attempt number, which is a `u8`. -/
def nextNumber (number : Nat) : Nat :=
  min (number + 1) 255

instance : Validate RetryDecision where
  validate
    | .retry questionHash job failedAttempt nextAttempt deployment _ => do
      validateSha256 "retry decision question_hash" questionHash
      validate job
      validate failedAttempt
      validate nextAttempt
      reject (failedAttempt.home ≠ job.home ∨ failedAttempt.job ≠ job.job ∨ nextAttempt.home ≠ job.home ∨
          nextAttempt.job ≠ job.job ∨ nextAttempt.number ≠ nextNumber failedAttempt.number)
        (.invalid "retry decision attempt lineage does not match its explicit job")
      verifyDeploymentReceipt deployment
    | .stop questionHash job failedAttempt terminalState reason => do
      validateSha256 "retry decision question_hash" questionHash
      validate job
      validate failedAttempt
      reject (failedAttempt.home ≠ job.home ∨ failedAttempt.job ≠ job.job)
        (.invalid "retry stop failed attempt does not belong to its explicit job")
      reject (terminalState.isTerminal = false) (.invalid "retry stop decision must name a terminal state")
      validateText "retry stop reason" reason maxReasonBytes

end

end Gawd.Wire
