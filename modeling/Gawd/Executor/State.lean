import Gawd.Journal.SignedJournal
import Gawd.Logic.SortedMap
import Gawd.Wire.Address
import Gawd.Wire.Deployment
import Gawd.Wire.Order

/-!
What the executor keeps: its ledger records, the state they fold into, and the outside it works with.
-/

namespace Gawd.Executor

open Gawd.Logic Gawd.Wire Gawd.Journal

structure ExecutorConfig where
  executor : Text
  maxAttempts : Nat
  realm : String
  node : String
  executorCreature : String
  maxDeployments : Nat
  journalCaps : JournalCaps
deriving DecidableEq

inductive ExecutorLedgerRecord where
  | register (request : SignedRecord DeploymentRegistration) (receipt : SignedRecord DeploymentReceipt)
  | undeploy (request : SignedRecord UndeployRequest) (deployment : DeploymentId)
  | claim (grant : SignedRecord ExecutionGrant) (receipt : SignedRecord ExecutionReceipt)
  | refuse (grant : SignedRecord ExecutionGrant) (receipt : SignedRecord ExecutionReceipt)
  | control (request : SignedRecord ExecutionControl) (receipt : SignedRecord ExecutionReceipt)
  | homeFence (query : SignedRecord ExecutionQuery)
  | receipt (receipt : SignedRecord ExecutionReceipt)

/-- One claimed attempt and everything the executor said about it. -/
structure AttemptRecord where
  grant : SignedRecord ExecutionGrant
  grantHash : Text
  receipts : List (SignedRecord ExecutionReceipt)
  receiptRecoveryOrdinals : List Nat
  observationCount : Nat
  highestProgressSequence : Nat
  highestCheckpointSequence : Nat
  progressReceipts : SortedMap Nat Nat
  checkpointReceipts : SortedMap Nat Nat
  controlCount : Nat
  terminal : Bool

/-- The newest Home authority and return route seen for one Home. -/
structure HomeFence where
  epoch : Nat
  routeSequence : Nat
  operationalSigner : Text
  authorityHash : Text
  homeRealm : String
  homeNode : String
  homeCoordinator : String
deriving DecidableEq

structure ControlRecord where
  requestHash : Text
  request : SignedRecord ExecutionControl
  queued : SignedRecord ExecutionReceipt
  acknowledged : Option (SignedRecord ExecutionReceipt)

structure ControlKey where
  attempt : AttemptId
  control : ControlId
deriving DecidableEq

/-- Controls order by attempt, then by their own identity. -/
def ControlKey.rank (key : ControlKey) : AttemptId ×ₗ ControlId :=
  toLex (key.attempt, key.control)

theorem ControlKey.rank_injective : Function.Injective ControlKey.rank := by
  intro left right same
  cases left
  cases right
  simpa [ControlKey.rank] using same

instance : LinearOrder ControlKey := LinearOrder.lift' ControlKey.rank ControlKey.rank_injective

structure ExecutorState where
  attempts : SortedMap AttemptId AttemptRecord
  deployments : SortedMap DeploymentId (SignedRecord DeploymentReceipt)
  deploymentTombstones : List DeploymentId
  homeFences : SortedMap HomeId HomeFence
  controls : SortedMap ControlKey ControlRecord
  nextReceiptRecoveryOrdinal : Nat
  nonterminalAttempts : Nat
  unacknowledgedControls : Nat

def ExecutorState.initial : ExecutorState :=
  ⟨∅, ∅, [], ∅, ∅, 0, 0, 0⟩

/-- How far one recovery sweep has come through the receipts that existed when it began. -/
structure ExecutorRecoverySweep where
  receiptHighWaterOrdinal : Nat
  receiptsRemaining : Nat
  receiptAfter : Option (AttemptId × Nat)
  active : Bool

def ExecutorRecoverySweep.idle : ExecutorRecoverySweep :=
  ⟨0, 0, none, false⟩

inductive AttemptRecoveryWork where
  | resume (grant : SignedRecord ExecutionGrant) (claimed : SignedRecord ExecutionReceipt)
  | receipt (grant : SignedRecord ExecutionGrant) (receipt : SignedRecord ExecutionReceipt)
      (control : Option (SignedRecord ExecutionControl))

inductive ClaimOutcome where
  | claimed (receipts : List (SignedRecord ExecutionReceipt)) (call : FunctionCall) (target : Address)
  | duplicate (receipt : SignedRecord ExecutionReceipt)
  | terminal (receipt : SignedRecord ExecutionReceipt)
deriving DecidableEq

inductive RecordOutcome where
  | recorded (receipt : SignedRecord ExecutionReceipt)
  | duplicate (receipt : SignedRecord ExecutionReceipt)
deriving DecidableEq

def RecordOutcome.receipt : RecordOutcome → SignedRecord ExecutionReceipt
  | .recorded receipt => receipt
  | .duplicate receipt => receipt

inductive ExecutorError where
  | configuration (message : String)
  | invalid (message : String)
  | unauthorized (message : String)
  | notFound
  | conflict (message : String)
  | capacity
  | terminal
  | address (message : String)
  | targetUnavailable (target : String)
  | liveness (message : String)
  | journal (error : JournalError)
  | signing (message : String)
deriving DecidableEq

/-- What the executor is given: a signer, resolvers and admission, and the answers of the filesystem
and of the roster, which may change from one question to the next. -/
structure Host where
  signer : AuthoritySigner
  functionTarget : ExecutionGrant → Except String Address
  homeTarget : ExecutionGrant → Except String Address
  queryHomeTarget : ExecutionGrant → ExecutionQuery → Except String Address
  controlHomeTarget : ExecutionGrant → ExecutionControl → Except String Address
  admitRegister : SignedRecord DeploymentRegistration → Except String Unit
  admitUndeploy : SignedRecord UndeployRequest → SignedRecord DeploymentReceipt → Except String Unit
  targetIsLive : (time : Nat) → (target : Nat) → DeploymentReceipt → Except String Bool
  fate : (time : Nat) → Fate

/-- A running executor process. `clock` counts its questions to the outside. -/
structure FunctionExecutor where
  config : ExecutorConfig
  journal : SignedJournal ExecutorLedgerRecord
  state : ExecutorState
  recoverySweep : ExecutorRecoverySweep
  me : Option Nat
  clock : Nat

abbrev Ledger := EStateM ExecutorError ExecutorState

abbrev Action := EStateM ExecutorError FunctionExecutor

def executorChainSchema : Schema := .other "gawd.function.executor.journal.v1"

def maxExecutorRecoveryDispatches : Nat := 64

def stageTerminal : ExecutionStage → Bool
  | .succeeded _ | .failed _ _ | .cancelled _ | .indeterminate _ _ => true
  | _ => false

def isObservation : ExecutionStage → Bool
  | .progress _ _ | .checkpoint _ _ => true
  | _ => false

def progressSequence : ExecutionStage → Nat
  | .progress sequence _ => sequence
  | _ => 0

def checkpointSequence : ExecutionStage → Nat
  | .checkpoint sequence _ => sequence
  | _ => 0

def isControlAcknowledged : ExecutionStage → Bool
  | .controlAcknowledged _ _ _ => true
  | _ => false

/-- `checked_add(1)` on a 64-bit counter. -/
def checkedIncrement (value : Nat) : Except ExecutorError Nat :=
  if value + 1 < 2 ^ 64 then .ok (value + 1) else .error .capacity

def checkedDecrement (value : Nat) (message : String) : Except ExecutorError Nat :=
  if 0 < value then .ok (value - 1) else .error (.conflict message)

/-- `saturating_add` on a 64-bit counter. -/
def saturatingAdd (left right : Nat) : Nat :=
  min (left + right) (2 ^ 64 - 1)

/-- Slots kept back for the terminal receipt of every open attempt and the acknowledgment of every
queued control. -/
def durableRecordReservations (state : ExecutorState) : Nat :=
  saturatingAdd state.nonterminalAttempts state.unacknowledgedControls

def sameControlIntent (left right : SignedRecord ExecutionControl) : Bool :=
  left.payload.callerRequest = right.payload.callerRequest ∧
    left.payload.acceptedEvent = right.payload.acceptedEvent ∧
    left.payload.attempt = right.payload.attempt ∧ left.payload.grantHash = right.payload.grantHash

def sameDeploymentBinding (left right : DeploymentReceipt) : Bool :=
  left.deployment = right.deployment ∧ left.function = right.function ∧
    left.artifactHash = right.artifactHash ∧ left.realm = right.realm ∧ left.node = right.node ∧
    left.executor = right.executor ∧ left.executorCreature = right.executorCreature ∧
    left.creature = right.creature ∧ left.evidence = right.evidence

end Gawd.Executor
