import Gawd.Journal.SignedJournal
import Gawd.Logic.SortedMap
import Gawd.Wire.Custody
import Gawd.Wire.Order
import Gawd.Wire.Policy

/-!
What a Home keeps: the records of its Job journal and of its custody journal, the states they fold
into, and the outside it works with.
-/

namespace Gawd.Home

open Gawd.Logic Gawd.Wire Gawd.Journal

structure HomeConfig where
  home : HomeId
  epoch : Nat
  coordinator : String
  realm : String
  node : String
  authority : HomeAuthority
  historicalAuthorities : List HomeAuthority
  maxJobs : Nat
  maxCheckpointBytes : Nat
  journalCaps : JournalCaps

/-- The current authority first, then the prior epochs it may replay. -/
def HomeConfig.authorities (config : HomeConfig) : List HomeAuthority :=
  config.authority :: config.historicalAuthorities

/-- One atomic step of the Job ledger: public events, with the private grant or receipt behind them. -/
structure HomeLedgerRecord where
  grant : Option (SignedRecord ExecutionGrant)
  receipt : Option (SignedRecord ExecutionReceipt)
  events : List (SignedRecord JobEvent)
deriving DecidableEq

structure JobRecord where
  snapshot : JobSnapshot
  events : List (SignedRecord JobEvent)

structure ChildSpawnRecord where
  parentEventHash : Text
  childRequestHash : Text
  child : JobHandle
  root : JobHandle
  event : SignedRecord JobEvent

structure ForwardedControlRecord where
  attempt : AttemptId
  queuedReceiptHash : Option Text
  acknowledgedReceiptHash : Option Text
deriving DecidableEq

abbrev AttemptKey := JobId ×ₗ ℕ

abbrev ReceiptKey := JobId ×ₗ (ℕ ×ₗ ℕ)

abbrev ControlKey := JobId ×ₗ ControlId

abbrev SpawnKey := JobId ×ₗ (ℕ ×ₗ String)

def attemptKey (attempt : AttemptId) : AttemptKey :=
  toLex (attempt.job, attempt.number)

def receiptKey (receipt : ExecutionReceipt) : ReceiptKey :=
  toLex (receipt.attempt.job, toLex (receipt.attempt.number, receipt.sequence))

def controlKey (job : JobId) (control : ControlId) : ControlKey :=
  toLex (job, control)

def spawnKeyOf (parent : AttemptId) (spawnKey : String) : SpawnKey :=
  toLex (parent.job, toLex (parent.number, spawnKey))

/-- What the Job journal folds into. The custody state, which the source keeps in the same record and
no ledger step touches, is a field of the process. -/
structure HomeState where
  jobs : SortedMap JobId JobRecord
  requestHashes : SortedMap JobId Text
  grants : SortedMap AttemptKey (SignedRecord ExecutionGrant)
  receipts : SortedMap ReceiptKey Text
  highestReceiptSequences : SortedMap AttemptKey Nat
  observationCounts : SortedMap AttemptKey Nat
  highestProgressSequences : SortedMap AttemptKey Nat
  highestCheckpointSequences : SortedMap AttemptKey Nat
  controls : SortedMap ControlKey Text
  controlCounts : SortedMap JobId Nat
  forwardedControls : SortedMap ControlKey ForwardedControlRecord
  childSpawns : SortedMap SpawnKey ChildSpawnRecord
  nonterminalJobs : Nat
  unacknowledgedForwardedControls : Nat
  nextGrantSequence : Nat

def HomeState.initial : HomeState :=
  ⟨∅, ∅, ∅, ∅, ∅, ∅, ∅, ∅, ∅, ∅, ∅, ∅, 0, 0, 1⟩

inductive CustodyLedgerRecord where
  | initialized (home : HomeId) (epoch routeSequence : Nat) (coordinator : String)
  | routeRebound (routeSequence : Nat) (coordinator : String)
  | frozen (grant : SignedRecord CustodyGrant) (checkpoint : SignedRecord HomeCheckpoint)
  | prepared (prepared : SignedRecord CustodyPrepared)
  | staged (prepared : SignedRecord CustodyPrepared)
  | stagingReceipt (staged : SignedRecord CustodyStaged)
  | activated (stagedHash : Text) (lease : HomeLease)
  | leaseRebound (lease : HomeLease)
  | redirect (lease : SignedRecord HomeLease)
deriving DecidableEq

/-- Write authority of one Home root. -/
inductive CustodyState where
  | active (epoch : Nat) (handoff : Option HandoffId) (routeSequence : Nat) (coordinator : String)
    (activation : Option (SignedRecord CustodyStaged × HomeLease))
  | frozen (grant : SignedRecord CustodyGrant) (checkpoint : SignedRecord HomeCheckpoint)
    (prepared : Option (SignedRecord CustodyPrepared)) (redirect : Option (SignedRecord HomeLease))
  | staged (prepared : SignedRecord CustodyPrepared) (staging : Option (SignedRecord CustodyStaged))
deriving DecidableEq

/-- A complete replay archive of one Home epoch. -/
structure HomeCheckpointArchive where
  format : String
  home : HomeId
  epoch : Nat
  highWaterMark : Nat
  logRoot : Text
  authorities : List HomeAuthority
  records : List (SignedRecord (ChainEntry HomeLedgerRecord))
  rewrapOverlay : Option (SignedRecord CustodyStaged)
deriving DecidableEq

inductive HomeError where
  | configuration (message : String)
  | invalid (message : String)
  | unauthorized (message : String)
  | notFound (job : String)
  | conflict (message : String)
  | state (message : String)
  | capacity (message : String)
  | journal (error : JournalError)
  | signing (message : String)
deriving DecidableEq

def HomeError.display : HomeError → String
  | .configuration message => "home configuration is invalid: " ++ message
  | .invalid message => "invalid request: " ++ message
  | .unauthorized message => "request is not authorized: " ++ message
  | .notFound job => "job `" ++ job ++ "` was not found"
  | .conflict message => "idempotency conflict for job `" ++ message ++ "`"
  | .state message => "job state conflict: " ++ message
  | .capacity message => "home capacity reached: " ++ message
  | .journal error => error.display
  | .signing message => "signing failed: " ++ message

/-- What a Home is given: a signer, metadata, trust, stores and key custody, and the answers of the
filesystem to each append (by the number of records already there) and to each replaced file. -/
structure Host where
  signer : AuthoritySigner
  effect : ResolvedFunction → EffectClass
  allowResolution : SignedRecord ResolutionReceipt → Except String Unit
  allowDeployment : SignedRecord DeploymentReceipt → Except String Unit
  allowExecutorReceipt : SignedRecord ExecutionReceipt → SignedRecord DeploymentReceipt → Except String Unit
  allowPlacementDecision : SignedRecord PlacementDecision → Except String Unit
  allowRetryDecision : SignedRecord RetryDecision → Except String Unit
  blobs : BlobAvailability
  checkpointBlobs : BlobAvailability
  putCheckpoint : (mediaType : String) → HomeCheckpointArchive → Except ContractError BlobRef
  getCheckpoint : BlobRef → Except ContractError HomeCheckpointArchive
  currentBinding : Except String (SignedRecord RecipientKeyBinding)
  rewrap : SignedRecord CustodyRewrapRequest → List CustodyRewrapSource →
    Except String (SignedRecord CustodyRewrapReceipt)
  jobFate : (count : Nat) → Fate
  custodyFate : (count : Nat) → Fate
  jobFence : Option String
  custodyFence : Option String
  importedAuthoritiesFate : Replacement
  currentAuthorityFate : Replacement
  snapshotLogFate : Replacement
  snapshotHeadFate : Replacement

/-- A running Home process. -/
structure FunctionHome where
  config : HomeConfig
  journal : SignedJournal HomeLedgerRecord
  custodyJournal : SignedJournal CustodyLedgerRecord
  state : HomeState
  custody : CustodyState
  currentRecipientBinding : Option (SignedRecord RecipientKeyBinding)
  operationalFailure : Option String
  me : Option Nat

abbrev Ledger := EStateM HomeError HomeState

abbrev Action := EStateM HomeError FunctionHome

def homeJournalSchema : Schema := .other "gawd.function.home.journal.v1"

def custodyJournalSchema : Schema := .other "gawd.function.home.custody.journal.v1"

/-- The variant name as `{:?}` prints it. -/
def JobState.debug : JobState → String
  | .queued => "Queued"
  | .blocked => "Blocked"
  | .dispatching => "Dispatching"
  | .running => "Running"
  | .retryPending => "RetryPending"
  | .succeeded => "Succeeded"
  | .failed => "Failed"
  | .cancelled => "Cancelled"
  | .indeterminate => "Indeterminate"

def ofInvalid {α : Type} : Except ContractError α → Except HomeError α :=
  mapError fun error => .invalid error.display

def ofUnauthorized {α : Type} : Except ContractError α → Except HomeError α :=
  mapError fun error => .unauthorized error.display

def ofSigning {α : Type} : Except ContractError α → Except HomeError α :=
  mapError fun error => .signing error.display

def ofJournal {α : Type} : Except JournalError α → Except HomeError α :=
  mapError .journal

/-- A refusal by injected trust. -/
def ofRefusal {α : Type} (noun : String) : Except String α → Except HomeError α :=
  mapError fun reason => .unauthorized s!"{noun} refused: {reason}"

/-- `checked_add(1)` on a machine-word counter. -/
def checkedIncrement (value : Nat) (message : String) : Except HomeError Nat :=
  if value + 1 < 2 ^ 64 then .ok (value + 1) else .error (.capacity message)

def checkedDecrement (value : Nat) (message : String) : Except HomeError Nat :=
  if 0 < value then .ok (value - 1) else .error (.state message)

/-- Write authority: only an active Home may write. -/
def CustodyState.ensureWritable : CustodyState → Except HomeError Unit
  | .active .. => .ok ()
  | .frozen grant .. =>
    let handoff := grant.payload.handoff.text.render
    .error (.state s!"home is permanently frozen for handoff `{handoff}`; silence never thaws it")
  | .staged prepared _ =>
    let handoff := prepared.payload.grant.payload.handoff.text.render
    .error (.state s!"home handoff `{handoff}` is staged but not activated")

def CustodyState.activeRouteSequence : CustodyState → Except HomeError Nat
  | .active _ _ routeSequence .. =>
    if 0 < routeSequence then .ok routeSequence
    else .error (.state "active Home has no durable route revision")
  | .frozen .. | .staged .. => .error (.state "non-active Home has no authoritative route")

def CustodyState.activeCoordinator : CustodyState → Option String
  | .active _ _ _ coordinator _ => some coordinator
  | .frozen .. | .staged .. => none

end Gawd.Home
