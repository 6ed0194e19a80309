import Gawd.Home.State

/-!
The Home's Job ledger: which records are well formed, and how each one changes the state. Live
operations and replay go through the same functions.
-/

namespace Gawd.Home

open Gawd.Logic Gawd.Wire Gawd.Journal

/-- The Job transitions a ledger admits. A terminal state admits none. -/
def transitionAllowed (before after : JobState) : Bool :=
  if before.isTerminal then false
  else if before = after then true
  else
    match before, after with
    | .queued, .blocked | .queued, .dispatching | .queued, .cancelled | .queued, .failed => true
    | .blocked, .queued | .blocked, .cancelled | .blocked, .failed => true
    | .dispatching, .running | .dispatching, .retryPending | .dispatching, .succeeded
    | .dispatching, .failed | .dispatching, .cancelled | .dispatching, .indeterminate => true
    | .running, .retryPending | .running, .succeeded | .running, .failed | .running, .cancelled
    | .running, .indeterminate => true
    | .retryPending, .dispatching | .retryPending, .cancelled | .retryPending, .failed
    | .retryPending, .indeterminate => true
    | _, _ => false

def requireRecipients (wraps : List RecipientKeyWrap) : List HomeId → Except HomeError Unit
  | [] => .ok ()
  | recipient :: rest => do
    let name := recipient.text.render
    reject (wraps.all fun wrap => wrap.recipient ≠ recipient)
      (.invalid s!"sealed result omits the required key envelope for recipient `{name}`")
    requireRecipients wraps rest

/-- A requested result recipient must receive a key wrap in a sealed terminal result. -/
def requireResultRecipientWraps (result : ValueRef) (required : List HomeId) : Except HomeError Unit :=
  if required = [] then .ok ()
  else
    match result with
    | .sealed value => requireRecipients value.recipients required
    | _ => .error (.invalid "job requested result recipients but executor returned an unsealed result")

def isLateReceipt : JobEventKind → Bool
  | .lateReceipt .. => true
  | _ => false

def isObservation : ExecutionStage → Bool
  | .progress .. | .checkpoint .. => true
  | _ => false

section

variable [Crypto]

/-- Some authority of this Home vouches for the signer in that epoch. -/
def authorizedOperational (config : HomeConfig) (epoch : Nat) (signer : Text) : Bool :=
  config.authorities.any fun authority =>
    authority.operational.payload.epoch = epoch ∧ authority.operationalKey = signer ∧
      authority.verify config.home epoch .jobHome = .ok ()

def verifyEvents (config : HomeConfig) : List (SignedRecord JobEvent) → Except HomeError Unit
  | [] => .ok ()
  | event :: rest => do
    reject (verifyJobEvent event ≠ .ok () ∨
        authorizedOperational config event.payload.homeEpoch event.signer = false)
      (.unauthorized "persisted job event signature is invalid")
    verifyEvents config rest

def grantsEvent (grant : SignedRecord ExecutionGrant) (event : SignedRecord JobEvent) : Bool :=
  match event.payload.kind with
  | .dispatchGranted grantHash attempt => grantHash = canonicalHash grant ∧ attempt = grant.payload.attempt
  | _ => false

def carriesReceipt (receiptHash : Text) (event : SignedRecord JobEvent) : Bool :=
  event.payload.foreignReceipt.any fun foreign => canonicalHash foreign = receiptHash

def submitsChild (parent child root : JobHandle) (childRequestHash : Text)
    (candidate : SignedRecord JobEvent) : Bool :=
  match candidate.payload.kind with
  | .submitted spec =>
    candidate.payload.handle = child ∧ spec.handle = child ∧ spec.parent = some parent ∧
      spec.root = root ∧ spec.requestHash = childRequestHash
  | _ => false

/-- Every spawn is followed, in the same record, by the submission of its child. -/
def requireChildren : List (SignedRecord JobEvent) → Except HomeError Unit
  | [] => .ok ()
  | event :: rest => do
    match event.payload.kind with
    | .childSpawned _ _ _ child root childRequestHash =>
      reject (rest.all fun candidate =>
          submitsChild event.payload.handle child root childRequestHash candidate = false)
        (.state "ChildSpawned is not atomically followed by its exact child Submitted event")
    | _ => pure ()
    requireChildren rest

def validateGrantRecord (record : HomeLedgerRecord) (grant : SignedRecord ExecutionGrant) :
    Except HomeError Unit := do
  ofInvalid (validate grant)
  reject (grant.schema ≠ .execute ∨ verifyExecutionGrant grant ≠ .ok ())
    (.unauthorized "persisted grant signature is invalid")
  reject (record.events.countP (grantsEvent grant) ≠ 1)
    (.state "persisted grant is not bound to one exact DispatchGranted event")

def validateReceiptRecord (record : HomeLedgerRecord) (receipt : SignedRecord ExecutionReceipt) :
    Except HomeError Unit := do
  ofInvalid (validate receipt)
  reject (receipt.schema ≠ .execute ∨ receipt.verify = false)
    (.unauthorized "persisted receipt signature is invalid")
  reject (record.events.countP (carriesReceipt (canonicalHash receipt)) ≠ 1)
    (.state "persisted receipt is not bound to one exact public foreign receipt")

/-- A public foreign receipt appears with the private receipt it quotes, and only with it. -/
def validateReceipts (record : HomeLedgerRecord) : Except HomeError Unit :=
  match record.receipt with
  | some receipt => validateReceiptRecord record receipt
  | none =>
    reject (record.events.any fun event => event.payload.foreignReceipt.isSome)
      (.state "public foreign receipt has no matching private ledger receipt")

def validateLedgerRecord (record : HomeLedgerRecord) (config : HomeConfig) : Except HomeError Unit := do
  reject (record.events = []) (.state "ledger record has no public event")
  verifyEvents config record.events
  ifPresent record.grant (validateGrantRecord record)
  validateReceipts record
  requireChildren record.events

def applyGrant (config : HomeConfig) (grant : SignedRecord ExecutionGrant) : Ledger Unit := do
  reject (grant.payload.owner ≠ config.home ∨
      authorizedOperational config grant.payload.homeEpoch grant.signer = false)
    (HomeError.state "grant belongs to an unauthorized home epoch")
  let state ← get
  match state.grants.get? (attemptKey grant.payload.attempt) with
  | some existing =>
    reject (canonicalHash existing ≠ canonicalHash grant) (HomeError.conflict "two grants for one attempt")
  | none => set { state with grants := state.grants.insert (attemptKey grant.payload.attempt) grant }
  modify fun state => { state with
    nextGrantSequence := max state.nextGrantSequence (grant.payload.grantSequence + 1) }

/-- Give a forwarded control the receipt that queued or acknowledged it. -/
def retainControlReceipt (control : ControlId) (acknowledged : Bool)
    (receipt : SignedRecord ExecutionReceipt) (receiptHash : Text) : Ledger Unit := do
  let state ← get
  let key := controlKey receipt.payload.attempt.job control
  let name := control.text.render
  let retained ← orError
    (HomeError.state s!"executor control receipt `{name}` has no durable forwarded Home control")
    (state.forwardedControls.get? key)
  reject (retained.attempt ≠ receipt.payload.attempt)
    (HomeError.state s!"executor control receipt `{name}` belongs to a different attempt")
  match if acknowledged then retained.acknowledgedReceiptHash else retained.queuedReceiptHash with
  | some existing =>
    reject (existing ≠ receiptHash)
      (HomeError.conflict s!"executor control receipt `{name}` changed after Home retention")
  | none => do
    let filled := if acknowledged then { retained with acknowledgedReceiptHash := some receiptHash }
      else { retained with queuedReceiptHash := some receiptHash }
    set { state with forwardedControls := state.forwardedControls.insert key filled }
    if acknowledged then
      let count ← checkedDecrement state.unacknowledgedForwardedControls
        "control-ack reservation count underflowed"
      modify fun state => { state with unacknowledgedForwardedControls := count }

def indexHomeControlReceipt (receipt : SignedRecord ExecutionReceipt) (receiptHash : Text) : Ledger Unit :=
  match receipt.payload.stage with
  | .controlQueued control => retainControlReceipt control false receipt receiptHash
  | .controlAcknowledged control _ _ => retainControlReceipt control true receipt receiptHash
  | _ => pure ()

/-- An in-order observation must be newer than every observation of its kind. -/
def requireNewObservation (state : HomeState) (key : AttemptKey) : ExecutionStage → Except HomeError Unit
  | .progress sequence _ => do
    let highest := (state.highestProgressSequences.get? key).getD 0
    reject (sequence ≤ highest) (.state s!"persisted progress sequence {sequence} is not newer than {highest}")
  | .checkpoint sequence _ => do
    let highest := (state.highestCheckpointSequences.get? key).getD 0
    reject (sequence ≤ highest)
      (.state s!"persisted checkpoint sequence {sequence} is not newer than {highest}")
  | _ => .ok ()

/-- The high-water marks and counters of an attempt after one more receipt. -/
def HomeState.raiseMarks (state : HomeState) (key : AttemptKey) (sequence : Nat) (stage : ExecutionStage) :
    HomeState :=
  let raise (marks : SortedMap AttemptKey Nat) (value : Nat) :=
    marks.insert key (max ((marks.get? key).getD 0) value)
  { state with
    highestReceiptSequences := raise state.highestReceiptSequences sequence
    highestProgressSequences :=
      match stage with
      | .progress progress _ => raise state.highestProgressSequences progress
      | _ => state.highestProgressSequences
    highestCheckpointSequences :=
      match stage with
      | .checkpoint checkpoint _ => raise state.highestCheckpointSequences checkpoint
      | _ => state.highestCheckpointSequences
    observationCounts :=
      if isObservation stage then
        state.observationCounts.insert key ((state.observationCounts.get? key).getD 0 + 1)
      else state.observationCounts }

def retainReceipt (receipt : SignedRecord ExecutionReceipt) : Ledger Unit := do
  let state ← get
  let hash := canonicalHash receipt
  set { state with receipts := state.receipts.insert (receiptKey receipt.payload) hash }
  reject ((state.receipts.get? (receiptKey receipt.payload)).any fun old => old ≠ hash)
    (HomeError.conflict "conflicting persisted executor receipt")

def applyReceipt (receipt : SignedRecord ExecutionReceipt) : Ledger Unit := do
  let state ← get
  let key := attemptKey receipt.payload.attempt
  let sequence := receipt.payload.sequence
  let stage := receipt.payload.stage
  let grant ← orError (HomeError.state "persisted receipt has no grant") (state.grants.get? key)
  ofUnauthorized (verifyExecutionReceipt receipt grant)
  let highest := (state.highestReceiptSequences.get? key).getD 0
  reject (sequence = highest)
    (HomeError.state s!"persisted receipt sequence {sequence} matches an unindexed high-water mark")
  reject (isObservation stage ∧ maxAttemptObservations ≤ (state.observationCounts.get? key).getD 0)
    (HomeError.capacity s!"attempt observations exceed {maxAttemptObservations}")
  if sequence < highest then pure ()
  else requireNewObservation state key stage
  indexHomeControlReceipt receipt (canonicalHash receipt)
  retainReceipt receipt
  modify fun state => state.raiseMarks key sequence stage

end

def modifyJob (job : JobId) (change : JobRecord → JobRecord) : Ledger Unit :=
  modify fun state =>
    match state.jobs.get? job with
    | some record => { state with jobs := state.jobs.insert job (change record) }
    | none => state

/-- The attempt an event makes current. -/
def JobEventKind.makesCurrent : JobEventKind → Option AttemptId
  | .dispatchGranted _ attempt | .claimed attempt _ | .started attempt | .progress attempt _ _
  | .checkpoint attempt _ _ | .attemptFailed attempt _ _ | .succeeded attempt _
  | .indeterminate attempt _ _ => some attempt
  | _ => none

/-- A Job's snapshot after one more event. -/
def advanceSnapshot (snapshot : JobSnapshot) (event : JobEvent) : JobSnapshot :=
  { snapshot with
    state := event.stateAfter
    homeEpoch := event.homeEpoch
    authority := event.authority
    cancelRequested := event.cancelRequested
    lastSequence := event.sequence
    currentAttempt := (JobEventKind.makesCurrent event.kind).or snapshot.currentAttempt
    result :=
      match event.kind with
      | .succeeded _ result => some result
      | _ => snapshot.result
    error :=
      match event.kind with
      | .attemptFailed _ error _ | .failed error => some error
      | _ => snapshot.error
    spec :=
      match event.kind with
      | .accessUpdated _ _ access => { snapshot.spec with access }
      | _ => snapshot.spec }

/-- The snapshot of a newly submitted Job. -/
def JobSnapshot.submitted (spec : JobSpec) (event : JobEvent) : JobSnapshot where
  spec := spec
  state := .queued
  cancelRequested := event.cancelRequested
  homeEpoch := event.homeEpoch
  authority := event.authority
  lastSequence := 1
  currentAttempt := none
  result := none
  error := none

section

variable [Crypto]

/-- A child continues its durable parent's root; a root Job names itself. -/
def checkLineage (config : HomeConfig) (state : HomeState) (spec : JobSpec) : Except HomeError Unit :=
  match spec.parent with
  | some parent => do
    let parentJob ← orError (.state "child submission precedes its durable parent")
      (state.jobs.get? parent.job)
    reject (parent.home ≠ config.home ∨ spec.root ≠ parentJob.snapshot.spec.root ∨
        spec.root.home ≠ config.home)
      (.state "child submission does not inherit its parent's immutable root")
  | none =>
    reject (spec.root ≠ spec.handle) (.state "root submission does not self-identify its immutable root")

def applySubmitted (config : HomeConfig) (event : SignedRecord JobEvent) (spec : JobSpec) :
    Ledger Unit := do
  let state ← get
  let job := event.payload.handle.job
  reject (event.payload.sequence ≠ 1 ∨ event.payload.stateAfter ≠ .queued)
    (HomeError.state "submitted must be queued sequence 1")
  reject (state.jobs.contains job) (HomeError.conflict job.text.render)
  checkLineage config state spec
  let count ← checkedIncrement state.nonterminalJobs "nonterminal Job reservation count overflowed"
  set { state with
    nonterminalJobs := count
    requestHashes := state.requestHashes.insert job spec.requestHash
    jobs := state.jobs.insert job ⟨JobSnapshot.submitted spec event.payload, [event]⟩ }

def indexHomeControl (job : JobId) (control : ControlId) (requestHash : Text) : Ledger Unit := do
  let state ← get
  match state.controls.get? (controlKey job control) with
  | some existing =>
    reject (existing ≠ requestHash)
      (HomeError.conflict "control request hash changed during ledger replay")
  | none => do
    let count := (state.controlCounts.get? job).getD 0
    reject (maxJobControls ≤ count) (HomeError.capacity s!"job controls exceed {maxJobControls}")
    set { state with
      controlCounts := state.controlCounts.insert job (count + 1)
      controls := state.controls.insert (controlKey job control) requestHash }

/-- A control bound to an attempt waits for that attempt's acknowledgment. -/
def forwardControl (config : HomeConfig) (job : JobId) (control : ControlId) (attempt : AttemptId) :
    Ledger Unit := do
  reject (attempt.home ≠ config.home ∨ attempt.job ≠ job)
    (HomeError.state "forwarded control attempt belongs to another Job/Home")
  let state ← get
  match state.forwardedControls.get? (controlKey job control) with
  | none => do
    set { state with
      forwardedControls := state.forwardedControls.insert (controlKey job control) ⟨attempt, none, none⟩ }
    let count ← checkedIncrement state.unacknowledgedForwardedControls
      "unacknowledged control reservation count overflowed"
    modify fun state => { state with unacknowledgedForwardedControls := count }
  | some existing =>
    reject (existing.attempt ≠ attempt)
      (HomeError.conflict "durable control was rebound to another execution attempt")

def recordSpawn (job : JobId) (key : SpawnKey) (spawn : ChildSpawnRecord) : Ledger Unit := do
  let state ← get
  match state.childSpawns.get? key with
  | some existing =>
    reject (existing.parentEventHash ≠ spawn.parentEventHash ∨
        existing.childRequestHash ≠ spawn.childRequestHash ∨ existing.child ≠ spawn.child ∨
        existing.root ≠ spawn.root)
      (HomeError.conflict "conflicting persisted causal child spawn")
  | none => do
    let count := (state.controlCounts.get? job).getD 0
    reject (maxJobControls ≤ count) (HomeError.capacity s!"job controls exceed {maxJobControls}")
    set { state with
      childSpawns := state.childSpawns.insert key spawn
      controlCounts := state.controlCounts.insert job (count + 1) }

/-- The indexes an event feeds besides its own Job's record. -/
def indexEvent (config : HomeConfig) (event : SignedRecord JobEvent) (root : JobHandle) : Ledger Unit :=
  let job := event.payload.handle.job
  match event.payload.kind with
  | .accessUpdated control requestHash _ => indexHomeControl job control requestHash
  | .controlRequested request attempt => do
    indexHomeControl job request.payload.control (canonicalHash request)
    match attempt with
    | some attempt => forwardControl config job request.payload.control attempt
    | none => pure ()
  | .childSpawned parentAttempt parentEventHash spawnKey child spawnRoot childRequestHash => do
    reject (spawnRoot ≠ root ∨ child.home ≠ config.home)
      (HomeError.state "ChildSpawned does not inherit the durable parent workflow root")
    recordSpawn job (spawnKeyOf parentAttempt spawnKey)
      ⟨parentEventHash, childRequestHash, child, spawnRoot, event⟩
  | _ => pure ()

/-- The checks a non-submission event passes against its Job before it changes anything. -/
def checkTransition (snapshot : JobSnapshot) (event : JobEvent) : Except HomeError Unit := do
  reject (event.sequence ≠ snapshot.lastSequence + 1) (.state "job event sequence is not monotonic")
  match event.kind with
  | .succeeded _ result => requireResultRecipientWraps result snapshot.spec.resultRecipients
  | _ => pure ()
  let lateFact : Bool := snapshot.state = event.stateAfter ∧ isLateReceipt event.kind
  let before := JobState.debug snapshot.state
  let after := JobState.debug event.stateAfter
  reject (lateFact = false ∧ transitionAllowed snapshot.state event.stateAfter = false)
    (.state s!"invalid transition {before} -> {after}")

/-- A Job that ends gives its reservation back. -/
def releaseJob (ended : Bool) : Ledger Unit := do
  if ended then
    let state ← get
    let count ← checkedDecrement state.nonterminalJobs "nonterminal Job reservation count underflowed"
    set { state with nonterminalJobs := count }

def applyTransition (config : HomeConfig) (event : SignedRecord JobEvent) : Ledger Unit := do
  let state ← get
  let job := event.payload.handle.job
  let record ← orError (HomeError.state "event precedes submission") (state.jobs.get? job)
  checkTransition record.snapshot event.payload
  modifyJob job fun record => { record with snapshot := advanceSnapshot record.snapshot event.payload }
  indexEvent config event record.snapshot.spec.root
  modifyJob job fun record => { record with events := record.events ++ [event] }
  releaseJob (record.snapshot.state.isTerminal = false ∧ event.payload.stateAfter.isTerminal = true)

def applyJobEvent (config : HomeConfig) (event : SignedRecord JobEvent) : Ledger Unit := do
  reject (event.payload.handle.home ≠ config.home ∨
      authorizedOperational config event.payload.homeEpoch event.signer = false)
    (HomeError.state "event belongs to another home epoch")
  match event.payload.kind with
  | .submitted spec => applySubmitted config event spec
  | _ => applyTransition config event

def applyEvents (config : HomeConfig) : List (SignedRecord JobEvent) → Ledger Unit
  | [] => pure ()
  | event :: rest => do
    applyJobEvent config event
    applyEvents config rest

def applyLedgerRecord (config : HomeConfig) (record : HomeLedgerRecord) : Ledger Unit := do
  validateLedgerRecord record config
  ifPresent record.grant (applyGrant config)
  ifPresent record.receipt applyReceipt
  applyEvents config record.events

def replay (config : HomeConfig) : List HomeLedgerRecord → Ledger Unit
  | [] => pure ()
  | record :: rest => do
    applyLedgerRecord config record
    replay config rest

end

end Gawd.Home
