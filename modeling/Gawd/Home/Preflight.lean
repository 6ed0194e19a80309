import Gawd.Home.Ledger

/-!
The append boundary: a record is tried on a bounded shadow of the state before it reaches the journal,
and must leave the slots that open Jobs and forwarded controls still need.
-/

namespace Gawd.Home

open Gawd.Logic Gawd.Wire Gawd.Journal

/-- The Jobs an event can touch. -/
def touchedJobs (event : JobEvent) : List JobId :=
  event.handle.job ::
    match event.kind with
    | .submitted spec => (spec.parent.map JobHandle.job).toList
    | .childSpawned parentAttempt _ _ child _ _ => [parentAttempt.job, child.job]
    | _ => []

/-- The control an event indexes for its Job. -/
def indexedControl (event : JobEvent) : Option ControlKey :=
  match event.kind with
  | .accessUpdated control _ _ => some (controlKey event.handle.job control)
  | .controlRequested request _ => some (controlKey event.handle.job request.payload.control)
  | _ => none

/-- The control a receipt settles. -/
def receiptControl (receipt : ExecutionReceipt) : Option ControlKey :=
  match receipt.stage with
  | .controlQueued control => some (controlKey receipt.attempt.job control)
  | .controlAcknowledged control _ _ => some (controlKey receipt.attempt.job control)
  | _ => none

def indexedSpawn (event : JobEvent) : Option SpawnKey :=
  match event.kind with
  | .childSpawned parentAttempt _ spawnKey _ _ _ => some (spawnKeyOf parentAttempt spawnKey)
  | _ => none

/-- The keys of the state one record can touch. -/
structure RecordKeys where
  jobs : List JobId
  owners : List JobId
  grants : List AttemptKey
  attempts : List AttemptKey
  receipts : List ReceiptKey
  controls : List ControlKey
  spawns : List SpawnKey

def HomeLedgerRecord.keys (record : HomeLedgerRecord) : RecordKeys where
  jobs :=
    record.events.flatMap (fun event => touchedJobs event.payload) ++
      (record.grant.map fun grant => grant.payload.attempt.job).toList ++
      (record.receipt.map fun receipt => receipt.payload.attempt.job).toList
  owners := record.events.map fun event => event.payload.handle.job
  grants :=
    (record.grant.map fun grant => attemptKey grant.payload.attempt).toList ++
      (record.receipt.map fun receipt => attemptKey receipt.payload.attempt).toList
  attempts := (record.receipt.map fun receipt => attemptKey receipt.payload.attempt).toList
  receipts := (record.receipt.map fun receipt => receiptKey receipt.payload).toList
  controls :=
    (record.receipt.bind fun receipt => receiptControl receipt.payload).toList ++
      record.events.filterMap fun event => indexedControl event.payload
  spawns := record.events.filterMap fun event => indexedSpawn event.payload

/-- A map with only the given keys of another. -/
def copyKeys {κ υ : Type} [LinearOrder κ] (map : SortedMap κ υ) : List κ → SortedMap κ υ
  | [] => ∅
  | key :: rest =>
    match map.get? key with
    | some value => (copyKeys map rest).insert key value
    | none => copyKeys map rest

/-- The part of the state one record can touch; retained events are left behind. -/
def HomeState.shadow (state : HomeState) (keys : RecordKeys) : HomeState where
  jobs := (copyKeys state.jobs keys.jobs).map fun record => { record with events := [] }
  requestHashes := copyKeys state.requestHashes keys.jobs
  grants := copyKeys state.grants keys.grants
  receipts := copyKeys state.receipts keys.receipts
  highestReceiptSequences := copyKeys state.highestReceiptSequences keys.attempts
  observationCounts := copyKeys state.observationCounts keys.attempts
  highestProgressSequences := copyKeys state.highestProgressSequences keys.attempts
  highestCheckpointSequences := copyKeys state.highestCheckpointSequences keys.attempts
  controls := copyKeys state.controls keys.controls
  controlCounts := copyKeys state.controlCounts keys.owners
  forwardedControls := copyKeys state.forwardedControls keys.controls
  childSpawns := copyKeys state.childSpawns keys.spawns
  nonterminalJobs := state.nonterminalJobs
  unacknowledgedForwardedControls := state.unacknowledgedForwardedControls
  nextGrantSequence := state.nextGrantSequence

/-- Try a record on the part of the state it can touch. -/
def preflightLedgerTransition [Crypto] (config : HomeConfig) (state : HomeState) (record : HomeLedgerRecord) :
    Except HomeError Unit :=
  match applyLedgerRecord config record (state.shadow record.keys) with
  | .ok _ _ => .ok ()
  | .error error _ => .error error

/-- Counts of open Jobs and of unacknowledged controls. -/
structure Reservations where
  jobs : Nat
  controls : Nat

def reserveForEvent (state : HomeState) (event : JobEvent) (held : Reservations) :
    Except HomeError Reservations := do
  let held ← match event.kind with
    | .submitted _ => do
      let jobs ← checkedIncrement held.jobs "nonterminal Job reservation count overflowed"
      pure { held with jobs }
    | .controlRequested request (some _) =>
      if state.forwardedControls.contains (controlKey event.handle.job request.payload.control) then pure held
      else do
        let controls ← checkedIncrement held.controls "unacknowledged control reservation count overflowed"
        pure { held with controls }
    | _ => pure held
  if event.stateAfter.isTerminal ∧
      (state.jobs.get? event.handle.job).any fun job => job.snapshot.state.isTerminal = false then
    let jobs ← checkedDecrement held.jobs "nonterminal Job reservation count underflowed"
    pure { held with jobs }
  else pure held

def reserveForEvents (state : HomeState) (held : Reservations) :
    List (SignedRecord JobEvent) → Except HomeError Reservations
  | [] => .ok held
  | event :: rest => do
    let held ← reserveForEvent state event.payload held
    reserveForEvents state held rest

def releaseForReceipt (state : HomeState) (held : Reservations) (receipt : ExecutionReceipt) :
    Except HomeError Reservations :=
  match receipt.stage with
  | .controlAcknowledged control _ _ =>
    if (state.forwardedControls.get? (controlKey receipt.attempt.job control)).any fun retained =>
        retained.acknowledgedReceiptHash = none then do
      let controls ← checkedDecrement held.controls "control-ack reservation count underflowed"
      pure { held with controls }
    else pure held
  | _ => pure held

def Reservations.total (held : Reservations) : Except HomeError Nat :=
  if held.jobs + held.controls < 2 ^ 64 then .ok (held.jobs + held.controls)
  else .error (.capacity "Home safety reservation count overflowed")

/-- The slots the journal must keep free once the record is in it. -/
def homeReservationsAfter (state : HomeState) (record : HomeLedgerRecord) : Except HomeError Nat := do
  let held ← reserveForEvents state ⟨state.nonterminalJobs, state.unacknowledgedForwardedControls⟩
    record.events
  let held ← match record.receipt with
    | some receipt => releaseForReceipt state held receipt.payload
    | none => pure held
  held.total

def homeReservations (state : HomeState) : Except HomeError Nat :=
  Reservations.total ⟨state.nonterminalJobs, state.unacknowledgedForwardedControls⟩

end Gawd.Home
