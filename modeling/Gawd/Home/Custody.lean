import Gawd.Home.Archive
import Gawd.Home.Operations

/-!
Custody of a Home: how the custody journal folds into write authority, and what an open Home does to
fence itself and hand its ledger over.
-/

namespace Gawd.Home

open Gawd.Logic Gawd.Wire Gawd.Journal

section

variable [Crypto]

def verifySourceCheckpoint (config : HomeConfig) (checkpoint : SignedRecord HomeCheckpoint) :
    Except HomeError Unit := do
  ofInvalid (validate checkpoint)
  reject (checkpoint.schema ≠ .home ∨ checkpoint.verify = false ∨
      checkpoint.signer ≠ config.authority.operationalKey ∨ checkpoint.payload.home ≠ config.home ∨
      checkpoint.payload.epoch ≠ config.epoch)
    (.unauthorized "checkpoint is not signed by this Home epoch")
  ofInvalid (config.authority.verify config.home config.epoch .custody)

def verifySourceHandoff (config : HomeConfig) (grant : SignedRecord CustodyGrant)
    (checkpoint : SignedRecord HomeCheckpoint) : Except HomeError Unit := do
  ofInvalid (verifyCustodyGrant grant)
  ofInvalid (verifyHandoffCheckpoint grant checkpoint)
  verifySourceCheckpoint config checkpoint
  reject (grant.payload.home ≠ config.home ∨ grant.payload.fromEpoch ≠ config.epoch ∨
      grant.payload.sourceRealm ≠ config.realm ∨ grant.payload.sourceNode ≠ config.node ∨
      grant.payload.sourceAuthority ≠ config.authority)
    (.unauthorized "custody grant does not authorize this exact source epoch/location")

def verifyDestinationHandoff (config : HomeConfig) (signer : Text) (grant : SignedRecord CustodyGrant)
    (checkpoint : SignedRecord HomeCheckpoint) : Except HomeError Unit := do
  ofInvalid (verifyHandoffCheckpoint grant checkpoint)
  reject (grant.payload.home ≠ config.home ∨ grant.payload.toEpoch ≠ config.epoch ∨
      grant.payload.destinationRealm ≠ config.realm ∨ grant.payload.destinationNode ≠ config.node ∨
      grant.payload.destinationOperationalKey ≠ config.authority.operational ∨
      grant.payload.sourceAuthority.abode ≠ config.authority.abode ∨
      signer ≠ grant.payload.destinationOperationalKey.payload.operationalPublicKey)
    (.unauthorized "custody grant does not authorize this exact destination epoch/location/key")

def redirectMatchesGrant (lease : HomeLease) (grant : SignedRecord CustodyGrant) : Bool :=
  lease.home = grant.payload.home ∧ lease.epoch = grant.payload.toEpoch ∧
    lease.handoff = some grant.payload.handoff ∧ lease.checkpointHash = grant.payload.checkpointHash ∧
    lease.realm = grant.payload.destinationRealm ∧ lease.node = grant.payload.destinationNode ∧
    lease.authority.operational = grant.payload.destinationOperationalKey ∧ lease.custodyGrant = some grant

def destinationLease (config : HomeConfig) (grant : SignedRecord CustodyGrant)
    (checkpoint : SignedRecord HomeCheckpoint) : Except HomeError HomeLease := do
  let lease : HomeLease :=
    { home := config.home
      epoch := config.epoch
      leaseSequence := 1
      realm := config.realm
      node := config.node
      coordinator := config.coordinator
      authority := config.authority
      handoff := some grant.payload.handoff
      custodyGrant := some grant
      checkpointHash := canonicalHash checkpoint
      issuedAtUnixMs := none
      expiresAtUnixMs := none }
  ofInvalid (validate lease)
  return lease

/-- Two records are the same when their canonical hashes are. -/
def sameRecord {α : Type} (left right : SignedRecord α) : Bool :=
  canonicalHash left = canonicalHash right

/-- `coordinator.trim().is_empty()` -/
def isBlank (coordinator : String) : Bool :=
  Text.isBlank coordinator

/-- One step of the custody journal: from the state so far to the state after the record. -/
def custodyStep (config : HomeConfig) (signer : Text) (allowInitialized : Bool) :
    Option CustodyState → CustodyLedgerRecord → Except HomeError CustodyState
  | none, .initialized home epoch routeSequence coordinator =>
    if allowInitialized ∧ home = config.home ∧ epoch = 1 ∧ config.epoch = 1 ∧ routeSequence = 1 ∧
        isBlank coordinator = false then
      .ok (.active epoch none routeSequence coordinator none)
    else .error (.state "custody journal contains an invalid state transition")
  | some (.active epoch handoff routeSequence _ none), .routeRebound next coordinator =>
    if epoch = 1 ∧ routeSequence < next ∧ isBlank coordinator = false then
      .ok (.active epoch handoff next coordinator none)
    else .error (.state "custody journal contains an invalid state transition")
  | none, .staged prepared => do
    ofInvalid (verifyCustodyPrepared prepared)
    verifyDestinationHandoff config signer prepared.payload.grant prepared.payload.checkpoint
    return .staged prepared none
  | some (.active epoch _ _ _ _), .frozen grant checkpoint =>
    if epoch = config.epoch then do
      verifySourceHandoff config grant checkpoint
      return .frozen grant checkpoint none none
    else .error (.state "custody journal contains an invalid state transition")
  | some (.frozen grant checkpoint none redirect), .prepared prepared => do
    ofInvalid (verifyCustodyPrepared prepared)
    reject (sameRecord prepared.payload.grant grant = false ∨
        sameRecord prepared.payload.checkpoint checkpoint = false)
      (.conflict "prepared proof does not continue the exact frozen handoff")
    return .frozen grant checkpoint (some prepared) redirect
  | some (.staged prepared none), .stagingReceipt staged => do
    ofInvalid (verifyCustodyStaged staged)
    reject (sameRecord staged.payload.prepared prepared = false)
      (.conflict "staging receipt does not continue the exact staged handoff")
    return .staged prepared (some staged)
  | some (.staged prepared (some staged)), .activated stagedHash lease => do
    let grant := prepared.payload.grant
    let expected ← destinationLease config grant prepared.payload.checkpoint
    reject (stagedHash ≠ canonicalHash staged ∨
        lease ≠ { expected with coordinator := lease.coordinator })
      (.conflict "activation does not continue the exact staging receipt")
    return .active config.epoch (some grant.payload.handoff) lease.leaseSequence lease.coordinator
      (some (staged, lease))
  | some (.active epoch handoff _ _ (some (staged, current))), .leaseRebound lease => do
    ofInvalid (validate lease)
    reject (isHomeLeaseCoordinatorRevision current lease = false)
      (.conflict "coordinator rebound changed an immutable Home lease binding")
    return .active epoch handoff lease.leaseSequence lease.coordinator (some (staged, lease))
  | some (.frozen grant checkpoint prepared redirect), .redirect lease => do
    ofInvalid (verifyHomeLease lease)
    reject (redirectMatchesGrant lease.payload grant = false)
      (.conflict "redirect does not match frozen handoff")
    reject (redirect.any fun current =>
        current ≠ lease ∧ isHomeLeaseCoordinatorRevision current.payload lease.payload = false)
      (.conflict "redirect revision changed an immutable Home lease binding")
    return .frozen grant checkpoint prepared (some lease)
  | _, _ => .error (.state "custody journal contains an invalid state transition")

def applyCustodyRecord (config : HomeConfig) (state : Option CustodyState) (record : CustodyLedgerRecord)
    (signer : Text) (allowInitialized : Bool) : Except HomeError CustodyState := do
  reject (signer ≠ config.authority.operationalKey)
    (.unauthorized "custody record is not signed by the configured active epoch key")
  custodyStep config signer allowInitialized state record

def replayCustody (config : HomeConfig) (allowInitialized : Bool) (state : Option CustodyState) :
    List (SignedRecord (ChainEntry CustodyLedgerRecord)) → Except HomeError (Option CustodyState)
  | [] => .ok state
  | record :: rest => do
    let next ← applyCustodyRecord config state record.payload.event record.signer allowInitialized
    replayCustody config allowInitialized (some next) rest

/-- The later safety records each phase must still be able to write. -/
def custodyReservations : CustodyState → Nat
  | .active .. => 2
  | .frozen _ _ none _ => 1
  | .frozen _ _ (some _) _ => 0
  | .staged _ none => 4
  | .staged _ (some _) => 3

def requireCustodyCapacity {α : Type} (journal : SignedJournal α) (reservedAfter : Nat) (operation : String) :
    Except HomeError Unit := do
  let remaining ← ofJournal journal.remainingRecords
  reject (remaining ≤ reservedAfter)
    (.capacity s!"custody journal cannot append {operation}; {reservedAfter} later safety records are reserved")

def appendCustody (host : Host) (record : CustodyLedgerRecord) :
    Action (SignedRecord (ChainEntry CustodyLedgerRecord)) := do
  let home ← get
  zoom FunctionHome.custodyJournal (fun custodyJournal home => { home with custodyJournal }) HomeError.journal
    (SignedJournal.append record host.signer (host.custodyFate home.custodyJournal.records.length))

def setCustody (custody : CustodyState) : Action Unit :=
  modify fun home => { home with custody }

/-- Durably move a genesis Home's return route to the live coordinator. -/
def refreshRuntimeRoute (host : Host) (coordinator : String) : Action Unit := do
  ensureAuthoritativeState
  let home ← get
  match home.custody with
  | .active epoch handoff routeSequence current activation =>
    if current = coordinator then pure ()
    else do
      reject activation.isSome
        (HomeError.state "moved Home bind did not durably refresh its lease before opening")
      reject (2 ^ 64 ≤ routeSequence + 1) (HomeError.state "home route sequence is exhausted")
      requireCustodyCapacity home.custodyJournal 2 "genesis route refresh"
      let _ ← appendCustody host (.routeRebound (routeSequence + 1) coordinator)
      setCustody (.active epoch handoff (routeSequence + 1) coordinator none)
  | _ => throw (.state "only an active Home may refresh its route")

/-- Bind the live creature: refresh the route, or stay inert with the error that prevented it. -/
def bindRuntime (host : Host) (me : Nat) : Action Unit := do
  modify fun home => { home with me := some me }
  let coordinator := toString me
  let result ← observe (refreshRuntimeRoute host coordinator)
  match (result : Except HomeError Unit) with
  | .error error => modify fun home => { home with operationalFailure := some error.display }
  | .ok _ => modify fun home => { home with config := { home.config with coordinator } }

/-- The destination-envelope proof that is in force for an active Home. -/
def effectiveRewrapOverlay (host : Host) (config : HomeConfig) :
    CustodyState → Except HomeError (Option (SignedRecord CustodyStaged))
  | .active _ _ _ _ (some (staged, _)) => do
    ofInvalid (verifyCustodyStaged staged)
    if staged.payload.rewrapReceipt.isSome then do
      reject (config.authority.prepared ≠ some staged.payload.prepared)
        (.unauthorized "active rewrap receipt is not the exact current authority lineage proof")
      return some staged
    else do
      let checkpoint := staged.payload.prepared.payload.checkpoint
      let prior ← readArchive host config checkpoint
      validateArchive config checkpoint prior
      return prior.rewrapOverlay
  | _ => .ok none

def activeOverlayRecipientBinding (host : Host) (config : HomeConfig) (custody : CustodyState) :
    Except HomeError (Option (SignedRecord RecipientKeyBinding)) := do
  let overlay ← effectiveRewrapOverlay host config custody
  match overlay with
  | none => return none
  | some overlay => do
    let requirement ← orError (.invalid "effective overlay has no rewrap declaration")
      overlay.payload.prepared.payload.grant.payload.destinationRewrap
    return some requirement.destinationBinding

/-- The archive of the whole journal of an open Home. -/
def FunctionHome.archive (home : FunctionHome) (overlay : Option (SignedRecord CustodyStaged)) :
    HomeCheckpointArchive where
  format := checkpointFormat
  home := home.config.home
  epoch := home.config.epoch
  highWaterMark := home.journal.records.length
  logRoot := home.journal.tipHash
  authorities := home.config.authorities
  records := home.journal.records
  rewrapOverlay := overlay

/-- Export a complete signed replay archive and store it by content address. -/
def createCheckpoint (host : Host) (createdAtUnixMs : Option Nat) : Action (SignedRecord HomeCheckpoint) := do
  ensureAuthoritativeState
  let home ← get
  let overlay ← effectiveRewrapOverlay host home.config home.custody
  ofJournal home.journal.ensureHealthy
  let archive := home.archive overlay
  let cap := home.config.maxCheckpointBytes
  reject (cap < Crypto.encodedLen archive) (HomeError.capacity s!"checkpoint exceeds configured cap {cap}")
  let blob ← mapError (fun error : ContractError =>
      let shown := error.display
      HomeError.invalid s!"checkpoint store refused bytes: {shown}")
    (host.putCheckpoint checkpointMediaType archive)
  verifyBlob blob archive
  mapError (fun error : ContractError =>
      let shown := error.display
      HomeError.invalid s!"checkpoint is not durable: {shown}")
    (host.checkpointBlobs blob)
  let checkpoint ← ofSigning (SignedRecord.sign .home
    (⟨home.config.home, home.config.epoch, home.journal.records.length, home.journal.tipHash, blob,
      createdAtUnixMs⟩ : HomeCheckpoint) host.signer)
  verifySourceCheckpoint home.config checkpoint
  return checkpoint

structure PreparedHandoff where
  grant : SignedRecord CustodyGrant
  checkpoint : SignedRecord HomeCheckpoint
  prepared : SignedRecord CustodyPrepared
deriving DecidableEq

/-- The handoff that already fenced this Home, if it is this one. -/
def alreadyFrozen (custody : CustodyState) (grant : SignedRecord CustodyGrant)
    (checkpoint : SignedRecord HomeCheckpoint) : Bool :=
  match custody with
  | .frozen existingGrant existingCheckpoint _ _ =>
    sameRecord existingGrant grant ∧ sameRecord existingCheckpoint checkpoint
  | _ => false

/-- A grant that declares a rewrap names the Home's current recipient binding as its source. -/
def checkSourceBinding (host : Host) (grant : SignedRecord CustodyGrant) : Action Unit :=
  match grant.payload.destinationRewrap with
  | none => pure ()
  | some requirement => do
    let binding ← cachedRecipientBinding host
    reject (binding ≠ requirement.sourceBinding)
      (HomeError.unauthorized "custody grant source binding is not the current Home recipient binding")

/-- The rewrap commitment a Prepared proof makes. -/
def rewrapCommitment (grant : SignedRecord CustodyGrant) (archive : HomeCheckpointArchive) :
    Except HomeError (Option Text × Option Nat) :=
  match grant.payload.destinationRewrap with
  | none => .ok (none, none)
  | some requirement => do
    let (inventory, inventoryHash) ← buildRewrapInventory archive requirement
    return (some inventoryHash, some inventory.length)

/-- The irreversible source fence. An append that fails freezes the process all the same. -/
def freeze (host : Host) (grant : SignedRecord CustodyGrant) (checkpoint : SignedRecord HomeCheckpoint) :
    Action Unit := do
  let home ← get
  requireCustodyCapacity home.custodyJournal 1 "source Frozen fence"
  let appended ← observe (appendCustody host (.frozen grant checkpoint))
  setCustody (.frozen grant checkpoint none none)
  match (appended : Except HomeError (SignedRecord (ChainEntry CustodyLedgerRecord))) with
  | .error error => throw error
  | .ok _ => pure ()

/-- Sign the portable proof of the fence and keep it. -/
def persistPrepared (host : Host) (grant : SignedRecord CustodyGrant) (checkpoint : SignedRecord HomeCheckpoint)
    (commitment : Option Text × Option Nat) : Action PreparedHandoff := do
  let home ← get
  let prepared ← ofSigning (SignedRecord.sign .home
    ({ grant
       checkpoint
       grantHash := canonicalHash grant
       checkpointHash := canonicalHash checkpoint
       sourceLogRoot := checkpoint.payload.logRoot
       sourceCoordinator := home.config.coordinator
       rewrapInventoryHash := commitment.1
       rewrapItemCount := commitment.2 } : CustodyPrepared) host.signer)
  ofInvalid (verifyCustodyPrepared prepared)
  requireCustodyCapacity home.custodyJournal 0 "source Prepared proof"
  let _ ← appendCustody host (.prepared prepared)
  match home.custody with
  | .frozen frozenGrant frozenCheckpoint _ redirect => do
    setCustody (.frozen frozenGrant frozenCheckpoint (some prepared) redirect)
    return ⟨grant, checkpoint, prepared⟩
  | _ => throw (.state "source lost its Frozen fence while preparing")

/-- Return the proof that is already durable, or make it. -/
def finishPrepare (host : Host) (grant : SignedRecord CustodyGrant) (checkpoint : SignedRecord HomeCheckpoint)
    (commitment : Option Text × Option Nat) : Action PreparedHandoff := do
  let home ← get
  match home.custody with
  | .frozen _ _ (some prepared) _ => do
    reject (prepared.payload.rewrapInventoryHash ≠ commitment.1 ∨
        prepared.payload.rewrapItemCount ≠ commitment.2)
      (HomeError.conflict "persisted Prepared proof differs from the recovered exact inventory")
    return ⟨grant, checkpoint, prepared⟩
  | _ => persistPrepared host grant checkpoint commitment

/-- Irreversibly fence this source for one exact root-authorized handoff. -/
def prepareHandoff (host : Host) (grant : SignedRecord CustodyGrant) (checkpoint : SignedRecord HomeCheckpoint) :
    Action PreparedHandoff := do
  let home ← get
  ofJournal home.journal.ensureHealthy
  ofJournal home.custodyJournal.ensureHealthy
  verifySourceHandoff home.config grant checkpoint
  checkSourceBinding host grant
  let frozen := alreadyFrozen home.custody grant checkpoint
  if frozen then pure ()
  else home.custody.ensureWritable
  reject (frozen = false ∧
      (home.journal.records.length ≠ checkpoint.payload.highWaterMark ∨
        home.journal.tipHash ≠ checkpoint.payload.logRoot))
    (HomeError.conflict "checkpoint became stale before the source fence")
  let archive ← readArchive host home.config checkpoint
  validateArchive home.config checkpoint archive
  verifyRequiredBlobs host.checkpointBlobs archive
  let commitment ← rewrapCommitment grant archive
  if frozen then pure ()
  else freeze host grant checkpoint
  finishPrepare host grant checkpoint commitment

/-- Keep a verified activation lease of the destination as a read-only redirect. -/
def recordHandoffRedirect (host : Host) (lease : SignedRecord HomeLease) : Action Unit := do
  let home ← get
  ofJournal home.journal.ensureHealthy
  ofJournal home.custodyJournal.ensureHealthy
  ofInvalid (verifyHomeLease lease)
  reject (lease.schema ≠ .locate) (HomeError.invalid "redirect lease uses the wrong schema")
  match home.custody with
  | .frozen grant checkpoint prepared redirect => do
    reject (redirectMatchesGrant lease.payload grant = false)
      (HomeError.unauthorized "activation lease does not match the frozen custody grant")
    if redirect = some lease then pure ()
    else do
      reject (redirect.any fun existing =>
          isHomeLeaseCoordinatorRevision existing.payload lease.payload = false)
        (HomeError.conflict "a different redirect is already retained for this handoff")
      let _ ← appendCustody host (.redirect lease)
      setCustody (.frozen grant checkpoint prepared (some lease))
  | _ => throw (.state "only a frozen source can retain a redirect")

end

end Gawd.Home
