import Gawd.Home.Custody

/-!
A Home root on disk: opening it, and staging and activating a handoff at the destination.
-/

namespace Gawd.Home

open Gawd.Logic Gawd.Wire Gawd.Journal

structure ImportedAuthorityHistory where
  format : String
  home : HomeId
  authorities : List HomeAuthority
deriving DecidableEq

/-- The files of one Home root. -/
structure Disk where
  job : Files HomeLedgerRecord
  custody : Files CustodyLedgerRecord
  importedAuthorities : Option ImportedAuthorityHistory
  currentAuthority : Option (SignedRecord CustodyPrepared)

def Disk.empty : Disk := ⟨.empty, .empty, none, none⟩

abbrev Storage := EStateM HomeError Disk

def maxAuthorityHistoryBytes : Nat := 1024 * 1024

/-- The authority of a moved epoch, completed by the proof of its source. -/
def HomeAuthority.complete (authority : HomeAuthority) (prepared : SignedRecord CustodyPrepared) : HomeAuthority :=
  .mk authority.abode authority.operational (some prepared)

section

variable [Crypto]

/-- Add the imported authorities to those of the configuration, by epoch. -/
def mergeAuthorities (epoch : Nat) (byEpoch : SortedMap Nat HomeAuthority) :
    List HomeAuthority → Except HomeError (SortedMap Nat HomeAuthority)
  | [] => .ok byEpoch
  | authority :: rest => do
    let imported := authority.operational.payload.epoch
    reject (epoch ≤ imported)
      (.configuration "imported authority epoch is not historical at this destination")
    match byEpoch.get? imported with
    | some existing => do
      reject (existing ≠ authority)
        (.conflict s!"two root-proven authority chains claim imported epoch {imported}")
      mergeAuthorities epoch byEpoch rest
    | none => mergeAuthorities epoch (byEpoch.insert imported authority) rest

def mergeImportedAuthorities (config : HomeConfig) (imported : Option ImportedAuthorityHistory) :
    Except HomeError HomeConfig :=
  match imported with
  | none => .ok config
  | some imported => do
    reject (imported.format ≠ checkpointFormat ∨ imported.home ≠ config.home)
      (.invalid "imported authority history belongs to another Home/format")
    let _ ← authoritiesByKey config.home imported.authorities
    let configured : SortedMap Nat HomeAuthority := config.historicalAuthorities.foldl
      (fun byEpoch authority => byEpoch.insert authority.operational.payload.epoch authority) ∅
    let merged ← mergeAuthorities config.epoch configured imported.authorities
    return { config with historicalAuthorities := merged.values }

def verifyCapabilities (config : HomeConfig) : List OperationalCapability → Except HomeError Unit
  | [] => .ok ()
  | capability :: rest => do
    ofInvalid (config.authority.verify config.home config.epoch capability)
    verifyCapabilities config rest

def installPreparedAuthority (config : HomeConfig) (prepared : SignedRecord CustodyPrepared) :
    Except HomeError HomeConfig := do
  ofInvalid (verifyCustodyPrepared prepared)
  let grant := prepared.payload.grant.payload
  reject (grant.home ≠ config.home ∨ grant.toEpoch ≠ config.epoch ∨ grant.destinationRealm ≠ config.realm ∨
      grant.destinationNode ≠ config.node ∨ grant.destinationOperationalKey ≠ config.authority.operational ∨
      grant.sourceAuthority.abode ≠ config.authority.abode)
    (.unauthorized "Prepared proof does not complete this exact destination authority/location")
  let completed := { config with authority := HomeAuthority.complete config.authority prepared }
  verifyCapabilities completed [.jobHome, .jobControl, .custody, .locate]
  return completed

/-- Recover the source-fence proof that completes a moved Home's authority. -/
def mergeCurrentAuthority (config : HomeConfig) (persisted : Option (SignedRecord CustodyPrepared)) :
    Except HomeError HomeConfig :=
  if config.epoch = 1 then do
    reject (config.authority.prepared.isSome ∨ persisted.isSome)
      (.conflict "genesis Home must not carry persisted moved-epoch authority")
    return config
  else
    match config.authority.prepared, persisted with
    | some configured, some persisted => do
      reject (configured ≠ persisted) (.conflict "configured and persisted current authority proofs differ")
      installPreparedAuthority config persisted
    | none, some prepared => installPreparedAuthority config prepared
    | some prepared, none => installPreparedAuthority config prepared
    | none, none => .ok config

/-- Write a small file once; an error may leave it written. -/
def replaceFile (fate : Replacement) (write : Disk → Disk) : Storage Unit :=
  match fate with
  | .done => modify write
  | .failed visible message => do
    if visible then modify write
    throw (.invalid s!"custody metadata I/O failed: {message}")

def persistCurrentAuthority (host : Host) (config : HomeConfig) (prepared : SignedRecord CustodyPrepared) :
    Storage HomeConfig := do
  let completed ← installPreparedAuthority config prepared
  reject (maxAuthorityHistoryBytes < Crypto.encodedLen prepared)
    (HomeError.capacity "current authority proof exceeds its bounded metadata cap")
  let disk ← get
  match disk.currentAuthority with
  | some existing =>
    reject (existing ≠ prepared)
      (HomeError.conflict "destination already contains a different current authority proof")
  | none =>
    replaceFile host.currentAuthorityFate fun disk => { disk with currentAuthority := some prepared }
  return completed

def persistImportedAuthorities (host : Host) (config : HomeConfig) (authorities : List HomeAuthority) :
    Storage Unit := do
  let _ ← authoritiesByKey config.home authorities
  let history : ImportedAuthorityHistory := ⟨checkpointFormat, config.home, authorities⟩
  reject (maxAuthorityHistoryBytes < Crypto.encodedLen history)
    (HomeError.capacity "imported authority history exceeds its bounded metadata cap")
  let disk ← get
  match disk.importedAuthorities with
  | some existing =>
    reject (existing ≠ history)
      (HomeError.conflict "destination already contains a different imported authority history")
  | none =>
    replaceFile host.importedAuthoritiesFate fun disk => { disk with importedAuthorities := some history }

abbrev CustodyJournal := SignedJournal CustodyLedgerRecord

def openCustodyJournal (host : Host) (config : HomeConfig) (allowInitialized : Bool) :
    Storage (CustodyJournal × Option CustodyState) := do
  let authorized ← authoritiesByKey config.home config.authorities
  let disk ← get
  let journal ← ofJournal (SignedJournal.openWithAuthority disk.custody custodyJournalSchema
    config.journalCaps (fun candidate _ => authorized.contains candidate) host.custodyFence)
  set { disk with custody := journal.files }
  let state ← replayCustody config allowInitialized none journal.records
  match state with
  | none => pure ()
  | some recovered => do
    let reservations := custodyReservations recovered
    let remaining ← ofJournal journal.remainingRecords
    reject (remaining < reservations)
      (HomeError.capacity
        s!"recovered custody phase requires {reservations} safety records beyond the configured journal cap")
  return (journal, state)

/-- Append to a custody journal that no Home process holds. -/
def appendToDisk (host : Host) (journal : CustodyJournal) (record : CustodyLedgerRecord) :
    Storage CustodyJournal := fun disk =>
  match SignedJournal.append record host.signer (host.custodyFate journal.records.length) journal with
  | .ok _ after => .ok after { disk with custody := after.files }
  | .error error after => .error (.journal error) { disk with custody := after.files }

def initializeCustody (host : Host) (config : HomeConfig) (journal : CustodyJournal) :
    Storage (CustodyJournal × CustodyState) := do
  requireCustodyCapacity journal 2 "custody genesis"
  let journal ← appendToDisk host journal (.initialized config.home config.epoch 1 config.coordinator)
  return (journal, .active config.epoch none 1 config.coordinator none)

def openOrInitializeCustody (host : Host) (config : HomeConfig) (homeJournalEmpty : Bool) :
    Storage (CustodyJournal × CustodyState) := do
  let (journal, state) ← openCustodyJournal host config true
  match state with
  | some (.staged _ _) =>
    throw (.state "destination is staged but inactive; complete activation before opening")
  | some state => return (journal, state)
  | none => do
    reject (config.epoch ≠ 1 ∨ homeJournalEmpty = false)
      (HomeError.state "missing custody genesis for an existing/non-genesis Home")
    initializeCustody host config journal

def asConfiguration {α : Type} : Except ContractError α → Except HomeError α :=
  mapError fun error => .configuration error.display

/-- The keys whose records the Job journal may hold, with their epochs. -/
def authorizeHistory (config : HomeConfig) (authorized : SortedMap Text Nat) :
    List HomeAuthority → Except HomeError (SortedMap Text Nat)
  | [] => .ok authorized
  | authority :: rest => do
    let epoch := authority.operational.payload.epoch
    reject (config.epoch ≤ epoch)
      (.configuration "historical authority epoch must precede the current epoch")
    asConfiguration (authority.verify config.home epoch .jobHome)
    reject (authorized.contains authority.operationalKey)
      (.configuration "one operational key is granted for multiple epochs")
    authorizeHistory config (authorized.insert authority.operationalKey epoch) rest

/-- The checks of a configuration, and the keys it authorizes. -/
def checkConfig (host : Host) (config : HomeConfig) : Except HomeError (SortedMap Text Nat) := do
  ofInvalid (validate config.home)
  reject (config.epoch = 0 ∨ config.maxJobs = 0 ∨ config.maxCheckpointBytes = 0 ∨
      isBlank config.coordinator = true ∨ isBlank config.realm = true ∨ isBlank config.node = true)
    (.configuration "epoch, max_jobs, and coordinator must be non-zero/non-empty")
  asConfiguration (config.authority.verify config.home config.epoch .jobHome)
  asConfiguration (config.authority.verify config.home config.epoch .jobControl)
  reject (config.authority.operationalKey ≠ host.signer.publicKey)
    (.configuration "current authority does not grant the injected operational signer")
  authorizeHistory config (SortedMap.insert ∅ host.signer.publicKey config.epoch) config.historicalAuthorities

/-- The recipient binding that durable values already fix, checked against the rewrapper's. -/
def recoverRecipientBinding (host : Host) (config : HomeConfig) (custody : CustodyState)
    (records : List (SignedRecord (ChainEntry HomeLedgerRecord))) :
    Except HomeError (Option (SignedRecord RecipientKeyBinding)) := do
  let overlayBinding ← activeOverlayRecipientBinding host config custody
  let directConstraint ←
    if overlayBinding.isNone then durableDirectRecipientConstraint config.home records else pure none
  if overlayBinding.isNone ∧ directConstraint.isNone then
    return none
  else
    let binding ← mapError (fun error => HomeError.state s!"custody key rewrapper unavailable: {error}")
      host.currentBinding
    verifyCurrentRecipientBinding config binding
    reject (overlayBinding.any fun required => binding ≠ required)
      (.unauthorized "custody rewrapper binding differs from the effective checkpoint overlay")
    reject (directConstraint.any fun required =>
        canonicalHash binding ≠ required.1 ∨ binding.payload.suite ≠ required.2)
      (.unauthorized "custody rewrapper binding differs from durable direct Home envelopes")
    return some binding

def openJobJournal (host : Host) (config : HomeConfig) (authorized : SortedMap Text Nat) :
    Storage (SignedJournal HomeLedgerRecord) := do
  let disk ← get
  let journal ← ofJournal (SignedJournal.openWithAuthority disk.job homeJournalSchema config.journalCaps
    (entryAuthorized authorized) host.jobFence)
  set { disk with job := journal.files }
  return journal

/-- Fold the recovered journal into a state that still fits its caps. -/
def recoverState (config : HomeConfig) (journal : SignedJournal HomeLedgerRecord) : Except HomeError HomeState :=
  match replay config journal.events .initial with
  | .error error _ => .error error
  | .ok _ state => do
    let reservations ← homeReservations state
    let remaining ← ofJournal journal.remainingRecords
    reject (remaining < reservations)
      (.capacity
        s!"recovered Home requires {reservations} terminal/control-ack slots beyond the configured journal cap")
    reject (config.maxJobs < state.jobs.size) (.capacity "recovered jobs exceed configured cap")
    return state

/-- Open a Home root: complete its authority, recover both journals and rebuild its state. -/
def openHome (host : Host) (configured : HomeConfig) : Storage FunctionHome := do
  let disk ← get
  let merged ← mergeImportedAuthorities configured disk.importedAuthorities
  let config ← mergeCurrentAuthority merged disk.currentAuthority
  let authorized ← checkConfig host config
  let journal ← openJobJournal host config authorized
  let (custodyJournal, custody) ← openOrInitializeCustody host config journal.records.isEmpty
  let state ← recoverState config journal
  let config := { config with coordinator := custody.activeCoordinator.getD config.coordinator }
  let binding ← recoverRecipientBinding host config custody journal.records
  return ⟨config, journal, custodyJournal, state, custody, binding, none, none⟩

/-- The destination's signed request to its rewrapper, when the grant declares a rewrap. -/
def rewrapRequest (host : Host) (config : HomeConfig) (prepared : SignedRecord CustodyPrepared) :
    Except HomeError (Option (SignedRecord CustodyRewrapRequest)) :=
  let grant := prepared.payload.grant
  match grant.payload.destinationRewrap with
  | none => .ok none
  | some requirement => do
    let binding ← mapError (fun error => HomeError.state s!"custody key rewrapper unavailable: {error}")
      host.currentBinding
    verifyCurrentRecipientBinding config binding
    reject (binding ≠ requirement.destinationBinding)
      (.unauthorized "custody rewrapper does not serve the exact destination binding")
    let inventoryHash ← orError (.invalid "Prepared proof omits its declared rewrap inventory")
      prepared.payload.rewrapInventoryHash
    let itemCount ← orError (.invalid "Prepared proof omits its declared rewrap count")
      prepared.payload.rewrapItemCount
    let request ← ofSigning (SignedRecord.sign .custodyRewrap
      ({ home := grant.payload.home
         handoff := grant.payload.handoff
         preparedHash := canonicalHash prepared
         grantHash := prepared.payload.grantHash
         checkpointHash := prepared.payload.checkpointHash
         requirementHash := canonicalHash requirement
         inventoryHash
         itemCount } : CustodyRewrapRequest) host.signer)
    ofInvalid (verifyCustodyRewrapRequest request prepared)
    return some request

/-- The rewrapper's receipt for exactly that request. -/
def rewrapReceipt (host : Host) (prepared : SignedRecord CustodyPrepared) (inventory : List CustodyRewrapSource) :
    Option (SignedRecord CustodyRewrapRequest) → Except HomeError (Option (SignedRecord CustodyRewrapReceipt))
  | none => .ok none
  | some request => do
    let receipt ← mapError (fun error => HomeError.state s!"custody key rewrapper refused inventory: {error}")
      (host.rewrap request inventory)
    reject (receipt.payload.request ≠ request)
      (.conflict "custody rewrapper receipt does not contain the exact signed request")
    ofInvalid (verifyCustodyRewrapReceipt receipt prepared)
    return some receipt

/-- Put the archive's records in place as this root's Job journal. -/
def installArchive (host : Host) (config : HomeConfig) (archive : HomeCheckpointArchive) : Storage Unit := do
  let authorities ← authoritiesByKey archive.home archive.authorities
  verifyCompleteAuthorityLineage archive.home archive.authorities
  zoom Disk.job (fun job disk => { disk with job }) HomeError.journal
    (SignedJournal.installSnapshot homeJournalSchema archive.records config.journalCaps
      (entryAuthorized authorities) host.snapshotLogFate host.snapshotHeadFate)

/-- Sign the staging receipt and keep it in the custody journal. -/
def signStaged (host : Host) (config : HomeConfig) (prepared : SignedRecord CustodyPrepared)
    (receipt : Option (SignedRecord CustodyRewrapReceipt)) (journal : CustodyJournal) :
    Storage (SignedRecord CustodyStaged) := do
  let staged ← ofSigning (SignedRecord.sign .home
    ({ prepared
       preparedHash := canonicalHash prepared
       grantHash := canonicalHash prepared.payload.grant
       checkpointHash := canonicalHash prepared.payload.checkpoint
       destinationRealm := config.realm
       destinationNode := config.node
       destinationCoordinator := config.coordinator
       rewrapReceipt := receipt } : CustodyStaged) host.signer)
  ofInvalid (verifyCustodyStaged staged)
  requireCustodyCapacity journal 3 "destination StagingReceipt"
  let _ ← appendToDisk host journal (.stagingReceipt staged)
  return staged

/-- Install the archive behind a staged marker, and return the receipt: the one kept, or a new one. -/
def finishStage (host : Host) (config : HomeConfig) (prepared : SignedRecord CustodyPrepared)
    (archive : HomeCheckpointArchive) (inventory : List CustodyRewrapSource)
    (request : Option (SignedRecord CustodyRewrapRequest)) (journal : CustodyJournal)
    (staging : Option (SignedRecord CustodyStaged)) : Storage (SignedRecord CustodyStaged) := do
  installArchive host config archive
  match staging with
  | some staged => return staged
  | none => do
    let receipt ← rewrapReceipt host prepared inventory request
    signStaged host config prepared receipt journal

/-- Stage a handoff at its destination: verify the proof and the archive, mark the custody journal,
install the ledger and sign for it. -/
def stageHandoff (host : Host) (configured : HomeConfig) (prepared : SignedRecord CustodyPrepared) :
    Storage (SignedRecord CustodyStaged) := do
  ofInvalid (verifyCustodyPrepared prepared)
  let checkpoint := prepared.payload.checkpoint
  verifyDestinationHandoff configured host.signer.publicKey prepared.payload.grant checkpoint
  let config ← persistCurrentAuthority host configured prepared
  let archive ← readArchive host config checkpoint
  validateArchive config checkpoint archive
  verifyRequiredBlobs host.checkpointBlobs archive
  let inventory ← verifyPreparedArchiveRewrap prepared archive
  let request ← rewrapRequest host config prepared
  persistImportedAuthorities host config archive.authorities
  let (journal, state) ← openCustodyJournal host config false
  match state with
  | some (.staged existing staging) => do
    reject (sameRecord existing prepared = false)
      (HomeError.conflict "destination contains a different custody state")
    finishStage host config prepared archive inventory request journal staging
  | some (.active _ _ _ _ (some (staged, _))) => do
    reject (sameRecord staged.payload.prepared prepared = false)
      (HomeError.conflict "destination contains a different custody state")
    return staged
  | none => do
    requireCustodyCapacity journal 4 "destination Staged marker"
    let journal ← appendToDisk host journal (.staged prepared)
    finishStage host config prepared archive inventory request journal none
  | _ => throw (.conflict "destination contains a different custody state")

def verifyInstalledArchive (host : Host) (config : HomeConfig) (archive : HomeCheckpointArchive) : Storage Unit := do
  let authorized ← authoritiesByKey archive.home archive.authorities
  let journal ← openJobJournal host config authorized
  reject (journal.records.length ≠ archive.records.length ∨ journal.tipHash ≠ archive.logRoot)
    (HomeError.conflict "installed destination journal differs from staged checkpoint")

/-- The Activated fence of a staged destination. -/
def activate (host : Host) (config : HomeConfig) (journal : CustodyJournal)
    (prepared : SignedRecord CustodyPrepared) (staged : SignedRecord CustodyStaged) : Storage HomeLease := do
  let grant := prepared.payload.grant
  let checkpoint := prepared.payload.checkpoint
  verifyDestinationHandoff config host.signer.publicKey grant checkpoint
  let archive ← readArchive host config checkpoint
  validateArchive config checkpoint archive
  verifyRequiredBlobs host.checkpointBlobs archive
  let _ ← verifyPreparedArchiveRewrap prepared archive
  verifyInstalledArchive host config archive
  let lease ← destinationLease config grant checkpoint
  requireCustodyCapacity journal 2 "destination Activated fence"
  let _ ← appendToDisk host journal (.activated (canonicalHash staged) lease)
  return lease

def signLease (host : Host) (lease : HomeLease) : Except HomeError (SignedRecord HomeLease) := do
  let signed ← ofSigning (SignedRecord.sign .locate lease host.signer)
  ofInvalid (verifyHomeLease signed)
  return signed

/-- Finish a staged install and return the destination's signed lease. -/
def activateStagedHandoff (host : Host) (configured : HomeConfig) (staged : SignedRecord CustodyStaged) :
    Storage (SignedRecord HomeLease) := do
  let disk ← get
  let config ← mergeCurrentAuthority configured disk.currentAuthority
  ofInvalid (verifyCustodyStaged staged)
  let (journal, state) ← openCustodyJournal host config false
  match state with
  | some (.staged prepared (some persisted)) => do
    reject (sameRecord persisted staged = false ∨ sameRecord staged.payload.prepared prepared = false)
      (HomeError.state "destination has no exact, receipt-bearing staged handoff to activate")
    let lease ← activate host config journal prepared staged
    signLease host lease
  | some (.active _ _ _ _ (some (persisted, lease))) => do
    reject (sameRecord persisted staged = false)
      (HomeError.conflict "activation request names a different staging receipt")
    signLease host lease
  | _ => throw (.state "destination has no exact, receipt-bearing staged handoff to activate")

structure ActiveLeaseRevision where
  lease : SignedRecord HomeLease
  sourceRealm : String
  sourceNode : String
  sourceCoordinator : String

/-- Durably move an active destination's lease to the live coordinator before it opens. -/
def refreshActiveDestinationLease (host : Host) (config : HomeConfig) : Storage (Option ActiveLeaseRevision) := do
  let (journal, state) ← openCustodyJournal host config false
  match state with
  | none => return none
  | some (.staged _ _) => return none
  | some (.active _ _ _ _ (some (staged, current))) => do
    reject (2 ^ 64 ≤ current.leaseSequence + 1) (HomeError.state "home lease sequence is exhausted")
    let next : HomeLease :=
      { current with leaseSequence := current.leaseSequence + 1, coordinator := config.coordinator }
    ofInvalid (validate next)
    reject (isHomeLeaseCoordinatorRevision current next = false)
      (HomeError.conflict "coordinator refresh changed an immutable Home lease binding")
    requireCustodyCapacity journal 2 "active lease revision"
    let _ ← appendToDisk host journal (.leaseRebound next)
    let lease ← signLease host next
    let prepared := staged.payload.prepared.payload
    let grant := prepared.grant.payload
    return some ⟨lease, grant.sourceRealm, grant.sourceNode, prepared.sourceCoordinator⟩
  | _ => throw (.state "custody destination is not an active moved Home")

end

end Gawd.Home
