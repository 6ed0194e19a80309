import Gawd.Home.Ledger

/-!
Checkpoint archives: the complete signed replay history of one Home epoch, the lineage of authorities
that may have signed it, and the inventory of Home-addressed sealed values it carries.

A checkpoint blob is represented by the archive its bytes encode: its digest is the canonical hash of
the archive and its size the length of the canonical encoding.
-/

namespace Gawd.Home

open Gawd.Logic Gawd.Wire Gawd.Journal

def checkpointFormat : String := "gawd.function.home.checkpoint.archive.v1"

def checkpointMediaType : String := "application/vnd.gawd.function-home-checkpoint.v1+json"

/-- The value an executor stage carries. -/
def stageValues : ExecutionStage → List ValueRef
  | .progress _ progress => [progress]
  | .checkpoint _ checkpoint => [checkpoint]
  | .succeeded result => [result]
  | .failed error _ => [error]
  | _ => []

def eventValues : JobEventKind → List ValueRef
  | .submitted spec => [spec.input]
  | .progress _ _ progress => [progress]
  | .checkpoint _ _ checkpoint => [checkpoint]
  | .attemptFailed _ error _ | .failed error => [error]
  | .succeeded _ result => [result]
  | .controlRequested request _ =>
    match request.payload.kind with
    | .steer value => [value]
    | .proposeChild _ _ _ _ submit _ _ => [submit.payload.input]
    | .cancel _ | .accessUpdate .. => []
  | _ => []

/-- The values of one ledger record, in the order they are visited. -/
def recordValues (record : HomeLedgerRecord) : List ValueRef :=
  (record.grant.map fun grant => grant.payload.input).toList ++
    ((record.receipt.map fun receipt => stageValues receipt.payload.stage).getD []) ++
    record.events.flatMap fun event => eventValues event.payload.kind

def HomeCheckpointArchive.values (archive : HomeCheckpointArchive) : List ValueRef :=
  archive.records.flatMap fun record => recordValues record.payload.event

/-- Every byte reference of the archive is available. -/
def requireBlobs (blobs : BlobAvailability) : List ValueRef → Except HomeError Unit
  | [] => .ok ()
  | value :: rest => do
    mapError (fun error : ContractError =>
        let shown := error.display
        HomeError.invalid s!"checkpoint dependency is unavailable: {shown}")
      (value.verifyAvailable blobs)
    requireBlobs blobs rest

def verifyRequiredBlobs (blobs : BlobAvailability) (archive : HomeCheckpointArchive) : Except HomeError Unit :=
  requireBlobs blobs archive.values

/-- The wraps of a sealed value that are addressed to the Home. -/
def directWraps (home : HomeId) (value : SealedValue) : List RecipientKeyWrap :=
  value.recipients.filter fun wrap => wrap.recipient = home

/-- The one recipient binding that the durable Home envelopes use, if there are any. -/
def directConstraint (home : HomeId) (binding : Option (Text × String)) :
    List ValueRef → Except HomeError (Option (Text × String))
  | [] => .ok binding
  | .sealed value :: rest =>
    match directWraps home value with
    | [] => directConstraint home binding rest
    | [wrap] => do
      reject (binding.any fun existing => existing ≠ (wrap.bindingHash, value.suite))
        (.conflict "durable Home values use multiple recipient bindings without an overlay")
      directConstraint home (some (wrap.bindingHash, value.suite)) rest
    | _ => .error (.conflict "durable sealed value carries multiple direct Home envelopes")
  | _ :: rest => directConstraint home binding rest

def durableDirectRecipientConstraint (home : HomeId) (records : List (SignedRecord (ChainEntry HomeLedgerRecord))) :
    Except HomeError (Option (Text × String)) :=
  directConstraint home none (records.flatMap fun record => recordValues record.payload.event)

section

variable [Crypto]

def verifyBlob (blob : BlobRef) (archive : HomeCheckpointArchive) : Except HomeError Unit := do
  ofInvalid (validate blob)
  reject (blob.size ≠ Crypto.encodedLen archive ∨ blob.digest ≠ canonicalHash archive)
    (.invalid "checkpoint store returned bytes that do not match digest/size")

/-- The key and epoch of each authority; no key and no epoch may occur twice. -/
def authorityMap (home : HomeId) (keys : SortedMap Text Nat) (epochs : List Nat) :
    List HomeAuthority → Except HomeError (SortedMap Text Nat)
  | [] => .ok keys
  | authority :: rest => do
    let epoch := authority.operational.payload.epoch
    ofInvalid (authority.verify home epoch .jobHome)
    reject (keys.contains authority.operationalKey ∨ epoch ∈ epochs)
      (.conflict "checkpoint authority history contains a duplicate key/epoch")
    authorityMap home (keys.insert authority.operationalKey epoch) (epoch :: epochs) rest

def authoritiesByKey (home : HomeId) (authorities : List HomeAuthority) :
    Except HomeError (SortedMap Text Nat) :=
  authorityMap home ∅ [] authorities

def authoritiesByEpoch (home : HomeId) (byEpoch : SortedMap Nat HomeAuthority) :
    List HomeAuthority → Except HomeError (SortedMap Nat HomeAuthority)
  | [] => .ok byEpoch
  | authority :: rest => do
    let epoch := authority.operational.payload.epoch
    ofInvalid (authority.verify home epoch .jobHome)
    reject (byEpoch.contains epoch) (.conflict "checkpoint authority history repeats an epoch")
    authoritiesByEpoch home (byEpoch.insert epoch authority) rest

/-- Each listed epoch continues the one before it through its exact source authority. -/
def requireLineage (byEpoch : SortedMap Nat HomeAuthority) : List Nat → Except HomeError Unit
  | [] => .ok ()
  | epoch :: rest => do
    let authority ← orError
      (.unauthorized "checkpoint authority history omits an epoch in its custody lineage") (byEpoch.get? epoch)
    if epoch = 1 then pure ()
    else do
      let prior ← orError
        (.unauthorized "checkpoint authority history omits an epoch in its custody lineage")
        (byEpoch.get? (epoch - 1))
      let prepared ← orError (.unauthorized "moved checkpoint authority omits Prepared proof")
        authority.prepared
      reject (prepared.payload.grant.payload.sourceAuthority ≠ prior)
        (.unauthorized "checkpoint authorities do not form one exact custody lineage")
    requireLineage byEpoch rest

def verifyCompleteAuthorityLineage (home : HomeId) (authorities : List HomeAuthority) :
    Except HomeError Unit := do
  let byEpoch ← authoritiesByEpoch home ∅ authorities
  let highest ← orError (.unauthorized "checkpoint authority history is empty") byEpoch.entries.getLast?
  requireLineage byEpoch (List.range' 1 highest.1)

/-- Whether a record's epoch key vouches for every event and grant in it. -/
def entryAuthorized (authorized : SortedMap Text Nat) (signer : Text) (entry : ChainEntry HomeLedgerRecord) : Bool :=
  (authorized.get? signer).any fun epoch =>
    entry.event.events ≠ [] ∧ (∀ event ∈ entry.event.events, event.payload.homeEpoch = epoch) ∧
      ∀ grant ∈ entry.event.grant, grant.payload.homeEpoch = epoch

/-- Walk the archive's chain and return its tip. -/
def walkArchive (authorized : SortedMap Text Nat) :
    (index : Nat) → (tip : Text) → List (SignedRecord (ChainEntry HomeLedgerRecord)) → Except HomeError Text
  | _, tip, [] => .ok tip
  | index, tip, record :: rest => do
    reject (record.schema ≠ homeJournalSchema ∨ record.verify = false ∨ record.payload.sequence ≠ index ∨
        record.payload.previousHash ≠ tip)
      (.unauthorized s!"checkpoint journal record {index} breaks its signed chain")
    reject (authorized.contains record.signer = false)
      (.unauthorized s!"checkpoint journal record {index} uses an ungranted signer")
    reject (entryAuthorized authorized record.signer record.payload = false)
      (.unauthorized s!"checkpoint journal record {index} crosses Home authority epochs")
    walkArchive authorized (index + 1) (canonicalHash record) rest

/-- The sealed values of an archive by canonical hash. -/
def collectSealed (found : SortedMap Text SealedValue) : List ValueRef → Except HomeError (SortedMap Text SealedValue)
  | [] => .ok found
  | .sealed value :: rest =>
    match found.get? (canonicalHash value) with
    | some existing => do
      reject (existing ≠ value)
        (.conflict "checkpoint contains divergent sealed values under one canonical hash")
      collectSealed found rest
    | none => collectSealed (found.insert (canonicalHash value) value) rest
  | _ :: rest => collectSealed found rest

def sealedArchiveValues (archive : HomeCheckpointArchive) : Except HomeError (SortedMap Text SealedValue) :=
  collectSealed ∅ archive.values

def collectOverlay (sealedValues : SortedMap Text SealedValue) (suite : String)
    (wraps : SortedMap Text RecipientKeyWrap) :
    List CustodyRewrapEntry → Except HomeError (SortedMap Text RecipientKeyWrap)
  | [] => .ok wraps
  | entry :: rest => do
    let value ← orError (.conflict "checkpoint rewrap overlay contains an entry absent from the archive")
      (sealedValues.get? entry.sealedValueHash)
    reject (value.ciphertext ≠ entry.ciphertext ∨ value.suite ≠ suite)
      (.conflict "checkpoint rewrap overlay does not match the exact sealed ciphertext and suite")
    reject (wraps.contains entry.sealedValueHash)
      (.conflict "checkpoint rewrap overlay repeats a sealed value")
    collectOverlay sealedValues suite (wraps.insert entry.sealedValueHash entry.destinationWrap) rest

/-- The destination envelopes of the archive's rewrap overlay, if it carries one. -/
def verifiedOverlayWraps (archive : HomeCheckpointArchive) : Except HomeError (SortedMap Text RecipientKeyWrap) :=
  match archive.rewrapOverlay with
  | none => .ok ∅
  | some overlay => do
    ofInvalid (verifyCustodyStaged overlay)
    let prepared := overlay.payload.prepared
    let grant := prepared.payload.grant.payload
    reject (grant.home ≠ archive.home ∨ archive.epoch < grant.toEpoch)
      (.unauthorized "checkpoint rewrap overlay is not an ancestral proof for this Home epoch")
    let authority ← orError
      (.unauthorized "checkpoint rewrap overlay destination authority is absent from its lineage")
      (archive.authorities.find? fun authority => authority.operational.payload.epoch = grant.toEpoch)
    reject (authority.operational ≠ grant.destinationOperationalKey ∨ authority.prepared ≠ some prepared)
      (.unauthorized "checkpoint rewrap overlay is not the exact Prepared proof in its authority lineage")
    let receipt ← orError (.invalid "checkpoint rewrap overlay omits its aggregate receipt")
      overlay.payload.rewrapReceipt
    let requirement ← orError (.invalid "checkpoint rewrap overlay has no root declaration")
      grant.destinationRewrap
    let sealedValues ← sealedArchiveValues archive
    collectOverlay sealedValues requirement.destinationBinding.payload.suite ∅ receipt.payload.entries

/-- The source envelope of one Home-addressed value: direct or overlaid, but only one of the two. -/
def sourceWrap (bindingHash : Text) (direct overlay : Option RecipientKeyWrap) :
    Except HomeError RecipientKeyWrap :=
  match (direct.toList ++ overlay.toList).filter fun wrap => wrap.bindingHash = bindingHash with
  | [] => .error (.conflict "Home-addressed sealed value has no envelope for the current source binding")
  | [wrap] => .ok wrap
  | _ => .error (.conflict "Home-addressed sealed value has ambiguous direct and overlay source envelopes")

def inventoryItem (home : HomeId) (requirement : CustodyRewrapRequirement)
    (overlay : SortedMap Text RecipientKeyWrap) (hash : Text) (value : SealedValue) :
    Except HomeError (Option CustodyRewrapSource) := do
  let direct := directWraps home value
  reject (1 < direct.length) (.conflict "checkpoint sealed value carries multiple direct Home envelopes")
  if direct = [] ∧ overlay.contains hash = false then
    return none
  else
    reject (value.suite ≠ requirement.sourceBinding.payload.suite)
      (.conflict "Home-addressed sealed value uses a different suite than the source binding")
    let wrap ← sourceWrap (canonicalHash requirement.sourceBinding) direct.head? (overlay.get? hash)
    return some ⟨hash, value.ciphertext, wrap⟩

def collectInventory (home : HomeId) (requirement : CustodyRewrapRequirement)
    (overlay : SortedMap Text RecipientKeyWrap) (inventory : List CustodyRewrapSource) :
    List (Text × SealedValue) → Except HomeError (List CustodyRewrapSource)
  | [] => .ok inventory
  | (hash, value) :: rest => do
    let item ← inventoryItem home requirement overlay hash value
    let inventory := inventory ++ item.toList
    reject (maxCustodyRewrapItems < inventory.length)
      (.capacity s!"custody rewrap inventory exceeds {maxCustodyRewrapItems} unique values")
    collectInventory home requirement overlay inventory rest

def buildRewrapInventory (archive : HomeCheckpointArchive) (requirement : CustodyRewrapRequirement) :
    Except HomeError (List CustodyRewrapSource × Text) := do
  let overlay ← verifiedOverlayWraps archive
  let sealedValues ← sealedArchiveValues archive
  let inventory ← collectInventory archive.home requirement overlay [] sealedValues.entries
  let inventoryHash ← ofInvalid (verifyCustodyRewrapInventory archive.home requirement inventory)
  return (inventory, inventoryHash)

/-- The inventory a Prepared proof commits to is the archive's. -/
def verifyPreparedArchiveRewrap (prepared : SignedRecord CustodyPrepared) (archive : HomeCheckpointArchive) :
    Except HomeError (List CustodyRewrapSource) :=
  match prepared.payload.grant.payload.destinationRewrap with
  | none => .ok []
  | some requirement => do
    let (inventory, inventoryHash) ← buildRewrapInventory archive requirement
    reject (prepared.payload.rewrapInventoryHash ≠ some inventoryHash ∨
        prepared.payload.rewrapItemCount ≠ some inventory.length)
      (.conflict "Prepared rewrap commitment does not match the exact checkpoint inventory")
    return inventory

def readArchive (host : Host) (config : HomeConfig) (checkpoint : SignedRecord HomeCheckpoint) :
    Except HomeError HomeCheckpointArchive := do
  let archive ← mapError (fun error : ContractError =>
      let shown := error.display
      HomeError.invalid s!"checkpoint bytes unavailable: {shown}")
    (host.getCheckpoint checkpoint.payload.state)
  let len := Crypto.encodedLen archive
  let cap := config.maxCheckpointBytes
  reject (cap < len) (.capacity s!"checkpoint is {len} bytes, exceeds configured cap {cap}")
  verifyBlob checkpoint.payload.state archive
  return archive

/-- The configuration under which an archive is replayed. -/
def replayConfig (config : HomeConfig) (archive : HomeCheckpointArchive) (current : HomeAuthority) : HomeConfig :=
  { config with
    home := archive.home
    epoch := archive.epoch
    authority := current
    historicalAuthorities :=
      archive.authorities.filter fun authority => authority.operational.payload.epoch < archive.epoch }

/-- The archive replays under its own authorities, within the Job cap. -/
def checkReplay (config : HomeConfig) (archive : HomeCheckpointArchive) (current : HomeAuthority) :
    Except HomeError Unit :=
  match replay (replayConfig config archive current)
      (archive.records.map fun record => record.payload.event) .initial with
  | .error error _ => .error error
  | .ok _ state =>
    reject (config.maxJobs < state.jobs.size)
      (.capacity "checkpoint contains more jobs than destination permits")

def validateArchive (config : HomeConfig) (checkpoint : SignedRecord HomeCheckpoint)
    (archive : HomeCheckpointArchive) : Except HomeError Unit := do
  reject (archive.format ≠ checkpointFormat ∨ archive.home ≠ checkpoint.payload.home ∨
      archive.epoch ≠ checkpoint.payload.epoch ∨ archive.highWaterMark ≠ checkpoint.payload.highWaterMark ∨
      archive.logRoot ≠ checkpoint.payload.logRoot ∨ archive.records.length ≠ archive.highWaterMark)
    (.conflict "checkpoint archive metadata does not match its signed descriptor")
  let authorized ← authoritiesByKey archive.home archive.authorities
  verifyCompleteAuthorityLineage archive.home archive.authorities
  let tip ← walkArchive authorized 0 genesis archive.records
  reject (tip ≠ archive.logRoot) (.conflict "checkpoint archive hash-chain tip does not match descriptor")
  let current ← orError (.unauthorized "checkpoint omits its source epoch authority")
    (archive.authorities.find? fun authority => authority.operational.payload.epoch = archive.epoch)
  checkReplay config archive current
  let _ ← verifiedOverlayWraps archive
  return ()

/-! The authority history of an archive. -/

/-- The epochs of listed authorities. -/
def epochsOf (authorities : List HomeAuthority) : List Nat :=
  authorities.map fun authority => authority.operational.payload.epoch

/-- A Home's authorities up to an epoch: one for each epoch, each continuing the one before it. -/
structure CompleteLineage (home : HomeId) (highest : Nat) (authorities : List HomeAuthority) : Prop where
  verified : ∀ authority ∈ authorities,
    authority.verify home authority.operational.payload.epoch .jobHome = .ok ()
  epochs : (epochsOf authorities).Perm (List.range' 1 highest)
  continued : ∀ prior ∈ authorities, ∀ authority ∈ authorities,
    authority.operational.payload.epoch = prior.operational.payload.epoch + 1 →
    ∃ prepared, authority.prepared = some prepared ∧ prepared.payload.grant.payload.sourceAuthority = prior

variable {home : HomeId} {authorities : List HomeAuthority} {byEpoch result : SortedMap Nat HomeAuthority}

theorem authoritiesByEpoch_eq_ok (collected : authoritiesByEpoch home byEpoch authorities = .ok result) :
    ((∀ authority ∈ authorities, authority.verify home authority.operational.payload.epoch .jobHome = .ok ()) ∧
      (epochsOf authorities).Nodup ∧ ∀ epoch ∈ epochsOf authorities, byEpoch.get? epoch = none) ∧
    ∀ epoch authority, result.get? epoch = some authority ↔
      (authority ∈ authorities ∧ authority.operational.payload.epoch = epoch) ∨ byEpoch.get? epoch = some authority := by
  induction authorities generalizing byEpoch with
  | nil =>
    obtain rfl := Except.ok.inj collected
    simp [epochsOf]
  | cons head rest ih =>
    simp only [authoritiesByEpoch, ofInvalid, bind_eq_ok, mapError_eq_ok, reject_eq_ok] at collected
    obtain ⟨_, verified, _, fresh, later⟩ := collected
    obtain ⟨⟨all, distinct, apart⟩, lookup⟩ := ih later
    have absent : byEpoch.get? head.operational.payload.epoch = none := by
      simpa [SortedMap.contains] using fresh
    have others : ∀ epoch ∈ epochsOf rest, epoch ≠ head.operational.payload.epoch ∧ byEpoch.get? epoch = none := by
      intro epoch member
      have := apart epoch member
      rw [SortedMap.get?_insert] at this
      split at this <;> simp_all
    refine ⟨⟨List.forall_mem_cons.mpr ⟨verified, all⟩, ?_, ?_⟩, fun epoch authority => ?_⟩
    · exact List.nodup_cons.mpr ⟨fun twice => (others _ twice).1 rfl, distinct⟩
    · exact List.forall_mem_cons.mpr ⟨absent, fun epoch member => (others epoch member).2⟩
    · rw [lookup, SortedMap.get?_insert, List.mem_cons]
      by_cases hit : epoch = head.operational.payload.epoch
      · subst hit
        rw [if_pos rfl, absent, Option.some.injEq]
        constructor
        · rintro (⟨member, same⟩ | rfl)
          · exact .inl ⟨.inr member, same⟩
          · exact .inl ⟨.inl rfl, rfl⟩
        · rintro (⟨rfl | member, same⟩ | impossible)
          · exact .inr rfl
          · exact .inl ⟨member, same⟩
          · cases impossible
      · rw [if_neg hit]
        constructor
        · rintro (⟨member, same⟩ | kept)
          · exact .inl ⟨.inr member, same⟩
          · exact .inr kept
        · rintro (⟨rfl | member, same⟩ | kept)
          · exact absurd same.symm hit
          · exact .inl ⟨member, same⟩
          · exact .inr kept

theorem authoritiesByEpoch_exists (verified : ∀ authority ∈ authorities,
      authority.verify home authority.operational.payload.epoch .jobHome = .ok ())
    (distinct : (epochsOf authorities).Nodup) (fresh : ∀ epoch ∈ epochsOf authorities, byEpoch.get? epoch = none) :
    ∃ result, authoritiesByEpoch home byEpoch authorities = .ok result := by
  induction authorities generalizing byEpoch with
  | nil => exact ⟨byEpoch, rfl⟩
  | cons head rest ih =>
    obtain ⟨first, all⟩ := List.forall_mem_cons.mp verified
    obtain ⟨apart, distinct⟩ := List.nodup_cons.mp distinct
    obtain ⟨absent, fresh⟩ := List.forall_mem_cons.mp fresh
    have still : ∀ epoch ∈ epochsOf rest,
        (byEpoch.insert head.operational.payload.epoch head).get? epoch = none := by
      intro epoch member
      have other : epoch ≠ head.operational.payload.epoch := by
        rintro rfl
        exact apart member
      rw [SortedMap.get?_insert_of_ne _ _ other]
      exact fresh epoch member
    obtain ⟨result, later⟩ := ih all distinct still
    refine ⟨result, ?_⟩
    simp only [authoritiesByEpoch, ofInvalid, bind_eq_ok, mapError_eq_ok, reject_eq_ok]
    exact ⟨(), first, (), by simpa [SortedMap.contains] using absent, later⟩

omit [Crypto] in
theorem requireLineage_eq_ok : requireLineage byEpoch epochs = .ok () ↔
    ∀ epoch ∈ epochs, ∃ authority, byEpoch.get? epoch = some authority ∧ (epoch ≠ 1 →
      ∃ prior prepared, byEpoch.get? (epoch - 1) = some prior ∧ authority.prepared = some prepared ∧
        prepared.payload.grant.payload.sourceAuthority = prior) := by
  induction epochs with
  | nil => simp [requireLineage]
  | cons epoch rest ih =>
    rw [List.forall_mem_cons, ← ih, requireLineage]
    by_cases first : epoch = 1
    · simp [first]
    · simp only [first, if_false, bind_eq_ok, orError_eq_ok, reject_eq_ok, not_not]
      constructor
      · rintro ⟨authority, held, prior, before, prepared, proof, _, source, later⟩
        exact ⟨⟨authority, held, fun _ => ⟨prior, prepared, before, proof, source⟩⟩, later⟩
      · rintro ⟨⟨authority, held, link⟩, later⟩
        obtain ⟨prior, prepared, before, proof, source⟩ := link first
        exact ⟨authority, held, prior, before, prepared, proof, (), source, later⟩

theorem verify_epoch_pos {authority : HomeAuthority}
    (verified : authority.verify home epoch capability = .ok ()) : 0 < authority.operational.payload.epoch := by
  have records : HomeAuthority.validateRecords authority.abode authority.operational = .ok () := by
    simp only [HomeAuthority.verify, HomeAuthority.verifyWith, bind_eq_ok] at verified
    obtain ⟨_, valid, -⟩ := verified
    obtain ⟨abode, operational, _ | prepared⟩ := authority <;>
      simp only [HomeAuthority.validate, bind_eq_ok] at valid <;> exact valid.choose_spec.1
  simp only [HomeAuthority.validateRecords, bind_eq_ok] at records
  obtain ⟨_, _, _, operational, -⟩ := records
  simp only [validate, SignedRecord.validateWith, bind_eq_ok, reject_eq_ok] at operational
  obtain ⟨_, _, _, _, _, _, _, ⟨_, _, _, positive, _⟩, _⟩ := operational
  exact Nat.pos_of_ne_zero positive

theorem completeLineage_of_accepted (accepted : verifyCompleteAuthorityLineage home authorities = .ok ()) :
    ∃ highest, 0 < highest ∧ CompleteLineage home highest authorities := by
  simp only [verifyCompleteAuthorityLineage, bind_eq_ok, orError_eq_ok, requireLineage_eq_ok,
    List.mem_range'_1] at accepted
  obtain ⟨byEpoch, collected, last, ends, linked⟩ := accepted
  obtain ⟨⟨verified, distinct, -⟩, lookup⟩ := authoritiesByEpoch_eq_ok collected
  simp only [SortedMap.get?_empty, reduceCtorEq, or_false] at lookup
  have held : ∀ authority ∈ authorities, byEpoch.get? authority.operational.payload.epoch = some authority :=
    fun authority member => (lookup _ _).mpr ⟨member, rfl⟩
  obtain ⟨member, top⟩ := (lookup last.1 last.2).mp (byEpoch.mem_entries_iff.mp (List.mem_of_getLast? ends))
  have positive : 0 < last.1 := top ▸ verify_epoch_pos (verified _ member)
  refine ⟨last.1, positive, verified, ?_, ?_⟩
  · refine (List.perm_ext_iff_of_nodup distinct List.nodup_range').mpr fun epoch => ?_
    rw [List.mem_range'_1, epochsOf, List.mem_map]
    constructor
    · rintro ⟨authority, member, rfl⟩
      have low := verify_epoch_pos (verified authority member)
      have high := SortedMap.le_of_getLast? ends (held authority member)
      omega
    · intro within
      obtain ⟨authority, found, -⟩ := linked epoch within
      exact ⟨authority, (lookup _ _).mp found⟩
  · intro prior before authority after next
    have low := verify_epoch_pos (verified prior before)
    have high := SortedMap.le_of_getLast? ends (held authority after)
    obtain ⟨_, found, link⟩ := linked authority.operational.payload.epoch (by omega)
    obtain rfl := Option.some.inj ((held authority after).symm.trans found)
    obtain ⟨_, prepared, previous, proof, source⟩ := link (by omega)
    rw [next, Nat.add_sub_cancel, held prior before] at previous
    exact ⟨prepared, proof, source.trans (Option.some.inj previous).symm⟩

theorem CompleteLineage.accepted (positive : 0 < highest)
    (lineage : CompleteLineage home highest authorities) :
    verifyCompleteAuthorityLineage home authorities = .ok () := by
  simp only [verifyCompleteAuthorityLineage, bind_eq_ok, orError_eq_ok, requireLineage_eq_ok, List.mem_range'_1]
  obtain ⟨verified, epochs, continued⟩ := lineage
  have distinct : (epochsOf authorities).Nodup := epochs.nodup_iff.mpr List.nodup_range'
  obtain ⟨byEpoch, collected⟩ := authoritiesByEpoch_exists verified distinct fun _ _ => SortedMap.get?_empty _
  have lookup := (authoritiesByEpoch_eq_ok collected).2
  simp only [SortedMap.get?_empty, reduceCtorEq, or_false] at lookup
  have present : ∀ epoch, 1 ≤ epoch → epoch ≤ highest →
      ∃ authority ∈ authorities, authority.operational.payload.epoch = epoch := by
    intro epoch low high
    exact List.mem_map.mp (epochs.mem_iff.mpr (List.mem_range'_1.mpr (by omega)))
  obtain ⟨newest, member, top⟩ := present highest positive le_rfl
  obtain ⟨last, ends⟩ : ∃ last, byEpoch.entries.getLast? = some last := by
    cases none : byEpoch.entries.getLast? with
    | some last => exact ⟨last, rfl⟩
    | none =>
      have absent := byEpoch.mem_entries_iff.mpr ((lookup _ _).mpr ⟨member, rfl⟩)
      rw [List.getLast?_eq_none_iff.mp none] at absent
      cases absent
  refine ⟨byEpoch, collected, last, ends, fun epoch within => ?_⟩
  obtain ⟨final, ours⟩ := (lookup last.1 last.2).mp (byEpoch.mem_entries_iff.mp (List.mem_of_getLast? ends))
  have bound : last.1 ≤ highest := by
    have := List.mem_range'_1.mp (epochs.mem_iff.mp (List.mem_map_of_mem final))
    omega
  obtain ⟨authority, here, same⟩ := present epoch within.1 (by omega)
  refine ⟨authority, (lookup _ _).mpr ⟨here, same⟩, fun moved => ?_⟩
  obtain ⟨prior, before, earlier⟩ := present (epoch - 1) (by omega) (by omega)
  obtain ⟨prepared, proof, source⟩ := continued prior before authority here (by omega)
  exact ⟨prior, prepared, (lookup _ _).mpr ⟨before, earlier⟩, proof, source⟩

/-- A history is accepted just when it is the complete lineage of some epoch, in whatever order it is listed. -/
theorem verifyCompleteAuthorityLineage_eq_ok (home : HomeId) (authorities : List HomeAuthority) :
    verifyCompleteAuthorityLineage home authorities = .ok () ↔
      ∃ highest, 0 < highest ∧ CompleteLineage home highest authorities :=
  ⟨completeLineage_of_accepted, fun ⟨_, positive, lineage⟩ => lineage.accepted positive⟩

end

end Gawd.Home
