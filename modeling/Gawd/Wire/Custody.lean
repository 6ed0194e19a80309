import Gawd.Wire.Authority

/-!
The later proofs of a custody handoff: the destination's rewrap receipt, its staging receipt and the
lease that announces the moved Home.
-/

namespace Gawd.Wire

open Gawd.Logic

section

variable [Crypto]

/-- One checkpoint value whose source-Home envelope has to be rewrapped. -/
structure CustodyRewrapSource where
  sealedValueHash : Text
  ciphertext : BlobRef
  sourceWrap : RecipientKeyWrap
deriving DecidableEq

instance : Validate CustodyRewrapSource where
  validate source := do
    validateSha256 "rewrap sealed_value_hash" source.sealedValueHash
    validate source.ciphertext
    validate source.sourceWrap

structure CustodyRewrapInventoryCommitment where
  sealedValueHash : Text
  ciphertext : BlobRef
  sourceWrapHash : Text
deriving DecidableEq

structure CustodyRewrapInventoryHash where
  schema : Schema
  purpose : String
  items : List CustodyRewrapInventoryCommitment
deriving DecidableEq

def validateRewrapItemOrder (previous : Option Text) : List Text → Except ContractError Unit
  | [] => .ok ()
  | name :: rest => do
    reject (∃ prior ∈ previous, name.render ≤ prior.render)
      (.invalid "custody rewrap items must be strictly ordered by unique sealed_value_hash")
    validateRewrapItemOrder (some name) rest

def rewrapInventoryHash (items : List CustodyRewrapInventoryCommitment) : Text :=
  canonicalHash (⟨.custodyRewrap, "source_inventory", items⟩ : CustodyRewrapInventoryHash)

/-- The canonical commitment to a bounded, strictly ordered source inventory. -/
def custodyRewrapInventoryHash (inventory : List CustodyRewrapSource) : Except ContractError Text := do
  let count := inventory.length
  reject (maxCustodyRewrapItems < count)
    (.limit s!"custody rewrap inventory has {count} items, exceeds {maxCustodyRewrapItems}")
  validateRewrapItemOrder none (inventory.map CustodyRewrapSource.sealedValueHash)
  validateEach inventory
  return rewrapInventoryHash (inventory.map fun source =>
    ⟨source.sealedValueHash, source.ciphertext, canonicalHash source.sourceWrap⟩)

def requireSourceBinding (home : HomeId) (bindingHash : Text) :
    List CustodyRewrapSource → Except ContractError Unit
  | [] => .ok ()
  | source :: rest => do
    reject (source.sourceWrap.recipient ≠ home ∨ source.sourceWrap.bindingHash ≠ bindingHash)
      (.invalid "custody rewrap source envelope does not use the exact declared source binding")
    requireSourceBinding home bindingHash rest

def verifyCustodyRewrapInventory (home : HomeId) (requirement : CustodyRewrapRequirement)
    (inventory : List CustodyRewrapSource) : Except ContractError Text := do
  validate requirement
  reject (requirement.sourceBinding.payload.abode ≠ home ∨
      requirement.destinationBinding.payload.abode ≠ home)
    (.invalid "custody rewrap inventory and bindings do not name the granted Home")
  requireSourceBinding home (canonicalHash requirement.sourceBinding) inventory
  custodyRewrapInventoryHash inventory

structure CustodyRewrapRequest where
  home : HomeId
  handoff : HandoffId
  preparedHash : Text
  grantHash : Text
  checkpointHash : Text
  requirementHash : Text
  inventoryHash : Text
  itemCount : Nat
deriving DecidableEq

instance : Validate CustodyRewrapRequest where
  validate request := do
    validate request.home
    validate request.handoff
    validateSha256 "rewrap request prepared_hash" request.preparedHash
    validateSha256 "rewrap request grant_hash" request.grantHash
    validateSha256 "rewrap request checkpoint_hash" request.checkpointHash
    validateSha256 "rewrap request requirement_hash" request.requirementHash
    validateSha256 "rewrap request inventory_hash" request.inventoryHash
    let count := request.itemCount
    reject (maxCustodyRewrapItems < count)
      (.limit s!"custody rewrap request has {count} items, exceeds {maxCustodyRewrapItems}")
    ensureMessageBound request

def verifyCustodyRewrapRequest (record : SignedRecord CustodyRewrapRequest)
    (prepared : SignedRecord CustodyPrepared) : Except ContractError Unit := do
  verifyCustodyPrepared prepared
  validate record
  reject (record.schema ≠ .custodyRewrap ∨ record.verify = false)
    (.crypto "invalid custody-rewrap-request signature")
  let grant := prepared.payload.grant
  let requirement ← orError
    (.invalid "custody rewrap request has no declaration in the exact custody grant")
    grant.payload.destinationRewrap
  let inventoryHash ← orError (.invalid "prepared proof omits its declared rewrap inventory hash")
    prepared.payload.rewrapInventoryHash
  let itemCount ← orError (.invalid "prepared proof omits its declared rewrap item count")
    prepared.payload.rewrapItemCount
  let request := record.payload
  reject (record.signer ≠ grant.payload.destinationOperationalKey.payload.operationalPublicKey ∨
      request.home ≠ grant.payload.home ∨ request.handoff ≠ grant.payload.handoff ∨
      request.preparedHash ≠ canonicalHash prepared ∨
      request.grantHash ≠ prepared.payload.grantHash ∨
      request.checkpointHash ≠ prepared.payload.checkpointHash ∨
      request.requirementHash ≠ canonicalHash requirement ∨
      request.inventoryHash ≠ inventoryHash ∨ request.itemCount ≠ itemCount)
    (.invalid "custody rewrap request does not exactly bind the Prepared proof, grant, requirement, and inventory")

structure CustodyRewrapEntry where
  sealedValueHash : Text
  ciphertext : BlobRef
  sourceWrapHash : Text
  destinationWrap : RecipientKeyWrap
deriving DecidableEq

instance : Validate CustodyRewrapEntry where
  validate entry := do
    validateSha256 "rewrap entry sealed_value_hash" entry.sealedValueHash
    validate entry.ciphertext
    validateSha256 "rewrap entry source_wrap_hash" entry.sourceWrapHash
    validate entry.destinationWrap

structure CustodyRewrapReceipt where
  request : SignedRecord CustodyRewrapRequest
  entries : List CustodyRewrapEntry
  evidence : List EvidenceRef
deriving DecidableEq

instance : Validate CustodyRewrapReceipt where
  validate receipt := do
    validate receipt.request
    let count := receipt.entries.length
    reject (maxCustodyRewrapItems < count)
      (.limit s!"custody rewrap receipt has {count} entries, exceeds {maxCustodyRewrapItems}")
    validateRewrapItemOrder none (receipt.entries.map CustodyRewrapEntry.sealedValueHash)
    validateEach receipt.entries
    let commitments := receipt.entries.map fun entry =>
      (⟨entry.sealedValueHash, entry.ciphertext, entry.sourceWrapHash⟩ : CustodyRewrapInventoryCommitment)
    reject (receipt.request.payload.itemCount ≠ count ∨
        receipt.request.payload.inventoryHash ≠ rewrapInventoryHash commitments)
      (.invalid "custody rewrap receipt entries do not exactly cover the requested inventory")
    validateVec "custody rewrap receipt evidence" receipt.evidence maxEvidenceRefs
    ensureMessageBound receipt

def requireDestinationBinding (home : HomeId) (bindingHash : Text) :
    List CustodyRewrapEntry → Except ContractError Unit
  | [] => .ok ()
  | entry :: rest => do
    reject (entry.destinationWrap.recipient ≠ home ∨ entry.destinationWrap.bindingHash ≠ bindingHash)
      (.invalid "custody rewrap receipt entry does not use the exact destination binding")
    requireDestinationBinding home bindingHash rest

/-- Verify the chain root grant, source Prepared, destination request, KMS receipt. -/
def verifyCustodyRewrapReceipt (record : SignedRecord CustodyRewrapReceipt)
    (prepared : SignedRecord CustodyPrepared) : Except ContractError Unit := do
  validate record
  verifyCustodyRewrapRequest record.payload.request prepared
  reject (record.schema ≠ .custodyRewrap ∨ record.verify = false)
    (.crypto "invalid custody-rewrap-receipt signature")
  let grant := prepared.payload.grant
  let requirement ← orError
    (.invalid "custody rewrap receipt has no declaration in the exact custody grant")
    grant.payload.destinationRewrap
  reject (record.signer ≠ requirement.destinationBinding.payload.signingPublicKey)
    (.invalid "custody rewrap receipt is not signed by the declared destination proof key")
  requireDestinationBinding grant.payload.home (canonicalHash requirement.destinationBinding)
    record.payload.entries

/-- Destination proof that the exact prepared archive and its blobs were durably staged. -/
structure CustodyStaged where
  prepared : SignedRecord CustodyPrepared
  preparedHash : Text
  grantHash : Text
  checkpointHash : Text
  destinationRealm : String
  destinationNode : String
  destinationCoordinator : String
  rewrapReceipt : Option (SignedRecord CustodyRewrapReceipt)
deriving DecidableEq

instance : Validate CustodyStaged where
  validate staged := do
    verifyCustodyPrepared staged.prepared
    validateSha256 "staged prepared_hash" staged.preparedHash
    validateSha256 "staged grant_hash" staged.grantHash
    validateSha256 "staged checkpoint_hash" staged.checkpointHash
    validateText "staged destination_realm" staged.destinationRealm maxIdBytes
    validateText "staged destination_node" staged.destinationNode maxIdBytes
    validateText "staged destination_coordinator" staged.destinationCoordinator maxIdBytes
    let grant := staged.prepared.payload.grant
    reject (canonicalHash staged.prepared ≠ staged.preparedHash ∨
        staged.prepared.payload.grantHash ≠ staged.grantHash ∨
        staged.prepared.payload.checkpointHash ≠ staged.checkpointHash ∨
        grant.payload.destinationRealm ≠ staged.destinationRealm ∨
        grant.payload.destinationNode ≠ staged.destinationNode)
      (.invalid "staging receipt does not bind the prepared proof, hashes, and destination")
    match grant.payload.destinationRewrap, staged.rewrapReceipt with
    | none, none => pure ()
    | some _, some receipt => verifyCustodyRewrapReceipt receipt staged.prepared
    | _, _ =>
      throw (.invalid "staging rewrap receipt must be present exactly when the custody grant declares rewrap")
    ensureMessageBound staged

def verifyCustodyStaged (record : SignedRecord CustodyStaged) : Except ContractError Unit := do
  validate record
  reject (record.schema ≠ .home ∨ record.verify = false) (.crypto "invalid custody-staged signature")
  reject (record.signer ≠
      record.payload.prepared.payload.grant.payload.destinationOperationalKey.payload.operationalPublicKey)
    (.invalid "custody-staged signer is not the root-authorized destination epoch key")

/-- The signed location of an active Home. -/
structure HomeLease where
  home : HomeId
  epoch : Nat
  leaseSequence : Nat
  realm : String
  node : String
  coordinator : String
  authority : HomeAuthority
  handoff : Option HandoffId
  custodyGrant : Option (SignedRecord CustodyGrant)
  checkpointHash : Text
  issuedAtUnixMs : Option Nat
  expiresAtUnixMs : Option Nat
deriving DecidableEq

instance : Validate HomeLease where
  validate lease := do
    validate lease.home
    reject (lease.epoch = 0 ∨ lease.leaseSequence = 0)
      (.invalid "home epoch and lease sequence must be non-zero")
    validateText "home realm" lease.realm maxIdBytes
    validateText "home node" lease.node maxIdBytes
    validateText "home coordinator" lease.coordinator maxIdBytes
    lease.authority.verify lease.home lease.epoch .locate
    match lease.handoff, lease.custodyGrant with
    | none, none =>
      reject (lease.epoch ≠ 1)
        (.invalid "genesis leases omit custody proof; moved leases require handoff and grant")
    | some handoff, some grant =>
      validate handoff
      verifyCustodyGrant grant
      reject (grant.payload.home ≠ lease.home ∨ grant.payload.toEpoch ≠ lease.epoch ∨
          grant.payload.handoff ≠ handoff ∨ grant.payload.destinationRealm ≠ lease.realm ∨
          grant.payload.destinationNode ≠ lease.node ∨
          grant.payload.destinationOperationalKey ≠ lease.authority.operational ∨
          grant.payload.sourceAuthority.abode ≠ lease.authority.abode ∨
          grant.payload.checkpointHash ≠ lease.checkpointHash ∨
          (lease.authority.prepared.map fun prepared => prepared.payload.grant) ≠ some grant)
        (.invalid "home lease does not match its exact root-signed custody grant")
    | _, _ =>
      throw (.invalid "genesis leases omit custody proof; moved leases require handoff and grant")
    validateSha256 "checkpoint_hash" lease.checkpointHash
    validateExpiry lease.issuedAtUnixMs lease.expiresAtUnixMs

def verifyHomeLease (record : SignedRecord HomeLease) : Except ContractError Unit := do
  validate record
  reject (record.schema ≠ .locate ∨ record.verify = false) (.crypto "invalid home lease signature")
  reject (record.signer ≠ record.payload.authority.operationalKey)
    (.invalid "home lease signer is not the authorized epoch operational key")

/-- Whether `next` is the one same-epoch revision that may supersede `current`. -/
def isHomeLeaseCoordinatorRevision (current next : HomeLease) : Bool :=
  current.leaseSequence < next.leaseSequence && next.home = current.home && next.epoch = current.epoch &&
    next.realm = current.realm && next.node = current.node && next.authority = current.authority &&
    next.handoff = current.handoff && next.custodyGrant = current.custodyGrant &&
    next.checkpointHash = current.checkpointHash && next.issuedAtUnixMs = current.issuedAtUnixMs &&
    next.expiresAtUnixMs = current.expiresAtUnixMs

end

end Gawd.Wire
