import Gawd.Wire.Types

/-!
Home authority: the chain of custody proofs from the Abode root to the operational key of an epoch.

A `HomeAuthority` of a moved epoch embeds the Prepared proof of its source, which embeds the custody
grant, which embeds the source's own authority. The checks recurse along that chain.
-/

namespace Gawd.Wire

open Gawd.Logic

structure HomeCheckpoint where
  home : HomeId
  epoch : Nat
  highWaterMark : Nat
  logRoot : Text
  state : BlobRef
  createdAtUnixMs : Option Nat
deriving DecidableEq

instance : Validate HomeCheckpoint where
  validate checkpoint := do
    validate checkpoint.home
    reject (checkpoint.epoch = 0) (.invalid "home epoch must be non-zero")
    validateSha256 "log_root" checkpoint.logRoot
    validate checkpoint.state

/-- Verify that a recipient-key binding is a root-domain statement by the named Abode. -/
def verifyRecipientKeyBinding [Crypto] (record : SignedRecord RecipientKeyBinding) :
    Except ContractError Unit := do
  validate record
  reject (record.schema ≠ .home ∨ record.verify = false)
    (.crypto "invalid recipient-key-binding signature")
  reject (record.signer ≠ record.payload.abode.text)
    (.invalid "recipient-key binding must be signed by the named Abode root")

structure CustodyRewrapRequirement where
  sourceBinding : SignedRecord RecipientKeyBinding
  destinationBinding : SignedRecord RecipientKeyBinding
  evidence : List EvidenceRef
deriving DecidableEq

instance [Crypto] : Validate CustodyRewrapRequirement where
  validate requirement := do
    verifyRecipientKeyBinding requirement.sourceBinding
    verifyRecipientKeyBinding requirement.destinationBinding
    let source := requirement.sourceBinding.payload
    let destination := requirement.destinationBinding.payload
    reject (source.abode ≠ destination.abode)
      (.invalid "custody rewrap key bindings must name the same Abode")
    reject (source.suite ≠ destination.suite)
      (.invalid "custody rewrap v1 requires the same source and destination key suite")
    reject (source.encryptionPublicKey = destination.encryptionPublicKey ∨
        canonicalHash requirement.sourceBinding = canonicalHash requirement.destinationBinding)
      (.invalid "custody rewrap must rotate to a distinct destination encryption binding")
    validateVec "custody rewrap evidence" requirement.evidence maxEvidenceRefs
    ensureMessageBound requirement

/-- Owner-authorized transfer from one single-writer epoch to the next, over the type of authorities. -/
structure CustodyGrantOf (Authority : Type) where
  home : HomeId
  handoff : HandoffId
  fromEpoch : Nat
  toEpoch : Nat
  sourceAuthority : Authority
  sourceRealm : String
  sourceNode : String
  destinationRealm : String
  destinationNode : String
  checkpointHash : Text
  sourceLogRoot : Text
  destinationOperationalKey : SignedRecord OperationalKeyGrant
  evidence : List EvidenceRef
  issuedAtUnixMs : Option Nat
  destinationRewrap : Option CustodyRewrapRequirement
deriving DecidableEq

/-- Source-epoch proof that the exact custody fence was durably prepared. -/
structure CustodyPreparedOf (Authority : Type) where
  grant : SignedRecord (CustodyGrantOf Authority)
  checkpoint : SignedRecord HomeCheckpoint
  grantHash : Text
  checkpointHash : Text
  sourceLogRoot : Text
  sourceCoordinator : String
  rewrapInventoryHash : Option Text
  rewrapItemCount : Option Nat
deriving DecidableEq

/-- Proof that an epoch operational key descends from the Abode root. -/
inductive HomeAuthority where
  | mk (abode : SignedRecord AbodeKeyBinding) (operational : SignedRecord OperationalKeyGrant)
    (prepared : Option (SignedRecord (CustodyPreparedOf HomeAuthority)))


abbrev CustodyGrant := CustodyGrantOf HomeAuthority

abbrev CustodyPrepared := CustodyPreparedOf HomeAuthority

namespace HomeAuthority

def abode : HomeAuthority → SignedRecord AbodeKeyBinding
  | .mk abode _ _ => abode

def operational : HomeAuthority → SignedRecord OperationalKeyGrant
  | .mk _ operational _ => operational

def prepared : HomeAuthority → Option (SignedRecord CustodyPrepared)
  | .mk _ _ prepared => prepared

/-- The key that signs for this authority's epoch. -/
def operationalKey (authority : HomeAuthority) : Text :=
  authority.operational.payload.operationalPublicKey

/-- One authority of the chain without the source authority it embeds. -/
structure Link where
  abode : SignedRecord AbodeKeyBinding
  operational : SignedRecord OperationalKeyGrant
  prepared : Option (SignedRecord (CustodyPreparedOf Unit))
deriving DecidableEq

def cutSource (record : SignedRecord CustodyPrepared) : SignedRecord (CustodyPreparedOf Unit) :=
  { record with
    payload := { record.payload with
      grant := { record.payload.grant with
        payload := { record.payload.grant.payload with sourceAuthority := () } } } }

/-- The chain of an authority, newest epoch first. -/
def links (authority : HomeAuthority) : List Link :=
  match authority with
  | .mk abode operational none => [⟨abode, operational, none⟩]
  | .mk abode operational (some record) =>
    ⟨abode, operational, some (cutSource record)⟩ :: record.payload.grant.payload.sourceAuthority.links
termination_by structural authority

theorem prepared_ext {left right : SignedRecord CustodyPrepared} (cut : cutSource left = cutSource right)
    (source : left.payload.grant.payload.sourceAuthority = right.payload.grant.payload.sourceAuthority) :
    left = right := by
  obtain ⟨_, _, ⟨⟨_, _, ⟨⟩, _⟩, _, _, _, _, _, _, _⟩, _⟩ := left
  obtain ⟨_, _, ⟨⟨_, _, ⟨⟩, _⟩, _, _, _, _, _, _, _⟩, _⟩ := right
  simp_all [cutSource]

theorem links_ne_nil {authority : HomeAuthority} : authority.links ≠ [] := by
  obtain ⟨abode, operational, _ | record⟩ := authority <;> simp [links]

/-- The chain determines the authority. -/
theorem links_injective : Function.Injective links := by
  intro left right same
  induction chain : left.links generalizing left right with
  | nil => exact absurd chain left.links_ne_nil
  | cons head rest ih =>
    obtain ⟨abode, operational, _ | record⟩ := left
    all_goals obtain ⟨abode', operational', _ | record'⟩ := right
    · simpa [links] using same
    · simp [links] at same
    · simp [links] at same
    · simp only [links, List.cons.injEq, Link.mk.injEq, Option.some.injEq] at same chain
      obtain ⟨⟨rfl, rfl, cut⟩, source⟩ := same
      rw [prepared_ext cut (ih source chain.2)]

instance : DecidableEq HomeAuthority := fun left right =>
  decidable_of_iff (left.links = right.links) links_injective.eq_iff

end HomeAuthority

section

variable [Crypto]

/-- The identity part of `HomeAuthorityV1::verify`, once `valid` has judged the chain. -/
def HomeAuthority.verifyWith (authority : HomeAuthority) (valid : Except ContractError Unit)
    (home : HomeId) (epoch : Nat) (capability : OperationalCapability) : Except ContractError Unit := do
  valid
  let binding := authority.abode.payload
  reject (binding.abode ≠ home ∨ binding.rootPublicKey ≠ home.text)
    (.invalid "Abode binding does not self-bind the requested home/root key")
  let grant := authority.operational.payload
  reject (grant.home ≠ home ∨ grant.epoch ≠ epoch)
    (.invalid "operational grant does not match requested home/epoch")
  let name := capability.debug
  reject (capability ∉ grant.capabilities)
    (.invalid s!"operational grant lacks required `{name}` capability")

def requireCapabilities (key : OperationalKeyGrant) : List OperationalCapability → Except ContractError Unit
  | [] => .ok ()
  | required :: rest => do
    let name := required.debug
    reject (required ∉ key.capabilities)
      (.invalid s!"destination operational key lacks required `{name}` capability")
    requireCapabilities key rest

/-- The rewrap keys of a grant are separate from each other and from the authority keys. -/
def validateRewrapKeys (home : HomeId) (sourceOperational destinationOperational : Text)
    (source destination : RecipientKeyBinding) : Except ContractError Unit := do
  let proofSigners := [source.signingPublicKey, destination.signingPublicKey]
  let encryptionKeys := [source.encryptionPublicKey, destination.encryptionPublicKey]
  let authorityKeys := [home.text, sourceOperational, destinationOperational]
  for proofSigner in proofSigners do
    reject (proofSigner ∈ encryptionKeys)
      (.invalid "custody rewrap proof-signing and encryption keys must be separate")
    reject (proofSigner ∈ authorityKeys)
      (.invalid "custody rewrap proof keys must be separate from root and epoch authority keys")
  for encryptionKey in encryptionKeys do
    reject (encryptionKey ∈ authorityKeys)
      (.invalid "custody rewrap encryption keys must be separate from root and epoch authority keys")

/-- `CustodyGrantV1::validate`, once `sourceValid` has judged the source authority's chain. -/
def CustodyGrantOf.validateWith (grant : CustodyGrant) (sourceValid : Except ContractError Unit) :
    Except ContractError Unit := do
  validate grant.home
  validate grant.handoff
  reject (grant.fromEpoch = 0 ∨ grant.toEpoch ≠ grant.fromEpoch + 1)
    (.invalid "custody grant must advance exactly one non-zero epoch")
  grant.sourceAuthority.verifyWith sourceValid grant.home grant.fromEpoch .custody
  validateText "source_realm" grant.sourceRealm maxIdBytes
  validateText "source_node" grant.sourceNode maxIdBytes
  validateText "destination_realm" grant.destinationRealm maxIdBytes
  validateText "destination_node" grant.destinationNode maxIdBytes
  validateSha256 "checkpoint_hash" grant.checkpointHash
  validateSha256 "source_log_root" grant.sourceLogRoot
  validate grant.destinationOperationalKey
  reject (grant.destinationOperationalKey.schema ≠ .home ∨
      grant.destinationOperationalKey.verify = false ∨
      grant.destinationOperationalKey.signer ≠ grant.home.text)
    (.crypto "destination operational key is not signed by the Abode root")
  let key := grant.destinationOperationalKey.payload
  reject (key.home ≠ grant.home ∨ key.epoch ≠ grant.toEpoch)
    (.invalid "destination operational key does not match home/epoch")
  requireCapabilities key [.jobHome, .jobControl, .custody, .locate]
  validateVec "custody evidence" grant.evidence maxEvidenceRefs
  match grant.destinationRewrap with
  | none => pure ()
  | some requirement =>
    validate requirement
    let source := requirement.sourceBinding.payload
    let destination := requirement.destinationBinding.payload
    reject (source.abode ≠ grant.home ∨ destination.abode ≠ grant.home)
      (.invalid "custody rewrap bindings do not name the granted Home")
    validateRewrapKeys grant.home grant.sourceAuthority.operationalKey key.operationalPublicKey source
      destination

/-- `verify_custody_grant`, once `sourceValid` has judged the source authority's chain. -/
def verifyCustodyGrantWith (record : SignedRecord CustodyGrant) (sourceValid : Except ContractError Unit) :
    Except ContractError Unit := do
  record.validateWith (record.payload.validateWith sourceValid)
  reject (record.schema ≠ .home ∨ record.verify = false) (.crypto "invalid custody-grant signature")
  reject (record.signer ≠ record.payload.home.text)
    (.invalid "custody grant must be signed by the owning Abode root")

def verifyHandoffCheckpointWith (grant : SignedRecord CustodyGrant)
    (checkpoint : SignedRecord HomeCheckpoint) (sourceValid : Except ContractError Unit) :
    Except ContractError Unit := do
  verifyCustodyGrantWith grant sourceValid
  validate checkpoint
  reject (checkpoint.schema ≠ .home ∨ checkpoint.verify = false)
    (.crypto "invalid handoff checkpoint signature")
  reject (checkpoint.signer ≠ grant.payload.sourceAuthority.operationalKey ∨
      checkpoint.payload.home ≠ grant.payload.home ∨
      checkpoint.payload.epoch ≠ grant.payload.fromEpoch ∨
      checkpoint.payload.logRoot ≠ grant.payload.sourceLogRoot ∨
      canonicalHash checkpoint ≠ grant.payload.checkpointHash)
    (.invalid "handoff checkpoint does not match source authority/home/epoch/hash-chain tip")

def CustodyPreparedOf.validateWith (prepared : CustodyPrepared) (sourceValid : Except ContractError Unit) :
    Except ContractError Unit := do
  verifyHandoffCheckpointWith prepared.grant prepared.checkpoint sourceValid
  validateSha256 "prepared grant_hash" prepared.grantHash
  validateSha256 "prepared checkpoint_hash" prepared.checkpointHash
  validateSha256 "prepared source_log_root" prepared.sourceLogRoot
  validateText "prepared source_coordinator" prepared.sourceCoordinator maxIdBytes
  reject (canonicalHash prepared.grant ≠ prepared.grantHash ∨
      canonicalHash prepared.checkpoint ≠ prepared.checkpointHash ∨
      prepared.sourceLogRoot ≠ prepared.grant.payload.sourceLogRoot ∨
      prepared.sourceLogRoot ≠ prepared.checkpoint.payload.logRoot)
    (.invalid "prepared proof does not bind its exact grant/checkpoint/log root")
  match prepared.grant.payload.destinationRewrap, prepared.rewrapInventoryHash,
    prepared.rewrapItemCount with
  | none, none, none => pure ()
  | some _, some inventoryHash, some itemCount =>
    validateSha256 "prepared rewrap_inventory_hash" inventoryHash
    reject (maxCustodyRewrapItems < itemCount)
      (.limit s!"prepared custody rewrap has {itemCount} items, exceeds {maxCustodyRewrapItems}")
  | _, _, _ =>
    throw (.invalid "prepared custody rewrap inventory fields must be present exactly when the grant declares rewrap")
  ensureMessageBound prepared

/-- `verify_custody_prepared`, once `sourceValid` has judged the source authority's chain. -/
def verifyCustodyPreparedWith (record : SignedRecord CustodyPrepared)
    (sourceValid : Except ContractError Unit) : Except ContractError Unit := do
  record.validateWith (record.payload.validateWith sourceValid)
  reject (record.schema ≠ .home ∨ record.verify = false) (.crypto "invalid custody-prepared signature")
  reject (record.signer ≠ record.payload.grant.payload.sourceAuthority.operationalKey)
    (.invalid "custody-prepared signer is not the root-authorized source epoch key")

/-- The two records every authority starts with. -/
def HomeAuthority.validateRecords (abode : SignedRecord AbodeKeyBinding)
    (operational : SignedRecord OperationalKeyGrant) : Except ContractError Unit := do
  validate abode
  validate operational
  let name := Schema.home.name
  reject (abode.schema ≠ .home ∨ operational.schema ≠ .home)
    (.invalid s!"home authority records must both use `{name}`")
  reject (abode.verify = false ∨ operational.verify = false)
    (.crypto "home authority chain contains an invalid signature")
  reject (abode.signer ≠ abode.payload.rootPublicKey ∨
      abode.payload.abode.text ≠ abode.payload.rootPublicKey)
    (.invalid "Abode key binding must be self-signed by the Abode root")
  reject (operational.signer ≠ abode.payload.rootPublicKey)
    (.invalid "operational key grant must be signed by the bound Abode root")

def HomeAuthority.validate (authority : HomeAuthority) : Except ContractError Unit :=
  match authority with
  | .mk abode operational none => do
    validateRecords abode operational
    reject (operational.payload.epoch ≠ 1)
      (.invalid "moved Home authority requires a source-fsynced custody proof")
  | .mk abode operational (some record) => do
    validateRecords abode operational
    reject (operational.payload.epoch = 1)
      (.invalid "genesis Home authority must not carry a custody proof")
    verifyCustodyPreparedWith record record.payload.grant.payload.sourceAuthority.validate
    let custody := record.payload.grant.payload
    reject (custody.home ≠ operational.payload.home ∨ custody.toEpoch ≠ operational.payload.epoch ∨
        custody.destinationOperationalKey ≠ operational ∨ custody.sourceAuthority.abode ≠ abode)
      (.invalid "Home authority does not continue its exact source-fsynced custody proof")
termination_by structural authority

instance : Validate HomeAuthority := ⟨HomeAuthority.validate⟩

def HomeAuthority.verify (authority : HomeAuthority) (home : HomeId) (epoch : Nat)
    (capability : OperationalCapability) : Except ContractError Unit :=
  authority.verifyWith authority.validate home epoch capability

instance : Validate CustodyGrant := ⟨fun grant => grant.validateWith grant.sourceAuthority.validate⟩

instance : Validate CustodyPrepared :=
  ⟨fun prepared => prepared.validateWith prepared.grant.payload.sourceAuthority.validate⟩

def verifyCustodyGrant (record : SignedRecord CustodyGrant) : Except ContractError Unit :=
  verifyCustodyGrantWith record record.payload.sourceAuthority.validate

def verifyHandoffCheckpoint (grant : SignedRecord CustodyGrant) (checkpoint : SignedRecord HomeCheckpoint) :
    Except ContractError Unit :=
  verifyHandoffCheckpointWith grant checkpoint grant.payload.sourceAuthority.validate

def verifyCustodyPrepared (record : SignedRecord CustodyPrepared) : Except ContractError Unit :=
  verifyCustodyPreparedWith record record.payload.grant.payload.sourceAuthority.validate

end

end Gawd.Wire
