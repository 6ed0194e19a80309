import Gawd.Wire.Contract

/-!
Stable identities and the value, schema and key contracts of `gawdfn`.
-/

namespace Gawd.Wire

open Gawd.Logic

/-- The structural check of every `string_id!` identity. -/
def validateId (name : String) (value : Text) : Except ContractError Unit :=
  validateText name value maxIdBytes

/-- The Abode identity that owns a job: the text of its root public key. -/
structure HomeId where
  text : Text
deriving DecidableEq

structure JobId where
  text : Text
deriving DecidableEq

structure DeploymentId where
  text : Text
deriving DecidableEq

structure HandoffId where
  text : Text
deriving DecidableEq

structure ControlId where
  text : Text
deriving DecidableEq

instance : Validate HomeId := ⟨fun id => validateId "HomeId" id.text⟩

instance : Validate JobId := ⟨fun id => validateId "JobId" id.text⟩

instance : Validate DeploymentId := ⟨fun id => validateId "DeploymentId" id.text⟩

instance : Validate HandoffId := ⟨fun id => validateId "HandoffId" id.text⟩

instance : Validate ControlId := ⟨fun id => validateId "ControlId" id.text⟩

structure FunctionId where
  manifestContentAddress : Text
  entrypoint : String
deriving DecidableEq

instance : Validate FunctionId where
  validate id := do
    validateSha256 "manifest_content_address" id.manifestContentAddress
    validateText "entrypoint" id.entrypoint maxNameBytes

structure FunctionAlias where
  realm : String
  name : String
  version : String
  entrypoint : String
deriving DecidableEq

instance : Validate FunctionAlias where
  validate fnAlias := do
    validateText "realm" fnAlias.realm maxIdBytes
    reject (fnAlias.realm.toList.contains ':') (.invalid "realm must not contain `:`")
    validateText "name" fnAlias.name maxNameBytes
    validateText "version" fnAlias.version maxVersionBytes
    validateText "entrypoint" fnAlias.entrypoint maxNameBytes

inductive FunctionSelector where
  | id (function : FunctionId)
  | alias (fnAlias : FunctionAlias)
deriving DecidableEq

instance : Validate FunctionSelector where
  validate
    | .id function => validate function
    | .alias fnAlias => validate fnAlias

structure BlobRef where
  digest : Text
  size : Nat
  mediaType : String
deriving DecidableEq

instance : Validate BlobRef where
  validate blob := do
    validateSha256 "blob.digest" blob.digest
    validateText "blob.media_type" blob.mediaType maxMediaTypeBytes

structure RecipientKeyWrap where
  recipient : HomeId
  bindingHash : Text
  encapsulatedKey : Text
  wrappedDataKey : Text
deriving DecidableEq

instance : Validate RecipientKeyWrap where
  validate wrap := do
    validate wrap.recipient
    validateSha256 "binding_hash" wrap.bindingHash
    validateText "encapsulated_key" wrap.encapsulatedKey maxPublicKeyBytes
    validateText "wrapped_data_key" wrap.wrappedDataKey (maxIdBytes * 4)

structure SealedValue where
  ciphertext : BlobRef
  suite : String
  plaintextDigest : Option Text
  recipients : List RecipientKeyWrap
deriving DecidableEq

/-- Check an optional part only when it is there. -/
def validateSome {α : Type} (check : α → Except ContractError Unit) : Option α → Except ContractError Unit
  | none => .ok ()
  | some value => check value

instance : Validate SealedValue where
  validate value := do
    validate value.ciphertext
    validateText "sealed suite" value.suite maxNameBytes
    validateSome (validateSha256 "plaintext_digest") value.plaintextDigest
    validateVec "sealed recipients" value.recipients maxResultRecipients
    reject (value.recipients = []) (.invalid "sealed value must have at least one recipient")

/-- A JSON value; object members in wire order, numbers as written. -/
inductive Json where
  | null
  | bool (value : Bool)
  | number (text : String)
  | string (value : String)
  | array (items : List Json)
  | object (members : List (String × Json))

namespace Json

mutual

/-- The value as tokens, by which values are told apart. -/
def tokens : Json → List (Nat × String)
  | .null => [(0, "")]
  | .bool value => [(if value then 1 else 2, "")]
  | .number text => [(3, text)]
  | .string value => [(4, value)]
  | .array items => (5, "") :: itemTokens items
  | .object members => (6, "") :: memberTokens members

def itemTokens : List Json → List (Nat × String)
  | [] => [(7, "")]
  | item :: rest => (8, "") :: (item.tokens ++ itemTokens rest)

def memberTokens : List (String × Json) → List (Nat × String)
  | [] => [(7, "")]
  | (key, item) :: rest => (8, key) :: (item.tokens ++ memberTokens rest)

end

mutual

theorem tokens_append_inj : ∀ (left right : Json) {more other},
    left.tokens ++ more = right.tokens ++ other → left = right ∧ more = other
  | .null, right, _, _, same | .number _, right, _, _, same | .string _, right, _, _, same => by
    cases right <;> simp_all [tokens] <;> grind
  | .bool left, right, _, _, same => by cases right <;> cases left <;> simp_all [tokens]
  | .array left, right, _, _, same => by
    cases right with
    | array right => simpa using itemTokens_append_inj left right (by simpa [tokens] using same)
    | _ => simp [tokens] at same <;> grind
  | .object left, right, _, _, same => by
    cases right with
    | object right => simpa using memberTokens_append_inj left right (by simpa [tokens] using same)
    | _ => simp [tokens] at same <;> grind

theorem itemTokens_append_inj : ∀ (left right : List Json) {more other},
    itemTokens left ++ more = itemTokens right ++ other → left = right ∧ more = other
  | [], [], _, _, same => by simpa [itemTokens] using same
  | [], _ :: _, _, _, same | _ :: _, [], _, _, same => by simp [itemTokens] at same
  | left :: leftRest, right :: rightRest, _, _, same => by
    simp only [itemTokens, List.cons_append, List.append_assoc, List.cons.injEq, true_and] at same
    obtain ⟨rfl, later⟩ := tokens_append_inj left right same
    simpa using itemTokens_append_inj leftRest rightRest later

theorem memberTokens_append_inj : ∀ (left right : List (String × Json)) {more other},
    memberTokens left ++ more = memberTokens right ++ other → left = right ∧ more = other
  | [], [], _, _, same => by simpa [memberTokens] using same
  | [], _ :: _, _, _, same | _ :: _, [], _, _, same => by simp [memberTokens] at same
  | (leftKey, left) :: leftRest, (rightKey, right) :: rightRest, _, _, same => by
    simp only [memberTokens, List.cons_append, List.append_assoc, List.cons.injEq, Prod.mk.injEq, true_and] at same
    obtain ⟨rfl, later⟩ := tokens_append_inj left right same.2
    simpa [same.1] using memberTokens_append_inj leftRest rightRest later

end

theorem tokens_injective : Function.Injective tokens := fun left right same =>
  (tokens_append_inj left right (congrArg (· ++ []) same)).1

instance : DecidableEq Json := tokens_injective.decidableEq

end Json

/-- Bounded inline JSON or a content-addressed external value. -/
inductive ValueRef where
  | inline (value : Json)
  | blob (blob : BlobRef)
  | sealed (sealed : SealedValue)
deriving DecidableEq

/-- The injected seam that vouches for the bytes behind a reference. -/
abbrev BlobAvailability := BlobRef → Except ContractError Unit

def ValueRef.validateWithLimit [Crypto] (maxInlineBytes : Nat) : ValueRef → Except ContractError Unit
  | .inline value =>
    let len := Crypto.encodedLen value
    reject (maxInlineBytes < len) (.limit s!"inline JSON is {len} bytes, exceeds {maxInlineBytes}")
  | .blob reference => validate reference
  | .sealed value => validate value

/-- Require every external byte reference to be available before accepting its owner. -/
def ValueRef.verifyAvailable (availability : BlobAvailability) : ValueRef → Except ContractError Unit
  | .inline _ => .ok ()
  | .blob reference => availability reference
  | .sealed value => availability value.ciphertext

instance [Crypto] : Validate ValueRef := ⟨ValueRef.validateWithLimit maxInlineValueBytes⟩

/-- A bounded proof or trust input; evidence, never authority by itself. -/
structure EvidenceRef where
  kind : String
  digest : Text
  issuer : Option Text
  locator : Option Text
deriving DecidableEq

instance : Validate EvidenceRef where
  validate evidence := do
    validateText "evidence.kind" evidence.kind maxNameBytes
    validateSha256 "evidence.digest" evidence.digest
    validateOptionalText "evidence.issuer" evidence.issuer maxPublicKeyBytes
    validateOptionalText "evidence.locator" evidence.locator maxIdBytes

structure ResolutionReceipt where
  selector : FunctionSelector
  function : FunctionId
  artifactHash : Text
  resolvedAtUnixMs : Option Nat
  evidence : List EvidenceRef
deriving DecidableEq

instance : Validate ResolutionReceipt where
  validate receipt := do
    validate receipt.selector
    validate receipt.function
    match receipt.selector with
    | .id function =>
      reject (function ≠ receipt.function)
        (.invalid "an exact FunctionId selector cannot resolve to a different function")
    | .alias _ => pure ()
    validateSha256 "artifact_hash" receipt.artifactHash
    validateVec "resolution.evidence" receipt.evidence maxEvidenceRefs

structure ResolvedFunction where
  requested : FunctionSelector
  function : FunctionId
  artifactHash : Text
  resolution : Option (SignedRecord ResolutionReceipt)
deriving DecidableEq

instance [Crypto] : Validate ResolvedFunction where
  validate resolved := do
    validate resolved.requested
    validate resolved.function
    validateSha256 "artifact_hash" resolved.artifactHash
    match resolved.resolution with
    | none => pure ()
    | some receipt =>
      validate receipt
      reject (receipt.schema ≠ .functionDeploy ∨ receipt.verify = false)
        (.crypto "resolved function contains an invalid resolution signature")
      reject (receipt.payload.selector ≠ resolved.requested ∨ receipt.payload.function ≠ resolved.function ∨
          receipt.payload.artifactHash ≠ resolved.artifactHash)
        (.invalid "resolution receipt does not match resolved function")

/-- One numbered attempt; the Home is part of the key. -/
structure AttemptId where
  home : HomeId
  job : JobId
  number : Nat
deriving DecidableEq

instance : Validate AttemptId where
  validate attempt := do
    validate attempt.home
    validate attempt.job
    reject (attempt.number = 0 ∨ maxJobAttempts < attempt.number)
      (.invalid s!"attempt number must be in 1..={maxJobAttempts}")

structure JobHandle where
  home : HomeId
  job : JobId
deriving DecidableEq

instance : Validate JobHandle where
  validate handle := do
    validate handle.home
    validate handle.job

structure CausalLink where
  job : JobHandle
  relation : String
  receiptHash : Option Text
deriving DecidableEq

instance : Validate CausalLink where
  validate link := do
    validate link.job
    validateText "causal relation" link.relation maxNameBytes
    validateSome (validateSha256 "causal receipt_hash") link.receiptHash

structure JobAccess where
  readers : List HomeId
  controllers : List HomeId
deriving DecidableEq

/-- Reject the first value that occurred before. -/
def rejectDuplicates (label : String) (seen : List Text) : List Text → Except ContractError Unit
  | [] => .ok ()
  | value :: rest => do
    let shown := value.render
    reject (value ∈ seen) (.invalid s!"duplicate {label} entry `{shown}`")
    rejectDuplicates label (value :: seen) rest

instance : Validate JobAccess where
  validate access := do
    validateVec "readers" access.readers maxJobDelegates
    validateVec "controllers" access.controllers maxJobDelegates
    rejectDuplicates "readers" [] (access.readers.map HomeId.text)
    rejectDuplicates "controllers" [] (access.controllers.map HomeId.text)

structure AbodeKeyBinding where
  abode : HomeId
  rootPublicKey : Text
  issuedAtUnixMs : Option Nat
deriving DecidableEq

instance : Validate AbodeKeyBinding where
  validate binding := do
    validate binding.abode
    validateText "root_public_key" binding.rootPublicKey maxPublicKeyBytes

inductive OperationalCapability where
  | jobHome
  | jobControl
  | execution
  | custody
  | locate
deriving DecidableEq

/-- The variant name as `{:?}` prints it. -/
def OperationalCapability.debug : OperationalCapability → String
  | .jobHome => "JobHome"
  | .jobControl => "JobControl"
  | .execution => "Execution"
  | .custody => "Custody"
  | .locate => "Locate"

/-- Root-authorized, epoch-scoped operational key. -/
structure OperationalKeyGrant where
  home : HomeId
  epoch : Nat
  operationalPublicKey : Text
  validFromUnixMs : Option Nat
  expiresAtUnixMs : Option Nat
  capabilities : List OperationalCapability
  evidence : List EvidenceRef
deriving DecidableEq

instance : Validate OperationalKeyGrant where
  validate grant := do
    validate grant.home
    reject (grant.epoch = 0) (.invalid "operational epoch must be non-zero")
    validateText "operational_public_key" grant.operationalPublicKey maxPublicKeyBytes
    validateEd25519PublicKey "operational_public_key" grant.operationalPublicKey
    reject (grant.capabilities = []) (.invalid "operational key must carry at least one capability")
    validateVec "operational evidence" grant.evidence maxEvidenceRefs
    validateExpiry grant.validFromUnixMs grant.expiresAtUnixMs

structure RecipientKeyBinding where
  abode : HomeId
  signingPublicKey : Text
  encryptionPublicKey : Text
  suite : String
  issuedAtUnixMs : Option Nat
  expiresAtUnixMs : Option Nat
deriving DecidableEq

instance : Validate RecipientKeyBinding where
  validate binding := do
    validate binding.abode
    validateEd25519PublicKey "signing_public_key" binding.signingPublicKey
    validateX25519PublicKey "encryption_public_key" binding.encryptionPublicKey
    validateText "encryption suite" binding.suite maxNameBytes
    validateExpiry binding.issuedAtUnixMs binding.expiresAtUnixMs

def jobIdDomain : List UInt8 := "gawd.job.id.v1\x00".toUTF8.toList

/-- The low 64 bits of a length, most significant byte first. -/
def beBytes64 (value : Nat) : List UInt8 :=
  (List.range 8).map fun index => UInt8.ofNat (value / 256 ^ (7 - index))

/-- The length-framed bytes a job identity is derived from. -/
def jobIdPreimage (home : HomeId) (idempotencyKey : String) : List UInt8 :=
  let homeBytes := home.text.render.toUTF8.toList
  let keyBytes := idempotencyKey.toUTF8.toList
  jobIdDomain ++ beBytes64 homeBytes.length ++ homeBytes ++ beBytes64 keyBytes.length ++ keyBytes

/-- A caller key is scoped to one Home. -/
def deriveJobId [Crypto] (home : HomeId) (idempotencyKey : String) : Except ContractError JobId := do
  validate home
  validateText "caller_idempotency_key" idempotencyKey maxIdempotencyKeyBytes
  return ⟨.sha256 (Crypto.sha256 (jobIdPreimage home idempotencyKey))⟩

def validateCausalLinks (values : List CausalLink) : Except ContractError Unit :=
  validateVec "causal links" values maxCausalLinks

end Gawd.Wire
