import Gawd.Logic.Checked

/-!
The ground of the `gawdfn` contract: texts, digests and keys, signed records, and the cryptography
they rest on.
-/

namespace Gawd.Wire

open Gawd.Logic

inductive ContractError where
  | invalid (message : String)
  | limit (message : String)
  | encoding (message : String)
  | crypto (message : String)
deriving DecidableEq

/-- The error as it is shown inside other errors. -/
def ContractError.display : ContractError → String
  | .invalid message => "invalid contract: " ++ message
  | .limit message => "contract limit exceeded: " ++ message
  | .encoding message => "contract encoding error: " ++ message
  | .crypto message => "contract cryptography error: " ++ message

/-- A contract string. The two shapes the contract checks, `sha256:` digests and lowercase-hex 32-byte
keys, are kept symbolic; everything else is plain text. -/
inductive Text where
  | plain (text : String)
  | sha256 (digest : Nat)
  | key (value : Nat)
deriving DecidableEq

/-- The Unicode `White_Space` characters that `str::trim` removes. -/
def isWhitespace (char : Char) : Bool :=
  let code := char.toNat
  (9 ≤ code && code ≤ 13) || code == 0x20 || code == 0x85 || code == 0xA0 || code == 0x1680 ||
    (0x2000 ≤ code && code ≤ 0x200A) || code == 0x2028 || code == 0x2029 || code == 0x202F ||
    code == 0x205F || code == 0x3000

namespace Text

/-- `value.trim().is_empty()` -/
def isBlank : Text → Bool
  | .plain text => text.toList.all isWhitespace
  | .sha256 _ => false
  | .key _ => false

def hex64 (value : Nat) : String :=
  let digits := Nat.toDigits 16 value
  String.ofList (List.replicate (64 - digits.length) '0' ++ digits)

def render : Text → String
  | .plain text => text
  | .sha256 digest => "sha256:" ++ hex64 digest
  | .key value => hex64 value

/-- Length in bytes. -/
def len : Text → Nat
  | .plain text => text.utf8ByteSize
  | .sha256 _ => 71
  | .key _ => 64

end Text

instance : Coe String Text := ⟨.plain⟩

/-- Structural pressure validation; no trust or placement decision. -/
class Validate (α : Type) where
  validate : α → Except ContractError Unit

export Validate (validate)

def maxIdBytes : Nat := 256

def maxNameBytes : Nat := 128

def maxVersionBytes : Nat := 128

def maxMediaTypeBytes : Nat := 256

def maxReasonBytes : Nat := 4096

def maxIdempotencyKeyBytes : Nat := 256

def maxSignatureBytes : Nat := 512

def maxPublicKeyBytes : Nat := 512

def maxInlineValueBytes : Nat := 64 * 1024

def maxProgressBytes : Nat := 64 * 1024

def maxErrorBytes : Nat := 64 * 1024

def maxJobMessageBytes : Nat := 1024 * 1024

def maxJobAttempts : Nat := 64

def maxJobDelegates : Nat := 32

def maxEvidenceRefs : Nat := 32

def maxResultRecipients : Nat := 32

def maxCustodyRewrapItems : Nat := 64

def maxEventPageItems : Nat := 256

def maxAttemptObservations : Nat := 256

def maxJobControls : Nat := 256

def maxCausalLinks : Nat := 32

def validateText (label : String) (value : Text) (maxBytes : Nat) : Except ContractError Unit := do
  let size := value.len
  reject value.isBlank (.invalid s!"{label} must not be empty")
  reject (maxBytes < size) (.limit s!"{label} is {size} bytes, exceeds {maxBytes}")

def validateOptionalText (label : String) (value : Option Text) (maxBytes : Nat) :
    Except ContractError Unit :=
  match value with
  | none => .ok ()
  | some value => validateText label value maxBytes

def validateSha256 (label : String) : Text → Except ContractError Unit
  | .sha256 _ => .ok ()
  | .plain text =>
    if text.startsWith "sha256:" then
      .error (.invalid s!"{label} must contain 64 lowercase hexadecimal digits")
    else
      .error (.invalid s!"{label} must start with `sha256:`")
  | .key _ => .error (.invalid s!"{label} must start with `sha256:`")

def validateEd25519PublicKey (label : String) : Text → Except ContractError Unit
  | .key _ => .ok ()
  | _ => .error (.invalid s!"{label} must be a lowercase-hex 32-byte Ed25519 public key")

def validateX25519PublicKey (label : String) : Text → Except ContractError Unit
  | .key _ => .ok ()
  | _ => .error (.invalid s!"{label} must be a lowercase-hex 32-byte X25519 public key")

def validateEach {α : Type} [Validate α] : List α → Except ContractError Unit
  | [] => .ok ()
  | value :: rest => do
    validate value
    validateEach rest

def validateVec {α : Type} [Validate α] (label : String) (values : List α) (maxItems : Nat) :
    Except ContractError Unit := do
  let count := values.length
  reject (maxItems < count) (.limit s!"{label} has {count} items, exceeds {maxItems}")
  validateEach values

def validateExpiry (issuedAtUnixMs expiresAtUnixMs : Option Nat) : Except ContractError Unit :=
  match issuedAtUnixMs, expiresAtUnixMs with
  | some issued, some expiry =>
    reject (expiry ≤ issued) (.invalid "expiry must be later than issue/valid-from time")
  | _, _ => .ok ()

/-- `value.parse::<u64>()` -/
def parseU64 (text : String) : Option Nat :=
  let digits := match text.toList with
    | '+' :: rest => rest
    | chars => chars
  let value := digits.foldl (fun total digit => 10 * total + (digit.toNat - '0'.toNat)) 0
  if digits.isEmpty || !digits.all Char.isDigit || 2 ^ 64 ≤ value then none else some value

def validateCreatureId (label : String) (value : String) : Except ContractError Unit := do
  validateText label value maxIdBytes
  let parsed ← orError (.invalid s!"{label} must be a positive numeric CreatureId") (parseU64 value)
  reject (parsed = 0 ∨ toString parsed ≠ value)
    (.invalid s!"{label} must be the canonical decimal form of a positive CreatureId")

/-- The schema names that separate the signature domains. -/
inductive Schema where
  | functionDeploy
  | job
  | execute
  | call
  | home
  | custodyRewrap
  | locate
  | policy
  | other (name : String)
deriving DecidableEq

def Schema.name : Schema → String
  | .functionDeploy => "gawd.function.deploy.v1"
  | .job => "gawd.function.job.v1"
  | .execute => "gawd.function.execute.v1"
  | .call => "gawd.function.call.v1"
  | .home => "gawd.function.home.v1"
  | .custodyRewrap => "gawd.function.custody.rewrap.v1"
  | .locate => "gawd.function.locate.v1"
  | .policy => "gawd.function.policy.v1"
  | .other name => name

/-- A schema/domain-separated signed application record. -/
structure SignedRecord (α : Type) where
  schema : Schema
  signer : Text
  payload : α
  signature : Text
deriving DecidableEq

/-- The part of a record its signature covers. -/
structure RecordPayload (α : Type) where
  schema : Schema
  signer : Text
  payload : α
deriving DecidableEq

/-- What the contract takes from outside: SHA-256 over bytes and over canonical JSON, the length of the
canonical JSON, and Ed25519 verification of the canonical JSON of a record payload. -/
class Crypto where
  sha256 : List UInt8 → Nat
  canonicalDigest : {α : Type} → α → Nat
  encodedLen : {α : Type} → α → Nat
  verify : {α : Type} → RecordPayload α → (signature : Text) → Bool

section

variable [Crypto] {α : Type}

/-- `sha256:<lowercase hex>` over the canonical JSON of a value. -/
def canonicalHash (value : α) : Text :=
  .sha256 (Crypto.canonicalDigest value)

def ensureMessageBound (value : α) : Except ContractError Unit :=
  let len := Crypto.encodedLen value
  reject (maxJobMessageBytes < len) (.limit s!"wire message is {len} bytes, exceeds {maxJobMessageBytes}")

namespace SignedRecord

def signingPayload (record : SignedRecord α) : RecordPayload α :=
  ⟨record.schema, record.signer, record.payload⟩

def verify (record : SignedRecord α) : Bool :=
  if maxPublicKeyBytes < record.signer.len ∨ maxSignatureBytes < record.signature.len then false
  else Crypto.verify record.signingPayload record.signature

/-- Structural validation of a record whose payload has been judged by `payloadValid`. -/
def validateWith (record : SignedRecord α) (payloadValid : Except ContractError Unit) :
    Except ContractError Unit := do
  validateText "signed record schema" record.schema.name maxIdBytes
  validateText "signed record signer" record.signer maxPublicKeyBytes
  validateText "signed record signature" record.signature maxSignatureBytes
  payloadValid
  ensureMessageBound record

end SignedRecord

instance [Validate α] : Validate (SignedRecord α) :=
  ⟨fun record => record.validateWith (validate record.payload)⟩

/-- An injected signer: its public key, and whether and how it signs a payload. -/
structure AuthoritySigner where
  publicKey : Text
  sign : {α : Type} → RecordPayload α → Except ContractError Text

/-- Sign `schema + signer + payload`; the signature field is never self-referential. -/
def SignedRecord.sign (schema : Schema) (payload : α) (signer : AuthoritySigner) :
    Except ContractError (SignedRecord α) := do
  let body : RecordPayload α := ⟨schema, signer.publicKey, payload⟩
  let len := Crypto.encodedLen body
  reject (maxJobMessageBytes < len)
    (.limit s!"signed record is {len} bytes, exceeds {maxJobMessageBytes}")
  let signature ← signer.sign body
  return ⟨schema, signer.publicKey, payload, signature⟩

/-- A signed record carries the given schema and payload under the signer's key. -/
theorem SignedRecord.sign_eq_ok {schema : Schema} {payload : α} {signer : AuthoritySigner} {record : SignedRecord α}
    (signed : SignedRecord.sign schema payload signer = .ok record) :
    record.schema = schema ∧ record.signer = signer.publicKey ∧ record.payload = payload := by
  simp only [SignedRecord.sign, bind_eq_ok, reject_eq_ok, pure_eq_ok] at signed
  obtain ⟨_, _, signature, _, rfl⟩ := signed
  exact ⟨rfl, rfl, rfl⟩

end

end Gawd.Wire
