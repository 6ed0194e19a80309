import Gawd.Home.Preflight

/-!
The operations of an open Home: submissions, policy decisions, grants, executor receipts, controls and
causal children. Each one signs its event, tries it, appends it and only then applies it.
-/

namespace Gawd.Home

open Gawd.Logic Gawd.Wire Gawd.Journal

section

variable [Crypto]

/-- The runtime, both journals and custody must all stand behind a write. -/
def FunctionHome.authoritative (home : FunctionHome) : Except HomeError Unit := do
  match home.operationalFailure with
  | some error => throw (.state s!"Home runtime is inert: {error}")
  | none => pure ()
  ofJournal home.journal.ensureHealthy
  ofJournal home.custodyJournal.ensureHealthy
  home.custody.ensureWritable

def ensureAuthoritativeState : Action Unit := do
  let home ← get
  home.authoritative

def appendJob (host : Host) (record : HomeLedgerRecord) : Action (SignedRecord (ChainEntry HomeLedgerRecord)) := do
  let home ← get
  zoom FunctionHome.journal (fun journal home => { home with journal }) HomeError.journal
    (SignedJournal.append record host.signer (host.jobFate home.journal.records.length))

def applyToState (record : HomeLedgerRecord) : Action Unit := do
  let home ← get
  zoom FunctionHome.state (fun state home => { home with state }) id (applyLedgerRecord home.config record)

/-- The checks a record passes before it may reach the journal. -/
def FunctionHome.admit (home : FunctionHome) (record : HomeLedgerRecord) : Except HomeError Unit := do
  validateLedgerRecord record home.config
  preflightLedgerTransition home.config home.state record
  let reservedAfter ← homeReservationsAfter home.state record
  let remaining ← ofJournal home.journal.remainingRecords
  reject (remaining ≤ reservedAfter)
    (.capacity s!"Home journal must preserve {reservedAfter} terminal/control-ack record slots")

def persistAndApply (host : Host) (record : HomeLedgerRecord) : Action Unit := do
  ensureAuthoritativeState
  let home ← get
  home.admit record
  let _ ← appendJob host record
  applyToState record

/-- The event as it will be signed: the next in its Job's sequence. -/
def FunctionHome.nextEvent (home : FunctionHome) (handle : JobHandle) (stateAfter : JobState)
    (cancelRequested : Bool) (occurredAtUnixMs : Option Nat) (kind : JobEventKind)
    (foreignReceipt : Option (SignedRecord ExecutionReceipt)) : JobEvent where
  handle := handle
  homeEpoch := home.config.epoch
  authority := home.config.authority
  sequence := ((home.state.jobs.get? handle.job).map fun job => job.snapshot.lastSequence + 1).getD 1
  occurredAtUnixMs := occurredAtUnixMs
  stateAfter := stateAfter
  cancelRequested := cancelRequested
  kind := kind
  foreignReceipt := foreignReceipt

def signEventWithReceipt (host : Host) (handle : JobHandle) (stateAfter : JobState)
    (cancelRequested : Bool) (occurredAtUnixMs : Option Nat) (kind : JobEventKind)
    (foreignReceipt : Option (SignedRecord ExecutionReceipt)) : Action (SignedRecord JobEvent) := do
  ensureAuthoritativeState
  let home ← get
  let event := home.nextEvent handle stateAfter cancelRequested occurredAtUnixMs kind foreignReceipt
  ofInvalid (validate event)
  ofSigning (SignedRecord.sign .job event host.signer)

def signEvent (host : Host) (handle : JobHandle) (stateAfter : JobState) (cancelRequested : Bool)
    (occurredAtUnixMs : Option Nat) (kind : JobEventKind) : Action (SignedRecord JobEvent) :=
  signEventWithReceipt host handle stateAfter cancelRequested occurredAtUnixMs kind none

/-- The recipient keys are separate from the root, from each other and from every epoch key. -/
def verifyCurrentRecipientBinding (config : HomeConfig) (binding : SignedRecord RecipientKeyBinding) :
    Except HomeError Unit := do
  ofInvalid (verifyRecipientKeyBinding binding)
  reject (binding.payload.abode ≠ config.home)
    (.unauthorized "recipient binding does not name this Home")
  let root := config.home.text
  let signing := binding.payload.signingPublicKey
  let encryption := binding.payload.encryptionPublicKey
  reject (signing = root ∨ encryption = root ∨ signing = encryption)
    (.unauthorized "recipient binding reuses a root, proof, or encryption key plane")
  reject (config.authorities.any fun authority =>
      signing = authority.operationalKey ∨ encryption = authority.operationalKey)
    (.unauthorized "recipient binding reuses a Home operational authority key")

/-- The binding the rewrapper serves, asked for once and then remembered. -/
def cachedRecipientBinding (host : Host) : Action (SignedRecord RecipientKeyBinding) := do
  let home ← get
  match home.currentRecipientBinding with
  | some binding => pure binding
  | none => do
    let binding ← mapError (fun error => HomeError.state s!"custody key rewrapper unavailable: {error}")
      host.currentBinding
    verifyCurrentRecipientBinding home.config binding
    set { home with currentRecipientBinding := some binding }
    return binding

def requireSealed (host : Host) (value : SealedValue) : Action Unit := do
  let home ← get
  match value.recipients.filter fun wrap => wrap.recipient = home.config.home with
  | [] => pure ()
  | [wrap] => do
    let binding ← cachedRecipientBinding host
    reject (value.suite ≠ binding.payload.suite ∨ wrap.bindingHash ≠ canonicalHash binding)
      (HomeError.unauthorized "sealed value Home envelope does not use the current recipient binding")
  | _ => throw (.invalid "sealed value carries multiple envelopes for its Home")

/-- The bytes behind a value are available, and a sealed value is readable by this Home if it names it. -/
def requireValue (host : Host) (value : ValueRef) : Action Unit := do
  mapError (fun reason : ContractError =>
      let shown := reason.display
      HomeError.invalid s!"job blob unavailable: {shown}")
    (value.verifyAvailable host.blobs)
  match value with
  | .sealed value => requireSealed host value
  | _ => pure ()

def requireReceiptValues (host : Host) : ExecutionStage → Action Unit
  | .progress _ progress => requireValue host progress
  | .checkpoint _ checkpoint => requireValue host checkpoint
  | .succeeded result => requireValue host result
  | .failed error _ => requireValue host error
  | _ => pure ()

/-! Submissions -/

inductive SubmitOutcome where
  | accepted (handle : JobHandle) (requestHash : Text) (submitted : SignedRecord JobEvent)
  | existing (handle : JobHandle) (requestHash : Text) (submitted : SignedRecord JobEvent)
deriving DecidableEq

structure PreparedSubmission where
  handle : JobHandle
  requestHash : Text
  spec : JobSpec

def validateJobRequestSignedBy (host : Host) (request : SignedRecord JobSubmit) (authorizedSigner : Text) :
    Action (JobHandle × Text) := do
  let home ← get
  ofInvalid (validate request)
  requireValue host request.payload.input
  reject (request.schema ≠ .job ∨ request.verify = false)
    (HomeError.unauthorized "invalid job-submission signature")
  reject (request.payload.home ≠ home.config.home ∨ request.signer ≠ authorizedSigner)
    (HomeError.unauthorized "submission is not signed by the authority that approved this operation")
  let job ← ofInvalid (deriveJobId request.payload.home request.payload.callerIdempotencyKey)
  let requestHash ← ofInvalid request.payload.requestHash
  return (⟨home.config.home, job⟩, requestHash)

/-- The trust, pin and effect checks of a submission, and the specification they accept. -/
def acceptSpec (host : Host) (handle : JobHandle) (requestHash : Text) (request : JobSubmit)
    (resolution : SignedRecord ResolutionReceipt) (deployment : SignedRecord DeploymentReceipt) :
    Except HomeError JobSpec := do
  ofInvalid (validate resolution)
  ofInvalid (validate deployment)
  reject (resolution.verify = false ∨ verifyDeploymentReceipt deployment ≠ .ok ())
    (.unauthorized "resolution/deployment receipt signature is invalid")
  ofRefusal "resolution" (host.allowResolution resolution)
  ofRefusal "deployment" (host.allowDeployment deployment)
  reject (resolution.payload.selector ≠ request.function ∨
      resolution.payload.function ≠ deployment.payload.function ∨
      resolution.payload.artifactHash ≠ deployment.payload.artifactHash)
    (.invalid "submission, resolution, and deployment pins do not match")
  let resolved : ResolvedFunction :=
    ⟨request.function, resolution.payload.function, resolution.payload.artifactHash, some resolution⟩
  ofInvalid (validate resolved)
  reject (request.delivery ≠ .atMostOnce ∧ request.allowDuplicateEffects = false ∧
      host.effect resolved ≠ .readOnly ∧ host.effect resolved ≠ .idempotent)
    (.invalid "at-least-once for an unknown/non-idempotent function requires allow_duplicate_effects")
  let spec : JobSpec :=
    { handle
      root := request.parent.getD handle
      callerIdempotencyKey := request.callerIdempotencyKey
      requestHash
      function := resolved
      deployment
      input := request.input
      delivery := request.delivery
      allowDuplicateEffects := request.allowDuplicateEffects
      parent := request.parent
      causal := request.causal
      access := request.access
      evidence := request.evidence
      resultRecipients := request.resultRecipients
      acceptedAtUnixMs := request.submittedAtUnixMs }
  ofInvalid (validate spec)
  return spec

def prepareSubmissionSignedBy (host : Host) (request : SignedRecord JobSubmit)
    (resolution : SignedRecord ResolutionReceipt) (deployment : SignedRecord DeploymentReceipt)
    (authorizedSigner : Text) : Action PreparedSubmission := do
  let (handle, requestHash) ← validateJobRequestSignedBy host request authorizedSigner
  let spec ← acceptSpec host handle requestHash request.payload resolution deployment
  return ⟨handle, requestHash, spec⟩

def submittedEvent (state : HomeState) (job : JobId) : Except HomeError (SignedRecord JobEvent) :=
  match (state.jobs.get? job).bind fun record => record.events.head? with
  | some event =>
    match event.payload.kind with
    | .submitted _ => .ok event
    | _ => .error (.state "accepted job has no durable Submitted proof")
  | none => .error (.state "accepted job has no durable Submitted proof")

/-- The answer to a request whose Job exists already. -/
def existingSubmission (state : HomeState) (handle : JobHandle) (requestHash : Text) :
    Except HomeError (Option SubmitOutcome) :=
  match state.requestHashes.get? handle.job with
  | some existing =>
    if existing = requestHash then do
      let submitted ← submittedEvent state handle.job
      return some (.existing handle requestHash submitted)
    else .error (.conflict handle.job.text.render)
  | none => .ok none

def jobCapacity (home : FunctionHome) : Except HomeError Unit :=
  let count := home.state.jobs.size
  let cap := home.config.maxJobs
  reject (cap ≤ count) (.capacity s!"{count} jobs reaches cap {cap}")

def acceptSubmission (host : Host) (prepared : PreparedSubmission) : Action SubmitOutcome := do
  let home ← get
  jobCapacity home
  let event ← signEvent host prepared.handle .queued false prepared.spec.acceptedAtUnixMs
    (.submitted prepared.spec)
  persistAndApply host ⟨none, none, [event]⟩
  return .accepted prepared.handle prepared.requestHash event

def submit (host : Host) (request : SignedRecord JobSubmit) (resolution : SignedRecord ResolutionReceipt)
    (deployment : SignedRecord DeploymentReceipt) : Action SubmitOutcome := do
  ensureAuthoritativeState
  reject (request.payload.parent.isSome ∨ request.payload.causal ≠ [])
    (HomeError.invalid "direct Submit cannot assert parent/causal edges; use atomic ProposeChild")
  let home ← get
  let (handle, requestHash) ← validateJobRequestSignedBy host request home.config.home.text
  ensureAuthoritativeState
  let known ← existingSubmission (← get).state handle requestHash
  match known with
  | some outcome => return outcome
  | none =>
    let prepared ← prepareSubmissionSignedBy host request resolution deployment home.config.home.text
    ensureAuthoritativeState
    -- the source looks again because it let go of its lock while it consulted trust
    let known ← existingSubmission (← get).state prepared.handle requestHash
    match known with
    | some outcome => return outcome
    | none => acceptSubmission host prepared

end

end Gawd.Home
