import Gawd.Home.Dispatch

/-!
Caller controls of a Job, and the atomic spawn of a causal child.
-/

namespace Gawd.Home

open Gawd.Logic Gawd.Wire Gawd.Journal

/-- The ordered set of the given identities. -/
def homeSet (ids : List HomeId) : SortedMap HomeId Unit :=
  ids.foldl (fun set id => set.insert id ()) ∅

def updateMembers (current add remove : List HomeId) : List HomeId :=
  let kept := remove.foldl (fun set id => set.erase id) (homeSet current)
  (add.foldl (fun set id => set.insert id ()) kept).entries.map Prod.fst

def updateAccess (current : JobAccess) (addReaders removeReaders addControllers removeControllers : List HomeId) :
    Except HomeError JobAccess := do
  let access : JobAccess :=
    ⟨updateMembers current.readers addReaders removeReaders,
      updateMembers current.controllers addControllers removeControllers⟩
  ofInvalid (validate access)
  return access

/-- The attempt an event is about. -/
def eventAttempt : JobEventKind → Option AttemptId
  | .dispatchGranted _ attempt | .claimed attempt _ | .started attempt | .progress attempt _ _
  | .checkpoint attempt _ _ | .controlQueued _ attempt | .controlAcknowledged _ attempt _
  | .attemptFailed attempt _ _ | .succeeded attempt _ | .indeterminate attempt _ _
  | .lateReceipt attempt _ | .childSpawned attempt _ _ _ _ _ => some attempt
  | _ => none

/-- The Home's owner, or a controller the Job names. -/
def ownsOrControls (config : HomeConfig) (snapshot : JobSnapshot) (signer : Text) : Bool :=
  signer = config.home.text ∨ snapshot.spec.access.controllers.any fun id => id.text = signer

def isCancel : JobControlKind → Bool
  | .cancel _ => true
  | _ => false

def isSteer : JobControlKind → Bool
  | .steer _ => true
  | _ => false

def isAccessUpdate : JobControlKind → Bool
  | .accessUpdate .. => true
  | _ => false

section

variable [Crypto]

/-- The durable event that accepted a control before. -/
def acceptedControl (events : List (SignedRecord JobEvent)) (control : ControlId) (controlHash : Text) :
    Except HomeError (SignedRecord JobEvent) :=
  orError (.state "control dedup state is incomplete") <| events.find? fun event =>
    match event.payload.kind with
    | .controlRequested durable _ => durable.payload.control = control
    | .accessUpdated existing requestHash _ => existing = control ∧ requestHash = controlHash
    | _ => false

/-- Cancelling a Job that is not in flight ends it; otherwise the request stays with it. -/
def controlState (snapshot : JobSnapshot) (kind : JobControlKind) : JobState :=
  if isCancel kind ∧
      (snapshot.state = .queued ∨ snapshot.state = .blocked ∨ snapshot.state = .retryPending) then .cancelled
  else snapshot.state

def controlEvent (snapshot : JobSnapshot) (request : SignedRecord JobControl) : Except HomeError JobEventKind :=
  match request.payload.kind with
  | .accessUpdate addReaders removeReaders addControllers removeControllers => do
    let access ← updateAccess snapshot.spec.access addReaders removeReaders addControllers removeControllers
    return .accessUpdated request.payload.control (canonicalHash request) access
  | _ => .ok (.controlRequested request snapshot.currentAttempt)

/-- Whether a control that is new to the Job may be accepted now. -/
def checkControl (state : HomeState) (snapshot : JobSnapshot) (request : JobControl) : Except HomeError Unit := do
  reject (maxJobControls ≤ (state.controlCounts.get? request.handle.job).getD 0)
    (.capacity s!"job controls exceed {maxJobControls}")
  reject snapshot.state.isTerminal (.state "control arrived after terminal state")
  reject (isSteer request.kind ∧
      ((snapshot.state ≠ .dispatching ∧ snapshot.state ≠ .running) ∨ snapshot.currentAttempt = none))
    (.state "steer requires an active dispatching or running attempt")

def acceptControl (host : Host) (job : JobRecord) (request : SignedRecord JobControl) :
    Action (SignedRecord JobEvent) := do
  let home ← get
  checkControl home.state job.snapshot request.payload
  let kind ← controlEvent job.snapshot request
  let event ← signEvent host job.snapshot.spec.handle (controlState job.snapshot request.payload.kind)
    (isCancel request.payload.kind || job.snapshot.cancelRequested) request.payload.issuedAtUnixMs kind
  persistAndApply host ⟨none, none, [event]⟩
  return event

/-- The value a steer carries. -/
def requireSteerValue (host : Host) : JobControlKind → Action Unit
  | .steer value => requireValue host value
  | _ => pure ()

def controlJob (host : Host) (request : SignedRecord JobControl) : Action (SignedRecord JobEvent) := do
  ofInvalid (validate request)
  requireSteerValue host request.payload.kind
  reject (request.schema ≠ .job ∨ request.verify = false)
    (HomeError.unauthorized "invalid job control signature")
  ensureAuthoritativeState
  let home ← get
  let job ← findJob home.state request.payload.handle.job
  reject (request.payload.handle.home ≠ home.config.home ∨
      request.payload.expectedHomeEpoch ≠ home.config.epoch)
    (HomeError.state "control names the wrong home epoch")
  reject (ownsOrControls home.config job.snapshot request.signer = false)
    (HomeError.unauthorized "signer is not owner or controller")
  reject (isAccessUpdate request.payload.kind ∧ request.signer ≠ home.config.home.text)
    (HomeError.unauthorized "only the owner may update access")
  match home.state.controls.get? (controlKey request.payload.handle.job request.payload.control) with
  | some existing => do
    let control := request.payload.control.text.render
    let jobName := request.payload.handle.job.text.render
    reject (existing ≠ canonicalHash request)
      (HomeError.conflict s!"control `{control}` changed after durable acceptance for job `{jobName}`")
    acceptedControl job.events request.payload.control (canonicalHash request)
  | none => acceptControl host job request

/-! Causal children -/

/-- What a child proposal asks for. -/
structure Proposal where
  parentAttempt : AttemptId
  parentEventHash : Text
  spawnKey : String
  childRequestHash : Text
  submit : SignedRecord JobSubmit
  resolution : SignedRecord ResolutionReceipt
  deployment : SignedRecord DeploymentReceipt

def proposalOf : JobControlKind → Option Proposal
  | .proposeChild parentAttempt parentEventHash spawnKey childRequestHash submit resolution deployment =>
    some ⟨parentAttempt, parentEventHash, spawnKey, childRequestHash, submit, resolution, deployment⟩
  | _ => none

/-- The Job a proposal controls, for a signer who may control it. -/
def controlledParent (home : FunctionHome) (request : SignedRecord JobControl) : Except HomeError JobRecord := do
  reject (request.payload.handle.home ≠ home.config.home ∨
      request.payload.expectedHomeEpoch ≠ home.config.epoch)
    (.state "child proposal names the wrong home epoch")
  let parent ← findJob home.state request.payload.handle.job
  reject (ownsOrControls home.config parent.snapshot request.signer = false)
    (.unauthorized "signer is not owner or controller")
  return parent

/-- The specification of a child under its parent's root. -/
def childSpec (parent : JobRecord) (prepared : PreparedSubmission) : Except HomeError JobSpec := do
  reject (parent.snapshot.spec.handle.home ≠ prepared.handle.home ∨
      parent.snapshot.spec.root.home ≠ prepared.handle.home)
    (.invalid "child, parent, and workflow root must remain in one Home")
  let spec := { prepared.spec with root := parent.snapshot.spec.root }
  ofInvalid (validate spec)
  return spec

/-- The hash names an event of the parent for the proposed attempt. -/
def namesParentEvent (parent : JobRecord) (proposal : Proposal) : Bool :=
  parent.events.any fun event =>
    eventAttempt event.payload.kind = some proposal.parentAttempt ∧
      canonicalHash event = proposal.parentEventHash

def spawnChild (host : Host) (request : SignedRecord JobControl) (parent : JobRecord) (proposal : Proposal)
    (spec : JobSpec) : Action (SignedRecord JobEvent) := do
  let home ← get
  let child := spec.handle
  let childName := child.job.text.render
  reject (maxJobControls ≤ (home.state.controlCounts.get? request.payload.handle.job).getD 0)
    (HomeError.capacity s!"job controls exceed {maxJobControls}")
  reject (home.state.jobs.contains child.job)
    (HomeError.conflict s!"child job `{childName}` already exists outside this spawn")
  jobCapacity home
  let parentEvent ← signEvent host parent.snapshot.spec.handle parent.snapshot.state
    parent.snapshot.cancelRequested request.payload.issuedAtUnixMs
    (.childSpawned proposal.parentAttempt proposal.parentEventHash proposal.spawnKey child spec.root
      proposal.childRequestHash)
  let childEvent ← signEvent host child .queued false spec.acceptedAtUnixMs (.submitted spec)
  persistAndApply host ⟨none, none, [parentEvent, childEvent]⟩
  return parentEvent

def proposePrepared (host : Host) (request : SignedRecord JobControl) (proposal : Proposal)
    (prepared : PreparedSubmission) : Action (SignedRecord JobEvent) := do
  reject (prepared.requestHash ≠ proposal.childRequestHash)
    (HomeError.conflict "child request hash changed for the proposed spawn")
  reject (prepared.spec.parent ≠ some request.payload.handle)
    (HomeError.invalid "atomic child submission must name the controlled job as parent")
  reject (prepared.handle = request.payload.handle) (HomeError.conflict "a job cannot spawn itself")
  ensureAuthoritativeState
  let home ← get
  let parent ← controlledParent home request
  let spec ← childSpec parent prepared
  reject parent.snapshot.state.isTerminal
    (HomeError.state "child proposal arrived after terminal parent state")
  reject (namesParentEvent parent proposal = false)
    (HomeError.unauthorized "parent event hash does not name an event for the proposed attempt")
  match home.state.childSpawns.get? (spawnKeyOf proposal.parentAttempt proposal.spawnKey) with
  | some existing =>
    let spawnKey := proposal.spawnKey
    reject (existing.parentEventHash ≠ proposal.parentEventHash ∨
        existing.childRequestHash ≠ proposal.childRequestHash ∨ existing.child ≠ prepared.handle ∨
        existing.root ≠ spec.root)
      (HomeError.conflict s!"child spawn `{spawnKey}` changed after durable acceptance")
    return existing.event
  | none => spawnChild host request parent proposal spec

/-- Atomically bind a causal spawn to its parent event and create the child submission. -/
def proposeChild (host : Host) (request : SignedRecord JobControl) : Action (SignedRecord JobEvent) := do
  ofInvalid (validate request)
  reject (request.schema ≠ .job ∨ request.verify = false)
    (HomeError.unauthorized "invalid causal child control signature")
  let proposal ← orError (HomeError.invalid "control is not a child proposal") (proposalOf request.payload.kind)
  reject (proposal.submit.signer ≠ request.signer)
    (HomeError.unauthorized "child submission and causal proposal must have the same signer")
  ensureAuthoritativeState
  let home ← get
  let _ ← controlledParent home request
  let prepared ← prepareSubmissionSignedBy host proposal.submit proposal.resolution proposal.deployment
    request.signer
  proposePrepared host request proposal prepared

def control (host : Host) (request : SignedRecord JobControl) : Action (SignedRecord JobEvent) := do
  ensureAuthoritativeState
  match request.payload.kind with
  | .proposeChild .. => proposeChild host request
  | _ => controlJob host request

end

end Gawd.Home
