import Gawd.Home.Recovery
import Gawd.Logic.TransitionSystem
import Gawd.Wire.CollisionFree

/-!
A fleet: the roots of one Home, each with the key of its own epoch, and all that can happen to them. A
root is files, with or without a process over them; commands may interleave, fail half way and crash.

Signatures are represented by what unforgeability gives: a proof chain that verifies is genuine, that is
its grants are those the Abode root minted, and its Prepared proofs are those that a root of the fleet has
put into its custody journal, before which none leaves the process.
-/

namespace Gawd.Home

open Gawd.Logic Gawd.Wire Gawd.Journal

/-- A Home root: files alone, or an open Home over them. -/
inductive Root where
  | down (disk : Disk)
  | up (home : FunctionHome) (importedAuthorities : Option ImportedAuthorityHistory)
    (currentAuthority : Option (SignedRecord CustodyPrepared))

namespace Root

def disk : Root → Disk
  | .down disk => disk
  | .up home importedAuthorities currentAuthority =>
    ⟨home.journal.files, home.custodyJournal.files, importedAuthorities, currentAuthority⟩

/-- The root after its files have changed under it. -/
def withDisk (root : Root) (disk : Disk) : Root :=
  match root with
  | .down _ => .down disk
  | .up home _ _ =>
    .up { home with
        journal := { home.journal with files := disk.job }
        custodyJournal := { home.custodyJournal with files := disk.custody } }
      disk.importedAuthorities disk.currentAuthority

/-- The open Home of a root. -/
def process? : Root → Option FunctionHome
  | .down _ => none
  | .up home _ _ => some home

/-- A root that may write: its Home is open and in custody of the ledger. -/
def Writable (root : Root) : Prop :=
  ∃ home, root.process? = some home ∧ home.custody.ensureWritable = .ok ()

end Root

/-- What an open Home can be asked to do. -/
inductive Operation where
  | submit (request : SignedRecord JobSubmit) (resolution : SignedRecord ResolutionReceipt)
    (deployment : SignedRecord DeploymentReceipt)
  | applyPlacementDecision (decision : SignedRecord PlacementDecision)
  | applyRetryDecision (decision : SignedRecord RetryDecision)
  | issueGrant (job : JobId) (deployment : SignedRecord DeploymentReceipt)
    (issuedAtUnixMs deadlineUnixMs : Option Nat)
  | applyExecutorReceipt (receipt : SignedRecord ExecutionReceipt)
  | control (request : SignedRecord JobControl)
  | createCheckpoint (createdAtUnixMs : Option Nat)
  | prepareHandoff (grant : SignedRecord CustodyGrant) (checkpoint : SignedRecord HomeCheckpoint)
  | recordHandoffRedirect (lease : SignedRecord HomeLease)
  | bindRuntime (me : Nat)

/-- What can happen to a root. -/
inductive Command where
  | openHome (host : Host) (config : HomeConfig)
  | stageHandoff (host : Host) (config : HomeConfig) (prepared : SignedRecord CustodyPrepared)
  | activateStagedHandoff (host : Host) (config : HomeConfig) (staged : SignedRecord CustodyStaged)
  | refreshActiveDestinationLease (host : Host) (config : HomeConfig)
  | operate (host : Host) (operation : Operation)
  | crash

section

variable [Crypto]

def Operation.perform (host : Host) (home : FunctionHome) : Operation → FunctionHome
  | .submit request resolution deployment => finalState (Home.submit host request resolution deployment) home
  | .applyPlacementDecision decision => finalState (Home.applyPlacementDecision host decision) home
  | .applyRetryDecision decision => finalState (Home.applyRetryDecision host decision) home
  | .issueGrant job deployment issuedAtUnixMs deadlineUnixMs =>
    finalState (Home.issueGrant host job deployment issuedAtUnixMs deadlineUnixMs) home
  | .applyExecutorReceipt receipt => finalState (Home.applyExecutorReceipt host receipt) home
  | .control request => finalState (Home.control host request) home
  | .createCheckpoint createdAtUnixMs => finalState (Home.createCheckpoint host createdAtUnixMs) home
  | .prepareHandoff grant checkpoint => finalState (Home.prepareHandoff host grant checkpoint) home
  | .recordHandoffRedirect lease => finalState (Home.recordHandoffRedirect host lease) home
  | .bindRuntime me => finalState (Home.bindRuntime host me) home

/-- An operation on Jobs moves along the Job ledger; what the others do is up to them. -/
theorem Operation.moves_or {host : Host} {home : FunctionHome} {other : FunctionHome → FunctionHome → Prop} {operation : Operation}
    (free : Unobserved allowed) (receipts : ∀ receipt, operation = .applyExecutorReceipt receipt →
      ∀ record, record.receipt = some receipt → allowed home.state record)
    (prepares : ∀ grant checkpoint, operation = .prepareHandoff grant checkpoint →
      AlongFrom other (Home.prepareHandoff host grant checkpoint) home)
    (redirects : ∀ lease, AlongFrom other (Home.recordHandoffRedirect host lease) home)
    (binds : ∀ me, AlongFrom other (Home.bindRuntime host me) home) :
    Moves allowed host.signer.publicKey home (operation.perform host home) ∨ other home (operation.perform host home) := by
  cases operation with
  | submit request resolution deployment =>
    exact .inl (finalState_of_wp (submit_moves free home))
  | applyPlacementDecision decision => exact .inl (finalState_of_wp (applyPlacementDecision_moves free home))
  | applyRetryDecision decision => exact .inl (finalState_of_wp (applyRetryDecision_moves free home))
  | issueGrant job deployment issuedAtUnixMs deadlineUnixMs =>
    exact .inl (finalState_of_wp (issueGrant_moves free home))
  | applyExecutorReceipt receipt =>
    exact .inl (finalState_of_wp (applyExecutorReceipt_moves (receipts receipt rfl)))
  | control request => exact .inl (finalState_of_wp (control_moves free home))
  | createCheckpoint createdAtUnixMs =>
    have same : home = finalState (Home.createCheckpoint host createdAtUnixMs) home :=
      finalState_of_wp (createCheckpoint_reads home)
    rw [Operation.perform, ← same]
    exact .inl .refl
  | prepareHandoff grant checkpoint => exact .inr (finalState_of_wp (prepares grant checkpoint rfl))
  | recordHandoffRedirect lease => exact .inr (finalState_of_wp (redirects lease))
  | bindRuntime me => exact .inr (finalState_of_wp (binds me))

/-- The destination adapter refreshes under the authority it completed when it was built. -/
def refreshMerged (host : Host) (config : HomeConfig) : Storage Unit := do
  let disk ← get
  let merged ← mergeCurrentAuthority config disk.currentAuthority
  let _ ← refreshActiveDestinationLease host merged

/-- What a command does to a root. A Home opens and its lease is refreshed only where no process runs;
staging and activation work on the files in either case. -/
def Root.perform (root : Root) (command : Command) : Root :=
  match command, root with
  | .openHome host config, .down disk =>
    match Home.openHome host config disk with
    | .ok home after => .up home after.importedAuthorities after.currentAuthority
    | .error _ after => .down after
  | .openHome .., .up .. => root
  | .stageHandoff host config prepared, _ => root.withDisk (finalState (Home.stageHandoff host config prepared) root.disk)
  | .activateStagedHandoff host config staged, _ =>
    root.withDisk (finalState (Home.activateStagedHandoff host config staged) root.disk)
  | .refreshActiveDestinationLease host config, .down disk => .down (finalState (refreshMerged host config) disk)
  | .refreshActiveDestinationLease .., .up .. => root
  | .operate host operation, .up home importedAuthorities currentAuthority =>
    .up (operation.perform host home) importedAuthorities currentAuthority
  | .operate .., .down _ => root
  | .crash, _ => .down root.disk

end

theorem Root.process?_operate [Crypto] {root : Root} {host : Host} {operation : Operation}
    (running : root.process? = some home) :
    (root.perform (.operate host operation)).process? = some (operation.perform host home) := by
  cases root with
  | down disk => cases running
  | up other importedAuthorities currentAuthority =>
    obtain rfl := Option.some.inj running
    rfl

/-- Where a root lives and the epoch key it holds. -/
structure Identity where
  abode : SignedRecord AbodeKeyBinding
  operational : SignedRecord OperationalKeyGrant
  realm : String
  node : String

/-- The roots of one Home, and what its Abode root has signed: the key grants of the first epoch and the
custody grants. -/
structure Fleet (ι : Type) where
  home : HomeId
  identity : ι → Identity
  genesis : SignedRecord OperationalKeyGrant → Prop
  minted : SignedRecord CustodyGrant → Prop

abbrev World (ι : Type) := ι → Root

/-- A root of the world has put the proof into its custody journal. -/
def World.Published {ι : Type} (world : World ι) (prepared : SignedRecord CustodyPrepared) : Prop :=
  ∃ root, .prepared prepared ∈ eventsOf (world root).disk.custody.records

namespace Fleet

variable {ι : Type}

def epoch (fleet : Fleet ι) (root : ι) : Nat :=
  (fleet.identity root).operational.payload.epoch

/-- The Abode root is honest and every root has a key of its own: one key for the first epoch, at most one
custody grant for each source epoch. -/
structure Honest (fleet : Fleet ι) : Prop where
  genesis : ∀ left right, fleet.genesis left → fleet.genesis right → left = right
  minted : ∀ left right, fleet.minted left → fleet.minted right →
    left.payload.fromEpoch = right.payload.fromEpoch → left = right
  keys : Function.Injective fun root => (fleet.identity root).operational

/-- The authorities that the Abode root and the published proofs give. -/
inductive Genuine (fleet : Fleet ι) (published : SignedRecord CustodyPrepared → Prop) : HomeAuthority → Prop where
  | genesis (abode : SignedRecord AbodeKeyBinding) {operational : SignedRecord OperationalKeyGrant} :
      fleet.genesis operational → Genuine fleet published (.mk abode operational none)
  | moved (abode : SignedRecord AbodeKeyBinding) (operational : SignedRecord OperationalKeyGrant)
      {prepared : SignedRecord CustodyPrepared} : published prepared →
      fleet.minted prepared.payload.grant →
      Genuine fleet published prepared.payload.grant.payload.sourceAuthority →
      Genuine fleet published (.mk abode operational (some prepared))

/-- A Prepared proof of a genuine handoff. -/
structure GenuineProof (fleet : Fleet ι) (published : SignedRecord CustodyPrepared → Prop)
    (prepared : SignedRecord CustodyPrepared) : Prop where
  shown : published prepared
  minted : fleet.minted prepared.payload.grant
  source : fleet.Genuine published prepared.payload.grant.payload.sourceAuthority

/-- The configuration is one for this root. -/
structure Configured (fleet : Fleet ι) (root : ι) (config : HomeConfig) : Prop where
  home : config.home = fleet.home
  epoch : config.epoch = fleet.epoch root
  abode : config.authority.abode = (fleet.identity root).abode
  operational : config.authority.operational = (fleet.identity root).operational
  realm : config.realm = (fleet.identity root).realm
  node : config.node = (fleet.identity root).node

section

variable [Crypto]

/-- A command may come: it is configured for its root, signed for by the root's key, and shows no forged
proof. -/
def Admits (fleet : Fleet ι) (world : World ι) (root : ι) : Command → Prop
  | .openHome _ config => fleet.Configured root config ∧
    (config.authority.validate = .ok () → fleet.Genuine world.Published config.authority)
  | .stageHandoff _ config prepared => fleet.Configured root config ∧
    (verifyCustodyPrepared prepared = .ok () → fleet.GenuineProof world.Published prepared)
  | .activateStagedHandoff _ config _ => fleet.Configured root config
  | .refreshActiveDestinationLease _ config => fleet.Configured root config
  | .operate host _ => host.signer.publicKey = (fleet.identity root).operational.payload.operationalPublicKey
  | .crash => True

/-- All runs of a fleet from empty roots. -/
def system [DecidableEq ι] (fleet : Fleet ι) : TransitionSystem (World ι) (ι × Command) where
  start world := ∀ root, world root = .down .empty
  step before label after := fleet.Admits before label.1 label.2 ∧
    after = Function.update before label.1 ((before label.1).perform label.2)

end

end Fleet

namespace Sample

open Wire.Sample

def config : HomeConfig :=
  ⟨home, 1, "9", "realm", "node", authority, [], 8, 1024, ⟨16, 1024⟩⟩

/-- A host that trusts everyone, signs everything and never fails. -/
def host : Host where
  signer := signerOf homeKey
  effect _ := .readOnly
  allowResolution _ := .ok ()
  allowDeployment _ := .ok ()
  allowExecutorReceipt _ _ := .ok ()
  allowPlacementDecision _ := .ok ()
  allowRetryDecision _ := .ok ()
  blobs _ := .ok ()
  checkpointBlobs _ := .ok ()
  putCheckpoint _ _ := .ok ⟨.sha256 0, 1, "archive"⟩
  getCheckpoint _ := .error (.invalid "checkpoint not found")
  currentBinding := .error "no key rewrapper"
  rewrap _ _ := .error "no key rewrapper"
  jobFate _ := .durable
  custodyFate _ := .durable
  jobFence := none
  custodyFence := none
  importedAuthoritiesFate := .done
  currentAuthorityFate := .done
  snapshotLogFate := .done
  snapshotHeadFate := .done

/-- The first root of the Home alone. -/
def fleet : Fleet Unit where
  home := home
  identity _ := ⟨authority.abode, authority.operational, "realm", "node"⟩
  genesis operational := operational = authority.operational
  minted _ := False

theorem fleet_honest : fleet.Honest :=
  ⟨fun _ _ one two => one.trans two.symm, fun _ _ one => one.elim, fun _ _ _ => rfl⟩

def submission (delivery : DeliveryMode) : SignedRecord JobSubmit :=
  signed .job rootKey
    ⟨home, "key", .id function, value, delivery, false, none, [], ⟨[], []⟩, [], [], none⟩

def resolution : SignedRecord ResolutionReceipt :=
  signed .functionDeploy (.key 4) ⟨.id function, function, .sha256 8, none, []⟩

def submit (delivery : DeliveryMode) : Operation := .submit (submission delivery) resolution deployment

def issue : Operation := .issueGrant job deployment none none

def cancel : Operation :=
  .control (signed .job rootKey ⟨⟨home, job⟩, 1, ⟨"cancel"⟩, none, .cancel "enough"⟩)

section

variable [Crypto]

/-- The world of the first root after some commands. -/
def world (commands : List Command) : World Unit :=
  fun _ => commands.foldl Root.perform (.down .empty)

/-- The first root is opened under its configuration with whatever bounds, worked with under its key, and may
crash. -/
def Ours : Command → Prop
  | .openHome _ other => other = { config with
      maxJobs := other.maxJobs, maxCheckpointBytes := other.maxCheckpointBytes, journalCaps := other.journalCaps }
  | .operate worker _ => worker.signer.publicKey = homeKey
  | .crash => True
  | _ => False

theorem admits_ours {fleet : Fleet ι} (configured : fleet.Configured root config) (first : fleet.genesis authority.operational)
    (own : Ours command) : fleet.Admits before root command := by
  cases command with
  | openHome host other =>
    rw [own]
    exact ⟨{ configured with }, fun _ => .genesis _ first⟩
  | operate worker operation => exact own.trans (congrArg (·.payload.operationalPublicKey) configured.operational)
  | crash => trivial
  | stageHandoff | activateStagedHandoff | refreshActiveDestinationLease => exact own.elim

theorem world_step (commands : List Command) (last : Command) (own : Ours last) :
    fleet.system.step (world commands) ((), last) (world (commands ++ [last])) := by
  refine ⟨admits_ours ⟨rfl, rfl, rfl, rfl, rfl, rfl⟩ rfl own, ?_⟩
  funext root
  simp [world]

theorem restrict_reachable {condition : World Unit → Unit × Command → Prop}
    (own : ∀ command ∈ commands, Ours command) (met : ∀ command ∈ commands, ∀ before, condition before ((), command)) :
    (fleet.system.restrict condition).Reachable (world commands) := by
  induction commands using List.reverseRecOn with
  | nil => exact .start fun _ => rfl
  | append_singleton commands last ih =>
    have earlier := ih (fun command member => own command (List.mem_append_left _ member))
      fun command member => met command (List.mem_append_left _ member)
    exact earlier.step ⟨world_step commands last (own last (by simp)), met last (by simp) _⟩

theorem world_reachable (own : ∀ command ∈ commands, Ours command) : fleet.system.Reachable (world commands) :=
  (@restrict_reachable _ commands (fun _ _ => True) own fun _ _ _ => trivial).of_restrict

end

end Sample

end Gawd.Home
