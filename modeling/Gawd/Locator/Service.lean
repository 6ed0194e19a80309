import Gawd.Logic.Process
import Gawd.Logic.SortedMap
import Gawd.Wire.Custody
import Gawd.Wire.Deployment
import Gawd.Wire.Order

/-!
The locator: a finite, signed location index of migratable Homes, with its snapshot file.
-/

namespace Gawd.Locator

open Gawd.Logic Gawd.Wire

structure LocatorCaps where
  maxHomes : Nat
  maxConflictsPerHome : Nat
  maxSnapshotBytes : Nat
deriving DecidableEq

def LocatorCaps.default : LocatorCaps := ⟨16384, 8, 64 * 1024 * 1024⟩

inductive LocatorError where
  | invalid (reason : String)
  | limit (reason : String)
  | io (reason : String)
  | corrupt (reason : String)
  | uncertain
deriving DecidableEq

inductive ApplyOutcome where
  | added
  | advanced
  | duplicate
  | stale (currentEpoch currentSequence : Nat)
  | conflict (epoch : Nat) (leases : List (SignedRecord HomeLease))
deriving DecidableEq

/-- The outcomes that leave the retained leases as they are, and are not persisted. -/
def ApplyOutcome.isIdle : ApplyOutcome → Bool
  | .duplicate => true
  | .stale _ _ => true
  | _ => false

inductive LocateOutcome where
  | location (lease : SignedRecord HomeLease)
  | conflict (epoch : Nat) (leases : List (SignedRecord HomeLease))
  | notFound
deriving DecidableEq

/-- What is retained for a Home: its lease, or the leases of one epoch that contradict each other. -/
inductive LeaseState where
  | current (lease : SignedRecord HomeLease)
  | conflict (epoch : Nat) (leases : List (SignedRecord HomeLease))
deriving DecidableEq

def LeaseState.epoch : LeaseState → Nat
  | .current lease => lease.payload.epoch
  | .conflict epoch _ => epoch

def LeaseState.leases : LeaseState → List (SignedRecord HomeLease)
  | .current lease => [lease]
  | .conflict _ leases => leases

structure PersistedEntry where
  home : HomeId
  lease : LeaseState
deriving DecidableEq

structure PersistedState where
  version : Nat
  entries : List PersistedEntry
deriving DecidableEq

/-- A snapshot file: its length, and what its bytes decode to. -/
structure SnapshotFile where
  len : Nat
  decoded : Except String PersistedState

structure FunctionLocator where
  caps : LocatorCaps
  states : SortedMap HomeId LeaseState
  /-- Whether the locator has a root directory for its snapshot. -/
  persistence : Bool
  healthy : Bool

/-- A locator and the snapshot file of its root directory. -/
structure Service where
  locator : FunctionLocator
  disk : Option SnapshotFile

abbrev Action := EStateM LocatorError Service

def validateCaps (caps : LocatorCaps) : Except LocatorError Unit :=
  reject (caps.maxHomes = 0 ∨ caps.maxConflictsPerHome < 2 ∨ caps.maxSnapshotBytes = 0)
    (.limit "locator caps require homes > 0, conflicts >= 2, and snapshot bytes > 0")

/-- The merge of one lease into the retained ones. -/
def applyToMap (states : SortedMap HomeId LeaseState) (lease : SignedRecord HomeLease) (caps : LocatorCaps) :
    Except LocatorError (ApplyOutcome × SortedMap HomeId LeaseState) :=
  let home := lease.payload.home
  match states.get? home with
  | none => .ok (.added, states.insert home (.current lease))
  | some current =>
    let currentEpoch := current.epoch
    if currentEpoch < lease.payload.epoch then
      .ok (.advanced, states.insert home (.current lease))
    else if lease.payload.epoch < currentEpoch then
      let sequence := (current.leases.map fun lease => lease.payload.leaseSequence).max?.getD 0
      .ok (.stale currentEpoch sequence, states)
    else
      match current with
      | .current existing =>
        if existing = lease then .ok (.duplicate, states)
        else if isHomeLeaseCoordinatorRevision existing.payload lease.payload then
          .ok (.advanced, states.insert home (.current lease))
        else if isHomeLeaseCoordinatorRevision lease.payload existing.payload then
          .ok (.stale currentEpoch existing.payload.leaseSequence, states)
        else
          .ok (.conflict currentEpoch [existing, lease], states.insert home (.conflict currentEpoch [existing, lease]))
      | .conflict epoch leases =>
        if lease ∈ leases then .ok (.conflict epoch leases, states)
        else if caps.maxConflictsPerHome ≤ leases.length then
          let limit := caps.maxConflictsPerHome
          .error (.limit s!"home conflict set reached {limit} leases")
        else
          .ok (.conflict epoch (leases ++ [lease]), states.insert home (.conflict epoch (leases ++ [lease])))

/-- How far an atomic write of the snapshot comes: it is durable, or it fails before or after the rename. -/
inductive WriteFate where
  | durable
  | beforeRename (reason : String)
  | afterRename (reason : String)
deriving DecidableEq

def atomicWrite (fate : WriteFate) (file : SnapshotFile) : Action Unit := do
  match fate with
  | .durable => modify fun service => { service with disk := some file }
  | .beforeRename reason => throw (.io reason)
  | .afterRename reason =>
    modify fun service => { service with disk := some file }
    throw (.io reason)

section

variable [Crypto]

def persistedState (states : SortedMap HomeId LeaseState) : PersistedState :=
  ⟨1, states.entries.map fun entry => ⟨entry.1, entry.2⟩⟩

/-- The file that a snapshot of the retained leases is written to. -/
def snapshotFile (states : SortedMap HomeId LeaseState) : SnapshotFile :=
  ⟨Crypto.encodedLen (persistedState states), .ok (persistedState states)⟩

def persist (fate : WriteFate) (states : SortedMap HomeId LeaseState) : Action Unit := do
  let service ← get
  if service.locator.persistence then
    let len := Crypto.encodedLen (persistedState states)
    let limit := service.locator.caps.maxSnapshotBytes
    reject (limit < len) (LocatorError.limit s!"snapshot is {len} bytes, exceeds {limit}")
    atomicWrite fate (snapshotFile states)

def ofInvalid {α : Type} : Except ContractError α → Except LocatorError α :=
  mapError fun error => .invalid error.display

def apply (fate : WriteFate) (lease : SignedRecord HomeLease) : Action ApplyOutcome := do
  let service ← get
  let states := service.locator.states
  reject (service.locator.healthy = false) LocatorError.uncertain
  ofInvalid (verifyHomeLease lease)
  let schema := lease.schema.name
  let expected := Schema.locate.name
  reject (lease.schema ≠ .locate) (LocatorError.invalid s!"lease record schema is `{schema}`, expected `{expected}`")
  let size := states.size
  let limit := service.locator.caps.maxHomes
  reject (states.contains lease.payload.home = false ∧ limit ≤ size)
    (LocatorError.limit s!"{size} homes already retained (limit {limit})")
  let (outcome, next) ← applyToMap states lease service.locator.caps
  if outcome.isIdle then return outcome
  match ← observe (persist fate next) with
  | .error error =>
    modify fun service => { service with locator := { service.locator with healthy := false } }
    throw error
  | .ok () =>
    modify fun service => { service with locator := { service.locator with states := next } }
    return outcome

structure HomeLocate where
  home : HomeId
  minimumEpoch : Option Nat
deriving DecidableEq

instance : Validate HomeLocate where
  validate query := do
    validate query.home
    reject (query.minimumEpoch = some 0) (.invalid "minimum epoch must be non-zero")

def FunctionLocator.locate (locator : FunctionLocator) (query : HomeLocate) : Except LocatorError LocateOutcome := do
  -- the retained leases may lag behind a snapshot whose write failed, so they are not shown as authority
  reject (locator.healthy = false) .uncertain
  ofInvalid (validate query)
  match locator.states.get? query.home with
  | none => return .notFound
  | some state =>
    if query.minimumEpoch.any fun minimum => state.epoch < minimum then return .notFound
    match state with
    | .current lease => return .location lease
    | .conflict epoch leases => return .conflict epoch leases

/-! The protocol of the locator role. -/

structure ProtocolError where
  code : String
  message : String
  retryable : Bool
deriving DecidableEq

inductive LocateMessage where
  | locate (query : HomeLocate)
  | announce (lease : SignedRecord HomeLease)
  | location (lease : SignedRecord HomeLease) (observedAtUnixMs : Option Nat)
  | notFound (home : HomeId)
  | conflict (home : HomeId) (epoch : Nat) (leases : List (SignedRecord HomeLease))
  | error (error : ProtocolError)
deriving DecidableEq

/-- The longest run of first characters that fits a number of bytes. -/
def fitting (budget : Nat) : List Char → List Char
  | [] => []
  | char :: rest => if char.utf8Size ≤ budget then char :: fitting (budget - char.utf8Size) rest else []

def protocolError (code message : String) (retryable : Bool) : LocateMessage :=
  .error ⟨code, String.ofList (fitting maxReasonBytes message.toList), retryable⟩

def unavailableError : LocateMessage :=
  protocolError "locator_unavailable" "locator cannot safely serve or accept leases until reopened" true

def announceError : LocatorError → LocateMessage
  | .uncertain | .io _ | .corrupt _ => unavailableError
  | .invalid _ => protocolError "invalid_lease" "announced lease failed validation" false
  | .limit _ => protocolError "locator_capacity" "locator capacity prevents retaining the announced lease" false

def locateError : LocatorError → LocateMessage
  | .uncertain | .io _ | .corrupt _ => unavailableError
  | .invalid _ => protocolError "invalid_query" "location query failed validation" false
  | .limit _ => unavailableError

/-- The reply that is sent: the one given, unless it is too long for the wire. -/
def encodeReply (reply : LocateMessage) : LocateMessage :=
  if Crypto.encodedLen reply ≤ maxJobMessageBytes then reply
  else protocolError "response_too_large" "locator response exceeds the wire-message limit" false

def onAnnounce (fate : WriteFate) (lease : SignedRecord HomeLease) : Action LocateMessage := do
  let home := lease.payload.home
  match ← observe (apply fate lease) with
  | .ok (.conflict epoch leases) =>
    return .conflict ((leases.head?.map fun lease => lease.payload.home).getD ⟨"invalid"⟩) epoch leases
  | .ok (.stale _ _) => return protocolError "stale_lease" "a newer home lease is already retained" false
  | .error error => return announceError error
  | .ok _ =>
    match (← get).locator.locate ⟨home, none⟩ with
    | .ok (.location lease) => return .location lease none
    | .ok (.conflict epoch leases) => return .conflict home epoch leases
    | _ => return protocolError "locator_state" "announced lease was not retained" false

def onLocate (query : HomeLocate) : Action LocateMessage := do
  match (← get).locator.locate query with
  | .ok (.location lease) => return .location lease none
  | .ok (.conflict epoch leases) => return .conflict query.home epoch leases
  | .ok .notFound => return .notFound query.home
  | .error error => return locateError error

/-- The reply to an envelope, if there is one. The payload is given by its length and what it decodes to. -/
def handle (fate : WriteFate) (schema : Schema) (len : Nat) (payload : Option LocateMessage) :
    Action (Option LocateMessage) := do
  if schema ≠ .locate ∨ maxJobMessageBytes < len then return none
  match payload with
  | none => return some (encodeReply (protocolError "invalid_message" "cannot decode locator message" false))
  | some (.announce lease) => return some (encodeReply (← onAnnounce fate lease))
  | some (.locate query) => return some (encodeReply (← onLocate query))
  | some _ => return none

/-! Opening a root directory. -/

def ofCorrupt {α : Type} : Except ContractError α → Except LocatorError α :=
  mapError fun error => .corrupt error.display

/-- The check of one retained lease of a snapshot. -/
def validateRetained (home : HomeId) (epoch : Nat) (lease : SignedRecord HomeLease) : Except LocatorError Unit := do
  ofCorrupt (verifyHomeLease lease)
  reject (lease.schema ≠ .locate ∨ lease.payload.home ≠ home ∨ lease.payload.epoch ≠ epoch)
    (.corrupt "retained lease does not match its home/epoch key")

def validateState (home : HomeId) (state : LeaseState) (caps : LocatorCaps) : Except LocatorError Unit := do
  let leases := state.leases
  reject (leases = [] ∨ caps.maxConflictsPerHome < leases.length) (.corrupt "invalid retained conflict set size")
  leases.forM (validateRetained home state.epoch)
  match state with
  | .current _ => reject (leases.length ≠ 1) (.corrupt "invalid retained lease state")
  | .conflict _ _ => reject (leases.length < 2) (.corrupt "invalid retained lease state")

/-- The retained leases that the entries of a snapshot add. -/
def restoreEntries (caps : LocatorCaps) (states : SortedMap HomeId LeaseState) :
    List PersistedEntry → Except LocatorError (SortedMap HomeId LeaseState)
  | [] => .ok states
  | entry :: rest => do
    let home := entry.home.text.render
    reject (states.contains entry.home = true) (.corrupt s!"duplicate snapshot entry for home {home}")
    validateState entry.home entry.lease caps
    restoreEntries caps (states.insert entry.home entry.lease) rest

/-- Which of the file operations of an open fail. -/
structure OpenFate where
  create : Option String
  read : Option String
  sync : Option String
deriving DecidableEq

def OpenFate.fine : OpenFate := ⟨none, none, none⟩

def ofIo (failure : Option String) : Except LocatorError Unit :=
  match failure with
  | none => .ok ()
  | some reason => .error (.io reason)

def boundedRead (fate : OpenFate) (file : SnapshotFile) (limit : Nat) : Except LocatorError Unit := do
  ofIo fate.read
  reject (limit < file.len) (.limit s!"snapshot exceeds {limit} bytes")

/-- The retained leases of a snapshot file. -/
def readSnapshot (fate : OpenFate) (file : SnapshotFile) (caps : LocatorCaps) :
    Except LocatorError (SortedMap HomeId LeaseState) := do
  boundedRead fate file caps.maxSnapshotBytes
  let persisted ← mapError (fun error => .corrupt s!"invalid snapshot JSON: {error}") file.decoded
  let version := persisted.version
  reject (version ≠ 1) (.corrupt s!"unsupported locator snapshot version {version}")
  reject (caps.maxHomes < persisted.entries.length) (.corrupt "snapshot exceeds home limit")
  restoreEntries caps ∅ persisted.entries

namespace FunctionLocator

/-- A locator that only lives in memory. -/
def new (caps : LocatorCaps) : Except LocatorError FunctionLocator := do
  validateCaps caps
  return ⟨caps, ∅, false, true⟩

/-- Open the locator of a root directory. -/
def «open» (fate : OpenFate) (caps : LocatorCaps) (disk : Option SnapshotFile) : Except LocatorError FunctionLocator := do
  validateCaps caps
  ofIo fate.create
  let states ← match disk with
    | none => pure ∅
    | some file => readSnapshot fate file caps
  ofIo fate.sync
  return ⟨caps, states, true, true⟩

end FunctionLocator

/-! What an application can do. -/

section

variable {fate : WriteFate} {lease : SignedRecord HomeLease} {before after : Service} {states : SortedMap HomeId LeaseState}

/-- The file that a snapshot leaves behind, if there is a root directory. -/
def Service.written (service : Service) (states : SortedMap HomeId LeaseState) : Option SnapshotFile :=
  if service.locator.persistence then some (snapshotFile states) else service.disk

/-- The snapshot of the retained leases is longer than the caps allow. -/
def Service.Overlong (service : Service) (states : SortedMap HomeId LeaseState) : Prop :=
  service.locator.persistence = true ∧ service.locator.caps.maxSnapshotBytes < Crypto.encodedLen (persistedState states)

theorem wp_persist : wp (persist fate states)
    (fun _ after => ¬ before.Overlong states ∧ after = { before with disk := before.written states })
    (fun error after => before.Overlong states ∧ after = before ∧ (∃ reason, error = .limit reason) ∨
      ¬ before.Overlong states ∧ (∃ reason, error = .io reason) ∧
        (after = before ∨ after = { before with disk := before.written states })) before := by
  unfold persist
  rw [wp_bind, wp_get]
  dsimp only
  refine wp_ite.mpr ⟨fun persistent => ?_, fun volatile => ?_⟩
  · refine wp_check (fun reason failed => ?_) fun _ passed => ?_
    · obtain ⟨long, rfl⟩ := reject_eq_error.mp failed
      exact .inl ⟨⟨persistent, long⟩, rfl, _, rfl⟩
    · have short : ¬ before.Overlong states := fun overlong => reject_eq_ok.mp passed overlong.2
      have written : before.written states = some (snapshotFile states) := if_pos persistent
      cases fate with
      | durable => exact ⟨short, by rw [written]⟩
      | beforeRename reason => exact .inr ⟨short, ⟨reason, rfl⟩, .inl rfl⟩
      | afterRename reason => exact .inr ⟨short, ⟨reason, rfl⟩, .inr (by rw [written])⟩
  · have written : before.written states = before.disk := if_neg volatile
    exact ⟨fun overlong => volatile overlong.1, by rw [written]⟩

/-- No room in the conflict that is retained for the Home of the lease. -/
def Crowded (states : SortedMap HomeId LeaseState) (lease : SignedRecord HomeLease) (caps : LocatorCaps) : Prop :=
  ∃ leases, states.get? lease.payload.home = some (.conflict lease.payload.epoch leases) ∧ lease ∉ leases ∧
    caps.maxConflictsPerHome ≤ leases.length

omit [Crypto] in
/-- A merge fails for want of room for one more contradiction, and for nothing else. -/
theorem applyToMap_eq_error (failed : applyToMap states lease caps = .error error) :
    Crowded states lease caps ∧ ∃ reason, error = .limit reason := by
  unfold applyToMap at failed
  dsimp only at failed
  split at failed
  · cases failed
  rename_i current held
  split at failed
  · cases failed
  split at failed
  · cases failed
  have same : lease.payload.epoch = current.epoch := by omega
  split at failed
  · split at failed
    · cases failed
    split at failed
    · cases failed
    split at failed
    · cases failed
    · cases failed
  · split at failed
    · cases failed
    rename_i absent
    split at failed
    · rename_i crowded
      exact ⟨⟨_, same ▸ held, absent, crowded⟩, _, (Except.error.inj failed).symm⟩
    · cases failed

omit [Crypto] in
theorem Crowded.fails (crowded : Crowded states lease caps) : applyToMap states lease caps ≠ .ok (outcome, next) := by
  obtain ⟨leases, held, absent, full⟩ := crowded
  rw [applyToMap, held]
  simp [LeaseState.epoch, absent, full]

/-- No room for another Home. -/
def Service.Full (service : Service) (lease : SignedRecord HomeLease) : Prop :=
  service.locator.states.contains lease.payload.home = false ∧
    service.locator.caps.maxHomes ≤ service.locator.states.size

/-- The locator serves nothing until it is opened again. -/
def FunctionLocator.stopped (locator : FunctionLocator) : FunctionLocator :=
  { locator with healthy := false }

/-- What an accepted lease leaves behind: it was merged, and the merge was persisted if it changed something. -/
structure Accepted (before : Service) (lease : SignedRecord HomeLease) (outcome : ApplyOutcome) (after : Service) : Prop where
  healthy : before.locator.healthy = true
  verified : verifyHomeLease lease = .ok ()
  room : ¬ before.Full lease
  merged : ∃ next, applyToMap before.locator.states lease before.locator.caps = .ok (outcome, next) ∧
    (outcome.isIdle = true ∧ after = before ∨ outcome.isIdle = false ∧ ¬ before.Overlong next ∧
      after = ⟨{ before.locator with states := next }, before.written next⟩)

/-- Why a lease is refused, and what the refusal leaves behind. -/
inductive Refused (before : Service) (lease : SignedRecord HomeLease) : LocatorError → Service → Prop where
  | uncertain : before.locator.healthy = false → Refused before lease .uncertain before
  | invalid {reason} : verifyHomeLease lease ≠ .ok () → Refused before lease (.invalid reason) before
  | full {reason} : before.Full lease → Refused before lease (.limit reason) before
  | crowded {reason} : Crowded before.locator.states lease before.locator.caps → Refused before lease (.limit reason) before
  | overlong {outcome next reason} : ¬ before.Full lease →
      applyToMap before.locator.states lease before.locator.caps = .ok (outcome, next) → before.Overlong next →
      Refused before lease (.limit reason) ⟨before.locator.stopped, before.disk⟩
  | unwritten {reason disk} : Refused before lease (.io reason) ⟨before.locator.stopped, disk⟩

theorem schema_of_verified (verified : verifyHomeLease lease = .ok ()) : lease.schema = .locate := by
  simp only [verifyHomeLease, bind_eq_ok, reject_eq_ok, not_or, not_not] at verified
  obtain ⟨_, _, _, ⟨schema, _⟩, _⟩ := verified
  exact schema

theorem wp_apply : wp (apply fate lease) (Accepted before lease) (Refused before lease) before := by
  unfold apply
  rw [wp_bind, wp_get]
  dsimp only
  refine wp_check (fun _ failed => ?_) fun _ passed => ?_
  · obtain ⟨unhealthy, rfl⟩ := reject_eq_error.mp failed
    exact .uncertain unhealthy
  have healthy : before.locator.healthy = true := Bool.eq_true_of_not_eq_false (reject_eq_ok.mp passed)
  refine wp_check (fun _ failed => ?_) fun _ verified => ?_
  · obtain ⟨_, unverified, rfl⟩ := mapError_eq_error.mp failed
    exact .invalid (by rw [unverified]; nofun)
  have verified : verifyHomeLease lease = .ok () := mapError_eq_ok.mp verified
  refine wp_unless (not_not.mpr (schema_of_verified verified)) ?_
  refine wp_check (fun _ failed => ?_) fun _ room => ?_
  · obtain ⟨full, rfl⟩ := reject_eq_error.mp failed
    exact .full full
  replace room : ¬ before.Full lease := fun full => reject_eq_ok.mp room full
  refine wp_check (fun _ failed => ?_) fun found merged => ?_
  · obtain ⟨crowded, _, rfl⟩ := applyToMap_eq_error failed
    exact .crowded crowded
  obtain ⟨outcome, next⟩ := found
  dsimp only
  refine wp_ite.mpr ⟨fun idle => ⟨healthy, verified, room, next, merged, .inl ⟨idle, rfl⟩⟩, fun active => ?_⟩
  rw [wp_bind, wp_observe]
  refine wp_mono wp_persist ?_ ?_
  · rintro _ _ ⟨short, rfl⟩
    exact ⟨healthy, verified, room, next, merged, .inr ⟨Bool.eq_false_of_not_eq_true active, short, rfl⟩⟩
  · rintro _ _ (⟨long, rfl, _, rfl⟩ | ⟨_, ⟨_, rfl⟩, rfl | rfl⟩)
    · exact Refused.overlong room merged long
    · exact Refused.unwritten
    · exact Refused.unwritten

end

end

end Gawd.Locator
