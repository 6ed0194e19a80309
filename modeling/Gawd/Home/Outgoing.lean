import Gawd.Home.History
import Gawd.Wire.Address

/-!
What a Home sends to policy and executors: on its own operations, and again when it recovers. A recovery sweep
walks the keys of the durable work that is not done yet, a bounded batch at a time.
-/

namespace Gawd.Home

open Gawd.Logic Gawd.Wire Gawd.Journal

inductive HomeMessage where
  | selectDeployment (question : SignedRecord PlacementQuestion)
  | decideRetry (question : SignedRecord RetryQuestion)
  | grant (grant : SignedRecord ExecutionGrant)
  | query (request : SignedRecord ExecutionQuery)
  | control (request : SignedRecord ExecutionControl)
  | recoveryPoke
deriving DecidableEq

structure HomeDispatch where
  target : Address
  message : HomeMessage
  corr : Option Nat
deriving DecidableEq

def functionExecutorRole : String := "function-executor"

def functionPolicyRole : String := "function-policy"

def maxHomeRecoveryDispatches : Nat := 64

/-- The live executor role on the node that the deployment names. -/
def executorTarget (config : HomeConfig) (deployment : DeploymentReceipt) : Address :=
  if deployment.realm = config.realm ∧ deployment.node = config.node then .role functionExecutorRole
  else if deployment.realm = config.realm then .nodeRole deployment.node functionExecutorRole
  else .omega deployment.realm (.nodeRole deployment.node functionExecutorRole)

abbrev HomeRecoveryKey := JobId ×ₗ (ℕ ×ₗ ℕ)

def recoveryKey (job : JobId) (kind sequence : Nat) : HomeRecoveryKey :=
  toLex (job, toLex (kind, sequence))

def HomeRecoveryKey.job (key : HomeRecoveryKey) : JobId :=
  (ofLex key).1

def HomeRecoveryKey.kind (key : HomeRecoveryKey) : Nat :=
  (ofLex (ofLex key).2).1

def HomeRecoveryKey.sequence (key : HomeRecoveryKey) : Nat :=
  (ofLex (ofLex key).2).2

def homeRecoveryPlacement : Nat := 0

def homeRecoveryRetry : Nat := 1

def homeRecoveryAttempt : Nat := 2

def homeRecoveryControl : Nat := 3

/-- A forwarded control that the attempt has not acknowledged. -/
def awaitsAcknowledgment (state : HomeState) (request : SignedRecord JobControl) : Bool :=
  (state.forwardedControls.get? (controlKey request.payload.handle.job request.payload.control)).any fun control =>
    control.acknowledgedReceiptHash.isNone

/-- The key of a control that the event forwarded to the attempt and that waits for its acknowledgment. -/
def controlRecoveryKey (state : HomeState) (job : JobId) (attempt : AttemptId) (event : SignedRecord JobEvent) :
    Option HomeRecoveryKey :=
  match event.payload.kind with
  | .controlRequested request (some controlAttempt) =>
    if controlAttempt = attempt ∧ awaitsAcknowledgment state request then
      some (recoveryKey job homeRecoveryControl event.payload.sequence)
    else none
  | _ => none

/-- The recovery keys of one Job. -/
def jobRecoveryKeys (state : HomeState) (job : JobId) (record : JobRecord) : List HomeRecoveryKey :=
  match record.snapshot.state with
  | .queued => [recoveryKey job homeRecoveryPlacement 0]
  | .retryPending => [recoveryKey job homeRecoveryRetry 0]
  | .dispatching | .running =>
    match record.snapshot.currentAttempt with
    | none => []
    | some attempt =>
      if state.grants.contains (attemptKey attempt) then
        recoveryKey job homeRecoveryAttempt 0 :: record.events.filterMap (controlRecoveryKey state job attempt)
      else []
  | .blocked | .succeeded | .failed | .cancelled | .indeterminate => []

/-- The keys that `for_each_recovery_key` visits, in the order of the visits. -/
def recoveryKeys (state : HomeState) : List HomeRecoveryKey :=
  state.jobs.entries.flatMap fun entry => jobRecoveryKeys state entry.1 entry.2

/-- Where a sweep stands. -/
structure HomeRecoverySweep where
  cursor : Option HomeRecoveryKey
  highWater : Option HomeRecoveryKey
  remaining : Nat
deriving DecidableEq

def HomeRecoverySweep.default : HomeRecoverySweep := ⟨none, none, 0⟩

section

variable [Crypto]

def signControlEndorsement (host : Host) (config : HomeConfig) (callerRequest : SignedRecord JobControl)
    (durableEvent : SignedRecord JobEvent) (grant : SignedRecord ExecutionGrant) (homeRouteSequence : Nat) :
    Except HomeError (SignedRecord ExecutionControl) := do
  let endorsed ← ofSigning <| SignedRecord.sign .execute
    { callerRequest
      acceptedEvent := durableEvent
      attempt := grant.payload.attempt
      grantHash := canonicalHash grant
      homeEpoch := config.epoch
      homeRouteSequence
      homeSequence := durableEvent.payload.sequence
      homeRealm := config.realm
      homeNode := config.node
      homeCoordinator := config.coordinator
      authority := config.authority : ExecutionControl } host.signer
  ofInvalid (verifyExecutionControl endorsed)
  return endorsed

/-- The executor-facing endorsement of a caller control whose event is durable. -/
def endorsedControl (host : Host) (callerRequest : SignedRecord JobControl) (durableEvent : SignedRecord JobEvent) :
    Action (Option (SignedRecord ExecutionControl × Address)) := do
  ensureAuthoritativeState
  match durableEvent.payload.kind with
  | .controlRequested durableRequest attempt =>
    reject (durableRequest ≠ callerRequest)
      (HomeError.conflict "durable control event does not contain the exact signed caller request")
    match attempt with
    | none => return none
    | some attempt =>
      ensureAuthoritativeState
      let home ← get
      let _ ← findJob home.state callerRequest.payload.handle.job
      let grant ← orError (HomeError.state "controlled attempt has no durable grant")
        (home.state.grants.get? (attemptKey attempt))
      let routeSequence ← home.custody.activeRouteSequence
      let endorsed ← signControlEndorsement host home.config callerRequest durableEvent grant routeSequence
      return some (endorsed, executorTarget home.config grant.payload.deployment.payload)
  | _ => return none

/-- What a retry correlation is the hash of. -/
structure RetryCorrelation where
  domain : String
  attempt : AttemptId

/-- The leading 64 bits of the hash, never zero. -/
def retryCorrelation (attempt : AttemptId) : Nat :=
  max (Crypto.canonicalDigest (RetryCorrelation.mk "gawd.function.retry.correlation.v1" attempt) / 2 ^ 192 % 2 ^ 64) 1

def recoverPlacement (host : Host) (home : FunctionHome) (job : JobRecord) : Option HomeDispatch := do
  let question : PlacementQuestion :=
    { job := job.snapshot.spec.handle
      homeEpoch := home.config.epoch
      authority := home.config.authority
      function := job.snapshot.spec.function.function
      candidates := [job.snapshot.spec.deployment]
      evidence := job.snapshot.spec.evidence }
  let signed ← (SignedRecord.sign .policy question host.signer).toOption
  let _ ← (verifyPlacementQuestion signed).toOption
  return ⟨.role functionPolicyRole, .selectDeployment signed, none⟩

def recoverRetry (host : Host) (home : FunctionHome) (job : JobRecord) : Option HomeDispatch := do
  let (attempt, error, retryable) ← (job.events.reverse.filterMap fun event => retryFailure event.payload.kind).head?
  let question : RetryQuestion :=
    { snapshot := { job.snapshot with
        homeEpoch := home.config.epoch, authority := home.config.authority }
      failedAttempt := attempt
      failure := error
      executorRetryableHint := retryable
      candidates := [job.snapshot.spec.deployment]
      evidence := job.snapshot.spec.evidence }
  let signed ← (SignedRecord.sign .policy question host.signer).toOption
  let _ ← (verifyRetryQuestion signed).toOption
  return ⟨.role functionPolicyRole, .decideRetry signed, some (retryCorrelation attempt)⟩

/-- The query by which a Home of a later route or epoch asks for an attempt. -/
def FunctionHome.recoveryQuery (home : FunctionHome) (attempt : AttemptId) (grant : SignedRecord ExecutionGrant)
    (routeSequence : Nat) : ExecutionQuery :=
  let epoch := home.config.epoch
  let job := attempt.job.text.render
  let number := attempt.number
  { attempt
    grantHash := canonicalHash grant
    homeEpoch := epoch
    homeRouteSequence := routeSequence
    homeRealm := home.config.realm
    homeNode := home.config.node
    homeCoordinator := home.config.coordinator
    authority := home.config.authority
    query := ⟨s!"reconcile-{epoch}-{job}-{number}"⟩ }

/-- An attempt is driven again by its own grant where the route has not changed, and queried from a later one. -/
def recoverAttempt (host : Host) (home : FunctionHome) (job : JobRecord) : Option HomeDispatch := do
  let attempt ← job.snapshot.currentAttempt
  let grant ← home.state.grants.get? (attemptKey attempt)
  let target := executorTarget home.config grant.payload.deployment.payload
  let routeSequence ← home.custody.activeRouteSequence.toOption
  if home.config.epoch = grant.payload.homeEpoch ∧ routeSequence = grant.payload.homeRouteSequence then
    return ⟨target, .grant grant, none⟩
  else if grant.payload.homeEpoch < home.config.epoch ∨
      home.config.epoch = grant.payload.homeEpoch ∧ grant.payload.homeRouteSequence < routeSequence then do
    let request ← (SignedRecord.sign .execute (home.recoveryQuery attempt grant routeSequence) host.signer).toOption
    return ⟨target, .query request, none⟩
  else none

def recoverControl (host : Host) (home : FunctionHome) (job : JobRecord) (sequence : Nat) : Option HomeDispatch := do
  let attempt ← job.snapshot.currentAttempt
  let grant ← home.state.grants.get? (attemptKey attempt)
  let event ← job.events.find? fun event => event.payload.sequence = sequence
  match event.payload.kind with
  | .controlRequested request (some controlAttempt) =>
    if controlAttempt ≠ attempt ∨ awaitsAcknowledgment home.state request = false then none
    else do
      let routeSequence ← home.custody.activeRouteSequence.toOption
      let endorsed ← (signControlEndorsement host home.config request event grant routeSequence).toOption
      return ⟨executorTarget home.config grant.payload.deployment.payload, .control endorsed, none⟩
  | _ => none

def recoveryDispatchForKey (host : Host) (home : FunctionHome) (key : HomeRecoveryKey) : Option HomeDispatch := do
  let job ← home.state.jobs.get? key.job
  if key.kind = homeRecoveryPlacement ∧ job.snapshot.state = .queued then recoverPlacement host home job
  else if key.kind = homeRecoveryRetry ∧ job.snapshot.state = .retryPending then recoverRetry host home job
  else if key.kind = homeRecoveryAttempt ∧ inFlight job.snapshot.state then recoverAttempt host home job
  else if key.kind = homeRecoveryControl ∧ inFlight job.snapshot.state then
    recoverControl host home job key.sequence
  else none

/-- Capture a sweep: the keys there are now, up to the last of them. -/
def beginRecoverySweep (home : FunctionHome) : HomeRecoverySweep :=
  match home.authoritative with
  | .error _ => .default
  | .ok _ =>
    let keys := recoveryKeys home.state
    ⟨none, keys.getLast?, keys.length⟩

/-- The key lies beyond the cursor. -/
def HomeRecoverySweep.beyond (sweep : HomeRecoverySweep) (key : HomeRecoveryKey) : Bool :=
  match sweep.cursor with
  | none => true
  | some cursor => cursor < key

/-- The keys of the next batch, and whether there are more. -/
def HomeRecoverySweep.batch (sweep : HomeRecoverySweep) (highWater : HomeRecoveryKey) (keys : List HomeRecoveryKey) :
    List HomeRecoveryKey × Bool :=
  let limit := min sweep.remaining maxHomeRecoveryDispatches
  let found := (keys.filter fun key => sweep.beyond key ∧ key ≤ highWater).take (limit + 1)
  (found.take limit, limit < found.length)

/-- The keys that the next batch visits and where it leaves the sweep. -/
def HomeRecoverySweep.advance (sweep : HomeRecoverySweep) (keys : List HomeRecoveryKey) :
    List HomeRecoveryKey × HomeRecoverySweep :=
  if sweep.remaining = 0 then ([], sweep)
  else
    match sweep.highWater with
    | none => ([], { sweep with remaining := 0 })
    | some highWater =>
      let (visited, hasMore) := sweep.batch highWater keys
      match visited.getLast? with
      | none => ([], { sweep with remaining := 0 })
      | some last =>
        (visited, ⟨some last, some highWater, if hasMore then sweep.remaining - visited.length else 0⟩)

def continueRecoverySweep (host : Host) (home : FunctionHome) (sweep : HomeRecoverySweep) :
    List HomeDispatch × HomeRecoverySweep :=
  match home.authoritative with
  | .error _ => ([], .default)
  | .ok _ =>
    let (visited, next) := sweep.advance (recoveryKeys home.state)
    let poke := if 0 < next.remaining then home.me.map fun me => ⟨.creature me, .recoveryPoke, none⟩ else none
    (visited.filterMap (recoveryDispatchForKey host home) ++ poke.toList, next)

/-- Recovery goes on with the sweep under way, or begins one. -/
def recoveryDispatches (host : Host) (home : FunctionHome) (sweep : HomeRecoverySweep) :
    List HomeDispatch × HomeRecoverySweep :=
  continueRecoverySweep host home (if 0 < sweep.remaining then sweep else beginRecoverySweep home)

end

end Gawd.Home
