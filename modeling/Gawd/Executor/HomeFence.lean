import Gawd.Executor.Sweep
import Gawd.Wire.CollisionFree

/-!
The fence that an executor holds for every Home, and where its receipts go.
-/

namespace Gawd.Executor

open Gawd.Logic Gawd.Wire Gawd.Journal

/-- The later fence has a revision that is not older. Within an epoch it has the same authority, and within a revision the
same route. -/
structure HomeFence.Follows (earlier later : HomeFence) : Prop where
  revision : earlier.epoch < later.epoch ∨
    earlier.epoch = later.epoch ∧ earlier.routeSequence ≤ later.routeSequence
  authority : earlier.epoch = later.epoch →
    earlier.operationalSigner = later.operationalSigner ∧ earlier.authorityHash = later.authorityHash
  route : earlier.epoch = later.epoch → earlier.routeSequence = later.routeSequence →
    earlier.homeRealm = later.homeRealm ∧ earlier.homeNode = later.homeNode ∧
      earlier.homeCoordinator = later.homeCoordinator

variable {first second : HomeFence}

namespace HomeFence

theorem Follows.refl (fence : HomeFence) : fence.Follows fence :=
  ⟨.inr ⟨rfl, Nat.le_refl _⟩, fun _ => ⟨rfl, rfl⟩, fun _ _ => ⟨rfl, rfl, rfl⟩⟩

theorem Follows.trans (one : first.Follows second) (two : second.Follows third) : first.Follows third := by
  have below := one.revision
  have above := two.revision
  refine ⟨by omega, fun epoch => ?_, fun epoch sequence => ?_⟩
  · have same : first.epoch = second.epoch := by omega
    have also : second.epoch = third.epoch := by omega
    exact ⟨(one.authority same).1.trans (two.authority also).1, (one.authority same).2.trans (two.authority also).2⟩
  · have same : first.epoch = second.epoch := by omega
    have also : second.epoch = third.epoch := by omega
    obtain ⟨realm, node, coordinator⟩ := one.route same (by omega)
    obtain ⟨realm', node', coordinator'⟩ := two.route also (by omega)
    exact ⟨realm.trans realm', node.trans node', coordinator.trans coordinator'⟩

theorem Follows.antisymm (one : first.Follows second)
    (other : second.epoch < first.epoch ∨ first.epoch = second.epoch ∧ second.routeSequence ≤ first.routeSequence) :
    first = second := by
  have below := one.revision
  have epoch : first.epoch = second.epoch := by omega
  have sequence : first.routeSequence = second.routeSequence := by omega
  obtain ⟨signer, hash⟩ := one.authority epoch
  obtain ⟨realm, node, coordinator⟩ := one.route epoch sequence
  cases first
  cases second
  simp only at epoch sequence signer hash realm node coordinator
  simp [epoch, sequence, signer, hash, realm, node, coordinator]

theorem Follows.covers {earlier later : HomeFence} (follows : earlier.Follows later) : later.covers earlier = true := by
  have below := follows.revision
  simp only [HomeFence.covers, decide_eq_true_eq]
  omega

/-- A fence that covers what follows it is what follows it. -/
theorem eq_of_covers {fence next : HomeFence} (follows : fence.Follows next) (covers : fence.covers next = true) :
    fence = next := by
  simp only [HomeFence.covers, decide_eq_true_eq] at covers
  exact follows.antisymm covers

end HomeFence

variable {state : ExecutorState} {home : HomeId} {noun routeNoun : String}

/-- A message passes the fence exactly when it follows it. -/
theorem validateFence_eq_ok : validateFence state home noun routeNoun next = .ok () ↔
      ∀ fence, state.homeFences.get? home = some fence → fence.Follows next := by
  unfold validateFence
  cases state.homeFences.get? home with
  | none => simp
  | some fence =>
    simp only [bind_eq_ok, reject_eq_ok, Option.some.injEq, forall_eq']
    constructor
    · rintro ⟨_, newer, _, authority, route⟩
      simp only [not_and, not_or, not_not, not_lt] at newer authority route
      refine ⟨?_, fun epoch => ?_, fun epoch sequence => ?_⟩
      · by_cases epoch : fence.epoch = next.epoch
        · exact .inr ⟨epoch, (route epoch.symm).1⟩
        · exact .inl (Nat.lt_of_le_of_ne newer epoch)
      · obtain ⟨signer, hash⟩ := authority epoch.symm
        exact ⟨signer.symm, hash.symm⟩
      · obtain ⟨realm, node, coordinator⟩ := (route epoch.symm).2 sequence.symm
        exact ⟨realm.symm, node.symm, coordinator.symm⟩
    · intro follows
      have below := follows.revision
      simp only [not_and, not_or, not_not, not_lt]
      refine ⟨(), by omega, (), fun epoch => ?_, fun epoch => ⟨by omega, fun sequence => ?_⟩⟩
      · obtain ⟨signer, hash⟩ := follows.authority epoch.symm
        exact ⟨signer.symm, hash.symm⟩
      · obtain ⟨realm, node, coordinator⟩ := follows.route epoch.symm sequence.symm
        exact ⟨realm.symm, node.symm, coordinator.symm⟩

/-- After a message that passes the fence, the fence is the one that the message carries. -/
theorem get?_advancedFences (valid : validateFence state home noun routeNoun next = .ok ()) :
    (advancedFences state.homeFences home next).get? other =
      if other = home then some next else state.homeFences.get? other := by
  have follows := validateFence_eq_ok.mp valid
  unfold advancedFences
  split
  · rename_i covered
    split
    · rename_i same
      subst same
      cases held : state.homeFences.get? other with
      | none => simp [held] at covered
      | some fence =>
        rw [held, Option.any_some] at covered
        rw [HomeFence.eq_of_covers (follows fence held) covered]
    · rfl
  · rw [SortedMap.get?_insert]
    congr

/-- Every fence that was held is held still, or one that follows it. -/
def Raised (before after : ExecutorState) : Prop :=
  ∀ home fence, before.homeFences.get? home = some fence →
    ∃ later, after.homeFences.get? home = some later ∧ fence.Follows later

theorem Raised.refl (state : ExecutorState) : Raised state state :=
  fun _ fence held => ⟨fence, held, .refl fence⟩

theorem Raised.trans {first second third : ExecutorState} (one : Raised first second) (two : Raised second third) :
    Raised first third := by
  intro home fence held
  obtain ⟨middle, there, follows⟩ := one home fence held
  obtain ⟨later, here, further⟩ := two home middle there
  exact ⟨later, here, follows.trans further⟩

theorem Raised.of_eq {before after : ExecutorState} (same : after.homeFences = before.homeFences) : Raised before after :=
  fun _ fence held => ⟨fence, by rw [same, held], .refl fence⟩

theorem Raised.of_advanced {before after : ExecutorState}
    (valid : validateFence before home noun routeNoun next = .ok ())
    (advanced : after.homeFences = advancedFences before.homeFences home next) : Raised before after := by
  intro other fence held
  rw [advanced, get?_advancedFences valid]
  split
  · rename_i same
    exact ⟨next, rfl, validateFence_eq_ok.mp valid fence (same ▸ held)⟩
  · exact ⟨fence, held, .refl fence⟩

variable {grant : SignedRecord ExecutionGrant} {request : SignedRecord ExecutionControl} {attempt : AttemptId}
  {program : Action (List Dispatch)} {operation : Operation}

theorem wp_grantOf {executor : FunctionExecutor} : wp (grantOf attempt)
      (fun grant after => executor = after ∧ ∃ record, executor.state.attempts.get? attempt = some record ∧
        record.grant = grant)
      (fun _ after => executor = after) executor := by
  unfold grantOf
  refine wp_operational ?_ fun _ => rfl
  rw [wp_bind, wp_get]
  refine wp_guard fun record found => ?_
  exact ⟨rfl, record, orError_eq_ok.mp found, rfl⟩

theorem grant_receiving {attempt : AttemptRecord} :
    (attempt.receiving receipt ordinal).grant = attempt.grant := by
  simp only [AttemptRecord.receiving, AttemptRecord.push]
  split <;> rfl

section

variable [Crypto] {identity : Text} {regime : Regime identity} {rule : ExecutorLedgerRecord → Prop}
  {place : ExecutorConfig → Prop} {events ledger : List ExecutorLedgerRecord} {state final : ExecutorState}
  {record : ExecutorLedgerRecord} {config : ExecutorConfig} {reserve : Nat}

theorem fences_control
    {receipt : SignedRecord ExecutionReceipt} :
    (state.next (.control request receipt)).homeFences = state.homeFences ∧
        state.attempts.get? receipt.payload.attempt = none ∨
      (state.next (.control request receipt)).homeFences =
        advancedFences state.homeFences request.payload.attempt.home (controlFence request) := by
  have next := nextState state (.control request receipt)
  generalize state.next (.control request receipt) = after at next
  cases next with
  | unqueued absent => exact .inl ⟨rfl, absent⟩
  | _ => exact .inr rfl

theorem fences_receipt :
    (state.next (.receipt receipt)).homeFences = state.homeFences := by
  have next := nextState state (.receipt receipt)
  generalize state.next (.receipt receipt) = after at next
  cases next <;> rfl

/-- What the operations append never lowers a fence. -/
theorem Produced.raises (produced : Produced config state record reserve) : Raised state (state.next record) := by
  cases produced with
  | register | undeploy => exact .of_eq rfl
  | claim admissible | refuse admissible => exact .of_advanced admissible.unfenced rfl
  | requeue _ _ _ valid | queue _ _ _ _ _ _ valid _ _ =>
    exact fences_control.elim (fun same => .of_eq same.1) (.of_advanced valid)
  | fence _ _ _ valid => exact .of_advanced valid rfl
  | stage | resume => exact .of_eq fences_receipt

/-! A message from behind the fence. -/

/-- The Home that a message speaks for, and the fence that it carries. -/
def Message.fence : Message → Option (HomeId × HomeFence)
  | .grant granted => some (granted.payload.owner, grantFence granted)
  | .control request => some (request.payload.attempt.home, controlFence request)
  | .query request => some (request.payload.attempt.home, queryFence request)
  | _ => none

def Operation.fence : Operation → Option (HomeId × HomeFence)
  | .message envelope => envelope.message.fence
  | .claim granted => some (granted.payload.owner, grantFence granted)
  | .query request => some (request.payload.attempt.home, queryFence request)
  | _ => none

/-- An answer that says no. -/
def Dispatch.Refuses : Dispatch → Prop
  | .refused _ | .error _ _ => True
  | _ => False

variable {host : Host} {executor : FunctionExecutor} {fence : HomeFence}

/-- The Home has a fence that the next one does not follow. -/
def Behind (executor : FunctionExecutor) (home : HomeId) (next : HomeFence) : Prop :=
  ∃ fence, executor.state.homeFences.get? home = some fence ∧ ¬ fence.Follows next

omit [Crypto] in
theorem Behind.invalid (behind : Behind executor home next) : validateFence executor.state home noun routeNoun next ≠ .ok () := by
  obtain ⟨fence, held, unfollowed⟩ := behind
  exact fun valid => unfollowed (validateFence_eq_ok.mp valid fence held)

theorem claim_refused (behind : Behind executor grant.payload.owner (grantFence grant)) :
    wp (claim host grant) (fun _ _ => False) (fun _ after => executor = after) executor := by
  unfold claim
  refine wp_operational ?_ fun _ => rfl
  refine wp_guard fun _ _ => wp_guard fun _ _ => wp_guard fun _ _ => ?_
  rw [wp_bind, wp_get]
  refine wp_guard fun _ _ => wp_guard fun _ valid => ?_
  exact absurd valid behind.invalid

theorem recordControlQueued_refused
    (behind : Behind executor request.payload.attempt.home (controlFence request)) :
    wp (recordControlQueued host attempt request) (fun _ _ => False) (fun _ after => executor = after) executor := by
  unfold recordControlQueued
  refine wp_operational ?_ fun _ => rfl
  refine wp_guard fun _ _ => wp_guard fun _ _ => ?_
  rw [wp_bind, wp_get]
  refine wp_guard fun _ valid => ?_
  exact absurd valid behind.invalid

theorem query_refused {request : SignedRecord ExecutionQuery}
    (behind : Behind executor request.payload.attempt.home (queryFence request)) :
    wp (query host request) (fun _ _ => False) (fun _ after => executor = after) executor := by
  unfold query
  refine wp_operational ?_ fun _ => rfl
  refine wp_guard fun _ _ => ?_
  rw [wp_bind, wp_get]
  refine wp_guard fun _ _ => wp_guard fun _ _ => wp_guard fun _ _ => ?_
  refine wp_guard fun _ valid => ?_
  exact absurd valid behind.invalid

/-- An operation that changes nothing and only says no. -/
def Rebuffs (program : Action (List Dispatch)) (executor : FunctionExecutor) : Prop :=
  wp program (fun sent after => executor = after ∧ ∀ dispatch ∈ sent, dispatch.Refuses)
    (fun _ after => executor = after) executor

omit [Crypto] in
theorem Rebuffs.guarded (rebuffs : Rebuffs program executor) : Rebuffs (do
      ensureOperational
      let sent ← program
      ensureOperational
      return sent) executor := by
  unfold Rebuffs
  refine wp_operational ?_ fun _ => rfl
  refine wp_then rebuffs ?_
  rintro sent _ ⟨rfl, refuses⟩
  refine wp_operational ?_ fun _ => rfl
  exact ⟨rfl, refuses⟩

theorem onGrant_rebuffs (behind : Behind executor grant.payload.owner (grantFence grant)) : Rebuffs (onGrant host grant) executor := by
  unfold Rebuffs onGrant
  rw [wp_bind, wp_observe]
  refine wp_mono (claim_refused behind) (fun _ _ => False.elim) ?_
  rintro error _ rfl
  refine wp_reads along_recoveryHomeTarget (fun home => ?_) fun _ => rfl
  exact ⟨rfl, by simp [Dispatch.Refuses]⟩

theorem onControl_rebuffs (behind : Behind executor request.payload.attempt.home (controlFence request)) : Rebuffs (onControl host request) executor := by
  unfold Rebuffs onControl
  refine wp_operational ?_ fun _ => rfl
  cases verifyExecutionControl request with
  | error => exact ⟨rfl, by simp [Dispatch.Refuses]⟩
  | ok =>
    dsimp only
    rw [wp_bind, wp_observe]
    refine wp_mono wp_grantOf ?_ ?_
    · rintro grant _ ⟨rfl, _⟩
      dsimp only
      rw [wp_ite]
      refine ⟨fun _ => ⟨rfl, by simp [Dispatch.Refuses]⟩, fun _ => ?_⟩
      rw [wp_bind, wp_observe]
      refine wp_mono (recordControlQueued_refused behind) (fun _ _ => False.elim) ?_
      rintro error _ rfl
      exact ⟨rfl, by simp [Dispatch.Refuses]⟩
    · rintro error _ rfl
      exact ⟨rfl, by simp [Dispatch.Refuses]⟩

theorem onQuery_rebuffs {request : SignedRecord ExecutionQuery}
    (behind : Behind executor request.payload.attempt.home (queryFence request)) : Rebuffs (onQuery host request) executor := by
  unfold Rebuffs onQuery
  exact wp_then (query_refused behind) fun _ _ => False.elim

/-- Whatever comes from behind the fence changes nothing and is answered with a refusal at most. -/
theorem rebuffs_run (carries : operation.fence = some (home, next)) (behind : Behind executor home next) :
    Rebuffs (operation.run host) executor := by
  cases operation with
  | message envelope =>
    obtain ⟨sender, receiver, hasOrigin, message⟩ := envelope
    cases message <;> cases carries
    · exact (onGrant_rebuffs behind).guarded
    · exact (onQuery_rebuffs behind).guarded
    · exact (onControl_rebuffs behind).guarded
  | claim grant =>
    cases carries
    exact wp_then (claim_refused behind) fun _ _ => False.elim
  | query request =>
    cases carries
    exact wp_then (query_refused behind) fun _ _ => False.elim
  | _ => cases carries

/-! Where receipts go. -/

theorem owner_of_verified (verified : verifyExecutionGrant grant = .ok ()) :
    grant.payload.attempt.home = grant.payload.owner := by
  simp only [verifyExecutionGrant, validate, SignedRecord.validateWith, bind_eq_ok, reject_eq_ok, not_not] at verified
  obtain ⟨_, ⟨_, _, _, _, _, _, _, payload, _⟩, _⟩ := verified
  obtain ⟨_, _, _, _, _, _, _, _, _, _, _, _, _, _, _, same, _⟩ := payload
  exact same

/-- A control stands for the request it was queued or last endorsed with. -/
theorem NextState.controls {control : ControlRecord} (next : NextState state record after)
    (queued : after.controls.get? key = some control) :
    (∃ old, state.controls.get? key = some old ∧ old.requestHash = control.requestHash ∧ old.request = control.request) ∨
      ∃ request receipt, record = .control request receipt ∧ control.request = request ∧
        control.requestHash = canonicalHash request ∧ after.homeFences =
          advancedFences state.homeFences request.payload.attempt.home (controlFence request) := by
  have kept : state.controls.get? key = some control → ∃ old, state.controls.get? key = some old ∧
      old.requestHash = control.requestHash ∧ old.request = control.request :=
    fun same => ⟨control, same, rfl, rfl⟩
  cases next with
  | requeue | queue =>
    simp only [ExecutorState.reendorsing, ExecutorState.queueing, SortedMap.get?_insert] at queued
    split at queued
    · obtain rfl := Option.some.inj queued
      exact .inr ⟨_, _, rfl, rfl, rfl, rfl⟩
    · exact .inl (kept queued)
  | receive =>
    left
    rw [ExecutorState.receiving] at queued
    dsimp only at queued
    unfold acknowledgedControls at queued
    split at queued
    · split at queued
      · rename_i old held
        rw [SortedMap.get?_insert] at queued
        split at queued
        · rename_i same
          obtain rfl := Option.some.inj queued
          exact ⟨old, same ▸ held, rfl, rfl⟩
        · exact kept queued
      · exact kept queued
    · exact kept queued
  | _ => exact .inl (kept queued)

/-- What the fences of a state cover: the grants of its attempts and the requests of its controls. -/
structure Fenced (state : ExecutorState) : Prop where
  attempts : ∀ key attempt, state.attempts.get? key = some attempt →
    ∃ fence, state.homeFences.get? key.home = some fence ∧ (grantFence attempt.grant).Follows fence
  controls : ∀ key control, state.controls.get? key = some control →
    control.requestHash = canonicalHash control.request ∧
      ∃ fence, state.homeFences.get? control.request.payload.attempt.home = some fence ∧
        (controlFence control.request).Follows fence

theorem Admissible.fenced (admissible : Admissible config state grant)
    (verified : verifyExecutionGrant grant = .ok ()) :
    (advancedFences state.homeFences grant.payload.owner (grantFence grant)).get? grant.payload.attempt.home =
      some (grantFence grant) := by
  rw [owner_of_verified verified, get?_advancedFences admissible.unfenced, if_pos rfl]

theorem Fenced.next (fenced : Fenced state) (produced : Produced config state record reserve)
    (valid : validateRecord config identity record = .ok ()) : Fenced (state.next record) := by
  have raised := produced.raises
  have kept : ∀ {home : HomeId} {first : HomeFence},
      (∃ fence, state.homeFences.get? home = some fence ∧ first.Follows fence) →
        ∃ fence, (state.next record).homeFences.get? home = some fence ∧ first.Follows fence := by
    rintro home first ⟨fence, held, follows⟩
    obtain ⟨later, here, further⟩ := raised home fence held
    exact ⟨later, here, follows.trans further⟩
  constructor
  · intro key attempt found
    cases appears_next found with
    | kept known => exact kept (fenced.attempts key attempt known)
    | claimed same first | refused same first =>
      subst first same
      simp only [validateRecord, ofUnauthorized, bind_eq_ok, mapError_eq_ok] at valid
      obtain ⟨_, verified, _⟩ := valid
      cases produced
      exact ⟨_, Admissible.fenced (by assumption) verified, .refl _⟩
    | queued _ known later =>
      subst later
      have held := kept (fenced.attempts key _ known)
      exact held
    | received _ known later =>
      subst later
      rw [grant_receiving]
      exact kept (fenced.attempts key _ known)
  · intro key control queued
    rcases (nextState state record).controls queued with ⟨old, known, hash, request⟩ | ⟨request, receipt, rfl, same, hash, advanced⟩
    · obtain ⟨hashed, held⟩ := fenced.controls key old known
      rw [hash, request] at hashed
      exact ⟨hashed, kept (request ▸ held)⟩
    · refine ⟨by rw [hash, same], controlFence request, ?_, same ▸ .refl _⟩
      have passes : validateControlFence state request = .ok () := by
        cases produced with
        | requeue _ _ _ passes | queue _ _ _ _ _ _ passes _ _ => exact passes
      rw [advanced, same, get?_advancedFences passes, if_pos rfl]

theorem Grown.fenced (grown : Grown rule place identity ledger state) : Fenced state := by
  induction grown with
  | nil => exact ⟨fun _ _ found => (nomatch found), fun _ _ found => (nomatch found)⟩
  | snoc _ taken ih => exact ih.next taken.produced taken.valid

end

/-- The address of a fence's return route, seen from a place. -/
def HomeFence.target (fence : HomeFence) (realm node : String) : Except String Address := do
  let coordinator ← parseAddress fence.homeCoordinator
  routedAddress realm node fence.homeRealm fence.homeNode coordinator

/-- The target is the route of the newest fence of the Home, seen from a place. -/
def Homeward (executor : FunctionExecutor) (home : HomeId) (realm node : String) (target : Address) : Prop :=
  ∃ fence, executor.state.homeFences.get? home = some fence ∧ fence.target realm node = .ok target

/-- Neither the fences nor the place of a process have changed. -/
structure Steady (before after : FunctionExecutor) : Prop where
  fences : after.state.homeFences = before.state.homeFences
  realm : after.config.realm = before.config.realm
  node : after.config.node = before.config.node

instance : Std.Refl Steady := ⟨fun _ => ⟨rfl, rfl, rfl⟩⟩

instance : IsTrans FunctionExecutor Steady where
  trans _ _ _ one two := ⟨two.fences.trans one.fences, two.realm.trans one.realm, two.node.trans one.node⟩

variable {before after : FunctionExecutor}

theorem Steady.homeward (steady : Steady before after)
    (there : Homeward before home before.config.realm before.config.node target) :
    Homeward after home after.config.realm after.config.node target := by
  rw [Homeward, steady.fences, steady.realm, steady.node]
  exact there

variable {work : AttemptRecoveryWork} {sent : List Dispatch} {meets : List Dispatch → FunctionExecutor → Prop}

section

variable [Crypto] {identity : Text} {ledger : List ExecutorLedgerRecord} {host : Host} {executor : FunctionExecutor}
  {grant : SignedRecord ExecutionGrant}

/-- The fence of a grant's Home follows the grant. -/
def Answerable (state : ExecutorState) (grant : SignedRecord ExecutionGrant) : Prop :=
  ∃ fence, state.homeFences.get? grant.payload.attempt.home = some fence ∧ (grantFence grant).Follows fence

/-- A grant that is answerable is answered on the route of the newest fence. -/
theorem wp_recoveryHomeTarget (answerable : Answerable executor.state grant) : wp (recoveryHomeTarget host grant)
      (fun target after => executor = after ∧
        Homeward executor grant.payload.attempt.home executor.config.realm executor.config.node target)
      (fun _ after => executor = after) executor := by
  obtain ⟨fence, held, follows⟩ := answerable
  unfold recoveryHomeTarget
  refine wp_operational ?_ fun _ => rfl
  rw [wp_bind, wp_get, held]
  dsimp only
  rw [if_pos follows.covers]
  refine wp_guard fun coordinator parsed => ?_
  rw [wp_lift]
  refine ⟨fun target routed => ⟨rfl, fence, held, ?_⟩, fun _ _ => rfl⟩
  rw [mapError_eq_ok] at parsed routed
  rw [HomeFence.target, parsed]
  exact routed

/-- The record is a receipt. -/
def ExecutorLedgerRecord.IsReceipt : ExecutorLedgerRecord → Prop
  | .receipt _ => True
  | _ => False

/-- Receipts leave fences and place alone. -/
theorem Backs.steady (backs : Backs (anywhere identity) before ledger)
    (moves : Moves ExecutorLedgerRecord.IsReceipt identity before after) :
    Steady before after ∧ ∃ longer, Backs (anywhere identity) after longer := by
  have place : after.config.realm = before.config.realm ∧ after.config.node = before.config.node := by
    induction moves with
    | refl => exact ⟨rfl, rfl⟩
    | tail _ move ih =>
      cases move with
      | aside _ _ _ seat =>
        exact ⟨(congrArg ExecutorConfig.realm seat).trans ih.1, (congrArg ExecutorConfig.node seat).trans ih.2⟩
      | filed _ _ _ _ _ config | misfiled _ _ _ _ _ config | poisoned _ _ _ _ _ config => exact config ▸ ih
  obtain ⟨fences, further⟩ := backs.preserves (fun state => state.homeFences = before.state.homeFences)
    (fun _ _ => trivial) (fun {_ state record _} same _ only => by
      cases record with
      | receipt receipt => exact fences_receipt.trans same
      | _ => exact only.elim) moves rfl
  exact ⟨⟨fences, place.1, place.2⟩, further⟩

/-! Receipts of a recovery. -/

omit [Crypto] in
theorem receptive_isReceipt : Receptive ExecutorLedgerRecord.IsReceipt :=
  fun _ _ => trivial

/-- Recovering an attempt appends receipts only, none of which is a claim. -/
theorem dispatchAttemptRecovery_receipts (receptive : Receptive rule)
    (belongs : work.Belongs executor.state) :
    AlongFrom (Moves rule host.signer.publicKey) (dispatchAttemptRecovery host work) executor := by
  obtain ⟨record, found, _, _⟩ := belongs
  refine dispatchAttemptRecovery_handles steps_moves trivial ?_
  refine wp_claim_cases (fun _ => .refl) (fun _ known _ => ?_) fun absent => absurd (found.symm.trans absent) (by simp)
  exact wp_imp (claimAgain_claims receptive known) (fun _ _ claims => claims.moves)

/-- All receipts among the dispatches go to the newest route of their Homes. -/
def AllHomeward (executor : FunctionExecutor) (sent : List Dispatch) : Prop :=
  ∀ target receipt, .receipt target receipt ∈ sent →
    Homeward executor receipt.payload.attempt.home executor.config.realm executor.config.node target

omit [Crypto] in
theorem AllHomeward.steady (homeward : AllHomeward executor sent) (steady : Steady executor after) :
    AllHomeward after sent :=
  fun target receipt member => steady.homeward (homeward target receipt member)

/-- A process that may be anywhere, with nothing but receipts appended since. -/
structure Onward (identity : Text) (before after : FunctionExecutor) : Prop where
  steady : Steady before after
  backs : ∃ ledger, Backs (anywhere identity) after ledger

/-- The fence of a retained attempt's Home follows its grant. -/
theorem Backs.answerable (backs : Backs (anywhere identity) executor ledger)
    (found : executor.state.attempts.get? attempt = some record) :
    record.grant.payload.attempt = attempt ∧ Answerable executor.state record.grant := by
  have own := (backs.held.grown.settled.sound attempt record found).1
  rw [Answerable, own]
  exact ⟨rfl, backs.held.grown.fenced.attempts attempt record found⟩

theorem Onward.here (backs : Backs (anywhere identity) executor ledger) : Onward identity executor executor :=
  ⟨Std.Refl.refl executor, ledger, backs⟩

theorem Onward.swept (onward : Onward identity before after) (sweep : ExecutorRecoverySweep) :
    Onward identity before { after with recoverySweep := sweep } :=
  ⟨⟨onward.steady.fences, onward.steady.realm, onward.steady.node⟩, onward.backs.imp fun _ backs => backs.swept sweep⟩

theorem Onward.trans {first second third : FunctionExecutor} (one : Onward identity first second)
    (two : Onward identity second third) : Onward identity first third :=
  ⟨IsTrans.trans _ _ _ one.steady two.steady, two.backs⟩

theorem dispatchAttemptRecovery_homeward (backs : Backs (anywhere identity) executor ledger)
    (signs : host.signer.publicKey = identity) (belongs : work.Belongs executor.state) :
    wp (dispatchAttemptRecovery host work)
      (fun sent after => Onward identity executor after ∧ AllHomeward after sent)
      (fun _ after => Onward identity executor after) executor := by
  subst signs
  have settled := backs.held.grown.settled
  refine wp_mono (wp_and (dispatchAttemptRecovery_receipts receptive_isReceipt belongs)
    (dispatchAttemptRecovery_relays settled.sound belongs)) ?_ ?_
  · rintro sent after ⟨moves, _, relays⟩
    obtain ⟨steady, further⟩ := backs.steady moves
    refine ⟨⟨steady, further⟩, fun target receipt member => steady.homeward ?_⟩
    obtain ⟨record, found, granted, _⟩ := belongs
    obtain ⟨named, run⟩ := relays target receipt member
    rw [named]
    exact (wp_ok (wp_recoveryHomeTarget (granted ▸ (backs.answerable found).2)) run).2
  · rintro _ after ⟨moves, _⟩
    obtain ⟨steady, further⟩ := backs.steady moves
    exact ⟨steady, further⟩

section

variable (signs : host.signer.publicKey = identity)

include signs

/-- Whatever a sweep sends goes to the newest route of its Home. -/
theorem sweepRule_homeward :
    SweepRule host (fun sent now => Onward identity executor now ∧ AllHomeward now sent) (Onward identity executor) where
  stops kept := kept.1
  drains kept run := by
    obtain ⟨⟨sweep, rfl⟩, _⟩ := wp_ok wp_takeNextReceiptRecovery run
    exact ⟨kept.1.swept sweep, kept.2⟩
  serves {sent now work middle} kept run := by
    obtain ⟨⟨sweep, rfl⟩, taken⟩ := wp_ok wp_takeNextReceiptRecovery run
    obtain ⟨key, receipt, ordinal, member⟩ := taken work rfl
    obtain ⟨ledger, backs⟩ := kept.1.backs
    have belongs := (belongs_of_mem backs.held.grown.settled.sound member).1
    have swept := kept.1.swept sweep
    refine wp_mono (dispatchAttemptRecovery_homeward (backs.swept sweep) signs belongs) ?_ fun _ _ onward => swept.trans onward
    rintro more after ⟨onward, relayed⟩
    have earlier : AllHomeward { now with recoverySweep := sweep } sent := kept.2
    refine ⟨swept.trans onward, fun target receipt member => ?_⟩
    exact (List.mem_append.mp member).elim (earlier.steady onward.steady target receipt) (relayed target receipt)
  rests {sent now} kept := by
    refine ⟨kept.1.swept _, fun target receipt member => ?_⟩
    rcases List.mem_append.mp member with old | poke
    · exact kept.2 target receipt old
    · split at poke
      · simp at poke
      · cases poke

theorem continueRecoverySweep_homeward (onward : Onward identity start executor) :
    wp (continueRecoverySweep host) (fun sent after => Onward identity start after ∧ AllHomeward after sent)
      (fun _ after => Onward identity start after) executor :=
  (sweepRule_homeward signs).continueRecoverySweep ⟨onward, fun _ _ member => absurd member List.not_mem_nil⟩

theorem recoveryDispatches_homeward (onward : Onward identity start executor) :
    wp (recoveryDispatches host) (fun sent after => Onward identity start after ∧ AllHomeward after sent)
      (fun _ after => Onward identity start after) executor := by
  unfold recoveryDispatches
  refine wp_operational ?_ fun _ => onward
  rw [wp_bind, wp_get, wp_bind, wp_set]
  exact continueRecoverySweep_homeward signs (onward.swept _)

end

/-! Receipts of a control. -/

/-- Whatever a process does, its fences only rise. -/
theorem Backs.raised (backs : Backs (anywhere identity) before ledger)
    (moves : Moves (anywhere identity).rule identity before after) :
    Raised before.state after.state ∧ ∃ longer, Backs (anywhere identity) after longer :=
  backs.preserves (Raised before.state) (fun _ ruled => ruled) (fun raised produced _ => raised.trans produced.raises) moves (.refl _)

theorem Answerable.raised {before after : ExecutorState} (answerable : Answerable before grant)
    (raised : Raised before after) : Answerable after grant := by
  obtain ⟨fence, held, follows⟩ := answerable
  obtain ⟨later, here, further⟩ := raised _ fence held
  exact ⟨later, here, follows.trans further⟩

theorem Answerable.steady (answerable : Answerable before.state grant) (steady : Steady before after) :
    Answerable after.state grant := by
  rw [Answerable, steady.fences]
  exact answerable

/-- Where a control says that its Home is, seen from the deployment of a grant. -/
def StringAddressing.controlHomeTarget (grant : ExecutionGrant) (control : ExecutionControl) : Except String Address := do
  let coordinator ← parseAddress control.homeCoordinator
  routedAddress grant.deployment.payload.realm grant.deployment.payload.node control.homeRealm control.homeNode coordinator

/-- No two signed controls have one hash. -/
def ControlsIdentified : Prop :=
  ∀ left right : SignedRecord ExecutionControl, canonicalHash left = canonicalHash right → left = right

/-! All of it, in every run. -/

/-- Operations that send receipts again after a restart. -/
def Operation.Recovers : Operation → Prop
  | .bind _ | .recover => True
  | .message envelope => envelope.message = .recoveryPoke
  | _ => False

/-- The attempt that a control, or the answer to one, is about. -/
def Operation.controlled : Operation → Option AttemptId
  | .message envelope =>
    match envelope.message with
    | .control request => some request.payload.attempt
    | .controlResult attempt _ _ _ => some attempt
    | _ => none
  | _ => none

section

omit [Crypto]

/-- What a handler sends meets whatever its program guarantees when it returns. -/
theorem handled_of_wp {failure : ExecutorError → FunctionExecutor → Prop} (spec : wp program meets failure executor)
    (silent : ∀ after, meets [] after) (ran : handled program executor = (sent, after)) : meets sent after := by
  unfold handled at ran
  split at ran
  · rename_i run
    cases ran
    exact wp_ok spec run
  · cases ran
    exact silent _

/-- A handler between two health checks sends what it sends without them. -/
theorem guarded_of_wp (spec : wp program meets (fun _ _ => True) executor) : wp (do
      ensureOperational
      let sent ← program
      ensureOperational
      return sent) meets (fun _ _ => True) executor := by
  refine wp_operational ?_ fun _ => ⟨⟩
  rw [wp_bind]
  refine wp_weaken spec fun sent after met => ?_
  refine wp_operational ?_ fun _ => ⟨⟩
  exact met

theorem Rebuffs.handled (rebuffs : Rebuffs program executor) :
    ∃ sent, Executor.handled program executor = (sent, executor) ∧ ∀ dispatch ∈ sent, dispatch.Refuses := by
  unfold Executor.handled
  cases run : program executor with
  | ok sent after =>
    obtain ⟨same, refuses⟩ := wp_ok rebuffs run
    exact ⟨sent, by rw [same], refuses⟩
  | error error after =>
    have same := wp_error rebuffs run
    exact ⟨[], by rw [same], fun _ member => absurd member List.not_mem_nil⟩

end

/-! What a process sends that may be anywhere. -/

/-- The target is the newest route of the Home, seen from where the process is or from where the attempt was deployed to. -/
def ControlHomeward (executor : FunctionExecutor) (attempt : AttemptId) (target : Address) : Prop :=
  Homeward executor attempt.home executor.config.realm executor.config.node target ∨
    ∃ record, executor.state.attempts.get? attempt = some record ∧
      Homeward executor attempt.home record.grant.payload.deployment.payload.realm
        record.grant.payload.deployment.payload.node target

/-- All receipts among the dispatches for a control go there. -/
def AllControlHomeward (attempt : AttemptId) (sent : List Dispatch) (after : FunctionExecutor) : Prop :=
  ∀ target receipt, .receipt target receipt ∈ sent → ControlHomeward after attempt target

section

variable (signs : host.signer.publicKey = identity) (backs : Backs (anywhere identity) executor ledger)

include signs backs

/-- A stage that a target reports goes to the newest route of its Home. -/
theorem reportStage_homeward : wp (reportStage host sender attempt stage)
      (fun sent after => ∀ target receipt, .receipt target receipt ∈ sent →
        Homeward after attempt.home after.config.realm after.config.node target)
      (fun _ _ => True) executor := by
  subst signs
  unfold reportStage
  rw [wp_bind]
  refine wp_weaken wp_grantOf ?_
  rintro grant _ ⟨rfl, record, found, rfl⟩
  obtain ⟨own, answerable⟩ := backs.answerable found
  have live : Along (Moves ExecutorLedgerRecord.IsReceipt host.signer.publicKey) (liveControlTarget host record.grant) :=
    liveAttemptTarget_moves
  have recorded : Along (Moves ExecutorLedgerRecord.IsReceipt host.signer.publicKey) (recordStage host attempt stage none) :=
    recordStage_moves fun _ _ => trivial
  refine wp_along live (fun _ _ _ => trivial) fun expected middle moved => ?_
  refine wp_assume fun _ _ => ?_
  refine wp_along recorded (fun _ _ _ => trivial) ?_
  intro outcome later further
  obtain ⟨steady, _⟩ := backs.steady (moved.trans further)
  rw [wp_bind]
  refine wp_weaken (wp_recoveryHomeTarget (answerable.steady steady)) ?_
  rintro home _ ⟨rfl, homeward⟩ target receipt member
  obtain ⟨rfl, -⟩ := Dispatch.receipt.inj (List.mem_singleton.mp member)
  rwa [own] at homeward

theorem recovers_homeward (recovers : operation.Recovers)
    (ran : handled (operation.run host) executor = (sent, after)) : AllHomeward after sent := by
  have silent : ∀ after, AllHomeward after [] := fun _ _ _ member => absurd member List.not_mem_nil
  have spec : wp (operation.run host) (fun sent after => AllHomeward after sent) (fun _ _ => True) executor := by
    cases operation with
    | recover => exact wp_weaken (recoveryDispatches_homeward signs (.here backs)) fun _ _ all => all.2
    | bind me =>
      unfold Operation.run bind
      rw [wp_bind, wp_modify]
      have bound : Backs (anywhere identity) { executor with
          me := some me, config := { executor.config with executorCreature := toString me } } ledger :=
        ⟨backs.held, backs.own, backs.place, backs.caps, backs.disk⟩
      exact wp_weaken (recoveryDispatches_homeward signs (.here bound)) fun _ _ all => all.2
    | message envelope =>
      obtain ⟨sender, receiver, hasOrigin, message⟩ := envelope
      obtain rfl : message = .recoveryPoke := recovers
      unfold Operation.run respond onRecoveryPoke
      rw [wp_bind, wp_get]
      split
      · exact silent _
      · refine wp_ite.mpr ⟨fun _ => ?_, fun _ => silent _⟩
        exact wp_weaken (continueRecoverySweep_homeward signs (.here backs)) fun _ _ all => all.2
    | _ => exact recovers.elim
  exact handled_of_wp spec silent ran

omit signs in
theorem relayControl_homeward (addressing : host.controlHomeTarget = StringAddressing.controlHomeTarget)
    (answerable : Answerable executor.state grant)
    (granted : ∀ record, executor.state.attempts.get? request.payload.attempt = some record → record.grant = grant)
    (fenced : executor.state.homeFences.get? request.payload.attempt.home = some (controlFence request)) :
    wp (relayControl host grant request outcome)
      (fun sent after => AllControlHomeward request.payload.attempt sent after)
      (fun _ _ => True) executor := by
  unfold relayControl
  refine wp_operational ?_ fun _ => ⟨⟩
  rw [wp_bind, wp_get]
  refine wp_assume fun record found => ?_
  rw [orError_eq_ok] at found
  obtain rfl := granted record found
  have own := (backs.held.grown.settled.sound _ record found).1
  refine wp_ite.mpr ⟨fun _ => ?_, fun _ => ?_⟩
  · refine wp_assume fun home located => ?_
    rw [mapError_eq_ok, addressing] at located
    intro target receipt member
    obtain ⟨rfl, -⟩ := Dispatch.receipt.inj (List.mem_singleton.mp member)
    exact .inr ⟨record, found, _, fenced, located⟩
  · rw [wp_bind]
    refine wp_weaken (wp_recoveryHomeTarget answerable) ?_
    rintro home _ ⟨rfl, homeward⟩
    rw [own] at homeward
    split
    · have silent : wp (forwardControl host record.grant request)
          (fun sent _ => sent.length ≤ 1 ∧ ∀ target receipt, .receipt target receipt ∉ sent) (fun _ _ => True) executor :=
        forwardControl_silent
      have along : Along (Moves ExecutorLedgerRecord.IsReceipt identity) (forwardControl host record.grant request) :=
        fun executor => forwardControl_handles steps_moves executor trivial
      rw [wp_bind]
      refine wp_weaken (wp_and silent (along executor)) ?_
      rintro sent after ⟨⟨_, silent⟩, moves⟩ target receipt member
      rcases List.mem_cons.mp member with same | other
      · obtain ⟨rfl, -⟩ := Dispatch.receipt.inj same
        exact .inl ((backs.steady moves).1.homeward homeward)
      · exact absurd other (silent target receipt)
    · intro target receipt member
      obtain ⟨rfl, -⟩ := Dispatch.receipt.inj (List.mem_singleton.mp member)
      exact .inl homeward

variable (hashes : ControlsIdentified)

include hashes

/-- After a control was taken, the fence of its Home is the one that the control carries. -/
theorem recordControlQueued_fences : wp (recordControlQueued host attempt request)
      (fun _ after => after.state.homeFences.get? request.payload.attempt.home = some (controlFence request))
      (fun _ _ => True) executor := by
  subst signs
  unfold recordControlQueued
  refine wp_operational ?_ fun _ => ⟨⟩
  refine wp_assume fun _ _ => wp_assume fun _ named => ?_
  rw [reject_eq_ok, ne_eq, not_not] at named
  subst named
  rw [wp_bind, wp_get]
  refine wp_assume fun _ unfenced => wp_assume fun record found => ?_
  refine wp_assume fun _ exact => ?_
  rw [orError_eq_ok] at found
  simp only [reject_eq_ok, not_or, not_not] at exact
  -- once the record of the control is committed, the fence is the control's
  have commits : ∀ {receipt : SignedRecord ExecutionReceipt} {reserve : Nat},
      Produced executor.config executor.state (.control request receipt) reserve →
      reserve < executor.journal.caps.maxRecords - executor.journal.records.length →
      wp (commit host (.control request receipt))
        (fun _ after => after.state.homeFences.get? request.payload.attempt.home = some (controlFence request))
        (fun _ _ => True) executor := by
    intro receipt reserve produced room
    have ruled : (anywhere host.signer.publicKey).rule (.control request receipt) := trivial
    refine wp_weaken (wp_and (backs.commits rfl produced room ruled id) (wp_commit_moves produced room ruled)) ?_
    rintro _ after ⟨⟨_, next⟩, done⟩
    have valid := validateRecord_of_applyRecord done.applied
    obtain ⟨_, _, same⟩ := validateRecord_control valid
    rw [next, fences_control.resolve_left fun same' => by simp [same ▸ found] at same', get?_advancedFences unfenced,
      if_pos rfl]
  split
  · rename_i existing known
    unfold requeueControl
    rw [wp_bind, wp_get]
    refine wp_assume fun _ same => ?_
    simp only [reject_eq_ok, not_and, Bool.not_eq_false] at same
    split
    · rename_i equal
      obtain ⟨hashed, fence, held, follows⟩ := backs.held.grown.fenced.controls _ existing known
      obtain rfl := hashes _ _ (hashed.symm.trans equal)
      have upward := validateFence_eq_ok.mp unfenced fence held
      rw [wp_pure, held, follows.antisymm (upward.revision.imp_right (And.imp_left Eq.symm))]
    · rename_i differs
      refine wp_room (fun room => ?_) fun _ => ⟨⟩
      rw [wp_bind]
      exact wp_weaken (commits (.requeue known differs (same differs) unfenced) room) fun _ _ held => held
  · rename_i absent
    refine wp_assume fun _ bounded => wp_assume fun _ running => ?_
    rw [reject_eq_ok, not_le] at bounded
    rw [reject_eq_ok, Bool.not_eq_true] at running
    refine wp_room (fun room => wp_signed (fun receipt named next stage hash => ?_) fun _ => ⟨⟩) fun _ => ⟨⟩
    rw [wp_bind]
    exact wp_weaken (commits (.queue absent found exact.1 exact.2 bounded running unfenced ⟨named, hash⟩ next) room)
      fun _ _ held => held

variable (addressing : host.controlHomeTarget = StringAddressing.controlHomeTarget)

include addressing

/-- What is sent for a control goes to the newest route of its Home. -/
theorem onControl_homeward : wp (onControl host request)
      (fun sent after => AllControlHomeward request.payload.attempt sent after) (fun _ _ => True) executor := by
  have refused : ∀ {error after}, AllControlHomeward request.payload.attempt [Dispatch.refused error] after :=
    fun _ _ member => nomatch List.mem_singleton.mp member
  unfold onControl
  refine wp_operational ?_ fun _ => ⟨⟩
  split
  · exact refused
  · rw [wp_bind, wp_observe]
    refine wp_mono wp_grantOf ?_ fun _ _ _ => refused
    rintro grant _ ⟨rfl, record, found, rfl⟩
    dsimp only
    refine wp_ite.mpr ⟨fun _ => refused, fun _ => ?_⟩
    obtain ⟨own, answerable⟩ := backs.answerable found
    have along : Along (Moves (anywhere identity).rule identity) (recordControlQueued host request.payload.attempt request) :=
      signs ▸ recordControlQueued_moves (anywhere identity).lenient.permits
    have fences : wp (recordControlQueued host request.payload.attempt request)
        (fun _ after => after.state.homeFences.get? request.payload.attempt.home = some (controlFence request))
        (fun _ _ => True) executor := recordControlQueued_fences signs backs hashes
    have progress : Along (Progresses fun _ => True) (recordControlQueued host request.payload.attempt request) :=
      (recordControlQueued_moves (fun _ _ trust => trust)).mono fun _ _ moves => moves.progresses
    rw [wp_bind, wp_observe]
    refine wp_mono (wp_and (wp_and (along executor) fences) (progress executor)) ?_ fun _ _ _ => refused
    rintro outcome middle ⟨⟨moves, fenced⟩, progresses⟩
    obtain ⟨raised, longer, later⟩ := backs.raised moves
    refine relayControl_homeward later addressing (answerable.raised raised) (fun retained known => ?_) fenced
    obtain ⟨_, here, continues⟩ := progresses.retained _ record found
    obtain rfl := Option.some.inj (known.symm.trans here)
    exact continues.grant

theorem controlled_homeward (about : operation.controlled = some attempt)
    (ran : handled (operation.run host) executor = (sent, after)) : AllControlHomeward attempt sent after := by
  have silent : ∀ after, AllControlHomeward attempt [] after :=
    fun _ _ _ member => absurd member List.not_mem_nil
  have spec : wp (operation.run host) (AllControlHomeward attempt) (fun _ _ => True) executor := by
    cases operation with
    | message envelope =>
      obtain ⟨sender, receiver, hasOrigin, message⟩ := envelope
      cases message with
      | control request =>
        obtain rfl := Option.some.inj about
        exact guarded_of_wp (onControl_homeward signs backs hashes addressing)
      | controlResult named control disposition detail =>
        obtain rfl := Option.some.inj about
        refine guarded_of_wp ?_
        unfold respond.respondTo onControlResult
        refine wp_operational ?_ fun _ => ⟨⟩
        rw [wp_bind, wp_get]
        refine wp_ite.mpr ⟨fun _ => silent _, fun _ => ?_⟩
        exact wp_weaken (reportStage_homeward signs backs)
          fun _ _ homeward target receipt member => .inl (homeward target receipt member)
      | _ => cases about
    | _ => cases about
  exact handled_of_wp spec silent ran

end

end

open Sample Wire.Sample

attribute [local instance] Wire.Sample.collisionFree

end Gawd.Executor
