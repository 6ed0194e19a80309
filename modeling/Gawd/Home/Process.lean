import Gawd.Home.History
import Gawd.Home.Locality

/-!
What the operations of an open Home do to it: each one only appends produced records to the Job journal,
and applies what it appended, or fails and leaves the ledger alone or the journal poisoned.
-/

namespace Gawd.Home

open Gawd.Logic Gawd.Wire Gawd.Journal

variable {host : Host} {handle : JobHandle} {stateAfter : JobState} {cancelRequested : Bool}
  {occurredAtUnixMs : Option Nat} {kind : JobEventKind} {home : FunctionHome}
  {failure : HomeError → FunctionHome → Prop} {resolution : SignedRecord ResolutionReceipt}
  {deployment : SignedRecord DeploymentReceipt} {spec : JobSpec} {prepared : PreparedSubmission}
  {snapshot : JobSnapshot}

theorem ensureAuthoritativeState_reads : Along Eq ensureAuthoritativeState :=
  Along.get.bind fun _ => Along.lift _

section

variable [Crypto]

/-- A Home that stands behind its writes admits the record. -/
structure Writes (home : FunctionHome) (record : HomeLedgerRecord) : Prop where
  authoritative : home.authoritative = .ok ()
  admitted : home.admit record = .ok ()

/-- One step of an open Home: it remembers its recipient binding, appends and applies a produced record,
or has its Job journal poisoned by one. -/
inductive HomeStep (allowed : HomeState → HomeLedgerRecord → Prop) (signer : Text)
    (before after : FunctionHome) : Prop where
  | cached (binding : Option (SignedRecord RecipientKeyBinding)) :
      after = { before with currentRecipientBinding := binding } → HomeStep allowed signer before after
  | logged {record : HomeLedgerRecord} {entry : SignedRecord (ChainEntry HomeLedgerRecord)}
      {journal : SignedJournal HomeLedgerRecord} {state : HomeState} :
      Writes before record → Produced before.state record → allowed before.state record →
      before.journal.Continuation record signer entry → before.journal.Appended entry journal →
      applyLedgerRecord before.config record before.state = .ok () state →
      after = { before with journal, state } → HomeStep allowed signer before after
  | poisoned {record : HomeLedgerRecord} {entry : SignedRecord (ChainEntry HomeLedgerRecord)}
      {journal : SignedJournal HomeLedgerRecord} :
      Writes before record → Produced before.state record → allowed before.state record →
      before.journal.Continuation record signer entry → before.journal.Poisoned entry journal →
      after = { before with journal } → HomeStep allowed signer before after

/-- Any number of such steps. -/
def Moves (allowed : HomeState → HomeLedgerRecord → Prop) (signer : Text) : FunctionHome → FunctionHome → Prop :=
  Relation.ReflTransGen (HomeStep allowed signer)

instance (allowed : HomeState → HomeLedgerRecord → Prop) (signer : Text) : Std.Refl (Moves allowed signer) :=
  ⟨fun _ => .refl⟩

instance (allowed : HomeState → HomeLedgerRecord → Prop) (signer : Text) :
    IsTrans FunctionHome (Moves allowed signer) :=
  ⟨fun _ _ _ one two => one.trans two⟩

/-- Only the remembered binding may differ. -/
def CacheOnly (before after : FunctionHome) : Prop :=
  after = { before with currentRecipientBinding := after.currentRecipientBinding }

instance : Std.Refl CacheOnly := ⟨fun _ => rfl⟩

instance : IsTrans FunctionHome CacheOnly where
  trans first second third one two := by
    unfold CacheOnly at *
    rw [two, one]

theorem CacheOnly.moves (cached : CacheOnly before after) : Moves allowed signer before after :=
  .single (.cached _ cached)

/-! Programs that only read, or only remember the binding. -/

theorem cachedRecipientBinding_cacheOnly : Along CacheOnly (cachedRecipientBinding host) := by
  intro home
  simp only [cachedRecipientBinding, wp_bind, wp_get]
  split
  · exact Std.Refl.refl home
  · simp only [wp_bind, wp_lift, wp_set, wp_pure]
    exact ⟨fun _ _ => ⟨fun _ _ => rfl, fun _ _ => rfl⟩, fun _ _ => rfl⟩

theorem requireSealed_cacheOnly : Along CacheOnly (requireSealed host value) := by
  refine Along.get.bind fun home => ?_
  split
  · exact Along.pure ()
  · exact cachedRecipientBinding_cacheOnly.bind fun _ => Along.lift _
  · exact Along.throw _

theorem requireValue_cacheOnly : Along CacheOnly (requireValue host value) := by
  refine .check fun _ => ?_
  split
  · exact requireSealed_cacheOnly
  · exact Along.pure ()

theorem requireReceiptValues_cacheOnly : Along CacheOnly (requireReceiptValues host stage) := by
  cases stage with
  | progress _ value | checkpoint _ value | succeeded value | failed value _ =>
    exact requireValue_cacheOnly
  | _ => exact Along.pure ()

/-- Signing an event leaves the Home alone and gives the next event of its Job. -/
theorem wp_signEventWithReceipt {rest : SignedRecord JobEvent → Action α}
    (signed : ∀ event : SignedRecord JobEvent, event.payload =
      home.nextEvent handle stateAfter cancelRequested occurredAtUnixMs kind foreignReceipt →
      wp (rest event) success failure home)
    (refused : ∀ error, failure error home) :
    wp (signEventWithReceipt host handle stateAfter cancelRequested occurredAtUnixMs kind foreignReceipt >>= rest)
      success failure home := by
  rw [wp_bind]
  refine wp_reads ensureAuthoritativeState_reads (fun _ => ?_) refused
  simp only [wp_bind, wp_get, wp_lift]
  refine ⟨fun _ _ => ⟨fun event made => ?_, fun error _ => refused error⟩, fun error _ => refused error⟩
  obtain ⟨-, -, payload⟩ := SignedRecord.sign_eq_ok (mapError_eq_ok.mp made)
  exact signed event payload

/-- The one place where the Job ledger is written. After a durable append the apply succeeds, because the
preflight tried it. -/
theorem wp_persistAndApply (refused : ∀ error, failure error home)
    (poisoned : ∀ error entry journal, Writes home record →
      home.journal.Continuation record host.signer.publicKey entry → home.journal.Poisoned entry journal →
      failure error { home with journal }) (logged : ∀ entry journal state, Writes home record →
      home.journal.Continuation record host.signer.publicKey entry → home.journal.Appended entry journal →
      applyLedgerRecord home.config record home.state = .ok () state →
      success () { home with journal, state }) : wp (persistAndApply host record) success failure home := by
  simp only [persistAndApply, ensureAuthoritativeState, wp_bind, wp_get, wp_lift]
  refine ⟨fun _ authoritative => ⟨fun _ admitted => ?_, fun error _ => refused error⟩, fun error _ => refused error⟩
  have writes : Writes home record := ⟨authoritative, admitted⟩
  obtain ⟨state, applied⟩ : ∃ state, applyLedgerRecord home.config record home.state = .ok () state := by
    simp only [ FunctionHome.admit, bind_eq_ok] at admitted
    obtain ⟨_, _, _, tried, _⟩ := admitted
    exact preflight_eq_ok.mp tried
  simp only [appendJob, applyToState, wp_bind, wp_get, wp_zoom]
  refine SignedJournal.wp_append (fun entry journal continued appended => ?_)
    (fun error => refused (.journal error))
    fun entry journal message continued stopped => poisoned _ entry journal writes continued stopped
  unfold wp
  rw [show applyLedgerRecord home.config record home.state = .ok () state from applied]
  exact logged entry journal state writes continued appended applied

section Operations

variable {allowed : HomeState → HomeLedgerRecord → Prop}

/-- An operation that reaches the journal with a produced record moves the Home. -/
theorem wp_persistAndApply_moves (moved : Moves allowed host.signer.publicKey origin home)
    (produced : Produced home.state record) (admitted : allowed home.state record) :
    wp (persistAndApply host record) (fun _ after => Moves allowed host.signer.publicKey origin after)
      (fun _ after => Moves allowed host.signer.publicKey origin after) home := by
  refine wp_persistAndApply (fun _ => moved) ?_ ?_
  · intro _ entry journal writes continued stopped
    exact moved.tail (.poisoned writes produced admitted continued stopped rfl)
  · intro entry journal state writes continued appended applied
    exact moved.tail (.logged writes produced admitted continued appended applied rfl)

/-- The records that carry no receipt are allowed everywhere. -/
def Unobserved (allowed : HomeState → HomeLedgerRecord → Prop) : Prop :=
  ∀ state record, record.receipt = none → Sourced record → allowed state record

omit [Crypto] in
theorem findJob_eq_ok {state : HomeState} (found : findJob state job = .ok record) :
    state.jobs.get? job = some record :=
  orError_eq_ok.mp found

theorem validateJobRequestSignedBy_cacheOnly : Along CacheOnly (validateJobRequestSignedBy host request signer) := by
  refine Along.get.bind fun _ => .check fun _ => requireValue_cacheOnly.bind fun _ => ?_
  exact .check fun _ => .check fun _ => .check fun _ =>
    .check fun _ => Along.pure _

/-- The specification that a request stands for once it is resolved. -/
def JobSubmit.specification (request : JobSubmit) (handle : JobHandle) (requestHash : Text)
    (resolution : SignedRecord ResolutionReceipt) (deployment : SignedRecord DeploymentReceipt) : JobSpec where
  handle := handle
  root := request.parent.getD handle
  callerIdempotencyKey := request.callerIdempotencyKey
  requestHash := requestHash
  function := ⟨request.function, resolution.payload.function, resolution.payload.artifactHash, some resolution⟩
  deployment := deployment
  input := request.input
  delivery := request.delivery
  allowDuplicateEffects := request.allowDuplicateEffects
  parent := request.parent
  causal := request.causal
  access := request.access
  evidence := request.evidence
  resultRecipients := request.resultRecipients
  acceptedAtUnixMs := request.submittedAtUnixMs

theorem acceptSpec_eq_ok (accepted : acceptSpec host handle requestHash request resolution deployment = .ok spec) :
    spec = JobSubmit.specification request handle requestHash resolution deployment := by
  simp only [acceptSpec, bind_eq_ok, pure_eq_ok] at accepted
  obtain ⟨_, _, _, _, _, _, _, _, _, _, _, _, _, _, _, _, _, _, rfl⟩ := accepted
  rfl

/-- What a prepared submission is made of. -/
structure PreparedFor (request : SignedRecord JobSubmit) (resolution : SignedRecord ResolutionReceipt)
    (deployment : SignedRecord DeploymentReceipt) (prepared : PreparedSubmission) : Prop where
  job : deriveJobId request.payload.home request.payload.callerIdempotencyKey = .ok prepared.handle.job
  home : prepared.handle.home = request.payload.home
  hash : request.payload.requestHash = .ok prepared.requestHash
  spec : prepared.spec =
    JobSubmit.specification request.payload prepared.handle prepared.requestHash resolution deployment

theorem PreparedFor.requestedBy {request : SignedRecord JobSubmit}
    (prepares : PreparedFor request resolution deployment prepared) : RequestedBy request.payload prepared.spec := by
  rw [prepares.spec]
  exact ⟨prepares.job, prepares.home, rfl, prepares.hash, rfl⟩

/-- The name and the hash of a request that passes its checks. -/
theorem wp_validateJobRequestSignedBy {request : SignedRecord JobSubmit} :
    wp (validateJobRequestSignedBy host request signer)
      (fun named after => CacheOnly home after ∧ named.1.home = request.payload.home ∧
        request.payload.home = home.config.home ∧ deriveJobId request.payload.home request.payload.callerIdempotencyKey = .ok named.1.job ∧
        request.payload.requestHash = .ok named.2)
      (fun _ after => CacheOnly home after) home := by
  rw [validateJobRequestSignedBy, wp_bind, wp_get]
  refine wp_guard fun _ _ => ?_
  refine wp_along requireValue_cacheOnly (fun _ _ cached => cached) fun _ after cached => ?_
  refine wp_check (fun _ _ => cached) fun _ _ => wp_check (fun _ _ => cached) fun _ owned =>
    wp_check (fun _ _ => cached) fun job derived => wp_check (fun _ _ => cached) fun hash hashed => ?_
  simp only [reject_eq_ok, not_or, not_not] at owned
  exact ⟨cached, owned.1.symm, owned.1, mapError_eq_ok.mp derived, mapError_eq_ok.mp hashed⟩

theorem wp_prepareSubmissionSignedBy : wp (prepareSubmissionSignedBy host request resolution deployment signer)
      (fun prepared after => CacheOnly home after ∧ PreparedFor request resolution deployment prepared)
      (fun _ after => CacheOnly home after) home := by
  rw [prepareSubmissionSignedBy]
  refine wp_then wp_validateJobRequestSignedBy ?_
  rintro ⟨handle, requestHash⟩ after ⟨cached, owned, _, derived, hashed⟩
  refine wp_check (fun _ _ => cached) fun spec accepted => ?_
  exact ⟨cached, derived, owned, hashed, acceptSpec_eq_ok accepted⟩

theorem acceptSubmission_moves (free : Unobserved allowed)
    (orphan : prepared.spec.parent = none) (requested : ∃ request, RequestedBy request prepared.spec) :
    Along (Moves allowed host.signer.publicKey) (acceptSubmission host prepared) := by
  intro home
  rw [acceptSubmission, wp_bind, wp_get]
  refine wp_guard fun _ _ => ?_
  refine wp_signEventWithReceipt (fun event payload => ?_) fun _ => .refl
  have kind : event.payload.kind = .submitted prepared.spec := congrArg JobEvent.kind payload
  have sourced : Sourced ⟨none, none, [event]⟩ := by
    refine ⟨fun submitted spec same submits => ?_, fun _ _ same => (nomatch same)⟩
    obtain ⟨⟩ := same
    rw [kind] at submits
    obtain ⟨⟩ := submits
    exact ⟨orphan, requested⟩
  exact wp_returning (wp_persistAndApply_moves .refl (.submission kind) (free _ _ rfl sourced))

theorem submit_moves (free : Unobserved allowed) :
    Along (Moves allowed host.signer.publicKey) (submit host request resolution deployment) := by
  refine ensureAuthoritativeState_reads.of_eq.bind fun _ origin => wp_guard fun _ direct => ?_
  simp only [reject_eq_ok, not_or, Bool.not_eq_true, Option.isSome_eq_false_iff, Option.isNone_iff_eq_none] at direct
  refine (Along.get.bind fun _ => ?_) origin
  refine (validateJobRequestSignedBy_cacheOnly.mono fun _ _ => CacheOnly.moves).bind fun known => ?_
  refine ensureAuthoritativeState_reads.of_eq.bind fun _ => Along.get.bind fun _ => .check fun found => ?_
  split
  · exact Along.pure _
  intro home
  refine wp_seq wp_prepareSubmissionSignedBy
    (fun prepared cached moved => ?_) fun _ _ cached => cached.moves
  obtain ⟨moved, prepares⟩ := moved
  refine wp_after moved.moves ?_
  refine (ensureAuthoritativeState_reads.of_eq.bind fun _ => Along.get.bind fun _ => .check fun found => ?_) cached
  split
  · exact Along.pure _
  · refine acceptSubmission_moves free ?_ ⟨request.payload, prepares.requestedBy⟩
    rw [prepares.requestedBy.parent]
    exact direct.1

/-! Attempts -/

theorem placementQuestion_reads : Along Eq (placementQuestion host handle) := by
  refine ensureAuthoritativeState_reads.bind fun _ => Along.get.bind fun _ => .check fun _ =>
    .check fun _ => Along.ite (fun _ => Along.pure _) fun _ => ?_
  exact .check fun _ => .check fun _ => .check fun _ => Along.pure _

theorem retryQuestion_reads : Along Eq (retryQuestion host handle failedAttempt) := by
  refine ensureAuthoritativeState_reads.bind fun _ => Along.get.bind fun _ => .check fun _ =>
    .check fun _ => .check fun _ => .check fun _ => ?_
  exact .check fun _ => .check fun _ => .check fun _ => Along.pure _

theorem issueGrant_moves (free : Unobserved allowed) :
    Along (Moves allowed host.signer.publicKey) (issueGrant host job deployment issuedAtUnixMs deadlineUnixMs) := by
  intro home
  refine wp_reads ensureAuthoritativeState_reads (fun _ => ?_) fun _ => .refl
  refine wp_guard fun _ _ => wp_guard fun _ _ =>
    wp_guard fun _ _ => ?_
  rw [wp_bind, wp_get]
  refine wp_guard fun record found => wp_guard fun _ ready =>
    wp_guard fun route _ => wp_guard fun _ _ =>
    wp_guard fun grant signed => ?_
  obtain ⟨-, -, content⟩ := SignedRecord.sign_eq_ok (mapError_eq_ok.mp signed)
  refine wp_signEventWithReceipt (fun event payload => ?_) fun _ => .refl
  have other : ∀ spec, event.payload.kind ≠ .submitted spec := by
    rw [payload]
    exact fun _ => nofun
  refine wp_returning (wp_persistAndApply_moves .refl
    (.dispatch ⟨⟨record, deployment, ?_, ready, ?_, ?_⟩, ?_, ?_, ?_, ?_⟩) (free _ _ rfl (.of_other rfl other)))
  · rw [content]
    exact findJob_eq_ok found
  · rw [payload]
    rfl
  · rw [content]
    rfl
  · rw [content]
    rfl
  · rw [payload, content]
    rfl
  · rw [payload]
    rfl
  · rw [payload]
    rfl

theorem applyPlacementDecision_moves (free : Unobserved allowed) :
    Along (Moves allowed host.signer.publicKey) (applyPlacementDecision host decision) := by
  refine ensureAuthoritativeState_reads.of_eq.bind fun _ => .check fun _ => .check fun _ =>
    placementQuestion_reads.of_eq.bind fun _ => .check fun _ => .check fun _ =>
    .check fun _ => Along.get.bind fun _ => .check fun _ => .check fun _ =>
    .check fun _ => .check fun _ => ?_
  split
  · exact Along.pure _
  · exact issueGrant_moves free

omit [Crypto] in
/-- What the next event of a Job must be to continue it. -/
theorem continues_of_payload
    (payload : event = home.nextEvent snapshot.spec.handle stateAfter cancelRequested occurredAtUnixMs kind none)
    (other : ∀ spec, kind ≠ .submitted spec)
    (current : ∀ attempt ∈ JobEventKind.makesCurrent kind, snapshot.currentAttempt = some attempt)
    (carries : snapshot.cancelRequested = true → cancelRequested = true)
    (accepts : ∀ request attempt, kind = .controlRequested request attempt →
      isCancel request.payload.kind = true → cancelRequested = true)
    (steady : inFlight snapshot.state = true ∨ inFlight stateAfter = true → stateAfter = snapshot.state) :
    Continues snapshot event := by
  subst payload
  exact ⟨rfl, other, current, carries, accepts, steady⟩

theorem scheduleRetry_moves (free : Unobserved allowed) {job : JobRecord}
    (found : home.state.jobs.get? jobId = some job)
    (pending : job.snapshot.state = .retryPending) :
    AlongFrom (Moves allowed host.signer.publicKey) (scheduleRetry host job nextAttempt notBeforeUnixMs) home := by
  rw [AlongFrom, scheduleRetry, wp_ite]
  refine ⟨fun _ => .refl, fun _ => ?_⟩
  refine wp_signEventWithReceipt (fun event payload => ?_) fun _ => .refl
  have continues : Continues job.snapshot event.payload :=
    continues_of_payload payload (fun _ => nofun) (fun _ => nofun) id (fun _ _ => nofun) fun _ => pending.symm
  exact wp_persistAndApply_moves .refl (.continuation found continues) (free _ _ rfl (.of_other rfl continues.kind))

theorem retryAttempt_moves (free : Unobserved allowed) : Along (Moves allowed host.signer.publicKey)
      (retryAttempt host jobId failedAttempt nextAttempt deployment notBeforeUnixMs) := by
  intro home
  rw [retryAttempt, wp_bind, wp_get]
  refine wp_guard fun _ _ => ?_
  refine wp_reads ensureAuthoritativeState_reads (fun _ => ?_) fun _ => .refl
  refine wp_guard fun job found => wp_guard fun _ _ => ?_
  split
  · exact .refl
  refine wp_guard fun _ pending => wp_guard fun _ _ =>
    wp_guard fun _ _ => ?_
  rw [reject_eq_ok, not_not] at pending
  refine wp_then (scheduleRetry_moves free (findJob_eq_ok found) pending)
    (fun _ scheduled moved => ?_)
  exact wp_seq (issueGrant_moves free scheduled)
    (fun _ _ later => moved.trans later) fun _ _ later => moved.trans later

omit [Crypto] in
/-- Ending a Job by policy names at most its current attempt. -/
theorem stopEvent_eq_ok (stopped : stopEvent snapshot reason state = .ok kind) :
    (∀ spec, kind ≠ .submitted spec) ∧ (∀ request attempt, kind ≠ .controlRequested request attempt) ∧
      (∀ attempt ∈ JobEventKind.makesCurrent kind, snapshot.currentAttempt = some attempt) ∧ inFlight state = false := by
  cases state with
  | failed | cancelled =>
    obtain ⟨⟩ := stopped
    exact ⟨by simp, by simp, by simp [JobEventKind.makesCurrent], rfl⟩
  | indeterminate =>
    simp only [stopEvent, bind_eq_ok, orError_eq_ok, pure_eq_ok] at stopped
    obtain ⟨attempt, current, rfl⟩ := stopped
    refine ⟨by simp, by simp, fun made same => ?_, rfl⟩
    obtain ⟨⟩ := same
    exact current
  | _ => cases stopped

theorem stopRetry_moves (free : Unobserved allowed) :
    Along (Moves allowed host.signer.publicKey) (stopRetry host jobId failedAttempt terminalState reason) := by
  intro home
  refine wp_reads ensureAuthoritativeState_reads (fun _ => ?_) fun _ => .refl
  rw [wp_bind, wp_get]
  refine wp_guard fun job found => ?_
  rw [wp_ite]
  refine ⟨fun _ => .refl, fun _ => wp_guard fun _ pending => wp_guard fun _ _ =>
    wp_guard fun kind stopped => ?_⟩
  rw [reject_eq_ok, not_not] at pending
  obtain ⟨other, uncontrolled, current, ended⟩ := stopEvent_eq_ok stopped
  refine wp_signEventWithReceipt (fun event payload => ?_) fun _ => .refl
  have continues : Continues job.snapshot event.payload := by
    refine continues_of_payload payload other current id (fun request attempt same => absurd same (uncontrolled _ _)) ?_
    rw [pending, ended]
    simp [inFlight]
  exact wp_returning (wp_persistAndApply_moves .refl (.continuation (findJob_eq_ok found) continues)
    (free _ _ rfl (.of_other rfl continues.kind)))

theorem applyRetryDecision_moves (free : Unobserved allowed) :
    Along (Moves allowed host.signer.publicKey) (applyRetryDecision host decision) := by
  refine ensureAuthoritativeState_reads.of_eq.bind fun _ => .check fun _ => .check fun _ =>
    Along.get.bind fun _ => .check fun _ => retryQuestion_reads.of_eq.bind fun _ =>
    .check fun _ => .check fun _ => ?_
  split
  · exact retryAttempt_moves free
  · exact stopRetry_moves free

/-! Executor receipts -/

/-- The classification of a receipt reads the values it names and gives its outcome. -/
theorem wp_classifyReceipt (refused : ∀ error after, CacheOnly home after → failure error after)
    (classified : ∀ after, CacheOnly home after → success (receiptOutcome snapshot highest receipt) after) :
    wp (classifyReceipt host snapshot highest receipt) success failure home := by
  rw [classifyReceipt, wp_ite]
  refine ⟨fun late => ?_, fun early => ?_⟩
  · refine wp_along requireReceiptValues_cacheOnly refused fun _ after cached => ?_
    have outcome := classified after cached
    rw [receiptOutcome, if_pos late] at outcome
    exact outcome
  · refine wp_along requireReceiptValues_cacheOnly refused fun _ after cached => ?_
    have outcome := classified after cached
    rw [receiptOutcome, if_neg early] at outcome
    split
    · exact wp_check (fun error _ => refused error after cached) fun _ _ => outcome
    · exact outcome

theorem applyNewReceipt_moves
    (admitted : ∀ record, record.receipt = some receipt → allowed home.state record) :
    AlongFrom (Moves allowed host.signer.publicKey) (applyNewReceipt host receipt) home := by
  rw [AlongFrom, applyNewReceipt, wp_bind, wp_get]
  refine wp_guard fun grant _ => wp_guard fun _ _ =>
    wp_guard fun _ _ => wp_guard fun job found =>
    wp_guard fun _ _ => ?_
  rw [wp_bind]
  refine wp_classifyReceipt (fun _ _ cached => cached.moves) fun cached moved => ?_
  have same : cached.state = home.state := by rw [moved]
  refine wp_signEventWithReceipt (fun event payload => ?_) fun _ => moved.moves
  refine wp_returning (wp_persistAndApply_moves moved.moves ?_ ?_)
  · rw [same]
    refine .observation (findJob_eq_ok found) ?_ ?_
    · rw [payload]
      rfl
    · rw [payload]
      rfl
  · rw [same]
    exact admitted _ rfl

/-- The only operation that appends a receipt, and it appends the one it is given. -/
theorem applyExecutorReceipt_moves
    (admitted : ∀ record, record.receipt = some receipt → allowed home.state record) :
    AlongFrom (Moves allowed host.signer.publicKey) (applyExecutorReceipt host receipt) home := by
  refine wp_reads ensureAuthoritativeState_reads (fun _ => ?_) fun _ => .refl
  refine wp_guard fun _ _ => ?_
  rw [wp_bind, wp_get]
  dsimp only
  split
  · rw [wp_ite]
    refine ⟨fun _ => wp_guard fun _ _ => .refl, fun _ => .refl⟩
  · exact applyNewReceipt_moves admitted

/-! Controls and children -/

/-- A control becomes an access update or a request, never anything that makes an attempt current. -/
theorem controlEvent_eq_ok (made : controlEvent snapshot request = .ok kind) :
    (∀ spec, kind ≠ .submitted spec) ∧ JobEventKind.makesCurrent kind = none ∧
      ∀ control attempt, kind = .controlRequested control attempt → control = request := by
  have requested : Except.ok (.controlRequested request snapshot.currentAttempt) = (.ok kind : Except HomeError _) →
      (∀ spec, kind ≠ .submitted spec) ∧ JobEventKind.makesCurrent kind = none ∧
        ∀ control attempt, kind = .controlRequested control attempt → control = request := by
    intro same
    obtain ⟨⟩ := same
    refine ⟨by simp, rfl, fun control attempt same => ?_⟩
    obtain ⟨⟩ := same
    rfl
  unfold controlEvent at made
  split at made
  · simp only [bind_eq_ok, pure_eq_ok] at made
    obtain ⟨access, _, rfl⟩ := made
    exact ⟨by simp, rfl, by simp⟩
  · exact requested made

omit [Crypto] in
/-- A control ends a Job that waits and leaves any other alone. -/
theorem controlState_steady {kind : JobControlKind}
    (flies : inFlight snapshot.state = true ∨ inFlight (controlState snapshot kind) = true) :
    controlState snapshot kind = snapshot.state := by
  unfold controlState at flies ⊢
  split
  · rename_i waits
    rw [if_pos waits] at flies
    rcases waits.2 with state | state | state <;> simp [state, inFlight] at flies
  · rfl

theorem acceptControl_moves (free : Unobserved allowed) (found : home.state.jobs.get? jobId = some job) :
    AlongFrom (Moves allowed host.signer.publicKey) (acceptControl host job request) home := by
  rw [AlongFrom, acceptControl, wp_bind, wp_get]
  refine wp_guard fun _ _ => wp_guard fun kind made => ?_
  obtain ⟨other, uncurrent, requested⟩ := controlEvent_eq_ok made
  refine wp_signEventWithReceipt (fun event payload => ?_) fun _ => .refl
  have continues : Continues job.snapshot event.payload := by
    refine continues_of_payload payload other ?_ ?_ ?_ controlState_steady
    · rw [uncurrent]
      exact fun _ => nofun
    · intro cancelled
      simp [cancelled]
    · intro control attempt same cancel
      rw [requested control attempt same] at cancel
      simp [cancel]
  exact wp_returning (wp_persistAndApply_moves .refl (.continuation found continues)
    (free _ _ rfl (.of_other rfl continues.kind)))

theorem requireSteerValue_cacheOnly {kind : JobControlKind} : Along CacheOnly (requireSteerValue host kind) := by
  cases kind with
  | steer value => exact requireValue_cacheOnly
  | _ => exact Along.pure ()

theorem controlJob_moves (free : Unobserved allowed) :
    Along (Moves allowed host.signer.publicKey) (controlJob host request) := by
  refine (Along.lift _).bind fun _ => (requireSteerValue_cacheOnly.mono fun _ _ => CacheOnly.moves).bind
    fun _ => (Along.lift _).bind fun _ => ensureAuthoritativeState_reads.of_eq.bind fun _ home => ?_
  rw [wp_bind, wp_get]
  refine wp_guard fun job found => wp_guard fun _ _ =>
    wp_guard fun _ _ => wp_guard fun _ _ => ?_
  split
  · exact ((Along.lift _).bind fun _ => Along.lift _) home
  · exact acceptControl_moves free (findJob_eq_ok found)

theorem spawnChild_moves (free : Unobserved allowed) (found : home.state.jobs.get? jobId = some parent)
    (requested : ∃ request, RequestedBy request spec) :
    AlongFrom (Moves allowed host.signer.publicKey) (spawnChild host request parent proposal spec) home := by
  rw [AlongFrom, spawnChild, wp_bind, wp_get]
  refine wp_guard fun _ _ => wp_guard fun _ absent =>
    wp_guard fun _ _ => ?_
  refine wp_signEventWithReceipt (fun parentEvent payload => ?_) fun _ => .refl
  refine wp_signEventWithReceipt (fun childEvent payload' => ?_) fun _ => .refl
  have sourced : Sourced ⟨none, none, [parentEvent, childEvent]⟩ := by
    refine ⟨fun _ _ same => (nomatch same), fun first second same => ?_⟩
    obtain ⟨⟩ := same
    refine ⟨?_, spec, congrArg JobEvent.kind payload', requested⟩
    rw [payload]
    rfl
  refine wp_returning (wp_persistAndApply_moves .refl (.spawn found ?_ (congrArg JobEvent.kind payload') ?_)
    (free _ _ rfl sourced))
  · exact continues_of_payload payload (fun _ => nofun) (fun _ => nofun) id (fun _ _ => nofun) fun _ => rfl
  · rw [payload']
    simpa [SortedMap.contains, FunctionHome.nextEvent] using reject_eq_ok.mp absent

/-- A child is what was asked for, under its parent's root. -/
theorem childSpec_eq_ok (inherited : childSpec parent prepared = .ok spec) :
    spec = { prepared.spec with root := parent.snapshot.spec.root } := by
  simp only [childSpec, bind_eq_ok, pure_eq_ok] at inherited
  obtain ⟨_, _, _, _, rfl⟩ := inherited
  rfl

theorem proposePrepared_moves (free : Unobserved allowed) (requested : ∃ request, RequestedBy request prepared.spec) :
    Along (Moves allowed host.signer.publicKey) (proposePrepared host request proposal prepared) := by
  refine (Along.lift _).bind fun _ => (Along.lift _).bind fun _ => (Along.lift _).bind fun _ =>
    ensureAuthoritativeState_reads.of_eq.bind fun _ home => ?_
  rw [wp_bind, wp_get]
  refine wp_guard fun parent controlled => wp_guard fun spec inherited =>
    wp_guard fun _ _ => wp_guard fun _ _ => ?_
  split
  · exact ((Along.lift _).bind fun _ => Along.pure _) home
  · have found : home.state.jobs.get? request.payload.handle.job = some parent := by
      simp only [controlledParent, bind_eq_ok, pure_eq_ok] at controlled
      obtain ⟨_, _, _, found, _, _, rfl⟩ := controlled
      exact findJob_eq_ok found
    refine spawnChild_moves free found ?_
    obtain ⟨submit, asked⟩ := requested
    rw [childSpec_eq_ok inherited]
    exact ⟨submit, asked.job, asked.home, asked.key, asked.hash, asked.parent⟩

theorem proposeChild_moves (free : Unobserved allowed) :
    Along (Moves allowed host.signer.publicKey) (proposeChild host request) := by
  refine .check fun _ => .check fun _ => .check fun _ =>
    .check fun _ => ensureAuthoritativeState_reads.of_eq.bind fun _ => Along.get.bind fun _ =>
    .check fun _ home => ?_
  refine wp_seq wp_prepareSubmissionSignedBy (fun prepared cached moved => ?_)
    fun _ _ cached => cached.moves
  obtain ⟨moved, prepares⟩ := moved
  refine wp_mono (proposePrepared_moves free ⟨_, prepares.requestedBy⟩ cached)
    (fun _ _ further => moved.moves.trans further) fun _ _ further => moved.moves.trans further

theorem control_moves (free : Unobserved allowed) :
    Along (Moves allowed host.signer.publicKey) (control host request) := by
  refine ensureAuthoritativeState_reads.of_eq.bind fun _ => ?_
  split
  · exact proposeChild_moves free
  · exact controlJob_moves free

end Operations

end

end Gawd.Home
