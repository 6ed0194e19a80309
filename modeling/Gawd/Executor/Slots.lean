import Gawd.Executor.Orderly

/-!
The slots that an executor keeps free for what it may still have to record.
-/

namespace Gawd.Executor

open Gawd.Logic Gawd.Wire Gawd.Journal

variable {control : ControlRecord}

theorem acknowledgedControls_eq_none {controls : SortedMap ControlKey ControlRecord}
    (absent : controls.get? key = none) :
    (acknowledgedControls controls receipt).get? key = none := by
  unfold acknowledgedControls
  split
  · split
    · rename_i other _ control held
      rw [SortedMap.get?_insert_of_ne _ _ (fun same => by rw [same, held] at absent; cases absent)]
      exact absent
    · exact absent
  · exact absent

section

variable [Crypto] {identity : Text} {caps : JournalCaps} {maxAttempts maxDeployments : Nat}
  {rule : ExecutorLedgerRecord → Prop} {ledger : List ExecutorLedgerRecord} {state : ExecutorState}

/-- The executor is opened under these caps, and counts its records in a machine word. -/
structure Capped (caps : JournalCaps) (maxAttempts maxDeployments : Nat) (config : ExecutorConfig) : Prop where
  journal : config.journalCaps = caps
  attempts : config.maxAttempts = maxAttempts
  deployments : config.maxDeployments = maxDeployments
  machine : caps.maxRecords < 2 ^ 64

/-- Every process is opened under the same caps, and no claim is recorded by hand. -/
def capped (identity : Text) (caps : JournalCaps) (maxAttempts maxDeployments : Nat) : Regime identity where
  rule := Ordinary
  place := Capped caps maxAttempts maxDeployments
  faulty := False
  lenient := lenient_ordinary
  seated _ _ seat here := ⟨(congrArg ExecutorConfig.journalCaps seat).trans here.journal,
    (congrArg ExecutorConfig.maxAttempts seat).trans here.attempts,
    (congrArg ExecutorConfig.maxDeployments seat).trans here.deployments, here.machine⟩
  machine _ here := here.journal ▸ here.machine
  misfiles _ _ _ grown misfiled := grown.not_misfiled misfiled

/-- A record may bring in an attempt that was not there, and otherwise leaves the number of attempts as it was. -/
theorem NextState.size_attempts (next : NextState state record after) :
    after.attempts.size = state.attempts.size ∨
      ∃ grant receipt, (record = .claim grant receipt ∨ record = .refuse grant receipt) ∧
        after.attempts.size ≤ state.attempts.size + 1 := by
  have more : ∀ (key : AttemptId) (attempt : AttemptRecord),
      (state.attempts.insert key attempt).size ≤ state.attempts.size + 1 := by
    intro key attempt
    have size := state.attempts.size_insert key attempt
    omega
  have same : ∀ {key : AttemptId} {earlier : AttemptRecord} (attempt : AttemptRecord),
      state.attempts.get? key = some earlier → (state.attempts.insert key attempt).size = state.attempts.size := by
    intro key earlier attempt found
    have size := state.attempts.size_insert key attempt
    rw [found] at size
    exact Nat.succ.inj size
  cases next with
  | @claim grant receipt => exact .inr ⟨grant, receipt, .inl rfl, more _ _⟩
  | @refuse grant receipt => exact .inr ⟨grant, receipt, .inr rfl, more _ _⟩
  | queue _ _ found | receive found => exact .inl (same _ found)
  | _ => exact .inl rfl

/-- The same for deployments. -/
theorem NextState.size_deployments (next : NextState state record after) :
    after.deployments.size ≤ state.deployments.size ∨
      ∃ request receipt, record = .register request receipt ∧ after.deployments.size ≤ state.deployments.size + 1 := by
  cases next with
  | @register request receipt =>
    have size := state.deployments.size_insert receipt.payload.deployment receipt
    exact .inr ⟨request, receipt, rfl, (Nat.le_add_right _ _).trans size.le⟩
  | @undeploy request deployment => exact .inl (state.deployments.size_erase_le deployment)
  | _ => exact .inl (Nat.le_refl _)

/-- Attempts and deployments stay within their caps. -/
theorem Grown.sizes (grown : Grown rule (Capped caps maxAttempts maxDeployments) identity ledger state) :
    state.attempts.size ≤ maxAttempts ∧ state.deployments.size ≤ maxDeployments := by
  induction grown with
  | nil => exact ⟨Nat.zero_le _, Nat.zero_le _⟩
  | @snoc ledger state record config reserve _ taken ih =>
    obtain ⟨attempts, deployments⟩ := ih
    obtain ⟨-, here, -, -, produced, -, -, -⟩ := taken
    constructor
    · rcases (nextState state record).size_attempts with same | ⟨grant, receipt, rfl | rfl, more⟩
      · exact same.trans_le attempts
      · cases produced with
        | claim admissible => exact more.trans (here.attempts ▸ admissible.room)
      · cases produced with
        | refuse admissible => exact more.trans (here.attempts ▸ admissible.room)
    · rcases (nextState state record).size_deployments with fewer | ⟨request, receipt, rfl, more⟩
      · exact fewer.trans deployments
      · cases produced with
        | register _ _ free => exact more.trans (here.deployments ▸ free)

/-- No record makes the executor forget an attempt. -/
theorem NextState.known (next : NextState state record after) (known : (state.attempts.get? key).isSome = true) :
    (after.attempts.get? key).isSome = true := by
  have insert : ∀ (other : AttemptId) (attempt : AttemptRecord),
      ((state.attempts.insert other attempt).get? key).isSome = true := by
    intro other attempt
    rw [SortedMap.get?_insert]
    split
    · rfl
    · exact known
  cases next with
  | claim | refuse | queue | receive => exact insert _ _
  | _ => exact known

variable {key : ControlKey}

/-- A control that was not there before belongs to an attempt that is. -/
theorem NextState.controlled (next : NextState state record after) (absent : state.controls.get? key = none)
    (queued : after.controls.get? key = some control) : (after.attempts.get? key.attempt).isSome = true := by
  have unchanged : ∀ {goal : Prop}, state.controls.get? key = some control → goal := by
    intro goal same
    rw [absent] at same
    cases same
  cases next with
  | requeue held =>
    rw [ExecutorState.reendorsing, SortedMap.get?_insert_of_ne] at queued
    · exact unchanged queued
    · rintro rfl
      rw [absent] at held
      cases held
  | queue _ own found =>
    rw [ExecutorState.queueing, SortedMap.get?_insert] at queued
    split at queued
    · rename_i same
      rw [same, own, ExecutorState.queueing, SortedMap.get?_insert_self]
      rfl
    · exact unchanged queued
  | @receive _ receipt =>
    rw [ExecutorState.receiving, acknowledgedControls_eq_none absent] at queued
    cases queued
  | _ => exact unchanged queued

/-- The attempt of a queued control is retained. -/
theorem Grown.controlled {place : ExecutorConfig → Prop} (grown : Grown rule place identity ledger state)
    (queued : state.controls.get? key = some control) : (state.attempts.get? key.attempt).isSome = true := by
  induction grown generalizing control with
  | nil => cases queued
  | @snoc ledger state record config reserve _ _ ih =>
    cases earlier : state.controls.get? key with
    | some old => exact (nextState state record).known (ih earlier)
    | none => exact (nextState state record).controlled earlier queued

section

variable {executor : FunctionExecutor}
  (backs : Backs (capped identity caps maxAttempts maxDeployments) executor ledger)

include backs

/-- The room that a process has under caps that stay the same. -/
theorem Backs.room :
    executor.journal.caps = caps ∧ executor.state.reserved + executor.journal.records.length ≤ caps.maxRecords := by
  have events : executor.journal.events = ledger := backs.held.events.resolve_right fun faulty => faulty.1
  have kept := backs.held.grown.reserved fun _ here => here.journal
  rw [← events, length_events] at kept
  exact ⟨backs.caps.trans backs.place.journal, kept⟩

theorem Backs.not_strained : ¬ Strained executor := by
  obtain ⟨same, kept⟩ := backs.room
  obtain ⟨attempts, deployments⟩ := backs.held.grown.sizes
  have fewer : durableRecordReservations executor.state ≤ executor.state.reserved := Nat.min_le_left _ _
  rintro (short | many | many)
  · rw [same] at short
    omega
  · rw [backs.place.attempts] at many
    omega
  · rw [backs.place.deployments] at many
    omega

end

/-- A stage that gives back a slot: the end of an attempt that is still open, or the acknowledgment that a queued control
waits for. -/
inductive Releases (state : ExecutorState) (attempt : AttemptId) : ExecutionStage → Prop where
  | ends : state.attempts.get? attempt = some record → record.terminal = false → stageTerminal stage = true →
      Releases state attempt stage
  | acknowledges : state.controls.get? ⟨attempt, name⟩ = some queued → queued.acknowledged = none →
      Releases state attempt (.controlAcknowledged name disposition detail)

/-- Nothing stands in the way of a stage that gives back a slot. -/
theorem Releases.due (releases : Releases state attempt stage) (grown : Grown rule place identity ledger state) :
    ∃ record, state.attempts.get? attempt = some record ∧ earlierRecord state attempt record stage = .ok none ∧
      afterTerminal record stage = .ok none ∧ stage ≠ .claimed ∧ 0 < consumedReservations state attempt record stage ∧
      0 < state.reserved := by
  cases releases with
  | @ends record stage found running terminal =>
    refine ⟨record, found, ?_, ?_, ?_, ?_, ?_⟩
    · cases stage <;> first | rfl | cases terminal
    · simp [afterTerminal, running]
    · rintro rfl
      cases terminal
    · simp [consumedReservations, running, terminal]
    · have some : 0 < state.nonterminalAttempts := by
        rw [grown.settled.counted.attempts]
        exact SortedMap.count_pos found (by simp [running])
      exact Nat.add_pos_left some _
  | @acknowledges name queued disposition detail held waiting =>
    obtain ⟨record, found⟩ := Option.isSome_iff_exists.mp (grown.controlled held)
    have pending : isPendingControl state (some ⟨attempt, name⟩) = true := by
      simp [isPendingControl, held, waiting]
    refine ⟨record, found, ?_, ?_, by simp, ?_, ?_⟩
    · simp [earlierRecord, earlierAcknowledgment, held, waiting, orError]
    · simp [afterTerminal, isControlAcknowledged]
    · simp [consumedReservations, pending]
    · have some : 0 < state.unacknowledgedControls := by
        rw [grown.settled.counted.controls]
        exact SortedMap.count_pos held (by simp [waiting])
      exact Nat.add_pos_right _ some

/-- What a process signs for a stage of an attempt. -/
def stageReceipt (executor : FunctionExecutor) (record : AttemptRecord) (observedAtUnixMs : Option Nat)
    (stage : ExecutionStage) : ExecutionReceipt :=
  ⟨record.grant.payload.attempt, canonicalHash record.grant, executor.config.executor, record.receipts.length + 1,
    observedAtUnixMs, stage⟩

/-- The receipt of a stage can be signed, fits the byte caps, and its append is durable. -/
structure Recordable (host : Host) (executor : FunctionExecutor) (record : AttemptRecord) (observedAtUnixMs : Option Nat)
    (stage : ExecutionStage) (receipt : SignedRecord ExecutionReceipt) : Prop where
  healthy : executor.journal.healthy = true
  wellFormed : validate stage = .ok ()
  payload : validate (stageReceipt executor record observedAtUnixMs stage) = .ok ()
  signed : SignedRecord.sign .execute (stageReceipt executor record observedAtUnixMs stage) host.signer = .ok receipt
  accepted : validateRecord executor.config host.signer.publicKey (.receipt receipt) = .ok ()
  entry : executor.journal.Signable (.receipt receipt) host.signer
  durable : host.fate executor.clock = .durable

variable {host : Host} {executor : FunctionExecutor} {attempt : AttemptId} {stage : ExecutionStage}
  {observedAtUnixMs : Option Nat}

theorem ensureOperational_afforded :
    wp ensureOperational (fun _ after => executor = after) (fun error after => executor = after ∧ Afforded after error)
      executor := by
  unfold ensureOperational
  rw [wp_bind, wp_get, wp_lift]
  refine ⟨fun _ _ => rfl, fun error sick => ⟨rfl, ?_⟩⟩
  obtain ⟨_, failed, rfl⟩ := mapError_eq_error.mp sick
  obtain ⟨_, rfl⟩ := reject_eq_error.mp failed
  exact afforded_of_uncertain rfl

theorem signReceipt_afforded {grant : SignedRecord ExecutionGrant} {sequence : Nat} :
    wp (signReceipt host grant sequence observedAtUnixMs stage) (fun _ _ => True)
      (fun error after => Afforded after error) executor := by
  unfold signReceipt
  refine wp_seq ensureOperational_afforded ?_ fun _ _ failed => failed.2
  rintro _ _ rfl
  rw [wp_bind, wp_get]
  refine wp_check (fun _ invalid => ?_) fun _ _ => ?_
  · obtain ⟨_, _, rfl⟩ := mapError_eq_error.mp invalid
    exact afforded_of_ne (by simp) (by simp)
  rw [wp_lift]
  refine ⟨fun _ _ => trivial, fun error unsigned => ?_⟩
  obtain ⟨_, _, rfl⟩ := mapError_eq_error.mp unsigned
  exact afforded_of_ne (by simp) (by simp)

/-- A stage that gives back a slot is never refused for want of one. -/
theorem Backs.releases (backs : Backs (capped identity caps maxAttempts maxDeployments) executor ledger)
    (signs : host.signer.publicKey = identity) (releases : Releases executor.state attempt stage) :
    wp (recordStage host attempt stage observedAtUnixMs) (fun _ _ => True) (fun error after => Afforded after error)
      executor := by
  obtain ⟨record, found, unanswered, running, other, consumed, positive⟩ := releases.due backs.held.grown
  obtain ⟨same, kept⟩ := backs.room
  unfold recordStage
  refine wp_seq ensureOperational_afforded ?_ fun _ _ failed => failed.2
  rintro _ _ rfl
  refine wp_check (fun _ invalid => ?_) fun _ _ => ?_
  · obtain ⟨_, _, rfl⟩ := mapError_eq_error.mp invalid
    exact afforded_of_ne (by simp) (by simp)
  rw [wp_bind, wp_get]
  refine wp_pass (orError_eq_ok.mpr found) (wp_pass unanswered ?_)
  dsimp only
  refine wp_pass running ?_
  dsimp only
  have fewer : durableRecordReservations executor.state ≤ executor.state.reserved := Nat.min_le_left _ _
  refine wp_seq wp_ensureAppendCapacity_cases ?_ ?_
  · rintro _ _ ⟨rfl, room⟩
    refine wp_seq (wp_and wp_signReceipt signReceipt_afforded) ?_
      fun _ _ failed => failed.2
    rintro receipt _ ⟨⟨rfl, named, next, rfl, hash⟩, -⟩
    have ruled : Ordinary (.receipt receipt) := ordinary_of_stage other
    exact wp_seq (backs.commits signs (.stage found ⟨named, hash⟩ next unanswered running) room ruled
      (backs.held.grown.not_misfiled)) (fun _ _ _ => trivial) fun _ _ failed => failed.2
  · rintro error _ ⟨rfl, uncertain | short⟩
    · exact afforded_of_uncertain uncertain
    · rw [same] at short
      omega

omit [Crypto] in
theorem ensureOperational_of_healthy (healthy : executor.journal.healthy = true) :
    ensureOperational executor = .ok () executor := by
  rw [run_eq_ok, ensureOperational, wp_bind, wp_get, wp_lift]
  have passes : mapError ExecutorError.journal executor.journal.ensureHealthy = .ok () :=
    mapError_eq_ok.mpr (reject_of_not (by simp [healthy]))
  rw [passes]
  exact ⟨fun _ _ => ⟨rfl, rfl⟩, nofun⟩

omit [Crypto] in
theorem ensureAppendCapacity_of_room (healthy : executor.journal.healthy = true)
    (room : reserve < executor.journal.caps.maxRecords - executor.journal.records.length) :
    ensureAppendCapacity reserve executor = .ok () executor := by
  have remaining : mapError ExecutorError.journal executor.journal.remainingRecords =
      .ok (executor.journal.caps.maxRecords - executor.journal.records.length) := by
    simp [SignedJournal.remainingRecords, SignedJournal.ensureHealthy, healthy, reject]
  rw [run_eq_ok, ensureAppendCapacity, wp_bind, wp_get]
  refine wp_pass remaining ?_
  rw [reject_of_not (Nat.not_le.mpr room)]
  exact ⟨rfl, rfl⟩

/-- A record that the ledger takes is committed as soon as its entry can be signed and made durable. -/
theorem Backs.commits_durable {regime : Regime identity} (backs : Backs regime executor ledger)
    (signs : host.signer.publicKey = identity) (produced : Produced executor.config executor.state record reserve)
    (room : reserve < executor.journal.caps.maxRecords - executor.journal.records.length)
    (ruled : regime.rule record) (filed : ¬ Misfiled executor.state record)
    (healthy : executor.journal.healthy = true)
    (accepted : validateRecord executor.config host.signer.publicKey record = .ok ())
    (entry : executor.journal.Signable record host.signer) (durable : host.fate executor.clock = .durable) :
    wp (commit host record) (fun _ after => after.state = executor.state.next record) (fun _ _ => False) executor := by
  subst signs
  have filing : Filing regime.rule host.signer.publicKey executor record := ⟨⟨reserve, produced, room⟩, accepted, ruled⟩
  rcases backs.filing filing with misfiled | ⟨_, taken⟩
  · exact absurd misfiled filed
  have applied := taken.applies backs.held.grown.settled
  unfold commit
  rw [wp_bind, wp_get]
  refine wp_pass accepted ?_
  rw [wp_bind, wp_tick, durable, wp_bind, wp_zoom]
  refine SignedJournal.wp_append_durable healthy ?_ entry fun _ _ _ _ => ?_
  · exact Nat.lt_of_sub_pos (Nat.zero_lt_of_lt room)
  · rw [inState, wp_zoom]
    refine wp_intro (fun _ after run => ?_) fun _ _ run => ?_
    · rw [applied] at run
      exact (EStateM.Result.ok.inj run).2.symm
    · rw [applied] at run
      cases run

/-- A stage that gives back a slot is recorded as soon as its receipt can be signed and made durable. -/
theorem Backs.records (backs : Backs (capped identity caps maxAttempts maxDeployments) executor ledger)
    (signs : host.signer.publicKey = identity) (releases : Releases executor.state attempt stage)
    (found : executor.state.attempts.get? attempt = some record)
    (recordable : Recordable host executor record observedAtUnixMs stage receipt) :
    ∃ after, recordStage host attempt stage observedAtUnixMs executor = .ok (.recorded receipt) after := by
  obtain ⟨due, again, unanswered, running, other, consumed, positive⟩ := releases.due backs.held.grown
  obtain rfl : due = record := Option.some.inj (again.symm.trans found)
  obtain ⟨same, kept⟩ := backs.room
  obtain ⟨-, -, payload⟩ := SignedRecord.sign_eq_ok recordable.signed
  have stages : receipt.payload.stage = stage := by rw [payload]; rfl
  have room : durableRecordReservations executor.state - consumedReservations executor.state attempt due stage <
      executor.journal.caps.maxRecords - executor.journal.records.length := by
    have fewer : durableRecordReservations executor.state ≤ executor.state.reserved := Nat.min_le_left _ _
    rw [same]
    omega
  have produced : Produced executor.config executor.state (.receipt receipt) _ :=
    .stage found ⟨by rw [payload]; rfl, by rw [payload]; rfl⟩ (by rw [payload]; rfl) (stages ▸ unanswered) (stages ▸ running)
  rw [stages] at produced
  have signed : signReceipt host due.grant (due.receipts.length + 1) observedAtUnixMs stage executor =
      .ok receipt executor := by
    rw [run_eq_ok, signReceipt]
    refine wp_run (ensureOperational_of_healthy recordable.healthy) ?_
    rw [wp_bind, wp_get]
    refine wp_pass (mapError_eq_ok.mpr recordable.payload) ?_
    have made : ofSigning (SignedRecord.sign .execute (stageReceipt executor due observedAtUnixMs stage) host.signer) =
        .ok receipt := mapError_eq_ok.mpr recordable.signed
    rw [wp_lift]
    refine ⟨fun _ done => ⟨?_, rfl⟩, fun _ failed => ?_⟩
    · exact Except.ok.inj (done.symm.trans made)
    · cases failed.symm.trans made
  have spec : wp (recordStage host attempt stage observedAtUnixMs) (fun outcome _ => outcome = .recorded receipt)
      (fun _ _ => False) executor := by
    unfold recordStage
    refine wp_run (ensureOperational_of_healthy recordable.healthy) ?_
    refine wp_pass (mapError_eq_ok.mpr recordable.wellFormed) ?_
    rw [wp_bind, wp_get]
    refine wp_pass (orError_eq_ok.mpr found) (wp_pass unanswered ?_)
    dsimp only
    refine wp_pass running ?_
    dsimp only
    refine wp_run (ensureAppendCapacity_of_room recordable.healthy room) (wp_run signed ?_)
    refine wp_seq (backs.commits_durable signs produced room (ordinary_of_stage (stages ▸ other))
      backs.held.grown.not_misfiled recordable.healthy recordable.accepted recordable.entry recordable.durable) ?_
      fun _ _ => id
    exact fun _ _ _ => rfl
  obtain ⟨_, after, run, rfl⟩ := exists_of_wp spec
  exact ⟨after, run⟩

/-! Reopening under the same caps. -/

theorem applyRecord_of_valid (one : validateRecord config identity record = .ok ())
    (two : validateRecord other identity record = .ok ()) :
    applyRecord config identity record = applyRecord other identity record := by
  unfold applyRecord
  rw [one, two]

theorem applyRecord_of_invalid (invalid : validateRecord config identity record = .error error) :
    applyRecord config identity record state = .error error state := by
  unfold applyRecord
  rw [invalid]
  rfl

/-- A grown ledger that does not replay under another configuration is refused for what its records say. -/
theorem Grown.replay_afforded (grown : Grown rule place identity ledger state) (config : ExecutorConfig)
    (executor : FunctionExecutor) :
    wp (replay config identity ledger) (fun _ after => after = state) (fun error _ => Afforded executor error)
      .initial := by
  induction grown with
  | nil => rfl
  | @snoc ledger state record filer reserve grown taken ih =>
    have applied := taken.applies grown.settled
    rw [replay_append]
    refine wp_then ih ?_
    rintro _ _ rfl
    unfold replay
    cases here : validateRecord config identity record with
    | error problem =>
      rw [wp_bind]
      refine wp_intro (fun _ _ run => ?_) fun error _ run => ?_
      · rw [applyRecord_of_invalid here] at run
        cases run
      · rw [applyRecord_of_invalid here] at run
        obtain ⟨⟩ := run
        exact validateRecord_afforded here
    | ok =>
      rw [applyRecord_of_valid here taken.valid]
      exact wp_run applied rfl

/-- Reopening under the same caps never fails for want of a slot. -/
theorem Rests.recovers_afforded {config : ExecutorConfig} {files : Files ExecutorLedgerRecord}
    (held : Rests (capped identity caps maxAttempts maxDeployments) (eventsOf files.records) ledger state)
    (own : config.executor = identity) (here : Capped caps maxAttempts maxDeployments config)
    (opened : openJournal config host fault files = .ok first) :
    wp (recoverState host) (fun _ _ => True) (fun error after => Afforded after error) first := by
  have signs : host.signer.publicKey = identity := (openJournal_caps opened).1.trans own
  obtain ⟨configured, initial, records, _⟩ := openJournal_eq_ok opened
  have events : first.journal.events = ledger := by
    rw [SignedJournal.events, records]
    exact held.events.resolve_right fun faulty => faulty.1
  unfold recoverState
  rw [wp_bind, wp_get, wp_bind, inState, wp_zoom, signs]
  refine wp_intro (fun _ replayed run => ?_) fun _ failed run => ?_
  · obtain ⟨_, backs⟩ := held.replayed own here opened run
    refine wp_mono (backs.settles signs) (fun _ _ _ => trivial) ?_
    rintro error after ⟨moves, afforded | strained⟩
    · exact afforded
    · obtain ⟨_, _, backs⟩ := backs.stirs moves.stirs
      exact absurd strained backs.not_strained
  · rw [events, initial] at run
    have refused := wp_error (held.grown.replay_afforded first.config { first with state := failed }) run
    exact refused

/-- In a run under the same caps in which no claim is recorded by hand, the counters are exact and never exceed the free
slots. So the end of an open attempt and the acknowledgment of a queued control are never refused for want of a slot,
and neither is a reopen. -/
theorem slots_kept {world : World}
    (reached : (capped identity caps maxAttempts maxDeployments).system.Reachable world) :
    (∀ executor, world.root = .up executor →
      executor.state.nonterminalAttempts = executor.state.attempts.count (fun record => !record.terminal) ∧
      executor.state.unacknowledgedControls = executor.state.controls.count (fun control => control.acknowledged.isNone) ∧
      executor.state.nonterminalAttempts + executor.state.unacknowledgedControls ≤
        executor.journal.caps.maxRecords - executor.journal.records.length ∧
      ∀ host attempt stage observedAtUnixMs, host.signer.publicKey = identity → Releases executor.state attempt stage →
        (∀ error after, recordStage host attempt stage observedAtUnixMs executor = .error error after →
          Afforded after error) ∧
        ∀ record receipt, executor.state.attempts.get? attempt = some record →
          Recordable host executor record observedAtUnixMs stage receipt →
          ∃ after, recordStage host attempt stage observedAtUnixMs executor = .ok (.recorded receipt) after) ∧
    ∀ config host fault first error after, config.executor = identity → Capped caps maxAttempts maxDeployments config →
      openJournal config host fault world.root.files = .ok first → recoverState host first = .error error after →
      Afforded after error := by
  obtain ⟨ledger, state, rests⟩ := rests_of_reachable reached
  refine ⟨fun executor isUp => ?_, fun config host fault first error after own here opened failed => ?_⟩
  · rw [isUp] at rests
    obtain ⟨rfl, backs⟩ := rests
    obtain ⟨same, kept⟩ := backs.room
    have counted := backs.held.grown.settled.counted
    refine ⟨counted.attempts, counted.controls, ?_, fun host attempt stage observedAtUnixMs signs releases => ⟨?_, ?_⟩⟩
    · unfold ExecutorState.reserved at kept
      rw [same]
      omega
    · intro error after failed
      have afforded := wp_error (backs.releases signs releases) failed
      exact afforded
    · exact fun record receipt found recordable => backs.records signs releases found recordable
  · obtain ⟨longer, final, _, held⟩ := rests.onDisk
    have afforded := wp_error (held.recovers_afforded own here opened) failed
    exact afforded

end

namespace Sample

open Gawd.Wire.Sample

attribute [local instance] Wire.Sample.crypto

/-- Just enough records to register, claim, start and end one attempt, and for one more. -/
def tightConfig : ExecutorConfig := { config with journalCaps := ⟨5, 4096⟩ }

/-- The target has gone. -/
def deadHost : Host := { host with targetIsLive := fun _ _ _ => .ok false }

/-- Claim and start, record the claim once more by hand, and deliver the grant again when its target has gone. -/
def untilRefusedAgain : List Label :=
  [.reopen tightConfig host none, .operate host (.bind 5), deliver (.register registration),
    deliver (.grant (grant 1 .atMostOnce)), .operate host (.recordStage (attempt 1) .claimed none),
    .operate deadHost (.claim (grant 1 .atMostOnce))]

/-- Open, register, claim and start, and queue a control. -/
def untilControlled : List Label :=
  [.reopen config host none, .operate host (.bind 5), deliver (.register registration),
    deliver (.grant (grant 1 .atMostOnce)), deliver (.control executionControl)]

theorem untilControlled_abides : ∀ label ∈ untilControlled, label.Abides (capped executorKey ⟨64, 4096⟩ 4 4) := by
  simp only [untilControlled, List.forall_mem_cons, deliver, Label.Abides, capped]
  exact ⟨⟨rfl, rfl, rfl, by decide⟩, trivial, trivial, trivial, trivial, by simp⟩

end Sample

open Sample Wire.Sample

attribute [local instance] Wire.Sample.crypto

/-- One attempt and one control, and the slots for both. -/
theorem slots_kept_controlled : ∃ world executor,
    (capped executorKey ⟨64, 4096⟩ 4 4).system.Reachable world ∧ world.root = .up executor ∧
      executor.state.nonterminalAttempts + executor.state.unacknowledgedControls = 2 ∧
      executor.state.nonterminalAttempts + executor.state.unacknowledgedControls ≤
        executor.journal.caps.maxRecords - executor.journal.records.length := by
  have run : endsWith untilControlled (fun executor =>
      executor.state.nonterminalAttempts + executor.state.unacknowledgedControls = 2) = true := by decide +kernel
  obtain ⟨world, executor, reached, isUp, tested⟩ := exists_of_abiding untilControlled_abides run
  obtain ⟨_, _, kept, _⟩ := (slots_kept reached).1 executor isUp
  exact ⟨world, executor, reached, isUp, tested, kept⟩

/-- A claim that was recorded a second time by hand uses up the slot that its attempt needs to end. -/
theorem claimed_again_takes_slot : ∃ world executor,
    (executorSystem executorKey).Reachable world ∧ world.root = .up executor ∧ executor.journal.healthy = true ∧
      executor.journal.caps.maxRecords - executor.journal.records.length <
        executor.state.nonterminalAttempts + executor.state.unacknowledgedControls ∧
      outcome (recordStage Sample.host (attempt 1) (.succeeded value) none executor) = .error .capacity :=
  exists_of_endsWith untilRefusedAgain (by decide +kernel)

end Gawd.Executor
