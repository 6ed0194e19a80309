import Gawd.Executor.Progress

/-!
What a ledger record does to the state of the executor, as one function, and that every record which the operations
append is taken by the ledger, unless it resumes an attempt whose claim was recorded again by hand.
-/

namespace Gawd.Executor

open Gawd.Logic Gawd.Wire Gawd.Journal

/-- The fences once a message has been seen that is not behind its own. -/
def advancedFences (fences : SortedMap HomeId HomeFence) (home : HomeId) (next : HomeFence) :
    SortedMap HomeId HomeFence :=
  if (fences.get? home).any fun fence => fence.covers next then fences else fences.insert home next

theorem advanceFence_of_valid (valid : validateFence state home noun routeNoun next = .ok ()) :
    advanceFence home noun routeNoun next state =
      .ok () { state with homeFences := advancedFences state.homeFences home next } := by
  rw [run_eq_ok, advanceFence, wp_bind, wp_get]
  refine wp_pass valid ?_
  unfold advancedFences
  cases held : state.homeFences.get? home with
  | none => exact ⟨rfl, rfl⟩
  | some fence =>
    simp only [Option.any_some]
    rw [wp_ite]
    refine ⟨fun covers => ?_, fun behind => ?_⟩
    · simp [covers]
    · simp [behind]

variable {value : Nat}

section

variable [Crypto]

/-- The state after the first receipt of an attempt. -/
def ExecutorState.taking (state : ExecutorState) (grant : SignedRecord ExecutionGrant)
    (receipt : SignedRecord ExecutionReceipt) : ExecutorState :=
  { state with
    homeFences := advancedFences state.homeFences grant.payload.owner (grantFence grant)
    nextReceiptRecoveryOrdinal := state.nextReceiptRecoveryOrdinal + 1
    nonterminalAttempts := state.nonterminalAttempts + (!stageTerminal receipt.payload.stage).toNat
    attempts := state.attempts.insert grant.payload.attempt
      (.first grant receipt (state.nextReceiptRecoveryOrdinal + 1)) }

/-- The state after a queued control was endorsed again. -/
def ExecutorState.reendorsing (state : ExecutorState) (request : SignedRecord ExecutionControl) (key : ControlKey)
    (existing : ControlRecord) : ExecutorState :=
  { state with
    homeFences := advancedFences state.homeFences request.payload.attempt.home (controlFence request)
    controls := state.controls.insert key { existing with requestHash := canonicalHash request, request := request } }

/-- The record of an attempt for which a control was queued. -/
def AttemptRecord.queueing (record : AttemptRecord) (receipt : SignedRecord ExecutionReceipt) (ordinal : Nat) :
    AttemptRecord :=
  { record with
    receipts := record.receipts ++ [receipt]
    controlCount := record.controlCount + 1
    receiptRecoveryOrdinals := record.receiptRecoveryOrdinals ++ [ordinal] }

/-- The record of an attempt with one more receipt. -/
def AttemptRecord.receiving (record : AttemptRecord) (receipt : SignedRecord ExecutionReceipt) (ordinal : Nat) :
    AttemptRecord :=
  { record.push receipt with receiptRecoveryOrdinals := record.receiptRecoveryOrdinals ++ [ordinal] }

/-- The state after a control was queued. -/
def ExecutorState.queueing (state : ExecutorState) (request : SignedRecord ExecutionControl)
    (receipt : SignedRecord ExecutionReceipt) (key : ControlKey) (record : AttemptRecord) : ExecutorState :=
  { state with
    homeFences := advancedFences state.homeFences request.payload.attempt.home (controlFence request)
    nextReceiptRecoveryOrdinal := state.nextReceiptRecoveryOrdinal + 1
    unacknowledgedControls := state.unacknowledgedControls + 1
    attempts := state.attempts.insert receipt.payload.attempt
      (record.queueing receipt (state.nextReceiptRecoveryOrdinal + 1))
    controls := state.controls.insert key ⟨canonicalHash request, request, receipt, none⟩ }

/-- The controls after a receipt that may acknowledge one of them. -/
def acknowledgedControls (controls : SortedMap ControlKey ControlRecord) (receipt : SignedRecord ExecutionReceipt) :
    SortedMap ControlKey ControlRecord :=
  match acknowledgedControl receipt with
  | some key =>
    match controls.get? key with
    | some control => controls.insert key { control with acknowledged := some receipt }
    | none => controls
  | none => controls

/-- The state after a later receipt of an attempt. -/
def ExecutorState.receiving (state : ExecutorState) (receipt : SignedRecord ExecutionReceipt) (record : AttemptRecord) :
    ExecutorState :=
  { state with
    nextReceiptRecoveryOrdinal := state.nextReceiptRecoveryOrdinal + 1
    nonterminalAttempts := state.nonterminalAttempts -
      (!record.terminal && stageTerminal receipt.payload.stage).toNat
    unacknowledgedControls := state.unacknowledgedControls -
      (isPendingControl state (acknowledgedControl receipt)).toNat
    attempts := state.attempts.insert receipt.payload.attempt
      (record.receiving receipt (state.nextReceiptRecoveryOrdinal + 1))
    controls := acknowledgedControls state.controls receipt }

/-- The state after a record that the ledger takes. -/
def ExecutorState.next (state : ExecutorState) : ExecutorLedgerRecord → ExecutorState
  | .register _ receipt => { state with deployments := state.deployments.insert receipt.payload.deployment receipt }
  | .undeploy _ deployment =>
    { state with
      deployments := state.deployments.erase deployment
      deploymentTombstones := deployment :: state.deploymentTombstones }
  | .claim grant receipt | .refuse grant receipt => state.taking grant receipt
  | .control request receipt =>
    let key : ControlKey := ⟨receipt.payload.attempt, request.payload.callerRequest.payload.control⟩
    match state.controls.get? key with
    | some existing => state.reendorsing request key existing
    | none => (state.attempts.get? receipt.payload.attempt).elim state (state.queueing request receipt key)
  | .homeFence query =>
    { state with
      homeFences := advancedFences state.homeFences query.payload.attempt.home (queryFence query) }
  | .receipt receipt => (state.attempts.get? receipt.payload.attempt).elim state (state.receiving receipt)

/-- What a record does to a state, case by case. A control or a receipt of an unknown attempt does nothing. -/
inductive NextState (state : ExecutorState) : ExecutorLedgerRecord → ExecutorState → Prop where
  | register : NextState state (.register request receipt) (state.next (.register request receipt))
  | undeploy : NextState state (.undeploy request deployment) (state.next (.undeploy request deployment))
  | fence : NextState state (.homeFence asked) (state.next (.homeFence asked))
  | claim : NextState state (.claim grant receipt) (state.taking grant receipt)
  | refuse : NextState state (.refuse grant receipt) (state.taking grant receipt)
  | requeue : state.controls.get? key = some existing →
      NextState state (.control request receipt) (state.reendorsing request key existing)
  | queue : state.controls.get? key = none → key.attempt = receipt.payload.attempt →
      state.attempts.get? receipt.payload.attempt = some attempt →
      NextState state (.control request receipt) (state.queueing request receipt key attempt)
  | receive : state.attempts.get? receipt.payload.attempt = some attempt →
      NextState state (.receipt receipt) (state.receiving receipt attempt)
  | unqueued : state.attempts.get? receipt.payload.attempt = none → NextState state (.control request receipt) state
  | unreceived : state.attempts.get? receipt.payload.attempt = none → NextState state (.receipt receipt) state

theorem nextState (state : ExecutorState) (record : ExecutorLedgerRecord) : NextState state record (state.next record) := by
  cases record with
  | register => exact .register
  | undeploy => exact .undeploy
  | homeFence => exact .fence
  | claim => exact .claim
  | refuse => exact .refuse
  | control request receipt =>
    unfold ExecutorState.next
    dsimp only
    split
    · exact .requeue (by assumption)
    · cases found : state.attempts.get? receipt.payload.attempt with
      | none => exact .unqueued found
      | some attempt => exact .queue (by assumption) rfl found
  | receipt receipt =>
    unfold ExecutorState.next
    dsimp only
    cases found : state.attempts.get? receipt.payload.attempt with
    | none => exact .unreceived found
    | some attempt => exact .receive found

/-- A grant whose first record may be appended: its attempt is not known yet, its deployment is registered exactly as
it pins it, and its Home is not fenced off. -/
structure Admissible (config : ExecutorConfig) (state : ExecutorState) (grant : SignedRecord ExecutionGrant) : Prop where
  absent : state.attempts.get? grant.payload.attempt = none
  registered : ∃ receipt, state.deployments.get? grant.payload.deployment.payload.deployment = some receipt ∧
    canonicalHash receipt = canonicalHash grant.payload.deployment
  unfenced : validateHomeFence state grant = .ok ()
  room : state.attempts.size < config.maxAttempts

/-- A receipt signed for the grant that a record retains. -/
structure Speaks (record : AttemptRecord) (receipt : SignedRecord ExecutionReceipt) : Prop where
  attempt : receipt.payload.attempt = record.grant.payload.attempt
  hash : receipt.payload.grantHash = canonicalHash record.grant

/-- What the operations know when they append a record, and the slots that they keep free behind it. -/
inductive Produced (config : ExecutorConfig) (state : ExecutorState) : ExecutorLedgerRecord → Nat → Prop where
  | register : receipt.payload.deployment ∉ state.deploymentTombstones →
      (∀ existing, state.deployments.get? receipt.payload.deployment = some existing →
        sameDeploymentBinding existing.payload receipt.payload = true) →
      state.deployments.size < config.maxDeployments →
      Produced config state (.register request receipt) (durableRecordReservations state)
  | undeploy : deployment ∉ state.deploymentTombstones → state.deployments.get? deployment = some receipt →
      (∀ attempt record, state.attempts.get? attempt = some record →
        record.grant.payload.deployment.payload.deployment = deployment → record.terminal = true) →
      Produced config state (.undeploy request deployment) (durableRecordReservations state)
  | claim : Admissible config state grant →
      Produced config state (.claim grant receipt) (saturatingAdd (durableRecordReservations state) 2)
  | refuse : Admissible config state grant →
      Produced config state (.refuse grant receipt) (durableRecordReservations state)
  | requeue : state.controls.get? ⟨request.payload.attempt, request.payload.callerRequest.payload.control⟩ = some existing →
      existing.requestHash ≠ canonicalHash request → sameControlIntent existing.request request = true →
      validateControlFence state request = .ok () →
      Produced config state (.control request existing.queued) (durableRecordReservations state)
  | queue : state.controls.get? ⟨request.payload.attempt, request.payload.callerRequest.payload.control⟩ = none →
      state.attempts.get? request.payload.attempt = some record → request.payload.grantHash = record.grantHash →
      request.payload.callerRequest.payload.handle.home = record.grant.payload.owner →
      record.controlCount < maxJobControls → record.terminal = false → validateControlFence state request = .ok () →
      Speaks record receipt → receipt.payload.sequence = record.receipts.length + 1 →
      Produced config state (.control request receipt) (saturatingAdd (durableRecordReservations state) 1)
  | fence : state.attempts.get? request.payload.attempt = some record → request.payload.grantHash = record.grantHash →
      request.payload.attempt.home = record.grant.payload.owner → validateQueryFence state request = .ok () →
      Produced config state (.homeFence request) (durableRecordReservations state)
  | stage : state.attempts.get? attempt = some record → Speaks record receipt →
      receipt.payload.sequence = record.receipts.length + 1 →
      earlierRecord state attempt record receipt.payload.stage = .ok none →
      afterTerminal record receipt.payload.stage = .ok none →
      Produced config state (.receipt receipt)
        (durableRecordReservations state - consumedReservations state attempt record receipt.payload.stage)
  | resume : state.attempts.get? receipt.payload.attempt = some record → record.terminal = false →
      (record.receipts.getLast?.map fun last => last.payload.stage) = some .claimed →
      receipt.payload.grantHash = record.grantHash → receipt.payload.sequence = 2 →
      receipt.payload.stage = .started ∨ stageTerminal receipt.payload.stage = true →
      Produced config state (.receipt receipt)
        (durableRecordReservations state - (stageTerminal receipt.payload.stage).toNat)

/-- A resumed claim that is not the only receipt of its attempt. The ledger does not take what resumes it. -/
def Misfiled (state : ExecutorState) : ExecutorLedgerRecord → Prop
  | .receipt receipt => receipt.payload.sequence = 2 ∧
      ∃ record, state.attempts.get? receipt.payload.attempt = some record ∧ record.receipts.length ≠ 1 ∧
        (record.receipts.getLast?.map fun last => last.payload.stage) = some .claimed
  | _ => False

/-- The counters are what they count. -/
structure Counted (state : ExecutorState) : Prop where
  attempts : state.nonterminalAttempts = state.attempts.count fun record => !record.terminal
  controls : state.unacknowledgedControls = state.controls.count fun control => control.acknowledged.isNone
  ordinals : ∀ attempt record, state.attempts.get? attempt = some record →
    record.receipts.length = record.receiptRecoveryOrdinals.length
  receipts : (state.attempts.values.map fun record => record.receipts.length).sum = state.nextReceiptRecoveryOrdinal

omit [Crypto] in
theorem validateReservationCounters_eq_ok : validateReservationCounters state = .ok () ↔ Counted state := by
  simp only [validateReservationCounters, bind_eq_ok, reject_eq_ok, not_or, not_not, exists_const,
    List.any_eq_true, not_exists, not_and, decide_eq_true_eq, ← List.countP_eq_length_filter]
  constructor
  · rintro ⟨ordinals, attempts, controls, receipts⟩
    exact ⟨attempts, controls, fun attempt record found => ordinals record (state.attempts.mem_values_iff.mpr ⟨attempt, found⟩),
      receipts⟩
  · rintro ⟨attempts, controls, ordinals, receipts⟩
    refine ⟨fun record member => ?_, attempts, controls, receipts⟩
    obtain ⟨attempt, found⟩ := state.attempts.mem_values_iff.mp member
    exact ordinals attempt record found

/-! The ledger takes what the operations append. -/

section

omit [Crypto]

theorem checkedIncrement_of_lt (fits : value + 1 < 2 ^ 64) : checkedIncrement value = .ok (value + 1) :=
  if_pos fits

theorem checkedDecrement_of_pos (positive : 0 < value) : checkedDecrement value message = .ok (value - 1) :=
  if_pos positive

@[simp] theorem AttemptRecord.push_receiptRecoveryOrdinals (record : AttemptRecord)
    (receipt : SignedRecord ExecutionReceipt) :
    (record.push receipt).receiptRecoveryOrdinals = record.receiptRecoveryOrdinals := by
  unfold AttemptRecord.push
  cases receipt.payload.stage <;> rfl

end

/-- A grant that verifies and pins the executor key. -/
def Pinned (identity : Text) (grant : SignedRecord ExecutionGrant) : Prop :=
  verifyExecutionGrant grant = .ok () ∧ grant.payload.deployment.payload.executor = identity

variable {grant : SignedRecord ExecutionGrant}

variable {receipt : SignedRecord ExecutionReceipt}

/-- A receipt that passes the checks of the journal and names its grant continues that grant. -/
theorem verifyExecutionReceipt_of_validated {config : ExecutorConfig} (pinned : Pinned identity grant)
    (own : config.executor = identity) (validated : validateReceipt config identity receipt = .ok ())
    (attempt : receipt.payload.attempt = grant.payload.attempt)
    (hash : receipt.payload.grantHash = canonicalHash grant) : verifyExecutionReceipt receipt grant = .ok () := by
  simp only [validateReceipt, ofInvalid, bind_eq_ok, mapError_eq_ok, reject_eq_ok, not_or, not_not,
    Bool.not_eq_false] at validated
  obtain ⟨_, valid, schema, signer, executor, verified⟩ := validated
  simp only [verifyExecutionReceipt, bind_eq_ok, reject_eq_ok, not_or, not_not, Bool.not_eq_false]
  exact ⟨(), pinned.1, (), valid, (), schema, (), verified, (), ⟨attempt, hash⟩, by rw [signer, pinned.2],
    by rw [executor, own, pinned.2]⟩

/-- What the state must satisfy for its ledger to take the next record. -/
structure Ready (identity : Text) (state : ExecutorState) : Prop where
  sound : SoundAttempts (Pinned identity) state
  counted : Counted state
  ordinals : state.nextReceiptRecoveryOrdinal + 1 < 2 ^ 64
  attempts : state.nonterminalAttempts + 1 < 2 ^ 64
  controls : state.unacknowledgedControls + 1 < 2 ^ 64

variable {config : ExecutorConfig} {identity : Text} {state : ExecutorState}

omit [Crypto] in
theorem nextRecoveryOrdinal_of_lt (fits : state.nextReceiptRecoveryOrdinal + 1 < 2 ^ 64) :
    nextRecoveryOrdinal state = .ok (state.nextReceiptRecoveryOrdinal + 1)
      { state with nextReceiptRecoveryOrdinal := state.nextReceiptRecoveryOrdinal + 1 } := by
  rw [run_eq_ok, nextRecoveryOrdinal, wp_bind, wp_get]
  exact wp_pass (checkedIncrement_of_lt fits) ⟨rfl, rfl⟩

omit [Crypto] in
theorem reserveAttempt_of_lt (fits : state.nonterminalAttempts + 1 < 2 ^ 64) :
    reserveAttempt terminal state =
      .ok () { state with nonterminalAttempts := state.nonterminalAttempts + (!terminal).toNat } := by
  rw [run_eq_ok, reserveAttempt]
  cases terminal with
  | true => exact ⟨rfl, rfl⟩
  | false =>
    rw [if_pos rfl, wp_bind, wp_get]
    exact wp_pass (checkedIncrement_of_lt fits) ⟨rfl, rfl⟩

/-- The first record of an admissible grant. -/
theorem Admissible.applies (admissible : Admissible config state grant)
    (ordinals : state.nextReceiptRecoveryOrdinal + 1 < 2 ^ 64) (attempts : state.nonterminalAttempts + 1 < 2 ^ 64) :
    applyClaim grant receipt state = .ok () (state.taking grant receipt) := by
  obtain ⟨registered, found, same⟩ := admissible.registered
  rw [run_eq_ok, applyClaim, wp_bind, wp_get]
  refine wp_pass (orError_eq_ok.mpr found) ?_
  refine wp_unless (by simpa using same) ?_
  rw [admissible.absent]
  refine wp_run (advanceFence_of_valid admissible.unfenced) ?_
  refine wp_run (nextRecoveryOrdinal_of_lt (by exact ordinals)) ?_
  refine wp_run (reserveAttempt_of_lt (by exact attempts)) ?_
  exact ⟨rfl, rfl⟩

omit [Crypto] in
theorem applyRegister_of_fresh {receipt : SignedRecord DeploymentReceipt}
    (alive : receipt.payload.deployment ∉ state.deploymentTombstones)
    (same : ∀ existing, state.deployments.get? receipt.payload.deployment = some existing →
      sameDeploymentBinding existing.payload receipt.payload = true) : applyRegister receipt state =
      .ok () { state with deployments := state.deployments.insert receipt.payload.deployment receipt } := by
  rw [run_eq_ok, applyRegister, wp_bind, wp_get]
  refine wp_unless alive ?_
  rw [wp_bind, wp_set]
  split
  · rename_i existing found
    rw [wp_lift, reject_of_not (by simp [same existing found])]
    simp
  · exact ⟨rfl, rfl⟩

variable {key : ControlKey} {control : ControlRecord} {success : Unit → ExecutorState → Prop}
  {failure : ExecutorError → ExecutorState → Prop}

omit [Crypto] in
theorem wp_modifyControl (found : state.controls.get? key = some control) :
    wp (modifyControl key error change) success failure state ↔
      success () { state with controls := state.controls.insert key (change control) } := by
  rw [modifyControl, wp_bind, wp_get]
  exact wp_passed (orError_eq_ok.mpr found)

omit [Crypto] in
theorem wp_queueControl (fits : state.unacknowledgedControls + 1 < 2 ^ 64) :
    wp (queueControl key control) success failure state ↔
      success () { state with
        unacknowledgedControls := state.unacknowledgedControls + 1
        controls := state.controls.insert key control } := by
  rw [queueControl, wp_bind, wp_get]
  exact wp_passed (checkedIncrement_of_lt fits)

variable {request : SignedRecord ExecutionControl}

variable {record : AttemptRecord}

section

omit [Crypto]

theorem wp_releaseAttemptReservation (reserved : ended = true → 0 < state.nonterminalAttempts) :
    wp (releaseAttemptReservation ended) success failure state ↔
      success () { state with nonterminalAttempts := state.nonterminalAttempts - ended.toNat } := by
  cases ended with
  | false => exact Iff.rfl
  | true =>
    rw [releaseAttemptReservation, if_pos rfl, wp_bind, wp_get]
    exact wp_passed (checkedDecrement_of_pos (reserved rfl))

theorem wp_releaseControlReservation (reserved : pending = true → 0 < state.unacknowledgedControls) :
    wp (releaseControlReservation pending) success failure state ↔
      success () { state with unacknowledgedControls := state.unacknowledgedControls - pending.toNat } := by
  cases pending with
  | false => exact Iff.rfl
  | true =>
    rw [releaseControlReservation, if_pos rfl, wp_bind, wp_get]
    exact wp_passed (checkedDecrement_of_pos (reserved rfl))

theorem wp_acknowledgeControl
    (known : ∀ key, acknowledgedControl receipt = some key → ∃ control, state.controls.get? key = some control) :
    wp (acknowledgeControl receipt) success failure state ↔
      success () { state with controls := acknowledgedControls state.controls receipt } := by
  unfold acknowledgeControl acknowledgedControls
  cases acknowledges : acknowledgedControl receipt with
  | none => exact Iff.rfl
  | some key =>
    obtain ⟨control, found⟩ := known key acknowledges
    simp only [found]
    exact wp_modifyControl found

theorem Counted.attempts_pos (counted : Counted state) (found : state.attempts.get? attempt = some record)
    (running : record.terminal = false) : 0 < state.nonterminalAttempts := by
  rw [counted.attempts]
  exact SortedMap.count_pos found (by simp [running])

theorem Counted.controls_pos {key : Option ControlKey} (counted : Counted state)
    (pending : isPendingControl state key = true) : 0 < state.unacknowledgedControls := by
  rw [counted.controls]
  unfold isPendingControl at pending
  split at pending
  · rename_i control found
    obtain ⟨key, rfl, found⟩ := Option.bind_eq_some_iff.mp found
    exact SortedMap.count_pos found pending
  · cases pending

end

/-- A receipt that its attempt admits. -/
theorem applyReceipt_of_admitted (counted : Counted state)
    (ordinals : state.nextReceiptRecoveryOrdinal + 1 < 2 ^ 64)
    (found : state.attempts.get? receipt.payload.attempt = some record) (admitted : record.admits receipt = .ok ())
    (known : ∀ key, acknowledgedControl receipt = some key → ∃ control, state.controls.get? key = some control) :
    applyReceipt receipt state = .ok () (state.receiving receipt record) := by
  have forwarded : ¬ (acknowledgedControl receipt).any (fun key => state.controls.contains key = false) = true := by
    intro missing
    obtain ⟨key, acknowledges, absent⟩ := (Option.any_eq_true _ _).mp missing
    obtain ⟨control, held⟩ := known key acknowledges
    simp [SortedMap.contains, held] at absent
  rw [run_eq_ok, applyReceipt, wp_bind, wp_get]
  refine wp_unless forwarded ?_
  refine wp_pass (orError_eq_ok.mpr found) ?_
  refine wp_pass admitted ?_
  rw [wp_bind, wp_set, settleReceipt]
  refine wp_run (nextRecoveryOrdinal_of_lt (by exact ordinals)) ?_
  rw [wp_bind]
  refine (wp_modifyAttempt (SortedMap.get?_insert_self _ _ _)).mpr ?_
  rw [wp_bind]
  refine (wp_releaseAttemptReservation fun ends => ?_).mpr ?_
  · exact counted.attempts_pos found (by simp_all)
  rw [wp_bind]
  refine (wp_releaseControlReservation fun pending => ?_).mpr ?_
  · exact counted.controls_pos pending
  refine (wp_acknowledgeControl (by exact known)).mpr ⟨rfl, ?_⟩
  simp [ExecutorState.receiving, AttemptRecord.receiving]

omit [Crypto] in
/-- What is neither an observation nor an acknowledgment acknowledges nothing. -/
theorem acknowledgedControl_eq_none (other : isControlAcknowledged receipt.payload.stage = false) :
    acknowledgedControl receipt = none := by
  unfold acknowledgedControl
  unfold isControlAcknowledged at other
  split
  · rename_i stage
    rw [stage] at other
    cases other
  · rfl

/-- The stages by which a claim is resumed are admitted as the second receipt. -/
theorem AttemptRecord.admits_resumed (verified : verifyExecutionReceipt receipt record.grant = .ok ())
    (running : record.terminal = false) (next : receipt.payload.sequence = record.receipts.length + 1)
    (resumes : receipt.payload.stage = .started ∨ stageTerminal receipt.payload.stage = true) :
    record.admits receipt = .ok () ∧ acknowledgedControl receipt = none := by
  have plain : isControlAcknowledged receipt.payload.stage = false ∧ isObservation receipt.payload.stage = false := by
    rcases resumes with started | ends
    · rw [started]
      exact ⟨rfl, rfl⟩
    · generalize receipt.payload.stage = stage at ends
      cases stage <;> first | exact ⟨rfl, rfl⟩ | cases ends
  refine ⟨?_, acknowledgedControl_eq_none plain.1⟩
  simp only [AttemptRecord.admits, ofUnauthorized, bind_eq_ok, mapError_eq_ok, reject_eq_ok]
  refine ⟨(), verified, (), by simp [next], (), by simp [running], (), by simp [plain.2], ?_⟩
  split
  · rename_i stage
    rw [stage] at plain
    cases plain.2
  · rename_i stage
    rw [stage] at plain
    cases plain.2
  · rfl

variable {stage : ExecutionStage}

section

omit [Crypto]

theorem afterTerminal_eq_none (unanswered : afterTerminal record stage = .ok none) :
    ¬ (record.terminal = true ∧ isControlAcknowledged stage = false) := by
  intro ended
  rw [afterTerminal, if_pos ended] at unanswered
  split at unanswered
  · split at unanswered <;> cases unanswered
  · cases unanswered

theorem earlierObservation_eq_none {sequence : Nat}
    (unanswered : earlierObservation record kind sequence highest index stage = .ok none) :
    highest < sequence ∧ record.observationCount < maxAttemptObservations := by
  unfold earlierObservation at unanswered
  split at unanswered
  · simp only [bind_eq_ok, pure_eq_ok, reduceCtorEq, and_false, exists_false] at unanswered
  · simp only [bind_eq_ok, reject_eq_ok, not_le, pure_eq_ok, and_true, exists_const] at unanswered
    exact unanswered

theorem earlierAcknowledgment_eq_none (unanswered : earlierAcknowledgment state key stage = .ok none) :
    ∃ control, state.controls.get? key = some control ∧ control.acknowledged = none := by
  simp only [earlierAcknowledgment, bind_eq_ok, orError_eq_ok] at unanswered
  obtain ⟨control, found, unanswered⟩ := unanswered
  refine ⟨control, found, ?_⟩
  split at unanswered
  · simp only [bind_eq_ok, pure_eq_ok, reduceCtorEq, and_false, exists_false] at unanswered
  · assumption

end

/-- A stage that nothing earlier answers is admitted as the next receipt. -/
theorem AttemptRecord.admits_stage (verified : verifyExecutionReceipt receipt record.grant = .ok ())
    (next : receipt.payload.sequence = record.receipts.length + 1)
    (unanswered : earlierRecord state receipt.payload.attempt record receipt.payload.stage = .ok none)
    (open_ : afterTerminal record receipt.payload.stage = .ok none) : record.admits receipt = .ok () ∧
      ∀ key, acknowledgedControl receipt = some key → ∃ control, state.controls.get? key = some control := by
  have running := afterTerminal_eq_none open_
  unfold AttemptRecord.admits acknowledgedControl
  unfold earlierRecord at unanswered
  simp only [ofUnauthorized, bind_eq_ok, mapError_eq_ok, reject_eq_ok, exists_and_left]
  generalize receipt.payload.stage = stage at unanswered running
  cases stage with
  | progress sequence progress | checkpoint sequence checkpoint =>
    obtain ⟨newer, count⟩ := earlierObservation_eq_none unanswered
    simp [verified, next, running, newer, count]
  | controlAcknowledged control disposition detail =>
    obtain ⟨queued, found, _⟩ := earlierAcknowledgment_eq_none unanswered
    simp [verified, next, isControlAcknowledged, isObservation, found]
  | _ => simp [verified, next, running, isObservation]

/-- A control that is queued already is endorsed by a newer Home, or it is new to its attempt. -/
theorem Produced.applies_control (produced : Produced config state (.control request receipt) reserve)
    (ready : Ready identity state) (own : config.executor = identity)
    (valid : validateRecord config identity (.control request receipt) = .ok ()) :
    applyControl request receipt state = .ok () (state.next (.control request receipt)) := by
  obtain ⟨validated, _, attempt⟩ := validateRecord_control valid
  rw [run_eq_ok, applyControl, wp_bind, wp_get]
  cases produced with
  | requeue found differs same unfenced =>
    refine wp_pass unfenced ?_
    simp only [ExecutorState.next, attempt, found]
    rw [applyReendorsement, if_neg differs]
    refine wp_unless (by simp [same]) ?_
    refine wp_unless (by simp) ?_
    refine wp_run (advanceFence_of_valid unfenced) ?_
    exact (wp_modifyControl (by exact found)).mpr ⟨trivial, rfl⟩
  | queue absent found hash owner bounded running unfenced speaks next =>
    have pinned := (ready.sound _ _ found).2.1
    have verified := verifyExecutionReceipt_of_validated pinned own validated speaks.attempt speaks.hash
    have held := found
    rw [← attempt] at held
    refine wp_pass unfenced ?_
    simp only [ExecutorState.next, attempt, absent, found, Option.elim_some]
    rw [applyQueuedControl, wp_bind, wp_get]
    refine wp_pass (orError_eq_ok.mpr held) ?_
    refine wp_pass (mapError_eq_ok.mpr verified) ?_
    refine wp_unless (by simp [hash, owner, attempt]) ?_
    refine wp_unless (by simp [next, running]) ?_
    refine wp_unless (Nat.not_le.mpr bounded) ?_
    refine wp_run (advanceFence_of_valid unfenced) ?_
    rw [wp_bind]
    refine (wp_modifyAttempt (by exact held)).mpr ?_
    rw [settleControl]
    refine wp_run (nextRecoveryOrdinal_of_lt (by exact ready.ordinals)) ?_
    rw [wp_bind]
    refine (wp_modifyAttempt (SortedMap.get?_insert_self _ _ _)).mpr ?_
    refine (wp_queueControl (by exact ready.controls)).mpr ?_
    simp [ExecutorState.queueing, AttemptRecord.queueing, attempt]

/-- The ledger takes every record that the operations append to a state that is ready for it, unless it is misfiled. -/
theorem Produced.applies {record : ExecutorLedgerRecord}
    (produced : Produced config state record reserve) (ready : Ready identity state)
    (own : config.executor = identity) (valid : validateRecord config identity record = .ok ())
    (filed : ¬ Misfiled state record) : applyRecord config identity record state = .ok () (state.next record) := by
  rw [run_eq_ok]
  unfold applyRecord
  refine wp_pass valid ?_
  rw [← run_eq_ok]
  cases record with
  | register =>
    cases produced with
    | register alive same _ => exact applyRegister_of_fresh alive same
  | undeploy =>
    cases produced with
    | undeploy alive found _ =>
      dsimp only
      rw [run_eq_ok, applyUndeploy, wp_bind, wp_get]
      refine wp_unless (by simp [SortedMap.contains, found]) ?_
      simp [alive, ExecutorState.next]
  | homeFence =>
    cases produced with
    | fence found hash owner unfenced =>
      dsimp only
      rw [run_eq_ok, applyHomeFence, wp_bind, wp_get]
      refine wp_pass (orError_eq_ok.mpr found) ?_
      refine wp_unless (by simp [hash, owner]) ?_
      rw [← run_eq_ok]
      exact advanceFence_of_valid unfenced
  | control => exact produced.applies_control ready own valid
  | claim | refuse =>
    cases produced
    exact Admissible.applies (by assumption) ready.ordinals ready.attempts
  | receipt receipt =>
    cases produced with
    | @stage attempt record _ found speaks next unanswered open_ =>
      obtain ⟨named, pinned, sound⟩ := ready.sound _ _ found
      obtain rfl : receipt.payload.attempt = attempt := speaks.attempt.trans named
      obtain ⟨admitted, known⟩ := AttemptRecord.admits_stage
        (verifyExecutionReceipt_of_validated pinned own valid speaks.attempt speaks.hash) next unanswered open_
      simp only [ExecutorState.next, found, Option.elim_some]
      exact applyReceipt_of_admitted ready.counted ready.ordinals found admitted known
    | @resume record _ found running last hash second resumes =>
      obtain ⟨named, pinned, sound⟩ := ready.sound _ _ found
      have only : record.receipts.length = 1 := by
        by_contra more
        exact filed ⟨second, record, found, more, last⟩
      obtain ⟨admitted, acknowledges⟩ := AttemptRecord.admits_resumed
        (verifyExecutionReceipt_of_validated pinned own valid named.symm (hash.trans sound.hash)) running
        (by rw [second, only]) resumes
      simp only [ExecutorState.next, found, Option.elim_some]
      refine applyReceipt_of_admitted ready.counted ready.ordinals found admitted fun key acknowledged => ?_
      rw [acknowledges] at acknowledged
      cases acknowledged

/-- A misfiled record leaves the state as it was. -/
theorem Misfiled.refused {record : ExecutorLedgerRecord} (misfiled : Misfiled state record) :
    ∃ error, applyRecord config identity record state = .error error state := by
  cases record with
  | receipt receipt =>
    obtain ⟨second, record, found, more, _⟩ := misfiled
    suffices spec : wp (applyRecord config identity (.receipt receipt)) (fun _ _ => False)
        (fun _ after => after = state) state by
      obtain ⟨error, _, run, rfl⟩ := fails_of_wp spec
      exact ⟨error, run⟩
    unfold applyRecord applyReceipt
    refine wp_check (fun _ _ => rfl) fun _ _ => ?_
    rw [wp_bind, wp_get]
    refine wp_check (fun _ _ => rfl) fun _ _ => ?_
    refine wp_pass (orError_eq_ok.mpr found) ?_
    refine wp_check (fun _ _ => rfl) fun _ admitted => ?_
    have next := (AttemptRecord.admits_eq_ok admitted).2.1
    omega
  | _ => exact misfiled.elim

end

end Gawd.Executor
