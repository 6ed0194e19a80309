import Gawd.Executor.Creature

/-!
What a ledger record can do to the retained attempts. Receipts are only ever appended, in sequence,
and after the terminal stage only acknowledgments follow; this holds half way through a failed record too.
-/

namespace Gawd.Executor

open Gawd.Logic Gawd.Wire Gawd.Journal

/-- A later record of the same attempt: the same grant, and at least the same receipts. -/
structure AttemptRecord.Continues (before after : AttemptRecord) : Prop where
  grant : after.grant = before.grant
  grantHash : after.grantHash = before.grantHash
  receipts : before.receipts <+: after.receipts

theorem AttemptRecord.Continues.refl (record : AttemptRecord) : record.Continues record :=
  ⟨rfl, rfl, List.prefix_rfl⟩

theorem AttemptRecord.Continues.trans {first second : AttemptRecord} (earlier : first.Continues second)
    (later : second.Continues third) : first.Continues third :=
  ⟨later.grant.trans earlier.grant, later.grantHash.trans earlier.grantHash,
    earlier.receipts.trans later.receipts⟩

section

variable (record : AttemptRecord) (receipt : SignedRecord ExecutionReceipt)

include record receipt

@[simp] theorem AttemptRecord.push_grant : (record.push receipt).grant = record.grant := by
  unfold AttemptRecord.push
  cases receipt.payload.stage <;> rfl

@[simp] theorem AttemptRecord.push_grantHash : (record.push receipt).grantHash = record.grantHash := by
  unfold AttemptRecord.push
  cases receipt.payload.stage <;> rfl

@[simp] theorem AttemptRecord.push_receipts : (record.push receipt).receipts = record.receipts ++ [receipt] :=
  rfl

theorem AttemptRecord.continues_push : record.Continues (record.push receipt) :=
  ⟨by simp, by simp, by simp⟩

end

/-- A receipt stream that has not ended, or that ended with one terminal stage followed by nothing but
acknowledgments. -/
inductive Shape : List ExecutionStage → Bool → Prop where
  | running (stages) : (∀ stage ∈ stages, stageTerminal stage = false) → Shape stages false
  | ended (stages last late) : (∀ stage ∈ stages, stageTerminal stage = false) →
      stageTerminal last = true → (∀ stage ∈ late, isControlAcknowledged stage = true) →
      Shape (stages ++ last :: late) true

theorem not_acknowledged_of_terminal (terminal : stageTerminal stage = true) : isControlAcknowledged stage = false := by
  cases stage <;> simp_all [isControlAcknowledged, stageTerminal]

/-- A stage that the executor's terminal rule admits keeps the shape. -/
theorem Shape.push (shape : Shape stages terminal)
    (admitted : ¬ (terminal = true ∧ isControlAcknowledged stage = false)) :
    Shape (stages ++ [stage]) (terminal || stageTerminal stage) := by
  cases shape with
  | running _ open_ =>
    by_cases ends : stageTerminal stage = true
    · simpa [ends] using Shape.ended stages stage [] open_ ends (by simp)
    · simp only [Bool.false_or, Bool.not_eq_true] at ends ⊢
      rw [ends]
      refine .running _ ?_
      intro other member
      rcases List.mem_append.mp member with old | new
      · exact open_ other old
      · simp only [List.mem_singleton] at new
        rw [new, ends]
  | ended before last late open_ ends acks =>
    have acknowledged : isControlAcknowledged stage = true := by simpa using admitted
    have kept := Shape.ended before last (late ++ [stage]) open_ ends (by
      intro other member
      rcases List.mem_append.mp member with old | new
      · exact acks other old
      · simp only [List.mem_singleton] at new
        rw [new, acknowledged])
    simpa using kept

/-- What every retained attempt satisfies. -/
structure AttemptRecord.Sound [Crypto] (record : AttemptRecord) : Prop where
  hash : record.grantHash = canonicalHash record.grant
  sequences : ∀ index receipt, record.receipts[index]? = some receipt → receipt.payload.sequence = index + 1
  verified : ∀ receipt ∈ record.receipts, verifyExecutionReceipt receipt record.grant = .ok ()
  shape : Shape (record.receipts.map fun receipt => receipt.payload.stage) record.terminal

/-- Every attempt is retained under its own identity, is sound, and rests on a trusted grant. -/
def SoundAttempts [Crypto] (trusted : SignedRecord ExecutionGrant → Prop) (state : ExecutorState) : Prop :=
  ∀ attempt record, state.attempts.get? attempt = some record →
    record.grant.payload.attempt = attempt ∧ trusted record.grant ∧ record.Sound

/-- The grant a record brings in is trusted. -/
def ExecutorLedgerRecord.Trusted (trusted : SignedRecord ExecutionGrant → Prop) :
    ExecutorLedgerRecord → Prop
  | .claim grant _ => trusted grant
  | .refuse grant _ => trusted grant
  | _ => True

/-- No attempt is lost and none loses a receipt. -/
def Extends (before after : ExecutorState) : Prop :=
  ∀ attempt record, before.attempts.get? attempt = some record →
    ∃ later, after.attempts.get? attempt = some later ∧ record.Continues later

/-- Most ledger steps leave the attempts alone. -/
def SameAttempts (before after : ExecutorState) : Prop :=
  after.attempts = before.attempts

instance : Std.Refl SameAttempts := ⟨fun _ => rfl⟩

instance : IsTrans ExecutorState SameAttempts := ⟨fun _ _ _ earlier later => Eq.trans later earlier⟩

theorem along_advanceFence : Along SameAttempts (advanceFence home noun routeNoun next) := by
  intro state
  unfold advanceFence
  rw [wp_bind, wp_get]
  refine wp_guard fun _ _ => ?_
  split
  · rw [wp_ite]
    exact ⟨fun _ => rfl, fun _ => rfl⟩
  · exact rfl

theorem along_nextRecoveryOrdinal : Along SameAttempts nextRecoveryOrdinal := by
  intro state
  unfold nextRecoveryOrdinal
  rw [wp_bind, wp_get]
  refine wp_guard fun _ _ => ?_
  rw [wp_bind, wp_set]
  exact rfl

theorem along_modifyControl (change : ControlRecord → ControlRecord) :
    Along SameAttempts (modifyControl key error change) := by
  intro state
  unfold modifyControl
  rw [wp_bind, wp_get]
  refine wp_guard fun _ _ => ?_
  exact rfl

theorem along_applyRegister :
    Along SameAttempts (applyRegister receipt) := by
  intro state
  unfold applyRegister
  rw [wp_bind, wp_get]
  refine wp_guard fun _ _ => ?_
  rw [wp_bind, wp_set]
  split
  · rw [wp_lift]
    exact ⟨fun _ _ => rfl, fun _ _ => rfl⟩
  · exact rfl

theorem along_applyUndeploy : Along SameAttempts (applyUndeploy deployment) := by
  intro state
  unfold applyUndeploy
  rw [wp_bind, wp_get]
  refine wp_guard fun _ _ => ?_
  exact rfl

theorem along_releaseAttemptReservation : Along SameAttempts (releaseAttemptReservation becameTerminal) := by
  intro state
  unfold releaseAttemptReservation
  split
  · rw [wp_bind, wp_get]
    refine wp_guard fun _ _ => ?_
    exact rfl
  · exact rfl

theorem along_releaseControlReservation : Along SameAttempts (releaseControlReservation pending) := by
  intro state
  unfold releaseControlReservation
  split
  · rw [wp_bind, wp_get]
    refine wp_guard fun _ _ => ?_
    exact rfl
  · exact rfl

theorem along_reserveAttempt : Along SameAttempts (reserveAttempt terminal) := by
  intro state
  unfold reserveAttempt
  split
  · rw [wp_bind, wp_get]
    refine wp_guard fun _ _ => ?_
    exact rfl
  · exact rfl

theorem along_acknowledgeControl :
    Along SameAttempts (acknowledgeControl receipt) := by
  unfold acknowledgeControl
  split
  · exact along_modifyControl _
  · exact Along.pure ()

theorem along_queueControl {control : ControlRecord} : Along SameAttempts (queueControl key control) := by
  intro state
  unfold queueControl
  rw [wp_bind, wp_get]
  refine wp_guard fun _ _ => ?_
  exact rfl

variable {attempt : AttemptId} {record : AttemptRecord}

theorem wp_modifyAttempt {state : ExecutorState} {change : AttemptRecord → AttemptRecord}
    {success : Unit → ExecutorState → Prop} {failure : ExecutorError → ExecutorState → Prop}
    (found : state.attempts.get? attempt = some record) :
    wp (modifyAttempt attempt error change) success failure state ↔
      success () { state with attempts := state.attempts.insert attempt (change record) } := by
  unfold modifyAttempt
  rw [wp_bind, wp_get, wp_bind, wp_lift, found]
  simp [orError]

/-- How ledger steps move the state. -/
structure Advances [Crypto] (trusted : SignedRecord ExecutionGrant → Prop) (before after : ExecutorState) :
    Prop where
  retained : Extends before after
  sound : SoundAttempts trusted before → SoundAttempts trusted after

variable {before after : ExecutorState} {new : AttemptRecord} {grant : SignedRecord ExecutionGrant}
  {receipt : SignedRecord ExecutionReceipt} {value : Unit} {request : SignedRecord ExecutionControl}
  {control : ControlId}

section

variable [Crypto] {trusted : SignedRecord ExecutionGrant → Prop}

instance : Std.Refl (Advances trusted) :=
  ⟨fun _ => ⟨fun _ record found => ⟨record, found, .refl record⟩, id⟩⟩

instance : IsTrans ExecutorState (Advances trusted) where
  trans _ _ _ earlier later := by
    refine ⟨?_, fun sound => later.sound (earlier.sound sound)⟩
    intro attempt record found
    obtain ⟨middle, inMiddle, toMiddle⟩ := earlier.retained attempt record found
    obtain ⟨last, inLast, toLast⟩ := later.retained attempt middle inMiddle
    exact ⟨last, inLast, toMiddle.trans toLast⟩

theorem Advances.of_same (same : SameAttempts before after) : Advances trusted before after := by
  unfold SameAttempts at same
  refine ⟨?_, ?_⟩
  · intro attempt record found
    exact ⟨record, by rw [same, found], .refl record⟩
  · intro sound attempt record found
    exact sound attempt record (by rw [← same, found])

/-- A change of one attempt's record. -/
theorem Advances.of_insert {old : AttemptRecord} (same : after.attempts = before.attempts.insert attempt new)
    (found : before.attempts.get? attempt = some old) (continues : old.Continues new)
    (sound : old.Sound → new.Sound) : Advances trusted before after := by
  refine ⟨?_, ?_⟩
  · intro other record present
    by_cases hit : other = attempt
    · subst hit
      have same_record : old = record := by rw [found] at present; exact Option.some.inj present
      exact ⟨new, by rw [same, SortedMap.get?_insert_self], same_record ▸ continues⟩
    · exact ⟨record, by rw [same, SortedMap.get?_insert_of_ne _ _ hit, present], .refl record⟩
  · intro earlier other record present
    rw [same, SortedMap.get?_insert] at present
    split at present
    · rename_i hit
      obtain ⟨owner, wasTrusted, wasSound⟩ := earlier attempt old found
      cases present
      exact ⟨by rw [continues.grant, owner, hit], by rw [continues.grant]; exact wasTrusted, sound wasSound⟩
    · exact earlier other record present

/-- A first record for an attempt that had none. -/
theorem Advances.of_new (same : after.attempts = before.attempts.insert attempt new)
    (absent : before.attempts.get? attempt = none)
    (sound : new.grant.payload.attempt = attempt ∧ trusted new.grant ∧ new.Sound) :
    Advances trusted before after := by
  refine ⟨?_, ?_⟩
  · intro other record present
    have differ : other ≠ attempt := by
      intro hit
      rw [hit, absent] at present
      cases present
    exact ⟨record, by rw [same, SortedMap.get?_insert_of_ne _ _ differ, present], .refl record⟩
  · intro earlier other record present
    rw [same, SortedMap.get?_insert] at present
    split at present
    · rename_i hit
      cases present
      exact hit ▸ sound
    · exact earlier other record present

theorem AttemptRecord.first_sound (verified : verifyExecutionReceipt receipt grant = .ok ())
    (isFirst : receipt.payload.sequence = 1) (ordinal : Nat) : (first grant receipt ordinal).Sound where
  hash := rfl
  sequences index other found := by
    cases index with
    | zero =>
      simp only [first, List.getElem?_cons_zero, Option.some.injEq] at found
      rw [← found, isFirst]
    | succ index => simp [first] at found
  verified other member := by
    simp only [first, List.mem_singleton] at member
    rw [member, first, verified]
  shape := by
    have shape : Shape ([] ++ [receipt.payload.stage]) (false || stageTerminal receipt.payload.stage) :=
      Shape.push (.running [] (by simp)) (by simp)
    simpa [first] using shape

/-- Appending a verified receipt in sequence keeps a record sound. -/
theorem AttemptRecord.Sound.append {later : AttemptRecord} (sound : record.Sound)
    (grant : later.grant = record.grant) (hash : later.grantHash = record.grantHash)
    (receipts : later.receipts = record.receipts ++ [receipt])
    (verified : verifyExecutionReceipt receipt record.grant = .ok ())
    (next : receipt.payload.sequence = record.receipts.length + 1)
    (shape : Shape (later.receipts.map fun receipt => receipt.payload.stage) later.terminal) : later.Sound where
  hash := by rw [hash, grant, sound.hash]
  sequences index other found := by
    rw [receipts] at found
    by_cases old : index < record.receipts.length
    · rw [List.getElem?_append_left old] at found
      exact sound.sequences index other found
    · rw [List.getElem?_append_right (by omega)] at found
      have last : index - record.receipts.length = 0 := by
        by_contra beyond
        rw [List.getElem?_eq_none (by simp only [List.length_singleton]; omega)] at found
        cases found
      rw [last] at found
      cases found
      omega
  verified other member := by
    rw [receipts, List.mem_append, List.mem_singleton] at member
    rw [grant]
    rcases member with old | new
    · exact sound.verified other old
    · rw [new, verified]
  shape := shape

/-- What an admitted receipt satisfies. -/
theorem AttemptRecord.admits_eq_ok (admitted : record.admits receipt = .ok value) :
    verifyExecutionReceipt receipt record.grant = .ok () ∧
      receipt.payload.sequence = record.receipts.length + 1 ∧
      ¬ (record.terminal = true ∧ isControlAcknowledged receipt.payload.stage = false) := by
  simp only [AttemptRecord.admits, ofUnauthorized, bind_eq_ok, mapError_eq_ok, reject_eq_ok] at admitted
  obtain ⟨_, verified, _, next, _, running, _⟩ := admitted
  exact ⟨verified, by simpa using next, running⟩

theorem AttemptRecord.Sound.push (sound : record.Sound) (admitted : record.admits receipt = .ok value) :
    (record.push receipt).Sound := by
  obtain ⟨verified, next, running⟩ := AttemptRecord.admits_eq_ok admitted
  refine sound.append (by simp) (by simp) (by simp) verified next ?_
  rw [AttemptRecord.push_receipts, List.map_append]
  exact sound.shape.push running

theorem along_applyHomeFence {query : SignedRecord ExecutionQuery} : Along SameAttempts (applyHomeFence query) := by
  unfold applyHomeFence
  refine Along.get.bind fun _ => .check fun _ => .check fun _ => ?_
  exact along_advanceFence

/-- A change of an attempt that touches neither its receipts nor what identifies it. -/
theorem along_modifyAttempt (change : AttemptRecord → AttemptRecord)
    (continues : ∀ record : AttemptRecord, record.Continues (change record))
    (sound : ∀ record : AttemptRecord, record.Sound → (change record).Sound) :
    Along (Advances trusted) (modifyAttempt attempt error change) := by
  intro state
  unfold modifyAttempt
  rw [wp_bind, wp_get]
  refine wp_guard fun record found => ?_
  rw [orError_eq_ok] at found
  exact .of_insert rfl found (continues record) (sound record)

theorem along_recordOrdinal (ordinal : Nat) :
    Along (Advances trusted) (modifyAttempt attempt error fun record =>
      { record with receiptRecoveryOrdinals := record.receiptRecoveryOrdinals ++ [ordinal] }) :=
  along_modifyAttempt _ (fun _ => ⟨rfl, rfl, List.prefix_rfl⟩)
    fun _ sound => ⟨sound.hash, sound.sequences, sound.verified, sound.shape⟩

theorem along_settleReceipt : Along (Advances trusted) (settleReceipt receipt becameTerminal pending) := by
  unfold settleReceipt
  refine (along_nextRecoveryOrdinal.mono fun _ _ => .of_same).bind fun ordinal => ?_
  refine (along_recordOrdinal ordinal).bind fun _ => ?_
  refine (along_releaseAttemptReservation.mono fun _ _ => .of_same).bind fun _ => ?_
  refine (along_releaseControlReservation.mono fun _ _ => .of_same).bind fun _ => ?_
  exact along_acknowledgeControl.mono fun _ _ => .of_same

/-- A claim adds a first record or confirms the one that is there. -/
theorem along_applyClaim (trust : trusted grant) (verified : verifyExecutionReceipt receipt grant = .ok ())
    (isFirst : receipt.payload.sequence = 1) : Along (Advances trusted) (applyClaim grant receipt) := by
  intro state
  unfold applyClaim
  rw [wp_bind, wp_get]
  refine wp_guard fun _ _ => ?_
  refine wp_guard fun _ _ => ?_
  split
  · exact Along.lift _ state
  · rename_i absent
    refine wp_along along_advanceFence (fun _ _ same => .of_same same) fun _ fenced same => ?_
    refine wp_along along_nextRecoveryOrdinal (fun _ _ next => ?_) fun ordinal numbered next => ?_
    · exact .of_same (IsTrans.trans _ _ _ same next)
    have kept : SameAttempts state numbered := IsTrans.trans _ _ _ same next
    refine wp_along along_reserveAttempt (fun _ _ last => ?_) fun _ reserved last => ?_
    · exact .of_same (IsTrans.trans _ _ _ kept last)
    have unchanged : SameAttempts state reserved := IsTrans.trans _ _ _ kept last
    refine IsTrans.trans _ _ _ (Advances.of_same unchanged) ?_
    exact .of_new rfl (by rw [unchanged, absent]) ⟨rfl, trust, AttemptRecord.first_sound verified isFirst ordinal⟩

/-- An applied receipt was admitted by the record of its attempt and is appended to it. -/
theorem wp_applyReceipt {state : ExecutorState} : wp (applyReceipt receipt)
      (fun _ after => Advances trusted state after ∧ ∃ record later,
        state.attempts.get? receipt.payload.attempt = some record ∧ record.admits receipt = .ok () ∧
        after.attempts.get? receipt.payload.attempt = some later ∧ (record.push receipt).Continues later)
      (fun _ after => Advances trusted state after) state := by
  unfold applyReceipt
  rw [wp_bind, wp_get]
  refine wp_guard fun _ _ => ?_
  refine wp_guard fun record found => ?_
  rw [orError_eq_ok] at found
  refine wp_guard fun _ admitted => ?_
  rw [wp_bind, wp_set]
  -- Once the receipt is in, the counters may still fail; the attempt keeps it either way.
  have pushed : Advances trusted state { state with
      attempts := state.attempts.insert receipt.payload.attempt (record.push receipt) } :=
    .of_insert rfl found (record.continues_push receipt) fun sound => sound.push admitted
  have settled : Along (Advances trusted) (settleReceipt receipt
      (!record.terminal && stageTerminal receipt.payload.stage)
      (isPendingControl state (acknowledgedControl receipt))) := along_settleReceipt
  refine wp_mono (settled _) ?_ ?_
  · intro _ after moved
    refine ⟨IsTrans.trans _ _ _ pushed moved, record, ?_⟩
    obtain ⟨later, inAfter, continues⟩ := moved.retained receipt.payload.attempt (record.push receipt)
      (SortedMap.get?_insert_self _ _ _)
    exact ⟨later, found, admitted, inAfter, continues⟩
  · intro _ after moved
    exact IsTrans.trans _ _ _ pushed moved

theorem along_applyReendorsement : Along SameAttempts (applyReendorsement request receipt key existing) := by
  unfold applyReendorsement
  refine Along.ite (fun _ => Along.pure ()) fun _ => ?_
  refine .check fun _ => .check fun _ => ?_
  exact along_advanceFence.bind fun _ => along_modifyControl _

theorem along_settleControl {control : ControlRecord} : Along (Advances trusted) (settleControl key control) := by
  unfold settleControl
  refine (along_nextRecoveryOrdinal.mono fun _ _ => .of_same).bind fun ordinal => ?_
  refine (along_recordOrdinal ordinal).bind fun _ => ?_
  exact along_queueControl.mono fun _ _ => .of_same

/-- Queueing a control appends a receipt that does not end the attempt. -/
theorem along_applyQueuedControl (queued : receipt.payload.stage = .controlQueued control) :
    Along (Advances trusted) (applyQueuedControl request receipt key) := by
  intro state
  unfold applyQueuedControl
  rw [wp_bind, wp_get]
  refine wp_guard fun attempt found => ?_
  rw [orError_eq_ok] at found
  refine wp_guard fun _ verified => ?_
  rw [ofUnauthorized, mapError_eq_ok] at verified
  refine wp_guard fun _ _ => ?_
  refine wp_guard fun _ next => ?_
  rw [reject_eq_ok] at next
  refine wp_guard fun _ _ => ?_
  refine wp_along along_advanceFence (fun _ _ same => .of_same same) fun _ fenced same => ?_
  have held : fenced.attempts.get? receipt.payload.attempt = some attempt := by rw [same, found]
  rw [wp_bind, wp_modifyAttempt held]
  have notEnding : stageTerminal receipt.payload.stage = false := by rw [queued]; rfl
  have pushed : Advances trusted fenced { fenced with
      attempts := fenced.attempts.insert receipt.payload.attempt { attempt with
        receipts := attempt.receipts ++ [receipt], controlCount := attempt.controlCount + 1 } } := by
    refine .of_insert rfl held ⟨rfl, rfl, List.prefix_append _ _⟩ fun sound => ?_
    refine sound.append rfl rfl rfl verified (by simp_all) ?_
    have shape : Shape (attempt.receipts.map (·.payload.stage) ++ [receipt.payload.stage])
        (attempt.terminal || stageTerminal receipt.payload.stage) :=
      sound.shape.push (by simp_all)
    simpa [notEnding] using shape
  have settled : Along (Advances trusted) (settleControl key ⟨canonicalHash request, request, receipt, none⟩) :=
    along_settleControl
  have moved : Advances trusted state _ := IsTrans.trans _ _ _ (Advances.of_same same) pushed
  exact wp_after moved (settled _)

theorem along_applyControl (queued : receipt.payload.stage = .controlQueued control) :
    Along (Advances trusted) (applyControl request receipt) := by
  unfold applyControl
  refine Along.get.bind fun state => .check fun _ => ?_
  split
  · exact along_applyReendorsement.mono fun _ _ => .of_same
  · exact along_applyQueuedControl queued

theorem validateRecord_control (valid : validateRecord config journalSigner (.control request receipt) = .ok ()) :
    validateReceipt config journalSigner receipt = .ok () ∧
      receipt.payload.stage = .controlQueued request.payload.callerRequest.payload.control ∧
      receipt.payload.attempt = request.payload.attempt := by
  simp only [validateRecord, bind_eq_ok, reject_eq_ok, not_or, not_not] at valid
  obtain ⟨_, _, _, validated, matched⟩ := valid
  exact ⟨validated, matched⟩

/-- What one ledger record can do to the attempts. -/
theorem along_applyRecord {record : ExecutorLedgerRecord}
    (trust : record.Trusted trusted) : Along (Advances trusted) (applyRecord config journalSigner record) := by
  intro state
  unfold applyRecord
  refine wp_guard fun _ valid => ?_
  cases record with
  | register request receipt => exact along_applyRegister.mono (fun _ _ => .of_same) state
  | undeploy request deployment => exact along_applyUndeploy.mono (fun _ _ => .of_same) state
  | claim grant receipt | refuse grant receipt =>
    simp only [validateRecord, ofUnauthorized, bind_eq_ok, mapError_eq_ok, reject_eq_ok] at valid
    obtain ⟨_, _, _, _, _, _, _, verified, matched⟩ := valid
    exact along_applyClaim trust verified (by simp_all) state
  | control request receipt =>
    exact along_applyControl (validateRecord_control valid).2.1 state
  | homeFence query => exact along_applyHomeFence.mono (fun _ _ => .of_same) state
  | receipt receipt =>
    exact wp_imp wp_applyReceipt (fun _ _ applied => applied.1)

theorem wp_applyRecord_receipt (config : ExecutorConfig) (journalSigner : Text)
    (receipt : SignedRecord ExecutionReceipt) (state : ExecutorState) :
    wp (applyRecord config journalSigner (.receipt receipt))
      (fun _ after => Advances trusted state after ∧ ∃ record later,
        state.attempts.get? receipt.payload.attempt = some record ∧ record.admits receipt = .ok () ∧
        after.attempts.get? receipt.payload.attempt = some later ∧ (record.push receipt).Continues later)
      (fun _ after => Advances trusted state after) state :=
  wp_guard fun _ _ => wp_applyReceipt

end

end Gawd.Executor
