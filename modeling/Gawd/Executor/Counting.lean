import Gawd.Executor.Effect

/-!
The counters of the executor through its ledger: they stay exact, and a record leaves no more reserved than the
operation that appended it kept free.
-/

namespace Gawd.Executor

open Gawd.Logic Gawd.Wire Gawd.Journal

/-- Slots reserved for terminal receipts and acknowledgments. -/
def ExecutorState.reserved (state : ExecutorState) : Nat :=
  state.nonterminalAttempts + state.unacknowledgedControls

variable {request : SignedRecord ExecutionControl} {key : ControlKey} {attempt : AttemptId}
  {record : AttemptRecord}

variable {reserve limit : Nat}

/-- The controls that still wait, after a receipt. -/
theorem count_acknowledgedControls {controls : SortedMap ControlKey ControlRecord} :
    (acknowledgedControls controls receipt).count (fun control => control.acknowledged.isNone) =
      controls.count (fun control => control.acknowledged.isNone) -
        (match (acknowledgedControl receipt).bind controls.get? with
          | some control => control.acknowledged.isNone
          | none => false).toNat := by
  unfold acknowledgedControls
  cases acknowledgedControl receipt with
  | none => simp
  | some key =>
    simp only [Option.bind_some]
    cases found : controls.get? key with
    | none => simp
    | some control =>
      have count := controls.count_insert (fun control => control.acknowledged.isNone) key
        { control with acknowledged := some receipt }
      simp only [found, Option.any_some, Option.isNone_some, Bool.toNat_false, Nat.add_zero] at count
      simp only
      omega

theorem open_after (count : after + (!ended).toNat = before + (!(ended || ends)).toNat) :
    before - (!ended && ends).toNat = after := by
  cases ended <;> cases ends <;> simp at count ⊢ <;> omega

theorem durableRecordReservations_of_lt (fits : state.reserved < 2 ^ 64) :
    durableRecordReservations state = state.reserved := by
  unfold durableRecordReservations saturatingAdd
  exact Nat.min_eq_left (by unfold ExecutorState.reserved at fits; omega)

theorem saturatingAdd_of_lt (below : saturatingAdd left right < limit) (fits : limit < 2 ^ 64) :
    saturatingAdd left right = left + right := by
  unfold saturatingAdd at below ⊢
  omega

theorem stageTerminal_of_livenessRefusal (refusal : isLivenessRefusal stage = true) : stageTerminal stage = true := by
  unfold isLivenessRefusal at refusal
  split at refusal
  · rfl
  · cases refusal

section

variable [Crypto] {config : ExecutorConfig} {identity : Text} {state : ExecutorState}

variable {receipt : SignedRecord ExecutionReceipt}

section

variable (counted : Counted state)

include counted

theorem Counted.taking {grant : SignedRecord ExecutionGrant}
    (absent : state.attempts.get? grant.payload.attempt = none) : Counted (state.taking grant receipt) := by
  have count := state.attempts.count_insert (fun record => !record.terminal) grant.payload.attempt
    (.first grant receipt (state.nextReceiptRecoveryOrdinal + 1))
  have sum := state.attempts.sum_insert (fun record => record.receipts.length) grant.payload.attempt
    (.first grant receipt (state.nextReceiptRecoveryOrdinal + 1))
  rw [absent] at count sum
  refine ⟨?_, counted.controls, fun attempt record found => ?_, ?_⟩
  · simp only [Option.any_none, Bool.toNat_false, Nat.add_zero] at count
    simp only [ExecutorState.taking, count, counted.attempts]
    rfl
  · simp only [ExecutorState.taking, SortedMap.get?_insert] at found
    split at found
    · obtain rfl := Option.some.inj found
      rfl
    · exact counted.ordinals attempt record found
  · simp only [Option.elim_none, Nat.add_zero, counted.receipts] at sum
    exact sum

theorem Counted.reendorsing (found : state.controls.get? key = some existing) :
    Counted (state.reendorsing request key existing) := by
  have count := state.controls.count_insert (fun control => control.acknowledged.isNone) key
    { existing with requestHash := canonicalHash request, request := request }
  rw [found] at count
  refine ⟨counted.attempts, ?_, counted.ordinals, counted.receipts⟩
  simp only [ExecutorState.reendorsing, counted.controls]
  simp only [Option.any_some] at count
  omega

omit [Crypto] in
/-- What changing the record of one attempt does to the counted numbers. -/
theorem Counted.changed {old : AttemptRecord} (found : state.attempts.get? attempt = some old)
    (new : AttemptRecord) :
    (state.attempts.insert attempt new).count (fun record => !record.terminal) + (!old.terminal).toNat =
        state.nonterminalAttempts + (!new.terminal).toNat ∧
      ((state.attempts.insert attempt new).values.map fun record => record.receipts.length).sum + old.receipts.length =
        state.nextReceiptRecoveryOrdinal + new.receipts.length := by
  have count := state.attempts.count_insert (fun record => !record.terminal) attempt new
  have sum := state.attempts.sum_insert (fun record => record.receipts.length) attempt new
  rw [found] at count sum
  rw [counted.attempts, ← counted.receipts]
  exact ⟨count, sum⟩

omit [Crypto] in
theorem Counted.ordinals_changed {new : AttemptRecord}
    (even : new.receipts.length = new.receiptRecoveryOrdinals.length) :
    ∀ other record, (state.attempts.insert attempt new).get? other = some record →
      record.receipts.length = record.receiptRecoveryOrdinals.length := by
  intro other record held
  rw [SortedMap.get?_insert] at held
  split at held
  · obtain rfl := Option.some.inj held
    exact even
  · exact counted.ordinals other record held

theorem Counted.queueing (absent : state.controls.get? key = none)
    (found : state.attempts.get? receipt.payload.attempt = some record) :
    Counted (state.queueing request receipt key record) := by
  have controls := state.controls.count_insert (fun control => control.acknowledged.isNone) key
    ⟨canonicalHash request, request, receipt, none⟩
  obtain ⟨count, sum⟩ := counted.changed found (record.queueing receipt (state.nextReceiptRecoveryOrdinal + 1))
  have length : (record.queueing receipt (state.nextReceiptRecoveryOrdinal + 1)).receipts.length =
      record.receipts.length + 1 := by simp [AttemptRecord.queueing]
  rw [absent] at controls
  refine ⟨(Nat.add_right_cancel count).symm, ?_, counted.ordinals_changed ?_, ?_⟩
  · simp only [ExecutorState.queueing, counted.controls]
    simpa using controls.symm
  · simp [AttemptRecord.queueing, counted.ordinals _ record found]
  · simp only [ExecutorState.queueing]
    omega

end

omit [Crypto] in
theorem Counted.receiving (counted : Counted state)
    (found : state.attempts.get? receipt.payload.attempt = some record) :
    Counted (state.receiving receipt record) := by
  obtain ⟨count, sum⟩ := counted.changed found (record.receiving receipt (state.nextReceiptRecoveryOrdinal + 1))
  have length : (record.receiving receipt (state.nextReceiptRecoveryOrdinal + 1)).receipts.length =
      record.receipts.length + 1 := by simp [AttemptRecord.receiving]
  have terminal : (record.receiving receipt (state.nextReceiptRecoveryOrdinal + 1)).terminal =
      (record.terminal || stageTerminal receipt.payload.stage) := rfl
  refine ⟨?_, ?_, counted.ordinals_changed ?_, ?_⟩
  · simp only [ExecutorState.receiving]
    rw [terminal] at count
    exact open_after count
  · simp only [ExecutorState.receiving, counted.controls, count_acknowledgedControls]
    rfl
  · simp [AttemptRecord.receiving, counted.ordinals _ record found]
  · simp only [ExecutorState.receiving]
    omega

/-- Every record that the operations append keeps the counters exact. -/
theorem Produced.counted {record : ExecutorLedgerRecord} (produced : Produced config state record reserve)
    (counted : Counted state) (valid : validateRecord config identity record = .ok ()) :
    Counted (state.next record) := by
  cases produced with
  | register | undeploy | fence => exact ⟨counted.attempts, counted.controls, counted.ordinals, counted.receipts⟩
  | claim admissible | refuse admissible => exact counted.taking admissible.absent
  | requeue found =>
    obtain ⟨_, _, attempt⟩ := validateRecord_control valid
    simp only [ExecutorState.next, attempt, found]
    exact counted.reendorsing found
  | queue absent found =>
    obtain ⟨_, _, attempt⟩ := validateRecord_control valid
    simp only [ExecutorState.next, attempt, absent, found, Option.elim_some]
    exact counted.queueing absent (by rw [attempt, found])
  | @stage attempt record receipt _ _ _ _ _ =>
    cases found : state.attempts.get? receipt.payload.attempt with
    | none => simpa [ExecutorState.next, found] using counted
    | some record =>
      simp only [ExecutorState.next, found, Option.elim_some]
      exact counted.receiving found
  | resume found =>
    simp only [ExecutorState.next, found, Option.elim_some]
    exact counted.receiving found

omit [Crypto] in
/-- What recording the stage of a receipt gives back, by the receipt. -/
theorem consumedReservations_of_receipt :
    consumedReservations state receipt.payload.attempt record receipt.payload.stage =
      (!record.terminal && stageTerminal receipt.payload.stage).toNat +
        (isPendingControl state (acknowledgedControl receipt)).toNat := by
  have counted : ∀ test : Bool, (if test = true then 1 else 0) = test.toNat := by decide
  unfold consumedReservations acknowledgedControl
  simp only [counted]
  cases receipt.payload.stage <;> rfl

omit [Crypto] in
/-- A receipt releases exactly what it was kept for. -/
theorem released_le
    (attempts : (!record.terminal && stageTerminal receipt.payload.stage) = true → 0 < state.nonterminalAttempts)
    (controls : isPendingControl state (acknowledgedControl receipt) = true → 0 < state.unacknowledgedControls) :
    (state.receiving receipt record).reserved ≤ state.reserved -
      ((!record.terminal && stageTerminal receipt.payload.stage).toNat +
        (isPendingControl state (acknowledgedControl receipt)).toNat) := by
  simp only [ExecutorState.receiving, ExecutorState.reserved]
  revert attempts controls
  cases (!record.terminal && stageTerminal receipt.payload.stage) <;>
    cases isPendingControl state (acknowledgedControl receipt) <;> simp <;> omega

/-- A record leaves no more reserved than the operation that appends it keeps free. -/
theorem Produced.reserves {record : ExecutorLedgerRecord} (produced : Produced config state record reserve)
    (ready : Ready identity state) (valid : validateRecord config identity record = .ok ())
    (reserved : state.reserved < 2 ^ 64) (room : reserve < limit) (fits : limit < 2 ^ 64) :
    (state.next record).reserved ≤ reserve := by
  have exact := durableRecordReservations_of_lt reserved
  cases produced with
  | register | undeploy | fence => exact exact.ge
  | @claim grant receipt _ =>
    rw [saturatingAdd_of_lt room fits, exact]
    simp only [ExecutorState.next, ExecutorState.taking, ExecutorState.reserved]
    have one := (!stageTerminal receipt.payload.stage).toNat_le
    omega
  | @refuse grant receipt _ =>
    simp only [validateRecord, bind_eq_ok, reject_eq_ok, not_or, not_not, Bool.not_eq_false] at valid
    obtain ⟨_, _, _, _, _, _, _, _, _, _, refusal⟩ := valid
    have ends := stageTerminal_of_livenessRefusal refusal
    rw [exact]
    simp [ExecutorState.next, ExecutorState.taking, ExecutorState.reserved, ends]
  | requeue found =>
    obtain ⟨_, _, attempt⟩ := validateRecord_control valid
    simp only [ExecutorState.next, attempt, found, exact]
    exact Nat.le_refl _
  | queue absent found =>
    obtain ⟨_, _, attempt⟩ := validateRecord_control valid
    rw [saturatingAdd_of_lt room fits, exact]
    simp only [ExecutorState.next, attempt, absent, found, Option.elim_some]
    simp only [ExecutorState.queueing, ExecutorState.reserved]
    omega
  | @stage attempt record receipt found speaks _ _ _ =>
    obtain rfl : receipt.payload.attempt = attempt := speaks.attempt.trans (ready.sound _ _ found).1
    simp only [ExecutorState.next, found, Option.elim_some, exact]
    rw [consumedReservations_of_receipt]
    exact released_le (fun ends => ready.counted.attempts_pos found (by simp_all)) ready.counted.controls_pos
  | @resume record receipt found running _ _ _ resumes =>
    have plain : acknowledgedControl receipt = none := by
      rcases resumes with started | ends
      · exact acknowledgedControl_eq_none (by rw [started]; rfl)
      · exact acknowledgedControl_eq_none (not_acknowledged_of_terminal ends)
    have quiet : (stageTerminal receipt.payload.stage).toNat = (!record.terminal && stageTerminal receipt.payload.stage).toNat +
        (isPendingControl state (acknowledgedControl receipt)).toNat := by
      simp [running, plain, isPendingControl]
    simp only [ExecutorState.next, found, Option.elim_some, exact]
    rw [quiet]
    exact released_le (fun ends => ready.counted.attempts_pos found running) ready.counted.controls_pos

end

end Gawd.Executor
