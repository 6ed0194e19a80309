import Gawd.Executor.Orderly

/-!
The recovery sweep of an executor: it takes every receipt that was there when it began, once and in order, whatever happens
between its batches.
-/

namespace Gawd.Executor

open Gawd.Logic Gawd.Wire Gawd.Journal

/-- A retained receipt and the attempt it belongs to. -/
abbrev Retained := AttemptId × SignedRecord ExecutionReceipt

/-- The order of a sweep. -/
def Retained.Before (one other : Retained) : Prop :=
  one.1 < other.1 ∨ one.1 = other.1 ∧ one.2.payload.sequence < other.2.payload.sequence

theorem Retained.Before.irrefl (one : Retained) : ¬ one.Before one := by
  rintro (less | ⟨-, less⟩)
  · exact less.ne rfl
  · exact less.ne rfl

theorem Retained.Before.trans {first second : Retained} (one : first.Before second) (two : second.Before third) :
    first.Before third := by
  rcases one with less | ⟨same, less⟩
  · rcases two with more | ⟨equal, -⟩
    · exact .inl (less.trans more)
    · exact .inl (equal ▸ less)
  · rcases two with more | ⟨equal, further⟩
    · exact .inl (same ▸ more)
    · exact .inr ⟨same.trans equal, less.trans further⟩

/-- The receipts of one attempt that are not newer than the mark. -/
def retainedOf (highWater : Nat) (key : AttemptId) (attempt : AttemptRecord) : List Retained :=
  (attempt.receipts.zip attempt.receiptRecoveryOrdinals).filterMap fun (receipt, ordinal) =>
    if ordinal ≤ highWater then some (key, receipt) else none

/-- All retained receipts that are not newer than the mark, in the order of a sweep. -/
def retained (highWater : Nat) (state : ExecutorState) : List Retained :=
  state.attempts.entries.flatMap fun entry => retainedOf highWater entry.1 entry.2

/-- What a candidate of the sweep stands for. -/
def candidate (found : AttemptId × SignedRecord ExecutionReceipt × Nat × AttemptRecoveryWork) : Retained :=
  (found.1, found.2.1)

variable {key : AttemptId} {attempt later : AttemptRecord} {trusted : SignedRecord ExecutionGrant → Prop}
  {captured : List Retained} {executor before after : FunctionExecutor}
  {attempts : SortedMap AttemptId AttemptRecord} {mark : Nat} {claimed : SignedRecord ExecutionReceipt}
  {rest : List Dispatch}

theorem retained_eq :
    ((recoveryCandidates state).filter fun found => decide (found.2.2.1 ≤ highWater)).map candidate =
      retained highWater state := by
  unfold recoveryCandidates retained
  rw [List.filter_flatMap, List.map_flatMap]
  congr 1
  funext ⟨key, attempt⟩
  unfold retainedOf
  dsimp only
  generalize 0 = start
  induction attempt.receipts.zip attempt.receiptRecoveryOrdinals generalizing start with
  | nil => rfl
  | cons head rest ih =>
    rw [List.zipIdx_cons, List.map_cons, List.filter_cons, List.filterMap_cons]
    by_cases old : head.2 ≤ highWater
    · simp only [old, decide_true, if_true, List.map_cons, ih]
      rfl
    · simp only [old, decide_false, if_false, ih, Bool.false_eq_true]

theorem mem_retainedOf {item : Retained} (member : item ∈ retainedOf highWater key attempt) :
    item.1 = key ∧ item.2 ∈ attempt.receipts := by
  obtain ⟨⟨receipt, ordinal⟩, listed, kept⟩ := List.mem_filterMap.mp member
  dsimp only at kept
  split at kept
  · obtain rfl := Option.some.inj kept
    exact ⟨rfl, (List.of_mem_zip listed).1⟩
  · cases kept

/-- A receipt that is newer than the mark adds nothing. -/
theorem retainedOf_snoc
    (lengths : attempt.receipts.length = attempt.receiptRecoveryOrdinals.length) (newer : highWater < ordinal)
    (receipts : later.receipts = attempt.receipts ++ [receipt])
    (ordinals : later.receiptRecoveryOrdinals = attempt.receiptRecoveryOrdinals ++ [ordinal]) :
    retainedOf highWater key later = retainedOf highWater key attempt := by
  unfold retainedOf
  rw [receipts, ordinals, List.zip_append lengths, List.filterMap_append]
  simp [Nat.not_le.mpr newer]

section

variable [Crypto] {state : ExecutorState} {highWater : Nat}

/-- Within an attempt, receipts are swept by their sequence. -/
theorem sorted_retainedOf (sound : attempt.Sound) : (retainedOf highWater key attempt).Pairwise Retained.Before := by
  have ordered : (attempt.receipts.zip attempt.receiptRecoveryOrdinals).Pairwise fun one other =>
      one.1.payload.sequence < other.1.payload.sequence := by
    refine List.pairwise_iff_getElem.mpr fun index later first second below => ?_
    rw [List.length_zip] at first second
    rw [List.getElem_zip, List.getElem_zip]
    dsimp only
    rw [sound.sequences index _ (List.getElem?_eq_getElem (by omega)),
      sound.sequences later _ (List.getElem?_eq_getElem (by omega))]
    omega
  refine List.Pairwise.filterMap _ ?_ ordered
  intro one other below item first later second
  dsimp only at first second
  split at first
  · split at second
    · obtain rfl := Option.some.inj first
      obtain rfl := Option.some.inj second
      exact .inr ⟨rfl, below⟩
    · cases second
  · cases first

/-- The receipts of a sweep are strictly ordered. -/
theorem sorted_retained (sound : SoundAttempts trusted state) :
    (retained highWater state).Pairwise Retained.Before := by
  unfold retained
  refine List.pairwise_flatMap.mpr ⟨?_, ?_⟩
  · intro entry member
    have found := state.attempts.mem_entries_iff.mp member
    exact sorted_retainedOf (sound entry.1 entry.2 found).2.2
  · refine state.attempts.sorted.imp_of_mem ?_
    intro one other _ _ below item first later second
    left
    rw [(mem_retainedOf first).1, (mem_retainedOf second).1]
    exact below

/-- No record changes what an earlier mark retains. -/
theorem retained_next (produced : Produced config state record reserve) (counted : Counted state)
    (mark : highWater ≤ state.nextReceiptRecoveryOrdinal) :
    retained highWater (state.next record) = retained highWater state := by
  have newer : highWater < state.nextReceiptRecoveryOrdinal + 1 := by omega
  have first : ∀ {grant : SignedRecord ExecutionGrant} (receipt : SignedRecord ExecutionReceipt),
      state.attempts.get? grant.payload.attempt = none →
        retained highWater (state.taking grant receipt) = retained highWater state := by
    intro grant receipt absent
    refine SortedMap.flatMap_insert ?_
    rw [absent, Option.elim_none]
    simp [retainedOf, AttemptRecord.first, Nat.not_le.mpr newer]
  have further : ∀ {key : AttemptId} {attempt later : AttemptRecord} {receipt : SignedRecord ExecutionReceipt},
      state.attempts.get? key = some attempt → later.receipts = attempt.receipts ++ [receipt] →
        later.receiptRecoveryOrdinals = attempt.receiptRecoveryOrdinals ++ [state.nextReceiptRecoveryOrdinal + 1] →
        (state.attempts.insert key later).entries.flatMap (fun entry => retainedOf highWater entry.1 entry.2) =
          retained highWater state := by
    intro key attempt later receipt found receipts ordinals
    refine SortedMap.flatMap_insert ?_
    rw [found, Option.elim_some]
    exact retainedOf_snoc (counted.ordinals key attempt found) newer receipts ordinals
  have known := nextState state record
  generalize state.next record = after at known
  cases known with
  | claim | refuse =>
    cases produced
    exact first _ (Admissible.absent (by assumption))
  | queue _ _ found => exact further found rfl rfl
  | @receive attempt receipt found => exact further found (AttemptRecord.push_receipts attempt receipt) rfl
  | _ => rfl

/-- The receipt that a piece of work is about. -/
def AttemptRecoveryWork.taken : AttemptRecoveryWork → SignedRecord ExecutionReceipt
  | .resume _ claimed => claimed
  | .receipt _ retained _ => retained

/-- How far a sweep has come once it has taken some receipts. -/
def cursor (taken : List Retained) : Option (AttemptId × Nat) :=
  taken.getLast?.map fun item => (item.1, item.2.payload.sequence)

/-- The receipt is beyond the cursor. -/
def isBeyond (after : Option (AttemptId × Nat)) (item : Retained) : Bool :=
  after.all fun reached => decide (reached.1 < item.1 ∨ (reached.1 = item.1 ∧ reached.2 < item.2.payload.sequence))

omit [Crypto] in
/-- Beyond the cursor lie the receipts that are still to be taken. -/
theorem find?_isBeyond {taken rest : List Retained} (sorted : (taken ++ rest).Pairwise Retained.Before) :
    (taken ++ rest).find? (isBeyond (cursor taken)) = rest.head? := by
  have beyond : ∀ item ∈ rest, isBeyond (cursor taken) item = true := by
    intro item member
    unfold isBeyond cursor
    cases last : taken.getLast? with
    | none => rfl
    | some reached =>
      have before := (List.pairwise_append.mp sorted).2.2 reached (List.mem_of_getLast? last) item member
      simpa [Retained.Before] using before
  have behind : taken.find? (isBeyond (cursor taken)) = none := by
    rw [List.find?_eq_none]
    intro item member further
    rcases List.eq_nil_or_concat taken with rfl | ⟨front, last, rfl⟩
    · cases member
    · rw [List.concat_eq_append] at further member sorted
      have after : last.Before item := by
        simpa [isBeyond, cursor, List.getLast?_concat, Retained.Before] using further
      rcases List.mem_append.mp member with early | late
      · have before := (List.pairwise_append.mp (List.pairwise_append.mp sorted).1).2.2 item early last
          (List.mem_singleton.mpr rfl)
        exact Retained.Before.irrefl _ (after.trans before)
      · rw [List.mem_singleton.mp late] at after
        exact Retained.Before.irrefl _ after
  rw [List.find?_append, behind, Option.none_or]
  cases rest with
  | nil => rfl
  | cons item more => simp [beyond item List.mem_cons_self]

omit [Crypto] in
/-- The next candidate of a sweep is the next receipt that its mark retains. -/
theorem find?_recoveryCandidates (sweep : ExecutorRecoverySweep) (state : ExecutorState) :
    ((recoveryCandidates state).find? fun (key, receipt, ordinal, _) =>
      decide (ordinal ≤ sweep.receiptHighWaterOrdinal) &&
        sweep.receiptAfter.all fun (afterKey, afterSequence) =>
          decide (afterKey < key ∨ (afterKey = key ∧ afterSequence < receipt.payload.sequence))).map candidate =
      (retained sweep.receiptHighWaterOrdinal state).find? (isBeyond sweep.receiptAfter) := by
  rw [← retained_eq, List.find?_map, List.find?_filter]
  congr 2
  funext found
  simp only [Bool.decide_and, Bool.decide_eq_true]
  rfl

/-- A sweep that has taken some of the receipts that it captured. -/
structure Sweeping (captured taken : List Retained) (executor : FunctionExecutor) : Prop where
  held : retained executor.recoverySweep.receiptHighWaterOrdinal executor.state = captured
  mark : executor.recoverySweep.receiptHighWaterOrdinal ≤ executor.state.nextReceiptRecoveryOrdinal
  through : taken <+: captured
  remaining : taken.length + executor.recoverySweep.receiptsRemaining = captured.length
  after : executor.recoverySweep.receiptAfter = cursor taken
  active : executor.recoverySweep.receiptsRemaining ≠ 0 → executor.recoverySweep.active = true

/-- The receipt that a piece of work takes, with the attempt of its grant. -/
def AttemptRecoveryWork.item (work : AttemptRecoveryWork) : Retained :=
  (work.grant.payload.attempt, work.taken)

/-- The work belongs to a receipt that is retained for its grant. -/
def AttemptRecoveryWork.Belongs (state : ExecutorState) (work : AttemptRecoveryWork) : Prop :=
  ∃ attempt, state.attempts.get? work.grant.payload.attempt = some attempt ∧ work.grant = attempt.grant ∧
    work.taken ∈ attempt.receipts

omit [Crypto] in
theorem belongs_of_mem [Crypto] (sound : SoundAttempts trusted state)
    (member : (key, receipt, ordinal, work) ∈ recoveryCandidates state) : work.Belongs state ∧ work.item = (key, receipt) := by
  obtain ⟨attempt, index, found, listed, rfl⟩ := work_of_mem_recoveryCandidates member
  have own := (sound key attempt found).1
  have grant := recoveryWork_grant state key attempt index receipt
  have about : (recoveryWork state key attempt index receipt).taken = receipt := by
    unfold recoveryWork
    split <;> rfl
  refine ⟨⟨attempt, ?_, grant, about.symm ▸ List.mem_of_getElem? listed⟩, ?_⟩
  · rw [grant, own]
    exact found
  · rw [AttemptRecoveryWork.item, grant, own, about]

/-- The next call takes the next receipt that is left, and none when none is. -/
theorem Sweeping.take {taken : List Retained} (sweeping : Sweeping captured taken executor)
    (sound : SoundAttempts trusted executor.state) : wp takeNextReceiptRecovery
      (fun found after => match found with
        | none => executor.recoverySweep.receiptsRemaining = 0 ∧ executor = after
        | some work => work.Belongs executor.state ∧ captured[taken.length]? = some work.item ∧
            Sweeping captured (taken ++ [work.item]) after ∧
            ∃ sweep, after = { executor with recoverySweep := sweep })
      (fun _ after => executor = after) executor := by
  obtain ⟨rest, split⟩ := sweeping.through
  have count := sweeping.remaining
  have sorted : (taken ++ rest).Pairwise Retained.Before := by
    rw [split, ← sweeping.held]
    exact sorted_retained sound
  unfold takeNextReceiptRecovery
  refine wp_operational ?_ fun _ => rfl
  rw [wp_bind, wp_get]
  have next := find?_recoveryCandidates executor.recoverySweep executor.state
  rw [sweeping.held, sweeping.after, ← split, find?_isBeyond sorted] at next
  dsimp only
  refine wp_ite.mpr ⟨fun idle => ?_, fun busy => ?_⟩
  · rw [wp_pure]
    refine ⟨?_, rfl⟩
    by_contra left
    rcases idle with asleep | done
    · rw [sweeping.active left] at asleep
      cases asleep
    · exact left done
  · obtain ⟨awake, left⟩ := not_or.mp busy
    rw [sweeping.after]
    split
    · rename_i nothing
      rw [nothing] at next
      have empty : rest = [] := List.head?_eq_none_iff.mp next.symm
      rw [← split, empty, List.append_nil] at count
      omega
    · rename_i key receipt ordinal work found
      rw [found] at next
      obtain ⟨belongs, item⟩ := belongs_of_mem sound (List.mem_of_find?_eq_some found)
      cases rest with
      | nil => cases next
      | cons first more =>
        obtain rfl : work.item = first := item.trans (Option.some.inj next)
        rw [wp_bind, wp_set, wp_pure]
        refine ⟨belongs, ?_, ⟨sweeping.held, sweeping.mark, ⟨more, by rw [← split]; simp⟩, ?_, ?_, fun _ => ?_⟩, _, rfl⟩
        · rw [← split]
          simp
        · dsimp only
          rw [List.length_append, List.length_singleton]
          omega
        · rw [cursor, List.getLast?_concat, item]
          rfl
        · dsimp only
          simpa using awake

variable {identity : Text} {regime : Regime identity} {rule : ExecutorLedgerRecord → Prop}
  {place : ExecutorConfig → Prop} {ledger : List ExecutorLedgerRecord}

theorem NextState.ordinal_le (next : NextState state record reached) :
    state.nextReceiptRecoveryOrdinal ≤ reached.nextReceiptRecoveryOrdinal := by
  cases next with
  | claim | refuse | queue | receive => exact Nat.le_succ _
  | _ => exact Nat.le_refl _

/-- No receipt of these attempts is newer than the mark. -/
def NotNewer (attempts : SortedMap AttemptId AttemptRecord) (mark : Nat) : Prop :=
  ∀ key attempt, attempts.get? key = some attempt → ∀ ordinal ∈ attempt.receiptRecoveryOrdinals, ordinal ≤ mark

omit [Crypto] in
theorem NotNewer.insert (held : NotNewer attempts mark) (key : AttemptId)
    (newest : ∀ ordinal ∈ later.receiptRecoveryOrdinals, ordinal ≤ mark + 1) :
    NotNewer (attempts.insert key later) (mark + 1) := by
  intro other attempt found ordinal member
  rw [SortedMap.get?_insert] at found
  split at found
  · obtain rfl := Option.some.inj found
    exact newest ordinal member
  · exact (held other attempt found ordinal member).trans (Nat.le_succ _)

omit [Crypto] in
theorem NotNewer.snoc (held : NotNewer attempts mark) (found : attempts.get? key = some attempt) :
    ∀ ordinal ∈ attempt.receiptRecoveryOrdinals ++ [mark + 1], ordinal ≤ mark + 1 := by
  intro ordinal member
  rcases List.mem_append.mp member with old | new
  · exact (held key attempt found ordinal old).trans (Nat.le_succ _)
  · exact (List.mem_singleton.mp new).le

theorem NotNewer.next (held : NotNewer state.attempts state.nextReceiptRecoveryOrdinal) (next : NextState state record reached) :
    NotNewer reached.attempts reached.nextReceiptRecoveryOrdinal := by
  cases next with
  | claim | refuse => exact held.insert _ fun _ member => (List.mem_singleton.mp member).le
  | queue _ _ found | receive found => exact held.insert _ (held.snoc found)
  | _ => exact held

theorem Grown.notNewer (grown : Grown rule place identity ledger state) :
    NotNewer state.attempts state.nextReceiptRecoveryOrdinal := by
  induction grown with
  | nil =>
    intro _ _ found
    cases found
  | snoc _ _ ih => exact ih.next (nextState _ _)

/-- All receipts that a state retains, attempt by attempt. -/
def allRetained (state : ExecutorState) : List Retained :=
  state.attempts.entries.flatMap fun entry => entry.2.receipts.map fun receipt => (entry.1, receipt)

/-- The mark of the newest receipt retains them all. -/
theorem Grown.retained_newest (grown : Grown rule place identity ledger state) :
    retained state.nextReceiptRecoveryOrdinal state = allRetained state := by
  unfold retained allRetained
  refine List.flatMap_congr fun ⟨key, attempt⟩ entry => ?_
  have found := state.attempts.mem_entries_iff.mp entry
  have even := grown.settled.counted.ordinals key attempt found
  have below := grown.notNewer key attempt found
  unfold retainedOf
  have kept : ∀ pair ∈ attempt.receipts.zip attempt.receiptRecoveryOrdinals,
      (if pair.2 ≤ state.nextReceiptRecoveryOrdinal then some (key, pair.1) else none) = some (key, pair.1) :=
    fun pair member => if_pos (below pair.2 (List.of_mem_zip member).2)
  calc (attempt.receipts.zip attempt.receiptRecoveryOrdinals).filterMap _
      = (attempt.receipts.zip attempt.receiptRecoveryOrdinals).map fun pair => (key, pair.1) := by
        rw [List.filterMap_congr kept]
        exact congrFun List.filterMap_eq_map _
    _ = ((attempt.receipts.zip attempt.receiptRecoveryOrdinals).map Prod.fst).map fun receipt => (key, receipt) := by
        rw [List.map_map]
        rfl
    _ = attempt.receipts.map fun receipt => (key, receipt) := by rw [List.map_fst_zip even.le]

omit [Crypto] in
theorem length_allRetained :
    (allRetained state).length = (state.attempts.values.map fun attempt => attempt.receipts.length).sum := by
  simp [allRetained, SortedMap.values, List.length_flatMap, Function.comp_def]

/-- The sweep that recovery starts over the receipts retained now. -/
def FunctionExecutor.begun (executor : FunctionExecutor) : FunctionExecutor :=
  let remaining := (executor.state.attempts.values.map fun attempt => attempt.receipts.length).sum
  { executor with
    recoverySweep := ⟨executor.state.nextReceiptRecoveryOrdinal, remaining, none, decide (remaining ≠ 0)⟩ }

theorem Backs.sweeping_begun (backs : Backs regime executor ledger) :
    Sweeping (allRetained executor.state) [] executor.begun where
  held := backs.held.grown.retained_newest
  mark := Nat.le_refl _
  through := List.nil_prefix
  remaining := by
    rw [length_allRetained]
    exact Nat.zero_add _
  after := rfl
  active left := decide_eq_true left

/-- What a step does to the state: nothing, or what one produced record does. -/
theorem Backs.state_move (backs : Backs regime before ledger) (allowed : ∀ record, rule record → regime.rule record)
    (move : Move rule identity before after) :
    after.state = before.state ∨ ∃ record reserve, Produced before.config before.state record reserve ∧ rule record ∧
      after.state = before.state.next record := by
  cases move with
  | aside _ state _ _ | poisoned _ _ _ state _ _ => exact .inl state
  | filed filing _ _ run _ _ =>
    rcases backs.filing (filing.mono allowed) with misfiled | ⟨reserve, taken⟩
    · obtain ⟨error, refused⟩ := misfiled.refused
      rw [refused] at run
      cases run
    · rw [taken.applies backs.held.grown.settled] at run
      exact .inr ⟨_, reserve, taken.produced, filing.ruled, (EStateM.Result.ok.inj run).2.symm⟩
  | misfiled filing _ _ run _ _ =>
    rcases backs.filing (filing.mono allowed) with misfiled | ⟨reserve, taken⟩
    · obtain ⟨error, refused⟩ := misfiled.refused
      rw [refused] at run
      exact .inl (EStateM.Result.error.inj run).2.symm
    · rw [taken.applies backs.held.grown.settled] at run
      cases run

/-- What every produced record keeps, a process keeps as it moves. -/
theorem Backs.preserves (holds : ExecutorState → Prop) (backs : Backs regime before ledger)
    (allowed : ∀ record, rule record → regime.rule record)
    (step : ∀ {config state record reserve}, holds state → Produced config state record reserve → rule record →
      holds (state.next record)) (moves : Moves rule identity before after) (held : holds before.state) :
    holds after.state ∧ ∃ longer, Backs regime after longer := by
  induction moves with
  | refl => exact ⟨held, ledger, backs⟩
  | tail _ move ih =>
    obtain ⟨held, longer, backs⟩ := ih
    obtain ⟨further, _, later⟩ := backs.move (move.mono allowed)
    refine ⟨?_, further, later⟩
    rcases backs.state_move allowed move with same | ⟨record, _, produced, ruled, next⟩
    · exact same ▸ held
    · exact next ▸ step held produced ruled

omit [Crypto] in
theorem sweep_move [Crypto] (move : Move rule identity before after) : after.recoverySweep = before.recoverySweep := by
  cases move <;> assumption

/-- A step between two takes changes nothing for the sweep. -/
theorem Sweeping.moved (sweeping : Sweeping captured taken before)
    (backs : Backs regime before ledger) (move : Move regime.rule identity before after) :
    Sweeping captured taken after := by
  have swept := sweep_move move
  obtain ⟨held, mark⟩ : retained before.recoverySweep.receiptHighWaterOrdinal after.state = captured ∧
      before.recoverySweep.receiptHighWaterOrdinal ≤ after.state.nextReceiptRecoveryOrdinal := by
    rcases backs.state_move (fun _ ruled => ruled) move with same | ⟨record, reserve, produced, _, next⟩
    · rw [same]
      exact ⟨sweeping.held, sweeping.mark⟩
    · rw [next]
      refine ⟨?_, sweeping.mark.trans (nextState _ _).ordinal_le⟩
      rw [retained_next produced backs.held.grown.settled.counted sweeping.mark]
      exact sweeping.held
  exact ⟨swept ▸ held, swept ▸ mark, sweeping.through, swept ▸ sweeping.remaining, swept ▸ sweeping.after,
    swept ▸ sweeping.active⟩

/-! What one piece of work sends. -/

variable {host : Host} {executor : FunctionExecutor} {grant : SignedRecord ExecutionGrant}

/-- A claim reports receipts of the attempt that its grant is for. -/
theorem claim_reports (sound : SoundAttempts trusted executor.state) :
    wp (claim host grant) (fun outcome _ => outcome.Reports grant.payload.attempt) (fun _ _ => True) executor := by
  have permits : Permits (fun _ => True) fun _ => True := fun _ _ _ => trivial
  refine wp_weaken (wp_claim permits trivial) fun _ _ claims => claims.1.reports ?_
  intro existing found receipt member
  obtain ⟨own, _, sound⟩ := sound _ existing found
  exact (attempt_of_verified (sound.verified receipt member)).trans own

/-- Every receipt among the dispatches is for the attempt, and goes where its Home is. -/
def Relays (attempt : AttemptId) (home : Address → Prop) (sent : List Dispatch) : Prop :=
  ∀ target receipt, .receipt target receipt ∈ sent → receipt.payload.attempt = attempt ∧ home target

variable {attempt : AttemptId} {home : Address → Prop} {target : Address}

section

omit [Crypto]

theorem Relays.nil : Relays attempt home [] :=
  fun _ _ member => absurd member List.not_mem_nil

theorem Relays.receipt {receipt : SignedRecord ExecutionReceipt} (there : home target)
    (named : receipt.payload.attempt = attempt) (relays : Relays attempt home rest) :
    Relays attempt home (.receipt target receipt :: rest) := by
  intro address other member
  rcases List.mem_cons.mp member with same | later
  · obtain ⟨rfl, rfl⟩ := Dispatch.receipt.inj same
    exact ⟨named, there⟩
  · exact relays address other later

theorem Relays.receipts {receipts : List (SignedRecord ExecutionReceipt)} (there : home target)
    (named : ∀ receipt ∈ receipts, receipt.payload.attempt = attempt) (relays : Relays attempt home rest) :
    Relays attempt home (receipts.map (.receipt target) ++ rest) := by
  induction receipts with
  | nil => exact relays
  | cons receipt more ih =>
    obtain ⟨first, named⟩ := List.forall_mem_cons.mp named
    exact .receipt there first (ih named)

end

theorem dispatchResume_relays (sound : SoundAttempts trusted executor.state) (there : home target)
    (named : claimed.payload.attempt = grant.payload.attempt) : wp (dispatchResume host target grant claimed)
      (fun sent _ => sent.length ≤ 3 ∧ Relays grant.payload.attempt home sent) (fun _ _ => True) executor := by
  unfold dispatchResume
  rw [wp_bind, wp_observe]
  refine wp_mono (claim_reports sound) (fun outcome _ reports => ?_) fun _ _ _ => ⟨Nat.zero_le _, .nil⟩
  cases outcome with
  | claimed receipts call address =>
    refine ⟨?_, .receipts there reports.named ?_⟩
    · rw [List.length_append, List.length_map]
      exact Nat.succ_le_succ reports.few
    · intro _ _ member
      cases List.mem_singleton.mp member
  | duplicate receipt =>
    have known := reports.named receipt (List.mem_singleton.mpr rfl)
    refine wp_ite.mpr ⟨fun _ => ⟨Nat.le_succ _, ?_⟩, fun _ => ⟨Nat.le_add_left _ 2, .receipt there known .nil⟩⟩
    exact .receipt there named (.receipt there known .nil)
  | terminal receipt =>
    have known := reports.named receipt (List.mem_singleton.mpr rfl)
    exact ⟨Nat.le_succ _, .receipt there named (.receipt there known .nil)⟩

/-- A forwarded control is no receipt. -/
theorem forwardControl_silent : wp (forwardControl host grant request)
      (fun sent _ => sent.length ≤ 1 ∧ ∀ target receipt, .receipt target receipt ∉ sent) (fun _ _ => True) executor := by
  unfold forwardControl
  refine wp_whatever (fun _ _ => trivial) fun found middle => ?_
  cases found with
  | error _ => exact ⟨Nat.zero_le _, fun _ _ => List.not_mem_nil⟩
  | ok address =>
    refine wp_whatever (fun _ _ => trivial) fun signed _ => ?_
    cases signed with
    | error _ => exact ⟨Nat.zero_le _, fun _ _ => List.not_mem_nil⟩
    | ok control =>
      refine ⟨Nat.le_refl _, fun _ _ member => ?_⟩
      cases List.mem_singleton.mp member

/-- What recovering one retained receipt sends. -/
theorem dispatchAttemptRecovery_relays {work : AttemptRecoveryWork}
    (sound : SoundAttempts trusted executor.state) (belongs : work.Belongs executor.state) :
    wp (dispatchAttemptRecovery host work)
      (fun sent _ => sent.length ≤ 3 ∧ Relays work.grant.payload.attempt
        (fun target => recoveryHomeTarget host work.grant executor = .ok target executor) sent)
      (fun _ _ => True) executor := by
  obtain ⟨record, found, granted, member⟩ := belongs
  have named : work.taken.payload.attempt = work.grant.payload.attempt := by
    rw [granted]
    exact attempt_of_verified ((sound _ record found).2.2.verified _ member)
  have located : ∀ {grant : SignedRecord ExecutionGrant} {target : Address} {after : FunctionExecutor},
      recoveryHomeTarget host grant executor = .ok target after → executor = after := by
    intro grant target after run
    have same := wp_ok (along_recoveryHomeTarget executor) run
    exact same
  unfold dispatchAttemptRecovery
  cases work
  all_goals
    rw [wp_bind, wp_observe]
    refine wp_intro (fun target after run => ?_) fun _ _ _ => ⟨Nat.zero_le _, .nil⟩
    obtain rfl := located run
  case resume grant claimed => exact dispatchResume_relays sound run named
  case receipt grant receipt control =>
    cases control with
    | none => exact ⟨Nat.le_add_left _ 2, .receipt run named .nil⟩
    | some control =>
      rw [wp_bind]
      refine wp_weaken forwardControl_silent ?_
      rintro sent _ ⟨few, silent⟩
      refine ⟨(Nat.succ_le_succ few).trans (Nat.le_succ _), .receipt run named ?_⟩
      exact fun target receipt member => absurd member (silent target receipt)

/-! Runs of a sweep. -/

/-- What happens after recovery has started: the executor takes receipts, and moves in any way between. The list holds the
receipts taken so far. -/
inductive Swept (rule : ExecutorLedgerRecord → Prop) (identity : Text) (start : FunctionExecutor) :
    List Retained → FunctionExecutor → Prop where
  | begun : Swept rule identity start [] start.begun
  | moved {taken before after} : Swept rule identity start taken before → Move rule identity before after →
      Swept rule identity start taken after
  | took {taken before work after} : Swept rule identity start taken before →
      takeNextReceiptRecovery before = .ok (some work) after → Swept rule identity start (taken ++ [work.item]) after
  | drained {taken before after} : Swept rule identity start taken before →
      takeNextReceiptRecovery before = .ok none after → Swept rule identity start taken after
  | rested {taken before} : Swept rule identity start taken before →
      Swept rule identity start taken { before with recoverySweep := { before.recoverySweep with
        active := decide (before.recoverySweep.receiptsRemaining ≠ 0) } }

variable {start now : FunctionExecutor} {taken : List Retained}

theorem Swept.moves (swept : Swept rule identity start taken now) (moves : Moves rule identity now after) :
    Swept rule identity start taken after := by
  induction moves with
  | refl => exact swept
  | tail _ move ih => exact ih.moved move

theorem Backs.swept (backs : Backs regime executor ledger) (sweep : ExecutorRecoverySweep) :
    Backs regime { executor with recoverySweep := sweep } ledger :=
  ⟨backs.held, backs.own, backs.place, backs.caps, backs.disk⟩

/-- However a sweep goes on, it has taken the first of the captured receipts, and the others are left. -/
theorem Swept.sweeping (swept : Swept regime.rule identity start taken now) (backs : Backs regime start ledger) :
    Sweeping (allRetained start.state) taken now ∧ ∃ longer, Backs regime now longer := by
  induction swept with
  | begun => exact ⟨backs.sweeping_begun, ledger, backs.swept _⟩
  | moved _ move ih =>
    obtain ⟨sweeping, middle, held⟩ := ih
    obtain ⟨longer, _, later⟩ := held.move move
    exact ⟨sweeping.moved held move, longer, later⟩
  | took _ run ih =>
    obtain ⟨sweeping, middle, held⟩ := ih
    obtain ⟨_, _, further, sweep, rfl⟩ := wp_ok (sweeping.take held.held.grown.settled.sound) run
    exact ⟨further, middle, held.swept _⟩
  | drained _ run ih =>
    obtain ⟨sweeping, middle, held⟩ := ih
    obtain ⟨_, rfl⟩ := wp_ok (sweeping.take held.held.grown.settled.sound) run
    exact ⟨sweeping, middle, held⟩
  | rested _ ih =>
    obtain ⟨sweeping, middle, held⟩ := ih
    refine ⟨?_, middle, held.swept _⟩
    exact ⟨sweeping.held, sweeping.mark, sweeping.through, sweeping.remaining, sweeping.after, fun left => decide_eq_true left⟩

section

variable (backs : Backs regime start ledger) (signs : host.signer.publicKey = identity)

include backs signs

theorem sweepLoop_sweeps {sent : List Dispatch} (swept : Swept regime.rule identity start taken now)
    (few : sent.length ≤ maxExecutorRecoveryDispatches) : wp (sweepLoop host rounds sent)
      (fun result after => result.length ≤ maxExecutorRecoveryDispatches ∧
        ∃ more, Swept regime.rule identity start (taken ++ more) after ∧
          (rounds ≠ 0 → now.recoverySweep.receiptsRemaining ≠ 0 → sent.length + 3 ≤ maxExecutorRecoveryDispatches → more ≠ []))
      (fun _ after => ∃ more, Swept regime.rule identity start (taken ++ more) after) now := by
  induction rounds generalizing taken sent now with
  | zero =>
    unfold sweepLoop
    exact ⟨few, [], by rwa [List.append_nil], fun zero => absurd rfl zero⟩
  | succ rounds ih =>
    unfold sweepLoop
    rw [wp_bind, wp_get]
    refine wp_ite.mpr ⟨fun full => ?_, fun open_ => ?_⟩
    · refine ⟨few, [], by rwa [List.append_nil], fun _ left room => ?_⟩
      rcases full with none | tight
      · exact absurd none left
      · omega
    · obtain ⟨left, room⟩ := not_or.mp open_
      obtain ⟨sweeping, longer, held⟩ := swept.sweeping backs
      have sound := held.held.grown.settled.sound
      rw [wp_bind]
      refine wp_intro (fun found middle run => ?_) fun _ middle run => ?_
      · have spec := wp_ok (sweeping.take sound) run
        cases found with
        | none => exact absurd spec.1 left
        | some work =>
          obtain ⟨belongs, _, _, sweep, rfl⟩ := spec
          have further := swept.took run
          refine wp_seq (wp_and (dispatchAttemptRecovery_moves regime.lenient host _)
            (dispatchAttemptRecovery_relays sound belongs)) ?_ ?_
          · rintro more after ⟨moves, short, _⟩
            have further := further.moves (signs ▸ moves)
            refine wp_operational ?_ fun _ => ⟨[work.item], further⟩
            have fits : (sent ++ more).length ≤ maxExecutorRecoveryDispatches := by
              rw [List.length_append]
              omega
            refine wp_mono (ih further fits) ?_ ?_
            · rintro result final ⟨few, others, later, _⟩
              refine ⟨few, work.item :: others, ?_, fun _ _ _ => List.cons_ne_nil _ _⟩
              rwa [List.append_assoc] at later
            · rintro _ final ⟨others, later⟩
              refine ⟨work.item :: others, ?_⟩
              rwa [List.append_assoc] at later
          · rintro _ after ⟨moves, _⟩
            exact ⟨[work.item], further.moves (signs ▸ moves)⟩
      · have same := wp_error (sweeping.take sound) run
        subst same
        exact ⟨[], by rwa [List.append_nil]⟩

/-- A batch takes some of the receipts that are left, and sends no more than its limit and a poke. -/
structure Batch (regime : Regime identity) (start : FunctionExecutor) (taken : List Retained) (left : Nat)
    (sent : List Dispatch) (after : FunctionExecutor) : Prop where
  took : ∃ more, Swept regime.rule identity start (taken ++ more) after ∧ (left ≠ 0 → more ≠ [])
  sent : ∃ work, sent = work ++ (if after.recoverySweep.receiptsRemaining ≠ 0 then (after.me.map .poke).toList else []) ∧
    work.length ≤ maxExecutorRecoveryDispatches

theorem continueRecoverySweep_batch (swept : Swept regime.rule identity start taken now) :
    wp (continueRecoverySweep host) (Batch regime start taken now.recoverySweep.receiptsRemaining)
      (fun _ after => ∃ more, Swept regime.rule identity start (taken ++ more) after) now := by
  have before : ∃ more, Swept regime.rule identity start (taken ++ more) now := ⟨[], by rwa [List.append_nil]⟩
  unfold continueRecoverySweep
  refine wp_operational ?_ fun _ => before
  rw [wp_bind, wp_get]
  refine wp_then (sweepLoop_sweeps backs signs swept (Nat.zero_le _)) ?_
  rintro work middle ⟨few, more, later, progress⟩
  have rested := later.rested
  rw [wp_bind, wp_get, wp_bind, wp_set]
  refine wp_operational ?_ fun _ => ⟨more, rested⟩
  refine ⟨⟨more, rested, fun left => ?_⟩, work, ?_, few⟩
  · exact progress left left (by decide)
  · dsimp only
    by_cases zero : middle.recoverySweep.receiptsRemaining = 0 <;> simp [zero]

theorem recoveryDispatches_batch :
    wp (recoveryDispatches host) (Batch regime start [] start.begun.recoverySweep.receiptsRemaining)
      (fun _ after => start = after ∨ ∃ taken, Swept regime.rule identity start taken after) start := by
  unfold recoveryDispatches
  refine wp_operational ?_ fun _ => .inl rfl
  rw [wp_bind, wp_get, wp_bind, wp_set]
  exact wp_mono (continueRecoverySweep_batch backs signs .begun) (fun _ _ batch => batch) fun _ _ ⟨more, later⟩ =>
    .inr ⟨more, later⟩

end

/-- Operations that start a new sweep. -/
def Operation.Restarts : Operation → Prop
  | .bind _ | .recover => True
  | _ => False

/-- Going on with the sweep. -/
def GoesOn (rule : ExecutorLedgerRecord → Prop) (identity : Text) (start before after : FunctionExecutor) : Prop :=
  ∀ taken, Swept rule identity start taken before → ∃ more, Swept rule identity start (taken ++ more) after

instance : Std.Refl (GoesOn rule identity start) := ⟨fun _ _ swept => ⟨[], by rwa [List.append_nil]⟩⟩

instance : IsTrans FunctionExecutor (GoesOn rule identity start) where
  trans _ _ _ one two taken swept := by
    obtain ⟨first, middle⟩ := one taken swept
    obtain ⟨second, later⟩ := two _ middle
    exact ⟨first ++ second, by rwa [← List.append_assoc]⟩

theorem Moves.goesOn (moves : Moves rule identity before after) : GoesOn rule identity start before after :=
  fun _ swept => ⟨[], by rw [List.append_nil]; exact swept.moves moves⟩

theorem continueRecoverySweep_goesOn (backs : Backs regime start ledger) (signs : host.signer.publicKey = identity) :
    Along (GoesOn regime.rule identity start) (continueRecoverySweep host) := by
  intro now
  refine wp_intro (fun sent after run taken swept => ?_) fun error after run taken swept => ?_
  · obtain ⟨more, later, _⟩ := (wp_ok (continueRecoverySweep_batch backs signs swept) run).took
    exact ⟨more, later⟩
  · have later := wp_error (continueRecoverySweep_batch backs signs swept) run
    exact later

/-- Whatever a process does short of starting a new sweep goes on with this one. -/
theorem run_goesOn {operation : Operation} (backs : Backs (anywhere identity) start ledger)
    (signs : host.signer.publicKey = identity) (goesOn : ¬ operation.Restarts) :
    Along (GoesOn (anywhere identity).rule identity start) (operation.run host) := by
  have moved : ∀ {α : Type} {program : Action α}, Along (Moves (anywhere identity).rule host.signer.publicKey) program →
      Along (GoesOn (anywhere identity).rule identity start) program :=
    fun along => along.mono fun _ _ moves => Moves.goesOn (signs ▸ moves)
  have lenient := (anywhere identity).lenient
  cases operation with
  | bind me | recover => exact absurd trivial goesOn
  | claim grant =>
    refine (moved (claim_moves lenient.permits trivial)).bind fun outcome => ?_
    cases outcome <;> exact Along.pure _
  | recordStage attempt stage observedAtUnixMs =>
    exact (moved (recordStage_moves fun _ _ => trivial)).bind fun _ => Along.pure _
  | query request => exact (moved (query_moves lenient.permits)).bind fun _ => Along.pure _
  | message envelope =>
    unfold Operation.run respond
    dsimp only
    split
    · unfold onRecoveryPoke
      refine Along.get.bind fun executor => ?_
      split
      · exact Along.pure _
      · exact Along.ite (fun _ => continueRecoverySweep_goesOn backs signs) fun _ => Along.pure _
    · refine along_operational ((moved (respondTo_moves lenient host)).bind fun _ => ?_)
      exact along_operational (Along.pure _)

/-- A run of recovery: the batch that starts it, then further batches with anything between them. The number is that of the
further batches that had receipts left. -/
inductive Drained (identity : Text) (start : FunctionExecutor) : Nat → FunctionExecutor → Prop where
  | begun {host : Host} {sent after} : host.signer.publicKey = identity → recoveryDispatches host start = .ok sent after →
      Drained identity start 0 after
  | batch {host : Host} {count before sent after} : Drained identity start count before → host.signer.publicKey = identity →
      before.recoverySweep.receiptsRemaining ≠ 0 → continueRecoverySweep host before = .ok sent after →
      Drained identity start (count + 1) after
  | between {host : Host} {operation : Operation} {count before sent after} : Drained identity start count before →
      host.signer.publicKey = identity → ¬ operation.Restarts → handled (operation.run host) before = (sent, after) →
      Drained identity start count after

/-- Every batch takes a receipt. -/
theorem Drained.swept (drained : Drained identity start count now) (backs : Backs (anywhere identity) start ledger) :
    ∃ taken, Swept (anywhere identity).rule identity start taken now ∧ count ≤ taken.length := by
  induction drained with
  | begun signs run =>
    obtain ⟨⟨more, swept, _⟩, _⟩ := wp_ok (recoveryDispatches_batch backs signs) run
    exact ⟨more, swept, Nat.zero_le _⟩
  | batch _ signs left run ih =>
    obtain ⟨taken, swept, enough⟩ := ih
    obtain ⟨⟨more, later, progress⟩, _⟩ := wp_ok (continueRecoverySweep_batch backs signs swept) run
    have some := List.length_pos_iff.mpr (progress left)
    refine ⟨taken ++ more, later, ?_⟩
    rw [List.length_append]
    omega
  | between _ signs goesOn ran ih =>
    obtain ⟨taken, swept, enough⟩ := ih
    obtain ⟨more, later⟩ := along_handled (run_goesOn backs signs goesOn) ran taken swept
    refine ⟨taken ++ more, later, ?_⟩
    rw [List.length_append]
    omega

/-- A sweep captures the receipts that are retained when recovery starts, in the order of their attempts and sequences.
However the executor goes on, it has then taken the first of them; every take is for the next one and leaves one less;
every batch sends no more than its limit and a poke; and no more batches have work than there are captured receipts. -/
theorem recovery_exact {world : World} (reached : (anywhere identity).system.Reachable world) (isUp : world.root = .up start) :
    (allRetained start.state).Pairwise Retained.Before ∧
    (∀ host, host.signer.publicKey = identity →
      wp (recoveryDispatches host) (Batch (anywhere identity) start [] (allRetained start.state).length)
        (fun _ after => start = after ∨ ∃ taken, Swept (anywhere identity).rule identity start taken after) start) ∧
    (∀ taken now, Swept (anywhere identity).rule identity start taken now →
      taken <+: allRetained start.state ∧
      taken.length + now.recoverySweep.receiptsRemaining = (allRetained start.state).length ∧
      (∀ found after, takeNextReceiptRecovery now = .ok found after → match found with
        | none => taken = allRetained start.state
        | some work => (allRetained start.state)[taken.length]? = some work.item ∧
            after.recoverySweep.receiptsRemaining + 1 = now.recoverySweep.receiptsRemaining) ∧
      ∀ host, host.signer.publicKey = identity →
        wp (continueRecoverySweep host) (Batch (anywhere identity) start taken now.recoverySweep.receiptsRemaining)
          (fun _ after => ∃ more, Swept (anywhere identity).rule identity start (taken ++ more) after) now ∧
        ∀ (operation : Operation) sent after, ¬ operation.Restarts → handled (operation.run host) now = (sent, after) →
          ∃ more, Swept (anywhere identity).rule identity start (taken ++ more) after) ∧
    ∀ batches now, Drained identity start batches now →
      batches + now.recoverySweep.receiptsRemaining ≤ (allRetained start.state).length := by
  obtain ⟨ledger, state, rests⟩ := rests_of_reachable reached
  rw [isUp] at rests
  obtain ⟨rfl, backs⟩ := rests
  have sorted : (allRetained start.state).Pairwise Retained.Before := by
    rw [← backs.held.grown.retained_newest]
    exact sorted_retained backs.held.grown.settled.sound
  refine ⟨sorted, fun host signs => ?_, fun taken now swept => ?_, fun batches now drained => ?_⟩
  · rw [length_allRetained]
    exact recoveryDispatches_batch backs signs
  · obtain ⟨sweeping, longer, held⟩ := swept.sweeping backs
    refine ⟨sweeping.through, sweeping.remaining, fun found after run => ?_, fun host signs =>
      ⟨continueRecoverySweep_batch backs signs swept, fun operation sent after goesOn ran =>
        along_handled (run_goesOn backs signs goesOn) ran taken swept⟩⟩
    have spec := wp_ok (sweeping.take held.held.grown.settled.sound) run
    have count := sweeping.remaining
    cases found with
    | none =>
      obtain ⟨none, rfl⟩ := spec
      exact sweeping.through.eq_of_length (by omega)
    | some work =>
      obtain ⟨_, next, further, _⟩ := spec
      have fewer := further.remaining
      rw [List.length_append, List.length_singleton] at fewer
      exact ⟨next, by omega⟩
  · obtain ⟨taken, swept, enough⟩ := drained.swept backs
    have count := (swept.sweeping backs).1.remaining
    omega

end

namespace Sample

open Gawd.Wire.Sample

attribute [local instance] Wire.Sample.crypto

theorem untilSucceeded_anywhere : ∀ label ∈ untilSucceeded, label.Abides (anywhere executorKey) := by
  simp only [untilSucceeded, List.forall_mem_cons, deliver, Label.Abides, anywhere]
  exact ⟨by decide, trivial, trivial, trivial, trivial, fun _ _ => trivial, by simp⟩

end Sample

open Sample Wire.Sample

attribute [local instance] Wire.Sample.crypto

/-- Recovery of an attempt that was claimed, controlled and has succeeded. -/
theorem recovery_exact_succeeded : ∃ world executor, (anywhere executorKey).system.Reachable world ∧
    world.root = .up executor ∧ (allRetained executor.state).length = 4 ∧
      (allRetained executor.state).Pairwise Retained.Before ∧
      ∀ batches now, Drained executorKey executor batches now → batches ≤ 4 := by
  have run : endsWith untilSucceeded (fun executor => (allRetained executor.state).length = 4) = true := by decide +kernel
  obtain ⟨world, executor, reached, isUp, captured⟩ := exists_of_abiding untilSucceeded_anywhere run
  obtain ⟨sorted, _, _, bounded⟩ := recovery_exact reached isUp
  refine ⟨world, executor, reached, isUp, captured, sorted, fun batches now drained => ?_⟩
  exact (Nat.le_add_right _ _).trans (captured ▸ bounded batches now drained)

end Gawd.Executor
