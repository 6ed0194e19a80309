import Gawd.Executor.Replay

/-!
Reopening a root of an executor, and the ledger behind every root that a run reaches.
-/

namespace Gawd.Executor

open Gawd.Logic Gawd.Wire Gawd.Journal

variable {config : ExecutorConfig} {state : ExecutorState} {attempt : AttemptRecord}
  {record : ExecutorLedgerRecord} {executor first : FunctionExecutor} {error : ExecutorError}
  {fault : Option String} {files : Files ExecutorLedgerRecord} {before after : World}

theorem stageTerminal_recoveryStage : stageTerminal (recoveryStage delivery) = true := by
  cases delivery <;> rfl

theorem recoveryStage_ne_claimed : recoveryStage delivery ≠ .claimed := by
  cases delivery <;> simp [recoveryStage]

section

variable [Crypto] {identity : Text} {regime : Regime identity} {ledger : List ExecutorLedgerRecord} {host : Host}

/-- The receipt that ends an interrupted attempt is one that its ledger takes. -/
theorem produced_recovery {receipt : SignedRecord ExecutionReceipt}
    (found : state.attempts.get? attempt.grant.payload.attempt = some attempt) (running : attempt.terminal = false)
    (speaks : Speaks attempt receipt) (next : receipt.payload.sequence = attempt.receipts.length + 1)
    (stage : receipt.payload.stage = recoveryStage attempt.grant.payload.delivery) :
    Produced config state (.receipt receipt) (durableRecordReservations state - 1) := by
  have consumed : consumedReservations state attempt.grant.payload.attempt attempt receipt.payload.stage = 1 := by
    rw [stage]
    cases attempt.grant.payload.delivery <;> simp [consumedReservations, recoveryStage, stageTerminal, running]
  rw [← consumed]
  refine .stage found speaks next ?_ ?_
  · rw [stage]
    cases attempt.grant.payload.delivery <;> rfl
  · rw [stage, afterTerminal, running]
    simp

theorem validateRecord_of_applyRecord {after : ExecutorState}
    (run : applyRecord config identity record state = .ok () after) :
    validateRecord config identity record = .ok () := by
  unfold applyRecord at run
  simp only [run_bind_eq_ok, run_lift_eq_ok] at run
  obtain ⟨_, _, ⟨valid, _⟩, _⟩ := run
  exact valid

/-- The failure is not for want of a record slot: a limit that the journal names is the one of its bytes. -/
def Afforded (executor : FunctionExecutor) (error : ExecutorError) : Prop :=
  error ≠ .capacity ∧ ∀ message, error = .journal (.limit message) →
    ∃ entry : SignedRecord (ChainEntry ExecutorLedgerRecord),
      executor.journal.caps.maxRecordBytes < Crypto.encodedLen entry

/-- An error that has nothing to do with the caps. -/
theorem afforded_of_ne (capacity : error ≠ .capacity) (journal : ∀ problem, error ≠ .journal problem) :
    Afforded executor error :=
  ⟨capacity, fun _ limit => absurd limit (journal _)⟩

theorem afforded_of_uncertain (uncertain : error = .journal .uncertain) : Afforded executor error := by
  subst uncertain
  exact ⟨by simp, by simp⟩

theorem validateRecord_afforded
    (failed : validateRecord config journalSigner record = .error error) : Afforded executor error := by
  refine afforded_of_ne ?_ fun _ => ?_
  all_goals
    rintro rfl
    cases record <;>
      simp [validateRecord, validateReceipt, ofUnauthorized, ofInvalid, bind_eq_error, mapError_eq_error,
        reject_eq_error] at failed

/-- A journal with a free slot appends, or names another reason. -/
theorem wp_append_afforded {journal : SignedJournal ExecutorLedgerRecord}
    (room : journal.records.length < journal.caps.maxRecords) :
    wp (SignedJournal.append event signer fate) (fun _ _ => True)
      (fun error after => ∀ message, error = .limit message →
        ∃ entry : SignedRecord (ChainEntry ExecutorLedgerRecord), after.caps.maxRecordBytes < Crypto.encodedLen entry)
      journal := by
  rw [SignedJournal.append, wp_bind, wp_get]
  refine wp_check (fun _ sick => ?_) fun _ _ => ?_
  · rintro _ rfl
    simp [reject_eq_error] at sick
  refine wp_unless (Nat.not_le.mpr room) ?_
  refine wp_check (fun _ unsigned => ?_) fun entry _ => ?_
  · rintro _ rfl
    simp [mapError_eq_error] at unsigned
  refine wp_check (fun _ large _ _ => ⟨entry, (reject_eq_error.mp large).1⟩) fun _ _ => ?_
  cases fate with
  | durable => trivial
  | stopped cut message =>
    simp only [wp_bind, wp_set, wp_throw]
    rintro _ ⟨⟩

section

variable (backs : Backs regime executor ledger) (signs : host.signer.publicKey = identity)

include backs signs

/-- A record that the ledger takes is the next one of a process, which never lacks a slot for it. -/
theorem Backs.commits (produced : Produced executor.config executor.state record reserve)
    (room : reserve < executor.journal.caps.maxRecords - executor.journal.records.length)
    (ruled : regime.rule record) (filed : ¬ Misfiled executor.state record) : wp (commit host record)
      (fun _ after => Moves regime.rule identity executor after ∧ after.state = executor.state.next record)
      (fun error after => Moves regime.rule identity executor after ∧ Afforded after error) executor := by
  subst signs
  have applied : validateRecord executor.config host.signer.publicKey record = .ok () →
      applyRecord executor.config host.signer.publicKey record executor.state = .ok () (executor.state.next record) := by
    intro valid
    have filing : Filing regime.rule host.signer.publicKey executor record := ⟨⟨reserve, produced, room⟩, valid, ruled⟩
    rcases backs.filing filing with misfiled | ⟨_, taken⟩
    · exact absurd misfiled filed
    · exact taken.applies backs.held.grown.settled
  have failed : wp (commit host record) (fun _ _ => True) (fun error after => Afforded after error) executor := by
    unfold commit
    rw [wp_bind, wp_get]
    refine wp_check (fun _ invalid => validateRecord_afforded invalid) fun _ valid => ?_
    rw [wp_bind, wp_tick, wp_bind, wp_zoom]
    refine wp_mono (wp_append_afforded (Nat.lt_of_sub_pos (by exact Nat.zero_lt_of_lt room))) (fun entry journal _ => ?_) fun error journal named => ?_
    · rw [inState, wp_zoom]
      refine wp_intro (fun _ _ _ => trivial) fun error _ run => ?_
      rw [applied valid] at run
      cases run
    · refine ⟨by simp, fun message limit => named message ?_⟩
      exact ExecutorError.journal.inj limit
  refine wp_imp (wp_and (wp_commit_moves produced room ruled) failed) ?_
  rintro _ after ⟨done, -⟩
  have taken := done.applied
  rw [applied (validateRecord_of_applyRecord taken)] at taken
  exact ⟨done.moves, (EStateM.Result.ok.inj taken).2.symm⟩

/-- A process that has outgrown its caps. -/
def Strained (executor : FunctionExecutor) : Prop :=
  executor.journal.caps.maxRecords - executor.journal.records.length < durableRecordReservations executor.state ∨
    executor.config.maxAttempts < executor.state.attempts.size ∨
    executor.config.maxDeployments < executor.state.deployments.size

/-- One interrupted attempt is ended. -/
theorem Backs.terminalises (found : executor.state.attempts.get? attempt.grant.payload.attempt = some attempt)
    (running : attempt.terminal = false) : wp (terminaliseRecovered host attempt)
      (fun _ after => Moves regime.rule identity executor after ∧ ∃ receipt,
        receipt.payload.attempt = attempt.grant.payload.attempt ∧ stageTerminal receipt.payload.stage = true ∧
          after.state = executor.state.receiving receipt attempt)
      (fun error after => Moves regime.rule identity executor after ∧ (Afforded after error ∨ Strained after)) executor := by
  subst signs
  unfold terminaliseRecovered
  rw [wp_bind, wp_get]
  refine wp_seq wp_ensureAppendCapacity_cases ?_ ?_
  · rintro _ _ ⟨rfl, room⟩
    refine wp_check (fun error unsigned => ⟨.refl, ?_⟩) fun receipt signed => ?_
    · obtain ⟨_, _, rfl⟩ := mapError_eq_error.mp unsigned
      exact .inl (afforded_of_ne (by simp) (by simp))
    rw [ofSigning, mapError_eq_ok] at signed
    obtain ⟨-, -, payload⟩ := SignedRecord.sign_eq_ok signed
    have speaks : Speaks attempt receipt := ⟨by rw [payload], by rw [payload]⟩
    have next : receipt.payload.sequence = attempt.receipts.length + 1 := by rw [payload]
    have stage : receipt.payload.stage = recoveryStage attempt.grant.payload.delivery := by rw [payload]
    have produced : Produced executor.config executor.state (.receipt receipt) _ :=
      produced_recovery found running speaks next stage
    have ruled : regime.rule (.receipt receipt) :=
      regime.lenient _ (ordinary_of_stage (by rw [stage]; exact recoveryStage_ne_claimed))
    have filed : ¬ Misfiled executor.state (.receipt receipt) := by
      rintro ⟨second, record, same, many, -⟩
      rw [speaks.attempt, found] at same
      obtain rfl := Option.some.inj same
      omega
    refine wp_mono (backs.commits rfl produced room ruled filed) ?_ ?_
    · rintro _ after ⟨moves, taken⟩
      refine ⟨moves, receipt, speaks.attempt, by rw [stage]; exact stageTerminal_recoveryStage, ?_⟩
      rw [taken, ExecutorState.next, speaks.attempt, found]
      rfl
    · rintro error after ⟨moves, failed⟩
      exact ⟨moves, .inl failed⟩
  · rintro error _ ⟨rfl, uncertain | short⟩
    · exact ⟨.refl, .inl (afforded_of_uncertain uncertain)⟩
    have some : 0 < executor.state.nonterminalAttempts := by
      rw [backs.held.grown.settled.counted.attempts]
      exact SortedMap.count_pos found (by simp [running])
    have positive : 0 < durableRecordReservations executor.state := by
      unfold durableRecordReservations saturatingAdd
      omega
    exact ⟨.refl, .inr (.inl (by omega))⟩

/-- The interrupted attempts are ended one after the other, and no other attempt is touched. -/
theorem Backs.terminalisesEach {attempts : List AttemptRecord}
    (apart : attempts.Pairwise fun one other => one.grant.payload.attempt ≠ other.grant.payload.attempt)
    (running : ∀ attempt ∈ attempts, executor.state.attempts.get? attempt.grant.payload.attempt = some attempt ∧
      attempt.terminal = false) : wp (terminaliseEach host attempts)
      (fun _ after => Moves regime.rule identity executor after ∧
        ∀ key record, after.state.attempts.get? key = some record →
          record.terminal = true ∨ executor.state.attempts.get? key = some record ∧ record ∉ attempts)
      (fun error after => Moves regime.rule identity executor after ∧ (Afforded after error ∨ Strained after)) executor := by
  induction attempts generalizing executor ledger with
  | nil => exact ⟨.refl, fun _ _ found => .inr ⟨found, List.not_mem_nil⟩⟩
  | cons attempt rest ih =>
    obtain ⟨others, apart⟩ := List.pairwise_cons.mp apart
    obtain ⟨⟨found, open'⟩, running⟩ := List.forall_mem_cons.mp running
    unfold terminaliseEach
    refine wp_then (backs.terminalises signs found open') ?_
    rintro _ middle ⟨moves, receipt, named, ends, state⟩
    obtain ⟨longer, _, backs⟩ := backs.stirs moves.stirs
    have kept : ∀ key, key ≠ attempt.grant.payload.attempt →
        middle.state.attempts.get? key = executor.state.attempts.get? key := by
      intro key other
      rw [state]
      exact SortedMap.get?_insert_of_ne _ _ (named ▸ other)
    refine wp_mono (ih backs apart ?_) ?_ ?_
    · intro other member
      rw [kept _ (others other member).symm]
      exact running other member
    · rintro _ after ⟨later, ended⟩
      refine ⟨moves.trans later, fun key record inAfter => ?_⟩
      rcases ended key record inAfter with terminal | ⟨inMiddle, absent⟩
      · exact .inl terminal
      · by_cases same : key = attempt.grant.payload.attempt
        · left
          rw [state, same, ← named] at inMiddle
          obtain rfl := Option.some.inj ((SortedMap.get?_insert_self _ _ _).symm.trans inMiddle)
          exact (congrArg (_ || ·) ends).trans (Bool.or_true _)
        · right
          rw [kept key same] at inMiddle
          refine ⟨inMiddle, fun member => (List.mem_cons.mp member).elim ?_ absent⟩
          rintro rfl
          have own := (backs.held.grown.settled.sound key record (by rw [kept key same]; exact inMiddle)).1
          exact same own.symm
    · exact fun _ _ failed => ⟨moves.trans failed.1, failed.2⟩

end

theorem wp_ensureReservedCapacity :
    wp ensureReservedCapacity (fun _ after => executor = after)
      (fun error after => executor = after ∧ (Afforded executor error ∨ Strained executor)) executor := by
  unfold ensureReservedCapacity
  rw [wp_bind, wp_get]
  refine wp_check (fun error sick => ⟨rfl, .inl (afforded_of_uncertain (remainingRecords_eq_error sick))⟩) ?_
  intro remaining counted
  simp only [mapError_eq_ok, SignedJournal.remainingRecords, bind_eq_ok, pure_eq_ok] at counted
  obtain ⟨_, _, rfl⟩ := counted
  rw [wp_lift]
  exact ⟨fun _ _ => rfl, fun _ full => ⟨rfl, .inr (.inl (reject_eq_error.mp full).1)⟩⟩

theorem validateReservationCounters_afforded
    (failed : validateReservationCounters state = .error error) : Afforded executor error := by
  refine afforded_of_ne ?_ fun _ => ?_
  all_goals
    rintro rfl
    simp [validateReservationCounters, bind_eq_error, reject_eq_error] at failed

/-- What was replayed is settled: every attempt has ended, or is a claim whose call was never made. -/
theorem Backs.settles (backs : Backs regime executor ledger) (signs : host.signer.publicKey = identity) :
    wp (settleRecovered host)
      (fun _ after => Moves regime.rule identity executor after ∧
        ∀ key record, after.state.attempts.get? key = some record → record.terminal = true ∨
          executor.state.attempts.get? key = some record ∧
            (record.receipts.getLast?.map fun receipt => receipt.payload.stage) = some .claimed)
      (fun error after => Moves regime.rule identity executor after ∧ (Afforded after error ∨ Strained after)) executor := by
  have sound := backs.held.grown.settled.sound
  unfold settleRecovered
  rw [wp_bind, wp_get]
  refine wp_check (fun _ failed => ⟨.refl, .inl (validateReservationCounters_afforded failed)⟩) fun _ _ => ?_
  refine wp_seq wp_ensureReservedCapacity ?_ fun _ _ ⟨same, reason⟩ => same ▸ ⟨.refl, reason⟩
  rintro _ _ rfl
  refine wp_check (fun _ full => ⟨.refl, .inr (.inr (.inl (reject_eq_error.mp full).1))⟩) fun _ _ => ?_
  refine wp_check (fun _ full => ⟨.refl, .inr (.inr (.inr (reject_eq_error.mp full).1))⟩) fun _ _ => ?_
  refine wp_then (backs.terminalisesEach signs ?_ ?_) ?_
  · refine (SortedMap.pairwise_values ?_).filter _
    intro key other one two first second apart
    rw [(sound key one first).1, (sound other two second).1]
    exact apart
  · intro attempt member
    obtain ⟨listed, open'⟩ := List.mem_filter.mp member
    obtain ⟨key, found⟩ := executor.state.attempts.mem_values_iff.mp listed
    rw [(sound key attempt found).1]
    exact ⟨found, by simp at open'; exact open'.1⟩
  · rintro _ after ⟨moves, ended⟩
    rw [wp_bind, wp_get]
    refine wp_check (fun _ failed => ⟨moves, .inl (validateReservationCounters_afforded failed)⟩) fun _ _ => ?_
    refine wp_mono wp_ensureReservedCapacity ?_ fun _ _ ⟨same, reason⟩ => same ▸ ⟨moves, reason⟩
    rintro _ _ rfl
    refine ⟨moves, fun key record found => ?_⟩
    rcases ended key record found with terminal | ⟨earlier, absent⟩
    · exact .inl terminal
    · by_cases terminal : record.terminal = true
      · exact .inl terminal
      · refine .inr ⟨earlier, by_contra fun other => absent (List.mem_filter.mpr ⟨?_, by simp [terminal, other]⟩)⟩
        exact executor.state.attempts.mem_values_iff.mpr ⟨key, earlier⟩

/-- What a process leaves behind when it stops. -/
theorem Backs.down (backs : Backs regime executor ledger) :
    ∃ longer state, ledger <+: longer ∧ Rests regime (eventsOf executor.journal.files.records) longer state := by
  rcases backs.disk with same | ⟨_, longer, state, further, held⟩
  · exact ⟨ledger, executor.state, List.prefix_rfl, same ▸ backs.held⟩
  · exact ⟨longer, state, further, held⟩

theorem openJournal_caps (opened : openJournal config host fault files = .ok executor) :
    host.signer.publicKey = config.executor ∧ executor.journal.caps = config.journalCaps := by
  simp only [openJournal, SignedJournal.openWithSchema, bind_eq_ok, mapError_eq_ok,
    pure_eq_ok, reject_eq_ok, not_not] at opened
  obtain ⟨_, _, _, signs, journal, recovered, rfl⟩ := opened
  simp only [SignedJournal.openWithAuthority, bind_eq_ok, pure_eq_ok] at recovered
  obtain ⟨_, _, _, _, _, _, _, _, _, _, rfl⟩ := recovered
  exact ⟨signs, rfl⟩

section

variable (held : Rests regime (eventsOf files.records) ledger state) (own : config.executor = identity)
  (place : regime.place config) (opened : openJournal config host fault files = .ok first)

include held own place opened

/-- A process that has replayed its journal rests on the ledger behind the files. -/
theorem Rests.replayed {replayed : ExecutorState}
    (run : replay first.config identity first.journal.events first.state = .ok () replayed) :
    replayed = state ∧ Backs regime { first with state := replayed } ledger := by
  obtain ⟨configured, initial, records, logged⟩ := openJournal_eq_ok opened
  have events : first.journal.events = eventsOf files.records := by rw [SignedJournal.events, records]
  rw [initial, events] at run
  rcases held.events with same | ⟨_, broken⟩
  · rw [same] at run
    obtain rfl := held.grown.replay_eq run
    refine ⟨rfl, ?_, by rw [configured]; exact own, by rw [configured]; exact place, ?_, .inl (by rw [records, logged])⟩
    · exact events ▸ held
    · rw [configured]
      exact (openJournal_caps opened).2
  · exact absurd run (broken _ _)

/-- Reopening a root. -/
theorem Rests.recovers : wp (recoverState host)
      (fun _ after => ∃ longer, ledger <+: longer ∧ Backs regime after longer)
      (fun _ after => ∃ longer final, ledger <+: longer ∧
        Rests regime (eventsOf after.journal.files.records) longer final) first := by
  obtain ⟨configured, initial, records, logged⟩ := openJournal_eq_ok opened
  have signs : host.signer.publicKey = identity := (openJournal_caps opened).1.trans own
  unfold recoverState
  rw [wp_bind, wp_get, wp_bind, inState, wp_zoom]
  refine wp_intro (fun _ replayed run => ?_) fun _ _ _ => ?_
  · rw [signs] at run
    obtain ⟨_, backs⟩ := held.replayed own place opened run
    refine wp_mono (backs.settles signs) ?_ ?_
    · rintro _ after ⟨moves, _⟩
      exact backs.stirs moves.stirs
    · rintro error after ⟨moves, _⟩
      obtain ⟨middle, earlier, backs⟩ := backs.stirs moves.stirs
      obtain ⟨longer, final, later, held⟩ := backs.down
      exact ⟨longer, final, earlier.trans later, held⟩
  · refine ⟨ledger, state, List.prefix_rfl, ?_⟩
    rw [logged]
    exact held

end

/-! The ledger behind every root. -/

/-- The ledger that a root rests on, and the state it leads to. -/
def Root.Rests (regime : Regime identity) (ledger : List ExecutorLedgerRecord) (state : ExecutorState) : Root → Prop
  | .down files => Executor.Rests regime (eventsOf files.records) ledger state
  | .up executor => executor.state = state ∧ Backs regime executor ledger

/-- What a root has on disk rests on a ledger too. -/
theorem Root.Rests.onDisk {root : Root} (rests : root.Rests regime ledger state) :
    ∃ longer final, ledger <+: longer ∧ Executor.Rests regime (eventsOf root.files.records) longer final := by
  cases root with
  | down files => exact ⟨ledger, state, List.prefix_rfl, rests⟩
  | up executor => exact rests.2.down

/-- A label that the regime allows. -/
def Label.Abides (regime : Regime identity) : Label → Prop
  | .reopen config _ _ => regime.place config
  | .operate _ (.recordStage _ stage _) =>
    ∀ receipt : SignedRecord ExecutionReceipt, receipt.payload.stage = stage → regime.rule (.receipt receipt)
  | _ => True

theorem stirs_run {operation : Operation} (signs : host.signer.publicKey = identity)
    (abides : (Label.operate host operation).Abides regime) : Along (Stirs regime.rule identity) (operation.run host) := by
  subst signs
  cases operation with
  | message envelope => exact respond_stirs regime.lenient host
  | bind me => exact bind_stirs regime.lenient host
  | recover => exact recoveryDispatches_stirs regime.lenient host
  | claim grant =>
    refine ((claim_moves regime.lenient.permits trivial).mono fun _ _ moves => moves.stirs).bind fun outcome => ?_
    cases outcome <;> exact Along.pure _
  | recordStage attempt stage observedAtUnixMs =>
    exact ((recordStage_moves abides).mono fun _ _ moves => moves.stirs).bind
      fun _ => Along.pure _
  | query request =>
    exact ((query_moves regime.lenient.permits).mono fun _ _ moves => moves.stirs).bind fun _ => Along.pure _

omit [Crypto] in
theorem along_handled {relation : FunctionExecutor → FunctionExecutor → Prop}
    {after : FunctionExecutor} (along : Along relation program)
    (ran : handled program executor = (sent, after)) : relation executor after := by
  unfold handled at ran
  split at ran
  · rename_i run
    cases ran
    have moved := wp_ok (along executor) run
    exact moved
  · rename_i run
    cases ran
    have moved := wp_error (along executor) run
    exact moved

/-- A step leaves the ledger as it is, or makes it longer. -/
theorem Root.Rests.step {label : Label} (rests : before.root.Rests regime ledger state)
    (taken : Step identity before label after) (abides : label.Abides regime) :
    ∃ longer final, ledger <+: longer ∧ after.root.Rests regime longer final := by
  cases taken with
  | opened own opened =>
    unfold openWithLiveness at opened
    split at opened
    · cases opened
    · rename_i first journal
      split at opened
      · rename_i run
        cases opened
        obtain ⟨longer, further, backs⟩ := wp_ok (rests.recovers own abides journal) run
        exact ⟨longer, _, further, rfl, backs⟩
      · cases opened
  | openFailed own failed =>
    unfold openWithLiveness at failed
    split at failed
    · cases failed
      exact ⟨ledger, state, List.prefix_rfl, rests⟩
    · rename_i first journal
      split at failed
      · cases failed
      · rename_i run
        cases failed
        have left := wp_error (rests.recovers own abides journal) run
        exact left
  | operated signs ran =>
    obtain ⟨rfl, backs⟩ := rests
    obtain ⟨longer, further, backs⟩ := backs.stirs (along_handled (stirs_run signs abides) ran)
    exact ⟨longer, _, further, rfl, backs⟩
  | emitted => exact ⟨ledger, state, List.prefix_rfl, rests⟩
  | crashed => exact rests.2.down

/-- The runs of a root in which every step is allowed. -/
def Regime.system (regime : Regime identity) : TransitionSystem World Label :=
  (executorSystem identity).restrict fun _ label => label.Abides regime

theorem Root.Rests.leads (rests : before.root.Rests regime ledger state) (run : regime.system.Leads before after) :
    ∃ longer final, ledger <+: longer ∧ after.root.Rests regime longer final := by
  induction run with
  | refl => exact ⟨ledger, state, List.prefix_rfl, rests⟩
  | tail _ next ih =>
    obtain ⟨middle, _, earlier, rests⟩ := ih
    obtain ⟨label, taken, abides⟩ := next
    obtain ⟨longer, final, later, rests⟩ := rests.step taken abides
    exact ⟨longer, final, earlier.trans later, rests⟩

/-- Every root that a run reaches rests on a ledger. -/
theorem rests_of_reachable {world : World} (reached : regime.system.Reachable world) :
    ∃ ledger state, world.root.Rests regime ledger state := by
  obtain ⟨_, rfl, run⟩ := reached
  have empty : (World.mk (.down .empty) [] []).root.Rests regime [] .initial := .nil
  obtain ⟨ledger, state, _, rests⟩ := empty.leads run
  exact ⟨ledger, state, rests⟩

/-- Processes may be opened for any place and under any caps that fit a machine word, and record any stage. -/
def anywhere (identity : Text) : Regime identity where
  rule _ := True
  place config := config.journalCaps.maxRecords < 2 ^ 64
  faulty := True
  lenient _ _ := trivial
  seated _ _ seat here := (congrArg (fun config => config.journalCaps.maxRecords) seat).trans_lt here
  machine _ here := here
  misfiles _ _ _ _ _ := trivial

end

end Gawd.Executor
