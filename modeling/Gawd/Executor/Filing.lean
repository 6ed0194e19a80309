import Gawd.Executor.Counting

/-!
What the operations of a running executor append, walked through once for all of them.
-/

namespace Gawd.Executor

open Gawd.Logic Gawd.Wire Gawd.Journal

/-- Binding a creature changes nothing else of the configuration. -/
def Seated (before after : ExecutorConfig) : Prop :=
  after = { before with executorCreature := after.executorCreature }

variable {host : Host} {α : Type} {failure : ExecutorError → FunctionExecutor → Prop} {state : ExecutorState}
  {sent : List Dispatch} {work : AttemptRecoveryWork} {relation : FunctionExecutor → FunctionExecutor → Prop}

theorem remainingRecords_eq_error {journal : SignedJournal ExecutorLedgerRecord}
    (failed : mapError ExecutorError.journal journal.remainingRecords = .error error) :
    error = .journal .uncertain := by
  simp only [mapError_eq_error, SignedJournal.remainingRecords, SignedJournal.ensureHealthy, bind_eq_error,
    reject_eq_error] at failed
  obtain ⟨_, ⟨_, rfl⟩ | ⟨_, _, ⟨⟩⟩, rfl⟩ := failed
  rfl

/-- An append asks a healthy journal for a free slot behind the reservations. -/
theorem wp_ensureAppendCapacity_cases {executor : FunctionExecutor} :
    wp (ensureAppendCapacity reserve)
      (fun _ after => executor = after ∧ reserve < executor.journal.caps.maxRecords - executor.journal.records.length)
      (fun error after => executor = after ∧ (error = .journal .uncertain ∨
        executor.journal.caps.maxRecords - executor.journal.records.length ≤ reserve)) executor := by
  unfold ensureAppendCapacity
  rw [wp_bind, wp_get]
  refine wp_check (fun error sick => ⟨rfl, .inl (remainingRecords_eq_error sick)⟩) fun remaining counted => ?_
  simp only [mapError_eq_ok, SignedJournal.remainingRecords, bind_eq_ok, pure_eq_ok] at counted
  obtain ⟨_, _, rfl⟩ := counted
  rw [wp_lift]
  exact ⟨fun _ free => ⟨rfl, Nat.not_le.mp (reject_eq_ok.mp free)⟩,
    fun _ full => ⟨rfl, .inr (reject_eq_error.mp full).1⟩⟩

theorem wp_ensureAppendCapacity {executor : FunctionExecutor} : wp (ensureAppendCapacity reserve)
      (fun _ after => executor = after ∧ reserve < executor.journal.caps.maxRecords - executor.journal.records.length)
      (fun _ after => executor = after) executor :=
  wp_mono wp_ensureAppendCapacity_cases (fun _ _ passed => passed) fun _ _ failed => failed.1

/-- An operation makes sure that there is room for its record, and goes on. -/
theorem wp_room {success : α → FunctionExecutor → Prop} {rest : Unit → Action α}
    (next : reserve < executor.journal.caps.maxRecords - executor.journal.records.length →
      wp (rest ()) success failure executor)
    (failed : ∀ error, failure error executor) :
    wp (ensureAppendCapacity reserve >>= rest) success failure executor := by
  refine wp_seq wp_ensureAppendCapacity ?_ ?_
  · rintro _ _ ⟨rfl, room⟩
    exact next room
  · rintro error _ rfl
    exact failed error

section

variable [Crypto]

/-- A record on its way into the journal: the operation has made its checks, and keeps enough slots free behind it. -/
structure Filing (rule : ExecutorLedgerRecord → Prop) (identity : Text) (executor : FunctionExecutor)
    (record : ExecutorLedgerRecord) : Prop where
  produced : ∃ reserve, Produced executor.config executor.state record reserve ∧
    reserve < executor.journal.caps.maxRecords - executor.journal.records.length
  valid : validateRecord executor.config identity record = .ok ()
  ruled : rule record

/-- One step of a running executor: something aside from journal and state, or the append of one record. -/
inductive Move (rule : ExecutorLedgerRecord → Prop) (identity : Text) (before after : FunctionExecutor) : Prop where
  | aside : after.journal = before.journal → after.state = before.state → after.recoverySweep = before.recoverySweep →
      Seated before.config after.config → Move rule identity before after
  | filed : Filing rule identity before record →
      SignedJournal.Continuation before.journal record identity entry →
      SignedJournal.Appended before.journal entry after.journal →
      applyRecord before.config identity record before.state = .ok () after.state →
      after.recoverySweep = before.recoverySweep → after.config = before.config → Move rule identity before after
  | misfiled : Filing rule identity before record →
      SignedJournal.Continuation before.journal record identity entry →
      SignedJournal.Appended before.journal entry after.journal →
      applyRecord before.config identity record before.state = .error error after.state →
      after.recoverySweep = before.recoverySweep → after.config = before.config → Move rule identity before after
  | poisoned : Filing rule identity before record →
      SignedJournal.Continuation before.journal record identity entry →
      SignedJournal.Poisoned before.journal entry after.journal → after.state = before.state →
      after.recoverySweep = before.recoverySweep → after.config = before.config → Move rule identity before after

variable {executor : FunctionExecutor}

theorem Filing.mono (filing : Filing strict identity executor record)
    (allowed : ∀ record, strict record → rule record) : Filing rule identity executor record :=
  ⟨filing.produced, filing.valid, allowed record filing.ruled⟩

/-- A step by a strict rule is one by a weaker rule. -/
theorem Move.mono (move : Move strict identity before after) (allowed : ∀ record, strict record → rule record) :
    Move rule identity before after := by
  cases move with
  | aside journal state sweep seat => exact .aside journal state sweep seat
  | filed filing continued appended run sweep config =>
    exact .filed (filing.mono allowed) continued appended run sweep config
  | misfiled filing continued appended run sweep config =>
    exact .misfiled (filing.mono allowed) continued appended run sweep config
  | poisoned filing continued poisoned state sweep config =>
    exact .poisoned (filing.mono allowed) continued poisoned state sweep config

/-- Any number of steps. -/
def Moves (rule : ExecutorLedgerRecord → Prop) (identity : Text) : FunctionExecutor → FunctionExecutor → Prop :=
  Relation.ReflTransGen (Move rule identity)

variable {rule : ExecutorLedgerRecord → Prop} {identity : Text}

instance : Std.Refl (Moves rule identity) := ⟨fun _ => .refl⟩

instance : IsTrans FunctionExecutor (Moves rule identity) := ⟨fun _ _ _ => Relation.ReflTransGen.trans⟩

/-- Only the clock moved on. -/
structure Idle (before after : FunctionExecutor) : Prop where
  journal : after.journal = before.journal
  state : after.state = before.state
  sweep : after.recoverySweep = before.recoverySweep
  config : after.config = before.config

theorem Idle.moves (idle : Idle before after) : Moves rule identity before after :=
  .single (.aside idle.journal idle.state idle.sweep (by rw [idle.config]; rfl))

/-- A record that was appended and applied. -/
structure Committed (rule : ExecutorLedgerRecord → Prop) (identity : Text) (record : ExecutorLedgerRecord)
    (before after : FunctionExecutor) : Prop where
  moves : Moves rule identity before after
  applied : applyRecord before.config identity record before.state = .ok () after.state
  config : after.config = before.config

/-- A committed record that is in the log files. -/
structure Logged (rule : ExecutorLedgerRecord → Prop) (identity : Text) (record : ExecutorLedgerRecord)
    (before after : FunctionExecutor) : Prop extends Committed rule identity record before after where
  durable : Durable after.journal.files record

section

variable (produced : Produced executor.config executor.state record reserve)
  (room : reserve < executor.journal.caps.maxRecords - executor.journal.records.length) (ruled : rule record)

include produced room ruled

/-- Committing a record that an operation has checked. -/
theorem wp_commit_moves :
    wp (commit host record) (fun _ after => Logged rule host.signer.publicKey record executor after)
      (fun _ after => Moves rule host.signer.publicKey executor after) executor := by
  unfold commit
  rw [wp_bind, wp_get]
  refine wp_guard fun _ valid => ?_
  have filing : Filing rule host.signer.publicKey executor record := ⟨⟨reserve, produced, room⟩, valid, ruled⟩
  rw [wp_bind, wp_tick, wp_bind, wp_zoom]
  refine SignedJournal.wp_append (fun entry journal continued appended => ?_) (fun _ => Idle.moves ⟨rfl, rfl, rfl, rfl⟩)
    fun entry journal _ continued poisoned => .single (.poisoned filing continued poisoned rfl rfl rfl)
  rw [inState, wp_zoom]
  refine wp_intro (fun _ state run => ?_) fun error state run => ?_
  · refine ⟨⟨.single (.filed filing continued appended run rfl rfl), run, rfl⟩, entry, ?_, continued.event⟩
    exact appended.logged ▸ List.mem_append_right _ (List.mem_singleton_self entry)
  · exact .single (.misfiled filing continued appended run rfl rfl)

/-- An operation files the record that it has checked, and goes on. -/
theorem wp_filed {success : α → FunctionExecutor → Prop} {rest : Unit → Action α}
    (next : ∀ after, Logged rule host.signer.publicKey record executor after → wp (rest ()) success
      (fun _ final => Moves rule host.signer.publicKey executor final) after) :
    wp (commit host record >>= rest) success (fun _ after => Moves rule host.signer.publicKey executor after) executor :=
  wp_then (wp_commit_moves produced room ruled) (fun _ after => next after)

end

/-- No claim is recorded a second time by hand. -/
def Ordinary (record : ExecutorLedgerRecord) : Prop :=
  ∀ receipt, record = .receipt receipt → receipt.payload.stage ≠ .claimed

/-- The rule lets every record pass that is not a claim recorded by hand. -/
def Lenient (rule : ExecutorLedgerRecord → Prop) : Prop :=
  ∀ record, Ordinary record → rule record

omit [Crypto] in
theorem lenient_ordinary : Lenient Ordinary :=
  fun _ => id

/-- The rule lets every such record pass, as long as the grant that it brings may be claimed. -/
def Permits (rule : ExecutorLedgerRecord → Prop) (granted : SignedRecord ExecutionGrant → Prop) : Prop :=
  ∀ record, Ordinary record → record.Trusted granted → rule record

/-- The rule lets every receipt pass that does not record a claim. -/
def Receptive (rule : ExecutorLedgerRecord → Prop) : Prop :=
  ∀ receipt : SignedRecord ExecutionReceipt, receipt.payload.stage ≠ .claimed → rule (.receipt receipt)

/-- A claim whose Started gate has not been crossed. -/
def Resumable (state : ExecutorState) (grant : SignedRecord ExecutionGrant) : Prop :=
  ∃ record, state.attempts.get? grant.payload.attempt = some record ∧ record.terminal = false ∧
    (record.receipts.getLast?.map fun last => last.payload.stage) = some .claimed ∧
    record.grantHash = canonicalHash grant

omit [Crypto] in
/-- Asking whether a target is live. -/
theorem wp_requireLiveTarget :
    wp (requireLiveTarget host target deployment) (fun _ after => Idle executor after) (fun _ after => Idle executor after)
      executor := by
  unfold requireLiveTarget
  rw [wp_bind, wp_tick]
  split <;> exact ⟨rfl, rfl, rfl, rfl⟩

theorem requireLiveTarget_moves :
    Along (Moves rule identity) (requireLiveTarget host target deployment) := fun _ =>
  wp_mono wp_requireLiveTarget (fun _ _ idle => idle.moves) fun _ _ idle => idle.moves

/-- A refusal for want of a live target. -/
theorem wp_signLivenessRefusal {grant : SignedRecord ExecutionGrant} {sequence : Nat} :
    wp (signLivenessRefusal host grant sequence error)
      (fun receipt after => executor = after ∧ receipt.payload.attempt = grant.payload.attempt ∧
        receipt.payload.sequence = sequence ∧ stageTerminal receipt.payload.stage = true ∧
        receipt.payload.grantHash = canonicalHash grant)
      (fun _ after => executor = after) executor := by
  unfold signLivenessRefusal
  split
  case h_3 => exact rfl
  all_goals
    refine wp_imp wp_signReceipt ?_
    rintro receipt _ ⟨rfl, attempt, next, stage, hash⟩
    exact ⟨rfl, attempt, next, by rw [stage]; rfl, hash⟩

section

omit [Crypto]

theorem ordinary_of_stage {receipt : SignedRecord ExecutionReceipt} (other : receipt.payload.stage ≠ .claimed) :
    Ordinary (.receipt receipt) := by
  rintro _ ⟨rfl⟩
  exact other

theorem Lenient.permits (lenient : Lenient rule) : Permits rule fun _ => True :=
  fun record ordinary _ => lenient record ordinary

theorem Permits.receptive (permits : Permits rule granted) : Receptive rule :=
  fun _ other => permits _ (ordinary_of_stage other) trivial

theorem Permits.stage (permits : Permits rule granted) {stage : ExecutionStage} (other : stage ≠ .claimed)
    (receipt : SignedRecord ExecutionReceipt) (same : receipt.payload.stage = stage) : rule (.receipt receipt) :=
  permits.receptive receipt (same ▸ other)

end

/-! One walk through a claim. -/

/-- The receipts that a claim reports. -/
def ClaimOutcome.receipts : ClaimOutcome → List (SignedRecord ExecutionReceipt)
  | .claimed receipts _ _ => receipts
  | .duplicate receipt => [receipt]
  | .terminal receipt => [receipt]

/-- At most two receipts, all for the attempt. -/
structure ClaimOutcome.Reports (attempt : AttemptId) (outcome : ClaimOutcome) : Prop where
  few : outcome.receipts.length ≤ 2
  named : ∀ receipt ∈ outcome.receipts, receipt.payload.attempt = attempt

omit [Crypto] in
theorem ClaimOutcome.Reports.single {outcome : ClaimOutcome} {receipt : SignedRecord ExecutionReceipt}
    (one : outcome.receipts = [receipt]) (named : receipt.payload.attempt = attempt) :
    outcome.Reports attempt := by
  refine ⟨by rw [one]; exact Nat.le_succ _, fun other member => ?_⟩
  rw [one, List.mem_singleton] at member
  rwa [member]

/-- What a claim comes to: receipts of its attempt, if those that are known are, and at most the call of an attempt
whose Started receipt was filed last. -/
structure Claims (rule : ExecutorLedgerRecord → Prop) (identity : Text) (grant : SignedRecord ExecutionGrant)
    (known : Prop) (before : FunctionExecutor) (outcome : ClaimOutcome) (after : FunctionExecutor) : Prop where
  moves : Moves rule identity before after
  reports : known → outcome.Reports grant.payload.attempt
  begins : ∀ call ∈ outcome.calls, call.attempt = grant.payload.attempt ∧ call.grant = grant ∧
    ∃ middle receipt, Moves rule identity before middle ∧ Logged rule identity (.receipt receipt) middle after ∧
      receipt.payload.attempt = grant.payload.attempt ∧ receipt.payload.sequence = 2 ∧ receipt.payload.stage = .started

/-- The program claims, or fails after some moves. -/
abbrev Claiming (rule : ExecutorLedgerRecord → Prop) (host : Host) (grant : SignedRecord ExecutionGrant) (known : Prop)
    (program : Action ClaimOutcome) (executor : FunctionExecutor) : Prop :=
  wp program (Claims rule host.signer.publicKey grant known executor)
    (fun _ after => Moves rule host.signer.publicKey executor after) executor

/-- One receipt and no call. -/
theorem Claims.told (moved : Moves rule identity before after) (one : outcome.receipts = [receipt])
    (silent : outcome.calls = []) (named : known → receipt.payload.attempt = grant.payload.attempt) :
    Claims rule identity grant known before outcome after :=
  ⟨moved, fun held => .single one (named held), by simp [silent]⟩

theorem Claims.of_moves (moved : Moves rule identity before middle)
    (claims : Claims rule identity grant known middle outcome after) :
    Claims rule identity grant known before outcome after := by
  refine ⟨moved.trans claims.moves, claims.reports, fun call member => ?_⟩
  obtain ⟨attempt, carries, start, receipt, moves, rest⟩ := claims.begins call member
  exact ⟨attempt, carries, start, receipt, moved.trans moves, rest⟩

theorem Claiming.after (moved : Moves rule host.signer.publicKey before executor)
    (spec : Claiming rule host grant known program executor) :
    wp program (Claims rule host.signer.publicKey grant known before)
      (fun _ after => Moves rule host.signer.publicKey before after) executor :=
  wp_mono spec (fun _ _ claims => claims.of_moves moved) fun _ _ later => moved.trans later

section

variable {grant : SignedRecord ExecutionGrant} {known : Prop} (receptive : Receptive rule)
  (resumable : Resumable executor.state grant)

include receptive resumable

theorem failBeforeStart_claims : Claiming rule host grant known (failBeforeStart host grant error) executor := by
  obtain ⟨record, found, running, last, hash⟩ := resumable
  unfold Claiming failBeforeStart
  rw [wp_bind, wp_get]
  refine wp_room (fun room => ?_) fun _ => .refl
  refine wp_seq wp_signLivenessRefusal ?_ fun _ _ same => same ▸ .refl
  rintro failed _ ⟨rfl, attempt, second, ends, named⟩
  have produced : Produced executor.config executor.state (.receipt failed)
      (durableRecordReservations executor.state - (stageTerminal failed.payload.stage).toNat) :=
    .resume (by rw [attempt]; exact found) running last (by rw [named, hash]) second (.inr ends)
  rw [ends] at produced
  have plain : failed.payload.stage ≠ .claimed := fun same => by rw [same] at ends; cases ends
  exact wp_filed produced room (receptive _ plain) fun _ done => .told done.moves rfl rfl fun _ => attempt

variable {claimed : SignedRecord ExecutionReceipt} (named : known → claimed.payload.attempt = grant.payload.attempt)

include named

/-- The call of a started attempt: its Started receipt was the second one and is durable. -/
theorem startAttempt_claims : Claiming rule host grant known (startAttempt host grant claimed target) executor := by
  obtain ⟨record, found, running, last, hash⟩ := resumable
  unfold Claiming startAttempt
  rw [wp_bind, wp_get]
  refine wp_room (fun room => wp_signed (fun started attempt second stage hashed => ?_) fun _ => .refl) fun _ => .refl
  have produced : Produced executor.config executor.state (.receipt started)
      (durableRecordReservations executor.state - (stageTerminal started.payload.stage).toNat) :=
    .resume (by rw [attempt]; exact found) running last (by rw [hashed, hash]) second (.inl stage)
  rw [stage] at produced
  have plain : started.payload.stage ≠ .claimed := fun same => by rw [stage] at same; cases same
  refine wp_filed produced room (receptive _ plain) fun after done => ?_
  refine wp_seq wp_functionCall ?_ fun _ _ same => same ▸ done.moves
  rintro call _ ⟨rfl, names, carries⟩
  rw [wp_pure]
  refine ⟨done.moves, fun held => ⟨Nat.le_refl _, ?_⟩, fun other member => ?_⟩
  · simp [ClaimOutcome.receipts, named held, attempt]
  · obtain rfl := List.mem_singleton.mp member
    exact ⟨names, carries, executor, started, .refl, done, attempt, second, stage⟩

/-- Once the target of a resumable claim has been looked at, the attempt starts or fails. -/
theorem startOrFail_claims {id : Nat} : Claiming rule host grant known (do
        match ← observe (requireLiveTarget host id grant.payload.deployment.payload) with
        | .error error => failBeforeStart host grant error
        | .ok _ => startAttempt host grant claimed target) executor := by
  rw [Claiming, wp_bind, wp_observe]
  refine wp_mono wp_requireLiveTarget (fun _ middle idle => ?_) fun _ middle idle => ?_
  · exact (startAttempt_claims receptive (idle.state ▸ resumable) named).after idle.moves
  · exact (failBeforeStart_claims receptive (idle.state ▸ resumable)).after idle.moves

end

variable {host : Host} {granted : SignedRecord ExecutionGrant → Prop}

section

variable {grant : SignedRecord ExecutionGrant}

/-- The receipts that are known of an attempt are its own. -/
def Named (state : ExecutorState) (attempt : AttemptId) : Prop :=
  ∀ existing, state.attempts.get? attempt = some existing → ∀ receipt ∈ existing.receipts, receipt.payload.attempt = attempt

theorem claimAgain_claims (receptive : Receptive rule)
    (found : executor.state.attempts.get? grant.payload.attempt = some existing) :
    Claiming rule host grant (Named executor.state grant.payload.attempt) (claimAgain host grant existing) executor := by
  unfold claimAgain
  refine wp_guard fun _ same => wp_guard fun receipt last => ?_
  rw [reject_eq_ok, ne_eq, not_not] at same
  rw [orError_eq_ok] at last
  have named (known : Named executor.state grant.payload.attempt) : receipt.payload.attempt = grant.payload.attempt :=
    known existing found receipt (List.mem_of_getLast? last)
  split
  · rename_i waits
    refine wp_guard fun _ _ => ?_
    exact startOrFail_claims receptive ⟨existing, found, waits.1, by rw [last, Option.map_some, waits.2], same⟩ named
  · split <;> exact .told .refl rfl rfl named

/-- The first receipt of an attempt that was not known. -/
theorem wp_applyClaim_first
    (absent : state.attempts.get? grant.payload.attempt = none) :
    wp (applyClaim grant receipt)
      (fun _ after => ∃ ordinal, after.attempts.get? grant.payload.attempt = some (.first grant receipt ordinal))
      (fun _ _ => True) state := by
  unfold applyClaim
  rw [wp_bind, wp_get]
  refine wp_assume fun _ _ => wp_assume fun _ _ => ?_
  rw [absent]
  refine wp_whatever (fun _ _ => trivial) fun _ _ => wp_whatever (fun _ _ => trivial) fun ordinal _ => ?_
  exact wp_whatever (fun _ _ => trivial) fun _ _ => ⟨ordinal, SortedMap.get?_insert_self _ _ _⟩

theorem claimFirst_claims (permits : Permits rule granted) (trust : granted grant)
    (absent : executor.state.attempts.get? grant.payload.attempt = none)
    (unfenced : validateHomeFence executor.state grant = .ok ()) :
    Claiming rule host grant known (claimFirst host grant) executor := by
  unfold Claiming claimFirst
  rw [wp_bind, wp_get]
  refine wp_guard fun _ room => wp_guard fun registered held => ?_
  refine wp_guard fun _ same => wp_guard fun found _ => ?_
  rw [reject_eq_ok, not_le] at room
  rw [orError_eq_ok] at held
  rw [reject_eq_ok, ne_eq, not_not] at same
  have admissible : Admissible executor.config executor.state grant := ⟨absent, ⟨registered, held, same⟩, unfenced, room⟩
  rw [wp_bind, wp_observe]
  refine wp_mono wp_requireLiveTarget ?_ ?_
  · intro _ middle idle
    refine Claiming.after idle.moves (wp_room (fun free => ?_) fun _ => .refl)
    refine wp_signed (fun receipt named _ stage _ => ?_) fun _ => .refl
    rw [← idle.state, ← idle.config] at admissible
    rw [← idle.state] at free absent
    refine wp_filed (.claim admissible) free (permits _ (by simp [Ordinary]) trust) fun after done => ?_
    have resumable : Resumable after.state grant := by
      have spec : wp (applyRecord middle.config host.signer.publicKey (.claim grant receipt))
          (fun _ after => ∃ ordinal, after.attempts.get? grant.payload.attempt = some (.first grant receipt ordinal))
          (fun _ _ => True) middle.state :=
        wp_assume fun _ _ => wp_applyClaim_first absent
      obtain ⟨ordinal, held⟩ := wp_ok spec done.applied
      exact ⟨_, held, by simp [AttemptRecord.first, stage, stageTerminal], by simp [AttemptRecord.first, stage], rfl⟩
    exact (startOrFail_claims permits.receptive resumable fun _ => named).after done.moves
  · intro error middle idle
    refine Claiming.after idle.moves (wp_room (fun free => ?_) fun _ => .refl)
    refine wp_seq wp_signLivenessRefusal ?_ fun _ _ same => same ▸ .refl
    rintro failed _ ⟨rfl, named, _⟩
    rw [← idle.state, ← idle.config] at admissible
    rw [← idle.state] at free
    exact wp_filed (.refuse admissible) free (permits _ (by simp [Ordinary]) trust) fun _ done =>
      .told done.moves rfl rfl fun _ => named

/-- The way of a grant to the branch that its attempt decides. -/
theorem wp_claim_cases {success : ClaimOutcome → FunctionExecutor → Prop}
    (refused : ∀ error, failure error executor)
    (again : ∀ existing, executor.state.attempts.get? grant.payload.attempt = some existing →
      grant.payload.deployment.payload.executor = executor.config.executor →
      wp (claimAgain host grant existing) success failure executor)
    (first : executor.state.attempts.get? grant.payload.attempt = none → validateHomeFence executor.state grant = .ok () →
      grant.payload.deployment.payload.executor = executor.config.executor →
      wp (claimFirst host grant) success failure executor) : wp (claim host grant) success failure executor := by
  unfold claim
  refine wp_operational ?_ refused
  refine wp_check (fun _ _ => refused _) fun _ _ => wp_check (fun _ _ => refused _) fun _ _ => ?_
  refine wp_check (fun _ _ => refused _) fun _ _ => ?_
  rw [wp_bind, wp_get]
  refine wp_check (fun _ _ => refused _) fun _ own => wp_check (fun _ _ => refused _) fun _ unfenced => ?_
  rw [reject_eq_ok, ne_eq, not_not] at own
  split
  · rename_i existing found
    exact again existing found own
  · rename_i absent
    exact first absent unfenced own

theorem wp_claim (permits : Permits rule granted) (trust : granted grant) :
    wp (claim host grant) (fun outcome after =>
        Claims rule host.signer.publicKey grant (Named executor.state grant.payload.attempt) executor outcome after ∧
          grant.payload.deployment.payload.executor = executor.config.executor)
      (fun _ after => Moves rule host.signer.publicKey executor after) executor :=
  wp_claim_cases (fun _ => .refl)
    (fun _ found own => wp_imp (claimAgain_claims permits.receptive found) (fun _ _ claims => ⟨claims, own⟩))
    fun absent unfenced own => wp_imp (claimFirst_claims permits trust absent unfenced)
      (fun _ _ claims => ⟨claims, own⟩)

theorem claim_moves (permits : Permits rule granted) (trust : granted grant) :
    Along (Moves rule host.signer.publicKey) (claim host grant) := fun _ =>
  wp_imp (wp_claim permits trust) (fun _ _ claims => claims.1.moves)

end

theorem recordStage_moves
    (ruled : ∀ receipt : SignedRecord ExecutionReceipt, receipt.payload.stage = stage → rule (.receipt receipt)) :
    Along (Moves rule host.signer.publicKey) (recordStage host attempt stage observedAtUnixMs) := by
  intro executor
  unfold recordStage
  refine wp_operational (wp_guard fun _ _ => ?_) fun _ => .refl
  rw [wp_bind, wp_get]
  refine wp_guard fun record found => wp_guard fun earlier unanswered => ?_
  rw [orError_eq_ok] at found
  cases earlier with
  | some outcome => exact .refl
  | none =>
    refine wp_guard fun ended open_ => ?_
    cases ended with
    | some outcome => exact .refl
    | none =>
      refine wp_room (fun room => wp_signed (fun receipt named next stage hash => ?_) fun _ => .refl) fun _ => .refl
      subst stage
      exact wp_filed (.stage found ⟨named, hash⟩ next unanswered open_) room (ruled receipt rfl) fun _ done => done.moves

section

variable (permits : Permits rule granted)

include permits

theorem requeueControl_moves {request : SignedRecord ExecutionControl}
    (found : executor.state.controls.get? ⟨request.payload.attempt, request.payload.callerRequest.payload.control⟩ =
      some existing) (unfenced : validateControlFence executor.state request = .ok ()) :
    AlongFrom (Moves rule host.signer.publicKey) (requeueControl host request existing) executor := by
  unfold AlongFrom requeueControl
  rw [wp_bind, wp_get]
  refine wp_guard fun _ same => ?_
  simp only [reject_eq_ok, not_and, Bool.not_eq_false] at same
  split
  · exact .refl
  · rename_i differs
    refine wp_room (fun room => ?_) fun _ => .refl
    exact wp_filed (.requeue found differs (same differs) unfenced) room (permits _ (by simp [Ordinary]) trivial)
      fun _ done => done.moves

theorem recordControlQueued_moves :
    Along (Moves rule host.signer.publicKey) (recordControlQueued host attempt request) := by
  intro executor
  unfold recordControlQueued
  refine wp_operational (wp_guard fun _ _ => wp_guard fun _ named => ?_) fun _ => .refl
  rw [reject_eq_ok, ne_eq, not_not] at named
  subst named
  rw [wp_bind, wp_get]
  refine wp_guard fun _ unfenced => wp_guard fun record found => ?_
  refine wp_guard fun _ exact => ?_
  rw [orError_eq_ok] at found
  simp only [reject_eq_ok, not_or, not_not] at exact
  split
  · rename_i existing known
    exact requeueControl_moves permits known unfenced
  · rename_i absent
    refine wp_guard fun _ bounded => wp_guard fun _ running => ?_
    rw [reject_eq_ok, not_le] at bounded
    rw [reject_eq_ok, Bool.not_eq_true] at running
    refine wp_room (fun room => wp_signed (fun receipt named next stage hash => ?_) fun _ => .refl) fun _ => .refl
    exact wp_filed (.queue absent found exact.1 exact.2 bounded running unfenced ⟨named, hash⟩ next) room
      (permits _ (by simp [Ordinary]) trivial) fun _ done => done.moves

theorem query_moves : Along (Moves rule host.signer.publicKey) (query host request) := by
  intro executor
  unfold query
  refine wp_operational (wp_guard fun _ _ => ?_) fun _ => .refl
  rw [wp_bind, wp_get]
  refine wp_guard fun record found => wp_guard fun _ _ => ?_
  refine wp_guard fun _ exact => wp_guard fun _ unfenced => ?_
  refine wp_guard fun target _ => ?_
  rw [orError_eq_ok] at found
  simp only [reject_eq_ok, not_or, not_not] at exact
  dsimp only
  split
  · exact .refl
  · refine wp_room (fun room => ?_) fun _ => .refl
    exact wp_filed (.fence found exact.1 exact.2.2 unfenced) room (permits _ (by simp [Ordinary]) trivial)
      fun _ done => done.moves

theorem persistRegistration_moves {receipt : SignedRecord DeploymentReceipt} {first : FunctionExecutor}
    (idle : Idle first executor) (alive : receipt.payload.deployment ∉ first.state.deploymentTombstones)
    (same : ∀ existing, first.state.deployments.get? receipt.payload.deployment = some existing →
      sameDeploymentBinding existing.payload receipt.payload = true) :
    AlongFrom (Moves rule host.signer.publicKey) (register.persistRegistration host request first receipt) executor := by
  unfold register.persistRegistration
  refine wp_guard fun _ bounded => wp_room (fun room => ?_) fun _ => .refl
  rw [reject_eq_ok, not_le] at bounded
  rw [← idle.state] at alive same room bounded
  rw [← idle.config] at bounded
  exact wp_filed (.register alive same bounded) room (permits _ (by simp [Ordinary]) trivial) fun _ done => done.moves

theorem register_moves : Along (Moves rule host.signer.publicKey) (register host request) := by
  intro executor
  unfold register
  refine wp_operational (wp_guard fun _ _ => ?_) fun _ => .refl
  rw [wp_bind, wp_get]
  refine wp_guard fun _ _ => wp_guard fun _ _ => ?_
  refine wp_guard fun _ _ => wp_guard fun _ _ => ?_
  refine wp_guard fun _ _ => wp_guard fun _ _ => ?_
  refine wp_guard fun _ _ => ?_
  refine wp_seq wp_requireLiveTarget (fun _ middle idle => ?_) fun _ _ idle => idle.moves
  refine wp_after idle.moves (wp_guard fun receipt signed => wp_guard fun _ _ => wp_guard fun _ alive => ?_)
  rw [ofSigning, mapError_eq_ok] at signed
  obtain ⟨-, -, payload⟩ := SignedRecord.sign_eq_ok signed
  have named : receipt.payload.deployment = request.payload.deployment := by rw [payload]; rfl
  rw [reject_eq_ok, ← named] at alive
  rw [← named]
  split
  · rename_i existing found
    split
    · exact .refl
    · refine wp_guard fun _ binding => persistRegistration_moves permits idle alive fun other held => ?_
      rw [reject_eq_ok, Bool.not_eq_false] at binding
      rw [found] at held
      obtain ⟨⟩ := held
      exact binding
  · rename_i absent
    refine persistRegistration_moves permits idle alive fun other held => ?_
    rw [absent] at held
    cases held

end

theorem along_signUndeployReceipt : Along Eq (signUndeployReceipt host deployment) := by
  unfold signUndeployReceipt
  exact along_operational (Along.get.bind fun _ => .check fun _ => .check fun _ => .check fun _ => Along.pure _)

theorem undeploy_moves (permits : Permits rule granted) :
    Along (Moves rule host.signer.publicKey) (undeploy host request) := by
  intro executor
  unfold undeploy
  refine wp_operational (wp_guard fun _ _ => wp_guard fun _ _ => ?_) fun _ => .refl
  rw [wp_bind, wp_get]
  simp only
  split
  · exact along_signUndeployReceipt.of_eq executor
  · rename_i alive
    refine wp_guard fun deployment found => wp_guard fun _ _ => ?_
    refine wp_guard fun _ quiet => ?_
    rw [orError_eq_ok] at found
    have ended : ∀ attempt record, executor.state.attempts.get? attempt = some record →
        record.grant.payload.deployment.payload.deployment = request.payload.deployment → record.terminal = true := by
      intro attempt record held own
      by_contra running
      rw [reject_eq_ok] at quiet
      exact quiet (List.any_eq_true.mpr ⟨record, (executor.state.attempts.mem_values_iff).mpr ⟨attempt, held⟩,
        by simp [own, running]⟩)
    refine wp_room (fun room => ?_) fun _ => .refl
    refine wp_filed (.undeploy alive found ended) room (permits _ (by simp [Ordinary]) trivial) fun after done => ?_
    exact wp_after done.moves (along_signUndeployReceipt.of_eq after)

theorem liveDeploymentTarget_moves :
    Along (Moves rule identity) (liveDeploymentTarget host grant) := by
  unfold liveDeploymentTarget
  refine Along.get.bind fun _ => .check fun _ => .check fun _ => .check fun _ => ?_
  exact requireLiveTarget_moves.bind fun _ => Along.pure _

theorem liveAttemptTarget_moves :
    Along (Moves rule identity) (liveAttemptTarget host grant requireNonterminal) := by
  unfold liveAttemptTarget
  refine along_operational (Along.get.bind fun _ => ?_)
  refine Along.ite (fun _ => ?_) fun _ => liveDeploymentTarget_moves
  exact .check fun _ => .check fun _ => liveDeploymentTarget_moves

theorem along_functionControl : Along Eq (functionControl host grant endorsement) := by
  unfold functionControl
  exact along_operational (Along.get.bind fun _ => .check fun _ => .check fun _ => Along.pure _)

theorem along_recoveryHomeTarget : Along Eq (recoveryHomeTarget host grant) := by
  unfold recoveryHomeTarget
  refine along_operational (Along.get.bind fun _ => ?_)
  split
  · exact Along.ite (fun _ => .check fun _ => Along.lift _) fun _ => Along.lift _
  · exact Along.lift _

omit [Crypto] in
theorem along_grantOf : Along Eq (grantOf attempt) := by
  unfold grantOf
  exact along_operational (Along.get.bind fun _ => .check fun _ => Along.pure _)

/-! The handlers, by the calls that they send. -/

/-- What is known of the steps of a process in which something holds, with the calls that they send: a quiet one is any
number of moves, steps compose, and calls may be lost. -/
structure Steps (rule : ExecutorLedgerRecord → Prop) (identity : Text) (holds : FunctionExecutor → Prop)
    (step : FunctionExecutor → List FunctionCall → FunctionExecutor → Prop) : Prop where
  quiet {before after} : Moves rule identity before after → step before [] after
  trans {before made middle more after} : step before made middle → step middle more after → step before (made ++ more) after
  forget {before made after} : step before made after → step before [] after
  kept {before made after} : step before made after → holds before → holds after

/-- Steps that claim grants of some kind only, as those are that the process retains. -/
structure Handling (rule : ExecutorLedgerRecord → Prop) (host : Host) (granted : SignedRecord ExecutionGrant → Prop)
    (holds : FunctionExecutor → Prop) (step : FunctionExecutor → List FunctionCall → FunctionExecutor → Prop) : Prop
    extends Steps rule host.signer.publicKey holds step where
  permits : Permits rule granted
  retained {executor attempt record} : holds executor → executor.state.attempts.get? attempt = some record →
    granted record.grant
  claims {grant} : granted grant → ∀ executor, wp (claim host grant)
    (fun outcome after => step executor outcome.calls after) (fun _ after => step executor [] after) executor

/-- A handler goes by the given steps. -/
def Handles (holds : FunctionExecutor → Prop) (step : FunctionExecutor → List FunctionCall → FunctionExecutor → Prop)
    (program : Action (List Dispatch)) : Prop :=
  ∀ executor, holds executor → wp program (fun sent after => step executor (calls sent) after)
    (fun _ after => step executor [] after) executor

variable {step : FunctionExecutor → List FunctionCall → FunctionExecutor → Prop} {holds : FunctionExecutor → Prop}
  {program : Action (List Dispatch)}

section

variable (steps : Steps rule identity holds step)

include steps

theorem Steps.after (held : holds executor) (moved : step executor [] middle)
    (handles : Handles holds step program) :
    wp program (fun sent after => step executor (calls sent) after) (fun _ after => step executor [] after) middle :=
  wp_mono (handles middle (steps.kept moved held)) (fun _ _ later => steps.trans moved later)
    fun _ _ later => steps.trans moved later

theorem Steps.silent (none : calls sent = []) : Handles holds step (pure sent) := fun executor _ => by
  rw [wp_pure, none]
  exact steps.quiet .refl

theorem Steps.bind {first : Action α} {rest : α → Action (List Dispatch)}
    (along : Along (Moves rule identity) first) (next : ∀ value, Handles holds step (rest value)) :
    Handles holds step (first >>= rest) := fun _ held =>
  wp_along along (fun _ _ moved => steps.quiet moved) fun value _ moved =>
    steps.after held (steps.quiet moved) (next value)

end

omit [Crypto] in
/-- Dispatches sent beside those of a handler change nothing when they carry no call. -/
theorem Handles.map {change : List Dispatch → List Dispatch} (handles : Handles holds step program)
    (same : ∀ sent, calls (change sent) = calls sent) : Handles holds step (do return change (← program)) :=
  fun executor held => by
    refine wp_then (handles executor held) (fun sent after stepped => ?_)
    rw [wp_pure, same]
    exact stepped

theorem forwardControl_handles (steps : Steps rule identity holds step) :
    Handles holds step (forwardControl host grant request) := by
  unfold forwardControl
  refine steps.bind liveAttemptTarget_moves.observe fun live => ?_
  cases live with
  | error _ => exact steps.silent rfl
  | ok target =>
    refine steps.bind along_functionControl.of_eq.observe fun command => ?_
    cases command <;> exact steps.silent rfl

def AttemptRecoveryWork.grant : AttemptRecoveryWork → SignedRecord ExecutionGrant
  | .resume grant _ => grant
  | .receipt grant _ _ => grant

/-- Recovering an attempt claims at most its own grant. -/
theorem dispatchAttemptRecovery_handles (steps : Steps rule identity holds step) (held : holds executor)
    (claims : wp (claim host work.grant)
      (fun outcome after => step executor outcome.calls after) (fun _ after => step executor [] after) executor) :
    wp (dispatchAttemptRecovery host work) (fun sent after => step executor (calls sent) after)
      (fun _ after => step executor [] after) executor := by
  have still : step executor [] executor := steps.quiet .refl
  unfold dispatchAttemptRecovery
  cases work
  all_goals
    refine wp_reads along_recoveryHomeTarget.observe (fun home => ?_) fun _ => still
    cases home with | error _ => exact still | ok home => ?_
  case resume grant claimed =>
    unfold dispatchResume
    rw [wp_bind, wp_observe]
    refine wp_imp claims (fun outcome after stepped => ?_)
    cases outcome with
    | claimed receipts call target =>
      rw [wp_pure, calls_append, calls_receipts]
      exact stepped
    | duplicate receipt => exact wp_ite.mpr ⟨fun _ => stepped, fun _ => stepped⟩
    | terminal receipt => exact stepped
  case receipt grant receipt control =>
    cases control with
    | none => exact still
    | some control => exact wp_then (forwardControl_handles steps executor held) fun _ _ stepped => stepped

theorem reportStage_handles (steps : Steps rule host.signer.publicKey holds step)
    (ruled : ∀ receipt : SignedRecord ExecutionReceipt, receipt.payload.stage = stage → rule (.receipt receipt)) :
    Handles holds step (reportStage host sender attempt stage) := by
  unfold reportStage
  refine steps.bind along_grantOf.of_eq fun grant => ?_
  refine steps.bind liveAttemptTarget_moves fun _ => steps.bind (Along.lift _) fun _ => ?_
  refine steps.bind (recordStage_moves ruled) fun _ => ?_
  exact steps.bind along_recoveryHomeTarget.of_eq fun _ => steps.silent rfl

theorem relayControl_handles (steps : Steps rule identity holds step) :
    Handles holds step (relayControl host grant request outcome) := by
  unfold relayControl
  refine steps.bind along_ensureOperational.of_eq fun _ => steps.bind Along.get fun _ => ?_
  refine steps.bind (Along.lift _) fun _ => ?_
  split
  · exact steps.bind (Along.lift _) fun _ => steps.silent rfl
  · refine steps.bind along_recoveryHomeTarget.of_eq fun home => ?_
    split
    · exact (forwardControl_handles steps).map fun _ => rfl
    · exact steps.silent rfl

/-- The grant a message brings is trusted. -/
def Message.Trusted (trusted : SignedRecord ExecutionGrant → Prop) : Message → Prop
  | .grant signed => trusted signed
  | _ => True

section

variable (handling : Handling rule host granted holds step)

include handling

theorem onControl_handles : Handles holds step (onControl host request) := by
  unfold onControl
  refine handling.bind along_ensureOperational.of_eq fun _ => ?_
  split
  · exact handling.silent rfl
  · refine handling.bind along_grantOf.of_eq.observe fun grant => ?_
    cases grant with
    | error _ => exact handling.silent rfl
    | ok grant =>
      dsimp only
      split
      · exact handling.silent rfl
      · refine handling.bind (recordControlQueued_moves handling.permits).observe fun outcome => ?_
        cases outcome with
        | error _ => exact handling.silent rfl
        | ok outcome => exact relayControl_handles handling.toSteps

theorem onGrant_handles (trust : granted grant) :
    Handles holds step (onGrant host grant) := by
  intro executor _
  unfold onGrant
  rw [wp_bind, wp_observe]
  refine wp_mono (handling.claims trust executor) (fun outcome after stepped => ?_) fun error after stepped => ?_
  · refine wp_reads along_recoveryHomeTarget (fun home => ?_) fun _ => handling.forget stepped
    cases outcome with
    | claimed receipts call target =>
      rw [wp_pure, calls_append, calls_receipts]
      exact stepped
    | duplicate receipt | terminal receipt => exact stepped
  · refine wp_reads along_recoveryHomeTarget (fun home => ?_) fun _ => stepped
    exact stepped

/-- Whatever a message asks for, short of the private continuation of a sweep. -/
theorem respondTo_handles {message : Message} (trust : message.Trusted granted) :
    Handles holds step (respond.respondTo host envelope message) := by
  cases message with
  | register request =>
    refine handling.bind (register_moves handling.permits).observe fun outcome => ?_
    cases outcome <;> exact handling.silent rfl
  | undeploy request =>
    refine handling.bind (undeploy_moves handling.permits).observe fun outcome => ?_
    cases outcome <;> exact handling.silent rfl
  | grant grant => exact onGrant_handles handling trust
  | query request => exact handling.bind (query_moves handling.permits) fun _ => handling.silent rfl
  | control request => exact onControl_handles handling
  | result result =>
    refine handling.bind along_ensureOperational.of_eq fun _ => handling.bind (Along.lift _) fun _ => ?_
    cases result.outcome <;> exact reportStage_handles handling.toSteps (handling.permits.stage (by simp))
  | progress attempt sequence saved | checkpoint attempt sequence saved =>
    refine handling.bind along_ensureOperational.of_eq fun _ => ?_
    exact reportStage_handles handling.toSteps (handling.permits.stage (by simp))
  | controlResult attempt control disposition detail =>
    refine handling.bind along_ensureOperational.of_eq fun _ => handling.bind Along.get fun _ => ?_
    split
    · exact handling.silent rfl
    · exact reportStage_handles handling.toSteps (handling.permits.stage (by simp))
  | recoveryPoke => exact handling.silent rfl

end

/-! The sweep. -/

section

omit [Crypto]

theorem recoveryWork_grant (state : ExecutorState) (key : AttemptId) (attempt : AttemptRecord) (index : Nat)
    (receipt : SignedRecord ExecutionReceipt) :
    (recoveryWork state key attempt index receipt).grant = attempt.grant := by
  unfold recoveryWork
  split <;> rfl

/-- A candidate is the work that a retained receipt asks for. -/
theorem work_of_mem_recoveryCandidates (member : (key, receipt, ordinal, work) ∈ recoveryCandidates state) :
    ∃ attempt index, state.attempts.get? key = some attempt ∧ attempt.receipts[index]? = some receipt ∧
      work = recoveryWork state key attempt index receipt := by
  unfold recoveryCandidates at member
  obtain ⟨⟨holder, attempt⟩, entry, listed⟩ := List.mem_flatMap.mp member
  obtain ⟨⟨⟨held, _⟩, index⟩, numbered, same⟩ := List.mem_map.mp listed
  obtain ⟨rfl, rfl, rfl, rfl⟩ := same
  have zipped := List.getElem?_zip_eq_some.mp (List.mem_zipIdx_iff_getElem?.mp numbered)
  exact ⟨attempt, index, state.attempts.mem_entries_iff.mp entry, zipped.1, rfl⟩

/-- Taking the next piece of work moves only the sweep, and yields a candidate. -/
theorem wp_takeNextReceiptRecovery : wp takeNextReceiptRecovery
      (fun found after => (∃ sweep, after = { executor with recoverySweep := sweep }) ∧ ∀ work ∈ found,
        ∃ key receipt ordinal, (key, receipt, ordinal, work) ∈ recoveryCandidates executor.state)
      (fun _ after => executor = after) executor := by
  unfold takeNextReceiptRecovery
  refine wp_operational ?_ fun _ => rfl
  rw [wp_bind, wp_get]
  simp only
  split
  · exact ⟨⟨_, rfl⟩, by simp⟩
  · split
    · exact ⟨⟨_, rfl⟩, by simp⟩
    · rename_i key receipt ordinal work next
      refine ⟨⟨_, rfl⟩, ?_⟩
      rintro _ ⟨rfl⟩
      exact ⟨key, receipt, ordinal, List.mem_of_find?_eq_some next⟩

end

/-- What a sweep keeps from one piece of work to the next, and what is left of that when it fails. -/
structure SweepRule (host : Host) (keeps : List Dispatch → FunctionExecutor → Prop) (fails : FunctionExecutor → Prop) :
    Prop where
  stops {sent now} : keeps sent now → fails now
  drains {sent now after} : keeps sent now → takeNextReceiptRecovery now = .ok none after → keeps sent after
  serves {sent now work middle} : keeps sent now → takeNextReceiptRecovery now = .ok (some work) middle →
    wp (dispatchAttemptRecovery host work) (fun more after => keeps (sent ++ more) after) (fun _ after => fails after) middle
  rests {sent now} : keeps sent now →
    let hasMore := decide (now.recoverySweep.receiptsRemaining ≠ 0)
    keeps (sent ++ if hasMore then (now.me.map Dispatch.poke).toList else [])
      { now with recoverySweep := { now.recoverySweep with active := hasMore } }

section

variable {keeps : List Dispatch → FunctionExecutor → Prop} {fails : FunctionExecutor → Prop}
  (sweep : SweepRule host keeps fails)

include sweep

theorem SweepRule.sweepLoop (rounds : Nat) (kept : keeps sent executor) :
    wp (sweepLoop host rounds sent) keeps (fun _ => fails) executor := by
  induction rounds generalizing sent executor with
  | zero => exact kept
  | succ rounds ih =>
    unfold Executor.sweepLoop
    rw [wp_bind, wp_get, wp_ite]
    refine ⟨fun _ => kept, fun _ => ?_⟩
    rw [wp_bind]
    refine wp_intro (fun found middle run => ?_) fun _ middle run => ?_
    · cases found with
      | none => exact sweep.drains kept run
      | some work =>
        refine wp_then (sweep.serves kept run) (fun more after served => ?_)
        exact wp_operational (ih served) fun _ => sweep.stops served
    · exact wp_error wp_takeNextReceiptRecovery run ▸ sweep.stops kept

theorem SweepRule.continueRecoverySweep (kept : keeps [] executor) :
    wp (continueRecoverySweep host) keeps (fun _ => fails) executor := by
  unfold Executor.continueRecoverySweep
  refine wp_operational ?_ fun _ => sweep.stops kept
  rw [wp_bind, wp_get]
  refine wp_then (sweep.sweepLoop _ kept) (fun sent swept kept => ?_)
  rw [wp_bind, wp_get, wp_bind, wp_set]
  exact wp_operational (sweep.rests kept) fun _ => sweep.stops (sweep.rests kept)

end

section

variable (handling : Handling rule host granted holds step)
  (sweeps : ∀ executor sweep, step executor [] { executor with recoverySweep := sweep })

include handling sweeps

/-- A sweep sends the calls of its rounds one after the other. -/
theorem Handling.sweepRule (held : holds executor) :
    SweepRule host (fun sent now => step executor (calls sent) now) fun now => step executor [] now where
  stops := handling.forget
  drains stepped run := by
    obtain ⟨⟨sweep, rfl⟩, _⟩ := wp_ok wp_takeNextReceiptRecovery run
    exact List.append_nil (calls _) ▸ handling.trans stepped (sweeps _ sweep)
  serves {sent now work middle} stepped run := by
    obtain ⟨⟨sweep, rfl⟩, taken⟩ := wp_ok wp_takeNextReceiptRecovery run
    obtain ⟨key, receipt, ordinal, member⟩ := taken work rfl
    obtain ⟨record, index, present, _, rfl⟩ := work_of_mem_recoveryCandidates member
    have here := handling.kept stepped held
    have moved := sweeps now sweep
    have claims := handling.claims (recoveryWork_grant now.state key record index receipt ▸ handling.retained here present)
    refine wp_mono (dispatchAttemptRecovery_handles handling.toSteps (handling.kept moved here) (claims _)) ?_ ?_
    · intro more after later
      rw [calls_append]
      exact handling.trans stepped (handling.trans moved later)
    · exact fun _ _ later => handling.trans (handling.forget stepped) (handling.trans moved later)
  rests {sent now} stepped := by
    dsimp only
    rw [calls_append, calls_poke]
    exact handling.trans stepped (sweeps now _)

theorem continueRecoverySweep_handles : Handles holds step (continueRecoverySweep host) := fun _ held =>
  (handling.sweepRule sweeps held).continueRecoverySweep (handling.quiet .refl)

theorem recoveryDispatches_handles : Handles holds step (recoveryDispatches host) := by
  intro executor held
  unfold recoveryDispatches
  refine wp_operational ?_ fun _ => handling.quiet .refl
  rw [wp_bind, wp_get, wp_bind, wp_set]
  exact handling.after held (sweeps executor _) (continueRecoverySweep_handles handling sweeps)

theorem bind_handles : Handles holds step (bind host me) := by
  intro executor held
  unfold bind
  rw [wp_bind, wp_modify]
  refine handling.after held (handling.quiet (.single (.aside rfl rfl rfl rfl))) ?_
  exact recoveryDispatches_handles handling sweeps

theorem respond_handles {envelope : Envelope} (trust : envelope.message.Trusted granted) :
    Handles holds step (respond host envelope) := by
  unfold respond
  split
  · unfold onRecoveryPoke
    refine handling.bind Along.get fun executor => ?_
    split
    · exact handling.silent rfl
    · split
      · exact continueRecoverySweep_handles handling sweeps
      · exact handling.silent rfl
  · refine handling.bind along_ensureOperational.of_eq fun _ executor held => ?_
    refine wp_then (respondTo_handles handling trust executor held) (fun sent after stepped => ?_)
    exact wp_operational stepped fun _ => handling.forget stepped

end

/-- A step, or a change of the sweep alone. -/
def Stir (rule : ExecutorLedgerRecord → Prop) (identity : Text) (before after : FunctionExecutor) : Prop :=
  Move rule identity before after ∨ ∃ sweep, after = { before with recoverySweep := sweep }

/-- Any number of steps, among them those of a recovery sweep. -/
def Stirs (rule : ExecutorLedgerRecord → Prop) (identity : Text) : FunctionExecutor → FunctionExecutor → Prop :=
  Relation.ReflTransGen (Stir rule identity)

instance : Std.Refl (Stirs rule identity) := ⟨fun _ => .refl⟩

instance : IsTrans FunctionExecutor (Stirs rule identity) := ⟨fun _ _ _ => Relation.ReflTransGen.trans⟩

theorem Moves.stirs (moves : Moves rule identity before after) : Stirs rule identity before after :=
  Relation.ReflTransGen.mono (fun _ _ => .inl) _ _ moves

theorem Stirs.sweep (sweep : ExecutorRecoverySweep) :
    Stirs rule identity executor { executor with recoverySweep := sweep } :=
  .single (.inr ⟨sweep, rfl⟩)

/-- Moving along a relation that has all moves, whatever is called. -/
theorem steps_along [IsTrans FunctionExecutor relation]
    (moved : ∀ before after, Moves rule identity before after → relation before after) :
    Steps rule identity (fun _ => True) fun before _ after => relation before after :=
  ⟨moved _ _, IsTrans.trans _ _ _, id, fun _ _ => trivial⟩

theorem steps_moves : Steps rule identity (fun _ => True) fun before _ after => Moves rule identity before after :=
  steps_along fun _ _ moves => moves

theorem handling_along [IsTrans FunctionExecutor relation] (permits : Permits rule fun _ => True)
    (moved : ∀ before after, Moves rule host.signer.publicKey before after → relation before after) :
    Handling rule host (fun _ => True) (fun _ => True) fun before _ after => relation before after :=
  ⟨steps_along moved, permits, fun _ _ => trivial, fun _ => (claim_moves permits trivial).mono moved⟩

section

variable (lenient : Lenient rule) (host : Host)

include lenient

theorem respondTo_moves :
    Along (Moves rule host.signer.publicKey) (respond.respondTo host envelope message) := fun executor =>
  respondTo_handles (handling_along lenient.permits fun _ _ moves => moves) (by cases message <;> trivial)
    executor trivial

theorem dispatchAttemptRecovery_moves :
    Along (Moves rule host.signer.publicKey) (dispatchAttemptRecovery host work) := fun executor =>
  dispatchAttemptRecovery_handles steps_moves trivial (claim_moves lenient.permits trivial executor)

theorem stirring : Handling rule host (fun _ => True) (fun _ => True)
    fun before _ after => Stirs rule host.signer.publicKey before after :=
  handling_along lenient.permits fun _ _ moves => moves.stirs

theorem recoveryDispatches_stirs : Along (Stirs rule host.signer.publicKey) (recoveryDispatches host) :=
  fun executor => recoveryDispatches_handles (stirring lenient host) (fun _ => .sweep) executor trivial

theorem bind_stirs : Along (Stirs rule host.signer.publicKey) (bind host me) :=
  fun executor => bind_handles (stirring lenient host) (fun _ => .sweep) executor trivial

theorem respond_stirs : Along (Stirs rule host.signer.publicKey) (respond host envelope) :=
  fun executor => respond_handles (stirring lenient host) (fun _ => .sweep)
    (by cases envelope.message <;> trivial) executor trivial

end

end

end Gawd.Executor
