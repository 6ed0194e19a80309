import Gawd.Executor.HomeFence
import Gawd.Executor.Slots

/-!
Claims that a crash left behind, and what a recovery sweep makes of them.
-/

namespace Gawd.Executor

open Gawd.Logic Gawd.Wire Gawd.Journal

/-- The attempt has not ended, and its last receipt is a claim. -/
def Waiting (state : ExecutorState) (key : AttemptId) : Prop :=
  ∃ attempt, state.attempts.get? key = some attempt ∧ attempt.terminal = false ∧
    (attempt.receipts.getLast?.map fun last => last.payload.stage) = some .claimed

instance (state : ExecutorState) (key : AttemptId) : Decidable (Waiting state key) :=
  decidable_of_iff ((state.attempts.get? key).any fun attempt => decide (attempt.terminal = false ∧
      (attempt.receipts.getLast?.map fun last => last.payload.stage) = some .claimed)) (by
    unfold Waiting
    simp only [Option.any_eq_true, decide_eq_true_eq])

variable {target : Address}

section

variable [Crypto] {identity : Text} {ledger : List ExecutorLedgerRecord} {host : Host}
  {executor start now : FunctionExecutor} {grant : SignedRecord ExecutionGrant} {key : AttemptId}

/-- What the resumption of a claim needs of its surroundings: a healthy journal with a free slot, a target that parses, and
that the append of the Started receipt, or of the refusal for want of a live target, succeeds. -/
structure Serviceable (host : Host) (executor : FunctionExecutor) (grant : SignedRecord ExecutionGrant) (id : Nat)
    (target : Address) : Prop where
  healthy : executor.journal.healthy = true
  room : durableRecordReservations executor.state <
    executor.journal.caps.maxRecords - executor.journal.records.length
  parses : exactLocalTarget host grant.payload = .ok (id, target)
  starts : ∀ later, requireLiveTarget host id grant.payload.deployment.payload executor = .ok () later →
    ∃ receipt after, signReceipt host grant 2 grant.payload.issuedAtUnixMs .started later = .ok receipt later ∧
      commit host (.receipt receipt) later = .ok () after
  refuses : ∀ error later, requireLiveTarget host id grant.payload.deployment.payload executor = .error error later →
    ∃ receipt after, signLivenessRefusal host grant 2 error later = .ok receipt later ∧
      commit host (.receipt receipt) later = .ok () after

/-- A claim that can be resumed: it is the only receipt of its attempt, and its Home has not moved on since the grant. -/
structure Fresh (executor : FunctionExecutor) (attempt : AttemptRecord) : Prop where
  only : attempt.receipts.length = 1
  fence : executor.state.homeFences.get? attempt.grant.payload.attempt.home = some (grantFence attempt.grant)
  route : ∃ target, (grantFence attempt.grant).target executor.config.realm executor.config.node = .ok target

variable {state : ExecutorState} {attempt : AttemptRecord} {receipt : SignedRecord ExecutionReceipt}

/-- The receipt that resumes a claim ends the waiting. -/
theorem not_waiting_of_received (found : state.attempts.get? receipt.payload.attempt = some attempt)
    (other : receipt.payload.stage ≠ .claimed) :
    ¬ Waiting (state.next (.receipt receipt)) receipt.payload.attempt := by
  rintro ⟨later, here, _, last⟩
  unfold ExecutorState.next at here
  dsimp only at here
  rw [found, Option.elim_some, ExecutorState.receiving, SortedMap.get?_insert_self] at here
  obtain rfl := Option.some.inj here
  simp only [AttemptRecord.receiving, AttemptRecord.push_receipts, List.getLast?_concat, Option.map_some,
    Option.some.injEq] at last
  exact other last

theorem Backs.idle (backs : Backs (anywhere identity) executor ledger) (idle : Idle executor later) :
    Backs (anywhere identity) later ledger :=
  ⟨idle.journal ▸ idle.state ▸ backs.held, idle.config ▸ backs.own, idle.config ▸ backs.place,
    idle.journal ▸ idle.config ▸ backs.caps, idle.journal ▸ backs.disk⟩

variable {after : FunctionExecutor}

/-- Committing the receipt that resumes a claim. -/
theorem Backs.resumes (backs : Backs (anywhere identity) executor ledger) (signs : host.signer.publicKey = identity)
    (found : executor.state.attempts.get? attempt.grant.payload.attempt = some attempt)
    (running : attempt.terminal = false)
    (last : (attempt.receipts.getLast?.map fun last => last.payload.stage) = some .claimed)
    (only : attempt.receipts.length = 1) (room : durableRecordReservations executor.state <
      executor.journal.caps.maxRecords - executor.journal.records.length)
    (named : receipt.payload.attempt = attempt.grant.payload.attempt) (second : receipt.payload.sequence = 2)
    (hash : receipt.payload.grantHash = canonicalHash attempt.grant)
    (stages : receipt.payload.stage = .started ∨ stageTerminal receipt.payload.stage = true)
    (committed : commit host (.receipt receipt) executor = .ok () after) :
    ¬ Waiting after.state attempt.grant.payload.attempt := by
  have sound := (backs.held.grown.settled.sound _ attempt found).2.2
  have found : executor.state.attempts.get? receipt.payload.attempt = some attempt := named.symm ▸ found
  have produced : Produced executor.config executor.state (.receipt receipt)
      (durableRecordReservations executor.state - (stageTerminal receipt.payload.stage).toNat) :=
    .resume found running last (hash.trans sound.hash.symm) second stages
  have filed : ¬ Misfiled executor.state (.receipt receipt) := by
    rintro ⟨_, record, held, many, _⟩
    rw [found] at held
    obtain rfl := Option.some.inj held
    exact many only
  have slack : durableRecordReservations executor.state - (stageTerminal receipt.payload.stage).toNat <
      executor.journal.caps.maxRecords - executor.journal.records.length := by omega
  obtain ⟨_, next⟩ := wp_ok (backs.commits signs produced slack trivial filed) committed
  have other : receipt.payload.stage ≠ .claimed := by
    rintro same
    rw [same] at stages
    rcases stages with impossible | impossible <;> cases impossible
  rw [next, ← named]
  exact not_waiting_of_received found other

/-- A retained grant passes every check of a claim but the one of its Home fence. -/
theorem SoundAttempts.checks (sound : SoundAttempts (Pinned identity) state)
    (found : state.attempts.get? key = some attempt) :
    verifyExecutionGrant attempt.grant = .ok () ∧ validate attempt.grant = .ok () ∧
      verifyDeploymentReceipt attempt.grant.payload.deployment = .ok () ∧
      attempt.grant.payload.deployment.payload.executor = identity := by
  obtain ⟨_, ⟨verified, pinned⟩, _⟩ := sound key attempt found
  have whole := verified
  simp only [verifyExecutionGrant, bind_eq_ok] at whole
  obtain ⟨_, valid, _⟩ := whole
  have parts := valid
  simp only [validate, SignedRecord.validateWith, bind_eq_ok] at parts
  obtain ⟨_, _, _, _, _, _, _, payload, _⟩ := parts
  obtain ⟨_, _, _, _, _, _, _, _, _, _, _, _, _, _, _, _, _, _, _, _, _, _, _, deployment, _⟩ := payload
  exact ⟨verified, valid, deployment, pinned⟩

/-- The program leaves the attempt started or ended, whether it returns or fails. -/
def Resumes {α : Type} (key : AttemptId) (program : Action α) (executor : FunctionExecutor) : Prop :=
  wp program (fun _ after => ¬ Waiting after.state key) (fun _ after => ¬ Waiting after.state key) executor

section

variable {receipt : SignedRecord ExecutionReceipt} {after : FunctionExecutor} (healthy : executor.journal.healthy = true)
  (room : durableRecordReservations executor.state < executor.journal.caps.maxRecords - executor.journal.records.length)
  (ended : ¬ Waiting after.state key) (committed : commit host (.receipt receipt) executor = .ok () after)

include healthy room ended committed

theorem startAttempt_resumes
    (signed : signReceipt host grant 2 grant.payload.issuedAtUnixMs .started executor = .ok receipt executor) :
    Resumes key (startAttempt host grant claimed target) executor := by
  unfold Resumes startAttempt
  rw [wp_bind, wp_get]
  refine wp_run (ensureAppendCapacity_of_room healthy room) (wp_run signed (wp_run committed ?_))
  exact wp_seq wp_functionCall (fun _ _ called => called.1 ▸ ended) fun _ _ same => same ▸ ended

theorem failBeforeStart_resumes (signed : signLivenessRefusal host grant 2 error executor = .ok receipt executor) :
    Resumes key (failBeforeStart host grant error) executor := by
  have slack : durableRecordReservations executor.state - 1 <
      executor.journal.caps.maxRecords - executor.journal.records.length := (Nat.sub_le _ _).trans_lt room
  unfold Resumes failBeforeStart
  rw [wp_bind, wp_get]
  exact wp_run (ensureAppendCapacity_of_room healthy slack) (wp_run signed (wp_run committed ended))

end

section

variable (backs : Backs (anywhere identity) executor ledger) (signs : host.signer.publicKey = identity)
  (found : executor.state.attempts.get? key = some attempt) (running : attempt.terminal = false)
  (last : (attempt.receipts.getLast?.map fun last => last.payload.stage) = some .claimed)
  (fresh : Fresh executor attempt)

include backs signs found running last fresh

/-- A fresh claim is resumed as soon as its surroundings let it. -/
theorem claim_resumes {id : Nat} (serviceable : Serviceable host executor attempt.grant id target) :
    Resumes key (claim host attempt.grant) executor := by
  have settled := backs.held.grown.settled
  obtain ⟨own, -, sound⟩ := settled.sound key attempt found
  obtain ⟨verified, valid, deployment, pinned⟩ := settled.sound.checks found
  subst own
  have passes : validateHomeFence executor.state attempt.grant = .ok () := by
    refine validateFence_eq_ok.mpr fun fence held => ?_
    rw [← owner_of_verified verified, fresh.fence] at held
    obtain rfl := Option.some.inj held
    exact .refl _
  unfold Resumes claim
  refine wp_run (ensureOperational_of_healthy serviceable.healthy) ?_
  refine wp_pass (mapError_eq_ok.mpr valid) (wp_pass (mapError_eq_ok.mpr verified) ?_)
  refine wp_pass (mapError_eq_ok.mpr deployment) ?_
  rw [wp_bind, wp_get]
  refine wp_unless (by rw [pinned, backs.own]; simp) (wp_pass passes ?_)
  rw [found]
  dsimp only
  unfold claimAgain
  refine wp_unless (by simp [sound.hash]) ?_
  obtain ⟨claimed, ends, stage⟩ := Option.map_eq_some_iff.mp last
  refine wp_pass (orError_eq_ok.mpr ends) ?_
  rw [if_pos ⟨running, stage⟩]
  refine wp_pass serviceable.parses ?_
  -- looking at the target only moves the clock
  rw [wp_bind, wp_observe]
  have room := serviceable.room
  refine wp_intro (fun _ later run => ?_) fun error later run => ?_
  · have idle := wp_ok wp_requireLiveTarget run
    obtain ⟨receipt, after, signed, committed⟩ := serviceable.starts later run
    obtain ⟨_, named, second, staged, hash⟩ := wp_ok wp_signReceipt signed
    rw [← idle.state, ← idle.journal] at room
    have ended := (backs.idle idle).resumes signs (idle.state ▸ found) running last fresh.only room named second hash
      (.inl staged) committed
    exact startAttempt_resumes (idle.journal ▸ serviceable.healthy) room ended committed signed
  · have idle := wp_error wp_requireLiveTarget run
    obtain ⟨receipt, after, signed, committed⟩ := serviceable.refuses error later run
    obtain ⟨_, named, second, staged, hash⟩ := wp_ok wp_signLivenessRefusal signed
    rw [← idle.state, ← idle.journal] at room
    have ended := (backs.idle idle).resumes signs (idle.state ▸ found) running last fresh.only room named second hash
      (.inr staged) committed
    exact failBeforeStart_resumes (idle.journal ▸ serviceable.healthy) room ended committed signed

theorem dispatch_resumes {id : Nat}
    (serviceable : Serviceable host executor attempt.grant id goal) :
    Resumes key (dispatchAttemptRecovery host (.resume attempt.grant claimed)) executor := by
  obtain ⟨target, routed⟩ := fresh.route
  have homeward : recoveryHomeTarget host attempt.grant executor = .ok target executor := by
    rw [run_eq_ok, recoveryHomeTarget]
    refine wp_run (ensureOperational_of_healthy serviceable.healthy) ?_
    rw [wp_bind, wp_get, fresh.fence]
    dsimp only
    rw [if_pos (HomeFence.Follows.refl _).covers]
    simp only [HomeFence.target, bind_eq_ok] at routed
    obtain ⟨coordinator, parsed, routed⟩ := routed
    refine wp_pass (mapError_eq_ok.mpr parsed) ?_
    rw [wp_lift, routed]
    exact ⟨fun _ same => ⟨(Except.ok.inj same).symm, rfl⟩, nofun⟩
  unfold Resumes dispatchAttemptRecovery
  dsimp only
  rw [wp_bind, wp_observe]
  refine wp_intro (fun found after run => ?_) fun error after run => ?_
  · rw [homeward] at run
    obtain ⟨⟩ := run
    dsimp only
    unfold dispatchResume
    rw [wp_bind, wp_observe]
    refine wp_imp (claim_resumes backs signs ‹_› running last fresh serviceable) (fun outcome _ ended => ?_)
    cases outcome with
    | claimed | terminal => exact ended
    | duplicate => exact wp_ite.mpr ⟨fun _ => ended, fun _ => ended⟩
  · rw [homeward] at run
    cases run

end

/-! A whole sweep. -/

/-- A sweep of one process, with nothing between its takes. -/
inductive Resumed (host : Host) (start : FunctionExecutor) : List Retained → FunctionExecutor → Prop where
  | begun : Resumed host start [] start.begun
  | served {taken before work middle sent after} : Resumed host start taken before →
      takeNextReceiptRecovery before = .ok (some work) middle → dispatchAttemptRecovery host work middle = .ok sent after →
      Resumed host start (taken ++ [work.item]) after
  | drained {taken before after} : Resumed host start taken before → takeNextReceiptRecovery before = .ok none after →
      Resumed host start taken after
  | rested {taken before} : Resumed host start taken before →
      Resumed host start taken { before with recoverySweep := { before.recoverySweep with
        active := decide (before.recoverySweep.receiptsRemaining ≠ 0) } }

/-- The batches of a sweep, as they are poked. -/
inductive Recovering (host : Host) (start : FunctionExecutor) : FunctionExecutor → Prop where
  | begun {sent after} : recoveryDispatches host start = .ok sent after → Recovering host start after
  | poked {before sent after} : Recovering host start before → continueRecoverySweep host before = .ok sent after →
      Recovering host start after

theorem sweepRule_resumed : SweepRule host (fun _ now => ∃ taken, Resumed host start taken now) fun _ => True where
  stops _ := trivial
  drains := fun ⟨taken, resumed⟩ run => ⟨taken, resumed.drained run⟩
  serves := fun ⟨_, resumed⟩ run => wp_intro (fun _ _ dispatched => ⟨_, resumed.served run dispatched⟩) fun _ _ _ => trivial
  rests := fun ⟨taken, resumed⟩ => ⟨taken, resumed.rested⟩

theorem Recovering.resumed (recovering : Recovering host start now) : ∃ taken, Resumed host start taken now := by
  induction recovering with
  | begun run =>
    have spec : wp (recoveryDispatches host) (fun _ after => ∃ taken, Resumed host start taken after) (fun _ _ => True) start := by
      unfold recoveryDispatches
      refine wp_operational ?_ fun _ => ⟨⟩
      rw [wp_bind, wp_get, wp_bind, wp_set]
      exact sweepRule_resumed.continueRecoverySweep ⟨_, .begun⟩
    exact wp_ok spec run
  | poked _ run ih => exact wp_ok (sweepRule_resumed.continueRecoverySweep ih) run

/-- The record is a receipt, and not a claim. -/
def ExecutorLedgerRecord.Resuming : ExecutorLedgerRecord → Prop
  | .receipt issued => issued.payload.stage ≠ .claimed
  | _ => False

omit [Crypto] in
theorem receptive_resuming : Receptive ExecutorLedgerRecord.Resuming :=
  fun _ other => other

/-- Which attempts wait, and what is known of them: they waited before, and nothing has changed for them. -/
def StillWaiting (before after : ExecutorState) : Prop :=
  ∀ key attempt, after.attempts.get? key = some attempt → attempt.terminal = false →
    (attempt.receipts.getLast?.map fun last => last.payload.stage) = some .claimed →
      before.attempts.get? key = some attempt

variable {before : FunctionExecutor}

theorem Backs.stillWaiting (backs : Backs (anywhere identity) before ledger)
    (moves : Moves ExecutorLedgerRecord.Resuming identity before after) :
    StillWaiting before.state after.state ∧ ∃ longer, Backs (anywhere identity) after longer := by
  refine backs.preserves (StillWaiting before.state) (fun _ _ => trivial)
    (fun {_ state record _} still _ resuming key attempt found running last => ?_) moves fun _ _ found _ _ => found
  cases record with
  | receipt receipt =>
    cases appears_next found with
    | kept known => exact still key attempt known running last
    | received _ _ made =>
      subst made
      simp only [AttemptRecord.receiving, AttemptRecord.push_receipts, List.getLast?_concat, Option.map_some,
        Option.some.injEq] at last
      exact absurd last resuming
  | _ => exact resuming.elim

theorem Resumed.swept (resumed : Resumed host start taken now) (backs : Backs (anywhere identity) start ledger)
    (signs : host.signer.publicKey = identity) : Swept (anywhere identity).rule identity start taken now := by
  induction resumed with
  | begun => exact .begun
  | served _ run dispatched ih =>
    obtain ⟨sweeping, longer, held⟩ := ih.sweeping backs
    obtain ⟨belongs, _, _, sweep, changed⟩ := wp_ok (sweeping.take held.held.grown.settled.sound) run
    have same := congrArg FunctionExecutor.state changed
    have receipts := wp_ok (dispatchAttemptRecovery_receipts receptive_isReceipt (same ▸ belongs)) dispatched
    rw [signs] at receipts
    exact (ih.took run).moves (Relation.ReflTransGen.mono (fun _ _ move => move.mono fun _ _ => trivial) _ _ receipts)
  | drained _ run ih => exact ih.drained run
  | rested _ ih => exact ih.rested

/-- Until a sweep has taken something, it has changed nothing but itself. -/
theorem Resumed.untouched (resumed : Resumed host start taken now) (none : taken = [])
    (backs : Backs (anywhere identity) start ledger) (signs : host.signer.publicKey = identity) :
    ∃ sweep, now = { start with recoverySweep := sweep } := by
  induction resumed with
  | begun => exact ⟨_, rfl⟩
  | served => simp at none
  | drained earlier run ih =>
    obtain ⟨sweeping, longer, held⟩ := (earlier.swept backs signs).sweeping backs
    obtain ⟨_, rfl⟩ := wp_ok (sweeping.take held.held.grown.settled.sound) run
    exact ih none
  | rested _ ih =>
    obtain ⟨sweep, rfl⟩ := ih none
    exact ⟨_, rfl⟩

/-- What holds along a sweep. -/
structure Settling (start : FunctionExecutor) (taken : List Retained) (now : FunctionExecutor) : Prop where
  steady : Steady start now
  still : StillWaiting start.state now.state
  done : ∀ item ∈ taken, ¬ Waiting now.state item.1

omit [Crypto] in
theorem StillWaiting.trans (one : StillWaiting first second) (two : StillWaiting second third) :
    StillWaiting first third :=
  fun key attempt found running last => one key attempt (two key attempt found running last) running last

omit [Crypto] in
theorem StillWaiting.waiting {before after : ExecutorState} (still : StillWaiting before after)
    (waits : Waiting after key) : Waiting before key := by
  obtain ⟨attempt, found, running, last⟩ := waits
  exact ⟨attempt, still key attempt found running last, running, last⟩

theorem Fresh.steady (fresh : Fresh start attempt) (steady : Steady start now) : Fresh now attempt := by
  refine ⟨fresh.only, ?_, ?_⟩
  · rw [steady.fences]
    exact fresh.fence
  · rw [steady.realm, steady.node]
    exact fresh.route

/-- Serving one receipt of a sweep. -/
theorem Settling.served {work : AttemptRecoveryWork} (settling : Settling start taken before)
    (backs : Backs (anywhere identity) start ledger)
    (swept : Swept (anywhere identity).rule identity start taken before) (signs : host.signer.publicKey = identity)
    (fresh : ∀ key attempt, start.state.attempts.get? key = some attempt → attempt.terminal = false →
      (attempt.receipts.getLast?.map fun last => last.payload.stage) = some .claimed → Fresh start attempt)
    (run : takeNextReceiptRecovery before = .ok (some work) middle)
    (serviceable : ∀ grant claimed, work = .resume grant claimed → ∃ id target, Serviceable host middle grant id target)
    (dispatched : dispatchAttemptRecovery host work middle = .ok sent after) :
    Settling start (taken ++ [work.item]) after := by
  obtain ⟨sweeping, longer, held⟩ := swept.sweeping backs
  have sound := held.held.grown.settled.sound
  obtain ⟨belongs, _, _, sweep, changed⟩ := wp_ok (sweeping.take sound) run
  obtain ⟨key, receipt, _, member⟩ := (wp_ok wp_takeNextReceiptRecovery run).2 work rfl
  obtain ⟨attempt, index, found, listed, asks⟩ := work_of_mem_recoveryCandidates member
  have here : Backs (anywhere identity) middle longer := changed ▸ held.swept sweep
  have same : middle.state = before.state := by rw [changed]
  have onward : Steady start middle := by
    refine ⟨?_, ?_, ?_⟩
    · rw [same, settling.steady.fences]
    · rw [changed, ← settling.steady.realm]
    · rw [changed, ← settling.steady.node]
  rw [← same] at belongs
  have receipts := wp_ok (dispatchAttemptRecovery_receipts receptive_isReceipt belongs) dispatched
  have resuming := wp_ok (dispatchAttemptRecovery_receipts receptive_resuming belongs) dispatched
  rw [signs] at receipts resuming
  have still := (here.stillWaiting resuming).1
  rw [same] at still
  have named : work.item.1 = key := by
    obtain ⟨own, _⟩ := sound key attempt found
    rw [AttemptRecoveryWork.item, asks, recoveryWork_grant, own]
  refine ⟨IsTrans.trans _ _ _ onward (here.steady receipts).1, settling.still.trans still, ?_⟩
  intro item member waits
  have before := still.waiting waits
  rcases List.mem_append.mp member with old | new
  · exact settling.done item old before
  · rw [List.mem_singleton.mp new, named] at waits before
    obtain ⟨claim, known, running, last⟩ := before
    obtain rfl : attempt = claim := Option.some.inj (found.symm.trans known)
    have fresh := fresh key attempt (settling.still key attempt found running last) running last
    -- the only receipt is the claim, so the work is to resume it
    obtain ⟨only, held⟩ := List.length_eq_one_iff.mp fresh.only
    rw [held] at last listed
    have first : index = 0 ∧ only = receipt := by
      rcases index with _ | index
      · exact ⟨rfl, Option.some.inj listed⟩
      · simp at listed
    obtain ⟨rfl, rfl⟩ := first
    have resume : work = .resume attempt.grant only := by
      rw [asks, recoveryWork, if_pos ⟨by rw [fresh.only], running, Option.some.inj last⟩]
    subst resume
    obtain ⟨id, target, serviceable⟩ := serviceable _ _ rfl
    have resumes : Resumes key (dispatchAttemptRecovery host (.resume attempt.grant only)) middle :=
      dispatch_resumes here signs (same ▸ found) running (by rw [held]; exact last) (fresh.steady onward) serviceable
    exact wp_ok resumes dispatched waits

/-- A sweep that has run to its end leaves no claim waiting, if every claim that waited when it started was the only receipt
of its attempt, its Home had not moved on since the grant, and the route of its Home parses. -/
theorem claims_resumed {world : World} (reached : (anywhere identity).system.Reachable world) (isUp : world.root = .up start)
    (signs : host.signer.publicKey = identity)
    (fresh : ∀ key attempt, start.state.attempts.get? key = some attempt → attempt.terminal = false →
      (attempt.receipts.getLast?.map fun last => last.payload.stage) = some .claimed → Fresh start attempt)
    (serviceable : ∀ taken before grant claimed middle, Resumed host start taken before →
      takeNextReceiptRecovery before = .ok (some (.resume grant claimed)) middle →
        ∃ id target, Serviceable host middle grant id target)
    (recovering : Recovering host start now) (complete : now.recoverySweep.receiptsRemaining = 0) :
    ∀ key, ¬ Waiting now.state key := by
  obtain ⟨ledger, state, rests⟩ := rests_of_reachable reached
  rw [isUp] at rests
  obtain ⟨rfl, backs⟩ := rests
  have settling : ∀ {taken now}, Resumed host start taken now → Settling start taken now := by
    intro taken now resumed
    induction resumed with
    | begun => exact ⟨⟨rfl, rfl, rfl⟩, fun _ _ found _ _ => found, fun _ member => absurd member List.not_mem_nil⟩
    | served earlier run dispatched ih =>
      exact ih.served backs (earlier.swept backs signs) signs fresh run (fun _ _ same => serviceable _ _ _ _ _ earlier (same ▸ run)) dispatched
    | drained earlier run ih =>
      obtain ⟨sweeping, longer, held⟩ := (earlier.swept backs signs).sweeping backs
      obtain ⟨_, rfl⟩ := wp_ok (sweeping.take held.held.grown.settled.sound) run
      exact ih
    | rested _ ih => exact ⟨⟨ih.steady.fences, ih.steady.realm, ih.steady.node⟩, ih.still, ih.done⟩
  obtain ⟨taken, resumed⟩ := recovering.resumed
  have settled := settling resumed
  obtain ⟨sweeping, longer, held⟩ := (resumed.swept backs signs).sweeping backs
  have all : taken = allRetained start.state := by
    have count := sweeping.remaining
    exact sweeping.through.eq_of_length (by omega)
  intro key waits
  obtain ⟨attempt, found, running, last⟩ := settled.still.waiting waits
  obtain ⟨claim, ends, _⟩ := Option.map_eq_some_iff.mp last
  have member : (key, claim) ∈ taken := by
    rw [all]
    exact List.mem_flatMap.mpr ⟨(key, attempt), start.state.attempts.mem_entries_iff.mpr found,
      List.mem_map.mpr ⟨claim, List.mem_of_getLast? ends, rfl⟩⟩
  exact settled.done _ member waits

end

variable {executor : FunctionExecutor}

namespace Sample

open Gawd.Wire.Sample

attribute [local instance] Wire.Sample.crypto

/-- A host whose process stops right before it writes the Started receipt. -/
def stoppingHost : Host :=
  { host with fate := fun time => if time = 5 then .stopped .beforeLogWrite "stopped" else .durable }

/-- Open, register, claim, stop before Started, and open again. -/
def untilReopened : List Label :=
  [.reopen config host none, .operate host (.bind 5), deliver (.register registration),
    .operate stoppingHost (.message ⟨.role "home", .creature 5, false, .grant (grant 1 .atMostOnce)⟩), .crash,
    .reopen config host none]

/-- The Home asks for the attempt from a newer route. -/
def newerQuery : SignedRecord ExecutionQuery :=
  signed .execute homeKey ⟨attempt 1, .sha256 0, 1, 2, "realm", "node", "role:home", authority, ⟨"query"⟩⟩

theorem untilReopened_anywhere : ∀ label ∈ untilReopened, label.Abides (anywhere executorKey) := by
  simp only [untilReopened, List.forall_mem_cons, deliver, Label.Abides, anywhere]
  exact ⟨by decide, trivial, trivial, trivial, trivial, by decide, by simp⟩

/-- The attempt has its claim and nothing else. -/
def claimedOnly (executor : FunctionExecutor) : Bool :=
  decide (executor.state.attempts.entries.map (fun entry => (entry.1, entry.2.grant, entry.2.receipts, entry.2.terminal)) =
    [(attempt 1, grant 1 .atMostOnce, [receipt 1 1 .claimed], false)])

theorem claimedOnly_entries (only : claimedOnly executor = true) :
    ∃ record, (∀ key found, executor.state.attempts.get? key = some found ↔ key = attempt 1 ∧ found = record) ∧
      record.grant = grant 1 .atMostOnce ∧ record.receipts = [receipt 1 1 .claimed] ∧ record.terminal = false := by
  have listed := of_decide_eq_true only
  obtain ⟨⟨key, record⟩, entries, same⟩ := List.map_eq_singleton_iff.mp listed
  simp only [Prod.mk.injEq] at same
  obtain ⟨rfl, granted, receipts, running⟩ := same
  refine ⟨record, fun key found => ?_, granted, receipts, running⟩
  rw [← SortedMap.mem_entries_iff, entries, List.mem_singleton, Prod.mk.injEq]

theorem started_signed (healthy : executor.journal.healthy = true) (own : executor.config = config) :
    signReceipt host (grant 1 .atMostOnce) 2 none .started executor = .ok (receipt 1 2 .started) executor := by
  rw [run_eq_ok, signReceipt]
  refine wp_run (ensureOperational_of_healthy healthy) ?_
  rw [wp_bind, wp_get, own]
  exact wp_pass rfl ⟨rfl, rfl⟩

theorem live_target (deployment : DeploymentReceipt) (executor : FunctionExecutor) :
    wp (requireLiveTarget host 9 deployment) (fun _ _ => True) (fun _ _ => False) executor := by
  unfold requireLiveTarget
  rw [wp_bind]
  trivial

/-- The Started receipt of the claim can be appended. -/
def startable (executor : FunctionExecutor) : Bool :=
  match commit host (.receipt (receipt 1 2 .started)) executor with
  | .ok _ _ => true
  | .error _ _ => false

/-- It can be whatever the sweep and the clock say. -/
theorem commits_of_startable {start later : FunctionExecutor} (starts : startable start = true)
    (config : later.config = start.config) (journal : later.journal = start.journal) (state : later.state = start.state) :
    ∃ after, commit host (.receipt (receipt 1 2 .started)) later = .ok () after := by
  have commits : wp (commit host (.receipt (receipt 1 2 .started))) (fun _ _ => True) (fun _ _ => False) start := by
    unfold startable at starts
    unfold wp
    split <;> simp_all
  have again : wp (commit host (.receipt (receipt 1 2 .started))) (fun _ _ => True) (fun _ _ => False) later := by
    unfold commit at commits ⊢
    simp only [wp_bind, wp_get, wp_lift, wp_tick, wp_zoom, inState, config, journal, state] at commits ⊢
    exact commits
  obtain ⟨_, after, committed, _⟩ := exists_of_wp again
  exact ⟨after, committed⟩

/-- Nothing hinders the resumption of the claim. -/
theorem claim_serviceable {start : FunctionExecutor} (sweep : ExecutorRecoverySweep) (own : start.config = config)
    (healthy : start.journal.healthy = true) (starts : startable start = true)
    (room : durableRecordReservations start.state < start.journal.caps.maxRecords - start.journal.records.length) :
    Serviceable host { start with recoverySweep := sweep } (grant 1 .atMostOnce) 9 (.creature 9) where
  healthy := healthy
  room := room
  parses := by decide
  starts later run := by
    have idle := wp_ok wp_requireLiveTarget run
    have operational : later.journal.healthy = true := by
      rw [idle.journal]
      exact healthy
    obtain ⟨after, committed⟩ := commits_of_startable starts idle.config idle.journal idle.state
    exact ⟨_, after, started_signed operational (idle.config.trans own), committed⟩
  refuses error later run := by
    obtain ⟨_, _, live, _⟩ :=
      exists_of_wp (live_target (grant 1 .atMostOnce).payload.deployment.payload { start with recoverySweep := sweep })
    rw [live] at run
    cases run

end Sample

open Sample Wire.Sample

attribute [local instance] Wire.Sample.crypto

/-- A claim that was left behind by a crash is resumed by the sweep after the reopen. -/
theorem claims_resumed_reopened : ∃ world start now, (anywhere executorKey).system.Reachable world ∧
    world.root = .up start ∧ Waiting start.state (attempt 1) ∧ Recovering Sample.host start now ∧
      now.recoverySweep.receiptsRemaining = 0 ∧ ¬ Waiting now.state (attempt 1) := by
  have run : endsWith untilReopened (fun start => claimedOnly start = true ∧ start.config = config ∧
      start.state.homeFences.get? (attempt 1).home = some (grantFence (grant 1 .atMostOnce)) ∧
      start.journal.healthy = true ∧ (allRetained start.state).length = 1 ∧
      durableRecordReservations start.state < start.journal.caps.maxRecords - start.journal.records.length ∧
      startable start = true ∧ ∃ sent now, recoveryDispatches Sample.host start = .ok sent now ∧
        now.recoverySweep.receiptsRemaining = 0) = true := by decide +kernel
  obtain ⟨world, start, reached, isUp, only, own, fence, healthy, single, room, starts, sent, now, swept, complete⟩ :=
    exists_of_abiding untilReopened_anywhere run
  obtain ⟨ledger, state, rests⟩ := rests_of_reachable reached
  rw [isUp] at rests
  obtain ⟨rfl, backs⟩ := rests
  obtain ⟨record, lookup, granted, receipts, running⟩ := claimedOnly_entries only
  have waits : Waiting start.state (attempt 1) :=
    ⟨record, (lookup _ _).mpr ⟨rfl, rfl⟩, running, by rw [receipts]; rfl⟩
  refine ⟨world, start, now, reached, isUp, waits, .begun swept, complete,
    claims_resumed reached isUp rfl ?_ ?_ (.begun swept) complete (attempt 1)⟩
  · intro key found held _ _
    obtain ⟨rfl, rfl⟩ := (lookup key found).mp held
    refine ⟨by rw [receipts]; rfl, by rw [granted]; exact fence, ?_⟩
    rw [granted, own]
    exact ⟨.role "home", by decide⟩
  · intro taken before asked claimed middle resumed run
    have earlier := resumed.swept backs rfl
    -- one receipt is retained in all, so nothing was taken before
    have first : taken = [] := by
      obtain ⟨sweeping, _, _⟩ := (earlier.took run).sweeping backs
      have bound := sweeping.through.length_le
      rw [single, List.length_append, List.length_singleton] at bound
      exact List.eq_nil_of_length_eq_zero (by omega)
    obtain ⟨sweep, rfl⟩ := resumed.untouched first backs rfl
    obtain ⟨sweeping, _, held⟩ := earlier.sweeping backs
    obtain ⟨belongs, _, _, further, rfl⟩ := wp_ok (sweeping.take held.held.grown.settled.sound) run
    obtain ⟨found, known, same, _⟩ := belongs
    obtain ⟨_, rfl⟩ := (lookup _ found).mp known
    change asked = _ at same
    rw [same, granted]
    exact ⟨9, .creature 9, @claim_serviceable start further own healthy starts room⟩

/-- A Home that asks from a newer route before the sweep strands the claim: the sweep runs to its end, with nothing that
hinders an append or the target, and the claim still waits. -/
theorem newer_route_strands_claim : ∃ world start sent now, (anywhere executorKey).system.Reachable world ∧
    world.root = .up start ∧ start.journal.healthy = true ∧
      durableRecordReservations start.state < start.journal.caps.maxRecords - start.journal.records.length ∧
      exactLocalTarget Sample.host (grant 1 .atMostOnce).payload = .ok (9, .creature 9) ∧
      recoveryDispatches Sample.host start = .ok sent now ∧ now.recoverySweep.receiptsRemaining = 0 ∧
      Waiting now.state (attempt 1) := by
  have run : endsWith (untilReopened ++ [deliver (.query newerQuery)]) (fun start => start.journal.healthy = true ∧
      durableRecordReservations start.state < start.journal.caps.maxRecords - start.journal.records.length ∧
      ∃ sent now, recoveryDispatches Sample.host start = .ok sent now ∧ now.recoverySweep.receiptsRemaining = 0 ∧
        Waiting now.state (attempt 1)) = true := by decide +kernel
  have abide : ∀ label ∈ untilReopened ++ [deliver (.query newerQuery)], label.Abides (anywhere executorKey) := by
    rw [List.forall_mem_append]
    exact ⟨untilReopened_anywhere, by simp [deliver, Label.Abides]⟩
  obtain ⟨world, start, reached, isUp, healthy, room, sent, now, swept⟩ := exists_of_abiding abide run
  exact ⟨world, start, sent, now, reached, isUp, healthy, room, by decide, swept⟩

end Gawd.Executor
