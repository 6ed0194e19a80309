import Gawd.Executor.Emission
import Gawd.Logic.TransitionSystem

/-!
Runs of one executor root: any operations, append failures, crashes and reopens, with the calls that
leave the process.
-/

namespace Gawd.Executor

open Gawd.Logic Gawd.Wire Gawd.Journal

/-- A root is either just its files, or a running process over them. -/
inductive Root where
  | down (files : Files ExecutorLedgerRecord)
  | up (executor : FunctionExecutor)

def Root.files : Root → Files ExecutorLedgerRecord
  | .down files => files
  | .up executor => executor.journal.files

/-- A root, the dispatches its process has still to hand over, and the calls it handed over. -/
structure World where
  root : Root
  outbox : List Dispatch
  emitted : List FunctionCall

/-- Calls handed over or waiting to be. -/
def World.allCalls (world : World) : List FunctionCall :=
  world.emitted ++ calls world.outbox

inductive Operation where
  | message (envelope : Envelope)
  | bind (me : Nat)
  | recover
  | claim (grant : SignedRecord ExecutionGrant)
  | recordStage (attempt : AttemptId) (stage : ExecutionStage) (observedAtUnixMs : Option Nat)
  | query (request : SignedRecord ExecutionQuery)

section

variable [Crypto]

def Operation.run (host : Host) : Operation → Action (List Dispatch)
  | .message envelope => respond host envelope
  | .bind me => Executor.bind host me
  | .recover => recoveryDispatches host
  | .claim grant => do
    match ← Executor.claim host grant with
    | .claimed _ call target => return [.call target call]
    | _ => return []
  | .recordStage attempt stage observedAtUnixMs => do
    let _ ← Executor.recordStage host attempt stage observedAtUnixMs
    return []
  | .query request => do
    let (receipt, target) ← Executor.query host request
    return [.receipt target receipt]

inductive Label where
  | reopen (config : ExecutorConfig) (host : Host) (fault : Option String)
  | operate (host : Host) (operation : Operation)
  | emit
  | crash

/-- One step of a root that belongs to the executor key `identity`. An append may fail at any point
inside an operation; a crash drops the process and everything it has not handed over. -/
inductive Step (identity : Text) : World → Label → World → Prop where
  | opened : config.executor = identity →
      openWithLiveness config host fault files = (.ok executor, written) →
      Step identity ⟨.down files, outbox, emitted⟩ (.reopen config host fault) ⟨.up executor, [], emitted⟩
  | openFailed : config.executor = identity →
      openWithLiveness config host fault files = (.error error, written) →
      Step identity ⟨.down files, outbox, emitted⟩ (.reopen config host fault) ⟨.down written, [], emitted⟩
  | operated : host.signer.publicKey = identity → handled (operation.run host) executor = (sent, after) →
      Step identity ⟨.up executor, outbox, emitted⟩ (.operate host operation)
        ⟨.up after, outbox ++ sent, emitted⟩
  | emitted : Step identity ⟨.up executor, dispatch :: outbox, emitted⟩ .emit
      ⟨.up executor, outbox, emitted ++ calls [dispatch]⟩
  | crashed : Step identity ⟨.up executor, outbox, emitted⟩ .crash
      ⟨.down executor.journal.files, [], emitted⟩

/-- The runs of one executor root, from an empty one. -/
def executorSystem (identity : Text) : TransitionSystem World Label where
  start world := world = ⟨.down .empty, [], []⟩
  step := Step identity

/-- Take one step, when the label is enabled. -/
def World.advance (identity : Text) (world : World) (label : Label) : Option World :=
  match world.root, label with
  | .down files, .reopen config host fault =>
    if config.executor = identity then
      match openWithLiveness config host fault files with
      | (.ok executor, _) => some ⟨.up executor, [], world.emitted⟩
      | (.error _, written) => some ⟨.down written, [], world.emitted⟩
    else
      none
  | .up executor, .operate host operation =>
    if host.signer.publicKey = identity then
      some ⟨.up (handled (operation.run host) executor).2,
        world.outbox ++ (handled (operation.run host) executor).1, world.emitted⟩
    else
      none
  | .up executor, .emit =>
    match world.outbox with
    | [] => none
    | dispatch :: outbox => some ⟨.up executor, outbox, world.emitted ++ calls [dispatch]⟩
  | .up executor, .crash => some ⟨.down executor.journal.files, [], world.emitted⟩
  | _, _ => none

theorem World.advance_step {before : World} (advanced : before.advance identity label = some after) :
    Step identity before label after := by
  obtain ⟨root, outbox, emitted⟩ := before
  unfold World.advance at advanced
  split at advanced
  · rename_i files config host fault isDown
    cases isDown
    split at advanced
    · rename_i same
      split at advanced
      · rename_i opened
        cases advanced
        exact .opened same opened
      · rename_i failed
        cases advanced
        exact .openFailed same failed
    · cases advanced
  · rename_i executor host operation isUp
    cases isUp
    split at advanced
    · rename_i same
      cases advanced
      exact .operated same rfl
    · cases advanced
  · rename_i executor isUp
    cases isUp
    split at advanced
    · cases advanced
    · rename_i listed
      cases listed
      cases advanced
      exact .emitted
  · rename_i executor isUp
    cases isUp
    cases advanced
    exact .crashed
  · cases advanced

/-- Take a list of steps. -/
def World.advanceAll (identity : Text) : World → List Label → Option World
  | world, [] => some world
  | world, label :: rest => (world.advance identity label).bind fun next => next.advanceAll identity rest

variable {before : World}

theorem World.advanceAll_reachable (reached : (executorSystem identity).Reachable before)
    (advanced : before.advanceAll identity labels = some after) : (executorSystem identity).Reachable after := by
  induction labels generalizing before with
  | nil =>
    cases advanced
    exact reached
  | cons label rest ih =>
    obtain ⟨middle, first, later⟩ := Option.bind_eq_some_iff.mp advanced
    exact ih (reached.step (World.advance_step first)) later

/-- The grant an operation brings is trusted. -/
def Operation.Trusted (trusted : SignedRecord ExecutionGrant → Prop) : Operation → Prop
  | .message envelope => envelope.message.Trusted trusted
  | .claim grant => trusted grant
  | _ => True

def Label.Trusted (trusted : SignedRecord ExecutionGrant → Prop) : Label → Prop
  | .operate _ operation => operation.Trusted trusted
  | _ => True

variable {trusted : SignedRecord ExecutionGrant → Prop}

variable {operation : Operation}

theorem emitting_run (host : Host) (trust : operation.Trusted trusted) : Emitting trusted (operation.run host) := by
  have handling : Handling _ host trusted _ _ := handling_emits
  have sweeps : ∀ executor sweep, Emits trusted executor [] { executor with recoverySweep := sweep } :=
    fun _ _ => .nothing (.of_same rfl rfl rfl)
  refine Handles.emitting ?_
  cases operation with
  | message envelope => exact respond_handles handling sweeps trust
  | bind me => exact bind_handles handling sweeps
  | recover => exact recoveryDispatches_handles handling sweeps
  | claim grant =>
    intro executor _
    refine wp_then (handling.claims trust executor) (fun outcome after emits => ?_)
    cases outcome <;> exact emits
  | recordStage attempt stage observedAtUnixMs =>
    exact handling.bind (recordStage_moves fun _ _ => trivial) fun _ => handling.silent rfl
  | query request => exact handling.bind (query_moves handling.permits) fun _ => handling.silent rfl

/-- An operation run to its end, whether it succeeded or failed. -/
theorem emits_of_handled (trust : operation.Trusted trusted) (held : Holds trusted executor)
    (ran : handled (operation.run host) executor = (sent, after)) : Emits trusted executor (calls sent) after := by
  have spec := emitting_run host trust executor held
  unfold handled at ran
  split at ran
  · rename_i run
    cases ran
    have emits := wp_ok spec run
    exact emits
  · rename_i run
    cases ran
    have moved := wp_error spec run
    exact .nothing moved

/-- Replay brings back every attempt whose second receipt is in the log. -/
theorem wp_replay (trust : ∀ record ∈ records, record.Trusted trusted) :
    wp (replay config journalSigner records)
      (fun _ after => Advances trusted state after ∧ ∀ receipt,
        .receipt receipt ∈ records → receipt.payload.sequence = 2 → Started after receipt.payload.attempt)
      (fun _ after => Advances trusted state after) state := by
  induction records generalizing state with
  | nil => exact ⟨Std.Refl.refl state, by simp⟩
  | cons record rest ih =>
    rw [List.forall_mem_cons] at trust
    unfold replay
    rw [wp_bind]
    have first : wp (applyRecord config journalSigner record)
        (fun _ after => Advances trusted state after ∧ ∀ receipt,
          record = .receipt receipt → receipt.payload.sequence = 2 → Started after receipt.payload.attempt)
        (fun _ after => Advances trusted state after) state := by
      cases record with
      | receipt receipt =>
        refine wp_imp (wp_applyRecord_receipt config journalSigner receipt state) ?_
        rintro _ after ⟨moved, old, later, _, admitted, inAfter, continues⟩
        refine ⟨moved, ?_⟩
        rintro _ ⟨rfl⟩ second
        have next := (AttemptRecord.admits_eq_ok admitted).2.1
        have grown := continues.receipts.length_le
        rw [AttemptRecord.push_receipts, List.length_append, List.length_singleton] at grown
        exact ⟨later, inAfter, by omega⟩
      | _ =>
        refine wp_imp (along_applyRecord trust.1 state) ?_
        exact fun _ _ moved => ⟨moved, by simp⟩
    refine wp_imp first ?_
    rintro _ middle ⟨moved, started⟩
    refine wp_mono (ih trust.2) ?_ (fun _ _ later => IsTrans.trans _ _ _ moved later)
    rintro _ after ⟨later, restStarted⟩
    refine ⟨IsTrans.trans _ _ _ moved later, ?_⟩
    intro receipt member second
    rcases List.mem_cons.mp member with here | there
    · exact later.retained.started (started receipt here.symm second)
    · exact restStarted receipt there second

theorem along_terminaliseEach : Along (Progresses trusted) (terminaliseEach host attempts) := by
  induction attempts with
  | nil => exact Along.pure ()
  | cons attempt rest ih =>
    unfold terminaliseEach terminaliseRecovered
    refine Along.bind ?_ fun _ => ih
    refine Along.get.bind fun _ => along_ensureAppendCapacity.of_eq.bind fun _ => ?_
    exact .check fun _ => along_commit (by trivial)

omit [Crypto] in
theorem along_ensureReservedCapacity : Along Eq ensureReservedCapacity :=
  Along.get.bind fun _ => .check fun _ => Along.lift _

theorem along_settleRecovered : Along (Progresses trusted) (settleRecovered host) := by
  unfold settleRecovered
  refine Along.get.bind fun _ => .check fun _ => ?_
  refine along_ensureReservedCapacity.of_eq.bind fun _ => .check fun _ => ?_
  refine .check fun _ => along_terminaliseEach.bind fun _ => ?_
  refine Along.get.bind fun _ => .check fun _ => ?_
  exact along_ensureReservedCapacity.of_eq

variable {executor : FunctionExecutor}

/-- Recovery makes progress from the empty state and brings back every started attempt. -/
theorem wp_recoverState (trust : ∀ record ∈ executor.journal.events, record.Trusted trusted) :
    wp (recoverState host)
      (fun _ after => Progresses trusted executor after ∧ ∀ receipt,
        .receipt receipt ∈ executor.journal.events → receipt.payload.sequence = 2 →
          Started after.state receipt.payload.attempt)
      (fun _ after => Progresses trusted executor after) executor := by
  unfold recoverState
  rw [wp_bind, wp_get, wp_bind, inState, wp_zoom]
  refine wp_mono (wp_replay trust) ?_
    (fun _ _ moved => .of_advances moved)
  rintro _ state ⟨moved, started⟩
  have replayed : Progresses trusted executor { executor with state } := .of_advances moved
  refine wp_mono (along_settleRecovered _) ?_ (fun _ _ later => IsTrans.trans _ _ _ replayed later)
  intro _ after later
  refine ⟨IsTrans.trans _ _ _ replayed later, ?_⟩
  intro receipt member second
  exact later.retained.started (started receipt member second)

theorem openJournal_eq_ok {files : Files ExecutorLedgerRecord}
    (opened : openJournal config host fault files = .ok executor) :
    executor.config = config ∧ executor.state = .initial ∧ executor.journal.records = files.records ∧
      executor.journal.files.records = files.records := by
  simp only [openJournal, SignedJournal.openWithSchema, bind_eq_ok, mapError_eq_ok,
    pure_eq_ok] at opened
  obtain ⟨_, _, _, _, journal, recovered, rfl⟩ := opened
  obtain ⟨records, logged, _, _⟩ := SignedJournal.openWithAuthority_eq_ok recovered
  exact ⟨rfl, rfl, records, logged⟩

/-- A journal just opened over a trusted log, and the recovery from it. -/
theorem holds_of_openJournal {files : Files ExecutorLedgerRecord}
    (trust : ∀ record, Durable files record → record.Trusted trusted)
    (opened : openJournal config host fault files = .ok executor) :
    Holds trusted executor ∧ ∀ record ∈ executor.journal.events, record.Trusted trusted := by
  obtain ⟨-, initial, records, logged⟩ := openJournal_eq_ok opened
  refine ⟨⟨?_, ?_⟩, ?_⟩
  · intro attempt record found
    rw [initial] at found
    cases found
  · rintro record ⟨entry, member, same⟩
    exact trust record ⟨entry, logged ▸ member, same⟩
  · intro record member
    obtain ⟨entry, listed, same⟩ := List.mem_map.mp member
    exact trust record ⟨entry, records ▸ listed, same⟩

/-- An opened root: what it holds and what it brings back. -/
theorem openWithLiveness_ok {config : ExecutorConfig} {files : Files ExecutorLedgerRecord}
    (trust : ∀ record, Durable files record → record.Trusted trusted)
    (opened : openWithLiveness config host fault files = (.ok executor, written)) :
    files.records <+: executor.journal.files.records ∧ executor.config.executor = config.executor ∧
      Holds trusted executor ∧ ∀ attempt, StartedDurable files attempt → Started executor.state attempt := by
  unfold openWithLiveness at opened
  split at opened
  · cases opened
  · rename_i first journalOpened
    obtain ⟨held, events⟩ := holds_of_openJournal trust journalOpened
    obtain ⟨sameConfig, -, records, logged⟩ := openJournal_eq_ok journalOpened
    split at opened
    · rename_i recovered
      cases opened
      have spec := wp_ok (wp_recoverState events) recovered
      obtain ⟨moved, started⟩ := spec
      refine ⟨logged ▸ moved.log, by rw [moved.identity, sameConfig], moved.kept held, ?_⟩
      rintro _ ⟨receipt, ⟨entry, member, same⟩, rfl, second, -⟩
      refine started receipt ?_ second
      exact List.mem_map.mpr ⟨entry, records ▸ member, same⟩
    · cases opened

/-- An open that fails leaves a log that is at least as long. -/
theorem openWithLiveness_error {files written : Files ExecutorLedgerRecord}
    (trust : ∀ record, Durable files record → record.Trusted trusted)
    (failed : openWithLiveness config host fault files = (.error error, written)) :
    files.records <+: written.records ∧ ∀ record, Durable written record → record.Trusted trusted := by
  unfold openWithLiveness at failed
  split at failed
  · cases failed
    exact ⟨List.prefix_rfl, trust⟩
  · rename_i first journalOpened
    obtain ⟨held, events⟩ := holds_of_openJournal trust journalOpened
    obtain ⟨-, -, -, logged⟩ := openJournal_eq_ok journalOpened
    split at failed
    · cases failed
    · rename_i recovered
      cases failed
      have moved := wp_error (wp_recoverState events) recovered
      exact ⟨logged ▸ moved.log, (moved.kept held).log⟩

/-- What every state of a run satisfies. -/
structure Recorded (identity : Text) (trusted : SignedRecord ExecutionGrant → Prop) (world : World) :
    Prop where
  distinct : (world.allCalls.map FunctionCall.attempt).Nodup
  durable : ∀ call ∈ world.allCalls, StartedDurable world.root.files call.attempt
  granted : ∀ call ∈ world.allCalls, call.attempt = call.grant.payload.attempt ∧ trusted call.grant ∧
    call.grant.payload.deployment.payload.executor = identity
  log : ∀ record, Durable world.root.files record → record.Trusted trusted
  running : ∀ executor, world.root = .up executor → executor.config.executor = identity ∧
    Holds trusted executor ∧ ∀ call ∈ world.allCalls, Started executor.state call.attempt

omit [Crypto] in
theorem World.emitted_prefix (world : World) : world.emitted <+: world.allCalls :=
  List.prefix_append _ _

/-- A process that goes or comes over a longer log: what was handed over stays recorded. -/
theorem Recorded.restart {root : Root} (recorded : Recorded identity trusted before)
    (log : before.root.files.records <+: root.files.records)
    (trust : ∀ record, Durable root.files record → record.Trusted trusted)
    (running : ∀ executor, root = .up executor → executor.config.executor = identity ∧
      Holds trusted executor ∧ ∀ call ∈ before.emitted, Started executor.state call.attempt) :
    Recorded identity trusted ⟨root, [], before.emitted⟩ := by
  have same : World.allCalls ⟨root, [], before.emitted⟩ = before.emitted := List.append_nil _
  have known : ∀ call ∈ before.emitted, call ∈ before.allCalls :=
    fun call member => before.emitted_prefix.subset member
  constructor <;> simp only [same]
  · exact recorded.distinct.sublist (before.emitted_prefix.sublist.map _)
  · exact fun call member => (recorded.durable call (known call member)).mono log
  · exact fun call member => recorded.granted call (known call member)
  · exact trust
  · exact running

/-- An operation adds the calls it produced. -/
theorem Recorded.operate (recorded : Recorded identity trusted ⟨.up executor, outbox, emitted⟩)
    (emits : Emits trusted executor (calls sent) after) :
    Recorded identity trusted ⟨.up after, outbox ++ sent, emitted⟩ := by
  obtain ⟨sameIdentity, held, started⟩ := recorded.running executor rfl
  have split : World.allCalls ⟨.up after, outbox ++ sent, emitted⟩ =
      World.allCalls ⟨.up executor, outbox, emitted⟩ ++ calls sent := by
    simp [World.allCalls, List.append_assoc]
  constructor <;> simp only [split]
  · rw [List.map_append, List.nodup_append]
    refine ⟨recorded.distinct, emits.distinct, ?_⟩
    intro attempt member other otherMember same
    obtain ⟨call, old, rfl⟩ := List.mem_map.mp member
    obtain ⟨repeated, new, rfl⟩ := List.mem_map.mp otherMember
    exact emits.fresh repeated new (same ▸ started call old)
  · intro call member
    rcases List.mem_append.mp member with old | new
    · exact (recorded.durable call old).mono emits.progress.log
    · exact (emits.started call new).2
  · intro call member
    rcases List.mem_append.mp member with old | new
    · exact recorded.granted call old
    · exact sameIdentity ▸ emits.granted call new
  · exact (emits.progress.kept held).log
  · rintro _ ⟨rfl⟩
    refine ⟨emits.progress.identity.trans sameIdentity, emits.progress.kept held, ?_⟩
    intro call member
    rcases List.mem_append.mp member with old | new
    · exact emits.progress.retained.started (started call old)
    · exact (emits.started call new).1

/-- Every step of a run keeps the record of its calls. -/
theorem Recorded.step {label : Label} (recorded : Recorded identity trusted before) (trust : label.Trusted trusted)
    (step : Step identity before label after) : Recorded identity trusted after := by
  cases step with
  | opened same opened =>
    obtain ⟨log, sameConfig, held, started⟩ := openWithLiveness_ok recorded.log opened
    refine recorded.restart log held.log ?_
    rintro _ ⟨rfl⟩
    refine ⟨sameConfig.trans same, held, fun call member => ?_⟩
    exact started _ (recorded.durable call (World.emitted_prefix _ |>.subset member))
  | openFailed _ failed =>
    obtain ⟨log, trusting⟩ := openWithLiveness_error recorded.log failed
    refine recorded.restart log trusting ?_
    rintro _ ⟨⟩
  | operated _ ran =>
    obtain ⟨-, held, -⟩ := recorded.running _ rfl
    exact recorded.operate (emits_of_handled trust held ran)
  | @emitted executor dispatch outbox emitted =>
    have same : World.allCalls ⟨.up executor, outbox, emitted ++ calls [dispatch]⟩ =
        World.allCalls ⟨.up executor, dispatch :: outbox, emitted⟩ := by
      unfold World.allCalls
      rw [List.append_assoc, ← calls_append, List.singleton_append]
    cases recorded
    constructor <;> simp only [same] <;> assumption
  | crashed =>
    refine recorded.restart List.prefix_rfl recorded.log ?_
    rintro _ ⟨⟩

theorem Recorded.start (identity : Text) (trusted : SignedRecord ExecutionGrant → Prop) :
    Recorded identity trusted ⟨.down .empty, [], []⟩ := by
  constructor
  · exact List.nodup_nil
  · exact fun _ member => absurd member List.not_mem_nil
  · exact fun _ member => absurd member List.not_mem_nil
  · rintro record ⟨_, member, _⟩
    exact absurd member List.not_mem_nil
  · rintro _ ⟨⟩

theorem recorded_of_trusted
    (reached : ((executorSystem identity).restrict fun _ label => label.Trusted trusted).Reachable world) :
    Recorded identity trusted world := by
  refine reached.invariant ?_ fun _ _ _ recorded taken => recorded.step taken.2 taken.1
  rintro _ rfl
  exact .start identity trusted

/-- In every state of every run, the calls are recorded. -/
theorem recorded_of_reachable (reached : (executorSystem identity).Reachable world) :
    Recorded identity (fun _ => True) world := by
  refine reached.invariant ?_ ?_
  · rintro _ rfl
    exact .start identity _
  · intro before label after recorded step
    refine recorded.step ?_ step
    cases label with
    | operate host operation =>
      cases operation with
      | message envelope =>
        obtain ⟨_, _, _, message⟩ := envelope
        cases message <;> trivial
      | _ => trivial
    | _ => trivial

end

end Gawd.Executor
