import Gawd.Executor.Run

/-!
What an executor answers about an attempt that has ended.
-/

namespace Gawd.Executor

open Gawd.Logic Gawd.Wire Gawd.Journal

variable {failure : ExecutorError → FunctionExecutor → Prop} {last : SignedRecord ExecutionReceipt}

theorem wp_ensureOperational (healthy : executor.journal.healthy = true) :
    wp ensureOperational success failure executor ↔ success () executor := by
  unfold ensureOperational SignedJournal.ensureHealthy
  rw [wp_bind, wp_get, wp_lift]
  simp only [healthy, reject, mapError]
  exact ⟨fun passes => passes.1 () rfl, fun holds => ⟨fun _ _ => holds, by simp⟩⟩

/-- A terminal stage is neither an observation nor an acknowledgment that could be known already. -/
theorem earlierRecord_of_terminal (terminal : stageTerminal stage = true) :
    earlierRecord state attempt record stage = .ok none := by
  cases stage <;> simp_all [earlierRecord, stageTerminal]

section

variable [Crypto]

/-- A signed query that the executor accepts for the attempt it names, with the route of its answer. -/
structure QueryAdmitted (host : Host) (executor : FunctionExecutor) (record : AttemptRecord)
    (request : SignedRecord ExecutionQuery) (target : Address) : Prop where
  operational : executor.journal.healthy = true
  verified : verifyExecutionQuery request = .ok ()
  found : executor.state.attempts.get? request.payload.attempt = some record
  exact : request.payload.grantHash = record.grantHash ∧
    request.payload.attempt = record.grant.payload.attempt ∧
    request.payload.attempt.home = record.grant.payload.owner
  unfenced : validateQueryFence executor.state request = .ok ()
  routed : host.queryHomeTarget record.grant.payload request.payload = .ok target

/-- The grant of a retained attempt, delivered again and still accepted. -/
structure DuplicateAdmitted (executor : FunctionExecutor) (record : AttemptRecord)
    (grant : SignedRecord ExecutionGrant) : Prop where
  operational : executor.journal.healthy = true
  valid : validate grant = .ok ()
  verified : verifyExecutionGrant grant = .ok ()
  deployment : verifyDeploymentReceipt grant.payload.deployment = .ok ()
  pinned : grant.payload.deployment.payload.executor = executor.config.executor
  unfenced : validateHomeFence executor.state grant = .ok ()
  found : executor.state.attempts.get? grant.payload.attempt = some record
  exact : record.grantHash = canonicalHash grant

/-- Reconciling an attempt reports the given receipt: to every admitted query, to every admitted
duplicate of its grant, and when the stage of the receipt is recorded again. -/
structure Reports (host : Host) (executor : FunctionExecutor) (attempt : AttemptId)
    (record : AttemptRecord) (receipt : SignedRecord ExecutionReceipt) : Prop where
  toQuery : ∀ request target, request.payload.attempt = attempt →
    QueryAdmitted host executor record request target →
    ∀ answer after, query host request executor = .ok answer after → answer = (receipt, target)
  toCurrentQuery : ∀ request target fence, request.payload.attempt = attempt →
    QueryAdmitted host executor record request target →
    executor.state.homeFences.get? attempt.home = some fence → fence.covers (queryFence request) = true →
    query host request executor = .ok (receipt, target) executor
  toDuplicate : ∀ grant, grant.payload.attempt = attempt → DuplicateAdmitted executor record grant →
    claim host grant executor = .ok (.terminal receipt) executor
  toRecord : ∀ observedAtUnixMs,
    recordStage host attempt receipt.payload.stage observedAtUnixMs executor =
      .ok (.duplicate receipt) executor

variable {executor : FunctionExecutor}

variable {record : AttemptRecord}

/-- An admitted query reaches its answer: the last receipt. -/
theorem wp_query {request : SignedRecord ExecutionQuery}
    (admitted : QueryAdmitted host executor record request target) (ends : record.receipts.getLast? = some last)
    (fenced : wp (if (executor.state.homeFences.get? request.payload.attempt.home).any fun fence =>
          fence.covers (queryFence request) then
        return (last, target)
      else do
        ensureAppendCapacity (durableRecordReservations executor.state)
        commit host (.homeFence request)
        return (last, target)) success failure executor) : wp (query host request) success failure executor := by
  unfold query
  rw [wp_bind, wp_ensureOperational admitted.operational]
  have verified : ofUnauthorized (verifyExecutionQuery request) = .ok () := by
    rw [ofUnauthorized, mapError_eq_ok, admitted.verified]
  rw [wp_passed verified, wp_bind, wp_get]
  rw [wp_passed (orError_eq_ok.mpr admitted.found), wp_passed (orError_eq_ok.mpr ends)]
  have exact : ¬ (request.payload.grantHash ≠ record.grantHash ∨
      request.payload.attempt ≠ record.grant.payload.attempt ∨
      request.payload.attempt.home ≠ record.grant.payload.owner) := by
    obtain ⟨hash, attempt, owner⟩ := admitted.exact
    simp only [not_or, not_not]
    exact ⟨hash, attempt, owner⟩
  rw [wp_passed (reject_of_not exact), wp_passed admitted.unfenced]
  rw [wp_passed (mapError_eq_ok.mpr admitted.routed)]
  exact fenced

variable {attempt : AttemptId}

/-- An attempt whose last receipt is terminal reports that receipt. -/
theorem reports_of_last_terminal (healthy : executor.journal.healthy = true)
    (found : executor.state.attempts.get? attempt = some record) (ended : record.terminal = true)
    (ends : record.receipts.getLast? = some last) (terminal : stageTerminal last.payload.stage = true)
    (valid : validate last.payload.stage = .ok ()) : Reports host executor attempt record last := by
  constructor
  · intro request target _ admitted answer after ran
    have spec : wp (query host request) (fun answer _ => answer = (last, target)) (fun _ _ => True)
        executor := by
      refine wp_query admitted ends ?_
      rw [wp_ite]
      refine ⟨fun _ => rfl, fun _ => ?_⟩
      refine wp_whatever (fun _ _ => trivial) fun _ _ => ?_
      exact wp_whatever (fun _ _ => trivial) fun _ _ => rfl
    have reported := wp_ok spec ran
    exact reported
  · intro request target fence same admitted current covers
    rw [run_eq_ok]
    refine wp_query admitted ends ?_
    rw [same, current, Option.any_some, covers, if_pos rfl]
    exact ⟨rfl, rfl⟩
  · intro grant same admitted
    rw [run_eq_ok, claim, wp_bind, wp_ensureOperational healthy]
    have valid : ofInvalid (validate grant) = .ok () := by rw [ofInvalid, mapError_eq_ok, admitted.valid]
    have verified : ofUnauthorized (verifyExecutionGrant grant) = .ok () := by
      rw [ofUnauthorized, mapError_eq_ok, admitted.verified]
    rw [wp_passed valid, wp_passed verified, wp_passed (mapError_eq_ok.mpr admitted.deployment)]
    rw [wp_bind, wp_get, wp_passed (reject_of_not (by simpa using admitted.pinned))]
    rw [wp_passed admitted.unfenced]
    simp only [same, found]
    unfold claimAgain
    rw [wp_passed (reject_of_not (by simpa using admitted.exact)), wp_passed (orError_eq_ok.mpr ends)]
    simp [ended]
  · intro observedAtUnixMs
    rw [run_eq_ok, recordStage, wp_bind, wp_ensureOperational healthy]
    have checked : ofInvalid (validate last.payload.stage) = .ok () := by
      rw [ofInvalid, mapError_eq_ok, valid]
    rw [wp_passed checked, wp_bind, wp_get, wp_passed (orError_eq_ok.mpr found)]
    rw [wp_passed (earlierRecord_of_terminal terminal)]
    have repeated : afterTerminal record last.payload.stage = .ok (some (.duplicate last)) := by
      simp [afterTerminal, ended, ends, not_acknowledged_of_terminal terminal]
    rw [wp_passed repeated]
    exact ⟨rfl, rfl⟩

variable {receipt : SignedRecord ExecutionReceipt}

/-- Recording a terminal stage again is a duplicate only when the last receipt carries that stage. -/
theorem last_of_recorded (found : executor.state.attempts.get? attempt = some record)
    (ended : record.terminal = true) (terminal : stageTerminal receipt.payload.stage = true)
    (ran : recordStage host attempt receipt.payload.stage observedAtUnixMs executor =
      .ok (.duplicate receipt) after) :
    ∃ last, record.receipts.getLast? = some last ∧ stageTerminal last.payload.stage = true := by
  have spec : wp (recordStage host attempt receipt.payload.stage observedAtUnixMs)
      (fun _ _ => ∃ last, record.receipts.getLast? = some last ∧ stageTerminal last.payload.stage = true)
      (fun _ _ => True) executor := by
    unfold recordStage
    refine wp_operational ?_ fun _ => ⟨⟩
    refine wp_assume fun _ _ => ?_
    rw [wp_bind, wp_get, wp_passed (orError_eq_ok.mpr found)]
    rw [wp_passed (earlierRecord_of_terminal terminal)]
    refine wp_assume fun outcome known => ?_
    simp only [afterTerminal, ended, not_acknowledged_of_terminal terminal, and_self, if_true] at known
    split at known
    · rename_i last ends
      split at known
      · rename_i same
        have reported : ∃ last, record.receipts.getLast? = some last ∧
            stageTerminal last.payload.stage = true := ⟨last, ends, by rw [same, terminal]⟩
        exact wp_intro (fun _ _ _ => reported) fun _ _ _ => trivial
      · cases known
    · cases known
  have reported := wp_ok spec ran
  exact reported

/-- The stage of a verified receipt is well formed. -/
theorem valid_stage_of_verified (verified : verifyExecutionReceipt receipt grant = .ok ()) :
    validate receipt.payload.stage = .ok () := by
  simp only [verifyExecutionReceipt, bind_eq_ok] at verified
  obtain ⟨_, _, _, valid, _⟩ := verified
  simp only [validate, SignedRecord.validateWith, bind_eq_ok] at valid
  obtain ⟨_, _, _, _, _, _, _, ⟨_, _, _, _, _, _, _, _, _, stage, _⟩, _⟩ := valid
  exact stage

/-- Over all crashes and reopens, a root calls once for an attempt at most, by a grant that names its own key, and not
before the Started receipt of the attempt is in its log. -/
theorem attempts_called_once (reached : (executorSystem identity).Reachable world) :
    (world.allCalls.map FunctionCall.attempt).Nodup ∧ ∀ call ∈ world.allCalls,
      StartedDurable world.root.files call.attempt ∧ call.attempt = call.grant.payload.attempt ∧
        call.grant.payload.deployment.payload.executor = identity := by
  have recorded := recorded_of_reachable reached
  refine ⟨recorded.distinct, fun call member => ⟨recorded.durable call member, ?_⟩⟩
  obtain ⟨own, -, named⟩ := recorded.granted call member
  exact ⟨own, named⟩

/-- The receipts a running executor holds of an attempt verify for its grant, are numbered from one without a gap, and
end once: after a terminal stage there are only acknowledgments. -/
theorem receipts_in_order (reached : (executorSystem identity).Reachable world) (running : world.root = .up executor)
    (held : executor.state.attempts.get? attempt = some record) :
    record.grant.payload.attempt = attempt ∧
      record.receipts.map (fun receipt => receipt.payload.sequence) = List.range' 1 record.receipts.length ∧
      (∀ receipt ∈ record.receipts, verifyExecutionReceipt receipt record.grant = .ok ()) ∧
      Shape (record.receipts.map fun receipt => receipt.payload.stage) record.terminal := by
  obtain ⟨-, holds, -⟩ := (recorded_of_reachable reached).running executor running
  obtain ⟨own, -, sound⟩ := holds.attempts attempt record held
  refine ⟨own, List.ext_getElem (by simp) fun index within _ => ?_, sound.verified, sound.shape⟩
  rw [List.getElem_map, List.getElem_range', Nat.one_mul, Nat.add_comm]
  exact sound.sequences index _ (List.getElem?_eq_getElem _)

end

/-! A run of one attempt that is steered, succeeds, and only then hears back about the steering. -/

namespace Sample

open Gawd.Wire.Sample

attribute [local instance] Wire.Sample.crypto

def config : ExecutorConfig :=
  ⟨executorKey, 4, "realm", "node", "auto", 4, ⟨64, 4096⟩⟩

/-- A host that signs, admits, finds every target live and never fails an append. -/
def host : Host where
  signer := signerOf executorKey
  functionTarget grant := parseAddress grant.deployment.payload.creature
  homeTarget _ := .ok (.role "home")
  queryHomeTarget _ _ := .ok (.role "home")
  controlHomeTarget _ _ := .ok (.role "home")
  admitRegister _ := .ok ()
  admitUndeploy _ _ := .ok ()
  targetIsLive _ _ _ := .ok true
  fate _ := .durable

def deliver (message : Message) : Label :=
  .operate host (.message ⟨.role "home", .creature 5, false, message⟩)

def fresh : World := ⟨.down .empty, [], []⟩

/-- Open, register, claim and start, queue a control, succeed. -/
def untilSucceeded : List Label :=
  [.reopen config host none, .operate host (.bind 5), deliver (.register registration),
    deliver (.grant (grant 1 .atMostOnce)), deliver (.control executionControl),
    .operate host (.recordStage (attempt 1) (.succeeded value) none)]

def lateAcknowledgment : ExecutionStage := .controlAcknowledged control .applied none

/-- The process a run ends in satisfies a test. -/
def endsWith (labels : List Label) (test : FunctionExecutor → Bool) : Bool :=
  (fresh.advanceAll executorKey labels).any fun world =>
    match world.root with
    | .up executor => test executor
    | .down _ => false

section

variable {test : FunctionExecutor → Prop} [DecidablePred test]

theorem world_of_endsWith (ends : endsWith labels (fun executor => test executor) = true) : ∃ world executor,
    fresh.advanceAll executorKey labels = some world ∧ world.root = .up executor ∧ test executor := by
  obtain ⟨world, advanced, ends⟩ := (Option.any_eq_true _ _).mp ends
  split at ends
  · rename_i executor isUp
    exact ⟨world, executor, advanced, isUp, of_decide_eq_true ends⟩
  · cases ends

theorem exists_of_endsWith (labels : List Label) (ends : endsWith labels (fun executor => test executor) = true) :
    ∃ world executor, (executorSystem executorKey).Reachable world ∧ world.root = .up executor ∧ test executor := by
  obtain ⟨world, executor, advanced, rest⟩ := world_of_endsWith ends
  exact ⟨world, executor, World.advanceAll_reachable (.start rfl) advanced, rest⟩

end

/-- The outcome of an operation, without the process it leaves behind. -/
def outcome {ε σ α : Type} : EStateM.Result ε σ α → Except ε α
  | .ok value _ => .ok value
  | .error error _ => .error error

/-- The attempt is retained as ended, with its last receipt. -/
def ended (stage : ExecutionStage) (executor : FunctionExecutor) : Bool :=
  match executor.state.attempts.get? (attempt 1) with
  | some record => record.terminal &&
      decide (record.receipts.getLast?.map (fun receipt => receipt.payload.stage) = some stage)
  | none => false

end Sample

open Sample Wire.Sample

attribute [local instance] Wire.Sample.crypto

theorem attempts_called_once_started : ∃ world call, (executorSystem executorKey).Reachable world ∧
    call ∈ world.allCalls ∧ StartedDurable world.root.files call.attempt := by
  have run : (fresh.advanceAll executorKey untilSucceeded).any (fun world => 0 < world.allCalls.length) = true := by
    decide +kernel
  obtain ⟨world, advanced, some⟩ := (Option.any_eq_true _ _).mp run
  have reached := World.advanceAll_reachable (.start rfl) advanced
  obtain ⟨call, made⟩ := List.exists_mem_of_length_pos (of_decide_eq_true some)
  exact ⟨world, call, reached, made, ((attempts_called_once reached).2 call made).1⟩

theorem receipts_in_order_succeeded : ∃ world executor record, (executorSystem executorKey).Reachable world ∧
    world.root = .up executor ∧ executor.state.attempts.get? (attempt 1) = some record ∧
    record.grant.payload.attempt = attempt 1 := by
  have run : endsWith untilSucceeded (fun executor =>
      (executor.state.attempts.get? (attempt 1)).isSome = true) = true := by decide +kernel
  obtain ⟨world, executor, reached, running, held⟩ := exists_of_endsWith _ run
  obtain ⟨record, held⟩ := Option.isSome_iff_exists.mp held
  exact ⟨world, executor, record, reached, running, held, (receipts_in_order reached running held).1⟩

end Gawd.Executor
