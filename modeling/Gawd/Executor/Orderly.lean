import Gawd.Executor.Reconciliation
import Gawd.Executor.Reopen

/-!
An executor that only records what its operations are documented to record reopens every journal it wrote.
-/

namespace Gawd.Executor

open Gawd.Logic Gawd.Wire Gawd.Journal

variable {labels : List Label}

section

variable [Crypto]

/-- How an attempt that is there after a record has come about. -/
inductive Appears (state : ExecutorState) (key : AttemptId) (attempt : AttemptRecord) : ExecutorLedgerRecord → Prop where
  | kept : state.attempts.get? key = some attempt → Appears state key attempt record
  | claimed : key = grant.payload.attempt → attempt = .first grant receipt (state.nextReceiptRecoveryOrdinal + 1) →
      Appears state key attempt (.claim grant receipt)
  | refused : key = grant.payload.attempt → attempt = .first grant receipt (state.nextReceiptRecoveryOrdinal + 1) →
      Appears state key attempt (.refuse grant receipt)
  | queued : key = receipt.payload.attempt → state.attempts.get? key = some earlier →
      attempt = earlier.queueing receipt (state.nextReceiptRecoveryOrdinal + 1) →
      Appears state key attempt (.control request receipt)
  | received : key = receipt.payload.attempt → state.attempts.get? key = some earlier →
      attempt = earlier.receiving receipt (state.nextReceiptRecoveryOrdinal + 1) →
      Appears state key attempt (.receipt receipt)

variable {identity : Text} {rule : ExecutorLedgerRecord → Prop} {place : ExecutorConfig → Prop}
  {ledger : List ExecutorLedgerRecord} {state : ExecutorState} {record : ExecutorLedgerRecord} {key : AttemptId}
  {attempt : AttemptRecord}

theorem NextState.appears (next : NextState state record after) (found : after.attempts.get? key = some attempt) :
    Appears state key attempt record := by
  cases next with
  | claim =>
    rw [ExecutorState.taking, SortedMap.get?_insert] at found
    split at found
    · rename_i same
      exact .claimed same (Option.some.inj found).symm
    · exact .kept found
  | refuse =>
    rw [ExecutorState.taking, SortedMap.get?_insert] at found
    split at found
    · rename_i same
      exact .refused same (Option.some.inj found).symm
    · exact .kept found
  | queue _ _ known =>
    rw [ExecutorState.queueing, SortedMap.get?_insert] at found
    split at found
    · rename_i same
      exact .queued same (same ▸ known) (Option.some.inj found).symm
    · exact .kept found
  | receive known =>
    rw [ExecutorState.receiving, SortedMap.get?_insert] at found
    split at found
    · rename_i same
      exact .received same (same ▸ known) (Option.some.inj found).symm
    · exact .kept found
  | _ => exact .kept found

theorem appears_next (found : (state.next record).attempts.get? key = some attempt) : Appears state key attempt record :=
  (nextState state record).appears found

/-! Claims are the first receipts of their attempts. -/

/-- Only the first receipt of an attempt is a claim. -/
def ClaimedFirst (attempt : AttemptRecord) : Prop :=
  ∀ receipt ∈ attempt.receipts.tail, receipt.payload.stage ≠ .claimed

omit [Crypto] in
theorem ClaimedFirst.snoc {receipts : List (SignedRecord ExecutionReceipt)} {receipt : SignedRecord ExecutionReceipt}
    (first : ∀ receipt ∈ receipts.tail, receipt.payload.stage ≠ .claimed) (other : receipt.payload.stage ≠ .claimed) :
    ∀ later ∈ (receipts ++ [receipt]).tail, later.payload.stage ≠ .claimed := by
  intro later member
  cases receipts with
  | nil => exact absurd member List.not_mem_nil
  | cons head rest =>
    rcases List.mem_append.mp member with old | new
    · exact first later old
    · rw [List.mem_singleton.mp new]
      exact other

theorem Grown.claimedFirst (grown : Grown Ordinary place identity ledger state)
    (found : state.attempts.get? key = some attempt) : ClaimedFirst attempt := by
  induction grown generalizing key attempt with
  | nil => cases found
  | snoc _ taken ih =>
    have valid := taken.valid
    cases appears_next found with
    | kept known => exact ih known
    | claimed _ first | refused _ first => exact first ▸ fun _ member => absurd member List.not_mem_nil
    | queued _ known later =>
      subst later
      obtain ⟨_, stage, _⟩ := validateRecord_control valid
      exact ClaimedFirst.snoc (ih known) (by rw [stage]; simp)
    | received _ known later =>
      subst later
      exact ClaimedFirst.snoc (ih known) (taken.ruled _ rfl)

/-- Documented stages are never misfiled. -/
theorem Grown.not_misfiled (grown : Grown Ordinary place identity ledger state) : ¬ Misfiled state record := by
  cases record with
  | receipt receipt =>
    rintro ⟨_, attempt, found, many, last⟩
    have first := grown.claimedFirst found
    obtain ⟨claim, ends, claimed⟩ := Option.map_eq_some_iff.mp last
    refine first claim ?_ claimed
    match listed : attempt.receipts with
    | [] => simp [listed] at ends
    | [_] => simp [listed] at many
    | head :: next :: rest =>
      rw [listed, List.getLast?_cons_cons] at ends
      exact List.mem_of_getLast? ends
  | _ => exact id

/-! Runs of executors that are always opened for the same place. -/

/-- The executor belongs to this Realm and node, and counts its records in a machine word. -/
structure Settles (realm node : String) (config : ExecutorConfig) : Prop where
  realm : config.realm = realm
  node : config.node = node
  machine : config.journalCaps.maxRecords < 2 ^ 64

/-- Every process is opened for the same Realm and node, and no claim is recorded by hand. -/
def orderly (identity : Text) (realm node : String) : Regime identity where
  rule := Ordinary
  place := Settles realm node
  faulty := False
  lenient := lenient_ordinary
  seated _ _ seat here := ⟨(congrArg ExecutorConfig.realm seat).trans here.realm,
    (congrArg ExecutorConfig.node seat).trans here.node,
    (congrArg (fun config => config.journalCaps.maxRecords) seat).trans_lt here.machine⟩
  machine _ here := here.machine
  misfiles _ _ _ grown misfiled := grown.not_misfiled misfiled

variable {config : ExecutorConfig}

theorem applyRecord_eq {other : ExecutorConfig} (executor : config.executor = other.executor)
    (realm : config.realm = other.realm) (node : config.node = other.node) :
    applyRecord config identity record = applyRecord other identity record := by
  have same : validateRecord config identity record = validateRecord other identity record := by
    cases record <;> simp only [validateRecord, validateReceipt, executor, realm, node]
  unfold applyRecord
  rw [same]

variable {realm node : String}

/-- A ledger that grew in one place replays there. -/
theorem Grown.replays (grown : Grown rule (Settles realm node) identity ledger state)
    (own : config.executor = identity) (here : Settles realm node config) :
    replay config identity ledger .initial = .ok () state := by
  induction grown with
  | nil => rfl
  | snoc grown taken ih =>
    refine replay_snoc_eq_ok.mpr ⟨_, ih, ?_⟩
    rw [applyRecord_eq (own.trans taken.own.symm) (here.realm.trans taken.place.realm.symm)
      (here.node.trans taken.place.node.symm)]
    exact taken.applies grown.settled

theorem Rests.replays {events : List ExecutorLedgerRecord}
    (held : Rests (orderly identity realm node) events ledger state) (own : config.executor = identity)
    (here : Settles realm node config) : replay config identity events .initial = .ok () state := by
  rcases held.events with same | ⟨faulty, _⟩
  · exact same ▸ held.grown.replays own here
  · exact faulty.elim

/-- What is on disk, and what it replays to from the state of the process that wrote it. -/
theorem Backs.replays {executor : FunctionExecutor} (backs : Backs (orderly identity realm node) executor ledger)
    (own : config.executor = identity) (here : Settles realm node config) :
    ∃ final rest, eventsOf executor.journal.files.records = executor.journal.events ++ rest ∧
      (executor.journal.healthy = true → rest = []) ∧ Counted final ∧
      replay config identity rest executor.state = .ok () final := by
  rcases backs.disk with same | ⟨ill, longer, final, ⟨rest, rfl⟩, held⟩
  · refine ⟨executor.state, [], ?_, fun _ => rfl, backs.held.grown.settled.counted, rfl⟩
    rw [same, List.append_nil]
    rfl
  · have events : executor.journal.events = ledger := backs.held.events.resolve_right fun faulty => faulty.1
    have onDisk : eventsOf executor.journal.files.records = ledger ++ rest :=
      held.events.resolve_right fun faulty => faulty.1
    refine ⟨final, rest, events ▸ onDisk, fun healthy => ?_, held.grown.settled.counted, ?_⟩
    · rw [ill] at healthy
      cases healthy
    · have run := held.replays own here
      rw [onDisk, replay_append, run_bind_eq_ok] at run
      obtain ⟨_, middle, earlier, later⟩ := run
      obtain rfl := backs.held.grown.replay_eq earlier
      exact later

/-- In a run in which no claim is recorded by hand, the journal of every process replays to the state that the process
has; and whatever is on disk replays without error to a state with exact counters, from the start and from the state of
the process that wrote it. -/
theorem journal_replays {realm node : String} {world : World} {config : ExecutorConfig}
    (reached : (orderly identity realm node).system.Reachable world) (own : config.executor = identity)
    (here : Settles realm node config) :
    ∃ final, validateReservationCounters final = .ok () ∧
      (∀ host fault first, openJournal config host fault world.root.files = .ok first →
        replay first.config host.signer.publicKey first.journal.events first.state = .ok () final) ∧
      replay config identity (eventsOf world.root.files.records) .initial = .ok () final ∧
      ∀ executor, world.root = .up executor →
        replay config identity executor.journal.events .initial = .ok () executor.state ∧
        ∃ rest, eventsOf executor.journal.files.records = executor.journal.events ++ rest ∧
          (executor.journal.healthy = true → rest = []) ∧ replay config identity rest executor.state = .ok () final := by
  have opens {final} (run : replay config identity (eventsOf world.root.files.records) .initial = .ok () final) host fault
      first (opened : openJournal config host fault world.root.files = .ok first) :
      replay first.config host.signer.publicKey first.journal.events first.state = .ok () final := by
    obtain ⟨configured, initial, records, _⟩ := openJournal_eq_ok opened
    rw [configured, (openJournal_caps opened).1, own, initial, SignedJournal.events, records]
    exact run
  obtain ⟨ledger, state, rests⟩ := rests_of_reachable reached
  cases root : world.root with
  | down files =>
    rw [root] at rests opens
    have held : Rests (orderly identity realm node) (eventsOf files.records) ledger state := rests
    have run := held.replays own here
    exact ⟨state, validateReservationCounters_eq_ok.mpr held.grown.settled.counted, opens run, run, by simp⟩
  | up executor =>
    rw [root] at rests opens
    obtain ⟨rfl, backs⟩ := rests
    obtain ⟨final, rest, onDisk, whole, counted, run⟩ := backs.replays own here
    have start := backs.held.replays own here
    have all : replay config identity (eventsOf executor.journal.files.records) .initial = .ok () final := by
      rw [onDisk, replay_append, run_bind_eq_ok]
      exact ⟨(), executor.state, start, run⟩
    refine ⟨final, validateReservationCounters_eq_ok.mpr counted, opens all, all, ?_⟩
    intro _ isUp
    obtain rfl := Root.up.inj isUp
    exact ⟨start, rest, onDisk, whole, run⟩

/-- A run written out as a list of allowed labels. -/
theorem reachable_of_abiding {regime : Regime identity} {before : World} (reached : regime.system.Reachable before)
    (abide : ∀ label ∈ labels, label.Abides regime) (advanced : before.advanceAll identity labels = some after) :
    regime.system.Reachable after := by
  induction labels generalizing before with
  | nil =>
    cases advanced
    exact reached
  | cons label rest ih =>
    obtain ⟨middle, first, later⟩ := Option.bind_eq_some_iff.mp advanced
    obtain ⟨here, abide⟩ := List.forall_mem_cons.mp abide
    exact ih (reached.step ⟨World.advance_step first, here⟩) abide later

end

namespace Sample

open Gawd.Wire.Sample

attribute [local instance] Wire.Sample.crypto

/-- The labels of a run are all allowed, and the process it ends in satisfies a test. -/
theorem exists_of_abiding {regime : Regime executorKey} {test : FunctionExecutor → Prop} [DecidablePred test]
    (abide : ∀ label ∈ labels, label.Abides regime) (ends : endsWith labels (fun executor => test executor) = true) :
    ∃ world executor, regime.system.Reachable world ∧ world.root = .up executor ∧ test executor := by
  obtain ⟨world, executor, advanced, rest⟩ := world_of_endsWith ends
  exact ⟨world, executor, reachable_of_abiding (.start rfl) abide advanced, rest⟩

theorem config_settles : Settles "realm" "node" config :=
  ⟨rfl, rfl, by decide⟩

theorem untilSucceeded_abides : ∀ label ∈ untilSucceeded, label.Abides (orderly executorKey "realm" "node") := by
  simp only [untilSucceeded, List.forall_mem_cons, deliver, Label.Abides, orderly]
  refine ⟨config_settles, trivial, trivial, trivial, trivial, ?_, by simp⟩
  intro receipt stage
  exact ordinary_of_stage (by rw [stage]; simp)

/-- Open, register, claim and start, record the claim once more by hand, and deliver the grant again. -/
def untilClaimedAgain : List Label :=
  [.reopen config host none, .operate host (.bind 5), deliver (.register registration),
    deliver (.grant (grant 1 .atMostOnce)), .operate host (.recordStage (attempt 1) .claimed none),
    deliver (.grant (grant 1 .atMostOnce))]

/-- Why a root did not open. -/
def refusal : Except ExecutorError FunctionExecutor → Option ExecutorError
  | .ok _ => none
  | .error error => some error

end Sample

open Sample Wire.Sample

attribute [local instance] Wire.Sample.crypto

/-- An attempt that was claimed, controlled and has succeeded. -/
theorem journal_replays_succeeded : ∃ world executor,
    (orderly executorKey "realm" "node").system.Reachable world ∧ world.root = .up executor ∧
      ended (.succeeded value) executor = true ∧
      replay Sample.config executorKey executor.journal.events .initial = .ok () executor.state := by
  have run : endsWith untilSucceeded (fun executor => ended (.succeeded value) executor = true) = true := by decide +kernel
  obtain ⟨world, executor, reached, isUp, tested⟩ := exists_of_abiding untilSucceeded_abides run
  obtain ⟨_, _, _, _, up⟩ := journal_replays reached rfl config_settles
  exact ⟨world, executor, reached, isUp, tested, (up executor isUp).1⟩

/-- A claim that was recorded a second time by hand is resumed under its old sequence, and the root no longer opens. -/
theorem claimed_again_unopenable : ∃ world executor,
    (executorSystem executorKey).Reachable world ∧ world.root = .up executor ∧ executor.journal.healthy = true ∧
      outcome (replay Sample.config executorKey executor.journal.events .initial) =
        .error (.conflict "receipt sequence 2 is not next after 3") ∧
      refusal (openWithLiveness Sample.config Sample.host none executor.journal.files).1 =
        some (.conflict "receipt sequence 2 is not next after 3") :=
  exists_of_endsWith untilClaimedAgain (by decide +kernel)

end Gawd.Executor
