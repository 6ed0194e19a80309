import Gawd.Home.Control
import Gawd.Home.Effect

/-!
The ledgers a Home can have: which records its operations append, and the states that grow from them.
A ledger determines its state, whatever configuration replays it.
-/

namespace Gawd.Home

open Gawd.Logic Gawd.Wire Gawd.Journal

/-- The Job state, cancel flag and event that a receipt stands for. -/
def receiptOutcome (snapshot : JobSnapshot) (highest : Nat) (receipt : ExecutionReceipt) :
    JobState × Bool × JobEventKind :=
  if receipt.sequence < highest ∨ snapshot.state.isTerminal then
    (snapshot.state, snapshot.cancelRequested, .lateReceipt receipt.attempt receipt.stage)
  else stageEvent snapshot receipt

/-- The high-water mark of an attempt's receipts. -/
def HomeState.highest (state : HomeState) (attempt : AttemptId) : Nat :=
  (state.highestReceiptSequences.get? (attemptKey attempt)).getD 0

/-- An attempt of the Job is on its way or runs. -/
def inFlight : JobState → Bool
  | .dispatching | .running => true
  | _ => false

/-- The event of a grant: the next attempt of a Job that may dispatch. -/
structure Dispatches [Crypto] (state : HomeState) (grant : SignedRecord ExecutionGrant) (event : JobEvent) :
    Prop where
  job : ∃ record deployment, state.jobs.get? grant.payload.attempt.job = some record ∧
    checkDispatch record.snapshot deployment = .ok () ∧ event.handle = record.snapshot.spec.handle ∧
    grant.payload.attempt.number = JobSnapshot.nextAttemptNumber record.snapshot
  sequence : grant.payload.grantSequence = state.nextGrantSequence
  kind : event.kind = .dispatchGranted (canonicalHash grant) grant.payload.attempt
  cancel : event.cancelRequested = false
  state : event.stateAfter = .dispatching

/-- An event that continues a Job: it carries the cancel flag along, and neither sends an attempt off nor calls
one in. -/
structure Continues (snapshot : JobSnapshot) (event : JobEvent) : Prop where
  handle : event.handle = snapshot.spec.handle
  kind : ∀ spec, event.kind ≠ .submitted spec
  current : ∀ attempt ∈ JobEventKind.makesCurrent event.kind, snapshot.currentAttempt = some attempt
  carries : snapshot.cancelRequested = true → event.cancelRequested = true
  accepts : ∀ request attempt, event.kind = .controlRequested request attempt →
    isCancel request.payload.kind = true → event.cancelRequested = true
  steady : inFlight snapshot.state = true ∨ inFlight event.stateAfter = true → event.stateAfter = snapshot.state

/-- The records that the operations of a Home append. -/
inductive Produced [Crypto] (state : HomeState) : HomeLedgerRecord → Prop where
  | submission {event : SignedRecord JobEvent} {spec : JobSpec} :
      event.payload.kind = .submitted spec → Produced state ⟨none, none, [event]⟩
  | dispatch {grant : SignedRecord ExecutionGrant} {event : SignedRecord JobEvent} :
      Dispatches state grant event.payload → Produced state ⟨some grant, none, [event]⟩
  | observation {receipt : SignedRecord ExecutionReceipt} {event : SignedRecord JobEvent} {record : JobRecord} :
      state.jobs.get? receipt.payload.attempt.job = some record →
      event.payload.handle = record.snapshot.spec.handle →
      (event.payload.stateAfter, event.payload.cancelRequested, event.payload.kind) =
        receiptOutcome record.snapshot (state.highest receipt.payload.attempt) receipt.payload →
      Produced state ⟨none, some receipt, [event]⟩
  | continuation {event : SignedRecord JobEvent} {job : JobId} {record : JobRecord} :
      state.jobs.get? job = some record → Continues record.snapshot event.payload →
      Produced state ⟨none, none, [event]⟩
  | spawn {parent child : SignedRecord JobEvent} {job : JobId} {record : JobRecord} {spec : JobSpec} :
      state.jobs.get? job = some record → Continues record.snapshot parent.payload →
      child.payload.kind = .submitted spec → state.jobs.get? child.payload.handle.job = none →
      Produced state ⟨none, none, [parent, child]⟩

variable {record : HomeLedgerRecord} {config : HomeConfig}

section

variable [Crypto]

/-- The request that a Job was accepted for: its key names the Job. -/
structure RequestedBy (request : JobSubmit) (spec : JobSpec) : Prop where
  job : deriveJobId request.home request.callerIdempotencyKey = .ok spec.handle.job
  home : spec.handle.home = request.home
  key : spec.callerIdempotencyKey = request.callerIdempotencyKey
  hash : request.requestHash = .ok spec.requestHash
  parent : spec.parent = request.parent

/-- Where the Jobs of a record come from. A Job without a parent is submitted alone, and a child after the event by
which its parent spawns it. -/
structure Sourced (record : HomeLedgerRecord) : Prop where
  alone : ∀ event spec, record.events = [event] → event.payload.kind = .submitted spec →
    spec.parent = none ∧ ∃ request, RequestedBy request spec
  paired : ∀ parent child, record.events = [parent, child] →
    (indexedSpawn parent.payload).isSome = true ∧
      ∃ spec, child.payload.kind = .submitted spec ∧ ∃ request, RequestedBy request spec

omit [Crypto] in
/-- A record that submits no Job needs no source. -/
theorem Sourced.of_other [Crypto] {event : SignedRecord JobEvent} (single : record.events = [event])
    (other : ∀ spec, event.payload.kind ≠ .submitted spec) : Sourced record := by
  refine ⟨fun submitted spec same kind => ?_, fun parent child same => ?_⟩
  · rw [single] at same
    obtain ⟨⟩ := same
    exact absurd kind (other spec)
  · rw [single] at same
    cases same

/-- The states that grow from the empty ledger by produced and admitted records, all of them `allowed`. -/
inductive Grown (allowed : HomeState → HomeLedgerRecord → Prop) : List HomeLedgerRecord → HomeState → Prop where
  | nil : Grown allowed [] .initial
  | snoc {config : HomeConfig} {record : HomeLedgerRecord} {before after : HomeState} :
      Grown allowed ledger before → Produced before record → allowed before record →
      applyLedgerRecord config record before = .ok () after → Grown allowed (ledger ++ [record]) after

/-- A ledger that grew, or that grew up to one last produced record which no process has applied yet. -/
def Pending (allowed : HomeState → HomeLedgerRecord → Prop) (ledger : List HomeLedgerRecord) : Prop :=
  (∃ state, Grown allowed ledger state) ∨
    ∃ earlier record state, ledger = earlier ++ [record] ∧ Grown allowed earlier state ∧
      Produced state record ∧ allowed state record

variable {allowed : HomeState → HomeLedgerRecord → Prop}

theorem replay_append {first : List HomeLedgerRecord} :
    replay config (first ++ second) = (do
      replay config first
      replay config second) := by
  induction first with
  | nil => rfl
  | cons record rest ih => simp only [List.cons_append, replay, ih, bind_assoc]

theorem replay_append_eq_ok : replay config (first ++ second) before = .ok () after ↔
    ∃ middle, replay config first before = .ok () middle ∧ replay config second middle = .ok () after := by
  rw [replay_append, run_bind_eq_ok]
  exact ⟨fun ⟨_, middle, run⟩ => ⟨middle, run⟩, fun ⟨middle, run⟩ => ⟨(), middle, run⟩⟩

theorem replay_snoc_eq_ok : replay config (ledger ++ [record]) before = .ok () after ↔
    ∃ middle, replay config ledger before = .ok () middle ∧ applyLedgerRecord config record middle = .ok () after := by
  have single : replay config [record] = applyLedgerRecord config record := by simp [replay]
  rw [replay_append_eq_ok, single]

/-- What every record keeps, a replay keeps. -/
theorem replay_keeps {holds : HomeState → Prop}
    (step : ∀ record before after, applyLedgerRecord config record before = .ok () after → holds before → holds after)
    (run : replay config ledger before = .ok () after) (first : holds before) : holds after := by
  induction ledger using List.reverseRecOn generalizing after with
  | nil =>
    obtain ⟨⟩ := run
    exact first
  | append_singleton ledger record ih =>
    obtain ⟨middle, earlier, last⟩ := replay_snoc_eq_ok.mp run
    exact step record middle after last (ih earlier)

/-- Replay rebuilds the state the ledger grew into. -/
theorem Grown.replay_eq (grown : Grown allowed ledger state) (run : replay config ledger .initial = .ok () after) :
    after = state := by
  induction grown generalizing after with
  | nil =>
    obtain ⟨⟩ := run
    rfl
  | snoc _ _ _ applied ih =>
    obtain ⟨middle, earlier, last⟩ := replay_snoc_eq_ok.mp run
    have same := ih earlier
    subst same
    exact (applyLedgerRecord_coincides _ _ _ _ _ _ _ last applied).2

/-- What replay accepts of a pending ledger has grown. -/
theorem Pending.grown (pending : Pending allowed ledger) (run : replay config ledger .initial = .ok () after) :
    Grown allowed ledger after := by
  rcases pending with ⟨state, grown⟩ | ⟨earlier, record, state, rfl, grown, produced, admitted⟩
  · rwa [grown.replay_eq run]
  · obtain ⟨middle, first, last⟩ := replay_snoc_eq_ok.mp run
    have same := grown.replay_eq first
    subst same
    exact .snoc grown produced admitted last

theorem Grown.nil_eq (grown : Grown allowed [] state) : state = .initial := by
  generalize empty : ([] : List HomeLedgerRecord) = ledger at grown
  cases grown with
  | nil => rfl
  | snoc _ _ _ _ => simp at empty

/-- The last step of a grown ledger. -/
theorem Grown.last (grown : Grown allowed (ledger ++ [record]) after) :
    ∃ config before, Grown allowed ledger before ∧ Produced before record ∧ allowed before record ∧
      applyLedgerRecord config record before = .ok () after := by
  generalize whole : ledger ++ [record] = longer at grown
  cases grown with
  | nil => simp at whole
  | snoc earlier produced admitted applied =>
    obtain ⟨rfl, same⟩ := List.append_inj' whole rfl
    obtain ⟨⟩ := same
    exact ⟨_, _, earlier, produced, admitted, applied⟩

/-- A ledger determines its state. -/
theorem Grown.unique (first : Grown allowed ledger state) (second : Grown allowed' ledger state') : state = state' := by
  induction ledger using List.reverseRecOn generalizing state state' with
  | nil => rw [first.nil_eq, second.nil_eq]
  | append_singleton ledger record ih =>
    obtain ⟨_, before, earlier, _, _, applied⟩ := first.last
    obtain ⟨_, before', earlier', _, _, applied'⟩ := second.last
    have same := ih earlier earlier'
    subst same
    exact (applyLedgerRecord_coincides _ _ _ _ _ _ _ applied applied').2

/-- Weaker conditions allow more ledgers. -/
theorem Grown.mono (grown : Grown allowed ledger state)
    (weaker : ∀ state record, allowed state record → allowed' state record) : Grown allowed' ledger state := by
  induction grown with
  | nil => exact .nil
  | snoc _ produced admitted applied ih => exact .snoc ih produced (weaker _ _ admitted) applied

/-- What every admitted record preserves holds between a ledger and each longer one. -/
theorem Grown.along {relation : HomeState → HomeState → Prop} (refl : ∀ state, relation state state)
    (trans : ∀ first second third, relation first second → relation second third → relation first third)
    (step : ∀ ledger record before after, Grown allowed ledger before → Produced before record →
      allowed before record → RecordApplied record before after → relation before after)
    (shorter : Grown allowed ledger before) (longer : Grown allowed (ledger ++ later) after) :
    relation before after := by
  induction later using List.reverseRecOn generalizing after with
  | nil =>
    rw [List.append_nil] at longer
    rw [shorter.unique longer]
    exact refl after
  | append_singleton later record ih =>
    rw [← List.append_assoc] at longer
    obtain ⟨_, middle, earlier, produced, admitted, applied⟩ := longer.last
    exact trans _ _ _ (ih earlier)
      (step _ _ _ _ earlier produced admitted (recordApplied_of_run applied))

/-- What the initial state has and every admitted record keeps, a grown state has. -/
theorem Grown.invariant (holds : List HomeLedgerRecord → HomeState → Prop) (initial : holds [] .initial)
    (step : ∀ ledger record before after, holds ledger before → Produced before record →
      allowed before record → RecordApplied record before after → holds (ledger ++ [record]) after)
    (grown : Grown allowed ledger state) : holds ledger state := by
  induction grown with
  | nil => exact initial
  | snoc _ produced admitted applied ih =>
    exact step _ _ _ _ ih produced admitted (recordApplied_of_run applied)

end

end Gawd.Home
