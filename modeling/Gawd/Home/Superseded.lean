import Gawd.Home.JobLife

/-!
Superseded attempts. Once a later attempt of its Job is granted, an attempt may still be heard of: behind its
high-water mark, about its controls, or after the Job has ended. Runs in which superseded attempts keep to
that never go back to one.
-/

namespace Gawd.Home

open Gawd.Logic Gawd.Wire Gawd.Journal

/-- A later attempt of the same Job is granted. -/
def Superseded (state : HomeState) (attempt : AttemptId) : Prop :=
  ∃ number, attempt.number < number ∧ (state.grants.get? (toLex (attempt.job, number))).isSome = true

/-- Receipts about the controls of an attempt say nothing about its run. -/
def aboutControl : ExecutionStage → Bool
  | .controlQueued _ | .controlAcknowledged _ _ _ => true
  | _ => false

/-- A receipt that is only recorded, or is about a control. -/
def Harmless (snapshot : JobSnapshot) (highest : Nat) (receipt : ExecutionReceipt) : Prop :=
  (receipt.sequence < highest ∨ snapshot.state.isTerminal = true) ∨ aboutControl receipt.stage = true

/-- What a superseded attempt reports is harmless. -/
def Respects (state : HomeState) (record : HomeLedgerRecord) : Prop :=
  ∀ receipt ∈ record.receipt, Superseded state receipt.payload.attempt →
    ∀ job ∈ state.jobs.get? receipt.payload.attempt.job,
      Harmless job.snapshot (state.highest receipt.payload.attempt) receipt.payload

theorem respects_free [Crypto] : Unobserved Respects := by
  intro state record absent _ receipt present
  rw [absent] at present
  cases present

/-- The current attempt of every Job is the last one granted. -/
def Latest (ledger : List HomeLedgerRecord) (state : HomeState) : Prop :=
  EachJob (fun job record => ∀ attempt ∈ record.snapshot.currentAttempt,
    attempt.number = (grantsOf job ledger).length) state

variable {highest : Nat}

/-- The outcome of a harmless receipt makes no attempt current. -/
theorem receiptOutcome_makesCurrent
    (made : attempt ∈ JobEventKind.makesCurrent (receiptOutcome snapshot highest receipt).2.2) :
    ¬ Harmless snapshot highest receipt := by
  unfold receiptOutcome at made
  split at made
  · simp [JobEventKind.makesCurrent] at made
  · rename_i early
    rintro (late | control)
    · exact early late
    · unfold stageEvent at made
      cases stage : receipt.stage <;> simp [stage, aboutControl, JobEventKind.makesCurrent] at control made

variable {event : JobEvent} {events : List (SignedRecord JobEvent)}

/-- An attempt is superseded just when it is not the last one granted. -/
theorem Numbered.superseded (numbered : Numbered ledger state) {attempt : AttemptId} :
    Superseded state attempt ↔ attempt.number < (grantsOf attempt.job ledger).length := by
  have granted : ∀ number, (state.grants.get? (toLex (attempt.job, number))).isSome = true ↔
      1 ≤ number ∧ number ≤ (grantsOf attempt.job ledger).length := by
    intro number
    cases number with
    | zero => simp [numbered.zero]
    | succ previous =>
      rw [numbered.grants, isSome_getElem?]
      omega
  constructor
  · rintro ⟨number, later, present⟩
    have := (granted number).mp present
    omega
  · intro later
    exact ⟨attempt.number + 1, Nat.lt_succ_self _, (granted _).mpr (by omega)⟩

section

variable [Crypto]

/-- What a record without a grant makes current is the last attempt granted. -/
theorem Latest.step_other (numbered : Numbered ledger before) (latest : Latest ledger before)
    (produced : Produced before record) (respects : Respects before record)
    (applied : RecordApplied record before after) (absent : record.grant = none) :
    Latest (ledger ++ [record]) after := by
  have own : ∀ job, grantsOf job (ledger ++ [record]) = grantsOf job ledger := by
    simp [grantsOf_append, absent]
  unfold Latest
  simp only [own]
  refine produced.eachJob numbered.kept applied ?_ ?_ latest
  · intro event _ spec _ attempt current
    cases current
  · intro event member job found advances _ old attempt current
    simp only [advanceSnapshot, Option.mem_def, Option.or_eq_some_iff] at current
    rcases current with made | ⟨-, kept⟩
    · cases advances with
      | dispatch present _ _ =>
        rw [absent] at present
        cases present
      | continuation continues => exact old attempt (continues.current attempt made)
      | @observation receipt present keyed outcome =>
        simp only [Prod.ext_iff] at outcome
        rw [outcome.2.2] at made
        obtain rfl := receiptOutcome_current made
        rw [keyed] at found ⊢
        have last : ¬ Superseded before receipt.payload.attempt := fun superseded =>
          receiptOutcome_makesCurrent made (respects receipt present superseded job found)
        obtain ⟨grant, held⟩ := applied.receipt_granted absent present
        rw [numbered.superseded] at last
        have within := (numbered.attempted held).2.2
        omega
    · exact old attempt kept

theorem Latest.step_dispatch (identified : GrantsIdentified) (numbered : Numbered ledger before)
    (latest : Latest ledger before) {event : SignedRecord JobEvent} (dispatches : Dispatches before grant event.payload)
    (applied : RecordApplied ⟨some grant, none, [event]⟩ before after) :
    Latest (ledger ++ [⟨some grant, none, [event]⟩]) after := by
  have next := dispatches.next identified numbered applied
  obtain ⟨record, deployment, found, ready, handle, number⟩ := dispatches.job
  have current := advanceSnapshot_dispatched record.snapshot dispatches.kind
  intro job other held attempt member
  rw [applied.advanced numbered.kept found handle] at held
  rw [grantsOf_dispatch]
  by_cases hit : job = grant.payload.attempt.job
  · subst hit
    rw [if_pos rfl] at held ⊢
    obtain rfl := Option.some.inj held
    rw [current, Option.mem_some_iff] at member
    rw [← member, next, List.length_append, List.length_singleton]
  · rw [if_neg hit] at held ⊢
    exact latest job other held attempt member

/-- While superseded attempts respect it, the current attempt is the last one granted. -/
theorem Grown.latest (identified : GrantsIdentified) (grown : Grown Respects ledger state) : Latest ledger state := by
  induction grown with
  | nil =>
    intro job record found
    cases found
  | @snoc ledger config record before after earlier produced respects run ih =>
    have numbered := earlier.numbered identified
    have applied := recordApplied_of_run run
    cases present : record.grant with
    | none => exact Latest.step_other numbered ih produced respects applied present
    | some grant =>
      cases produced with
      | dispatch dispatches => exact Latest.step_dispatch identified numbered ih dispatches applied
      | submission _ | observation _ _ _ | continuation _ _ | spawn _ _ _ _ => cases present

/-! One receipt. -/

/-- What the Job promises its caller is as it was. -/
structure Untouched (before after : JobRecord) : Prop where
  state : after.snapshot.state = before.snapshot.state
  result : after.snapshot.result = before.snapshot.result
  error : after.snapshot.error = before.snapshot.error
  currentAttempt : after.snapshot.currentAttempt = before.snapshot.currentAttempt

/-- What a receipt does to the Job state of an open Home: nothing, or it is applied with its outcome. -/
def Observed (receipt : SignedRecord ExecutionReceipt) (before after : FunctionHome) : Prop :=
  after.state = before.state ∨ ∃ event record, before.state.jobs.get? receipt.payload.attempt.job = some record ∧
    event.payload.handle = record.snapshot.spec.handle ∧
    (event.payload.stateAfter, event.payload.cancelRequested, event.payload.kind) =
      receiptOutcome record.snapshot (before.state.highest receipt.payload.attempt) receipt.payload ∧
    applyLedgerRecord before.config ⟨none, some receipt, [event]⟩ before.state = .ok () after.state

theorem applyNewReceipt_observed :
    Along (Observed receipt) (applyNewReceipt host receipt) := by
  intro home
  have unchanged : ∀ {after : FunctionHome}, CacheOnly home after → Observed receipt home after := by
    intro after cached
    exact .inl (by rw [cached])
  have same : Observed receipt home home := .inl rfl
  rw [applyNewReceipt, wp_bind, wp_get]
  refine wp_check (fun _ _ => same) fun grant _ => wp_check (fun _ _ => same) fun _ _ =>
    wp_check (fun _ _ => same) fun _ _ => wp_check (fun _ _ => same) fun job found =>
    wp_check (fun _ _ => same) fun _ _ => ?_
  rw [wp_bind]
  refine wp_classifyReceipt (fun _ _ => unchanged) fun cached moved => ?_
  have state : cached.state = home.state := by rw [moved]
  have config : cached.config = home.config := by rw [moved]
  refine wp_signEventWithReceipt (fun event payload => ?_) fun _ => unchanged moved
  rw [wp_bind]
  refine wp_persistAndApply (fun _ => unchanged moved) ?_ ?_
  · intro _ _ _ _ _ _
    exact .inl state
  · intro _ _ after _ _ _ applied
    rw [state, config] at applied
    refine .inr ⟨event, job, findJob_eq_ok found, ?_, ?_, applied⟩
    · rw [payload]
      rfl
    · rw [payload]
      rfl

theorem applyExecutorReceipt_observed :
    Along (Observed receipt) (applyExecutorReceipt host receipt) := by
  intro home
  have same : Observed receipt home home := .inl rfl
  refine wp_reads ensureAuthoritativeState_reads (fun _ => ?_) fun _ => same
  refine wp_check (fun _ _ => same) fun _ _ => ?_
  rw [wp_bind, wp_get]
  dsimp only
  split
  · rw [wp_ite]
    refine ⟨fun _ => wp_check (fun _ _ => same) fun _ _ => same, fun _ => same⟩
  · exact applyNewReceipt_observed home

variable {record : JobRecord} {receipt : ExecutionReceipt}

section

variable
  (outcome : (event.stateAfter, event.cancelRequested, event.kind) = receiptOutcome record.snapshot highest receipt)

include outcome

omit [Crypto] in
/-- A harmless receipt leaves the Job as it was. -/
theorem Harmless.untouched (harmless : Harmless record.snapshot highest receipt) :
    Untouched record ⟨advanceSnapshot record.snapshot event, events⟩ := by
  simp only [Prod.ext_iff] at outcome
  obtain ⟨state, -, kind⟩ := outcome
  unfold receiptOutcome at state kind
  by_cases late : receipt.sequence < highest ∨ record.snapshot.state.isTerminal = true
  · rw [if_pos late] at state kind
    constructor <;> simp [advanceSnapshot, state, kind, JobEventKind.makesCurrent]
  · rw [if_neg late] at state kind
    have control := harmless.resolve_left late
    unfold stageEvent at state kind
    cases stage : receipt.stage <;> simp only [stage, aboutControl, Bool.false_eq_true] at control state kind
    all_goals constructor <;> simp [advanceSnapshot, state, kind, JobEventKind.makesCurrent]

omit [Crypto] in
/-- Any other receipt moves it: it makes its attempt current, or it cancels the Job. -/
theorem untouched_iff_harmless (other : record.snapshot.currentAttempt ≠ some receipt.attempt) :
    Untouched record ⟨advanceSnapshot record.snapshot event, events⟩ ↔ Harmless record.snapshot highest receipt := by
  refine ⟨fun untouched => ?_, Harmless.untouched outcome⟩
  by_contra harmful
  obtain ⟨early, run⟩ := not_or.mp harmful
  simp only [Prod.ext_iff] at outcome
  obtain ⟨state, -, kind⟩ := outcome
  rw [receiptOutcome, if_neg early] at state kind
  unfold stageEvent at state kind
  cases stage : receipt.stage with
  | controlQueued control | controlAcknowledged control disposition detail => exact run (by rw [stage]; rfl)
  | cancelled reason =>
    simp only [stage] at state
    have ended := untouched.state
    simp only [advanceSnapshot, state] at ended
    exact early (.inr (by rw [← ended]; rfl))
  | _ =>
    simp only [stage] at kind
    refine other ?_
    rw [← untouched.currentAttempt]
    simp [advanceSnapshot, kind, JobEventKind.makesCurrent]

end

/-- A receipt of a superseded attempt that is applied leaves its Job as it was just when it is harmless. -/
theorem Observed.superseded {home after : FunctionHome} {receipt : SignedRecord ExecutionReceipt}
    (numbered : Numbered ledger home.state) (latest : Latest ledger home.state)
    (observed : Observed receipt home after)
    (found : home.state.jobs.get? receipt.payload.attempt.job = some record)
    (superseded : Superseded home.state receipt.payload.attempt) :
    ∃ next, after.state.jobs.get? receipt.payload.attempt.job = some next ∧
      (Untouched record next ↔ after.state = home.state ∨
        Harmless record.snapshot (home.state.highest receipt.payload.attempt) receipt.payload) := by
  rcases observed with same | ⟨event, job, held, handle, outcome, run⟩
  · refine ⟨record, by rw [same]; exact found, iff_of_true ⟨rfl, rfl, rfl, rfl⟩ (.inl same)⟩
  rw [found] at held
  obtain rfl := Option.some.inj held
  have other : record.snapshot.currentAttempt ≠ some receipt.payload.attempt := by
    intro current
    have last := latest _ record found _ current
    have later := numbered.superseded.mp superseded
    omega
  have lookup := (recordApplied_of_run run).advanced numbered.kept found handle
  refine ⟨_, by rw [lookup, if_pos rfl], ?_⟩
  rw [untouched_iff_harmless outcome other]
  refine ⟨.inr, fun harmless => harmless.elim (fun same => ?_) id⟩
  -- An applied event is one more in its Job's record.
  have grown := lookup receipt.payload.attempt.job
  rw [same, found, if_pos rfl] at grown
  have length := congrArg (fun record => record.events.length) (Option.some.inj grown)
  simp at length

namespace Fleet

variable {ι : Type} [DecidableEq ι] {fleet : Fleet ι} {world after : World ι}

end Fleet

end

namespace Fleet

section

attribute [local instance] Wire.Sample.collisionFree

end

end Fleet

namespace Sample

open Wire.Sample

attribute [local instance] Wire.Sample.crypto

def observe (number sequence : Nat) (stage : ExecutionStage) : Operation :=
  .applyExecutorReceipt (receipt number sequence stage)

/-- A Job whose first attempt failed is granted a second one. -/
def retried : List Command :=
  [.openHome host config, .operate host (submit (.atLeastOnce 2)), .operate host issue,
    .operate host (observe 1 1 (.failed value true)), .operate host issue]

theorem retried_reachable : fleet.system.Reachable (world retried) :=
  world_reachable (by simp [retried, Ours]; rfl)

end Sample

end Gawd.Home
