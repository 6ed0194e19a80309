import Gawd.Executor.Reconciliation
import Gawd.Home.Acceptance
import Gawd.Home.Outgoing
import Gawd.Home.Superseded

/-!
Delivery of an attempt's receipts in any order. The Home knows an attempt's receipts by a high-water mark, so
what decides is whether a receipt beyond the terminal one is applied before it.
-/

namespace Gawd.Home

open Gawd.Logic Gawd.Wire Gawd.Journal

/-- The Job waits for its numbered attempt. -/
def Awaits (number : Nat) (record : JobRecord) : Prop :=
  inFlight record.snapshot.state = true ∧ ∃ attempt ∈ record.snapshot.currentAttempt, attempt.number = number

/-- The receipts of an attempt in the order in which they became durable. -/
def receiptsOf (attempt : AttemptId) (ledger : List HomeLedgerRecord) : List (SignedRecord ExecutionReceipt) :=
  (ledger.filterMap HomeLedgerRecord.receipt).filter fun receipt =>
    attemptKey receipt.payload.attempt = attemptKey attempt

theorem receiptsOf_append {record : HomeLedgerRecord} :
    receiptsOf attempt (ledger ++ [record]) = receiptsOf attempt ledger ++
      record.receipt.toList.filter fun receipt => attemptKey receipt.payload.attempt = attemptKey attempt := by
  cases present : record.receipt <;> simp [receiptsOf, present]

/-- A receipt beyond the given one came before it. -/
def Overtaken (last : SignedRecord ExecutionReceipt) (heard : List (SignedRecord ExecutionReceipt)) : Prop :=
  ∃ receipt ∈ heard.takeWhile fun receipt => receipt ≠ last, last.payload.sequence < receipt.payload.sequence

theorem overtaken_of_not_mem {last : SignedRecord ExecutionReceipt}
    (absent : last ∉ heard) : Overtaken last (heard ++ last :: later) ↔
      ∃ receipt ∈ heard, last.payload.sequence < receipt.payload.sequence := by
  have whole : heard.takeWhile (fun receipt => receipt ≠ last) = heard := by
    rw [List.takeWhile_eq_self_iff]
    intro receipt member
    rw [decide_eq_true_eq]
    rintro rfl
    exact absent member
  unfold Overtaken
  rw [List.takeWhile_append, whole, if_pos rfl]
  simp

theorem overtaken_append (present : last ∈ heard) :
    Overtaken last (heard ++ later) ↔ Overtaken last heard := by
  obtain ⟨before, after, rfl, absent⟩ := List.eq_append_cons_of_mem present
  rw [List.append_assoc, List.cons_append, overtaken_of_not_mem absent, overtaken_of_not_mem absent]

/-- The Job state that a terminal stage stands for. -/
def dictatedState (delivery : DeliveryMode) (number : Nat) : ExecutionStage → Option JobState
  | .succeeded _ => some .succeeded
  | .cancelled _ => some .cancelled
  | .failed _ _ =>
    some (if isAtLeastOnce delivery ∧ number < delivery.maxAttempts then .retryPending else .failed)
  | .indeterminate _ _ =>
    some (if isAtLeastOnce delivery ∧ number < delivery.maxAttempts then .retryPending
      else if delivery = .atMostOnce then .indeterminate else .failed)
  | _ => none

/-- The Job stands in the state that its attempt's terminal receipt stands for. -/
def Lands (attempt : AttemptId) (last : SignedRecord ExecutionReceipt) (record : JobRecord) : Prop :=
  dictatedState record.snapshot.spec.delivery attempt.number last.payload.stage = some record.snapshot.state

def isAcknowledgment : ExecutionStage → Bool
  | .controlAcknowledged _ _ _ => true
  | _ => false

/-- The receipts an executor can make durable for a granted attempt: numbered without gaps, one of them
terminal, and nothing but acknowledgments beyond it. -/
structure Stream [Crypto] (grant : SignedRecord ExecutionGrant) (stream : List (SignedRecord ExecutionReceipt))
    (last : SignedRecord ExecutionReceipt) : Prop where
  contiguous : stream.map (fun receipt => receipt.payload.sequence) = List.range' 1 stream.length
  verified : ∀ receipt ∈ stream, verifyExecutionReceipt receipt grant = .ok ()
  member : last ∈ stream
  terminal : ∀ receipt ∈ stream, Executor.stageTerminal receipt.payload.stage = true ↔ receipt = last
  beyond : ∀ receipt ∈ stream, last.payload.sequence < receipt.payload.sequence →
    isAcknowledgment receipt.payload.stage = true

/-- Of this attempt the Home hears its stream, in whatever order and however often; superseded attempts report
harmless receipts. -/
def Hears (attempt : AttemptId) (stream : List (SignedRecord ExecutionReceipt)) (state : HomeState)
    (record : HomeLedgerRecord) : Prop :=
  Respects state record ∧ ∀ receipt ∈ record.receipt,
    attemptKey receipt.payload.attempt = attemptKey attempt → receipt ∈ stream

theorem hears_free [Crypto] : Unobserved (Hears attempt stream) := by
  intro state record absent sourced
  refine ⟨respects_free state record absent sourced, fun receipt present => ?_⟩
  rw [absent] at present
  cases present

variable {stage : ExecutionStage} {home : FunctionHome}

theorem Untouched.awaits (untouched : Untouched before after) : Awaits number after ↔ Awaits number before := by
  rw [Awaits, Awaits, untouched.state, untouched.currentAttempt]

/-- What continues a Job keeps it waiting, or not waiting. -/
theorem Continues.awaits {record : JobRecord} (continues : Continues record.snapshot event) :
    Awaits number ⟨advanceSnapshot record.snapshot event, events⟩ ↔ Awaits number record := by
  have current : (advanceSnapshot record.snapshot event).currentAttempt = record.snapshot.currentAttempt := by
    cases made : JobEventKind.makesCurrent event.kind with
    | none => simp [advanceSnapshot, made]
    | some attempt => simp [advanceSnapshot, made, continues.current attempt made]
  have state : inFlight (advanceSnapshot record.snapshot event).state = inFlight record.snapshot.state := by
    change inFlight event.stateAfter = _
    by_cases flies : inFlight record.snapshot.state = true ∨ inFlight event.stateAfter = true
    · rw [continues.steady flies]
    · rw [not_or, Bool.not_eq_true, Bool.not_eq_true] at flies
      rw [flies.1, flies.2]
  rw [Awaits, Awaits, current, state]

section

variable [Crypto] {grant : SignedRecord ExecutionGrant} {stream : List (SignedRecord ExecutionReceipt)}
  {last : SignedRecord ExecutionReceipt} {attempt : AttemptId}

variable {receipt : SignedRecord ExecutionReceipt}

/-- A stream has one receipt of each number. -/
theorem Stream.unique (streams : Stream grant stream last) {left right : SignedRecord ExecutionReceipt}
    (one : left ∈ stream) (two : right ∈ stream) (same : left.payload.sequence = right.payload.sequence) :
    left = right := by
  have distinct : (stream.map fun receipt => receipt.payload.sequence).Nodup := by
    rw [streams.contiguous]
    exact List.nodup_range'
  exact List.inj_on_of_nodup_map distinct one two same

/-! The marks of an attempt. -/

/-- The high-water mark is the highest number heard. -/
structure MarksHeard (attempt : AttemptId) (ledger : List HomeLedgerRecord) (state : HomeState) : Prop where
  below : ∀ receipt ∈ receiptsOf attempt ledger, receipt.payload.sequence ≤ state.highest attempt
  reached : state.highest attempt = 0 ∨
    ∃ receipt ∈ receiptsOf attempt ledger, receipt.payload.sequence = state.highest attempt
  granted : state.grants.get? (attemptKey attempt) = none → receiptsOf attempt ledger = []

section

variable (applied : RecordApplied record before after)

include applied

/-- Grants are never dropped. -/
theorem RecordApplied.grant_kept (held : before.grants.get? key = some grant) : after.grants.get? key = some grant := by
  cases present : record.grant with
  | none =>
    rw [(applied.grants_none present).1]
    exact held
  | some other =>
    rw [(applied.grants_some present).2.1, held]
    simp

/-- Only granted attempts are heard of. -/
theorem RecordApplied.heard_granted {receipt : SignedRecord ExecutionReceipt}
    (present : record.receipt = some receipt) : after.grants.get? (attemptKey receipt.payload.attempt) ≠ none := by
  obtain ⟨granted, settled, first, second, third⟩ := applied.parts
  rw [present] at second
  obtain ⟨grant, held, -⟩ := second.granted
  rw [third.attemptsKept.grants, second.grants, held]
  simp

/-- A record with no receipt of the attempt leaves what is heard of it and its mark alone. -/
theorem RecordApplied.unheard
    (other : ∀ receipt ∈ record.receipt, attemptKey receipt.payload.attempt ≠ attemptKey attempt) :
    receiptsOf attempt (ledger ++ [record]) = receiptsOf attempt ledger ∧
      after.highest attempt = before.highest attempt := by
  obtain ⟨granted, settled, first, second, third⟩ := applied.parts
  have marks := Applied.kept HomeState.highestReceiptSequences GrantApplied.marks first
  rw [receiptsOf_append, HomeState.highest, third.attemptsKept.highestReceiptSequences]
  cases present : record.receipt with
  | none =>
    rw [present] at second
    subst second
    simp [HomeState.highest, marks]
  | some receipt =>
    rw [present] at second
    have miss := other receipt present
    rw [second.marks, marks, SortedMap.get?_insert, if_neg (Ne.symm miss)]
    simp [miss, HomeState.highest]

end

/-- A receipt of the attempt is heard, and raises the mark to its number. -/
theorem RecordApplied.heard (applied : RecordApplied ⟨none, some receipt, events⟩ before after)
    (own : attemptKey receipt.payload.attempt = attemptKey attempt) :
    receiptsOf attempt (ledger ++ [⟨none, some receipt, events⟩]) = receiptsOf attempt ledger ++ [receipt] ∧
      after.highest attempt = max (before.highest attempt) receipt.payload.sequence ∧
      receipt.payload.sequence ≠ before.highest attempt := by
  obtain ⟨granted, settled, first, second, third⟩ := applied.parts
  have same : granted = before := first
  subst same
  refine ⟨by simp [receiptsOf_append, own], ?_, ?_⟩
  · rw [HomeState.highest, third.attemptsKept.highestReceiptSequences, second.marks, own, SortedMap.get?_insert_self]
    rfl
  · rw [HomeState.highest, ← own]
    exact second.unseen

theorem MarksHeard.unheard (marks : MarksHeard attempt ledger before) (applied : RecordApplied record before after)
    (other : ∀ receipt ∈ record.receipt, attemptKey receipt.payload.attempt ≠ attemptKey attempt) :
    MarksHeard attempt (ledger ++ [record]) after := by
  obtain ⟨heard, highest⟩ := applied.unheard other
  refine ⟨by rw [heard, highest]; exact marks.below, by rw [heard, highest]; exact marks.reached, fun absent => ?_⟩
  rw [heard]
  refine marks.granted ?_
  cases held : before.grants.get? (attemptKey attempt) with
  | none => rfl
  | some grant =>
    rw [applied.grant_kept held] at absent
    cases absent

theorem MarksHeard.heard (marks : MarksHeard attempt ledger before)
    (applied : RecordApplied ⟨none, some receipt, events⟩ before after)
    (own : attemptKey receipt.payload.attempt = attemptKey attempt) :
    MarksHeard attempt (ledger ++ [⟨none, some receipt, events⟩]) after := by
  obtain ⟨heard, highest, -⟩ := applied.heard own
  refine ⟨?_, ?_, fun absent => ?_⟩
  · rw [heard, highest]
    intro other member
    rcases List.mem_append.mp member with old | new
    · exact (marks.below other old).trans (le_max_left _ _)
    · rw [List.mem_singleton.mp new]
      exact le_max_right _ _
  · rw [heard, highest]
    rcases Nat.le_total (before.highest attempt) receipt.payload.sequence with above | under
    · exact .inr ⟨receipt, by simp, (max_eq_right above).symm⟩
    · rw [max_eq_left under]
      refine marks.reached.imp_right ?_
      rintro ⟨other, member, same⟩
      exact ⟨other, List.mem_append_left _ member, same⟩
  · exact absurd absent (own ▸ applied.heard_granted rfl)

/-! One record. -/

variable {events : List (SignedRecord JobEvent)}

/-- A record that brings neither a grant nor a receipt keeps every Job waiting, or not waiting. -/
theorem Produced.awaits (kept : EachJob WellKept before) (produced : Produced before record)
    (applied : RecordApplied record before after) (ungranted : record.grant = none) (unheard : record.receipt = none)
    {id : JobId} (found : before.jobs.get? id = some job) :
    ∃ next, after.jobs.get? id = some next ∧ (Awaits number next ↔ Awaits number job) := by
  rcases produced.next kept applied found with same | ⟨event, -, -, advances, present⟩
  · exact ⟨job, same, Iff.rfl⟩
  · refine ⟨_, present, ?_⟩
    cases advances with
    | dispatch granted _ _ =>
      rw [ungranted] at granted
      cases granted
    | observation heard _ _ =>
      rw [unheard] at heard
      cases heard
    | continuation continues => exact continues.awaits

/-- What is known of an attempt along a ledger that hears its stream: the Job waits for it until its terminal
receipt is applied, and for ever if that receipt is overtaken. -/
structure Delivery (attempt : AttemptId) (stream : List (SignedRecord ExecutionReceipt))
    (last : SignedRecord ExecutionReceipt) (ledger : List HomeLedgerRecord) (state : HomeState) : Prop where
  marks : MarksHeard attempt ledger state
  streamed : ∀ receipt ∈ receiptsOf attempt ledger, receipt ∈ stream
  awaits : state.grants.get? (attemptKey attempt) ≠ none → ∃ record, state.jobs.get? attempt.job = some record ∧
    (Awaits attempt.number record ↔
      last ∉ receiptsOf attempt ledger ∨ Overtaken last (receiptsOf attempt ledger))

/-- A record that does not hear of the attempt. -/
theorem Delivery.unheard (delivery : Delivery attempt stream last ledger before)
    (applied : RecordApplied record before after)
    (other : ∀ receipt ∈ record.receipt, attemptKey receipt.payload.attempt ≠ attemptKey attempt)
    (awaits : after.grants.get? (attemptKey attempt) ≠ none → ∃ record, after.jobs.get? attempt.job = some record ∧
      (Awaits attempt.number record ↔
        last ∉ receiptsOf attempt ledger ∨ Overtaken last (receiptsOf attempt ledger))) :
    Delivery attempt stream last (ledger ++ [record]) after := by
  obtain ⟨heard, -⟩ := applied.unheard other
  exact ⟨delivery.marks.unheard applied other, by rw [heard]; exact delivery.streamed, by rw [heard]; exact awaits⟩

theorem Delivery.step_plain (delivery : Delivery attempt stream last ledger before) (kept : EachJob WellKept before)
    (produced : Produced before record) (applied : RecordApplied record before after)
    (ungranted : record.grant = none) (unheard : record.receipt = none) :
    Delivery attempt stream last (ledger ++ [record]) after := by
  refine delivery.unheard applied (fun receipt present => by rw [unheard] at present; cases present) fun granted => ?_
  rw [(applied.grants_none ungranted).1] at granted
  obtain ⟨job, found, waits⟩ := delivery.awaits granted
  obtain ⟨next, present, same⟩ := produced.awaits kept applied ungranted unheard found
  exact ⟨next, present, same.trans waits⟩

theorem Delivery.step_dispatch (identified : GrantsIdentified) (numbered : Numbered ledger before)
    (delivery : Delivery attempt stream last ledger before) {event : SignedRecord JobEvent}
    (dispatches : Dispatches before grant event.payload)
    (applied : RecordApplied ⟨some grant, none, [event]⟩ before after) :
    Delivery attempt stream last (ledger ++ [⟨some grant, none, [event]⟩]) after := by
  refine delivery.unheard applied (fun _ present => nomatch present) fun granted => ?_
  have next := dispatches.next identified numbered applied
  obtain ⟨record, deployment, found, ready, handle, -⟩ := dispatches.job
  obtain ⟨-, -, waiting, -⟩ := checkDispatch_eq_ok ready
  have lookup := applied.advanced numbered.kept found handle
  have awaits : ∀ number, Awaits number ⟨advanceSnapshot record.snapshot event.payload, record.events ++ [event]⟩ ↔
      grant.payload.attempt.number = number := by
    intro number
    rw [Awaits, advanceSnapshot_dispatched _ dispatches.kind]
    simp [advanceSnapshot, dispatches.state, inFlight]
  rw [(applied.grants_some rfl).2.1] at granted
  by_cases same : attempt.job = grant.payload.attempt.job
  · refine ⟨_, by rw [lookup, if_pos same], ?_⟩
    rw [awaits]
    by_cases hit : attempt.number = grant.payload.attempt.number
    · -- This is the grant of the attempt, and nothing was heard of it before.
      have unknown : before.grants.get? (attemptKey attempt) = none := by
        cases held : before.grants.get? (attemptKey attempt) with
        | none => rfl
        | some other =>
          have within := (numbered.attempted held).2.2
          rw [same] at within
          omega
      rw [delivery.marks.granted unknown]
      simp [hit]
    · have apart : attemptKey attempt ≠ attemptKey grant.payload.attempt := by
        simp [attemptKey, hit]
      rw [if_neg apart] at granted
      obtain ⟨held, found', waits⟩ := delivery.awaits granted
      rw [same, found] at found'
      obtain rfl := Option.some.inj found'
      rw [← waits]
      refine iff_of_false (Ne.symm hit) fun flies => ?_
      rcases waiting with queued | pending
      · simp [Awaits, queued, inFlight] at flies
      · simp [Awaits, pending, inFlight] at flies
  · have apart : attemptKey attempt ≠ attemptKey grant.payload.attempt := by
      simp [attemptKey, same]
    rw [if_neg apart] at granted
    obtain ⟨held, found', waits⟩ := delivery.awaits granted
    exact ⟨held, by rw [lookup, if_neg same]; exact found', waits⟩

omit [Crypto] in
theorem dictatedState_lands (dictated : dictatedState delivery number stage = some state) :
    inFlight state = false := by
  cases stage <;> simp only [dictatedState, Option.some.injEq, reduceCtorEq] at dictated
  all_goals
    rw [← dictated]
    repeat' split
  all_goals rfl

variable {highest : Nat}

section

variable {record : JobRecord} {receipt : ExecutionReceipt} {event : JobEvent}
  (outcome : (event.stateAfter, event.cancelRequested, event.kind) = receiptOutcome record.snapshot highest receipt)

include outcome

omit [Crypto] in
/-- A terminal receipt in time brings the Job where its stage dictates, and it waits no more. -/
theorem dictated_of_terminal (early : ¬ (receipt.sequence < highest ∨ record.snapshot.state.isTerminal = true))
    (terminal : Executor.stageTerminal receipt.stage = true) :
    dictatedState record.snapshot.spec.delivery receipt.attempt.number receipt.stage = some event.stateAfter := by
  simp only [Prod.ext_iff] at outcome
  obtain ⟨state, -, -⟩ := outcome
  rw [receiptOutcome, if_neg early] at state
  unfold stageEvent at state
  cases stage : receipt.stage <;> simp only [stage, Executor.stageTerminal, Bool.false_eq_true] at terminal state
  all_goals
    rw [state]
    simp only [dictatedState, mayRetry, decide_eq_true_eq]

omit [Crypto] in
/-- Any other receipt in time leaves an attempt that is waited for in flight. -/
theorem awaits_of_running (running : Executor.stageTerminal receipt.stage = false)
    (waits : Awaits receipt.attempt.number record) :
    Awaits receipt.attempt.number ⟨advanceSnapshot record.snapshot event, events⟩ := by
  by_cases harmless : Harmless record.snapshot highest receipt
  · exact (Harmless.untouched outcome harmless).awaits.mpr waits
  obtain ⟨early, run⟩ := not_or.mp harmless
  simp only [Prod.ext_iff] at outcome
  obtain ⟨state, -, kind⟩ := outcome
  rw [receiptOutcome, if_neg early] at state kind
  unfold stageEvent at state kind
  have flies := waits.1
  cases stage : receipt.stage <;>
    simp only [stage, Executor.stageTerminal, aboutControl, Bool.true_eq_false, not_true] at running state kind run
  all_goals
    refine ⟨?_, receipt.attempt, by simp [advanceSnapshot, kind, JobEventKind.makesCurrent], rfl⟩
    simp only [advanceSnapshot, state]
    first | rfl | exact flies

end

section

variable {record : JobRecord} {event : SignedRecord JobEvent}
  (delivery : Delivery attempt stream last ledger before) (numbered : Numbered ledger before)
  (found : before.jobs.get? receipt.payload.attempt.job = some record)
  (handle : event.payload.handle = record.snapshot.spec.handle)
  (outcome : (event.payload.stateAfter, event.payload.cancelRequested, event.payload.kind) =
    receiptOutcome record.snapshot (before.highest receipt.payload.attempt) receipt.payload)
  (applied : RecordApplied ⟨none, some receipt, [event]⟩ before after)

include delivery numbered found handle outcome applied

/-- A receipt of another attempt. -/
theorem Delivery.step_other (latest : Latest ledger before)
    (respects : Respects before ⟨none, some receipt, [event]⟩)
    (other : attemptKey receipt.payload.attempt ≠ attemptKey attempt) :
    Delivery attempt stream last (ledger ++ [⟨none, some receipt, [event]⟩]) after := by
  refine delivery.unheard applied (fun _ present => by obtain rfl := Option.some.inj present; exact other) fun granted => ?_
  rw [(applied.grants_none rfl).1] at granted
  obtain ⟨held, found', waits⟩ := delivery.awaits granted
  have lookup := applied.advanced numbered.kept found handle
  by_cases same : attempt.job = receipt.payload.attempt.job
  · rw [same, found] at found'
    obtain rfl := Option.some.inj found'
    refine ⟨_, by rw [lookup, if_pos same], ?_⟩
    rw [← waits]
    obtain ⟨mine, granted⟩ := Option.ne_none_iff_exists'.mp granted
    obtain ⟨theirs, held'⟩ := applied.receipt_granted rfl rfl
    have within' := numbered.attempted held'
    rcases Nat.lt_trichotomy receipt.payload.attempt.number attempt.number with older | equal | newer
    · -- An older attempt is superseded, so its receipt is harmless.
      have superseded : Superseded before receipt.payload.attempt :=
        ⟨attempt.number, older, by rw [← same]; exact Option.isSome_iff_exists.mpr ⟨mine, granted⟩⟩
      exact (Harmless.untouched outcome (respects receipt rfl superseded record found)).awaits
    · exact absurd (by simp [attemptKey, same, equal]) other
    · -- A newer attempt has taken over, and the Job does not go back.
      have last : ∀ current ∈ record.snapshot.currentAttempt, current.number ≠ attempt.number := by
        intro current member
        have := latest _ record found current member
        have := within'.2.2
        omega
      refine iff_of_false ?_ ?_
      · rintro ⟨-, current, member, same⟩
        simp only [advanceSnapshot, Option.mem_def, Option.or_eq_some_iff] at member
        rcases member with fresh | ⟨-, kept⟩
        · simp only [Prod.ext_iff] at outcome
          rw [outcome.2.2] at fresh
          obtain rfl := receiptOutcome_current fresh
          omega
        · exact last current kept same
      · rintro ⟨-, current, member, same⟩
        exact last current member same
  · exact ⟨held, by rw [lookup, if_neg same]; exact found', waits⟩

/-- A receipt of the attempt itself, taken from its stream. -/
theorem Delivery.step_heard (streams : Stream grant stream last)
    (own : attemptKey receipt.payload.attempt = attemptKey attempt) (member : receipt ∈ stream) :
    Delivery attempt stream last (ledger ++ [⟨none, some receipt, [event]⟩]) after ∧
      (receipt = last → last ∉ receiptsOf attempt ledger →
        ∃ next, after.jobs.get? attempt.job = some next ∧
          (Lands attempt last next ↔
            ¬ ∃ earlier ∈ receiptsOf attempt ledger, last.payload.sequence < earlier.payload.sequence)) := by
  have keys : receipt.payload.attempt.job = attempt.job ∧ receipt.payload.attempt.number = attempt.number := by
    simpa [attemptKey] using own
  have mark : before.highest receipt.payload.attempt = before.highest attempt := by
    rw [HomeState.highest, own, HomeState.highest]
  rw [mark] at outcome
  have lookup := applied.advanced numbered.kept found handle
  rw [keys.1] at found lookup
  obtain ⟨heard, -, unseen⟩ := applied.heard own
  obtain ⟨grant', granted⟩ := applied.receipt_granted rfl rfl
  obtain ⟨held, found', waits⟩ := delivery.awaits (by rw [← own, granted]; simp)
  rw [found] at found'
  obtain rfl := Option.some.inj found'
  have present : after.jobs.get? attempt.job =
      some ⟨advanceSnapshot record.snapshot event.payload, record.events ++ [event]⟩ := by rw [lookup, if_pos rfl]
  have build : (Awaits attempt.number ⟨advanceSnapshot record.snapshot event.payload, record.events ++ [event]⟩ ↔
      last ∉ receiptsOf attempt ledger ++ [receipt] ∨ Overtaken last (receiptsOf attempt ledger ++ [receipt])) →
      Delivery attempt stream last (ledger ++ [⟨none, some receipt, [event]⟩]) after := by
    intro awaits
    refine ⟨delivery.marks.heard applied own, ?_, fun _ => ⟨_, present, by rw [heard]; exact awaits⟩⟩
    rw [heard]
    intro other among
    rcases List.mem_append.mp among with old | new
    · exact delivery.streamed other old
    · rw [List.mem_singleton.mp new]
      exact member
  by_cases final : receipt = last
  · subst final
    by_cases again : receipt ∈ receiptsOf attempt ledger
    · -- It is behind the mark that it has set itself.
      have late : receipt.payload.sequence < before.highest attempt :=
        lt_of_le_of_ne (delivery.marks.below receipt again) unseen
      refine ⟨build ?_, fun _ fresh => absurd again fresh⟩
      rw [(Harmless.untouched outcome (.inl (.inl late))).awaits, waits, overtaken_append again]
      simp [again]
    · have flying : Awaits attempt.number record := waits.mpr (.inl again)
      have open' : ¬ record.snapshot.state.isTerminal = true := by
        intro ended
        have flies := flying.1
        cases state : record.snapshot.state <;> simp [state, inFlight, JobState.isTerminal] at flies ended
      have passed : receipt.payload.sequence < before.highest attempt ↔
          ∃ earlier ∈ receiptsOf attempt ledger, receipt.payload.sequence < earlier.payload.sequence := by
        constructor
        · intro late
          rcases delivery.marks.reached with zero | ⟨earlier, among, same⟩
          · omega
          · exact ⟨earlier, among, by omega⟩
        · rintro ⟨earlier, among, beyond⟩
          exact lt_of_lt_of_le beyond (delivery.marks.below earlier among)
      by_cases late : receipt.payload.sequence < before.highest attempt
      · have untouched := @Harmless.untouched _ _ (record.events ++ [event]) _ _ outcome (.inl (.inl late))
        refine ⟨build ?_, fun _ _ => ⟨_, present, ?_⟩⟩
        · rw [untouched.awaits, overtaken_of_not_mem again]
          exact iff_of_true flying (.inr (passed.mp late))
        · refine iff_of_false (fun dictated => ?_) fun none => none (passed.mp late)
          rw [Lands, untouched.state] at dictated
          have lands := dictatedState_lands dictated
          rw [flying.1] at lands
          cases lands
      · have early : ¬ (receipt.payload.sequence < before.highest attempt ∨ record.snapshot.state.isTerminal = true) :=
          not_or.mpr ⟨late, open'⟩
        have dictated := dictated_of_terminal outcome early ((streams.terminal receipt member).mpr rfl)
        refine ⟨build ?_, fun _ _ => ⟨_, present, ?_⟩⟩
        · rw [overtaken_of_not_mem again]
          refine iff_of_false (fun flies => ?_) (not_or.mpr ⟨by simp, fun beyond => late (passed.mpr beyond)⟩)
          have flies : inFlight event.payload.stateAfter = true := flies.1
          rw [dictatedState_lands dictated] at flies
          cases flies
        · rw [keys.2] at dictated
          rw [Lands, advanceSnapshot_spec.2]
          exact iff_of_true dictated fun beyond => late (passed.mpr beyond)
  · have running : Executor.stageTerminal receipt.payload.stage = false := by
      rw [← Bool.not_eq_true]
      exact fun ended => final ((streams.terminal receipt member).mp ended)
    refine ⟨build ?_, fun same => absurd same final⟩
    have kept : Awaits attempt.number ⟨advanceSnapshot record.snapshot event.payload, record.events ++ [event]⟩ ↔
        Awaits attempt.number record := by
      by_cases flying : Awaits attempt.number record
      · rw [← keys.2] at flying ⊢
        exact iff_of_true (awaits_of_running outcome running flying) flying
      · -- The terminal receipt is in: what comes beyond it is an acknowledgment.
        obtain ⟨delivered, -⟩ := not_or.mp (waits.not.mp flying)
        rw [not_not] at delivered
        refine (Harmless.untouched outcome ?_).awaits
        by_cases late : receipt.payload.sequence < before.highest attempt
        · exact .inl (.inl late)
        · have below := delivery.marks.below last delivered
          have acknowledges := streams.beyond receipt member (by omega)
          right
          cases stage : receipt.payload.stage <;> simp [stage, isAcknowledgment] at acknowledges
          rfl
    rw [kept, waits]
    by_cases delivered : last ∈ receiptsOf attempt ledger
    · rw [overtaken_append delivered]
      simp [delivered]
    · simp [delivered, Ne.symm final]

end

omit [Crypto] in
theorem delivery_initial : Delivery attempt stream last [] .initial where
  marks := ⟨fun _ among => (nomatch among), .inl rfl, fun _ => rfl⟩
  streamed _ among := nomatch among
  awaits granted := absurd rfl granted

/-- Along every ledger that hears the stream, the Job waits for the attempt just as long as its terminal receipt is
not applied or was overtaken. -/
theorem Grown.delivery (identified : GrantsIdentified) (streams : Stream grant stream last)
    (grown : Grown (Hears attempt stream) ledger state) : Delivery attempt stream last ledger state := by
  induction grown with
  | nil => exact delivery_initial
  | @snoc ledger config record before after earlier produced hears run ih =>
    have numbered := earlier.numbered identified
    have latest := (earlier.mono fun _ _ hears => hears.1).latest identified
    have applied := recordApplied_of_run run
    cases produced with
    | dispatch dispatches => exact ih.step_dispatch identified numbered dispatches applied
    | submission kind => exact ih.step_plain numbered.kept (.submission kind) applied rfl rfl
    | continuation found continues => exact ih.step_plain numbered.kept (.continuation found continues) applied rfl rfl
    | spawn found continues kind absent =>
      exact ih.step_plain numbered.kept (.spawn found continues kind absent) applied rfl rfl
    | @observation receipt event job found handle outcome =>
      by_cases own : attemptKey receipt.payload.attempt = attemptKey attempt
      · exact (ih.step_heard numbered found handle outcome applied streams own (hears.2 receipt rfl own)).1
      · exact ih.step_other numbered found handle outcome applied latest hears.1 own

/-! The terminal receipt is never refused. -/

/-- Every Job belongs to the Home that replays it. -/
def Homed (home : HomeId) (state : HomeState) : Prop :=
  EachJob (fun _ record => record.snapshot.spec.handle.home = home) state

theorem wp_applyLedgerRecord_homed {config : HomeConfig} :
    wp (applyLedgerRecord config record) (fun _ after => Homed config.home before → Homed config.home after)
      (fun _ _ => True) before := by
  have each : ∀ events state, wp (applyEvents config events)
      (fun _ _ => ∀ event ∈ events, event.payload.handle.home = config.home) (fun _ _ => True) state := by
    refine wp_eachEvent (fun _ _ member => (nomatch member)) fun event _ _ => ?_
    rw [applyJobEvent]
    refine wp_assume fun _ checked => wp_intro (fun _ _ _ _ later => ?_) fun _ _ _ => trivial
    rw [reject_eq_ok, not_or, not_not] at checked
    exact List.forall_mem_cons.mpr ⟨checked.1, later⟩
  have events : wp (applyLedgerRecord config record)
      (fun _ _ => ∀ event ∈ record.events, event.payload.handle.home = config.home) (fun _ _ => True) before :=
    wp_record (fun _ _ => wp_any _ _) (fun _ _ => wp_any _ _) fun _ settled _ _ _ => each record.events settled
  refine wp_weaken (wp_and events wp_applyLedgerRecord) fun _ after both => ?_
  obtain ⟨homes, applied⟩ := both
  refine applied.eachJob fun event member before after step old => ?_
  cases step with
  | @submitted spec kind _ _ =>
    obtain ⟨handle, -⟩ := JobEvent.submitted_of_valid (verifyJobEvent_valid (applied.verified event member)) kind
    have own := homes event member
    rw [← handle] at own
    exact own
  | @advanced record _ _ =>
    rw [(advanceSnapshot_spec).1]
    exact old record rfl

theorem homed_of_replay {config : HomeConfig} (replays : replay config ledger .initial = .ok () state) :
    Homed config.home state :=
  replay_keeps (fun _ _ _ run => wp_ok wp_applyLedgerRecord_homed run) replays
    fun _ _ found => (nomatch found)

/-- What the Home does not decide itself when a receipt is given to it: it stands behind its writes, trusts the
executor, reads the values, signs the event and the entry, and has a slot that is not reserved. -/
structure Accepts (host : Host) (home : FunctionHome) (grant : SignedRecord ExecutionGrant) (record : JobRecord)
    (receipt : SignedRecord ExecutionReceipt) (event : SignedRecord JobEvent) : Prop where
  authoritative : home.authoritative = .ok ()
  trusted : host.allowExecutorReceipt receipt grant.payload.deployment = .ok ()
  values : ∃ read, requireReceiptValues host receipt.payload.stage home = .ok () read
  sealed : ∀ result, receipt.payload.stage = .succeeded result →
    requireResultRecipientWraps result record.snapshot.spec.resultRecipients = .ok ()
  valid : validate event.payload = .ok ()
  signed : SignedRecord.sign .job event.payload host.signer = .ok event
  recorded : validateLedgerRecord ⟨none, some receipt, [event]⟩ home.config = .ok ()
  room : ∃ reserved, homeReservations home.state = .ok reserved ∧
    reserved < home.journal.caps.maxRecords - home.journal.records.length
  signable : home.journal.Signable ⟨none, some receipt, [event]⟩ host.signer
  durable : host.jobFate home.journal.records.length = .durable

/-- The event by which a receipt is recorded. -/
def FunctionHome.receiptEvent (home : FunctionHome) (record : JobRecord) (receipt : SignedRecord ExecutionReceipt) :
    JobEvent :=
  let outcome := receiptOutcome record.snapshot (home.state.highest receipt.payload.attempt) receipt.payload
  home.nextEvent record.snapshot.spec.handle outcome.1 outcome.2.1 receipt.payload.observedAtUnixMs outcome.2.2 (some receipt)

omit [Crypto] in
/-- From an attempt in flight every terminal stage is an allowed transition. -/
theorem transitionAllowed_dictated (flies : inFlight before = true)
    (dictated : dictatedState delivery number stage = some after) : transitionAllowed before after = true := by
  cases stage <;> simp only [dictatedState, Option.some.injEq, reduceCtorEq] at dictated
  all_goals
    rw [← dictated]
    cases before <;> simp only [inFlight, Bool.false_eq_true] at flies
  all_goals repeat' split
  all_goals rfl

theorem wp_applyReceipt_terminal {before : HomeState}
    (granted : before.grants.get? (attemptKey receipt.payload.attempt) = some grant)
    (verified : verifyExecutionReceipt receipt grant = .ok ())
    (unseen : receipt.payload.sequence ≠ before.highest receipt.payload.attempt)
    (fresh : before.receipts.get? (receiptKey receipt.payload) = none)
    (terminal : Executor.stageTerminal receipt.payload.stage = true) :
    wp (applyReceipt receipt) (fun _ _ => True) (fun _ _ => False) before := by
  obtain ⟨observes, newer, indexed⟩ : isObservation receipt.payload.stage = false ∧
      requireNewObservation before (attemptKey receipt.payload.attempt) receipt.payload.stage = .ok () ∧
      indexHomeControlReceipt receipt (canonicalHash receipt) = pure () := by
    unfold indexHomeControlReceipt
    cases stage : receipt.payload.stage <;> simp [stage, Executor.stageTerminal] at terminal <;> exact ⟨rfl, rfl, rfl⟩
  rw [applyReceipt, wp_bind, wp_get]
  refine wp_pass (orError_eq_ok.mpr granted) ?_
  refine wp_pass (mapError_eq_ok.mpr verified) ?_
  refine wp_unless unseen ?_
  refine wp_unless (by simp [observes]) ?_
  have settle : wp (indexHomeControlReceipt receipt (canonicalHash receipt) >>= fun _ => retainReceipt receipt >>= fun _ =>
      modify fun state => state.raiseMarks (attemptKey receipt.payload.attempt) receipt.payload.sequence receipt.payload.stage)
      (fun _ _ => True) (fun _ _ => False) before := by
    rw [indexed]
    simp only [retainReceipt, wp_bind, wp_pure, wp_get, wp_set, wp_lift, wp_modify, fresh]
    exact ⟨fun _ _ => trivial, fun _ failed => by cases failed⟩
  split
  · exact settle
  · exact wp_pass newer settle

variable {event : SignedRecord JobEvent}

/-- The event of a terminal receipt feeds no other index. -/
theorem indexEvent_terminal {receipt : ExecutionReceipt}
    (kind : event.payload.kind = (receiptOutcome snapshot highest receipt).2.2)
    (terminal : Executor.stageTerminal receipt.stage = true) : indexEvent config event root = pure () := by
  unfold receiptOutcome at kind
  unfold indexEvent
  split at kind
  · simp only [kind]
  · unfold stageEvent at kind
    cases stage : receipt.stage <;> simp only [stage, Executor.stageTerminal, Bool.false_eq_true] at terminal kind <;>
      simp only [kind]

theorem wp_applyJobEvent_terminal {config : HomeConfig} {state : HomeState} {record : JobRecord}
    (homed : event.payload.handle.home = config.home)
    (authorized : authorizedOperational config event.payload.homeEpoch event.signer = true)
    (kind : ∀ spec, event.payload.kind ≠ .submitted spec)
    (found : state.jobs.get? event.payload.handle.job = some record)
    (checked : checkTransition record.snapshot event.payload = .ok ())
    (indexed : ∀ root, indexEvent config event root = pure ()) (counted : 0 < state.nonterminalJobs) :
    wp (applyJobEvent config event) (fun _ _ => True) (fun _ _ => False) state := by
  rw [applyJobEvent]
  refine wp_unless (by simp [homed, authorized]) ?_
  split
  · rename_i spec same
    exact absurd same (kind spec)
  · rw [applyTransition, wp_bind, wp_get]
    refine wp_pass (orError_eq_ok.mpr found) ?_
    refine wp_pass checked ?_
    rw [wp_bind, wp_modifyJob found, indexed, wp_bind, wp_pure, wp_bind, wp_modifyJob (SortedMap.get?_insert_self ..)]
    simp only [releaseJob, wp_ite, wp_bind, wp_get, wp_lift, wp_set, wp_pure]
    refine ⟨fun _ => ⟨fun _ _ => trivial, fun _ => ?_⟩, fun _ => trivial⟩
    simp [checkedDecrement, counted]

theorem authorized_of_validate {record : HomeLedgerRecord} (valid : validateLedgerRecord record config = .ok ())
    (member : event ∈ record.events) : authorizedOperational config event.payload.homeEpoch event.signer = true := by
  have each : ∀ events : List (SignedRecord JobEvent), verifyEvents config events = .ok () →
      ∀ event ∈ events, authorizedOperational config event.payload.homeEpoch event.signer = true := by
    intro events
    induction events with
    | nil => simp
    | cons head rest ih =>
      intro verified
      simp only [verifyEvents, bind_eq_ok, reject_eq_ok, not_or, Bool.not_eq_false] at verified
      obtain ⟨_, ⟨-, first⟩, later⟩ := verified
      exact List.forall_mem_cons.mpr ⟨first, ih later⟩
  simp only [validateLedgerRecord, bind_eq_ok] at valid
  obtain ⟨_, _, _, verified, _⟩ := valid
  exact each record.events verified event member

omit [Crypto] in
/-- The transition of a terminal receipt from an attempt in flight, late or in time. -/
theorem checkTransition_terminal {record : JobRecord}
    (found : home.state.jobs.get? record.snapshot.spec.handle.job = some record)
    (flies : inFlight record.snapshot.state = true) (terminal : Executor.stageTerminal receipt.payload.stage = true)
    (sealed : ∀ result, receipt.payload.stage = .succeeded result →
      requireResultRecipientWraps result record.snapshot.spec.resultRecipients = .ok ()) :
    checkTransition record.snapshot (home.receiptEvent record receipt) = .ok () := by
  have sequence : (home.receiptEvent record receipt).sequence = record.snapshot.lastSequence + 1 := by
    simp [FunctionHome.receiptEvent, FunctionHome.nextEvent, found]
  have outcome : ((home.receiptEvent record receipt).stateAfter, (home.receiptEvent record receipt).cancelRequested,
      (home.receiptEvent record receipt).kind) =
      receiptOutcome record.snapshot (home.state.highest receipt.payload.attempt) receipt.payload := rfl
  have wraps : ∀ attempt result, (home.receiptEvent record receipt).kind = .succeeded attempt result →
      requireResultRecipientWraps result record.snapshot.spec.resultRecipients = .ok () := by
    intro attempt result kind
    refine sealed result ?_
    simp only [Prod.ext_iff] at outcome
    rw [outcome.2.2] at kind
    unfold receiptOutcome at kind
    split at kind
    · cases kind
    · unfold stageEvent at kind
      cases stage : receipt.payload.stage <;> simp only [stage, JobEventKind.succeeded.injEq, reduceCtorEq] at kind
      rw [kind.2]
  have moves : ¬ ((decide (record.snapshot.state = (home.receiptEvent record receipt).stateAfter ∧
      isLateReceipt (home.receiptEvent record receipt).kind = true) = false) ∧
      transitionAllowed record.snapshot.state (home.receiptEvent record receipt).stateAfter = false) := by
    by_cases late : receipt.payload.sequence < home.state.highest receipt.payload.attempt ∨
        record.snapshot.state.isTerminal = true
    · rw [receiptOutcome, if_pos late] at outcome
      simp only [Prod.mk.injEq] at outcome
      simp [outcome.1, outcome.2.2, isLateReceipt]
    · have allowed := transitionAllowed_dictated flies (dictated_of_terminal outcome late terminal)
      simp [allowed]
  simp only [checkTransition, bind_eq_ok, reject_eq_ok, not_not]
  refine ⟨(), sequence, ?_⟩
  split
  · rename_i attempt result kind
    simp only [bind_eq_ok, reject_eq_ok]
    exact ⟨(), wraps attempt result kind, moves⟩
  · simpa only [bind_eq_ok, reject_eq_ok] using moves

/-- What a terminal receipt finds when it arrives the first time. -/
structure Arrives (grant : SignedRecord ExecutionGrant) (home : FunctionHome) (record : JobRecord)
    (receipt : SignedRecord ExecutionReceipt) : Prop where
  granted : home.state.grants.get? (attemptKey receipt.payload.attempt) = some grant
  verified : verifyExecutionReceipt receipt grant = .ok ()
  unseen : receipt.payload.sequence ≠ home.state.highest receipt.payload.attempt
  fresh : home.state.receipts.get? (receiptKey receipt.payload) = none
  terminal : Executor.stageTerminal receipt.payload.stage = true
  found : home.state.jobs.get? receipt.payload.attempt.job = some record
  handle : record.snapshot.spec.handle.job = receipt.payload.attempt.job
  homed : record.snapshot.spec.handle.home = home.config.home
  flies : inFlight record.snapshot.state = true

section

variable {host : Host} {home : FunctionHome} {record : JobRecord} {receipt : SignedRecord ExecutionReceipt}
  {event : SignedRecord JobEvent}

section

variable (arrives : Arrives grant home record receipt)

include arrives

theorem Arrives.produced (payload : event.payload = home.receiptEvent record receipt) :
    Produced home.state ⟨none, some receipt, [event]⟩ := by
  refine .observation arrives.found ?_ ?_
  · rw [payload]
    rfl
  · rw [payload]
    rfl

/-- The ledger takes the terminal receipt. -/
theorem Arrives.applies (counted : Counted home.state) (payload : event.payload = home.receiptEvent record receipt)
    (sealed : ∀ result, receipt.payload.stage = .succeeded result →
      requireResultRecipientWraps result record.snapshot.spec.resultRecipients = .ok ())
    (recorded : validateLedgerRecord ⟨none, some receipt, [event]⟩ home.config = .ok ()) :
    ∃ after, applyLedgerRecord home.config ⟨none, some receipt, [event]⟩ home.state = .ok () after := by
  have handle : event.payload.handle = record.snapshot.spec.handle := by
    rw [payload]
    rfl
  have kind : event.payload.kind =
      (receiptOutcome record.snapshot (home.state.highest receipt.payload.attempt) receipt.payload).2.2 := by
    rw [payload]
    rfl
  have checked : checkTransition record.snapshot event.payload = .ok () := by
    rw [payload]
    refine checkTransition_terminal ?_ arrives.flies arrives.terminal sealed
    rw [arrives.handle]
    exact arrives.found
  have found : home.state.jobs.get? event.payload.handle.job = some record := by
    rw [handle, arrives.handle]
    exact arrives.found
  have opened : 0 < home.state.nonterminalJobs := by
    rw [counted.jobs]
    refine SortedMap.count_pos found ?_
    have flies := arrives.flies
    cases state : record.snapshot.state <;> simp [state, inFlight] at flies <;> simp [JobRecord.isOpen, state, JobState.isTerminal]
  have runs : wp (applyLedgerRecord home.config ⟨none, some receipt, [event]⟩) (fun _ _ => True) (fun _ _ => False)
      home.state := by
    rw [applyLedgerRecord]
    refine wp_pass recorded ?_
    simp only [ifPresent, applyEvents, wp_bind, wp_pure]
    refine wp_mono (wp_and (wp_applyReceipt_terminal arrives.granted arrives.verified arrives.unseen arrives.fresh
      arrives.terminal) (wp_and wp_applyReceipt wp_applyReceipt_releases))
      (fun _ settled spec => ?_) fun _ _ refused => refused.1
    obtain ⟨-, applied, -, jobs, -⟩ := spec
    rw [← applied.jobs] at found
    rw [← jobs] at opened
    refine wp_applyJobEvent_terminal ?_ (authorized_of_validate recorded (List.mem_singleton_self event)) ?_ found checked
      (fun _ => indexEvent_terminal kind arrives.terminal) opened
    · rw [handle]
      exact arrives.homed
    · rw [kind]
      exact fun _ => receiptOutcome_continues
  obtain ⟨_, after, run, -⟩ := exists_of_wp runs
  exact ⟨after, run⟩

/-- A terminal receipt takes no more slots than are held. -/
theorem Arrives.admitted (counted : Counted home.state)
    (payload : event.payload = home.receiptEvent record receipt)
    (accepts : Accepts host home grant record receipt event) : home.admit ⟨none, some receipt, [event]⟩ = .ok () := by
  have tried := preflight_eq_ok.mpr (arrives.applies counted payload accepts.sealed accepts.recorded)
  obtain ⟨reserved, now, room⟩ := accepts.room
  refine (Provided.admits ⟨counted, reserved, now, room.le⟩ (arrives.produced payload) tried
    (Fleet.authoritative_eq_ok accepts.authoritative).1 (.inr fun held same => ?_)).1
  cases now.symm.trans same
  exact room

end

theorem classifyReceipt_runs {read : FunctionHome}
    (values : requireReceiptValues host receipt.payload.stage home = .ok () read)
    (sealed : ∀ result, receipt.payload.stage = .succeeded result →
      requireResultRecipientWraps result record.snapshot.spec.resultRecipients = .ok ()) :
    classifyReceipt host record.snapshot highest receipt.payload home =
      .ok (receiptOutcome record.snapshot highest receipt.payload) read := by
  rw [run_eq_ok, classifyReceipt, receiptOutcome, wp_ite]
  refine ⟨fun late => ?_, fun early => ?_⟩
  · refine wp_run values ?_
    rw [if_pos late]
    exact ⟨rfl, rfl⟩
  · refine wp_run values ?_
    rw [if_neg early]
    split
    · rename_i result stage
      exact wp_pass (sealed result stage) ⟨rfl, rfl⟩
    · exact ⟨rfl, rfl⟩

/-- The Home records the terminal receipt. -/
theorem Arrives.delivered (arrives : Arrives grant home record receipt) (counted : Counted home.state)
    (payload : event.payload = home.receiptEvent record receipt) (accepts : Accepts host home grant record receipt event) :
    ∃ after, applyExecutorReceipt host receipt home = .ok (.applied event) after ∧
      after.journal.events = home.journal.events ++ [⟨none, some receipt, [event]⟩] ∧
      applyLedgerRecord home.config ⟨none, some receipt, [event]⟩ home.state = .ok () after.state := by
  obtain ⟨state, run⟩ := arrives.applies counted payload accepts.sealed accepts.recorded
  obtain ⟨read, values⟩ := accepts.values
  have moves : wp (requireReceiptValues host receipt.payload.stage) (fun _ after => CacheOnly home after)
      (fun _ after => CacheOnly home after) home := requireReceiptValues_cacheOnly home
  have cached := wp_ok moves values
  have valid : validate receipt = .ok () := by
    have verified := arrives.verified
    simp only [verifyExecutionReceipt, bind_eq_ok] at verified
    obtain ⟨_, _, _, valid, _⟩ := verified
    exact valid
  have admitted := arrives.admitted counted payload accepts
  have made := accepts.signed
  have fine := accepts.valid
  rw [payload] at made fine
  have spec : wp (applyExecutorReceipt host receipt) (fun outcome after => outcome = .applied event ∧
      after.journal.events = home.journal.events ++ [⟨none, some receipt, [event]⟩] ∧ after.state = state)
      (fun _ _ => False) home := by
    rw [applyExecutorReceipt]
    refine wp_run (ensureAuthoritativeState_runs accepts.authoritative) ?_
    refine wp_pass (mapError_eq_ok.mpr valid) ?_
    rw [wp_bind, wp_get]
    dsimp only
    rw [arrives.fresh]
    dsimp only
    rw [applyNewReceipt, wp_bind, wp_get]
    refine wp_pass (orError_eq_ok.mpr arrives.granted) ?_
    refine wp_pass (mapError_eq_ok.mpr arrives.verified) ?_
    refine wp_pass (mapError_eq_ok.mpr accepts.trusted) ?_
    refine wp_pass (orError_eq_ok.mpr arrives.found) ?_
    refine wp_unless arrives.unseen ?_
    refine wp_run (classifyReceipt_runs values accepts.sealed) ?_
    rw [cached]
    refine wp_run (signEventWithReceipt_runs accepts.authoritative fine made) ?_
    refine wp_then (wp_persistAndApply_durable accepts.authoritative admitted accepts.signable accepts.durable run) ?_
    exact fun _ after written => ⟨rfl, written.2, written.1⟩
  obtain ⟨outcome, after, ran, rfl, events, rfl⟩ := exists_of_wp spec
  exact ⟨after, ran, events, run⟩

end

/-- Every receipt kept was heard. -/
def RetainsHeard (ledger : List HomeLedgerRecord) (state : HomeState) : Prop :=
  ∀ key, state.receipts.get? key ≠ none → ∃ record ∈ ledger, ∃ receipt ∈ record.receipt, receiptKey receipt.payload = key

theorem RecordApplied.receipts_kept (applied : RecordApplied record before after)
    (kept : after.receipts.get? key ≠ none) :
    before.receipts.get? key ≠ none ∨ ∃ receipt ∈ record.receipt, receiptKey receipt.payload = key := by
  obtain ⟨granted, settled, first, second, third⟩ := applied.parts
  have same := Applied.kept HomeState.receipts GrantApplied.receipts first
  rw [third.attemptsKept.receipts] at kept
  cases present : record.receipt with
  | none =>
    rw [present] at second
    subst second
    rw [same] at kept
    exact .inl kept
  | some receipt =>
    rw [present] at second
    rw [second.receipts, same, SortedMap.get?_insert] at kept
    by_cases hit : key = receiptKey receipt.payload
    · exact .inr ⟨receipt, rfl, hit.symm⟩
    · rw [if_neg hit] at kept
      exact .inl kept

theorem Grown.retainsHeard (grown : Grown allowed ledger state) : RetainsHeard ledger state := by
  refine grown.invariant RetainsHeard (fun _ kept => absurd rfl kept) ?_
  intro ledger record before after retains _ _ applied key kept
  rcases applied.receipts_kept kept with old | ⟨receipt, present, same⟩
  · obtain ⟨entry, member, heard⟩ := retains key old
    exact ⟨entry, List.mem_append_left _ member, heard⟩
  · exact ⟨record, List.mem_append_right _ (List.mem_singleton_self record), receipt, present, same⟩

/-- A longer ledger grew from each shorter one. -/
theorem Grown.shorter (grown : Grown allowed (ledger ++ later) state) : ∃ before, Grown allowed ledger before := by
  induction later using List.reverseRecOn generalizing state with
  | nil => exact ⟨state, by simpa using grown⟩
  | append_singleton later record ih =>
    rw [← List.append_assoc] at grown
    obtain ⟨_, _, earlier, _⟩ := grown.last
    exact ih earlier

/-- Where the terminal receipt became durable the Job landed, just when no receipt beyond it was there. -/
theorem Grown.landed (identified : GrantsIdentified) (streams : Stream grant stream last)
    (grown : Grown (Hears attempt stream) (ledger ++ [entry]) after) (heard : entry.receipt = some last)
    (own : attemptKey last.payload.attempt = attemptKey attempt) (first : last ∉ receiptsOf attempt ledger) :
    ∃ next, after.jobs.get? attempt.job = some next ∧ (Lands attempt last next ↔
      ¬ ∃ earlier ∈ receiptsOf attempt ledger, last.payload.sequence < earlier.payload.sequence) := by
  obtain ⟨_, before, earlier, produced, _, run⟩ := grown.last
  cases produced with
  | @observation receipt event job found handle outcome =>
    obtain rfl := Option.some.inj heard
    exact ((earlier.delivery identified streams).step_heard (earlier.numbered identified) found handle outcome
      (recordApplied_of_run run) streams own streams.member).2 rfl first
  | _ => cases heard

/-- The terminal receipt of a granted attempt that was not heard yet arrives while the Job waits for it. -/
theorem Delivery.arrives (streams : Stream grant stream last) (numbered : Numbered ledger home.state)
    (retains : RetainsHeard ledger home.state) (homed : Homed home.config.home home.state)
    (delivery : Delivery grant.payload.attempt stream last ledger home.state)
    (granted : home.state.grants.get? (attemptKey grant.payload.attempt) = some grant)
    (unheard : last ∉ receiptsOf grant.payload.attempt ledger)
    (found : home.state.jobs.get? grant.payload.attempt.job = some record)
    (waits : Awaits grant.payload.attempt.number record) : Arrives grant home record last := by
  have own := attempt_of_verified (streams.verified last streams.member)
  have other : ∀ receipt ∈ receiptsOf grant.payload.attempt ledger, receipt.payload.sequence ≠ last.payload.sequence := by
    intro receipt heard same
    obtain rfl := streams.unique (delivery.streamed receipt heard) streams.member same
    exact unheard heard
  constructor
  · rw [own]
    exact granted
  · exact streams.verified last streams.member
  · rw [own]
    intro same
    rcases delivery.marks.reached with none | ⟨receipt, heard, mark⟩
    · have within := List.mem_map_of_mem (f := fun receipt => receipt.payload.sequence) streams.member
      rw [streams.contiguous, List.mem_range'_1] at within
      omega
    · exact other receipt heard (mark.trans same.symm)
  · by_contra kept
    obtain ⟨entry, member, receipt, present, same⟩ := retains _ kept
    have keys : (receipt.payload.attempt.job = last.payload.attempt.job ∧
        receipt.payload.attempt.number = last.payload.attempt.number) ∧
        receipt.payload.sequence = last.payload.sequence := by
      simpa [receiptKey, and_assoc] using same
    refine other receipt ?_ keys.2
    refine List.mem_filter.mpr ⟨List.mem_filterMap.mpr ⟨entry, member, present⟩, ?_⟩
    rw [← own]
    simp [attemptKey, keys.1]
  · exact (streams.terminal last streams.member).mpr rfl
  · rw [own]
    exact found
  · rw [own]
    exact (numbered.kept _ record found).1
  · exact homed _ record found
  · exact waits.1

namespace Fleet

variable {ι : Type} [DecidableEq ι] {fleet : Fleet ι} {world : World ι} {root : ι} {home : FunctionHome}

/-- In every run that hears an attempt's stream, in whatever order and however often, a Home that granted the attempt
waits for it just as long as the terminal receipt is missing or was overtaken by one beyond it. The receipt leaves
the Job in the state that it stands for just when it was not overtaken, and it is never refused. -/
theorem terminal_delivery (identified : HandoffsIdentified) (grants : GrantsIdentified)
    (streams : Stream grant stream last)
    (reached : (fleet.observed (Hears grant.payload.attempt stream)).Reachable world)
    (running : (world root).process? = some home)
    (granted : home.state.grants.get? (attemptKey grant.payload.attempt) = some grant) :
    ∃ record, home.state.jobs.get? grant.payload.attempt.job = some record ∧
      (Awaits grant.payload.attempt.number record ↔
        last ∉ receiptsOf grant.payload.attempt home.journal.events ∨
          Overtaken last (receiptsOf grant.payload.attempt home.journal.events)) ∧
      (∀ earlier entry later, home.journal.events = earlier ++ entry :: later → entry.receipt = some last →
        last ∉ receiptsOf grant.payload.attempt earlier →
        ∃ state next, replay home.config (earlier ++ [entry]) .initial = .ok () state ∧
          state.jobs.get? grant.payload.attempt.job = some next ∧
          (Lands grant.payload.attempt last next ↔
            ¬ Overtaken last (receiptsOf grant.payload.attempt home.journal.events))) ∧
      (last ∉ receiptsOf grant.payload.attempt home.journal.events → ∀ host event,
        event.payload = home.receiptEvent record last → Accepts host home grant record last event →
        ∃ after next, applyExecutorReceipt host last home = .ok (.applied event) after ∧
          after.state.jobs.get? grant.payload.attempt.job = some next ∧
          (Lands grant.payload.attempt last next ↔ ¬ ∃ earlier ∈ receiptsOf grant.payload.attempt home.journal.events,
            last.payload.sequence < earlier.payload.sequence)) := by
  have sound := (worldSound_of_reachable identified hears_free reached root).process home running
  have provided := provided_of_reachable reached.of_restrict root home running
  have numbered := sound.grown.numbered grants
  have delivery := sound.grown.delivery grants streams
  have own : attemptKey last.payload.attempt = attemptKey grant.payload.attempt :=
    congrArg attemptKey (attempt_of_verified (streams.verified last streams.member))
  have homed := homed_of_replay sound.replays
  obtain ⟨record, found, waits⟩ := delivery.awaits (by rw [granted]; simp)
  refine ⟨record, found, waits, ?_, ?_⟩
  · intro earlier entry later split heard first
    have grown := sound.grown
    have replays := sound.replays
    rw [split, ← List.singleton_append, ← List.append_assoc] at grown replays
    obtain ⟨state, shorter⟩ := grown.shorter
    obtain ⟨middle, run, _⟩ := replay_append_eq_ok.mp replays
    obtain rfl := shorter.replay_eq run
    obtain ⟨next, held, lands⟩ := shorter.landed grants streams heard own first
    refine ⟨middle, next, run, held, lands.trans (not_congr ?_)⟩
    have whole : receiptsOf grant.payload.attempt home.journal.events =
        receiptsOf grant.payload.attempt earlier ++ last :: receiptsOf grant.payload.attempt later := by
      simp [split, receiptsOf, heard, own]
    rw [whole, overtaken_of_not_mem first]
  · intro unheard host event payload accepts
    have arrives := delivery.arrives streams numbered sound.grown.retainsHeard homed granted unheard found
      (waits.mpr (.inl unheard))
    obtain ⟨after, ran, -, run⟩ := arrives.delivered provided.counted payload accepts
    have produced := arrives.produced payload
    cases produced with
    | observation found' handle outcome =>
      obtain ⟨next, held, lands⟩ := (delivery.step_heard numbered found' handle outcome
        (recordApplied_of_run run) streams own streams.member).2 rfl unheard
      exact ⟨after, next, ran, held, lands⟩

end Fleet

end

namespace Sample

open Wire.Sample

section

attribute [local instance] Wire.Sample.collisionFree

/-- A receipt of the first attempt. -/
noncomputable def answer (sequence : Nat) (stage : ExecutionStage) : SignedRecord ExecutionReceipt :=
  signed .execute executorKey ⟨firstGrant.payload.attempt, canonicalHash firstGrant, executorKey, sequence, none, stage⟩

theorem answer_verified {sequence : Nat} (valid : validate (answer sequence stage) = .ok ()) :
    verifyExecutionReceipt (answer sequence stage) firstGrant = .ok () := by
  simp only [verifyExecutionReceipt, bind_eq_ok, reject_eq_ok]
  have signs : (answer sequence stage).verify = true := by
    rw [SignedRecord.verify, if_neg]
    · rfl
    · exact of_decide_eq_false rfl
  refine ⟨(), firstGrant_verified, (), valid, (), not_not_intro rfl, (), by simp [signs], (), ?_, ?_⟩
  · exact not_or.mpr ⟨not_not_intro rfl, not_not_intro rfl⟩
  · exact not_or.mpr ⟨not_not_intro rfl, not_not_intro rfl⟩

/-- The attempt is claimed, started and succeeds. -/
noncomputable def answers : List (SignedRecord ExecutionReceipt) :=
  [answer 1 .claimed, answer 2 .started, answer 3 (.succeeded value)]

theorem answers_stream : Stream firstGrant answers (answer 3 (.succeeded value)) where
  contiguous := rfl
  verified := by
    have valid : validate (answer 1 .claimed) = .ok () ∧ validate (answer 2 .started) = .ok () ∧
      validate (answer 3 (.succeeded value)) = .ok () := by decide +kernel
    intro receipt member
    simp only [answers, List.mem_cons, List.not_mem_nil, or_false] at member
    rcases member with rfl | rfl | rfl
    · exact answer_verified valid.1
    · exact answer_verified valid.2.1
    · exact answer_verified valid.2.2
  member := by simp [answers]
  terminal := by simp [answers, answer, signed, Executor.stageTerminal]
  beyond := by simp [answers, answer, signed]

end

end Sample

namespace Fleet

section

open Sample

attribute [local instance] Wire.Sample.collisionFree

/-- It holds of a first root that has granted an attempt. -/
theorem terminal_delivery_issued :
    ∃ home, (world issued ()).process? = some home ∧
      home.state.grants.get? (attemptKey firstGrant.payload.attempt) = some firstGrant ∧
      ∃ record, home.state.jobs.get? firstGrant.payload.attempt.job = some record ∧
        (Awaits firstGrant.payload.attempt.number record ↔
          answer 3 (.succeeded Wire.Sample.value) ∉ receiptsOf firstGrant.payload.attempt home.journal.events ∨
            Overtaken (answer 3 (.succeeded Wire.Sample.value))
              (receiptsOf firstGrant.payload.attempt home.journal.events)) ∧
        (∀ earlier entry later, home.journal.events = earlier ++ entry :: later →
          entry.receipt = some (answer 3 (.succeeded Wire.Sample.value)) →
          answer 3 (.succeeded Wire.Sample.value) ∉ receiptsOf firstGrant.payload.attempt earlier →
          ∃ state next, replay home.config (earlier ++ [entry]) .initial = .ok () state ∧
            state.jobs.get? firstGrant.payload.attempt.job = some next ∧
            (Lands firstGrant.payload.attempt (answer 3 (.succeeded Wire.Sample.value)) next ↔
              ¬ Overtaken (answer 3 (.succeeded Wire.Sample.value))
                (receiptsOf firstGrant.payload.attempt home.journal.events))) ∧
        (answer 3 (.succeeded Wire.Sample.value) ∉ receiptsOf firstGrant.payload.attempt home.journal.events →
          ∀ host event, event.payload = home.receiptEvent record (answer 3 (.succeeded Wire.Sample.value)) →
          Accepts host home firstGrant record (answer 3 (.succeeded Wire.Sample.value)) event →
          ∃ after next, applyExecutorReceipt host (answer 3 (.succeeded Wire.Sample.value)) home =
              .ok (.applied event) after ∧
            after.state.jobs.get? firstGrant.payload.attempt.job = some next ∧
            (Lands firstGrant.payload.attempt (answer 3 (.succeeded Wire.Sample.value)) next ↔
              ¬ ∃ earlier ∈ receiptsOf firstGrant.payload.attempt home.journal.events,
                (answer 3 (.succeeded Wire.Sample.value)).payload.sequence < earlier.payload.sequence)) := by
  obtain ⟨home, running, granted⟩ := issued_runs
  exact ⟨home, running, granted, terminal_delivery handoffsIdentified Wire.Sample.collisionFree_identifies answers_stream
    issued_reachable running granted⟩

end

end Fleet

/-! An acknowledgment that overtakes the success of its attempt. -/

namespace Sample

open Wire.Sample Executor.Sample

attribute [local instance] Wire.Sample.crypto

/-- A Job is accepted, granted its only attempt and steered. -/
def steered : List Command :=
  [.openHome host config, .operate host (submit .atMostOnce), .operate host issue, .operate host (.control controlRequest)]

/-- The grant of the attempt and the endorsed control, as the Home sends them. -/
def sent : Option (SignedRecord ExecutionGrant × SignedRecord ExecutionControl) := do
  let home ← (world steered ()).process?
  let grant ← home.state.grants.get? (attemptKey (attempt 1))
  let record ← home.state.jobs.get? job
  let event ← record.events.getLast?
  match endorsedControl host controlRequest event home with
  | .ok (some (control, _)) _ => some (grant, control)
  | _ => none

/-- The executor runs the attempt to its success, and hears back about the control after that. -/
def answered (grant : SignedRecord ExecutionGrant) (control : SignedRecord ExecutionControl) : List Executor.Label :=
  [.reopen Executor.Sample.config Executor.Sample.host none, .operate Executor.Sample.host (.bind 5),
    deliver (.register registration), deliver (.grant grant), deliver (.control control),
    .operate Executor.Sample.host (.recordStage (attempt 1) (.succeeded value) none),
    .operate Executor.Sample.host (.recordStage (attempt 1) lateAcknowledgment none)]

/-- The two last receipts reach the Home in reverse. -/
def overtaken : List Command :=
  steered ++ [.operate host (observe 1 5 lateAcknowledgment), .operate host (observe 1 4 (.succeeded value))]

theorem overtaken_reachable : fleet.system.Reachable (world overtaken) :=
  world_reachable (by simp [overtaken, steered, Ours]; rfl)

/-- What the executor made durable for the grant that the Home sent. -/
def durable (grant : SignedRecord ExecutionGrant) (control : SignedRecord ExecutionControl) : Bool :=
  endsWith (answered grant control) fun executor =>
    ∃ record ∈ executor.state.attempts.get? (attempt 1), record.grant = grant ∧ record.receipts = [receipt 1 1 .claimed,
      receipt 1 2 .started, receipt 1 3 (.controlQueued Wire.Sample.control), receipt 1 4 (.succeeded value),
      receipt 1 5 lateAcknowledgment]

/-- All receipts of the attempt that matter have been delivered, and its Job still waits for it. -/
theorem acknowledgment_overtakes : ∃ grant control endpoint executor record home stuck,
    sent = some (grant, control) ∧
    (Executor.executorSystem executorKey).Reachable endpoint ∧ endpoint.root = .up executor ∧
    executor.state.attempts.get? (attempt 1) = some record ∧ record.grant = grant ∧
    record.receipts = [receipt 1 1 .claimed, receipt 1 2 .started, receipt 1 3 (.controlQueued Wire.Sample.control),
      receipt 1 4 (.succeeded value), receipt 1 5 lateAcknowledgment] ∧
    fleet.system.Reachable (world overtaken) ∧ (world overtaken ()).process? = some home ∧
    home.state.grants.get? (attemptKey (attempt 1)) = some grant ∧
    receiptsOf (attempt 1) home.journal.events = [receipt 1 5 lateAcknowledgment, receipt 1 4 (.succeeded value)] ∧
    home.state.jobs.get? job = some stuck ∧ stuck.snapshot.state = .dispatching ∧
    stuck.snapshot.currentAttempt = some (attempt 1) := by
  obtain ⟨⟨grant, control⟩, messages, answers, home, running, granted, heard, stuck, found, state, current⟩ :
      ∃ messages ∈ sent, durable messages.1 messages.2 = true ∧ ∃ home ∈ (world overtaken ()).process?,
      home.state.grants.get? (attemptKey (attempt 1)) = some messages.1 ∧
      receiptsOf (attempt 1) home.journal.events = [receipt 1 5 lateAcknowledgment, receipt 1 4 (.succeeded value)] ∧
      ∃ record ∈ home.state.jobs.get? job, record.snapshot.state = .dispatching ∧
        record.snapshot.currentAttempt = some (attempt 1) := by decide +kernel
  obtain ⟨endpoint, executor, reached, isUp, record, kept, same, receipts⟩ := Executor.Sample.exists_of_endsWith _ answers
  exact ⟨grant, control, endpoint, executor, record, home, stuck, messages, reached, isUp, kept, same, receipts,
    overtaken_reachable, running, granted, heard, found, state, current⟩

end Sample

end Gawd.Home
