import Gawd.Home.Numbering

/-!
Cancellation along a ledger: the flag never falls, and no grant follows it.
-/

namespace Gawd.Home

open Gawd.Logic Gawd.Wire Gawd.Journal

/-- The record of a Job holds an accepted Cancel control. -/
def CancelAccepted (record : JobRecord) : Prop :=
  ∃ event ∈ record.events, ∃ request attempt, event.payload.kind = .controlRequested request attempt ∧
    isCancel request.payload.kind = true

theorem cancelAccepted_iff {record : JobRecord} : CancelAccepted record ↔ (record.events.any fun event =>
    match event.payload.kind with
    | .controlRequested request _ => isCancel request.payload.kind
    | _ => false) = true := by
  rw [List.any_eq_true, CancelAccepted]
  refine exists_congr fun event => and_congr_right fun _ => ?_
  cases event.payload.kind <;> simp

instance (record : JobRecord) : Decidable (CancelAccepted record) := decidable_of_iff' _ cancelAccepted_iff

/-- A Job that was asked to cancel still is. -/
def CancelKept (before after : HomeState) : Prop :=
  ∀ job record, before.jobs.get? job = some record → record.snapshot.cancelRequested = true →
    ∃ next, after.jobs.get? job = some next ∧ next.snapshot.cancelRequested = true

variable (snapshot : JobSnapshot)

theorem stageEvent_carries (cancelled : snapshot.cancelRequested = true) :
    (stageEvent snapshot receipt).2.1 = true := by
  unfold stageEvent
  cases receipt.stage <;> simp [cancelled]

theorem receiptOutcome_carries
    (cancelled : snapshot.cancelRequested = true) : (receiptOutcome snapshot highest receipt).2.1 = true := by
  unfold receiptOutcome
  split
  · exact cancelled
  · exact stageEvent_carries snapshot cancelled

theorem receiptOutcome_kind :
    (receiptOutcome snapshot highest receipt).2.2 ≠ .controlRequested request attempt := by
  unfold receiptOutcome stageEvent
  split
  · simp
  · cases receipt.stage <;> simp

variable {allowed : HomeState → HomeLedgerRecord → Prop}

section

variable [Crypto]

/-- Every event but a submission carries a cancel request along, and an accepted Cancel sets it. -/
theorem JobAdvance.carries (advances : JobAdvance before record event job) :
    (job.snapshot.cancelRequested = true → event.payload.cancelRequested = true) ∧
      ∀ request attempt, event.payload.kind = .controlRequested request attempt →
        isCancel request.payload.kind = true → event.payload.cancelRequested = true := by
  cases advances with
  | dispatch _ dispatches ready =>
    refine ⟨fun cancelled => ?_, fun request attempt control => ?_⟩
    · rw [(checkDispatch_eq_ok ready).2.1] at cancelled
      cases cancelled
    · rw [dispatches.kind] at control
      cases control
  | observation _ _ outcome =>
    rw [Prod.ext_iff, Prod.ext_iff] at outcome
    obtain ⟨-, cancel, stage⟩ := outcome
    dsimp only at cancel stage
    refine ⟨fun cancelled => ?_, fun request attempt control => ?_⟩
    · rw [cancel]
      exact receiptOutcome_carries _ cancelled
    · rw [stage] at control
      exact absurd control (receiptOutcome_kind _)
  | continuation continues => exact ⟨continues.carries, continues.accepts⟩

/-- One record keeps every cancel request. -/
theorem Produced.cancelKept (kept : EachJob WellKept before) (produced : Produced before record)
    (applied : RecordApplied record before after) : CancelKept before after := by
  intro job held found cancelled
  rcases produced.next kept applied found with same | ⟨event, -, -, advances, present⟩
  · exact ⟨held, same, cancelled⟩
  · exact ⟨_, present, advances.carries.1 cancelled⟩

section

variable (shorter : Grown allowed ledger before) (longer : Grown allowed (ledger ++ later) after)

include shorter longer

/-- Along any ledger, a cancel request stays. -/
theorem Grown.cancelKept : CancelKept before after := by
  refine Grown.along (fun _ job record found cancelled => ⟨record, found, cancelled⟩)
    (fun first second third one two job record found cancelled => ?_)
    (fun _ _ _ _ grown produced _ applied => produced.cancelKept grown.wellKept applied) shorter longer
  obtain ⟨next, held, still⟩ := one job record found cancelled
  exact two job next held still

/-- No grant of a Job follows its cancel request. -/
theorem Grown.grantsOf_cancelled (found : before.jobs.get? job = some record)
    (cancelled : record.snapshot.cancelRequested = true) : grantsOf job (ledger ++ later) = grantsOf job ledger := by
  induction later using List.reverseRecOn generalizing after with
  | nil => rw [List.append_nil]
  | append_singleton later last ih =>
    rw [← List.append_assoc] at longer ⊢
    obtain ⟨_, middle, earlier, produced, _, _⟩ := longer.last
    rw [grantsOf_append, ih earlier]
    obtain ⟨held, present, still⟩ := shorter.cancelKept earlier job record found cancelled
    have none : (last.grant.toList.filter fun grant => grant.payload.attempt.job = job) = [] := by
      rw [List.filter_eq_nil_iff]
      intro grant member own
      cases produced with
      | dispatch dispatches =>
        simp only [Option.toList_some, List.mem_singleton] at member
        subst member
        obtain ⟨other, deployment, same, ready, -⟩ := dispatches.job
        rw [of_decide_eq_true own, present] at same
        obtain ⟨⟩ := same
        rw [(checkDispatch_eq_ok ready).2.1] at still
        cases still
      | submission _ | observation _ _ _ | continuation _ _ | spawn _ _ _ _ => cases member
    rw [none, List.append_nil]

end

/-- A Job with an accepted Cancel control is asked to cancel. -/
theorem Grown.cancelled_of_accepted (grown : Grown allowed ledger state) :
    EachJob (fun _ record => CancelAccepted record → record.snapshot.cancelRequested = true) state := by
  induction grown with
  | nil =>
    intro job record found
    cases found
  | @snoc _ _ record before after earlier produced _ run ih =>
    refine produced.eachJob earlier.wellKept (recordApplied_of_run run) ?_ ?_ ih
    · rintro event - spec kind ⟨_, inside, request, attempt, control, -⟩
      rw [List.mem_singleton.mp inside, kind] at control
      cases control
    · rintro event - job - advances - old ⟨other, inside, request, attempt, control, cancel⟩
      rcases List.mem_append.mp inside with early | own
      · exact advances.carries.1 (old ⟨other, early, request, attempt, control, cancel⟩)
      · obtain rfl := List.mem_singleton.mp own
        exact advances.carries.2 request attempt control cancel

end

end Gawd.Home
