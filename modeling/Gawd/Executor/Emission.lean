import Gawd.Executor.Filing

/-!
Every operation of the executor, by the calls it produces.
-/

namespace Gawd.Executor

open Gawd.Logic Gawd.Wire Gawd.Journal

variable {claimed : SignedRecord ExecutionReceipt} {target : Address} {program : Action (List Dispatch)}
  {executor : FunctionExecutor}

variable {grant : SignedRecord ExecutionGrant}

section

variable [Crypto] {trusted : SignedRecord ExecutionGrant → Prop}

variable {host : Host}

theorem along_commit {record : ExecutorLedgerRecord} (trust : record.Trusted trusted) :
    Along (Progresses trusted) (commit host record) := by
  intro executor
  unfold commit
  rw [wp_bind, wp_get]
  refine wp_guard fun _ _ => ?_
  rw [wp_bind, wp_tick, wp_bind, wp_zoom]
  refine SignedJournal.wp_append (fun entry journal continued appended => ?_) (fun _ => .of_same rfl rfl rfl)
    fun entry journal _ continued poisoned => ?_
  · rw [inState, wp_zoom]
    refine wp_mono (along_applyRecord trust executor.state) (fun _ _ advances => ?_) fun _ _ advances => ?_
    all_goals exact .of_filed (.inr appended.logged) (continued.event ▸ trust) advances rfl
  · exact .of_filed (poisoned.logged.imp And.left And.left) (continued.event ▸ trust) (Std.Refl.refl executor.state) rfl

/-- A move by trusted records is progress. -/
theorem Move.progresses (move : Move (ExecutorLedgerRecord.Trusted trusted) identity before after) :
    Progresses trusted before after := by
  cases move with
  | aside journal state _ seat => exact .of_same journal state (by rw [seat])
  | filed filing continued appended run _ config =>
    have advances := wp_ok (along_applyRecord filing.ruled before.state) run
    exact .of_filed (.inr appended.logged) (continued.event ▸ filing.ruled) advances (by rw [config])
  | misfiled filing continued appended run _ config =>
    have advances := wp_error (along_applyRecord filing.ruled before.state) run
    exact .of_filed (.inr appended.logged) (continued.event ▸ filing.ruled) advances (by rw [config])
  | poisoned filing continued poisoned state _ config =>
    refine .of_filed (poisoned.logged.imp And.left And.left) (continued.event ▸ filing.ruled) ?_ (by rw [config])
    rw [state]
    exact Std.Refl.refl before.state

theorem Moves.progresses (moves : Moves (ExecutorLedgerRecord.Trusted trusted) identity before after) :
    Progresses trusted before after := by
  induction moves with
  | refl => exact Std.Refl.refl before
  | tail _ move ih => exact IsTrans.trans _ _ _ ih move.progresses

/-- The calls of a claim: its attempt was not started before, and its Started receipt is durable now. -/
theorem Claims.emits (trust : trusted grant) (pinned : grant.payload.deployment.payload.executor = before.config.executor)
    (claims : Claims (ExecutorLedgerRecord.Trusted trusted) identity grant known before outcome after) :
    Emits trusted before outcome.calls after := by
  refine ⟨claims.moves.progresses, by cases outcome <;> simp [ClaimOutcome.calls], ?_, ?_, ?_⟩
  all_goals
    intro call member
    obtain ⟨names, carries, middle, receipt, moves, logged, attempt, second, stage⟩ := claims.begins call member
    obtain ⟨-, old, later, found, admitted, inAfter, continues⟩ :=
      wp_ok (@wp_applyRecord_receipt _ trusted _ _ receipt middle.state) logged.applied
    have next := (AttemptRecord.admits_eq_ok admitted).2.1
  · rintro started
    obtain ⟨record, present, enough⟩ := moves.progresses.retained.started started
    rw [names, ← attempt, found, Option.some.injEq] at present
    rw [← present] at enough
    omega
  · have grown := continues.receipts.length_le
    rw [AttemptRecord.push_receipts, List.length_append, List.length_singleton] at grown
    rw [names, ← attempt]
    exact ⟨⟨later, inAfter, by omega⟩, receipt, logged.durable, rfl, second, stage⟩
  · rw [names, carries]
    exact ⟨rfl, trust, pinned⟩

/-- A handler by the calls among its dispatches. -/
def Emitting (trusted : SignedRecord ExecutionGrant → Prop) (program : Action (List Dispatch)) : Prop :=
  ∀ executor, Holds trusted executor →
    wp program (fun sent after => Emits trusted executor (calls sent) after)
      (fun _ after => Progresses trusted executor after) executor

/-- All handlers send only first calls of started attempts. -/
theorem handling_emits :
    Handling (ExecutorLedgerRecord.Trusted trusted) host trusted (Holds trusted) (Emits trusted) where
  quiet moves := .nothing moves.progresses
  trans := .append
  forget emits := .nothing emits.progress
  kept emits := emits.progress.kept
  permits _ _ trust := trust
  retained held found := (held.attempts _ _ found).2.1
  claims trust _ := wp_mono (wp_claim (fun _ _ trust => trust) trust)
    (fun _ _ claims => claims.1.emits trust claims.2) fun _ _ moves => .nothing moves.progresses

theorem Handles.emitting (handles : Handles (Holds trusted) (Emits trusted) program) : Emitting trusted program :=
  fun executor held => wp_mono (handles executor held) (fun _ _ emits => emits) fun _ _ emits => emits.progress

end

end Gawd.Executor
