import Gawd.Home.Reservations

/-!
What passes a Home's checks is done: a record that is admitted, signed and written out is applied.
-/

namespace Gawd.Home

open Gawd.Logic Gawd.Wire Gawd.Journal

variable {event : SignedRecord JobEvent}

theorem ensureAuthoritativeState_runs (authoritative : home.authoritative = .ok ()) :
    ensureAuthoritativeState home = .ok () home := by
  simp only [run_eq_ok, ensureAuthoritativeState, wp_bind, wp_get, wp_lift, authoritative]
  simp

section

variable [Crypto] {host : Host} {home : FunctionHome}

theorem signEventWithReceipt_runs (authoritative : home.authoritative = .ok ())
    (valid : validate (home.nextEvent handle stateAfter cancelRequested occurredAtUnixMs kind foreignReceipt) = .ok ())
    (signed : SignedRecord.sign .job
      (home.nextEvent handle stateAfter cancelRequested occurredAtUnixMs kind foreignReceipt) host.signer = .ok event) :
    signEventWithReceipt host handle stateAfter cancelRequested occurredAtUnixMs kind foreignReceipt home =
      .ok event home := by
  rw [run_eq_ok, signEventWithReceipt]
  refine wp_run (ensureAuthoritativeState_runs authoritative) ?_
  rw [wp_bind, wp_get]
  refine wp_pass (mapError_eq_ok.mpr valid) ?_
  rw [wp_lift, ofSigning, mapError_eq_ok.mpr signed]
  exact ⟨fun _ same => ⟨(Except.ok.inj same).symm, rfl⟩, nofun⟩

/-- A record that is admitted, signed and written out is applied. -/
theorem wp_persistAndApply_durable (authoritative : home.authoritative = .ok ())
    (admitted : home.admit entry = .ok ()) (signable : home.journal.Signable entry host.signer)
    (durable : host.jobFate home.journal.records.length = .durable)
    (run : applyLedgerRecord home.config entry home.state = .ok () state) : wp (persistAndApply host entry)
      (fun _ after => after.state = state ∧ after.journal.events = home.journal.events ++ [entry])
      (fun _ _ => False) home := by
  obtain ⟨_, _, healthy, _, _, room⟩ := admit_eq_ok.mp admitted
  simp only [persistAndApply, ensureAuthoritativeState, appendJob, applyToState, wp_bind, wp_get, wp_lift, wp_zoom]
  rw [authoritative]
  refine ⟨fun _ _ => ?_, nofun⟩
  rw [admitted]
  refine ⟨fun _ _ => ?_, nofun⟩
  rw [durable]
  refine SignedJournal.wp_append_durable healthy (by omega) signable fun entry journal continued appended => ?_
  unfold wp
  rw [show applyLedgerRecord home.config _ home.state = .ok () state from run]
  refine ⟨rfl, ?_⟩
  rw [SignedJournal.events, appended.records, eventsOf_append, ← continued.event]
  rfl

end

namespace Sample

open Wire.Sample

attribute [local instance] Wire.Sample.collisionFree

theorem accepts : (world submitted ()).process?.isSome = true := by decide +kernel

noncomputable def accepted : FunctionHome := (world submitted ()).process?.get accepts

theorem holds : (accepted.state.jobs.get? job).isSome = true := by decide +kernel

noncomputable def acceptedJob : JobRecord := (accepted.state.jobs.get? job).get holds

/-- The grant of the first attempt. -/
noncomputable def firstGrant : SignedRecord ExecutionGrant :=
  signed .execute homeKey (accepted.nextGrant acceptedJob job 1 1 deployment none none)

theorem firstGrant_verified : verifyExecutionGrant firstGrant = .ok () := by
  decide +kernel

/-- A Job is accepted and its first attempt is granted. -/
def issued : List Command := submitted ++ [.operate host issue]

theorem issued_reachable : (fleet.observed allowed).Reachable (world issued) := by
  refine restrict_reachable ?_ ?_
  · simp [issued, submitted, Ours]
    rfl
  · simp [issued, submitted, Fleet.Observes, submit, issue]

theorem issue_grants : (world submitted ()).process?.any (fun home => (home.state.jobs.get? job).any fun record =>
    (issue.perform host home).state.grants.get? (attemptKey (home.nextGrant record job 1 1 deployment none none).attempt) =
      some (signed .execute homeKey (home.nextGrant record job 1 1 deployment none none))) = true := by
  cbv

theorem issued_runs : ∃ home, (world issued ()).process? = some home ∧
    home.state.grants.get? (attemptKey firstGrant.payload.attempt) = some firstGrant := by
  have running : (world submitted ()).process? = some accepted := (Option.some_get accepts).symm
  have held : accepted.state.jobs.get? job = some acceptedJob := (Option.some_get holds).symm
  have granted := issue_grants
  rw [running, Option.any_some, held, Option.any_some, decide_eq_true_eq] at granted
  refine ⟨issue.perform host accepted, ?_, granted⟩
  have next := @Root.process?_operate _ _ _ host issue running
  simpa [issued, world] using next

end Sample

end Gawd.Home
