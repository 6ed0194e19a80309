import Gawd.Executor.Reconciliation
import Gawd.Home.Cancellation
import Gawd.Home.Lineage

/-!
What a Home promises its callers about a Job, over all runs of its roots: attempts are numbered without
gaps, what has ended stays as it ended, and what was cancelled is never dispatched again.
-/

namespace Gawd.Home

open Gawd.Logic Gawd.Wire Gawd.Journal

variable {home : FunctionHome}

namespace Sample

attribute [local instance] Wire.Sample.collisionFree

/-- A Job is accepted. -/
def submitted : List Command := [.openHome host config, .operate host (submit .atMostOnce)]

/-- A Job is accepted and then cancelled. -/
def cancelled : List Command := submitted ++ [.operate host cancel]

theorem submitted_reachable : fleet.system.Reachable (world submitted) :=
  world_reachable (by simp [submitted, Ours]; rfl)

theorem submitted_observed : (fleet.observed allowed).Reachable (world submitted) := by
  refine restrict_reachable ?_ ?_
  · simp [submitted, Ours]
    rfl
  · simp [submitted, Fleet.Observes, submit]

theorem cancelled_reachable : fleet.system.Reachable (world cancelled) :=
  world_reachable (by simp [cancelled, submitted, Ours]; rfl)

theorem submitted_runs : ∃ home ∈ (world submitted ()).process?, ∃ record ∈ home.state.jobs.get? Wire.Sample.job,
    record.snapshot.state = .queued ∧ home.state.nonterminalJobs = 1 := by decide +kernel

theorem cancelled_runs : ∃ home ∈ (world cancelled ()).process?, ∃ record ∈ home.state.jobs.get? Wire.Sample.job,
    record.snapshot.state = .cancelled ∧ CancelAccepted record := by decide +kernel

end Sample

variable {home' : FunctionHome}

namespace Fleet

theorem grantsOf_prefix (starts : shorter <+: longer) (job : JobId) : grantsOf job shorter <+: grantsOf job longer :=
  (starts.filterMap _).filter _

/-- The calls an executor has made for a Job. -/
def callsFor (job : JobId) (executor : Executor.World) : List FunctionCall :=
  executor.allCalls.filter fun call => call.attempt.job = job

section

variable [Crypto] {ι : Type} [DecidableEq ι] {fleet : Fleet ι} {world after : World ι}

section

variable (honest : fleet.Honest) (identified : HandoffsIdentified) (reached : fleet.system.Reachable world)
  (run : fleet.system.Leads world after)

include honest identified reached run

theorem events_prefix (order : fleet.epoch earlier ≤ fleet.epoch later)
    (before : (world earlier).process? = some home) (afterwards : (after later).process? = some home') :
    home.journal.events <+: home'.journal.events := by
  rw [← observed_free fun _ _ _ => trivial] at reached run
  exact ( ledger_prefix honest identified anything_free reached run order before afterwards).map _

theorem events_prefix_of_older (older : fleet.epoch earlier < fleet.epoch later)
    (before : (world later).process? = some home) (afterwards : (after earlier).process? = some home') :
    home'.journal.events <+: home.journal.events := by
  rw [← observed_free fun _ _ _ => trivial] at reached run
  exact (ledger_prefix_of_older honest identified anything_free reached run older before afterwards).map _

end

theorem callsFor_grants (ledger : List HomeLedgerRecord) (job : JobId)
    (recorded : Executor.Recorded key (· ∈ ledgerGrants ledger) executor) :
    ((callsFor job executor).map FunctionCall.grant).Nodup ∧ ∀ grant ∈ (callsFor job executor).map FunctionCall.grant,
      grant ∈ grantsOf job ledger ∧ grant.payload.deployment.payload.executor = key := by
  have attempts : (callsFor job executor).map FunctionCall.attempt =
      ((callsFor job executor).map FunctionCall.grant).map fun grant => grant.payload.attempt := by
    rw [List.map_map]
    exact List.map_congr_left fun call member => (recorded.granted call (List.mem_of_mem_filter member)).1
  refine ⟨.of_map _ (attempts ▸ recorded.distinct.sublist (List.filter_sublist.map _)), fun grant member => ?_⟩
  obtain ⟨call, among, rfl⟩ := List.mem_map.mp member
  obtain ⟨made, own⟩ := List.mem_filter.mp among
  obtain ⟨same, kept, named⟩ := recorded.granted call made
  exact ⟨List.mem_filter.mpr ⟨kept, same ▸ own⟩, named⟩

end

section

attribute [local instance] Wire.Sample.collisionFree

end

section

variable [Crypto] {ι : Type} [DecidableEq ι] {fleet : Fleet ι} {world after : World ι}

/-- What has ended stays as it ended, in every later state of its root and of every root that custody moves
to: only late receipts follow, and the course of every Job is one of allowed transitions. -/
theorem terminal_final (honest : fleet.Honest) (identified : HandoffsIdentified)
    (reached : fleet.system.Reachable world) (run : fleet.system.Leads world after) {earlier later : ι}
    (order : fleet.epoch earlier ≤ fleet.epoch later) {home home' : FunctionHome}
    (before : (world earlier).process? = some home) (afterwards : (after later).process? = some home')
    {job : JobId} {record : JobRecord} (found : home.state.jobs.get? job = some record) :
    Traced record ∧ ∃ next, home'.state.jobs.get? job = some next ∧ Extends record next := by
  have grown := (processSound_of_reachable identified reached before).grown
  have grown' := (processSound_of_reachable identified (reached.leads run) afterwards).grown
  obtain ⟨more, longer⟩ := events_prefix honest identified reached run order before afterwards
  rw [← longer] at grown'
  exact ⟨grown.traced job record found, grown.settled grown' job record found⟩

end

section

attribute [local instance] Wire.Sample.collisionFree

/-- It holds of a first root whose only Job was cancelled. -/
theorem terminal_final_cancelled :
    ∃ home record, (Sample.world Sample.cancelled ()).process? = some home ∧
      home.state.jobs.get? Wire.Sample.job = some record ∧ record.snapshot.state = .cancelled ∧
      (Traced record ∧ ∃ next, home.state.jobs.get? Wire.Sample.job = some next ∧ Extends record next) := by
  obtain ⟨home, running, record, found, ended, _⟩ := Sample.cancelled_runs
  exact ⟨home, record, running, found, ended,
    terminal_final Sample.fleet_honest Sample.handoffsIdentified Sample.cancelled_reachable .refl (Nat.le_refl _)
      running running found⟩

end

section

variable [Crypto] {ι : Type} [DecidableEq ι] {fleet : Fleet ι} {world after : World ι}

/-- A cancel request stays, and after an accepted Cancel control no root ever grants the Job another
attempt. -/
theorem cancel_final (honest : fleet.Honest) (identified : HandoffsIdentified)
    (reached : fleet.system.Reachable world) (run : fleet.system.Leads world after) {root other : ι}
    {home home' : FunctionHome} (before : (world root).process? = some home)
    (afterwards : (after other).process? = some home') {job : JobId} {record : JobRecord}
    (found : home.state.jobs.get? job = some record) :
    (fleet.epoch root ≤ fleet.epoch other → record.snapshot.cancelRequested = true →
        ∃ next, home'.state.jobs.get? job = some next ∧ next.snapshot.cancelRequested = true) ∧
      (CancelAccepted record → record.snapshot.cancelRequested = true ∧
        ∀ grant ∈ grantsOf job home'.journal.events, grant ∈ grantsOf job home.journal.events) := by
  have grown := (processSound_of_reachable identified reached before).grown
  have grown' := (processSound_of_reachable identified (reached.leads run) afterwards).grown
  refine ⟨fun order cancelled => ?_, fun accepted => ?_⟩
  · obtain ⟨more, longer⟩ := events_prefix honest identified reached run order before afterwards
    rw [← longer] at grown'
    exact grown.cancelKept grown' job record found cancelled
  · have cancelled := grown.cancelled_of_accepted job record found accepted
    refine ⟨cancelled, fun grant member => ?_⟩
    rcases Nat.lt_or_ge (fleet.epoch other) (fleet.epoch root) with older | order
    · exact ( grantsOf_prefix (events_prefix_of_older honest identified reached run older before afterwards) _).subset member
    · obtain ⟨more, longer⟩ := events_prefix honest identified reached run order before afterwards
      rw [← longer] at grown' member
      rwa [grown.grantsOf_cancelled grown' found cancelled] at member

end

section

attribute [local instance] Wire.Sample.collisionFree

/-- It holds of a first root that accepted a Cancel control. -/
theorem cancel_final_accepted :
    ∃ home record, (Sample.world Sample.cancelled ()).process? = some home ∧
      home.state.jobs.get? Wire.Sample.job = some record ∧ CancelAccepted record ∧
      ((Sample.fleet.epoch () ≤ Sample.fleet.epoch () → record.snapshot.cancelRequested = true →
          ∃ next, home.state.jobs.get? Wire.Sample.job = some next ∧ next.snapshot.cancelRequested = true) ∧
        (CancelAccepted record → record.snapshot.cancelRequested = true ∧
          ∀ grant ∈ grantsOf Wire.Sample.job home.journal.events, grant ∈ grantsOf Wire.Sample.job home.journal.events)) := by
  obtain ⟨home, running, record, found, _, accepted⟩ := Sample.cancelled_runs
  exact ⟨home, record, running, found, accepted,
    cancel_final Sample.fleet_honest Sample.handoffsIdentified Sample.cancelled_reachable .refl running running found⟩

end

end Fleet

end Gawd.Home
