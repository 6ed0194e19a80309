import Gawd.Executor.Sweep

/-!
Deployments that were taken down stay down.
-/

namespace Gawd.Executor

open Gawd.Logic Gawd.Wire Gawd.Journal

variable {request : SignedRecord UndeployRequest} {earlier later : List ExecutorLedgerRecord}

theorem snoc_eq_split (split : events ++ [newest] = earlier ++ found :: later) :
    later = [] ∧ newest = found ∧ events = earlier ∨ ∃ rest, later = rest ++ [newest] ∧ events = earlier ++ found :: rest := by
  rcases List.eq_nil_or_concat later with rfl | ⟨rest, last, rfl⟩
  · obtain ⟨same, one⟩ := List.append_inj' split rfl
    exact .inl ⟨rfl, List.singleton_inj.mp one, same⟩
  · rw [List.concat_eq_append, ← List.cons_append, ← List.append_assoc] at split
    obtain ⟨same, one⟩ := List.append_inj' split rfl
    exact .inr ⟨rest, by rw [List.singleton_inj.mp one, List.concat_eq_append], same⟩

section

variable [Crypto]

/-- The deployment that the grant of an attempt pins. -/
def AttemptRecord.deployment (record : AttemptRecord) : DeploymentId :=
  record.grant.payload.deployment.payload.deployment

/-- A record that registers a deployment, or takes a grant for it. -/
def ExecutorLedgerRecord.Revives (deployment : DeploymentId) : ExecutorLedgerRecord → Prop
  | .register _ issued => issued.payload.deployment = deployment
  | .claim grant _ | .refuse grant _ => grant.payload.deployment.payload.deployment = deployment
  | _ => False

/-- No deployment that was taken down is registered, and every attempt for one has ended. -/
structure Buried (state : ExecutorState) : Prop where
  unregistered : ∀ deployment ∈ state.deploymentTombstones, state.deployments.get? deployment = none
  ended : ∀ key attempt, state.attempts.get? key = some attempt → attempt.deployment ∈ state.deploymentTombstones →
    attempt.terminal = true

variable {identity : Text} {regime : Regime identity} {rule : ExecutorLedgerRecord → Prop} {place : ExecutorConfig → Prop}
  {events ledger : List ExecutorLedgerRecord} {state : ExecutorState} {record : ExecutorLedgerRecord}
  {config : ExecutorConfig} {reserve : Nat} {deployment : DeploymentId}

/-- A record that is produced does not bring back what was taken down. -/
theorem Buried.not_revives (buried : Buried state) (produced : Produced config state record reserve)
    (down : deployment ∈ state.deploymentTombstones) : ¬ record.Revives deployment := by
  have absent := buried.unregistered deployment down
  intro revives
  cases produced with
  | register alive _ _ =>
    rw [ExecutorLedgerRecord.Revives] at revives
    exact alive (revives ▸ down)
  | claim admissible | refuse admissible =>
    obtain ⟨receipt, registered, _⟩ := admissible.registered
    rw [ExecutorLedgerRecord.Revives] at revives
    rw [revives, absent] at registered
    cases registered
  | _ => exact revives

omit [Crypto] in
theorem not_revives_of_misfiled (misfiled : Misfiled state record) : ¬ record.Revives deployment := by
  cases record with
  | receipt receipt => exact id
  | _ => exact misfiled.elim

theorem NextState.mem_tombstones (next : NextState state record after) : deployment ∈ after.deploymentTombstones ↔
    deployment ∈ state.deploymentTombstones ∨ ∃ request, record = .undeploy request deployment := by
  cases next with
  | undeploy =>
    rw [ExecutorState.next, List.mem_cons, or_comm]
    simp [eq_comm]
  | _ => simp [ExecutorState.next, ExecutorState.taking, ExecutorState.reendorsing, ExecutorState.queueing,
      ExecutorState.receiving]

/-- A deployment is registered because it was, or because the record registers it. -/
theorem NextState.registered (next : NextState state record after)
    (registered : after.deployments.get? deployment = some receipt) :
    state.deployments.get? deployment = some receipt ∧ (∀ request, record ≠ .undeploy request deployment) ∨
      record.Revives deployment := by
  cases next with
  | register =>
    rw [ExecutorState.next, SortedMap.get?_insert] at registered
    split at registered
    · rename_i same
      exact .inr same.symm
    · exact .inl ⟨registered, by simp⟩
  | undeploy =>
    rw [ExecutorState.next, SortedMap.get?_erase] at registered
    split at registered
    · cases registered
    · rename_i differs
      refine .inl ⟨registered, ?_⟩
      rintro _ ⟨⟩
      exact differs rfl
  | _ => exact .inl ⟨registered, by simp⟩

omit [Crypto] in
theorem deployment_receiving {attempt : AttemptRecord} :
    (attempt.receiving receipt ordinal).deployment = attempt.deployment := by
  simp only [AttemptRecord.deployment, AttemptRecord.receiving, AttemptRecord.push]
  split <;> rfl

theorem Buried.next (buried : Buried state) (produced : Produced config state record reserve) :
    Buried (state.next record) := by
  refine ⟨fun deployment down => ?_, fun key attempt found down => ?_⟩
  · refine Option.eq_none_iff_forall_ne_some.mpr fun receipt registered => ?_
    rcases (nextState _ _).mem_tombstones.mp down with earlier | ⟨request, rfl⟩
    · rcases (nextState _ _).registered registered with ⟨before, _⟩ | revives
      · rw [buried.unregistered deployment earlier] at before
        cases before
      · exact buried.not_revives produced earlier revives
    · rcases (nextState _ _).registered registered with ⟨_, other⟩ | revives
      · exact other request rfl
      · exact revives
  · have earlier := (nextState _ _).mem_tombstones.mp down
    cases appears_next found with
    | kept known =>
      rcases earlier with before | ⟨request, rfl⟩
      · exact buried.ended key attempt known before
      · cases produced with
        | undeploy _ _ ended => exact ended key attempt known rfl
    | claimed _ first | refused _ first =>
      subst first
      exact absurd rfl (buried.not_revives produced (earlier.resolve_right (by simp)))
    | queued _ known later =>
      subst later
      have ended := buried.ended key _ known (earlier.resolve_right (by simp))
      exact ended
    | received _ known later =>
      subst later
      rw [deployment_receiving] at earlier
      have ended := buried.ended key _ known (earlier.resolve_right (by simp))
      exact (congrArg (· || _) ended).trans (Bool.true_or _)

theorem Rests.buried (rests : Rests regime events ledger state) : Buried state := by
  induction rests with
  | nil => exact ⟨by simp [ExecutorState.initial], fun _ _ found => (nomatch found)⟩
  | filed _ taken ih => exact ih.next taken.produced
  | misfiled _ _ ih => exact ih

/-- A tombstone in the journal is one in the state. -/
theorem Rests.tombstoned (rests : Rests regime events ledger state)
    (undeployed : .undeploy request deployment ∈ events) : deployment ∈ state.deploymentTombstones := by
  induction rests with
  | nil => cases undeployed
  | filed _ _ ih =>
    refine (nextState _ _).mem_tombstones.mpr ?_
    rcases List.mem_append.mp undeployed with earlier | here
    · exact .inl (ih earlier)
    · exact .inr ⟨request, (List.mem_singleton.mp here).symm⟩
  | misfiled _ misfiled ih =>
    rcases List.mem_append.mp undeployed with earlier | here
    · exact ih earlier
    · rw [← List.mem_singleton.mp here] at misfiled
      exact misfiled.elim

section

variable (rests : Rests regime events ledger state)
  (split : events = earlier ++ .undeploy request deployment :: later)

include rests split

/-- Nothing after a tombstone brings its deployment back. -/
theorem Rests.unrevived (member : record ∈ later) : ¬ record.Revives deployment := by
  induction rests generalizing later with
  | nil => simp at split
  | filed rests taken ih =>
    rcases snoc_eq_split split with ⟨rfl, _⟩ | ⟨rest, rfl, same⟩
    · cases member
    · rcases List.mem_append.mp member with old | new
      · exact ih same old
      · rw [List.mem_singleton.mp new]
        have down := rests.tombstoned (same ▸ List.mem_append_right earlier List.mem_cons_self)
        exact rests.buried.not_revives taken.produced down
  | misfiled rests misfiled ih =>
    rcases snoc_eq_split split with ⟨rfl, _⟩ | ⟨rest, rfl, same⟩
    · cases member
    · rcases List.mem_append.mp member with old | new
      · exact ih same old
      · rw [List.mem_singleton.mp new]
        exact not_revives_of_misfiled misfiled

/-- When a tombstone was appended, every attempt for its deployment had ended. -/
theorem Rests.ended_before {before : ExecutorState} (run : replay config identity earlier .initial = .ok () before)
    {attempt : AttemptRecord} (found : before.attempts.get? key = some attempt)
    (named : attempt.deployment = deployment) : attempt.terminal = true := by
  induction rests generalizing later with
  | nil => simp at split
  | filed rests taken ih =>
    rcases snoc_eq_split split with ⟨rfl, rfl, rfl⟩ | ⟨rest, rfl, same⟩
    · rcases rests.events with same | ⟨_, broken⟩
      · rw [same] at run
        obtain rfl := rests.grown.replay_eq run
        cases taken.produced with
        | undeploy _ _ ended => exact ended key attempt found named
      · exact absurd run (broken _ _)
    · exact ih same
  | misfiled rests misfiled ih =>
    rcases snoc_eq_split split with ⟨rfl, rfl, rfl⟩ | ⟨rest, rfl, same⟩
    · exact misfiled.elim
    · exact ih same

end

/-- In every run, no record that is durable after a tombstone registers its deployment or takes a grant for it, whenever
the tombstone was appended every attempt for its deployment had ended, and no process has its deployment registered or an
attempt for it open. -/
theorem tombstones_final {world : World} (reached : (anywhere identity).system.Reachable world) :
    (∀ earlier request deployment later,
      eventsOf world.root.files.records = earlier ++ .undeploy request deployment :: later →
        (∀ record ∈ later, ¬ record.Revives deployment) ∧
        ∀ config before, replay config identity earlier .initial = .ok () before → ∀ key attempt,
          before.attempts.get? key = some attempt → attempt.deployment = deployment → attempt.terminal = true) ∧
    ∀ executor, world.root = .up executor → ∀ deployment ∈ executor.state.deploymentTombstones,
      executor.state.deployments.get? deployment = none ∧ ∀ key attempt,
        executor.state.attempts.get? key = some attempt → attempt.deployment = deployment → attempt.terminal = true := by
  obtain ⟨ledger, state, rests⟩ := rests_of_reachable reached
  refine ⟨fun earlier request deployment later split => ?_, fun executor isUp deployment down => ?_⟩
  · obtain ⟨longer, final, _, held⟩ := rests.onDisk
    refine ⟨fun record member => held.unrevived split member, ?_⟩
    exact fun config before run key attempt found named => held.ended_before split run found named
  · rw [isUp] at rests
    obtain ⟨rfl, backs⟩ := rests
    have buried := backs.held.buried
    refine ⟨buried.unregistered deployment down, fun key attempt found named => ?_⟩
    exact buried.ended key attempt found (named ▸ down)

end

namespace Sample

open Gawd.Wire.Sample

attribute [local instance] Wire.Sample.crypto

/-- The owner takes the deployment down. -/
def takenDown : SignedRecord UndeployRequest :=
  signed .functionDeploy rootKey ⟨home, ⟨.sha256 0⟩, none⟩

def untilTakenDown : List Label :=
  untilSucceeded ++ [deliver (.undeploy takenDown), deliver (.register registration), deliver (.grant (grant 2 .atMostOnce))]

theorem untilTakenDown_abides : ∀ label ∈ untilTakenDown, label.Abides (anywhere executorKey) := by
  rw [untilTakenDown, List.forall_mem_append]
  exact ⟨untilSucceeded_anywhere, by simp [deliver, Label.Abides]⟩

end Sample

open Sample Wire.Sample

attribute [local instance] Wire.Sample.crypto

/-- A deployment that was taken down after its attempt had succeeded, and was asked for again. -/
theorem tombstones_final_taken_down : ∃ world executor,
    (anywhere executorKey).system.Reachable world ∧ world.root = .up executor ∧
      (⟨.sha256 0⟩ : DeploymentId) ∈ executor.state.deploymentTombstones ∧
      executor.state.deployments.get? ⟨.sha256 0⟩ = none := by
  have run : endsWith untilTakenDown (fun executor =>
      (⟨.sha256 0⟩ : DeploymentId) ∈ executor.state.deploymentTombstones) = true := by decide +kernel
  obtain ⟨world, executor, reached, isUp, down⟩ := exists_of_abiding untilTakenDown_abides run
  exact ⟨world, executor, reached, isUp, down, ((tombstones_final reached).2 executor isUp _ down).1⟩

end Gawd.Executor
