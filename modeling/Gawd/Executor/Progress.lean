import Gawd.Executor.Attempts

/-!
How the operations of a running executor move it: its log and its attempts only grow, and a call comes
only after its Started receipt is durable.
-/

namespace Gawd.Executor

open Gawd.Logic Gawd.Wire Gawd.Journal

/-- A record is in the log files. -/
def Durable (files : Files ExecutorLedgerRecord) (record : ExecutorLedgerRecord) : Prop :=
  ∃ entry ∈ files.records, entry.payload.event = record

/-- What a running executor holds: sound attempts, and only trusted grants in memory and on disk. -/
structure Holds [Crypto] (trusted : SignedRecord ExecutionGrant → Prop) (executor : FunctionExecutor) :
    Prop where
  attempts : SoundAttempts trusted executor.state
  log : ∀ record, Durable executor.journal.files record → record.Trusted trusted

/-- How operations move a running executor. -/
structure Progresses [Crypto] (trusted : SignedRecord ExecutionGrant → Prop)
    (before after : FunctionExecutor) : Prop where
  log : before.journal.files.records <+: after.journal.files.records
  retained : Extends before.state after.state
  identity : after.config.executor = before.config.executor
  kept : Holds trusted before → Holds trusted after

variable {before after executor : FunctionExecutor}

theorem wp_tick {success : Nat → FunctionExecutor → Prop} {failure : ExecutorError → FunctionExecutor → Prop} :
    wp tick success failure executor ↔
      success executor.clock { executor with clock := executor.clock + 1 } :=
  Iff.rfl

theorem along_ensureOperational : Along Eq ensureOperational :=
  Along.get.bind fun _ => Along.lift _

theorem along_operational {relation : FunctionExecutor → FunctionExecutor → Prop} [Std.Refl relation]
    [IsTrans FunctionExecutor relation] {rest : Unit → Action α} (next : Along relation (rest ())) :
    Along relation (ensureOperational >>= rest) :=
  along_ensureOperational.of_eq.bind fun _ => next

theorem along_ensureAppendCapacity : Along Eq (ensureAppendCapacity reservation) :=
  Along.get.bind fun _ => .check fun _ => Along.lift _

section

variable [Crypto] {trusted : SignedRecord ExecutionGrant → Prop}

instance : Std.Refl (Progresses trusted) :=
  ⟨fun executor => ⟨List.prefix_rfl, (Std.Refl.refl executor.state : Advances trusted _ _).retained, rfl, id⟩⟩

instance : IsTrans FunctionExecutor (Progresses trusted) where
  trans first second third earlier later := by
    refine ⟨earlier.log.trans later.log, ?_, later.identity.trans earlier.identity, later.kept ∘ earlier.kept⟩
    intro attempt record found
    obtain ⟨middle, inMiddle, toMiddle⟩ := earlier.retained attempt record found
    obtain ⟨last, inLast, toLast⟩ := later.retained attempt middle inMiddle
    exact ⟨last, inLast, toMiddle.trans toLast⟩

/-- A change outside the journal and the state. -/
theorem Progresses.of_same (journal : after.journal = before.journal) (state : after.state = before.state)
    (identity : after.config.executor = before.config.executor) : Progresses trusted before after := by
  refine ⟨by simp [journal], ?_, identity, ?_⟩
  · intro attempt record found
    exact ⟨record, by rw [state, found], .refl record⟩
  · intro held
    exact ⟨by rw [state]; exact held.attempts, by rw [journal]; exact held.log⟩

/-- A step of the ledger that adds at most one trusted record to the log. -/
theorem Progresses.of_filed {entry : SignedRecord (ChainEntry ExecutorLedgerRecord)}
    (written : after.journal.files.records = before.journal.files.records ∨
      after.journal.files.records = before.journal.files.records ++ [entry])
    (trust : entry.payload.event.Trusted trusted) (advances : Advances trusted before.state after.state)
    (identity : after.config.executor = before.config.executor) : Progresses trusted before after := by
  refine ⟨?_, advances.retained, identity, fun held => ⟨advances.sound held.attempts, ?_⟩⟩
  · rcases written with same | added
    · exact same ▸ List.prefix_rfl
    · exact added ▸ List.prefix_append _ _
  · rintro record ⟨logged, member, rfl⟩
    rcases written with same | added
    · exact held.log _ ⟨logged, same ▸ member, rfl⟩
    · rw [added, List.mem_append, List.mem_singleton] at member
      rcases member with old | new
      · exact held.log _ ⟨logged, old, rfl⟩
      · exact new ▸ trust

/-- A step of the ledger on the state the process holds. -/
theorem Progresses.of_advances (advances : Advances trusted executor.state state) :
    Progresses trusted executor { executor with state } :=
  ⟨List.prefix_rfl, advances.retained, rfl, fun held => ⟨advances.sound held.attempts, held.log⟩⟩

variable {α : Type} {success : α → FunctionExecutor → Prop} {failure : ExecutorError → FunctionExecutor → Prop}

omit [Crypto] in
/-- An operation makes sure that the process is in order, and goes on. -/
theorem wp_operational {rest : Unit → Action α} (next : wp (rest ()) success failure executor)
    (failed : ∀ error, failure error executor) :
    wp (ensureOperational >>= rest) success failure executor :=
  wp_reads along_ensureOperational (fun _ => next) failed

/-- Signing a receipt changes nothing and fills in the stage it was asked for. -/
theorem wp_signReceipt {host : Host} {grant : SignedRecord ExecutionGrant} {sequence : Nat} :
    wp (signReceipt host grant sequence observedAtUnixMs stage)
      (fun receipt after => executor = after ∧ receipt.payload.attempt = grant.payload.attempt ∧
        receipt.payload.sequence = sequence ∧ receipt.payload.stage = stage ∧
        receipt.payload.grantHash = canonicalHash grant)
      (fun _ after => executor = after) executor := by
  unfold signReceipt
  refine wp_operational ?_ fun _ => rfl
  rw [wp_bind, wp_get]
  refine wp_guard fun _ _ => ?_
  rw [wp_lift]
  refine ⟨?_, fun _ _ => rfl⟩
  intro receipt signed
  rw [ofSigning, mapError_eq_ok] at signed
  obtain ⟨-, -, payload⟩ := SignedRecord.sign_eq_ok signed
  rw [payload]
  exact ⟨rfl, rfl, rfl, rfl, rfl⟩

/-- An operation signs a receipt, and goes on. -/
theorem wp_signed {host : Host} {grant : SignedRecord ExecutionGrant} {sequence : Nat} {observedAtUnixMs : Option Nat}
    {stage : ExecutionStage} {rest : SignedRecord ExecutionReceipt → Action α}
    (next : ∀ receipt, receipt.payload.attempt = grant.payload.attempt → receipt.payload.sequence = sequence →
      receipt.payload.stage = stage → receipt.payload.grantHash = canonicalHash grant →
      wp (rest receipt) success failure executor)
    (failed : ∀ error, failure error executor) :
    wp (signReceipt host grant sequence observedAtUnixMs stage >>= rest) success failure executor := by
  refine wp_seq wp_signReceipt ?_ ?_
  · rintro receipt _ ⟨rfl, attempt, second, named, hash⟩
    exact next receipt attempt second named hash
  · rintro error _ rfl
    exact failed error

/-- A call names the attempt of its grant. -/
theorem wp_functionCall {grant : SignedRecord ExecutionGrant} :
    wp (functionCall host grant)
      (fun call after => executor = after ∧ call.attempt = grant.payload.attempt ∧ call.grant = grant)
      (fun _ after => executor = after) executor := by
  unfold functionCall
  refine wp_operational ?_ fun _ => rfl
  rw [wp_bind, wp_get]
  refine wp_guard fun _ _ => ?_
  exact wp_guard fun _ _ => ⟨rfl, rfl, rfl⟩

/-- The executor has gone past the claim of an attempt. -/
def Started (state : ExecutorState) (attempt : AttemptId) : Prop :=
  ∃ record, state.attempts.get? attempt = some record ∧ 2 ≤ record.receipts.length

/-- The Started receipt of an attempt is in the log files. -/
def StartedDurable (files : Files ExecutorLedgerRecord) (attempt : AttemptId) : Prop :=
  ∃ receipt, Durable files (.receipt receipt) ∧ receipt.payload.attempt = attempt ∧
    receipt.payload.sequence = 2 ∧ receipt.payload.stage = .started

def ClaimOutcome.calls : ClaimOutcome → List FunctionCall
  | .claimed _ call _ => [call]
  | _ => []

/-- An operation that produced some calls: each for another attempt, not started before, and whose
Started receipt is durable now. -/
structure Emits (trusted : SignedRecord ExecutionGrant → Prop) (before : FunctionExecutor)
    (emitted : List FunctionCall) (after : FunctionExecutor) : Prop where
  progress : Progresses trusted before after
  distinct : (emitted.map FunctionCall.attempt).Nodup
  fresh : ∀ call ∈ emitted, ¬ Started before.state call.attempt
  started : ∀ call ∈ emitted,
    Started after.state call.attempt ∧ StartedDurable after.journal.files call.attempt
  granted : ∀ call ∈ emitted, call.attempt = call.grant.payload.attempt ∧ trusted call.grant ∧
    call.grant.payload.deployment.payload.executor = before.config.executor

omit [Crypto] in
theorem Extends.started {before after : ExecutorState} (retained : Extends before after)
    (started : Started before attempt) : Started after attempt := by
  obtain ⟨record, found, enough⟩ := started
  obtain ⟨later, inAfter, continues⟩ := retained attempt record found
  exact ⟨later, inAfter, enough.trans continues.receipts.length_le⟩

omit [Crypto] in
theorem StartedDurable.mono {before after : Files ExecutorLedgerRecord} (log : before.records <+: after.records)
    (durable : StartedDurable before attempt) : StartedDurable after attempt := by
  obtain ⟨receipt, ⟨entry, member, same⟩, facts⟩ := durable
  exact ⟨receipt, ⟨entry, log.subset member, same⟩, facts⟩

theorem Emits.nothing (progress : Progresses trusted before after) : Emits trusted before [] after :=
  ⟨progress, by simp, by simp, by simp, by simp⟩

/-- Two operations in a row emit their calls one after the other. -/
theorem Emits.append (earlier : Emits trusted before first middle) (later : Emits trusted middle second after) :
    Emits trusted before (first ++ second) after where
  progress := IsTrans.trans _ _ _ earlier.progress later.progress
  distinct := by
    rw [List.map_append, List.nodup_append]
    refine ⟨earlier.distinct, later.distinct, ?_⟩
    intro attempt member other otherMember same
    obtain ⟨call, inFirst, rfl⟩ := List.mem_map.mp member
    obtain ⟨repeated, inSecond, rfl⟩ := List.mem_map.mp otherMember
    exact later.fresh repeated inSecond (same ▸ (earlier.started call inFirst).1)
  fresh call member := by
    rcases List.mem_append.mp member with old | new
    · exact earlier.fresh call old
    · exact fun started => later.fresh call new (earlier.progress.retained.started started)
  started call member := by
    rcases List.mem_append.mp member with old | new
    · obtain ⟨started, durable⟩ := earlier.started call old
      exact ⟨later.progress.retained.started started, durable.mono later.progress.log⟩
    · exact later.started call new
  granted call member := by
    rcases List.mem_append.mp member with old | new
    · exact earlier.granted call old
    · rw [← earlier.progress.identity]
      exact later.granted call new

end

end Gawd.Executor
