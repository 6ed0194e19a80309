import Gawd.Home.Preflight
import Gawd.Logic.Simulation

/-!
The preflight is exact: its bounded shadow admits a record just when the whole state does, so the apply
after a durable append never fails half way.
-/

namespace Gawd.Home

open Gawd.Logic Gawd.Wire Gawd.Journal

/-- Two states agree on everything under the given keys; retained events are left out. -/
structure Mirrors (keys : RecordKeys) (full part : HomeState) : Prop where
  jobs : ∀ job ∈ keys.jobs,
    (full.jobs.get? job).map JobRecord.snapshot = (part.jobs.get? job).map JobRecord.snapshot
  grants : ∀ key ∈ keys.grants, full.grants.get? key = part.grants.get? key
  receipts : ∀ key ∈ keys.receipts, full.receipts.get? key = part.receipts.get? key
  marks : ∀ key ∈ keys.attempts,
    full.highestReceiptSequences.get? key = part.highestReceiptSequences.get? key
  observations : ∀ key ∈ keys.attempts, full.observationCounts.get? key = part.observationCounts.get? key
  progress : ∀ key ∈ keys.attempts,
    full.highestProgressSequences.get? key = part.highestProgressSequences.get? key
  checkpoints : ∀ key ∈ keys.attempts,
    full.highestCheckpointSequences.get? key = part.highestCheckpointSequences.get? key
  controls : ∀ key ∈ keys.controls, full.controls.get? key = part.controls.get? key
  counts : ∀ job ∈ keys.owners, full.controlCounts.get? job = part.controlCounts.get? job
  forwarded : ∀ key ∈ keys.controls, full.forwardedControls.get? key = part.forwardedControls.get? key
  spawns : ∀ key ∈ keys.spawns, full.childSpawns.get? key = part.childSpawns.get? key
  nonterminal : full.nonterminalJobs = part.nonterminalJobs
  unacknowledged : full.unacknowledgedForwardedControls = part.unacknowledgedForwardedControls
  nextGrant : full.nextGrantSequence = part.nextGrantSequence

theorem Mirrors.symm (same : Mirrors keys full part) : Mirrors keys part full := by
  cases same
  constructor <;> intros <;> symm <;> solve_by_elim

theorem get?_copyKeys [LinearOrder κ] {map : SortedMap κ υ} (key : κ) :
    (copyKeys map keys).get? key = if key ∈ keys then map.get? key else none := by
  induction keys with
  | nil => simp [copyKeys]
  | cons head rest ih =>
    unfold copyKeys
    by_cases hit : key = head
    · subst hit
      cases found : map.get? key with
      | some value => simp
      | none => simp [ih, found]
    · cases found : map.get? head with
      | some value => simp [SortedMap.get?_insert, hit, ih]
      | none => simp [hit, ih]

theorem copyKeys_mem [LinearOrder κ] {map : SortedMap κ υ} {key : κ} (member : key ∈ keys) :
    map.get? key = (copyKeys map keys).get? key := by
  rw [get?_copyKeys, if_pos member]

/-- A shadow agrees with the state it was taken from. -/
theorem shadow_mirrors (state : HomeState) (keys : RecordKeys) : Mirrors keys state (state.shadow keys) := by
  constructor
  case jobs =>
    intro job member
    simp [HomeState.shadow, get?_copyKeys, member]
    rfl
  all_goals first | rfl | exact fun _ => copyKeys_mem

/-- Inserting the same entry keeps the agreement of two maps. -/
theorem agree_insert {κ υ : Type} [LinearOrder κ] {full part : SortedMap κ υ} {keys : List κ}
    (same : ∀ key ∈ keys, full.get? key = part.get? key) (inserted : κ) (value : υ) :
    ∀ key ∈ keys, (full.insert inserted value).get? key = (part.insert inserted value).get? key := by
  intro key member
  rw [SortedMap.get?_insert, SortedMap.get?_insert, same key member]

/-- Two runs of a program from states that agree: what one admits the other admits, and they agree again. -/
abbrev Mirrored (keys : RecordKeys) (program : Ledger Unit) : HomeState → HomeState → Prop :=
  Follows (Mirrors keys) program program

theorem retainControlReceipt_follows {control : ControlId}
    {receipt : SignedRecord ExecutionReceipt} (same : Mirrors keys full part)
    (member : controlKey receipt.payload.attempt.job control ∈ keys.controls) :
    Mirrored keys (retainControlReceipt control acknowledged receipt receiptHash) full part := by
  refine .read ?_
  dsimp only
  rw [same.forwarded _ member]
  refine .check fun retained found => ⟨found, .check fun _ passed => ⟨passed, ?_⟩⟩
  split
  · exact .last same fun _ passed => passed
  · refine .bind (.store { same with forwarded := agree_insert same.forwarded _ _ }) fun _ _ _ stored => ?_
    rw [same.unacknowledged]
    refine .ite (fun _ => .check fun count counted => ⟨counted, ?_⟩) fun _ => .pure stored _
    exact .update { stored with unacknowledged := rfl }

theorem indexHomeControlReceipt_follows {receipt : SignedRecord ExecutionReceipt}
    (same : Mirrors keys full part) (member : ∀ key ∈ receiptControl receipt.payload, key ∈ keys.controls) :
    Mirrored keys (indexHomeControlReceipt receipt receiptHash) full part := by
  unfold indexHomeControlReceipt
  split
  · rename_i control stage
    exact retainControlReceipt_follows same
      (member _ (by simp [receiptControl, stage]))
  · rename_i control disposition detail stage
    exact retainControlReceipt_follows same
      (member _ (by simp [receiptControl, stage]))
  · exact .pure same _

theorem raiseMarks_mirrors {sequence : Nat}
    (same : Mirrors keys full part) (member : key ∈ keys.attempts) :
    Mirrors keys (full.raiseMarks key sequence stage) (part.raiseMarks key sequence stage) := by
  refine { same with marks := ?_, observations := ?_, progress := ?_, checkpoints := ?_ }
  all_goals simp only [HomeState.raiseMarks, same.marks key member, same.observations key member,
    same.progress key member, same.checkpoints key member]
  · exact agree_insert same.marks _ _
  all_goals split
  · exact agree_insert same.observations _ _
  · exact same.observations
  · exact agree_insert same.progress _ _
  · exact same.progress
  · exact agree_insert same.checkpoints _ _
  · exact same.checkpoints

theorem requireNewObservation_mirrors (same : Mirrors keys full part)
    (member : key ∈ keys.attempts) : requireNewObservation full key stage = requireNewObservation part key stage := by
  cases stage <;> simp [requireNewObservation, same.progress key member, same.checkpoints key member]

/-- A Job that is there on one side is there on the other, with the same snapshot. -/
theorem Mirrors.found (same : Mirrors keys full part) (member : job ∈ keys.jobs)
    (found : part.jobs.get? job = some record) :
    ∃ other, full.jobs.get? job = some other ∧ other.snapshot = record.snapshot := by
  have equal := same.jobs job member
  rw [found] at equal
  simpa using equal

theorem Mirrors.contains (same : Mirrors keys full part) (member : job ∈ keys.jobs) :
    full.jobs.contains job = part.jobs.contains job := by
  have equal := congrArg Option.isSome (same.jobs job member)
  simpa [SortedMap.contains] using equal

theorem agree_insertJob (same : Mirrors keys full part) {left right : JobRecord}
    (snapshot : left.snapshot = right.snapshot) :
    ∀ other ∈ keys.jobs, ((full.jobs.insert job left).get? other).map JobRecord.snapshot =
      ((part.jobs.insert job right).get? other).map JobRecord.snapshot := by
  intro other member
  rw [SortedMap.get?_insert, SortedMap.get?_insert]
  split
  · simp [snapshot]
  · exact same.jobs other member

theorem checkLineage_follows {spec : JobSpec} (same : Mirrors keys full part)
    (member : ∀ parent ∈ spec.parent, parent.job ∈ keys.jobs) (passed : checkLineage config part spec = .ok ()) :
    checkLineage config full spec = .ok () := by
  unfold checkLineage at *
  cases parent : spec.parent with
  | none => simpa [parent] using passed
  | some handle =>
    simp only [parent, bind_eq_ok, orError_eq_ok, reject_eq_ok] at passed ⊢
    obtain ⟨record, found, inherits⟩ := passed
    obtain ⟨other, held, snapshot⟩ := same.found (member handle parent) found
    exact ⟨other, held, by rwa [snapshot]⟩

theorem applySubmitted_follows {event : SignedRecord JobEvent} {spec : JobSpec}
    (same : Mirrors keys full part) (owned : event.payload.handle.job ∈ keys.jobs)
    (member : ∀ parent ∈ spec.parent, parent.job ∈ keys.jobs) :
    Mirrored keys (applySubmitted config event spec) full part := by
  refine .read ?_
  dsimp only
  rw [same.contains owned, same.nonterminal]
  refine .check fun _ passed => ⟨passed, .check fun _ passed => ⟨passed, .check fun _ passed => ?_⟩⟩
  refine ⟨checkLineage_follows same member passed, .check fun count counted => ⟨counted, ?_⟩⟩
  exact .store { same with nonterminal := rfl, jobs := agree_insertJob same rfl }

theorem indexHomeControl_follows {control : ControlId}
    (same : Mirrors keys full part) (indexed : controlKey job control ∈ keys.controls) (owned : job ∈ keys.owners) :
    Mirrored keys (indexHomeControl job control requestHash) full part := by
  refine .read ?_
  rw [same.controls _ indexed, same.counts _ owned]
  cases part.controls.get? (controlKey job control) with
  | some existing => exact .last same fun _ passed => passed
  | none =>
    refine .check fun _ passed => ⟨passed, .store ?_⟩
    exact { same with
      counts := agree_insert same.counts _ _
      controls := agree_insert same.controls _ _ }

theorem forwardControl_follows {control : ControlId}
    (same : Mirrors keys full part) (indexed : controlKey job control ∈ keys.controls) :
    Mirrored keys (forwardControl config job control attempt) full part := by
  refine .check fun _ passed => ⟨passed, .read ?_⟩
  rw [same.forwarded _ indexed, same.unacknowledged]
  cases part.forwardedControls.get? (controlKey job control) with
  | some existing => exact .last same fun _ passed => passed
  | none =>
    refine .bind (.store { same with
      forwarded := agree_insert same.forwarded _ _
      unacknowledged := rfl }) fun _ _ _ stored => ?_
    exact .check fun count counted => ⟨counted, .update { stored with unacknowledged := rfl }⟩

theorem recordSpawn_follows
    (same : Mirrors keys full part) (indexed : key ∈ keys.spawns) (owned : job ∈ keys.owners) :
    Mirrored keys (recordSpawn job key spawn) full part := by
  refine .read ?_
  rw [same.spawns _ indexed, same.counts _ owned]
  cases part.childSpawns.get? key with
  | some existing => exact .last same fun _ passed => passed
  | none =>
    refine .check fun _ passed => ⟨passed, .store ?_⟩
    exact { same with
      counts := agree_insert same.counts _ _
      spawns := agree_insert same.spawns _ _ }

section

variable [Crypto] {keys : RecordKeys} {full part : HomeState}

theorem applyGrant_follows {grant : SignedRecord ExecutionGrant}
    (same : Mirrors keys full part) (member : attemptKey grant.payload.attempt ∈ keys.grants) :
    Mirrored keys (applyGrant config grant) full part := by
  refine .check fun _ passed => ⟨passed, .read ?_⟩
  dsimp only
  rw [same.grants _ member]
  cases part.grants.get? (attemptKey grant.payload.attempt) with
  | some existing =>
    refine .check fun _ passed => ⟨passed, .update { same with nextGrant := ?_ }⟩
    simp only [same.nextGrant]
  | none =>
    refine .bind (.store { same with grants := agree_insert same.grants _ grant }) fun _ _ _ same => ?_
    refine .update { same with nextGrant := ?_ }
    simp only [same.nextGrant]

theorem retainReceipt_follows {receipt : SignedRecord ExecutionReceipt} (same : Mirrors keys full part)
    (member : receiptKey receipt.payload ∈ keys.receipts) :
    Mirrored keys (retainReceipt receipt) full part := by
  refine .read (.bind (.store { same with receipts := agree_insert same.receipts _ _ }) fun _ _ _ stored => ?_)
  rw [same.receipts _ member]
  exact .last stored fun _ passed => passed

theorem applyReceipt_follows {receipt : SignedRecord ExecutionReceipt} (same : Mirrors keys full part)
    (granted : attemptKey receipt.payload.attempt ∈ keys.grants)
    (attempted : attemptKey receipt.payload.attempt ∈ keys.attempts)
    (received : receiptKey receipt.payload ∈ keys.receipts)
    (controlled : ∀ key ∈ receiptControl receipt.payload, key ∈ keys.controls) :
    Mirrored keys (applyReceipt receipt) full part := by
  have settle : Mirrored keys (do
        indexHomeControlReceipt receipt (canonicalHash receipt)
        retainReceipt receipt
        modify fun state => state.raiseMarks (attemptKey receipt.payload.attempt) receipt.payload.sequence
          receipt.payload.stage) full part := by
    refine .bind (indexHomeControlReceipt_follows same controlled) fun _ _ _ indexed => ?_
    refine .bind (retainReceipt_follows indexed received) fun _ _ _ retained => ?_
    exact .update (raiseMarks_mirrors retained attempted)
  refine .read ?_
  dsimp only
  rw [same.grants _ granted, same.marks _ attempted, same.observations _ attempted,
    requireNewObservation_mirrors same attempted]
  refine .check fun grant found => ⟨found, .check fun _ verified => ⟨verified, .check fun _ passed => ⟨passed, ?_⟩⟩⟩
  refine .check fun _ passed => ⟨passed, ?_⟩
  split
  · exact settle
  · exact .check fun _ passed => ⟨passed, settle⟩

/-- The keys that one event reads and writes. -/
structure Covered (keys : RecordKeys) (event : JobEvent) : Prop where
  jobs : ∀ job ∈ touchedJobs event, job ∈ keys.jobs
  owners : event.handle.job ∈ keys.owners
  controls : ∀ key ∈ indexedControl event, key ∈ keys.controls
  spawns : ∀ key ∈ indexedSpawn event, key ∈ keys.spawns

omit [Crypto] in
theorem Covered.owned {event : JobEvent} (covered : Covered keys event) : event.handle.job ∈ keys.jobs :=
  covered.jobs _ List.mem_cons_self

theorem indexEvent_follows {event : SignedRecord JobEvent}
    (same : Mirrors keys full part) (covered : Covered keys event.payload) :
    Mirrored keys (indexEvent config event root) full part := by
  unfold indexEvent
  dsimp only
  split
  · rename_i control requestHash access kind
    have indexed := covered.controls (controlKey event.payload.handle.job control) (by simp [indexedControl, kind])
    exact indexHomeControl_follows same indexed covered.owners
  · rename_i request attempt kind
    have indexed := covered.controls (controlKey event.payload.handle.job request.payload.control)
      (by simp [indexedControl, kind])
    refine .bind (indexHomeControl_follows same indexed covered.owners) fun _ _ _ counted => ?_
    split
    · exact forwardControl_follows counted indexed
    · exact .pure counted _
  · rename_i parentAttempt parentEventHash spawnKey child spawnRoot childRequestHash kind
    have indexed := covered.spawns (spawnKeyOf parentAttempt spawnKey) (by simp [indexedSpawn, kind])
    exact .check fun _ passed => ⟨passed, recordSpawn_follows same indexed covered.owners⟩
  · exact .pure same _

omit [Crypto] in
theorem modifyJob_follows (change : JobRecord → JobRecord) (same : Mirrors keys full part)
    (member : job ∈ keys.jobs) (respects : ∀ left right : JobRecord, left.snapshot = right.snapshot →
      (change left).snapshot = (change right).snapshot) :
    Mirrored keys (modifyJob job change) full part := by
  refine .update ?_
  cases found : part.jobs.get? job with
  | some record =>
    obtain ⟨other, held, snapshot⟩ := same.found member found
    rw [held]
    exact { same with jobs := agree_insertJob same (respects _ _ snapshot) }
  | none =>
    have absent : full.jobs.get? job = none := by
      have equal := same.jobs job member
      rw [found] at equal
      simpa using equal
    rw [absent]
    exact same

omit [Crypto] in
theorem releaseJob_follows (same : Mirrors keys full part) :
    Mirrored keys (releaseJob ended) full part := by
  refine .ite (fun _ => .read ?_) fun _ => .pure same _
  rw [same.nonterminal]
  exact .check fun count counted => ⟨counted, .store { same with nonterminal := rfl }⟩

section

variable (config : HomeConfig) (event : SignedRecord JobEvent) (same : Mirrors keys full part)
  (covered : Covered keys event.payload)

include config event same covered

theorem applyTransition_follows : Mirrored keys (applyTransition config event) full part := by
  refine .read (.checkWith fun record found => ?_)
  obtain ⟨other, held, snapshot⟩ := same.found covered.owned (orError_eq_ok.mp found)
  refine ⟨other, orError_eq_ok.mpr held, ?_⟩
  rw [snapshot]
  refine .check fun _ checked => ⟨checked, ?_⟩
  refine .bind (modifyJob_follows _ same covered.owned ?_) fun _ _ _ advanced => ?_
  · intro left right equal
    simp only [equal]
  refine .bind (indexEvent_follows advanced covered) fun _ _ _ indexed => ?_
  refine .bind (modifyJob_follows _ indexed covered.owned fun _ _ equal => equal) fun _ _ _ logged => ?_
  exact releaseJob_follows logged

theorem applyJobEvent_follows : Mirrored keys (applyJobEvent config event) full part := by
  refine .check fun _ passed => ⟨passed, ?_⟩
  split
  · rename_i spec kind
    refine applySubmitted_follows same covered.owned fun parent member => ?_
    refine covered.jobs _ (List.mem_cons_of_mem _ ?_)
    rw [Option.mem_def] at member
    simp [kind, member]
  · exact applyTransition_follows config event same covered

end

theorem applyEvents_follows
    (same : Mirrors keys full part) (covered : ∀ event ∈ events, Covered keys event.payload) :
    Mirrored keys (applyEvents config events) full part := by
  induction events generalizing full part with
  | nil => exact .pure same _
  | cons event rest ih =>
    refine .bind (applyJobEvent_follows config event same (covered event List.mem_cons_self))
      fun _ _ _ applied => ?_
    exact ih applied fun later member => covered later (List.mem_cons_of_mem _ member)

omit [Crypto] in
/-- The keys of a record cover each of its events. -/
theorem keys_covered {record : HomeLedgerRecord} {event : SignedRecord JobEvent} (member : event ∈ record.events) :
    Covered record.keys event.payload where
  jobs job touched := by
    refine List.mem_append_left _ (List.mem_append_left _ ?_)
    exact List.mem_flatMap.mpr ⟨event, member, touched⟩
  owners := List.mem_map.mpr ⟨event, member, rfl⟩
  controls key indexed := List.mem_append_right _ (List.mem_filterMap.mpr ⟨event, member, indexed⟩)
  spawns key indexed := List.mem_filterMap.mpr ⟨event, member, indexed⟩

theorem applyLedgerRecord_follows {record : HomeLedgerRecord}
    (same : Mirrors record.keys full part) :
    Mirrored record.keys (applyLedgerRecord config record) full part := by
  refine .check fun _ valid => ⟨valid, .bind (?_ : Follows (Mirrors record.keys) _ _ _ _) fun _ _ _ granted => ?_⟩
  · cases present : record.grant with
    | none => exact .pure same _
    | some grant => exact applyGrant_follows same (by simp [HomeLedgerRecord.keys, present])
  refine .bind (?_ : Follows (Mirrors record.keys) _ _ _ _) fun _ _ _ settled => ?_
  · cases present : record.receipt with
    | none => exact .pure granted _
    | some receipt =>
      refine applyReceipt_follows granted ?_ ?_ ?_ fun key control => ?_
      all_goals simp [HomeLedgerRecord.keys, present]
      exact .inl control
  · exact applyEvents_follows settled fun event member => keys_covered member

/-- A record is admitted by its shadow exactly when it is admitted by the whole state. -/
theorem preflight_eq_ok : preflightLedgerTransition config state record = .ok () ↔
      ∃ after, applyLedgerRecord config record state = .ok () after := by
  have same := shadow_mirrors state record.keys
  unfold preflightLedgerTransition
  constructor
  · intro passed
    split at passed
    · rename_i tried
      obtain ⟨after, run, -⟩ := applyLedgerRecord_follows same _ _ tried
      exact ⟨after, run⟩
    · cases passed
  · rintro ⟨after, run⟩
    obtain ⟨shadow, tried, -⟩ := applyLedgerRecord_follows same.symm _ _ run
    rw [tried]

end

end Gawd.Home
