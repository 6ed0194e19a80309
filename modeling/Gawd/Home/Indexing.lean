import Gawd.Home.AppendBoundary
import Gawd.Home.Finality

/-!
What an applied record does to the indexes of a Home: the request of each Job, the controls that were accepted, and
the children that were spawned.
-/

namespace Gawd.Home

open Gawd.Logic Gawd.Wire Gawd.Journal

/-- The indexes of requests, controls and children are as they were. -/
structure IndexesKept (before after : HomeState) : Prop where
  requestHashes : after.requestHashes = before.requestHashes
  controls : after.controls = before.controls
  childSpawns : after.childSpawns = before.childSpawns

instance : Std.Refl IndexesKept := ⟨fun _ => ⟨rfl, rfl, rfl⟩⟩

instance : IsTrans HomeState IndexesKept where
  trans _ _ _ one two := ⟨two.requestHashes.trans one.requestHashes, two.controls.trans one.controls,
    two.childSpawns.trans one.childSpawns⟩

/-- Two accounts of one spawn. -/
def SameSpawn (one two : ChildSpawnRecord) : Prop :=
  one.parentEventHash = two.parentEventHash ∧ one.childRequestHash = two.childRequestHash ∧
    one.child = two.child ∧ one.root = two.root

/-- The child that an event spawns, under its key. -/
def spawnFact (event : SignedRecord JobEvent) : Option (SpawnKey × ChildSpawnRecord) :=
  match event.payload.kind with
  | .childSpawned parentAttempt parentEventHash spawnKey child root childRequestHash =>
    some (spawnKeyOf parentAttempt spawnKey, ⟨parentEventHash, childRequestHash, child, root, event⟩)
  | _ => none

/-- The request of each Job after an event. -/
def requestsAfter (requests : SortedMap JobId Text) (event : JobEvent) : SortedMap JobId Text :=
  match event.kind with
  | .submitted spec => requests.insert event.handle.job spec.requestHash
  | _ => requests

theorem requestsAfter_of_other {event : JobEvent} (other : ∀ spec, event.kind ≠ .submitted spec) :
    requestsAfter requests event = requests := by
  unfold requestsAfter
  split
  · rename_i spec kind
    exact absurd kind (other spec)
  · rfl

theorem requestsAfter_missed {event : JobEvent} {requests : SortedMap JobId Text} (missed : job ≠ event.handle.job) :
    (requestsAfter requests event).get? job = requests.get? job := by
  unfold requestsAfter
  split
  · exact SortedMap.get?_insert_of_ne requests _ missed
  · rfl

/-- A specification continues its parent's root, or names itself as the root. -/
def Inherits (state : HomeState) (spec : JobSpec) : Prop :=
  match spec.parent with
  | some parent => ∃ record, state.jobs.get? parent.job = some record ∧ spec.root = record.snapshot.spec.root
  | none => spec.root = spec.handle

variable {α : Type}

theorem wp_recordSpawn {before : HomeState} :
    wp (recordSpawn job key spawn)
      (fun _ after => after.requestHashes = before.requestHashes ∧ after.controls = before.controls ∧
        SortedMap.Retains SameSpawn (some (key, spawn)) before.childSpawns after.childSpawns) (fun _ _ => True) before := by
  rw [recordSpawn, wp_bind, wp_get]
  split
  · rename_i existing found
    rw [wp_lift]
    refine ⟨fun _ same => ⟨rfl, rfl, ?_⟩, fun _ _ => trivial⟩
    simp only [reject_eq_ok, not_or, not_not] at same
    exact .present found same
  · rename_i absent
    refine wp_assume fun _ _ => ?_
    rw [wp_set]
    exact ⟨rfl, rfl, .fresh absent⟩

section

variable [Crypto]

/-- The control that an event accepts, under its key. -/
def controlFact (event : JobEvent) : Option (ControlKey × Text) :=
  match event.kind with
  | .accessUpdated control requestHash _ => some (controlKey event.handle.job control, requestHash)
  | .controlRequested request _ =>
    some (controlKey event.handle.job request.payload.control, canonicalHash request)
  | _ => none

/-- What an event does to the indexes, and what a submission inherits. -/
structure Files (event : SignedRecord JobEvent) (before after : HomeState) : Prop where
  requests : after.requestHashes = requestsAfter before.requestHashes event.payload
  controls : SortedMap.Retains Eq (controlFact event.payload) before.controls after.controls
  spawns : SortedMap.Retains SameSpawn (spawnFact event) before.childSpawns after.childSpawns
  inherits : ∀ spec, event.payload.kind = .submitted spec → Inherits before spec

/-- The events of a record, applied and filed one after the other. -/
inductive EventsFiled : List (SignedRecord JobEvent) → HomeState → HomeState → Prop where
  | nil : EventsFiled [] state state
  | cons : EventApplied event before middle → Files event before middle → EventsFiled rest middle after →
      EventsFiled (event :: rest) before after

/-- A whole record was applied: its private parts touch no Job and no index of Jobs. -/
structure RecordFiled (record : HomeLedgerRecord) (before after : HomeState) : Prop where
  verified : ∀ event ∈ record.events, verifyJobEvent event = .ok ()
  children : requireChildren record.events = .ok ()
  filed : ∃ settled, settled.jobs = before.jobs ∧ IndexesKept before settled ∧ EventsFiled record.events settled after

/-- Only the index of controls takes a new fact. -/
structure ControlFiled (fact : Option (ControlKey × Text)) (before after : HomeState) : Prop where
  requestHashes : after.requestHashes = before.requestHashes
  controls : SortedMap.Retains Eq fact before.controls after.controls
  childSpawns : after.childSpawns = before.childSpawns

omit [Crypto] in
theorem wp_indexHomeControl {control : ControlId} :
    wp (indexHomeControl job control requestHash)
      (fun _ after => ControlFiled (some (controlKey job control, requestHash)) before after) (fun _ _ => True) before := by
  rw [indexHomeControl, wp_bind, wp_get]
  split
  · rename_i existing found
    rw [wp_lift]
    refine ⟨fun _ same => ⟨rfl, ?_, rfl⟩, fun _ _ => trivial⟩
    rw [reject_eq_ok, not_not] at same
    exact .present found same
  · rename_i absent
    refine wp_assume fun _ _ => ?_
    rw [wp_set]
    exact ⟨rfl, .fresh absent, rfl⟩

/-- The indexes of controls and of children take what an event says. -/
structure Indexed (event : SignedRecord JobEvent) (before after : HomeState) : Prop where
  requestHashes : after.requestHashes = before.requestHashes
  controls : SortedMap.Retains Eq (controlFact event.payload) before.controls after.controls
  childSpawns : SortedMap.Retains SameSpawn (spawnFact event) before.childSpawns after.childSpawns

variable {event : SignedRecord JobEvent} {before after : HomeState}

theorem Indexed.idle (uncontrolled : controlFact event.payload = none) (unspawned : spawnFact event = none)
    (kept : IndexesKept before after) : Indexed event before after where
  requestHashes := kept.requestHashes
  controls := by
    rw [uncontrolled, kept.controls]
    exact .idle
  childSpawns := by
    rw [unspawned, kept.childSpawns]
    exact .idle

theorem Indexed.control (controlled : controlFact event.payload = some fact) (unspawned : spawnFact event = none)
    (filed : ControlFiled (some fact) before after) : Indexed event before after where
  requestHashes := filed.requestHashes
  controls := by
    rw [controlled]
    exact filed.controls
  childSpawns := by
    rw [unspawned, filed.childSpawns]
    exact .idle

theorem wp_indexEvent_indexed :
    wp (indexEvent config event root) (fun _ after => Indexed event before after) (fun _ _ => True) before := by
  unfold indexEvent
  dsimp only
  split
  · rename_i control hash access kind
    refine wp_weaken wp_indexHomeControl fun _ after => ?_
    exact Indexed.control (by simp [controlFact, kind]) (by simp [spawnFact, kind])
  · rename_i request attempt kind
    rw [wp_bind]
    refine wp_weaken wp_indexHomeControl fun _ middle filed => ?_
    have fact : controlFact event.payload =
        some (controlKey event.payload.handle.job request.payload.control, canonicalHash request) := by
      simp [controlFact, kind]
    have indexed : ∀ after, IndexesKept middle after → Indexed event before after := by
      rintro after ⟨requests, controls, spawns⟩
      refine Indexed.control fact (by simp [spawnFact, kind]) ?_
      exact ⟨requests.trans filed.requestHashes, controls ▸ filed.controls, spawns.trans filed.childSpawns⟩
    split
    · refine wp_weaken (forwardControl_forwardingOnly middle) fun _ after moved => indexed after ?_
      rw [moved]
      exact ⟨rfl, rfl, rfl⟩
    · exact indexed middle (Std.Refl.refl middle)
  · rename_i kind
    refine wp_assume fun _ _ => ?_
    refine wp_weaken wp_recordSpawn fun _ after filed => ?_
    obtain ⟨requests, controls, spawns⟩ := filed
    refine ⟨requests, ?_, ?_⟩
    · simp only [controlFact, kind]
      rw [controls]
      exact .idle
    · simp only [spawnFact, kind]
      exact spawns
  · rename_i noAccess noControl noSpawn
    refine Indexed.idle ?_ ?_ (Std.Refl.refl before)
    · unfold controlFact
      split
      · rename_i kind
        exact (noAccess _ _ _ kind).elim
      · rename_i kind
        exact (noControl _ _ kind).elim
      · rfl
    · unfold spawnFact
      split
      · rename_i kind
        exact (noSpawn _ _ _ _ _ _ kind).elim
      · rfl

theorem wp_applyJobEvent_files :
    wp (applyJobEvent config event) (fun _ after => Files event before after) (fun _ _ => True) before := by
  refine wp_jobEvent (fun spec kind => wp_submitted fun _ _ _ _ descends _ => ?_) fun kind =>
    wp_transition (fun _ _ => wp_indexEvent_indexed) fun record middle indexed count _ _ same _ filed _ => ?_
  · refine ⟨by simp [requestsAfter, kind], ?_, ?_, fun other same => ?_⟩
    · simp only [controlFact, kind]
      exact .idle
    · simp only [spawnFact, kind]
      exact .idle
    · rw [kind] at same
      obtain ⟨⟩ := same
      unfold checkLineage at descends
      unfold Inherits
      cases named : spec.parent with
      | some parent =>
        simp only [named, bind_eq_ok, orError_eq_ok, reject_eq_ok, not_or, not_not] at descends
        obtain ⟨record, found, _, root, _⟩ := descends
        exact ⟨record, found, root⟩
      | none =>
        simp only [named, reject_eq_ok, not_not] at descends
        exact descends
  · subst same
    exact ⟨filed.requestHashes.trans (requestsAfter_of_other kind).symm, filed.controls, filed.childSpawns,
      fun spec submits => absurd submits (kind spec)⟩

theorem wp_applyEvents_filed : ∀ events before,
    wp (applyEvents config events) (fun _ after => EventsFiled events before after) (fun _ _ => True) before :=
  wp_eachEvent (fun _ => .nil) fun _ _ _ =>
    wp_weaken (wp_and wp_applyJobEvent wp_applyJobEvent_files)
      fun _ _ both _ later => .cons both.1 both.2 later

/-- The private parts of a record touch no Job and no index of Jobs. -/
structure JobsKept (before after : HomeState) : Prop extends IndexesKept before after where
  jobs : after.jobs = before.jobs

/-- What a record that the ledger admits does to the Jobs and their indexes. -/
theorem recordFiled_of_run (run : applyLedgerRecord config record before = .ok () after) :
    RecordFiled record before after := by
  have grants : ∀ grant state,
      wp (applyGrant config grant) (fun _ after => JobsKept state after) (fun _ _ => True) state := fun grant state => by
    refine wp_weaken (wp_applyGrant_only config grant state) fun _ after only => ?_
    rw [only]
    exact ⟨⟨rfl, rfl, rfl⟩, rfl⟩
  have receipts : ∀ receipt state,
      wp (applyReceipt receipt) (fun _ after => JobsKept state after) (fun _ _ => True) state := fun receipt state => by
    refine wp_settled (wp_any _ _) fun _ indexed _ _ _ moved _ => ?_
    rw [moved]
    exact ⟨⟨rfl, rfl, rfl⟩, rfl⟩
  have spec : wp (applyLedgerRecord config record) (fun _ after => RecordFiled record before after) (fun _ _ => True)
      before := by
    refine wp_record grants receipts fun granted settled valid first second => ?_
    have one := first.of_refl fun _ => ⟨⟨rfl, rfl, rfl⟩, rfl⟩
    have two := second.of_refl fun _ => ⟨⟨rfl, rfl, rfl⟩, rfl⟩
    have verified := (validateLedgerRecord_eq_ok valid).1
    simp only [validateLedgerRecord, bind_eq_ok] at valid
    obtain ⟨_, _, _, _, _, _, _, _, children⟩ := valid
    refine wp_weaken (wp_applyEvents_filed record.events settled) fun _ after third => ?_
    exact ⟨verified, children, settled, two.jobs.trans one.jobs,
      IsTrans.trans _ _ _ one.toIndexesKept two.toIndexesKept, third⟩
  have filed := wp_ok spec run
  exact filed

/-- A record of one event, taken apart. -/
theorem RecordFiled.single {before : HomeState} (filed : RecordFiled ⟨grant, receipt, [event]⟩ before after) :
    ∃ settled, settled.jobs = before.jobs ∧ IndexesKept before settled ∧ EventApplied event settled after ∧
      Files event settled after := by
  obtain ⟨settled, jobs, kept, events⟩ := filed.filed
  cases events with
  | cons applied files rest =>
    cases rest
    exact ⟨settled, jobs, kept, applied, files⟩

/-! What is remembered -/

section

omit [Crypto]

/-- Only who may read and control a Job changes. -/
def SpecKept (before after : JobSpec) : Prop :=
  after = { before with access := after.access }

theorem SpecKept.trans (one : SpecKept first second) (two : SpecKept second third) : SpecKept first third := by
  unfold SpecKept at *
  rw [two, one]

theorem advanceSnapshot_specKept (snapshot : JobSnapshot) (event : JobEvent) :
    SpecKept snapshot.spec (advanceSnapshot snapshot event).spec := by
  unfold SpecKept advanceSnapshot
  dsimp only
  split <;> rfl

end

/-- What a Home never forgets: what it was asked for, what it accepted and what it spawned. -/
structure Remembers (before after : HomeState) : Prop where
  jobs : ∀ job record, before.jobs.get? job = some record → ∃ next, after.jobs.get? job = some next ∧
    record.events <+: next.events ∧ SpecKept record.snapshot.spec next.snapshot.spec
  requests : ∀ job record, before.jobs.get? job = some record →
    after.requestHashes.get? job = before.requestHashes.get? job
  controls : ∀ key hash, before.controls.get? key = some hash → after.controls.get? key = some hash
  spawns : ∀ key spawn, before.childSpawns.get? key = some spawn → after.childSpawns.get? key = some spawn

omit [Crypto] in
theorem Remembers.refl (state : HomeState) : Remembers state state where
  jobs _ record found := ⟨record, found, List.prefix_rfl, rfl⟩
  requests _ _ _ := rfl
  controls _ _ held := held
  spawns _ _ held := held

omit [Crypto] in
theorem Remembers.trans (first second third : HomeState) (one : Remembers first second)
    (two : Remembers second third) : Remembers first third where
  jobs job record found := by
    obtain ⟨next, held, longer, kept⟩ := one.jobs job record found
    obtain ⟨last, held', longer', kept'⟩ := two.jobs job next held
    exact ⟨last, held', longer.trans longer', kept.trans kept'⟩
  requests job record found := by
    obtain ⟨next, held, _⟩ := one.jobs job record found
    exact (two.requests job next held).trans (one.requests job record found)
  controls key hash held := two.controls key hash (one.controls key hash held)
  spawns key spawn held := two.spawns key spawn (one.spawns key spawn held)

theorem Files.remembers (applied : EventApplied event before after) (files : Files event before after) :
    Remembers before after := by
  obtain ⟨next, step, lookup⟩ := applied.stepped
  refine ⟨fun job record found => ?_, fun job record found => ?_, fun key hash => files.controls.kept,
    fun key spawn => files.spawns.kept⟩
  · rw [lookup job]
    by_cases hit : job = event.payload.handle.job
    · subst hit
      rw [found] at step
      cases step with
      | advanced _ _ =>
        exact ⟨_, if_pos rfl, List.prefix_append _ _, advanceSnapshot_specKept _ _⟩
    · exact ⟨record, by rw [if_neg hit, found], List.prefix_rfl, rfl⟩
  · rw [files.requests]
    by_cases hit : job = event.payload.handle.job
    · subst hit
      rw [found] at step
      cases step with
      | advanced other _ => rw [requestsAfter_of_other other]
    · exact requestsAfter_missed hit

theorem EventsFiled.remembers (filed : EventsFiled events before after) : Remembers before after := by
  induction filed with
  | nil => exact .refl _
  | cons applied files _ ih => exact .trans _ _ _ (files.remembers applied) ih

theorem RecordFiled.remembers (filed : RecordFiled record before after) : Remembers before after := by
  obtain ⟨settled, same, kept, events⟩ := filed.filed
  have later := events.remembers
  refine ⟨fun job record found => later.jobs job record (same ▸ found), fun job record found => ?_,
    fun key hash held => later.controls key hash (kept.controls ▸ held),
    fun key spawn held => later.spawns key spawn (kept.childSpawns ▸ held)⟩
  rw [later.requests job record (same ▸ found), kept.requestHashes]

/-- Along any ledger nothing is forgotten. -/
theorem Grown.remembers (shorter : Grown allowed ledger before) (longer : Grown allowed (ledger ++ later) after) :
    Remembers before after := by
  induction later using List.reverseRecOn generalizing after with
  | nil =>
    rw [List.append_nil] at longer
    rw [shorter.unique longer]
    exact .refl after
  | append_singleton later record ih =>
    rw [← List.append_assoc] at longer
    obtain ⟨_, middle, earlier, _, _, run⟩ := longer.last
    exact .trans _ _ _ (ih earlier) (recordFiled_of_run run).remembers

/-! What the indexes stand for -/

/-- A Job's first event submits it, under its own name. -/
structure Founded (job : JobId) (record : JobRecord) : Prop where
  submitted : ∃ event spec rest, record.events = event :: rest ∧ event.payload.kind = .submitted spec ∧
    SpecKept spec record.snapshot.spec
  handle : record.snapshot.spec.handle.job = job
  named : ∀ event ∈ record.events, event.payload.handle.job = job

/-- Each Job is indexed by its request, and what its events say is indexed too. -/
structure Catalogued (state : HomeState) : Prop where
  founded : EachJob Founded state
  requests : EachJob (fun job record => state.requestHashes.get? job = some record.snapshot.spec.requestHash) state
  asked : ∀ job hash, state.requestHashes.get? job = some hash → ∃ record, state.jobs.get? job = some record
  controls : EachJob (fun _ record => ∀ event ∈ record.events, ∀ fact, controlFact event.payload = some fact →
    state.controls.get? fact.1 = some fact.2) state
  spawns : EachJob (fun _ record => ∀ event ∈ record.events, ∀ fact, spawnFact event = some fact →
    ∃ known, state.childSpawns.get? fact.1 = some known ∧ SameSpawn known fact.2) state

theorem JobStep.founded {before : Option JobRecord} {after : JobRecord} (step : JobStep event before after)
    (verified : verifyJobEvent event = .ok ())
    (founded : ∀ record ∈ before, Founded event.payload.handle.job record) :
    Founded event.payload.handle.job after := by
  cases step with
  | @submitted spec kind _ _ =>
    have handle := (JobEvent.submitted_of_valid (verifyJobEvent_valid verified) kind).1
    exact ⟨⟨event, spec, [], rfl, kind, rfl⟩, congrArg JobHandle.job handle, by simp⟩
  | @advanced record _ _ =>
    obtain ⟨⟨first, spec, rest, events, kind, kept⟩, job, named⟩ := founded record rfl
    have later := advanceSnapshot_specKept record.snapshot event.payload
    refine ⟨⟨first, spec, rest ++ [event], by rw [events]; rfl, kind, kept.trans later⟩, ?_, ?_⟩
    · rw [later]
      exact job
    · intro other member
      rcases List.mem_append.mp member with old | new
      · exact named other old
      · rw [List.mem_singleton.mp new]

section

omit [Crypto]

/-- What the events of a Job tell is known after one more of them. -/
theorem JobStep.tells {before : Option JobRecord} {after : JobRecord} {tells : SignedRecord JobEvent → Option α}
    {known : α → Prop} (step : JobStep event before after)
    (old : ∀ record ∈ before, ∀ event ∈ record.events, ∀ fact, tells event = some fact → known fact)
    (new : ∀ fact, tells event = some fact → known fact) :
    ∀ event ∈ after.events, ∀ fact, tells event = some fact → known fact := by
  cases step with
  | submitted _ _ _ =>
    intro other member
    rw [List.mem_singleton] at member
    rw [member]
    exact new
  | @advanced record _ _ =>
    intro other member
    rcases List.mem_append.mp member with earlier | last
    · exact old record rfl other earlier
    · rw [List.mem_singleton] at last
      rw [last]
      exact new

/-- What holds of the Job that an event moves and of all others, holds of each. -/
theorem EventApplied.eachJob (applied : EventApplied event before after)
    (moved : ∀ next, JobStep event (before.jobs.get? event.payload.handle.job) next →
      condition event.payload.handle.job next)
    (others : ∀ job record, job ≠ event.payload.handle.job → before.jobs.get? job = some record → condition job record) :
    EachJob condition after := by
  obtain ⟨next, step, lookup⟩ := applied.stepped
  intro job record found
  rw [lookup job] at found
  split at found
  · rename_i hit
    obtain ⟨⟩ := found
    rw [hit]
    exact moved next step
  · rename_i missed
    exact others job record missed found

/-- The request of the Job that an event moves. -/
theorem requestsAfter_moved {next : JobRecord}
    (requests : EachJob (fun job record => before.requestHashes.get? job = some record.snapshot.spec.requestHash) before)
    (step : JobStep event (before.jobs.get? event.payload.handle.job) next) :
    (requestsAfter before.requestHashes event.payload).get? event.payload.handle.job =
      some next.snapshot.spec.requestHash := by
  cases found : before.jobs.get? event.payload.handle.job with
  | none =>
    rw [found] at step
    cases step with
    | submitted kind _ _ =>
      simp only [requestsAfter, kind]
      exact SortedMap.get?_insert_self _ _ _
  | some record =>
    rw [found] at step
    cases step with
    | advanced other _ =>
      rw [requestsAfter_of_other other, requests _ record found, advanceSnapshot_specKept]

end

theorem Files.catalogued (files : Files event before after) (applied : EventApplied event before after)
    (verified : verifyJobEvent event = .ok ()) (catalogued : Catalogued before) : Catalogued after where
  founded := applied.eachJob (fun next step => step.founded verified fun record found => catalogued.founded _ record found)
    fun job record _ found => catalogued.founded job record found
  requests := by
    rw [files.requests]
    refine applied.eachJob (fun next step => requestsAfter_moved catalogued.requests step) fun job record missed found => ?_
    rw [requestsAfter_missed missed]
    exact catalogued.requests job record found
  asked := by
    intro job hash held
    obtain ⟨next, _, lookup⟩ := applied.stepped
    rw [lookup job]
    split
    · exact ⟨next, rfl⟩
    · rename_i missed
      rw [files.requests, requestsAfter_missed missed] at held
      exact catalogued.asked job hash held
  controls := by
    refine applied.eachJob (fun next step => ?_) fun job record _ found event member fact told => ?_
    · refine step.tells (fun record found event member fact told => ?_) fun fact told => ?_
      · exact files.controls.kept (catalogued.controls _ record found event member fact told)
      · have retains := files.controls
        rw [told] at retains
        obtain ⟨old, held, rfl | rfl⟩ := retains.holds <;> exact held
    · exact files.controls.kept (catalogued.controls job record found event member fact told)
  spawns := by
    have kept : ∀ fact : SpawnKey × ChildSpawnRecord,
        (∃ known, before.childSpawns.get? fact.1 = some known ∧ SameSpawn known fact.2) →
        ∃ known, after.childSpawns.get? fact.1 = some known ∧ SameSpawn known fact.2 := by
      rintro fact ⟨known, held, same⟩
      exact ⟨known, files.spawns.kept held, same⟩
    refine applied.eachJob (fun next step => ?_) fun job record _ found event member fact told => ?_
    · refine step.tells (fun record found event member fact told => ?_) fun fact told => ?_
      · exact kept fact (catalogued.spawns _ record found event member fact told)
      · have retains := files.spawns
        rw [told] at retains
        obtain ⟨old, held, rfl | same⟩ := retains.holds
        · exact ⟨fact.2, held, rfl, rfl, rfl, rfl⟩
        · exact ⟨old, held, same⟩
    · exact kept fact (catalogued.spawns job record found event member fact told)

theorem EventsFiled.catalogued (filed : EventsFiled events before after)
    (verified : ∀ event ∈ events, verifyJobEvent event = .ok ()) (catalogued : Catalogued before) :
    Catalogued after := by
  induction filed with
  | nil => exact catalogued
  | cons applied files _ ih =>
    obtain ⟨first, rest⟩ := List.forall_mem_cons.mp verified
    exact ih rest (files.catalogued applied first catalogued)

theorem RecordFiled.catalogued (filed : RecordFiled record before after) (catalogued : Catalogued before) :
    Catalogued after := by
  obtain ⟨settled, jobs, ⟨requests, controls, spawns⟩, events⟩ := filed.filed
  cases catalogued
  refine events.catalogued filed.verified ⟨?_, ?_, ?_, ?_, ?_⟩
  all_goals
    simp only [EachJob, jobs, requests, controls, spawns]
    assumption

theorem catalogued_initial : Catalogued .initial :=
  ⟨fun _ _ found => (nomatch found), fun _ _ found => (nomatch found), fun _ _ found => (nomatch found),
    fun _ _ found => (nomatch found), fun _ _ found => (nomatch found)⟩

/-- The indexes of every running Home stand for its Jobs. -/
theorem catalogued_of_reachable [DecidableEq ι] {fleet : Fleet ι} (reached : fleet.system.Reachable world) :
    Fleet.EachProcess (fun home => Catalogued home.state) world := by
  exact Fleet.state_invariant catalogued_initial
    (fun _ _ _ _ run catalogued => (recordFiled_of_run run).catalogued catalogued) reached

/-- The events of a Job are numbered from one without gaps. -/
def Sequenced (_ : JobId) (record : JobRecord) : Prop :=
  record.events.map (fun event => event.payload.sequence) = List.range' 1 record.events.length ∧
    record.snapshot.lastSequence = record.events.length

omit [Crypto] in
theorem JobStep.sequenced {before : Option JobRecord} {after : JobRecord}
    (step : JobStep event before after) (old : ∀ record ∈ before, Sequenced job record) : Sequenced job after := by
  cases step with
  | submitted _ first _ => exact ⟨by simp [first], rfl⟩
  | @advanced record _ checked =>
    obtain ⟨numbers, last⟩ := old record rfl
    have next := (checkTransition_eq_ok checked).1
    rw [last] at next
    refine ⟨?_, by simp [advanceSnapshot, next]⟩
    rw [List.map_append, numbers, List.length_append, List.length_singleton, List.range'_concat]
    simp [next, Nat.add_comm]

theorem sequenced_of_reachable [DecidableEq ι] {fleet : Fleet ι} (reached : fleet.system.Reachable world) :
    Fleet.EachProcess (fun home => EachJob Sequenced home.state) world := by
  refine Fleet.state_invariant (fun _ _ found => (nomatch found)) ?_ reached
  intro config record before after run
  exact (recordApplied_of_run run).eachJob fun _ _ _ _ step old => step.sequenced old

end

end Gawd.Home
