import Gawd.Home.Acceptance
import Gawd.Home.Indexing

/-!
Replaying a control that a Home has accepted.
-/

namespace Gawd.Home

open Gawd.Logic Gawd.Wire Gawd.Journal

variable {epoch : Nat} {request : SignedRecord JobControl} {before : FunctionHome} {after : JobRecord}

theorem CacheOnly.config {after : FunctionHome} (cached : CacheOnly before after) : after.config = before.config := by
  rw [cached]

theorem CacheOnly.state {after : FunctionHome} (cached : CacheOnly before after) : after.state = before.state := by
  rw [cached]

theorem CacheOnly.authoritative {after : FunctionHome} (cached : CacheOnly before after) :
    after.authoritative = before.authoritative := by
  rw [cached]
  rfl

theorem ownsOrControls_owner {config : HomeConfig} (owner : signer = config.home.text) :
    ownsOrControls config snapshot signer = true := by
  simp [ownsOrControls, owner]

section

variable [Crypto]

/-- What a control brings from outside is admitted: the value of a steer, and all that a child is prepared from. -/
def StillAdmitted (host : Host) (home : FunctionHome) (request : SignedRecord JobControl) : Prop :=
  match request.payload.kind with
  | .steer value => ∃ after, requireValue host value home = .ok () after
  | .proposeChild _ _ _ _ submit resolution deployment =>
    ∃ prepared after, prepareSubmissionSignedBy host submit resolution deployment request.signer home = .ok prepared after
  | _ => True

def isProposal : JobControlKind → Bool
  | .proposeChild .. => true
  | _ => false

/-! Controls of a Job -/

/-- The events that accept a control. -/
def accepts (control : ControlId) (controlHash : Text) (event : SignedRecord JobEvent) : Bool :=
  match event.payload.kind with
  | .controlRequested durable _ => durable.payload.control = control
  | .accessUpdated existing requestHash _ => existing = control ∧ requestHash = controlHash
  | _ => false

omit [Crypto] in
theorem acceptedControl_eq {events : List (SignedRecord JobEvent)} {control : ControlId} :
    acceptedControl events control controlHash =
      orError (.state "control dedup state is incomplete") (events.find? (accepts control controlHash)) :=
  rfl

/-- What stays true of a control once it is accepted. -/
structure ControlAccepted (home : HomeId) (epoch : Nat) (request : SignedRecord JobControl) (event : SignedRecord JobEvent)
    (state : HomeState) : Prop where
  valid : validate request = .ok ()
  signed : ¬ (request.schema ≠ .job ∨ request.verify = false)
  addressed : ¬ (request.payload.handle.home ≠ home ∨ request.payload.expectedHomeEpoch ≠ epoch)
  owned : ¬ (isAccessUpdate request.payload.kind ∧ request.signer ≠ home.text)
  indexed : state.controls.get? (controlKey request.payload.handle.job request.payload.control) = some (canonicalHash request)
  job : ∃ job, state.jobs.get? request.payload.handle.job = some job ∧
    job.events.find? (accepts request.payload.control (canonicalHash request)) = some event

variable {event : SignedRecord JobEvent}

theorem ControlAccepted.remembered {before after : HomeState}
    (accepted : ControlAccepted home epoch request event before) (remembers : Remembers before after) :
    ControlAccepted home epoch request event after := by
  obtain ⟨job, held, found⟩ := accepted.job
  obtain ⟨next, held', longer, _⟩ := remembers.jobs _ job held
  exact { accepted with
    indexed := remembers.controls _ _ accepted.indexed
    job := ⟨next, held', longer.find?_eq_some found⟩ }

variable {home : FunctionHome} {host : Host}

/-- The value of an admitted steer is there. -/
theorem requireSteerValue_runs (admitted : StillAdmitted host home request) :
    ∃ after, requireSteerValue host request.payload.kind home = .ok () after ∧ CacheOnly home after := by
  unfold StillAdmitted at admitted
  cases kind : request.payload.kind with
  | steer value =>
    simp only [kind] at admitted
    obtain ⟨after, run⟩ := admitted
    have cached := wp_ok (requireValue_cacheOnly home) run
    exact ⟨after, run, cached⟩
  | cancel _ | accessUpdate _ _ _ _ | proposeChild _ _ _ _ _ _ _ => exact ⟨home, rfl, Std.Refl.refl home⟩

variable {record : JobRecord}

/-- An event of a Job that accepts a control has that control indexed. -/
theorem Catalogued.unaccepted {state : HomeState} {control : ControlId}
    (catalogued : Catalogued state) (held : state.jobs.get? job = some record)
    (absent : state.controls.get? (controlKey job control) = none) :
    record.events.find? (accepts control controlHash) = none := by
  rw [List.find?_eq_none]
  intro event member accepted
  have named := (catalogued.founded job record held).named event member
  have told : ∃ hash, controlFact event.payload = some (controlKey job control, hash) := by
    unfold accepts at accepted
    unfold controlFact
    rw [named]
    split at accepted
    · rename_i kind
      rw [kind, ← of_decide_eq_true accepted]
      exact ⟨_, rfl⟩
    · rename_i kind
      rw [kind, ← (of_decide_eq_true accepted).1]
      exact ⟨_, rfl⟩
    · cases accepted
  obtain ⟨hash, told⟩ := told
  rw [catalogued.controls job record held event member _ told] at absent
  cases absent

/-- The event of a control accepts it. -/
theorem controlEvent_accepts (made : controlEvent snapshot request = .ok event.payload.kind) :
    controlFact event.payload =
        some (controlKey event.payload.handle.job request.payload.control, canonicalHash request) ∧
      accepts request.payload.control (canonicalHash request) event = true := by
  unfold controlEvent at made
  split at made
  · simp only [bind_eq_ok, pure_eq_ok] at made
    obtain ⟨access, _, kind⟩ := made
    simp [controlFact, accepts, ← kind]
  · have kind := Except.ok.inj made
    simp [controlFact, accepts, ← kind]

/-- A control that is new to its Job, once accepted. -/
theorem wp_acceptControl {job : JobRecord}
    (catalogued : Catalogued home.state) (held : home.state.jobs.get? request.payload.handle.job = some job)
    (absent : home.state.controls.get? (controlKey request.payload.handle.job request.payload.control) = none) :
    wp (acceptControl host job request)
      (fun event after =>
        after.state.controls.get? (controlKey request.payload.handle.job request.payload.control) =
          some (canonicalHash request) ∧
        ∃ job, after.state.jobs.get? request.payload.handle.job = some job ∧
          job.events.find? (accepts request.payload.control (canonicalHash request)) = some event)
      (fun _ _ => True) home := by
  rw [acceptControl, wp_bind, wp_get]
  refine wp_assume fun _ _ => wp_assume fun kind made => ?_
  refine wp_signEventWithReceipt (fun event payload => ?_) fun _ => ⟨⟩
  rw [wp_bind]
  refine wp_persistAndApply (fun _ => trivial) (fun _ _ _ _ _ _ => trivial) fun entry journal state _ _ _ run => ?_
  have same : event.payload.kind = kind := congrArg JobEvent.kind payload
  have named : event.payload.handle.job = request.payload.handle.job :=
    (congrArg (fun event => JobEvent.handle event |>.job) payload).trans (catalogued.founded _ job held).handle
  rw [← same] at made
  obtain ⟨told, accepted⟩ := controlEvent_accepts made
  obtain ⟨settled, jobs, kept, applied, files⟩ := (recordFiled_of_run run).single
  obtain ⟨next, step, lookup⟩ := applied.stepped
  rw [named] at told step lookup
  refine ⟨?_, next, by rw [lookup, if_pos rfl], ?_⟩
  · have retains := files.controls
    rw [told, kept.controls] at retains
    obtain ⟨old, now, rfl | rfl⟩ := retains.holds <;> exact now
  · rw [jobs, held] at step
    cases step with
    | advanced _ _ =>
      rw [List.find?_append, catalogued.unaccepted held absent, Option.none_or]
      simp [accepted]

theorem wp_controlJob (catalogued : Catalogued home.state) :
    wp (controlJob host request)
      (fun event after => ControlAccepted home.config.home home.config.epoch request event after.state) (fun _ _ => True)
      home := by
  rw [controlJob]
  refine wp_assume fun _ valid => ?_
  refine wp_along requireSteerValue_cacheOnly (fun _ _ _ => trivial) fun _ cached moved => ?_
  refine wp_assume fun _ signed => ?_
  refine wp_reads ensureAuthoritativeState_reads (fun _ => ?_) fun _ => ⟨⟩
  rw [wp_bind, wp_get]
  refine wp_assume fun job held => wp_assume fun _ addressed =>
    wp_assume fun _ _ => wp_assume fun _ owned => ?_
  rw [← moved.state] at catalogued
  rw [← moved.config]
  have held := findJob_eq_ok held
  split
  · rename_i existing indexed
    refine wp_assume fun _ unchanged => ?_
    rw [reject_eq_ok, not_not] at unchanged
    rw [wp_lift]
    refine ⟨fun event found => ⟨mapError_eq_ok.mp valid, reject_eq_ok.mp signed, reject_eq_ok.mp addressed,
      reject_eq_ok.mp owned, unchanged ▸ indexed, job, held, ?_⟩, fun _ _ => trivial⟩
    rw [acceptedControl_eq] at found
    exact orError_eq_ok.mp found
  · rename_i absent
    refine wp_weaken (wp_acceptControl catalogued held absent) fun event after made => ?_
    exact ⟨mapError_eq_ok.mp valid, reject_eq_ok.mp signed, reject_eq_ok.mp addressed, reject_eq_ok.mp owned, made.1, made.2⟩

/-! Children -/

/-- A request is prepared in one way. -/
theorem PreparedFor.unique {request : SignedRecord JobSubmit}
    (first : PreparedFor request resolution deployment one) (second : PreparedFor request resolution deployment two) :
    one = two := by
  obtain ⟨⟨home, job⟩, hash, spec⟩ := one
  obtain ⟨⟨home', job'⟩, hash', spec'⟩ := two
  obtain rfl : job = job' := Except.ok.inj (first.job.symm.trans second.job)
  obtain rfl : home = home' := first.home.trans second.home.symm
  obtain rfl : hash = hash' := Except.ok.inj (first.hash.symm.trans second.hash)
  rw [show spec = spec' from first.spec.trans second.spec.symm]

/-- What stays true of a child proposal once it is accepted. -/
structure SpawnAccepted (home : HomeId) (epoch : Nat) (request : SignedRecord JobControl) (proposal : Proposal)
    (prepared : PreparedSubmission) (event : SignedRecord JobEvent) (state : HomeState) : Prop where
  valid : validate request = .ok ()
  signed : ¬ (request.schema ≠ .job ∨ request.verify = false)
  proposes : proposalOf request.payload.kind = some proposal
  signer : ¬ proposal.submit.signer ≠ request.signer
  addressed : ¬ (request.payload.handle.home ≠ home ∨ request.payload.expectedHomeEpoch ≠ epoch)
  prepares : PreparedFor proposal.submit proposal.resolution proposal.deployment prepared
  hash : ¬ prepared.requestHash ≠ proposal.childRequestHash
  parent : ¬ prepared.spec.parent ≠ some request.payload.handle
  distinct : ¬ prepared.handle = request.payload.handle
  spawned : ∃ record spec spawn, state.jobs.get? request.payload.handle.job = some record ∧
    childSpec record prepared = .ok spec ∧ namesParentEvent record proposal = true ∧
    state.childSpawns.get? (spawnKeyOf proposal.parentAttempt proposal.spawnKey) = some spawn ∧
    ¬ (spawn.parentEventHash ≠ proposal.parentEventHash ∨ spawn.childRequestHash ≠ proposal.childRequestHash ∨
      spawn.child ≠ prepared.handle ∨ spawn.root ≠ spec.root) ∧ spawn.event = event

theorem childSpec_kept {before : JobRecord}
    (kept : SpecKept before.snapshot.spec after.snapshot.spec) : childSpec after prepared = childSpec before prepared := by
  unfold childSpec
  rw [kept]

theorem namesParentEvent_of_prefix {before : JobRecord}
    (longer : before.events <+: after.events) (named : namesParentEvent before proposal = true) :
    namesParentEvent after proposal = true := by
  unfold namesParentEvent at *
  rw [List.any_eq_true] at *
  obtain ⟨event, member, names⟩ := named
  exact ⟨event, longer.subset member, names⟩

variable {prepared : PreparedSubmission} {proposal : Proposal}

theorem SpawnAccepted.remembered {home : HomeId} {before after : HomeState}
    (accepted : SpawnAccepted home epoch request proposal prepared event before)
    (remembers : Remembers before after) : SpawnAccepted home epoch request proposal prepared event after := by
  obtain ⟨record, spec, spawn, held, inherited, named, known, same, told⟩ := accepted.spawned
  obtain ⟨next, held', longer, kept⟩ := remembers.jobs _ record held
  exact { accepted with
    spawned := ⟨next, spec, spawn, held', (childSpec_kept kept).trans inherited,
      namesParentEvent_of_prefix longer named, remembers.spawns _ _ known, same, told⟩ }

omit [Crypto] in
theorem proposalOf_eq_some (proposes : proposalOf kind = some proposal) :
    kind = .proposeChild proposal.parentAttempt proposal.parentEventHash proposal.spawnKey proposal.childRequestHash
      proposal.submit proposal.resolution proposal.deployment := by
  cases kind <;> cases proposes
  rfl

theorem control_of_proposal (proposes : proposalOf request.payload.kind = some proposal) :
    control host request = (do ensureAuthoritativeState; proposeChild host request) := by
  rw [control, proposalOf_eq_some proposes]

/-- A spawn that is new, once accepted. -/
theorem wp_spawnChild {spec : JobSpec}
    (absent : home.state.childSpawns.get? (spawnKeyOf proposal.parentAttempt proposal.spawnKey) = none) :
    wp (spawnChild host request record proposal spec)
      (fun event after => Remembers home.state after.state ∧
        after.state.childSpawns.get? (spawnKeyOf proposal.parentAttempt proposal.spawnKey) =
          some ⟨proposal.parentEventHash, proposal.childRequestHash, spec.handle, spec.root, event⟩)
      (fun _ _ => True) home := by
  rw [spawnChild, wp_bind, wp_get]
  refine wp_assume fun _ _ => wp_assume fun _ _ =>
    wp_assume fun _ _ => ?_
  refine wp_signEventWithReceipt (fun parentEvent payload => ?_) fun _ => ⟨⟩
  refine wp_signEventWithReceipt (fun childEvent _ => ?_) fun _ => ⟨⟩
  rw [wp_bind]
  refine wp_persistAndApply (fun _ => trivial) (fun _ _ _ _ _ _ => trivial) fun entry journal state _ _ _ run => ?_
  have filed := recordFiled_of_run run
  refine ⟨filed.remembers, ?_⟩
  obtain ⟨settled, _, kept, events⟩ := filed.filed
  cases events with
  | cons applied files rest =>
    have told : spawnFact parentEvent = some (spawnKeyOf proposal.parentAttempt proposal.spawnKey,
        ⟨proposal.parentEventHash, proposal.childRequestHash, spec.handle, spec.root, parentEvent⟩) := by
      unfold spawnFact
      rw [payload]
      rfl
    refine rest.remembers.spawns _ _ ?_
    rw [files.spawns.lookup, kept.childSpawns, absent, told]
    simp

theorem wp_proposePrepared (valid : validate request = .ok ())
    (signed : ¬ (request.schema ≠ .job ∨ request.verify = false))
    (proposes : proposalOf request.payload.kind = some proposal) (signer : ¬ proposal.submit.signer ≠ request.signer)
    (prepares : PreparedFor proposal.submit proposal.resolution proposal.deployment prepared) :
    wp (proposePrepared host request proposal prepared)
      (fun event after => SpawnAccepted home.config.home home.config.epoch request proposal prepared event after.state)
      (fun _ _ => True) home := by
  rw [proposePrepared]
  refine wp_assume fun _ hash => wp_assume fun _ parent =>
    wp_assume fun _ distinct => ?_
  refine wp_reads ensureAuthoritativeState_reads (fun _ => ?_) fun _ => ⟨⟩
  rw [wp_bind, wp_get]
  refine wp_assume fun found controlled => wp_assume fun spec inherited =>
    wp_assume fun _ _ => wp_assume fun _ named => ?_
  simp only [controlledParent, bind_eq_ok, pure_eq_ok, reject_eq_ok] at controlled
  obtain ⟨_, addressed, record, held, _, _, rfl⟩ := controlled
  have held := findJob_eq_ok held
  have named : namesParentEvent record proposal = true := by simpa using reject_eq_ok.mp named
  split
  · rename_i spawn known
    refine wp_assume fun _ same => ?_
    exact ⟨valid, signed, proposes, signer, addressed, prepares, reject_eq_ok.mp hash, reject_eq_ok.mp parent,
      reject_eq_ok.mp distinct, record, spec, spawn, held, inherited, named, known, reject_eq_ok.mp same, rfl⟩
  · rename_i absent
    refine wp_weaken (wp_spawnChild absent) fun event after made => ?_
    obtain ⟨remembers, known⟩ := made
    obtain ⟨next, held', longer, kept⟩ := remembers.jobs _ record held
    have child : spec.handle = prepared.handle := by
      rw [childSpec_eq_ok inherited, prepares.spec]
      rfl
    refine ⟨valid, signed, proposes, signer, addressed, prepares, reject_eq_ok.mp hash, reject_eq_ok.mp parent,
      reject_eq_ok.mp distinct, next, spec, _, held', (childSpec_kept kept).trans inherited,
      namesParentEvent_of_prefix longer named, known, ?_, rfl⟩
    simp [child]

theorem wp_proposeChild :
    wp (proposeChild host request)
      (fun event after => ∃ proposal prepared,
        SpawnAccepted home.config.home home.config.epoch request proposal prepared event after.state)
      (fun _ _ => True) home := by
  rw [proposeChild]
  refine wp_assume fun _ valid => wp_assume fun _ signed =>
    wp_assume fun proposal proposes => wp_assume fun _ signer => ?_
  refine wp_reads ensureAuthoritativeState_reads (fun _ => ?_) fun _ => ⟨⟩
  rw [wp_bind, wp_get]
  refine wp_assume fun _ _ => ?_
  rw [wp_bind]
  refine wp_weaken wp_prepareSubmissionSignedBy fun prepared cached both => ?_
  obtain ⟨moved, prepares⟩ := both
  refine wp_weaken (wp_proposePrepared (mapError_eq_ok.mp valid) (reject_eq_ok.mp signed)
    (orError_eq_ok.mp proposes) (reject_eq_ok.mp signer) prepares) fun event after accepted => ?_
  rw [moved.config] at accepted
  exact ⟨proposal, prepared, accepted⟩

/-- A control was accepted, as a control of its Job or as a spawn. -/
def Accepted (home : HomeId) (epoch : Nat) (request : SignedRecord JobControl) (event : SignedRecord JobEvent)
    (state : HomeState) : Prop :=
  if isProposal request.payload.kind then ∃ proposal prepared, SpawnAccepted home epoch request proposal prepared event state
  else ControlAccepted home epoch request event state

theorem accepted_of_run {after : FunctionHome} (catalogued : Catalogued home.state)
    (run : control host request home = .ok event after) :
    Accepted home.config.home home.config.epoch request event after.state := by
  have spec : wp (control host request)
      (fun event after => Accepted home.config.home home.config.epoch request event after.state) (fun _ _ => True) home := by
    rw [control]
    refine wp_reads ensureAuthoritativeState_reads (fun _ => ?_) fun _ => ⟨⟩
    unfold Accepted
    cases kind : request.payload.kind with
    | proposeChild _ _ _ _ _ _ _ => exact wp_proposeChild
    | _ => exact wp_controlJob catalogued
  have accepted := wp_ok spec run
  exact accepted

theorem Accepted.remembered {home : HomeId} {before after : HomeState}
    (accepted : Accepted home epoch request event before) (remembers : Remembers before after) :
    Accepted home epoch request event after := by
  unfold Accepted at *
  split_ifs at * with proposal
  · obtain ⟨proposal, prepared, accepted⟩ := accepted
    exact ⟨proposal, prepared, accepted.remembered remembers⟩
  · exact accepted.remembered remembers

section

variable (healthy : home.authoritative = .ok ()) (entitled : ∀ job,
    home.state.jobs.get? request.payload.handle.job = some job → ownsOrControls home.config job.snapshot request.signer = true)
  (admitted : StillAdmitted host home request)

include healthy entitled admitted

/-- A healthy Home answers an accepted control with the event that accepted it. -/
theorem ControlAccepted.replays
    (accepted : ControlAccepted home.config.home home.config.epoch request event home.state)
    (other : isProposal request.payload.kind = false) :
    ∃ after, control host request home = .ok event after ∧ CacheOnly home after := by
  obtain ⟨cached, required, moved⟩ := requireSteerValue_runs admitted
  obtain ⟨job, held, found⟩ := accepted.job
  have authority := moved.authoritative.trans healthy
  refine ⟨cached, ?_, moved⟩
  rw [run_eq_ok, control]
  refine wp_run (ensureAuthoritativeState_runs healthy) ?_
  split
  · rename_i kind
    rw [kind] at other
    cases other
  rw [controlJob]
  refine wp_pass (mapError_eq_ok.mpr accepted.valid) ?_
  refine wp_run required ?_
  refine wp_unless accepted.signed ?_
  refine wp_run (ensureAuthoritativeState_runs authority) ?_
  rw [wp_bind, wp_get, moved.state, moved.config]
  refine wp_pass (orError_eq_ok.mpr held) ?_
  refine wp_unless accepted.addressed ?_
  refine wp_unless (by simp [entitled job held]) ?_
  refine wp_unless accepted.owned ?_
  rw [accepted.indexed]
  dsimp only
  refine wp_unless (by simp) ?_
  rw [acceptedControl_eq, found, wp_lift]
  exact ⟨fun _ same => ⟨(Except.ok.inj same).symm, rfl⟩, nofun⟩

/-- A healthy Home answers an accepted proposal with the event of the spawn, as long as the parent is open. -/
theorem SpawnAccepted.replays
    (accepted : SpawnAccepted home.config.home home.config.epoch request proposal prepared event home.state) :
    wp (control host request)
      (fun answer after => answer = event ∧ CacheOnly home after ∧
        ∀ record, home.state.jobs.get? request.payload.handle.job = some record → record.snapshot.state.isTerminal = false)
      (fun _ _ => ∃ record, home.state.jobs.get? request.payload.handle.job = some record ∧
        record.snapshot.state.isTerminal = true) home := by
  rw [StillAdmitted, proposalOf_eq_some accepted.proposes] at admitted
  obtain ⟨again, cached, run⟩ := admitted
  obtain ⟨moved, prepares⟩ := wp_ok wp_prepareSubmissionSignedBy run
  obtain rfl := prepares.unique accepted.prepares
  obtain ⟨record, spec, spawn, held, inherited, named, known, same, told⟩ := accepted.spawned
  have authority := moved.authoritative.trans healthy
  have controlled : controlledParent home request = .ok record := by
    simp only [controlledParent, bind_eq_ok, reject_eq_ok, pure_eq_ok]
    exact ⟨(), accepted.addressed, record, orError_eq_ok.mpr held, (), by simp [entitled record held], rfl⟩
  have controlled' : controlledParent cached request = .ok record := by
    rw [← controlled, controlledParent, controlledParent, moved.config, moved.state]
  rw [control_of_proposal accepted.proposes]
  refine wp_run (ensureAuthoritativeState_runs healthy) ?_
  rw [proposeChild]
  refine wp_pass (mapError_eq_ok.mpr accepted.valid) ?_
  refine wp_unless accepted.signed ?_
  refine wp_pass (orError_eq_ok.mpr accepted.proposes) ?_
  refine wp_unless accepted.signer ?_
  refine wp_run (ensureAuthoritativeState_runs healthy) ?_
  rw [wp_bind, wp_get]
  refine wp_pass controlled ?_
  refine wp_run run ?_
  rw [proposePrepared]
  refine wp_unless accepted.hash ?_
  refine wp_unless accepted.parent ?_
  refine wp_unless accepted.distinct ?_
  refine wp_run (ensureAuthoritativeState_runs authority) ?_
  rw [wp_bind, wp_get]
  refine wp_pass controlled' ?_
  refine wp_pass inherited ?_
  refine wp_check (fun _ ended => ⟨record, held, ?_⟩) fun _ open' => ?_
  · unfold reject at ended
    split at ended
    · assumption
    · cases ended
  refine wp_unless (by simp [named]) ?_
  rw [moved.state, known]
  dsimp only
  refine wp_unless same ?_
  refine ⟨told, moved, fun other found => ?_⟩
  rw [held] at found
  obtain ⟨⟩ := found
  simpa using reject_eq_ok.mp open'

/-- An accepted control is answered again just when it is not a proposal to a Job that has ended. -/
theorem Accepted.replays (accepted : Accepted home.config.home home.config.epoch request event home.state) :
    (∃ after, control host request home = .ok event after ∧ after.state = home.state ∧ after.journal = home.journal) ↔
      ¬ (isProposal request.payload.kind = true ∧ ∃ record,
        home.state.jobs.get? request.payload.handle.job = some record ∧ record.snapshot.state.isTerminal = true) := by
  unfold Accepted at accepted
  by_cases proposal : isProposal request.payload.kind = true
  · rw [if_pos proposal] at accepted
    obtain ⟨_, _, accepted⟩ := accepted
    have spec := accepted.replays healthy entitled admitted
    constructor
    · rintro ⟨after, run, _, _⟩ ⟨_, record, held, ended⟩
      have now := wp_ok spec run
      rw [now.2.2 record held] at ended
      cases ended
    · intro open'
      have runs : wp (control host request) (fun answer after => answer = event ∧ CacheOnly home after)
          (fun _ _ => False) home :=
        wp_mono spec (fun _ _ made => ⟨made.1, made.2.1⟩) fun _ _ ended => open' ⟨proposal, ended⟩
      obtain ⟨answer, after, run, rfl, cached⟩ := exists_of_wp runs
      exact ⟨after, run, cached.ledgerKept.2, cached.ledgerKept.1⟩
  · rw [if_neg proposal] at accepted
    obtain ⟨after, run, cached⟩ := accepted.replays healthy entitled admitted (eq_false_of_ne_true proposal)
    exact iff_of_true ⟨after, run, cached.ledgerKept.2, cached.ledgerKept.1⟩ fun both => proposal both.1

end

namespace Fleet

variable {ι : Type} [DecidableEq ι] {fleet : Fleet ι} {world middle later : World ι} {root : ι}

/-- A root forgets nothing. -/
theorem remembers_of_leads (identified : HandoffsIdentified) (reached : fleet.system.Reachable world)
    (run : fleet.system.Leads world later) {home now : FunctionHome} (running : (world root).process? = some home)
    (running' : (later root).process? = some now) : Remembers home.state now.state := by
  have grown := (processSound_of_reachable identified reached running).grown
  have grown' := (processSound_of_reachable identified (reached.leads run) running').grown
  rw [← observed_free fun _ _ _ => trivial] at reached run
  have advances := (advances_of_leads identified anything_free reached run root).ledger
  rw [Root.ledger_of_process running, Root.ledger_of_process running'] at advances
  obtain ⟨more, longer⟩ : home.journal.events <+: now.journal.events := advances.map _
  rw [← longer] at grown'
  exact grown.remembers grown'

/-- Replaying an accepted control. Whatever the roots of the Home do after a control was accepted, its exact replay at
the same root, which stands for the same epoch, is answered with the same event and leaves the ledger alone, unless
it proposes a child to a Job that has ended. -/
theorem control_replay (identified : HandoffsIdentified) (reached : fleet.system.Reachable world)
    {home accepted now : FunctionHome} {host again : Host} {request : SignedRecord JobControl} {event : SignedRecord JobEvent}
    (running : (world root).process? = some home) (run : control host request home = .ok event accepted)
    (step : fleet.system.step world (root, .operate host (.control request)) middle)
    (later' : fleet.system.Leads middle later) (running' : (later root).process? = some now)
    (healthy : now.authoritative = .ok ())
    (entitled : ∀ job, now.state.jobs.get? request.payload.handle.job = some job →
      ownsOrControls now.config job.snapshot request.signer = true)
    (admitted : StillAdmitted again now request) :
    (∃ after, control again request now = .ok event after ∧ after.state = now.state ∧ after.journal = now.journal) ↔
      ¬ (isProposal request.payload.kind = true ∧ ∃ record,
        now.state.jobs.get? request.payload.handle.job = some record ∧ record.snapshot.state.isTerminal = true) := by
  have reached' := reached.step step
  have performed : (middle root).process? = some accepted := by
    obtain ⟨_, rfl⟩ := step
    rw [Function.update_self, Root.process?_operate running, Operation.perform, finalState_of_run run]
  have taken := accepted_of_run (catalogued_of_reachable reached root home running) run
  have kept := taken.remembered (remembers_of_leads identified reached' later' performed running')
  have sound := processSound_of_reachable identified reached running
  have sound' := processSound_of_reachable identified (reached'.leads later') running'
  rw [sound.owner, sound.epoch, ← sound'.owner, ← sound'.epoch] at kept
  exact kept.replays healthy entitled admitted

end Fleet

end

namespace Sample

open Wire.Sample

def cancelRequest : SignedRecord JobControl :=
  signed .job rootKey ⟨⟨home, job⟩, 1, ⟨"cancel"⟩, none, .cancel "enough"⟩

section

attribute [local instance] Wire.Sample.collisionFree

/-- The cancellation of a Job that waits is answered again after it has ended the Job. -/
theorem control_replay_cancelled : ∃ first event accepted, (world submitted ()).process? = some first ∧
    control host cancelRequest first = .ok event accepted ∧
    ∃ after, control host cancelRequest accepted = .ok event after ∧ after.state = accepted.state ∧
      after.journal = accepted.journal := by
  obtain ⟨first, running, event, accepted, run, healthy⟩ : ∃ first ∈ (world submitted ()).process?, ∃ event accepted,
      control host cancelRequest first = .ok event accepted ∧ accepted.authoritative = .ok () := by decide +kernel
  have step := world_step submitted (.operate host (.control cancelRequest)) rfl
  have running' : (world (submitted ++ [.operate host (.control cancelRequest)]) ()).process? = some accepted := by
    obtain ⟨_, same⟩ := step
    rw [same, Function.update_self, Root.process?_operate running, Operation.perform, finalState_of_run run]
  have owner := (Fleet.processSound_of_reachable handoffsIdentified (submitted_reachable.step step) running').owner
  have entitled : ∀ job, accepted.state.jobs.get? cancelRequest.payload.handle.job = some job →
      ownsOrControls accepted.config job.snapshot cancelRequest.signer = true :=
    fun job _ => ownsOrControls_owner (congrArg HomeId.text owner).symm
  have admitted : StillAdmitted host accepted cancelRequest := trivial
  have open' : ¬ (isProposal cancelRequest.payload.kind = true ∧ ∃ record,
      accepted.state.jobs.get? cancelRequest.payload.handle.job = some record ∧
        record.snapshot.state.isTerminal = true) := fun both => absurd both.1 (by decide)
  have answered := (Fleet.control_replay handoffsIdentified submitted_reachable running run step .refl running' healthy
    entitled admitted).mpr open'
  exact ⟨first, event, accepted, running, run, answered⟩

end

/-- A digest of bytes that tells a child's key from its parent's. -/
@[reducible] def keyed : Crypto where
  sha256 bytes := 121 - (bytes.getLast?.map UInt8.toNat).getD 0
  canonicalDigest _ := 0
  encodedLen _ := 0
  verify _ _ := true

def childRequest : SignedRecord JobSubmit :=
  signed .job rootKey
    ⟨home, "child", .id function, value, .atMostOnce, false, some ⟨home, job⟩, [], ⟨[], []⟩, [], [], none⟩

def proposal : SignedRecord JobControl :=
  signed .job rootKey ⟨⟨home, job⟩, 1, ⟨"spawn"⟩, none,
    .proposeChild (attempt 1) (.sha256 0) "spawn" (.sha256 0) childRequest resolution deployment⟩

section

attribute [local instance] keyed

/-- A Job is on its way. -/
def granted : List Command := [.openHome host config, .operate host (submit .atMostOnce), .operate host issue]

/-- It has spawned a child. -/
def spawned : List Command := granted ++ [.operate host (.control proposal)]

/-- It has spawned a child and succeeded. -/
def parentEnded : List Command :=
  spawned ++ [.operate host (.applyExecutorReceipt (receipt 1 1 (.succeeded value)))]

/-- The proposal of a child that was accepted is refused once the parent has succeeded, although nothing else is in
the way of its replay. -/
theorem proposal_refused_after_parent : ∃ first event accepted now after,
    fleet.system.Reachable (world granted) ∧ (world granted ()).process? = some first ∧
      control host proposal first = .ok event accepted ∧
      fleet.system.step (world granted) ((), .operate host (.control proposal)) (world spawned) ∧
      fleet.system.Leads (world spawned) (world parentEnded) ∧ (world parentEnded ()).process? = some now ∧
      now.authoritative = .ok () ∧ now.config.home.text = proposal.signer ∧ StillAdmitted host now proposal ∧
      control host proposal now = .error (.state "child proposal arrived after terminal parent state") after := by
  obtain ⟨first, running, now, running', ⟨event, accepted, taken, _⟩, healthy, owner, ⟨prepared, cached, preparing, _⟩,
      _, after, refused, rfl⟩ : ∃ first ∈ (world granted ()).process?, ∃ now ∈ (world parentEnded ()).process?,
      (∃ event accepted, control host proposal first = .ok event accepted ∧ True) ∧ now.authoritative = .ok () ∧
      now.config.home.text = proposal.signer ∧ (∃ prepared cached,
        prepareSubmissionSignedBy host childRequest resolution deployment rootKey now = .ok prepared cached ∧ True) ∧
      ∃ error after, control host proposal now = .error error after ∧
        error = .state "child proposal arrived after terminal parent state" := by decide +kernel
  have step := world_step granted (.operate host (.control proposal)) rfl
  have reached : fleet.system.Reachable (world granted) := world_reachable (by simp [granted, Ours]; rfl)
  have run : fleet.system.Leads (world spawned) (world parentEnded) :=
    .single ⟨_, world_step spawned (.operate host (.applyExecutorReceipt (receipt 1 1 (.succeeded value)))) rfl⟩
  exact ⟨first, event, accepted, now, after, reached, running, taken, step, run, running', healthy, owner,
    ⟨prepared, cached, preparing⟩, refused⟩

end

end Sample

end Gawd.Home
