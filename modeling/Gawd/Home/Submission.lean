import Gawd.Home.ControlReplay
import Gawd.Home.Delivery
import Gawd.Home.Forest

/-!
Submitting a request again: one Job for each key of a Home, whichever way the Job came about.
-/

namespace Gawd.Home

open Gawd.Logic Gawd.Wire Gawd.Journal

variable {request : JobSubmit} {spec : JobSpec} {state : HomeState}

theorem byteArray_toList (bytes : ByteArray) {done : List UInt8} :
    ByteArray.toList.loop bytes index done = done.reverse ++ bytes.data.toList.drop index := by
  fun_induction ByteArray.toList.loop bytes index done with
  | case1 index done inside ih =>
    have inside' : index < bytes.data.toList.length := inside
    rw [ih, List.drop_eq_getElem_cons inside']
    simp only [List.reverse_cons, List.append_assoc, List.singleton_append, List.append_cancel_left_eq, List.cons.injEq,
      and_true]
    simp [ByteArray.get!, inside]
  | case2 index done outside =>
    have outside' : bytes.data.toList.length ≤ index := Nat.not_lt.mp outside
    rw [List.drop_eq_nil_of_le outside', List.append_nil]

theorem utf8_injective {one two : String} (same : one.toUTF8.toList = two.toUTF8.toList) : one = two := by
  rw [ByteArray.toList, ByteArray.toList, byteArray_toList, byteArray_toList] at same
  simp only [List.reverse_nil, List.nil_append, List.drop_zero] at same
  exact String.toByteArray_inj.mp (ByteArray.ext (Array.toList_inj.mp same))

theorem beBytes64_length : (beBytes64 value).length = 8 := by
  simp [beBytes64]

/-- Under one Home the bytes that name a Job tell its key. -/
theorem jobIdPreimage_key (same : jobIdPreimage home one = jobIdPreimage home two) : one = two := by
  unfold jobIdPreimage at same
  simp only [List.append_assoc, List.append_cancel_left_eq] at same
  exact utf8_injective (List.append_inj same (by rw [beBytes64_length, beBytes64_length])).2

theorem Founded.submittedEvent (founded : Founded job record) (held : state.jobs.get? job = some record) :
    ∃ first, record.events.head? = some first ∧ submittedEvent state job = .ok first := by
  obtain ⟨first, spec, rest, events, kind, _⟩ := founded.submitted
  refine ⟨first, by rw [events]; rfl, ?_⟩
  simp [Home.submittedEvent, held, events, kind]

section

variable [Crypto]

/-- The hash of a request identifies it. -/
def RequestsIdentified : Prop :=
  ∀ one two : JobSubmit, canonicalHash one = canonicalHash two → one = two

theorem RequestedBy.kept (requested : RequestedBy request before) (kept : SpecKept before after) :
    RequestedBy request after := by
  rw [kept]
  exact ⟨requested.job, requested.home, requested.key, requested.hash, requested.parent⟩

variable {hash : Text}

theorem RequestsIdentified.eq_of_hash (requests : RequestsIdentified) {one two : JobSubmit}
    (first : one.requestHash = .ok hash) (second : two.requestHash = .ok hash) : one = two := by
  simp only [JobSubmit.requestHash, bind_eq_ok, pure_eq_ok] at first second
  obtain ⟨_, _, first⟩ := first
  obtain ⟨_, _, second⟩ := second
  exact requests one two (first.trans second.symm)

/-- Whatever a record submits was requested. -/
theorem Produced.requested {record : HomeLedgerRecord} {event : SignedRecord JobEvent}
    (produced : Produced before record) (sources : FromRequests before record) (member : event ∈ record.events)
    (kind : event.payload.kind = .submitted spec) : ∃ request, RequestedBy request spec := by
  cases produced with
  | submission _ =>
    rw [List.mem_singleton.mp member] at kind
    exact ((sources rfl).alone _ _ rfl kind).2
  | dispatch dispatches =>
    rw [List.mem_singleton.mp member, dispatches.kind] at kind
    cases kind
  | observation found handle outcome =>
    rw [List.mem_singleton.mp member] at kind
    exact absurd kind ((Produced.observation found handle outcome).observed.1 spec)
  | continuation _ continues =>
    rw [List.mem_singleton.mp member] at kind
    exact absurd kind (continues.kind spec)
  | spawn _ continues submits _ =>
    obtain ⟨_, submitted, kind', requested⟩ := (sources rfl).paired _ _ rfl
    rcases List.mem_pair.mp member with rfl | rfl
    · exact absurd kind (continues.kind spec)
    · rw [kind'] at kind
      obtain ⟨⟩ := kind
      exact requested

theorem Grown.requested (grown : Grown FromRequests ledger state) :
    EachJob (fun _ record => ∃ request, RequestedBy request record.snapshot.spec) state := by
  induction grown with
  | nil => exact fun _ _ found => (nomatch found)
  | @snoc _ _ _ before _ _ produced sources run ih =>
    have filed := recordFiled_of_run run
    intro job record found
    cases known : before.jobs.get? job with
    | some old =>
      obtain ⟨next, found', _, kept⟩ := filed.remembers.jobs job old known
      rw [found] at found'
      obtain ⟨⟩ := found'
      obtain ⟨request, requested⟩ := ih job old known
      exact ⟨request, requested.kept kept⟩
    | none =>
      obtain ⟨event, member, spec, kind, _, kept, _⟩ := filed.submitted known found
      obtain ⟨request, requested⟩ := produced.requested sources member kind
      exact ⟨request, requested.kept kept⟩

/-- One key of a Home names one Job. -/
theorem RequestedBy.unique {spec' : JobSpec} (one : RequestedBy request spec) (two : RequestedBy request' spec')
    (home : spec.handle.home = spec'.handle.home) (key : spec.callerIdempotencyKey = spec'.callerIdempotencyKey) :
    spec.handle.job = spec'.handle.job := by
  have job := one.job
  rw [← one.home, ← one.key, home, key, two.home, two.key, two.job] at job
  exact (Except.ok.inj job).symm

/-- Where digests of bytes are told apart, the Job that a request names was accepted for the request's key. -/
theorem RequestedBy.same_key {key : String} (requested : RequestedBy request spec)
    (digests : Function.Injective Crypto.sha256) (named : deriveJobId spec.handle.home key = .ok spec.handle.job) :
    spec.callerIdempotencyKey = key := by
  have job := requested.job
  rw [← requested.home, ← requested.key] at job
  simp only [deriveJobId, bind_eq_ok, pure_eq_ok] at job named
  obtain ⟨_, _, _, _, one⟩ := job
  obtain ⟨_, _, _, _, two⟩ := named
  rw [← two] at one
  simp only [JobId.mk.injEq, Text.sha256.injEq] at one
  exact jobIdPreimage_key (digests one)

variable {record : JobRecord}

variable {host : Host} {home : FunctionHome}

/-- A direct submission under a key that has a Job: the Job's own submission for its own request, and a conflict for
any other. -/
theorem Catalogued.resubmit {request : SignedRecord JobSubmit} {handle : JobHandle}
    (catalogued : Catalogued home.state) (healthy : home.authoritative = .ok ())
    (direct : request.payload.parent = none ∧ request.payload.causal = [])
    (named : validateJobRequestSignedBy host request home.config.home.text home = .ok (handle, hash) cached)
    (held : home.state.jobs.get? handle.job = some record) : ∃ first, record.events.head? = some first ∧
      (hash = record.snapshot.spec.requestHash →
        submit host request resolution deployment home = .ok (.existing handle hash first) cached) ∧
      (hash ≠ record.snapshot.spec.requestHash →
        submit host request resolution deployment home = .error (.conflict handle.job.text.render) cached) := by
  obtain ⟨first, head, submitted⟩ := (catalogued.founded _ record held).submittedEvent held
  have moved := (wp_ok wp_validateJobRequestSignedBy named).1
  have authority := moved.authoritative.trans healthy
  have indexed := catalogued.requests _ record held
  have direct' : ¬ (request.payload.parent.isSome = true ∨ request.payload.causal ≠ []) := by
    simp [direct.1, direct.2]
  refine ⟨first, head, fun same => ?_, fun differ => ?_⟩
  · have known : existingSubmission cached.state handle hash = .ok (some (.existing handle hash first)) := by
      simp [existingSubmission, moved.state, indexed, same, submitted]
    rw [run_eq_ok, submit]
    refine wp_run (ensureAuthoritativeState_runs healthy) ?_
    refine wp_unless direct' ?_
    rw [wp_bind, wp_get]
    refine wp_run named ?_
    refine wp_run (ensureAuthoritativeState_runs authority) ?_
    rw [wp_bind, wp_get]
    refine wp_pass known ?_
    exact ⟨rfl, rfl⟩
  · have refused : existingSubmission cached.state handle hash = .error (.conflict handle.job.text.render) := by
      simp [existingSubmission, moved.state, indexed, Ne.symm differ]
    rw [run_eq_error, submit]
    refine wp_run (ensureAuthoritativeState_runs healthy) ?_
    refine wp_unless direct' ?_
    rw [wp_bind, wp_get]
    refine wp_run named ?_
    refine wp_run (ensureAuthoritativeState_runs authority) ?_
    rw [wp_bind, wp_get]
    refine (wp_failed refused).mpr ?_
    exact ⟨rfl, rfl⟩

/-- Where the Job exists already, no spawn creates it: past the bound on controls that is a conflict. -/
theorem spawnChild_existing {request : SignedRecord JobControl}
    (held : home.state.jobs.get? spec.handle.job = some record) :
    wp (spawnChild host request parent proposal spec) (fun _ _ => False)
      (fun error after => after = home ∧ (error = .capacity s!"job controls exceed {maxJobControls}" ∨
        error = .conflict s!"child job `{spec.handle.job.text.render}` already exists outside this spawn")) home := by
  rw [spawnChild, wp_bind, wp_get]
  refine wp_check (fun error full => ?_) fun _ _ => wp_check (fun error taken => ?_) fun _ free => ?_
  · exact ⟨rfl, .inl (reject_eq_error.mp full).2.symm⟩
  · exact ⟨rfl, .inr (reject_eq_error.mp taken).2.symm⟩
  · exact absurd (by simp [SortedMap.contains, held]) (reject_eq_ok.mp free)

/-- A child proposal for a Job that exists is answered by the spawn that it repeats, or refused. Either way the ledger
stays as it is. -/
theorem wp_proposal_existing {request : SignedRecord JobControl} {proposal : Proposal}
    (proposes : proposalOf request.payload.kind = some proposal)
    (named : deriveJobId proposal.submit.payload.home proposal.submit.payload.callerIdempotencyKey = .ok job)
    (held : home.state.jobs.get? job = some record) : wp (control host request)
      (fun event after => CacheOnly home after ∧ ∃ spawn,
        home.state.childSpawns.get? (spawnKeyOf proposal.parentAttempt proposal.spawnKey) = some spawn ∧
          spawn.child.job = job ∧ spawn.childRequestHash = proposal.childRequestHash ∧ spawn.event = event)
      (fun _ after => CacheOnly home after) home := by
  have idle : CacheOnly home home := Std.Refl.refl home
  rw [control_of_proposal proposes]
  refine wp_reads ensureAuthoritativeState_reads (fun _ => ?_) fun _ => idle
  rw [proposeChild]
  refine wp_check (fun _ _ => idle) fun _ _ => wp_check (fun _ _ => idle) fun _ _ => ?_
  refine wp_pass (orError_eq_ok.mpr proposes) ?_
  refine wp_check (fun _ _ => idle) fun _ _ => ?_
  refine wp_reads ensureAuthoritativeState_reads (fun _ => ?_) fun _ => idle
  rw [wp_bind, wp_get]
  refine wp_check (fun _ _ => idle) fun _ _ => ?_
  refine wp_then wp_prepareSubmissionSignedBy (fun prepared cached both => ?_)
  obtain ⟨moved, prepares⟩ := both
  obtain rfl : prepared.handle.job = job := Except.ok.inj (prepares.job.symm.trans named)
  rw [← moved.state] at held ⊢
  rw [proposePrepared]
  refine wp_check (fun _ _ => moved) fun _ _ => wp_check (fun _ _ => moved) fun _ _ =>
    wp_check (fun _ _ => moved) fun _ _ => ?_
  refine wp_reads ensureAuthoritativeState_reads (fun _ => ?_) fun _ => moved
  rw [wp_bind, wp_get]
  refine wp_check (fun _ _ => moved) fun parent _ => wp_check (fun _ _ => moved) fun spec inherited =>
    wp_check (fun _ _ => moved) fun _ _ => wp_check (fun _ _ => moved) fun _ _ => ?_
  split
  · rename_i spawn known
    refine wp_check (fun _ _ => moved) fun _ same => ?_
    simp only [reject_eq_ok, not_or, not_not] at same
    exact ⟨moved, spawn, known, congrArg JobHandle.job same.2.2.1, same.2.1, rfl⟩
  · have child : spec.handle = prepared.handle := by
      rw [childSpec_eq_ok inherited, prepares.spec]
      rfl
    rw [← child] at held
    refine wp_mono (spawnChild_existing held) (fun _ _ none => none.elim) fun _ _ refused => ?_
    rw [refused.1]
    exact moved

namespace Fleet

variable {ι : Type} [DecidableEq ι] {fleet : Fleet ι} {world later : World ι} {root other : ι}

/-- A root keeps what an earlier root of its Home held. -/
theorem remembers_of_order (honest : fleet.Honest) (identified : HandoffsIdentified)
    (reached : fleet.system.Reachable world) (run : fleet.system.Leads world later)
    (order : fleet.epoch root ≤ fleet.epoch other) {home now : FunctionHome} (running : (world root).process? = some home)
    (running' : (later other).process? = some now) : Remembers home.state now.state := by
  have grown := (processSound_of_reachable identified reached running).grown
  have grown' := (processSound_of_reachable identified (reached.leads run) running').grown
  obtain ⟨more, longer⟩ := events_prefix honest identified reached run order running running'
  rw [← longer] at grown'
  exact grown.remembers grown'

end Fleet

end

namespace Sample

open Wire.Sample

section

attribute [local instance] Wire.Sample.collisionFree

theorem requestsIdentified : RequestsIdentified :=
  Wire.Sample.collisionFree_identifies

end

section

attribute [local instance] keyed

end

end Sample

end Gawd.Home
