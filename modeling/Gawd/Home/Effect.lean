import Gawd.Home.Ledger
import Gawd.Logic.Simulation

/-!
What an applied ledger record did: one statement per function of the ledger, in terms of lookups. The
result does not depend on the configuration that admitted the record.
-/

namespace Gawd.Home

open Gawd.Logic Gawd.Wire Gawd.Journal

/-- Only the indexes of controls and of spawned children may differ. -/
def IndexOnly (before after : HomeState) : Prop :=
  after = { before with
    controls := after.controls
    controlCounts := after.controlCounts
    forwardedControls := after.forwardedControls
    childSpawns := after.childSpawns
    unacknowledgedForwardedControls := after.unacknowledgedForwardedControls }

instance : Std.Refl IndexOnly := ⟨fun _ => rfl⟩

instance : IsTrans HomeState IndexOnly where
  trans first second third one two := by
    unfold IndexOnly at *
    rw [two, one]

/-- Only the accepted controls and the spawned children may differ. -/
def NamesOnly (before after : HomeState) : Prop :=
  after = { before with
    controls := after.controls, controlCounts := after.controlCounts, childSpawns := after.childSpawns }

instance : Std.Refl NamesOnly := ⟨fun _ => rfl⟩

/-- Only the forwarded controls may differ. -/
def ForwardingOnly (before after : HomeState) : Prop :=
  after = { before with
    forwardedControls := after.forwardedControls
    unacknowledgedForwardedControls := after.unacknowledgedForwardedControls }

instance : Std.Refl ForwardingOnly := ⟨fun _ => rfl⟩

/-- The grants, receipts and marks of every attempt are as they were. -/
structure AttemptsKept (before after : HomeState) : Prop where
  grants : after.grants = before.grants
  nextGrantSequence : after.nextGrantSequence = before.nextGrantSequence
  receipts : after.receipts = before.receipts
  highestReceiptSequences : after.highestReceiptSequences = before.highestReceiptSequences

theorem AttemptsKept.refl (state : HomeState) : AttemptsKept state state :=
  ⟨rfl, rfl, rfl, rfl⟩

theorem AttemptsKept.trans (one : AttemptsKept first second) (two : AttemptsKept second third) :
    AttemptsKept first third :=
  ⟨two.grants.trans one.grants, two.nextGrantSequence.trans one.nextGrantSequence,
    two.receipts.trans one.receipts, two.highestReceiptSequences.trans one.highestReceiptSequences⟩

theorem IndexOnly.attemptsKept (moved : IndexOnly before after) : AttemptsKept before after := by
  rw [moved]
  exact ⟨rfl, rfl, rfl, rfl⟩

theorem IndexOnly.jobs {before after : HomeState} (moved : IndexOnly before after) : after.jobs = before.jobs := by
  rw [moved]

/-- What one event makes of its Job's record. -/
inductive JobStep (event : SignedRecord JobEvent) : Option JobRecord → JobRecord → Prop where
  | submitted {spec : JobSpec} : event.payload.kind = .submitted spec → event.payload.sequence = 1 →
      event.payload.stateAfter = .queued →
      JobStep event none ⟨JobSnapshot.submitted spec event.payload, [event]⟩
  | advanced {record : JobRecord} : (∀ spec, event.payload.kind ≠ .submitted spec) →
      checkTransition record.snapshot event.payload = .ok () →
      JobStep event (some record) ⟨advanceSnapshot record.snapshot event.payload, record.events ++ [event]⟩

/-- An event was applied: its Job moved by one step, and no other Job or attempt did. -/
structure EventApplied (event : SignedRecord JobEvent) (before after : HomeState) : Prop where
  stepped : ∃ next, JobStep event (before.jobs.get? event.payload.handle.job) next ∧
    ∀ other, after.jobs.get? other =
      if other = event.payload.handle.job then some next else before.jobs.get? other
  kept : AttemptsKept before after

/-- The events of a record, applied one after the other. -/
inductive EventsApplied : List (SignedRecord JobEvent) → HomeState → HomeState → Prop where
  | nil : EventsApplied [] state state
  | cons : EventApplied event before middle → EventsApplied rest middle after →
      EventsApplied (event :: rest) before after

/-- A grant was applied: kept under its attempt, unless the same grant was there. -/
structure GrantApplied [Crypto] (grant : SignedRecord ExecutionGrant) (before after : HomeState) : Prop where
  fresh : ∀ existing, before.grants.get? (attemptKey grant.payload.attempt) = some existing →
    canonicalHash existing = canonicalHash grant
  grants : ∀ key, after.grants.get? key =
    if key = attemptKey grant.payload.attempt then
      (before.grants.get? key).or (some grant)
    else before.grants.get? key
  nextGrantSequence : after.nextGrantSequence = max before.nextGrantSequence (grant.payload.grantSequence + 1)
  jobs : after.jobs = before.jobs
  receipts : after.receipts = before.receipts
  marks : after.highestReceiptSequences = before.highestReceiptSequences

/-- A receipt was applied: it continues a kept grant and raises the attempt's high-water mark. -/
structure ReceiptApplied [Crypto] (receipt : SignedRecord ExecutionReceipt) (before after : HomeState) :
    Prop where
  granted : ∃ grant, before.grants.get? (attemptKey receipt.payload.attempt) = some grant ∧
    verifyExecutionReceipt receipt grant = .ok ()
  unseen : receipt.payload.sequence ≠
    (before.highestReceiptSequences.get? (attemptKey receipt.payload.attempt)).getD 0
  receipts : after.receipts = before.receipts.insert (receiptKey receipt.payload) (canonicalHash receipt)
  marks : after.highestReceiptSequences =
    before.highestReceiptSequences.insert (attemptKey receipt.payload.attempt)
      (max ((before.highestReceiptSequences.get? (attemptKey receipt.payload.attempt)).getD 0)
        receipt.payload.sequence)
  jobs : after.jobs = before.jobs
  grants : after.grants = before.grants
  nextGrantSequence : after.nextGrantSequence = before.nextGrantSequence

/-- The part of a record that may be absent. -/
def Applied {α σ : Type} (relation : α → σ → σ → Prop) (part : Option α) (before after : σ) : Prop :=
  match part with
  | some value => relation value before after
  | none => after = before

/-- What a part leaves alone, it leaves alone whether it is there or not. -/
theorem Applied.kept {α σ β : Type} {relation : α → σ → σ → Prop} (field : σ → β)
    (keeps : ∀ {value : α} {before after : σ}, relation value before after → field after = field before)
    {part : Option α} {before after : σ} (applied : Applied relation part before after) : field after = field before := by
  cases part with
  | some value => exact keeps applied
  | none => exact congrArg field applied

theorem Applied.of_refl {α σ : Type} {relation : σ → σ → Prop} (same : ∀ state, relation state state)
    {part : Option α} {before after : σ} (applied : Applied (fun _ => relation) part before after) :
    relation before after := by
  cases part with
  | some value => exact applied
  | none => exact applied ▸ same before

/-- A whole record was applied. -/
structure RecordApplied [Crypto] (record : HomeLedgerRecord) (before after : HomeState) : Prop where
  verified : ∀ event ∈ record.events, verifyJobEvent event = .ok ()
  dispatches : ∀ grant ∈ record.grant, record.events.countP (grantsEvent grant) = 1
  parts : ∃ granted settled, Applied GrantApplied record.grant before granted ∧
    Applied ReceiptApplied record.receipt granted settled ∧ EventsApplied record.events settled after

section Indexes

variable {before after : HomeState}

theorem NamesOnly.indexOnly (moved : NamesOnly before after) : IndexOnly before after := by
  unfold IndexOnly
  rw [moved]

theorem ForwardingOnly.indexOnly (moved : ForwardingOnly before after) : IndexOnly before after := by
  unfold IndexOnly
  rw [moved]

theorem indexHomeControl_namesOnly {control : ControlId} :
    Along NamesOnly (indexHomeControl job control requestHash) := by
  intro state
  simp only [indexHomeControl, wp_bind, wp_get]
  split
  · exact Along.lift _ state
  · simp only [wp_bind, wp_lift, wp_set]
    exact ⟨fun _ _ => rfl, fun _ _ => rfl⟩

theorem recordSpawn_namesOnly : Along NamesOnly (recordSpawn job key spawn) := by
  intro state
  simp only [recordSpawn, wp_bind, wp_get]
  split
  · exact Along.lift _ state
  · simp only [wp_bind, wp_lift, wp_set]
    exact ⟨fun _ _ => rfl, fun _ _ => rfl⟩

theorem forwardControl_forwardingOnly {control : ControlId} :
    Along ForwardingOnly (forwardControl config job control attempt) := by
  intro state
  simp only [forwardControl, wp_bind, wp_get, wp_lift]
  refine ⟨fun _ _ => ?_, fun _ _ => rfl⟩
  split
  · simp only [wp_bind, wp_set, wp_lift, wp_modify]
    exact ⟨fun _ _ => rfl, fun _ _ => rfl⟩
  · exact Along.lift _ state

theorem retainControlReceipt_forwardingOnly [Crypto] {control : ControlId} :
    Along ForwardingOnly (retainControlReceipt control acknowledged receipt receiptHash) := by
  intro state
  simp only [retainControlReceipt, wp_bind, wp_get, wp_lift]
  refine ⟨fun retained _ => ⟨fun _ _ => ?_, fun _ _ => rfl⟩, fun _ _ => rfl⟩
  split
  · exact Along.lift _ state
  · simp only [wp_bind, wp_set, wp_ite, wp_lift, wp_modify, wp_pure]
    exact ⟨fun _ => ⟨fun _ _ => rfl, fun _ _ => rfl⟩, fun _ => rfl⟩

theorem indexHomeControlReceipt_forwardingOnly [Crypto] :
    Along ForwardingOnly (indexHomeControlReceipt receipt receiptHash) := by
  unfold indexHomeControlReceipt
  split
  · exact retainControlReceipt_forwardingOnly
  · exact retainControlReceipt_forwardingOnly
  · exact Along.pure ()

theorem indexEvent_indexOnly [Crypto] : Along IndexOnly (indexEvent config event root) := by
  have names : ∀ job control hash, Along IndexOnly (indexHomeControl job control hash) :=
    fun _ _ _ => indexHomeControl_namesOnly.mono fun _ _ => NamesOnly.indexOnly
  unfold indexEvent
  dsimp only
  split
  · exact names _ _ _
  · refine (names _ _ _).bind fun _ => ?_
    split
    · exact forwardControl_forwardingOnly.mono fun _ _ => ForwardingOnly.indexOnly
    · exact Along.pure ()
  · exact .check fun _ => recordSpawn_namesOnly.mono fun _ _ => NamesOnly.indexOnly
  · exact Along.pure ()

end Indexes

variable {success : Unit → HomeState → Prop}

section Records

variable [Crypto]

section

variable (config : HomeConfig) (grant : SignedRecord ExecutionGrant) (before : HomeState)

include config grant before

theorem wp_applyGrant :
    wp (applyGrant config grant) (fun _ after => GrantApplied grant before after) (fun _ _ => True) before := by
  simp only [applyGrant, wp_bind, wp_lift, wp_get]
  refine ⟨fun _ _ => ?_, fun _ _ => trivial⟩
  cases found : before.grants.get? (attemptKey grant.payload.attempt) with
  | some existing =>
    simp only [wp_bind, wp_lift, wp_modify, reject_eq_ok, not_not]
    refine ⟨fun _ same => ⟨?_, ?_, rfl, rfl, rfl, rfl⟩, fun _ _ => trivial⟩
    · intro other held
      rw [found] at held
      obtain ⟨⟩ := held
      exact same
    · intro key
      split
      · rename_i hit
        rw [hit, found]
        rfl
      · rfl
  | none =>
    simp only [wp_bind, wp_set, wp_modify]
    refine ⟨fun other held => ?_, fun key => ?_, rfl, rfl, rfl, rfl⟩
    · rw [found] at held
      cases held
    · rw [SortedMap.get?_insert]
      split
      · rename_i hit
        rw [hit, found]
        rfl
      · rfl

theorem wp_applyGrant_only :
    wp (applyGrant config grant) (fun _ after => after = { before with
        grants := after.grants, nextGrantSequence := after.nextGrantSequence }) (fun _ _ => True) before := by
  simp only [applyGrant, wp_bind, wp_lift, wp_get]
  refine ⟨fun _ _ => ?_, fun _ _ => trivial⟩
  split
  · simp only [wp_bind, wp_lift, wp_modify]
    exact ⟨fun _ _ => trivial, fun _ _ => trivial⟩
  · simp only [wp_bind, wp_set, wp_modify]

end

theorem wp_retainReceipt : wp (retainReceipt receipt)
      (fun _ after => after = { before with
        receipts := before.receipts.insert (receiptKey receipt.payload) (canonicalHash receipt) })
      (fun _ _ => True) before := by
  simp only [retainReceipt, wp_bind, wp_get, wp_set, wp_lift]
  exact ⟨fun _ _ => trivial, fun _ _ => trivial⟩

/-- The way of a receipt through its checks and its indexes. -/
theorem wp_settled {receipt : SignedRecord ExecutionReceipt} {before : HomeState} {holds : HomeState → Prop}
    (indexes : wp (indexHomeControlReceipt receipt (canonicalHash receipt)) (fun _ indexed => holds indexed)
      (fun _ _ => True) before)
    (settled : ∀ grant indexed, before.grants.get? (attemptKey receipt.payload.attempt) = some grant →
      verifyExecutionReceipt receipt grant = .ok () →
      receipt.payload.sequence ≠ (before.highestReceiptSequences.get? (attemptKey receipt.payload.attempt)).getD 0 →
      ForwardingOnly before indexed → holds indexed → success () (HomeState.raiseMarks
        { indexed with receipts := indexed.receipts.insert (receiptKey receipt.payload) (canonicalHash receipt) }
        (attemptKey receipt.payload.attempt) receipt.payload.sequence receipt.payload.stage)) :
    wp (applyReceipt receipt) success (fun _ _ => True) before := by
  simp only [applyReceipt, wp_bind, wp_get, wp_lift]
  refine ⟨fun grant granted => ⟨fun _ verified => ⟨fun _ unseen => ⟨fun _ _ => ?_, fun _ _ => trivial⟩,
    fun _ _ => trivial⟩, fun _ _ => trivial⟩, fun _ _ => trivial⟩
  have settle : wp (indexHomeControlReceipt receipt (canonicalHash receipt))
      (fun _ after => wp (retainReceipt receipt) (fun _ after => success ()
        (after.raiseMarks (attemptKey receipt.payload.attempt) receipt.payload.sequence receipt.payload.stage))
        (fun _ _ => True) after) (fun _ _ => True) before := by
    refine wp_weaken (wp_and (indexHomeControlReceipt_forwardingOnly before) indexes) fun _ indexed both => ?_
    refine wp_weaken wp_retainReceipt fun _ retained same => ?_
    subst same
    exact settled grant indexed (orError_eq_ok.mp granted) (mapError_eq_ok.mp verified) (reject_eq_ok.mp unseen)
      both.1 both.2
  split
  · simpa only [wp_pure, wp_bind, wp_modify] using settle
  · simp only [wp_lift, wp_bind, wp_modify]
    exact ⟨fun _ _ => settle, fun _ _ => trivial⟩

theorem wp_applyReceipt :
    wp (applyReceipt receipt) (fun _ after => ReceiptApplied receipt before after) (fun _ _ => True) before := by
  refine wp_settled (wp_any _ _) fun grant indexed granted verified unseen moved _ => ?_
  rw [moved]
  exact ⟨⟨grant, granted, verified⟩, unseen, rfl, rfl, rfl, rfl, rfl⟩

variable {event : SignedRecord JobEvent}

section

omit [Crypto]

/-- The way of a submission through its checks. -/
theorem wp_submitted (built : ∀ count, event.payload.sequence = 1 → event.payload.stateAfter = .queued →
      before.jobs.get? event.payload.handle.job = none → checkLineage config before spec = .ok () →
      checkedIncrement before.nonterminalJobs "nonterminal Job reservation count overflowed" = .ok count →
      success () { before with
        nonterminalJobs := count
        requestHashes := before.requestHashes.insert event.payload.handle.job spec.requestHash
        jobs := before.jobs.insert event.payload.handle.job ⟨JobSnapshot.submitted spec event.payload, [event]⟩ }) :
    wp (applySubmitted config event spec) success (fun _ _ => True) before := by
  rw [applySubmitted, wp_bind, wp_get]
  refine wp_assume fun _ first => wp_assume fun _ absent => wp_assume fun _ descends => wp_assume fun count raised => ?_
  simp only [reject_eq_ok, not_or, not_not] at first
  exact built count first.1 first.2 (by simpa [SortedMap.contains] using reject_eq_ok.mp absent) descends raised

theorem wp_applySubmitted
    (kind : event.payload.kind = .submitted spec) :
    wp (applySubmitted config event spec) (fun _ after => EventApplied event before after)
      (fun _ _ => True) before := by
  refine wp_submitted fun count first queued missing _ _ =>
    ⟨⟨⟨JobSnapshot.submitted spec event.payload, [event]⟩, ?_, fun other => ?_⟩, ⟨rfl, rfl, rfl, rfl⟩⟩
  · rw [missing]
    exact .submitted kind first queued
  · simp only [SortedMap.get?_insert]
    split <;> rfl

theorem wp_modifyJob {state : HomeState} {change : JobRecord → JobRecord} {failure : HomeError → HomeState → Prop}
    (found : state.jobs.get? job = some record) :
    wp (modifyJob job change) success failure state ↔
      success () { state with jobs := state.jobs.insert job (change record) } := by
  simp only [modifyJob, wp_modify, found]

theorem wp_releaseJob : wp (releaseJob ended)
      (fun _ after => ∃ count, after = { before with nonterminalJobs := count } ∧
        (if ended then checkedDecrement before.nonterminalJobs "nonterminal Job reservation count underflowed"
          else .ok before.nonterminalJobs) = .ok count)
      (fun _ _ => True) before := by
  simp only [releaseJob, wp_ite, wp_bind, wp_get, wp_lift, wp_set, wp_pure]
  refine ⟨fun yes => ⟨fun count counted => ⟨count, rfl, ?_⟩, fun _ _ => trivial⟩,
    fun no => ⟨before.nonterminalJobs, rfl, ?_⟩⟩
  · rw [if_pos yes]
    exact counted
  · rw [if_neg no]

end

/-- The way of any other event through its checks and its indexes. -/
theorem wp_transition {relation : HomeState → HomeState → Prop}
    (indexes : ∀ root state, wp (indexEvent config event root) (fun _ indexed => relation state indexed)
      (fun _ _ => True) state)
    (built : ∀ record middle indexed count, before.jobs.get? event.payload.handle.job = some record →
      checkTransition record.snapshot event.payload = .ok () →
      middle = { before with
        jobs := before.jobs.insert event.payload.handle.job ⟨advanceSnapshot record.snapshot event.payload, record.events⟩ } →
      IndexOnly middle indexed → relation middle indexed →
      (if decide (record.snapshot.state.isTerminal = false ∧ event.payload.stateAfter.isTerminal = true) then
          checkedDecrement before.nonterminalJobs "nonterminal Job reservation count underflowed"
        else .ok before.nonterminalJobs) = .ok count →
      success () { indexed with
        nonterminalJobs := count
        jobs := middle.jobs.insert event.payload.handle.job
          ⟨advanceSnapshot record.snapshot event.payload, record.events ++ [event]⟩ }) :
    wp (applyTransition config event) success (fun _ _ => True) before := by
  rw [applyTransition, wp_bind, wp_get]
  refine wp_assume fun record found => wp_assume fun _ checked => ?_
  rw [orError_eq_ok] at found
  rw [wp_bind, wp_modifyJob found, wp_bind]
  refine wp_weaken (wp_and (indexEvent_indexOnly _) (indexes _ _)) fun _ indexed both => ?_
  have advanced : indexed.jobs.get? event.payload.handle.job =
      some { record with snapshot := advanceSnapshot record.snapshot event.payload } := by
    rw [both.1.jobs, SortedMap.get?_insert_self]
  rw [wp_bind, wp_modifyJob advanced]
  refine wp_weaken wp_releaseJob fun _ after released => ?_
  obtain ⟨count, rfl, released⟩ := released
  have unmoved : indexed.nonterminalJobs = before.nonterminalJobs := by rw [both.1]
  dsimp only at released ⊢
  rw [unmoved] at released
  rw [both.1.jobs]
  exact built record _ indexed count found checked rfl both.1 both.2 released

theorem wp_applyTransition
    (kind : ∀ spec, event.payload.kind ≠ .submitted spec) :
    wp (applyTransition config event) (fun _ after => EventApplied event before after)
      (fun _ _ => True) before := by
  refine wp_transition (fun _ _ => wp_any _ _) fun record middle indexed count found checked same moved _ _ => ?_
  subst same
  refine ⟨⟨⟨advanceSnapshot record.snapshot event.payload, record.events ++ [event]⟩, ?_, fun other => ?_⟩,
    moved.attemptsKept.grants, moved.attemptsKept.nextGrantSequence, moved.attemptsKept.receipts,
    moved.attemptsKept.highestReceiptSequences⟩
  · rw [found]
    exact .advanced kind checked
  · simp only [SortedMap.get?_insert]
    split <;> rfl

/-- An event submits its Job or continues it. -/
theorem wp_jobEvent (submits : ∀ spec, event.payload.kind = .submitted spec →
      wp (applySubmitted config event spec) success (fun _ _ => True) before)
    (continues : (∀ spec, event.payload.kind ≠ .submitted spec) →
      wp (applyTransition config event) success (fun _ _ => True) before) :
    wp (applyJobEvent config event) success (fun _ _ => True) before := by
  rw [applyJobEvent]
  refine wp_assume fun _ _ => ?_
  split
  · rename_i spec kind
    exact submits spec kind
  · rename_i other
    exact continues fun spec same => other spec same

theorem wp_applyJobEvent :
    wp (applyJobEvent config event) (fun _ after => EventApplied event before after) (fun _ _ => True) before :=
  wp_jobEvent (fun _ => wp_applySubmitted) wp_applyTransition

/-- The events of a record go one after the other. -/
theorem wp_eachEvent {sequence : List (SignedRecord JobEvent) → HomeState → HomeState → Prop}
    (none : ∀ state, sequence [] state state)
    (next : ∀ event rest state, wp (applyJobEvent config event)
      (fun _ middle => ∀ after, sequence rest middle after → sequence (event :: rest) state after) (fun _ _ => True) state)
    (events : List (SignedRecord JobEvent)) (before : HomeState) :
    wp (applyEvents config events) (fun _ after => sequence events before after) (fun _ _ => True) before := by
  induction events generalizing before with
  | nil => exact none before
  | cons event rest ih =>
    rw [applyEvents, wp_bind]
    exact wp_weaken (next event rest before) fun _ middle extends' => wp_weaken (ih middle) fun _ => extends'

theorem wp_applyEvents : ∀ events before,
    wp (applyEvents config events) (fun _ after => EventsApplied events before after) (fun _ _ => True) before :=
  wp_eachEvent (fun _ => .nil) fun _ _ _ =>
    wp_weaken wp_applyJobEvent fun _ _ applied _ later => .cons applied later

omit [Crypto] in
theorem wp_applied (spec : ∀ value before,
      wp (program value) (fun _ after => relation value before after) (fun _ _ => True) before) :
    wp (ifPresent part program)
      (fun _ after => Applied relation part before after) (fun _ _ => True) before := by
  cases part with
  | some value => exact spec value before
  | none => rfl

theorem verifyEvents_eq_ok (valid : verifyEvents config events = .ok ()) :
    ∀ event ∈ events, verifyJobEvent event = .ok () := by
  induction events with
  | nil => simp
  | cons head rest ih =>
    simp only [verifyEvents, bind_eq_ok, reject_eq_ok, not_or, not_not] at valid
    obtain ⟨_, ⟨first, _⟩, later⟩ := valid
    exact List.forall_mem_cons.mpr ⟨first, ih later⟩

theorem validateLedgerRecord_eq_ok {record : HomeLedgerRecord} (valid : validateLedgerRecord record config = .ok ()) :
    (∀ event ∈ record.events, verifyJobEvent event = .ok ()) ∧
      ∀ grant ∈ record.grant, record.events.countP (grantsEvent grant) = 1 := by
  simp only [validateLedgerRecord, bind_eq_ok, reject_eq_ok, ifPresent_eq_ok] at valid
  obtain ⟨_, _, _, verified, _, granted, _⟩ := valid
  refine ⟨verifyEvents_eq_ok verified, fun grant member => ?_⟩
  have bound := granted grant member
  simp only [validateGrantRecord, bind_eq_ok, reject_eq_ok, not_not] at bound
  obtain ⟨-, -, -, -, once⟩ := bound
  exact once

/-- A valid record goes by its grant, its receipt and its events. -/
theorem wp_record {granting : SignedRecord ExecutionGrant → HomeState → HomeState → Prop}
    {settling : SignedRecord ExecutionReceipt → HomeState → HomeState → Prop} (grants : ∀ grant state,
      wp (applyGrant config grant) (fun _ after => granting grant state after) (fun _ _ => True) state)
    (receipts : ∀ receipt state,
      wp (applyReceipt receipt) (fun _ after => settling receipt state after) (fun _ _ => True) state)
    (events : ∀ granted settled, validateLedgerRecord record config = .ok () →
      Applied granting record.grant before granted → Applied settling record.receipt granted settled →
      wp (applyEvents config record.events) success (fun _ _ => True) settled) :
    wp (applyLedgerRecord config record) success (fun _ _ => True) before := by
  rw [applyLedgerRecord]
  refine wp_assume fun _ valid => ?_
  rw [wp_bind]
  refine wp_weaken (wp_applied grants) fun _ granted first => ?_
  rw [wp_bind]
  exact wp_weaken (wp_applied receipts) fun _ settled second => events granted settled valid first second

/-- What a record that the ledger admits does to the state. -/
theorem wp_applyLedgerRecord :
    wp (applyLedgerRecord config record) (fun _ after => RecordApplied record before after)
      (fun _ _ => True) before := by
  refine wp_record (wp_applyGrant config) (fun _ _ => wp_applyReceipt) fun granted settled valid first second => ?_
  obtain ⟨verified, dispatches⟩ := validateLedgerRecord_eq_ok valid
  refine wp_weaken (wp_applyEvents record.events settled) fun _ after third => ?_
  exact ⟨verified, dispatches, granted, settled, first, second, third⟩

theorem recordApplied_of_run (run : applyLedgerRecord config record before = .ok () after) :
    RecordApplied record before after := by
  have applied := wp_ok wp_applyLedgerRecord run
  exact applied

end Records

section Configurations

variable [Crypto]

variable (config config' : HomeConfig) (event : SignedRecord JobEvent)

theorem applyGrant_coincides :
    Coincides (applyGrant config grant) (applyGrant config' grant) :=
  (Coincides.lift _ _).bind fun _ => .refl _

omit [Crypto] in
theorem forwardControl_coincides {control : ControlId} :
    Coincides (forwardControl config job control attempt) (forwardControl config' job control attempt) :=
  (Coincides.lift _ _).bind fun _ => .refl _

theorem indexEvent_coincides : Coincides (indexEvent config event root) (indexEvent config' event root) := by
  unfold indexEvent
  dsimp only
  split
  · exact .refl _
  · refine (Coincides.refl _).bind fun _ => ?_
    split
    · exact forwardControl_coincides config config'
    · exact .refl _
  · exact (Coincides.lift _ _).bind fun _ => .refl _
  · exact .refl _

omit [Crypto] in
theorem applySubmitted_coincides :
    Coincides (applySubmitted config event spec) (applySubmitted config' event spec) := by
  refine (Coincides.refl _).bind fun state => (Coincides.refl _).bind fun _ => (Coincides.refl _).bind fun _ => ?_
  exact (Coincides.lift _ _).bind fun _ => .refl _

theorem applyTransition_coincides : Coincides (applyTransition config event) (applyTransition config' event) := by
  refine (Coincides.refl _).bind fun state => (Coincides.refl _).bind fun record => (Coincides.refl _).bind
    fun _ => (Coincides.refl _).bind fun _ => ?_
  exact (indexEvent_coincides config config' event).bind fun _ => .refl _

theorem applyJobEvent_coincides : Coincides (applyJobEvent config event) (applyJobEvent config' event) := by
  refine (Coincides.lift _ _).bind fun _ => ?_
  split
  · exact applySubmitted_coincides config config' event
  · exact applyTransition_coincides config config' event

theorem applyEvents_coincides :
    Coincides (applyEvents config events) (applyEvents config' events) := by
  induction events with
  | nil => exact .refl _
  | cons event rest ih => exact (applyJobEvent_coincides config config' event).bind fun _ => ih

/-- The configuration decides whether a record is admitted, never what it does. -/
theorem applyLedgerRecord_coincides :
    Coincides (applyLedgerRecord config record) (applyLedgerRecord config' record) := by
  refine (Coincides.lift _ _).bind fun _ => Coincides.bind ?_ fun _ => (Coincides.refl _).bind fun _ =>
    applyEvents_coincides config config'
  cases record.grant with
  | some grant => exact applyGrant_coincides config config'
  | none => exact .refl _

end Configurations

end Gawd.Home
