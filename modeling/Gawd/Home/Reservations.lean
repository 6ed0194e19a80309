import Gawd.Home.AppendBoundary
import Gawd.Home.JobLife

/-!
The slots that a Home keeps free: one for each open Job and one for each forwarded control that still
waits for its acknowledgment.
-/

namespace Gawd.Home

open Gawd.Logic Gawd.Wire Gawd.Journal

def JobRecord.isOpen (record : JobRecord) : Bool :=
  !record.snapshot.state.isTerminal

def ForwardedControlRecord.isPending (retained : ForwardedControlRecord) : Bool :=
  retained.acknowledgedReceiptHash.isNone

def HomeState.held (state : HomeState) : Reservations :=
  ⟨state.nonterminalJobs, state.unacknowledgedForwardedControls⟩

/-- The counters are the numbers of what they count. -/
structure Counted (state : HomeState) : Prop where
  jobs : state.nonterminalJobs = state.jobs.count JobRecord.isOpen
  controls : state.unacknowledgedForwardedControls = state.forwardedControls.count ForwardedControlRecord.isPending

theorem counted_initial : Counted .initial := ⟨rfl, rfl⟩

variable {value next : Nat} {message : String}

theorem checkedIncrement_eq_ok (run : checkedIncrement value message = .ok next) : next = value + 1 := by
  unfold checkedIncrement at run
  split at run
  · exact (Except.ok.inj run).symm
  · cases run

theorem checkedDecrement_eq_ok (run : checkedDecrement value message = .ok next) : value = next + 1 := by
  unfold checkedDecrement at run
  split at run
  · have := Except.ok.inj run
    omega
  · cases run

/-- A new entry that passes raises the count by one. -/
theorem count_raised [LinearOrder κ] {map : SortedMap κ υ} (counted : value = map.count test)
    (raised : checkedIncrement value message = .ok next) (missing : map.get? key = none) (passes : test entry = true) :
    next = (map.insert key entry).count test := by
  rw [checkedIncrement_eq_ok raised, counted]
  simpa [missing, passes] using (map.count_insert test key entry).symm

/-- The control part of what an event reserves. -/
def reserveControl (state : HomeState) (event : JobEvent) (controls : Nat) : Except HomeError Nat :=
  match event.kind with
  | .controlRequested request (some _) =>
    if state.forwardedControls.contains (controlKey event.handle.job request.payload.control) then .ok controls
    else checkedIncrement controls "unacknowledged control reservation count overflowed"
  | _ => .ok controls

/-- The Job part, for an event that continues its Job. -/
def releaseForEvent (state : HomeState) (event : JobEvent) (jobs : Nat) : Except HomeError Nat :=
  if event.stateAfter.isTerminal ∧ (state.jobs.get? event.handle.job).any JobRecord.isOpen then
    checkedDecrement jobs "nonterminal Job reservation count underflowed"
  else .ok jobs

variable {state : HomeState} {jobs : Nat}

theorem releaseForEvent_eq {event : JobEvent} {held : Reservations}
    (released : releaseForEvent state event held.jobs = .ok jobs) : (if event.stateAfter.isTerminal ∧
        (state.jobs.get? event.handle.job).any fun job => job.snapshot.state.isTerminal = false then do
      let jobs ← checkedDecrement held.jobs "nonterminal Job reservation count underflowed"
      pure { held with jobs }
    else pure held) = (.ok { held with jobs } : Except HomeError Reservations) := by
  have opens : (fun job : JobRecord => decide (job.snapshot.state.isTerminal = false)) = JobRecord.isOpen := by
    funext job
    simp [JobRecord.isOpen]
  unfold releaseForEvent at released
  rw [opens]
  split at released
  · rename_i ended
    rw [if_pos ended, released]
    rfl
  · rename_i running
    rw [if_neg running, ← Except.ok.inj released]
    rfl

variable {controls : Nat}

theorem reserveForEvent_of_continuing {event : JobEvent} {held : Reservations}
    (kind : ∀ spec, event.kind ≠ .submitted spec)
    (reserved : reserveControl state event held.controls = .ok controls)
    (released : releaseForEvent state event held.jobs = .ok jobs) :
    reserveForEvent state event held = .ok ⟨jobs, controls⟩ := by
  have last : ∀ controls, releaseForEvent state event (Reservations.mk held.jobs controls).jobs = .ok jobs :=
    fun _ => released
  unfold reserveControl at reserved
  unfold reserveForEvent
  split at reserved
  · rename_i request attempt same
    simp only [same]
    split at reserved
    · rename_i contained
      obtain rfl := Except.ok.inj reserved
      rw [if_pos contained]
      exact releaseForEvent_eq released
    · rename_i absent
      rw [if_neg absent, reserved]
      exact releaseForEvent_eq (last controls)
  · rename_i other
    obtain rfl := Except.ok.inj reserved
    cases same : event.kind with
    | submitted spec => exact absurd same (kind spec)
    | controlRequested request attempt =>
      cases attempt with
      | some attempt => exact absurd same (other request attempt)
      | none => exact releaseForEvent_eq released
    | _ => exact releaseForEvent_eq released

variable {spec : JobSpec}

theorem reserveForEvent_of_submitted {event : JobEvent} {held : Reservations} (kind : event.kind = .submitted spec)
    (queued : event.stateAfter = .queued)
    (counted : checkedIncrement held.jobs "nonterminal Job reservation count overflowed" = .ok jobs) :
    reserveForEvent state event held = .ok ⟨jobs, held.controls⟩ := by
  unfold reserveForEvent
  simp only [kind, counted, queued]
  rfl

/-- The forwarded controls and their counter. -/
def SameForwarded (before after : HomeState) : Prop :=
  after.forwardedControls = before.forwardedControls ∧
    after.unacknowledgedForwardedControls = before.unacknowledgedForwardedControls

instance : Std.Refl SameForwarded := ⟨fun _ => ⟨rfl, rfl⟩⟩

theorem NamesOnly.sameForwarded (moved : NamesOnly before after) :
    SameForwarded before after := by
  rw [moved]
  exact ⟨rfl, rfl⟩

def ControlsCounted (state : HomeState) : Prop :=
  state.unacknowledgedForwardedControls = state.forwardedControls.count ForwardedControlRecord.isPending

variable {before after : HomeState}

theorem SameForwarded.counted (same : SameForwarded before after) (counted : ControlsCounted before) :
    ControlsCounted after := by
  unfold ControlsCounted
  rw [same.1, same.2]
  exact counted

/-- The counter of the forwarded controls moves as predicted and stays exact. -/
def Tallied (predicted : Nat → Except HomeError Nat) (before after : HomeState) : Prop :=
  predicted before.unacknowledgedForwardedControls = .ok after.unacknowledgedForwardedControls ∧
    (ControlsCounted before → ControlsCounted after)

/-- A forwarded control that is new waits for its acknowledgment. -/
theorem wp_forwardControl {control : ControlId} :
    wp (forwardControl config job control attempt)
      (fun _ => Tallied (fun controls => if before.forwardedControls.contains (controlKey job control) then .ok controls
        else checkedIncrement controls "unacknowledged control reservation count overflowed") before)
      (fun _ _ => True) before := by
  rw [forwardControl]
  refine wp_assume fun _ _ => ?_
  rw [wp_bind, wp_get]
  unfold Tallied SortedMap.contains
  cases found : before.forwardedControls.get? (controlKey job control) with
  | some existing => exact wp_lift.mpr ⟨fun _ _ => ⟨rfl, id⟩, fun _ _ => trivial⟩
  | none =>
    simp only [wp_bind, wp_set, wp_lift, wp_modify]
    exact ⟨fun count raised => ⟨raised, fun counted => count_raised counted raised found rfl⟩, fun _ _ => trivial⟩

theorem wp_indexEvent_controls [Crypto] {event : SignedRecord JobEvent} : wp (indexEvent config event root)
      (fun _ => Tallied (reserveControl before event.payload) before) (fun _ _ => True) before := by
  have kept : ∀ {after}, SameForwarded before after →
      (∀ request attempt, event.payload.kind ≠ .controlRequested request (some attempt)) →
      Tallied (reserveControl before event.payload) before after := by
    intro after same other
    refine ⟨?_, same.counted⟩
    rw [same.2]
    unfold reserveControl
    split
    · rename_i request attempt kind
      exact absurd kind (other request attempt)
    · rfl
  unfold indexEvent
  dsimp only
  split
  · rename_i control requestHash access kind
    refine wp_weaken (indexHomeControl_namesOnly before) fun _ _ moved => ?_
    exact kept moved.sameForwarded fun _ _ => by simp [kind]
  · rename_i request attempt kind
    refine wp_along indexHomeControl_namesOnly (fun _ _ _ => trivial) fun _ indexed moved => ?_
    have same := moved.sameForwarded
    cases attempt with
    | none => exact kept same fun _ _ => by simp [kind]
    | some attempt =>
      refine wp_weaken wp_forwardControl fun _ after spec => ?_
      rw [Tallied, same.1, same.2] at spec
      refine ⟨?_, fun counted => spec.2 (same.counted counted)⟩
      simp only [reserveControl, kind]
      exact spec.1
  · rename_i parentAttempt parentEventHash spawnKey child spawnRoot childRequestHash kind
    refine wp_assume fun _ _ => ?_
    refine wp_weaken (recordSpawn_namesOnly before) fun _ _ moved => ?_
    exact kept moved.sameForwarded fun _ _ => by simp [kind]
  · rename_i other _
    exact kept (Std.Refl.refl before) fun request attempt same => other request (some attempt) same

theorem wp_applySubmitted_reserves {event : SignedRecord JobEvent}
    (kind : event.payload.kind = .submitted spec) : wp (applySubmitted config event spec)
      (fun _ after => reserveForEvent before event.payload before.held = .ok after.held ∧ (Counted before → Counted after))
      (fun _ _ => True) before :=
  wp_submitted fun _ _ queued missing _ raised => ⟨reserveForEvent_of_submitted kind queued raised,
    fun counted => ⟨count_raised counted.jobs raised missing rfl, counted.controls⟩⟩

/-- Rewriting the record of a Job that exists moves the count by what the record counted before and after. -/
theorem count_advanced {jobs : SortedMap JobId JobRecord} {record : JobRecord} (advanced next : JobRecord)
    (found : jobs.get? job = some record) (same : next.isOpen = advanced.isOpen) :
    ((jobs.insert job advanced).insert job next).count JobRecord.isOpen + record.isOpen.toNat =
      jobs.count JobRecord.isOpen + next.isOpen.toNat := by
  have first := jobs.count_insert JobRecord.isOpen job advanced
  have second := (jobs.insert job advanced).count_insert JobRecord.isOpen job next
  rw [found] at first
  rw [SortedMap.get?_insert_self] at second
  simp only [Option.any_some] at first second
  rw [same] at second ⊢
  omega

/-- What an event that continues its Job does to the counters. -/
structure Recounts (event : JobEvent) (before after : HomeState) : Prop where
  controls : reserveControl before event before.unacknowledgedForwardedControls =
    .ok after.unacknowledgedForwardedControls
  jobs : releaseForEvent before event before.nonterminalJobs = .ok after.nonterminalJobs
  counted : Counted before → Counted after

theorem Recounts.reserves {event : JobEvent} (recounts : Recounts event before after)
    (kind : ∀ spec, event.kind ≠ .submitted spec) : reserveForEvent before event before.held = .ok after.held :=
  reserveForEvent_of_continuing kind recounts.controls recounts.jobs

theorem wp_applyTransition_reserves [Crypto] {event : SignedRecord JobEvent} :
    wp (applyTransition config event) (fun _ after => Recounts event.payload before after)
      (fun _ _ => True) before := by
  refine wp_transition (fun _ _ => wp_indexEvent_controls)
    fun record middle indexed count found checked same _ reserves released => ?_
  subst same
  obtain ⟨reserved, controls⟩ := reserves
  refine ⟨reserved, ?_, fun counted => ⟨?_, controls counted.controls⟩⟩
  · rw [releaseForEvent, found, ← released]
    simp [JobRecord.isOpen, and_comm]
  · have stays : record.snapshot.state.isTerminal = true → event.payload.stateAfter.isTerminal = true := by
      intro ended
      rw [(checkTransition_stateStep checked).terminal ended]
      exact ended
    have moved := count_advanced { record with snapshot := advanceSnapshot record.snapshot event.payload }
      ⟨advanceSnapshot record.snapshot event.payload, record.events ++ [event]⟩ found rfl
    have next : JobRecord.isOpen ⟨advanceSnapshot record.snapshot event.payload, record.events ++ [event]⟩ =
      !event.payload.stateAfter.isTerminal := rfl
    have old : record.isOpen = !record.snapshot.state.isTerminal := rfl
    have exact' := counted.jobs
    dsimp only
    rw [next, old] at moved
    -- The Job was open or ended, and its next state is open or terminal.
    cases was : record.snapshot.state.isTerminal <;> cases will : event.payload.stateAfter.isTerminal <;>
      simp only [was, will, Bool.not_true, Bool.not_false, Bool.toNat_true, Bool.toNat_false] at moved <;>
      simp [was, will] at released stays
    · omega
    · have next := checkedDecrement_eq_ok released
      omega
    · omega

theorem wp_applyJobEvent_reserves [Crypto] {event : SignedRecord JobEvent} : wp (applyJobEvent config event)
      (fun _ after => reserveForEvent before event.payload before.held = .ok after.held ∧ (Counted before → Counted after))
      (fun _ _ => True) before :=
  wp_jobEvent (fun _ => wp_applySubmitted_reserves) fun kind =>
    wp_weaken wp_applyTransition_reserves fun _ _ recounts =>
      ⟨recounts.reserves kind, recounts.counted⟩

/-- The control part of what a receipt releases. -/
def releaseControl (state : HomeState) (receipt : ExecutionReceipt) (controls : Nat) : Except HomeError Nat :=
  match receipt.stage with
  | .controlAcknowledged control _ _ =>
    if (state.forwardedControls.get? (controlKey receipt.attempt.job control)).any ForwardedControlRecord.isPending then
      checkedDecrement controls "control-ack reservation count underflowed"
    else .ok controls
  | _ => .ok controls

theorem releaseForReceipt_of_released {held : Reservations}
    (released : releaseControl state receipt held.controls = .ok controls) :
    releaseForReceipt state held receipt = .ok { held with controls } := by
  have pending : (fun retained : ForwardedControlRecord => decide (retained.acknowledgedReceiptHash = none)) =
      ForwardedControlRecord.isPending := by
    funext retained
    cases answer : retained.acknowledgedReceiptHash <;> simp [ForwardedControlRecord.isPending, answer]
  unfold releaseControl at released
  unfold releaseForReceipt
  cases stage : receipt.stage with
  | controlAcknowledged control disposition detail =>
    simp only [stage] at released ⊢
    rw [pending]
    split at released
    · rename_i waits
      rw [if_pos waits, released]
      rfl
    · rename_i answered
      rw [if_neg answered, ← Except.ok.inj released]
      rfl
  | _ =>
    simp only [stage] at released
    obtain rfl := Except.ok.inj released
    rfl

/-- The acknowledgment that a control waited for is counted; any other receipt leaves the count. -/
theorem wp_retainControlReceipt [Crypto] {control : ControlId}
    {receipt : SignedRecord ExecutionReceipt} :
    wp (retainControlReceipt control acknowledged receipt receiptHash)
      (fun _ => Tallied (fun controls => if acknowledged ∧ (before.forwardedControls.get?
            (controlKey receipt.payload.attempt.job control)).any ForwardedControlRecord.isPending then
          checkedDecrement controls "control-ack reservation count underflowed"
        else .ok controls) before)
      (fun _ _ => True) before := by
  rw [retainControlReceipt, wp_bind, wp_get]
  dsimp only
  refine wp_assume fun retained found => ?_
  rw [orError_eq_ok] at found
  refine wp_assume fun _ _ => ?_
  have inserted := before.forwardedControls.count_insert ForwardedControlRecord.isPending
    (controlKey receipt.payload.attempt.job control)
  unfold Tallied
  rw [found] at inserted ⊢
  simp only [Option.any_some] at inserted ⊢
  cases acknowledged with
  | false =>
    simp only [Bool.false_eq_true, if_false, false_and]
    split
    · exact wp_lift.mpr ⟨fun _ _ => ⟨rfl, id⟩, fun _ _ => trivial⟩
    · simp only [wp_bind, wp_set, wp_pure]
      exact ⟨trivial, fun counted => counted.trans
        (Nat.add_right_cancel (inserted { retained with queuedReceiptHash := some receiptHash })).symm⟩
  | true =>
    simp only [if_true, true_and]
    split
    · rename_i existing answered
      have settled : retained.isPending = false := by simp [ForwardedControlRecord.isPending, answered]
      exact wp_lift.mpr ⟨fun _ _ => ⟨by simp [settled], id⟩, fun _ _ => trivial⟩
    · rename_i waits
      have open' : retained.isPending = true := by simp [ForwardedControlRecord.isPending, waits]
      simp only [wp_bind, wp_set, wp_lift, wp_modify]
      have closed := inserted { retained with acknowledgedReceiptHash := some receiptHash }
      rw [open'] at closed
      exact ⟨fun count lowered => ⟨by simpa [open'] using lowered, fun counted =>
        Nat.succ.inj ((checkedDecrement_eq_ok lowered).symm.trans (counted.trans closed.symm))⟩, fun _ _ => trivial⟩

theorem wp_indexHomeControlReceipt [Crypto] {receipt : SignedRecord ExecutionReceipt} :
    wp (indexHomeControlReceipt receipt receiptHash)
      (fun _ => Tallied (releaseControl before receipt.payload) before) (fun _ _ => True) before := by
  unfold indexHomeControlReceipt
  split
  · rename_i control stage
    refine wp_weaken wp_retainControlReceipt fun _ _ spec => ?_
    simpa [Tallied, releaseControl, stage] using spec
  · rename_i control after applied stage
    refine wp_weaken wp_retainControlReceipt fun _ _ spec => ?_
    simpa [Tallied, releaseControl, stage] using spec
  · rename_i queued acknowledged
    refine ⟨?_, id⟩
    unfold releaseControl
    split
    · rename_i control after applied stage
      exact absurd stage (acknowledged control after applied)
    · rfl

theorem wp_applyReceipt_releases [Crypto] {receipt : SignedRecord ExecutionReceipt} :
    wp (applyReceipt receipt)
      (fun _ after => releaseControl before receipt.payload before.unacknowledgedForwardedControls =
          .ok after.unacknowledgedForwardedControls ∧ after.nonterminalJobs = before.nonterminalJobs ∧
        (Counted before → Counted after))
      (fun _ _ => True) before := by
  refine wp_settled wp_indexHomeControlReceipt fun _ indexed _ _ _ moved spec => ?_
  have jobs : indexed.nonterminalJobs = before.nonterminalJobs := by rw [moved]
  refine ⟨spec.1, jobs, fun counted => ⟨?_, spec.2 counted.controls⟩⟩
  rw [moved]
  exact counted.jobs

/-- Every record that the ledger admits keeps the counters exact. -/
theorem wp_applyLedgerRecord_counted [Crypto] :
    wp (applyLedgerRecord config record) (fun _ after => Counted before → Counted after) (fun _ _ => True) before := by
  have grants : ∀ grant state,
      wp (applyGrant config grant) (fun _ after => Counted state → Counted after) (fun _ _ => True) state := by
    intro grant state
    refine wp_weaken (wp_applyGrant_only config grant state) fun _ _ only => ?_
    rw [only]
    exact fun counted => ⟨counted.jobs, counted.controls⟩
  have receipts : ∀ receipt state,
      wp (applyReceipt receipt) (fun _ after => Counted state → Counted after) (fun _ _ => True) state := by
    intro receipt state
    exact wp_weaken wp_applyReceipt_releases fun _ _ spec => spec.2.2
  have events : ∀ events state,
      wp (applyEvents config events) (fun _ after => Counted state → Counted after) (fun _ _ => True) state :=
    wp_eachEvent (fun _ => id) fun event _ state => wp_weaken wp_applyJobEvent_reserves
      fun _ _ spec _ later counted => later (spec.2 counted)
  refine wp_record grants receipts fun granted settled _ first second => ?_
  refine wp_weaken (events record.events settled) fun _ _ third counted => third ?_
  exact second.of_refl (fun _ => id) (first.of_refl (fun _ => id) counted)

/-! The prediction. -/

/-- A submission is counted alike in every state. -/
theorem reserveForEvent_submitted_eq {event : JobEvent} (kind : event.kind = .submitted spec)
    (queued : event.stateAfter = .queued) :
    reserveForEvent state event held = reserveForEvent other event held := by
  have running : event.stateAfter.isTerminal = false := by rw [queued]; rfl
  simp [reserveForEvent, kind, running]

variable {event : SignedRecord JobEvent} {config : HomeConfig}

variable {receipt : SignedRecord ExecutionReceipt}

/-- A record that is applied goes by its grant, its receipt and its events. -/
theorem applyLedgerRecord_eq_ok [Crypto] (run : applyLedgerRecord config record before = .ok () after) :
    validateLedgerRecord record config = .ok () ∧
      ∃ granted, ifPresent record.grant (applyGrant config) before = .ok () granted ∧
      ∃ settled, ifPresent record.receipt applyReceipt granted = .ok () settled ∧
        applyEvents config record.events settled = .ok () after := by
  simp only [applyLedgerRecord, run_bind_eq_ok, run_lift_eq_ok] at run
  obtain ⟨_, _, ⟨valid, rfl⟩, _, granted, grants, _, settled, settles, applies⟩ := run
  exact ⟨valid, granted, grants, settled, settles, applies⟩

theorem applyEvents_singleton [Crypto] : applyEvents config [event] = applyJobEvent config event :=
  bind_pure_unit

theorem releaseForEvent_congr {other : HomeState} (same : state.jobs = other.jobs) {event : JobEvent} :
    releaseForEvent state event jobs = releaseForEvent other event jobs := by
  rw [releaseForEvent, releaseForEvent, same]

theorem reserveControl_of_other {event : JobEvent} (kind : ∀ request attempt, event.kind ≠ .controlRequested request attempt) :
    reserveControl state event controls = .ok controls := by
  unfold reserveControl
  split
  · rename_i request attempt same
    exact absurd same (kind request (some attempt))
  · rfl

/-- What an observation does to the counters. -/
theorem observation_recounts [Crypto] (kind : ∀ spec, event.payload.kind ≠ .submitted spec)
    (uncontrolled : ∀ request attempt, event.payload.kind ≠ .controlRequested request attempt)
    (run : applyLedgerRecord config ⟨none, some receipt, [event]⟩ before = .ok () after) :
    releaseForEvent before event.payload before.nonterminalJobs = .ok after.nonterminalJobs ∧
      releaseControl before receipt.payload before.unacknowledgedForwardedControls =
        .ok after.unacknowledgedForwardedControls := by
  obtain ⟨-, _, ⟨⟩, settled, settles, applies⟩ := applyLedgerRecord_eq_ok run
  rw [applyEvents_singleton] at applies
  obtain ⟨released, count, -⟩ := wp_ok wp_applyReceipt_releases settles
  obtain ⟨controls, ended, -⟩ := wp_ok (wp_jobEvent (fun spec same => absurd same (kind spec)) fun _ =>
    wp_applyTransition_reserves) applies
  rw [reserveControl_of_other uncontrolled] at controls
  rw [releaseForEvent_congr (wp_ok wp_applyReceipt settles).jobs, count] at ended
  rw [Except.ok.inj controls] at released
  exact ⟨ended, released⟩

/-- The reservations predicted for an observation are those that it leaves. -/
theorem homeReservationsAfter_observation [Crypto] (kind : ∀ spec, event.payload.kind ≠ .submitted spec)
    (uncontrolled : ∀ request attempt, event.payload.kind ≠ .controlRequested request attempt)
    (run : applyLedgerRecord config ⟨none, some receipt, [event]⟩ before = .ok () after) :
    homeReservationsAfter before ⟨none, some receipt, [event]⟩ = homeReservations after := by
  obtain ⟨ended, released⟩ := observation_recounts kind uncontrolled run
  have reserved : reserveForEvent before event.payload before.held =
      .ok ⟨after.nonterminalJobs, before.unacknowledgedForwardedControls⟩ :=
    reserveForEvent_of_continuing kind (reserveControl_of_other uncontrolled) ended
  have answered : releaseForReceipt before ⟨after.nonterminalJobs, before.unacknowledgedForwardedControls⟩ receipt.payload =
      .ok after.held := releaseForReceipt_of_released released
  simp only [homeReservationsAfter, reserveForEvents]
  rw [HomeState.held] at reserved
  rw [reserved]
  simp only [bind, Except.bind]
  rw [answered]
  rfl

theorem homeReservationsAfter_event [Crypto]
    (run : applyLedgerRecord config ⟨grant, none, [event]⟩ before = .ok () after) :
    homeReservationsAfter before ⟨grant, none, [event]⟩ = homeReservations after := by
  obtain ⟨-, granted, grants, _, ⟨⟩, applies⟩ := applyLedgerRecord_eq_ok run
  rw [applyEvents_singleton] at applies
  have reserved : reserveForEvent before event.payload before.held = .ok after.held := by
    obtain ⟨reserved, -⟩ := wp_ok wp_applyJobEvent_reserves applies
    cases grant with
    | none =>
      cases grants
      exact reserved
    | some grant =>
      rw [wp_ok (wp_applyGrant_only config grant before) grants] at reserved
      exact reserved
  simp only [homeReservationsAfter, reserveForEvents]
  rw [HomeState.held] at reserved
  rw [reserved]
  rfl

theorem homeReservationsAfter_spawn [Crypto] {child : SignedRecord JobEvent}
    (kind : child.payload.kind = .submitted spec)
    (run : applyLedgerRecord config ⟨none, none, [parent, child]⟩ before = .ok () after) :
    homeReservationsAfter before ⟨none, none, [parent, child]⟩ = homeReservations after := by
  obtain ⟨-, _, ⟨⟩, _, ⟨⟩, applies⟩ := applyLedgerRecord_eq_ok run
  simp only [applyEvents, run_bind_eq_ok] at applies
  obtain ⟨_, middle, one, _, _, two, ⟨⟩⟩ := applies
  obtain ⟨first, -⟩ := wp_ok wp_applyJobEvent_reserves one
  obtain ⟨second, -⟩ := wp_ok wp_applyJobEvent_reserves two
  obtain ⟨_, stepped, -⟩ := (wp_ok wp_applyJobEvent two).stepped
  have queued : child.payload.stateAfter = .queued := by
    generalize middle.jobs.get? child.payload.handle.job = found at stepped
    cases stepped with
    | submitted _ _ queued => exact queued
    | advanced other _ => exact absurd kind (other spec)
  rw [reserveForEvent_submitted_eq kind queued] at second
  simp only [homeReservationsAfter, reserveForEvents]
  rw [HomeState.held] at first
  rw [first]
  simp only [bind, Except.bind]
  rw [second]
  rfl

theorem receiptOutcome_continues {receipt : ExecutionReceipt} :
    (receiptOutcome snapshot highest receipt).2.2 ≠ .submitted spec := by
  unfold receiptOutcome stageEvent
  split
  · simp
  · cases receipt.stage <;> simp

/-- The event of a receipt neither submits a Job nor requests a control. -/
theorem Produced.observed [Crypto] (produced : Produced state ⟨none, some receipt, [event]⟩) :
    (∀ spec, event.payload.kind ≠ .submitted spec) ∧
      ∀ request attempt, event.payload.kind ≠ .controlRequested request attempt := by
  cases produced with
  | @observation _ _ record found handle outcome =>
    have kind : event.payload.kind = (receiptOutcome record.snapshot (state.highest receipt.payload.attempt)
      receipt.payload).2.2 := by rw [← outcome]
    rw [kind]
    exact ⟨fun _ => receiptOutcome_continues, fun _ _ => receiptOutcome_kind _⟩

variable {record : HomeLedgerRecord}

/-- The reservations predicted for a record of the Home are those of the state that the record leads to. -/
theorem Produced.reservations [Crypto] (produced : Produced before record)
    (run : applyLedgerRecord config record before = .ok () after) :
    homeReservationsAfter before record = homeReservations after := by
  cases produced with
  | submission _ | dispatch _ | continuation _ _ => exact homeReservationsAfter_event run
  | spawn _ _ kind _ => exact homeReservationsAfter_spawn kind run
  | observation found handle outcome =>
    obtain ⟨kind, uncontrolled⟩ := (Produced.observation found handle outcome).observed
    exact homeReservationsAfter_observation kind uncontrolled run

variable {allowed : HomeState → HomeLedgerRecord → Prop} {signer : Text} {home : FunctionHome} {host : Host}

theorem releaseControl_spec {receipt : ExecutionReceipt}
    (released : releaseControl state receipt held = .ok controls) :
    controls ≤ held ∧ ∀ control disposition detail, receipt.stage = .controlAcknowledged control disposition detail →
      (state.forwardedControls.get? (controlKey receipt.attempt.job control)).any ForwardedControlRecord.isPending = true →
      controls < held := by
  unfold releaseControl at released
  split at released
  · rename_i control disposition detail stage
    split at released
    · have next := checkedDecrement_eq_ok released
      exact ⟨by omega, fun _ _ _ _ _ => by omega⟩
    · rename_i answered
      obtain rfl := Except.ok.inj released
      refine ⟨Nat.le_refl _, fun other _ _ same waits => ?_⟩
      rw [stage] at same
      obtain ⟨rfl, _, _⟩ := ExecutionStage.controlAcknowledged.inj same
      exact absurd waits answered
  · rename_i other
    obtain rfl := Except.ok.inj released
    exact ⟨Nat.le_refl _, fun control disposition detail same _ => absurd same (other control disposition detail)⟩

theorem homeReservations_eq_ok : homeReservations state = .ok reserved ↔
      reserved = state.nonterminalJobs + state.unacknowledgedForwardedControls ∧ reserved < 2 ^ 64 := by
  unfold homeReservations Reservations.total
  split
  · rename_i fits
    simp only [Except.ok.injEq]
    constructor
    · rintro rfl
      exact ⟨rfl, fits⟩
    · rintro ⟨rfl, _⟩
      rfl
  · rename_i large
    simp only [reduceCtorEq, false_iff, not_and]
    rintro rfl fits
    exact large fits

/-- A receipt that gives a slot back: its event ends an open Job, or it is the acknowledgment that a retained
control waits for. -/
def Releases (state : HomeState) (receipt : ExecutionReceipt) (event : JobEvent) : Prop :=
  (event.stateAfter.isTerminal = true ∧ (state.jobs.get? event.handle.job).any JobRecord.isOpen = true) ∨
    ∃ control disposition detail, receipt.stage = .controlAcknowledged control disposition detail ∧
      (state.forwardedControls.get? (controlKey receipt.attempt.job control)).any ForwardedControlRecord.isPending = true

theorem releaseForEvent_spec {event : JobEvent}
    (released : releaseForEvent state event held = .ok jobs) : jobs ≤ held ∧ (event.stateAfter.isTerminal = true →
      (state.jobs.get? event.handle.job).any JobRecord.isOpen = true → jobs < held) := by
  unfold releaseForEvent at released
  split at released
  · have next := checkedDecrement_eq_ok released
    omega
  · rename_i running
    obtain rfl := Except.ok.inj released
    exact ⟨Nat.le_refl _, fun ended opened => absurd ⟨ended, opened⟩ running⟩

section

variable [Crypto]

/-- Every record that a run of steps appended was predicted in the state that it met. -/
theorem Moves.predicted {after : FunctionHome} (moves : Moves allowed signer home after)
    {entry : SignedRecord (ChainEntry HomeLedgerRecord)}
    (grown : after.journal.records = home.journal.records ++ earlier ++ entry :: later)
    (replayed : replay home.config (eventsOf earlier) home.state = .ok () met)
    (applied : applyLedgerRecord home.config entry.payload.event met = .ok () left) :
    homeReservationsAfter met entry.payload.event = homeReservations left := by
  induction moves generalizing later with
  | refl => simp at grown
  | @tail middle final moved step ih =>
    cases step with
    | cached binding same =>
      subst same
      exact ih grown
    | poisoned _ _ _ _ poisoned same =>
      subst same
      exact ih (poisoned.records.symm.trans grown)
    | @logged record last journal state _ produced _ continued appended ran same =>
      subst same
      have whole := appended.records.symm.trans grown
      rcases List.eq_nil_or_concat later with rfl | ⟨shorter, newest, rfl⟩
      · -- The appended entry is the one in question: it met the state of the steps before.
        obtain ⟨records, same⟩ := List.append_inj' whole rfl
        obtain rfl : last = entry := by simpa using same
        obtain ⟨others, longer, commits⟩ := (Moves.committed moved).applied
        obtain rfl : others = earlier := List.append_cancel_left (longer.symm.trans records)
        rw [commits] at replayed
        obtain rfl : middle.state = met := (EStateM.Result.ok.inj replayed).2
        rw [continued.event] at applied ⊢
        exact produced.reservations applied
      · have split : home.journal.records ++ earlier ++ entry :: shorter.concat newest =
            home.journal.records ++ earlier ++ entry :: shorter ++ [newest] := by simp
        exact ih (List.append_inj' (whole.trans split) rfl).1

/-- The journal has room for what is reserved. -/
def Reserved (home : FunctionHome) : Prop :=
  ∃ reserved, homeReservations home.state = .ok reserved ∧
    reserved ≤ home.journal.caps.maxRecords - home.journal.records.length

theorem admit_eq_ok : home.admit record = .ok () ↔ validateLedgerRecord record home.config = .ok () ∧
      preflightLedgerTransition home.config home.state record = .ok () ∧ home.journal.healthy = true ∧
      ∃ reserved, homeReservationsAfter home.state record = .ok reserved ∧
        reserved < home.journal.caps.maxRecords - home.journal.records.length := by
  simp only [ FunctionHome.admit, bind_eq_ok, reject_eq_ok, Nat.not_le]
  constructor
  · rintro ⟨_, valid, _, tried, reserved, predicted, remaining, rest, fits⟩
    simp only [ofJournal, mapError_eq_ok, SignedJournal.remainingRecords, SignedJournal.ensureHealthy,
      bind_eq_ok, pure_eq_ok, reject_eq_ok, Bool.not_eq_false] at rest
    obtain ⟨_, healthy, rfl⟩ := rest
    exact ⟨valid, tried, healthy, reserved, predicted, fits⟩
  · rintro ⟨valid, tried, healthy, reserved, predicted, fits⟩
    refine ⟨(), valid, (), tried, reserved, predicted, _, ?_, fits⟩
    simp [ofJournal, mapError_eq_ok, SignedJournal.remainingRecords, SignedJournal.ensureHealthy, healthy, reject]

theorem Reserved.step {before after : FunctionHome} (step : HomeStep allowed signer before after)
    (held : Reserved before) : Reserved after := by
  cases step with
  | cached binding same =>
    subst same
    exact held
  | poisoned _ _ _ _ poisoned same =>
    subst same
    obtain ⟨reserved, now, fits⟩ := held
    exact ⟨reserved, now, by rw [poisoned.records, poisoned.caps]; exact fits⟩
  | @logged record entry journal state writes produced _ _ appended applied same =>
    subst same
    obtain ⟨_, _, _, reserved, predicted, fits⟩ := admit_eq_ok.mp writes.admitted
    refine ⟨reserved, (produced.reservations applied).symm.trans predicted, ?_⟩
    rw [appended.records, appended.caps, List.length_append, List.length_singleton]
    omega

/-- What a process that kept its reservations knows. -/
structure Provided (home : FunctionHome) : Prop where
  counted : Counted home.state
  reserved : Reserved home

theorem Provided.opened {disk after : Disk} (opened : OpenedFrom host config disk home after) : Provided home := by
  obtain ⟨coordinator, recovers⟩ := opened.state
  have counted : Counted home.state := by
    refine replay_keeps (fun record before after run => ?_) (recoverState_eq_ok recovers) counted_initial
    exact wp_ok wp_applyLedgerRecord_counted run
  refine ⟨counted, ?_⟩
  unfold recoverState at recovers
  split at recovers
  · cases recovers
  · simp only [bind_eq_ok, pure_eq_ok, reject_eq_ok, Nat.not_lt] at recovers
    obtain ⟨reserved, now, remaining, rest, _, fits, _, _, rfl⟩ := recovers
    simp only [ofJournal, mapError_eq_ok, SignedJournal.remainingRecords, bind_eq_ok, pure_eq_ok] at rest
    obtain ⟨_, _, rfl⟩ := rest
    exact ⟨reserved, now, fits⟩

theorem Provided.step {before after : FunctionHome} (step : HomeStep allowed signer before after)
    (provided : Provided before) : Provided after := by
  refine ⟨?_, provided.reserved.step step⟩
  cases step with
  | cached _ same | poisoned _ _ _ _ _ same =>
    subst same
    exact provided.counted
  | logged _ _ _ _ _ applied same =>
    subst same
    exact wp_ok wp_applyLedgerRecord_counted applied provided.counted

theorem Provided.moves {before after : FunctionHome} (moves : Moves allowed signer before after)
    (provided : Provided before) : Provided after := by
  induction moves with
  | refl => exact provided
  | tail _ step ih => exact ih.step step

theorem Provided.operation (operation : Operation) (provided : Provided home) :
    Provided (operation.perform host home) := by
  rcases operation.moves_or_keeps host home with moves | ⟨journal, state⟩
  · exact provided.moves moves
  · exact ⟨state ▸ provided.counted, by unfold Reserved; rw [journal, state]; exact provided.reserved⟩

/-- A receipt that gives a slot back finds one, and so does any receipt while one is not reserved. -/
theorem Provided.admits (provided : Provided home) (produced : Produced home.state ⟨none, some receipt, [event]⟩)
    (tried : preflightLedgerTransition home.config home.state ⟨none, some receipt, [event]⟩ = .ok ())
    (healthy : home.journal.healthy = true) (slot : Releases home.state receipt.payload event.payload ∨
      ∀ held, homeReservations home.state = .ok held → held < home.journal.caps.maxRecords - home.journal.records.length) :
    home.admit ⟨none, some receipt, [event]⟩ = .ok () ∧
      home.journal.records.length < home.journal.caps.maxRecords := by
  obtain ⟨after, run⟩ := preflight_eq_ok.mp tried
  obtain ⟨kind, uncontrolled⟩ := produced.observed
  obtain ⟨ended, answered⟩ := observation_recounts kind uncontrolled run
  obtain ⟨fewer, closes⟩ := releaseForEvent_spec ended
  obtain ⟨fewer', settles⟩ := releaseControl_spec answered
  obtain ⟨held, now, fits⟩ := provided.reserved
  obtain ⟨rfl, small⟩ := homeReservations_eq_ok.mp now
  have less : after.nonterminalJobs + after.unacknowledgedForwardedControls <
      home.journal.caps.maxRecords - home.journal.records.length := by
    rcases slot with (⟨terminal, opened⟩ | ⟨control, disposition, detail, stage, waits⟩) | room
    · have := closes terminal opened
      omega
    · have := settles control disposition detail stage waits
      omega
    · have := room _ now
      omega
  have predicted := (produced.reservations run).trans (homeReservations_eq_ok.mpr ⟨rfl, by omega⟩)
  exact ⟨admit_eq_ok.mpr ⟨(applyLedgerRecord_eq_ok run).1, tried, healthy, _, predicted, less⟩, by omega⟩

namespace Fleet

variable {ι : Type} [DecidableEq ι] {fleet : Fleet ι} {world : World ι} {root : ι}

theorem provided_of_reachable (reached : fleet.system.Reachable world) : EachProcess Provided world := by
  refine process_invariant ?_ ?_ ?_ reached
  · intro host config disk home after opened
    exact .opened opened
  · intro host operation home provided
    exact provided.operation operation
  · intro home disk provided
    exact ⟨provided.counted, provided.reserved⟩

/-- The safety reservations of a Home. In every reachable state the counters are the numbers of open Jobs and of
unanswered forwarded controls; every record that an operation appends was predicted in the state that it met;
and the journal has room for what is reserved. So a receipt that gives a slot back is admitted, and the journal
has a slot for it. -/
theorem reservations_kept (reached : fleet.system.Reachable world) {home : FunctionHome}
    (running : (world root).process? = some home) :
    (home.state.nonterminalJobs = home.state.jobs.count JobRecord.isOpen ∧
      home.state.unacknowledgedForwardedControls = home.state.forwardedControls.count ForwardedControlRecord.isPending) ∧
    (∀ host (operation : Operation) earlier entry later met left,
      (operation.perform host home).journal.records = home.journal.records ++ earlier ++ entry :: later →
      replay home.config (eventsOf earlier) home.state = .ok () met →
      applyLedgerRecord home.config entry.payload.event met = .ok () left →
      homeReservationsAfter met entry.payload.event = homeReservations left) ∧
    (∃ reserved, homeReservations home.state = .ok reserved ∧
      reserved ≤ home.journal.caps.maxRecords - home.journal.records.length) ∧
    ∀ receipt event, Produced home.state ⟨none, some receipt, [event]⟩ →
      preflightLedgerTransition home.config home.state ⟨none, some receipt, [event]⟩ = .ok () →
      home.journal.healthy = true → Releases home.state receipt.payload event.payload →
      home.admit ⟨none, some receipt, [event]⟩ = .ok () ∧
        home.journal.records.length < home.journal.caps.maxRecords := by
  have provided := provided_of_reachable reached root home running
  refine ⟨⟨provided.counted.jobs, provided.counted.controls⟩, ?_, provided.reserved, ?_⟩
  · intro host operation earlier entry later met left grown replayed applied
    rcases operation.moves_or_keeps host home with moves | ⟨journal, _⟩
    · exact Moves.predicted moves grown replayed applied
    · rw [journal] at grown
      simp at grown
  · intro receipt event produced tried healthy releases
    exact provided.admits produced tried healthy (.inl releases)

end Fleet

end

namespace Fleet

section

attribute [local instance] Wire.Sample.collisionFree

/-- A root that has accepted a Job keeps one slot for it. -/
theorem reservations_kept_submitted :
    ∃ home, (Sample.world Sample.submitted ()).process? = some home ∧ home.state.nonterminalJobs = 1 ∧
      (home.state.nonterminalJobs = home.state.jobs.count JobRecord.isOpen ∧
        home.state.unacknowledgedForwardedControls =
          home.state.forwardedControls.count ForwardedControlRecord.isPending) ∧
      (∀ host (operation : Operation) earlier entry later met left,
        (operation.perform host home).journal.records = home.journal.records ++ earlier ++ entry :: later →
        replay home.config (eventsOf earlier) home.state = .ok () met →
        applyLedgerRecord home.config entry.payload.event met = .ok () left →
        homeReservationsAfter met entry.payload.event = homeReservations left) ∧
      (∃ reserved, homeReservations home.state = .ok reserved ∧
        reserved ≤ home.journal.caps.maxRecords - home.journal.records.length) ∧
      ∀ receipt event, Produced home.state ⟨none, some receipt, [event]⟩ →
        preflightLedgerTransition home.config home.state ⟨none, some receipt, [event]⟩ = .ok () →
        home.journal.healthy = true → Releases home.state receipt.payload event.payload →
        home.admit ⟨none, some receipt, [event]⟩ = .ok () ∧
          home.journal.records.length < home.journal.caps.maxRecords := by
  obtain ⟨home, running, _, _, _, one⟩ := Sample.submitted_runs
  exact ⟨home, running, one, reservations_kept Sample.submitted_reachable running⟩

end

end Fleet

end Gawd.Home
