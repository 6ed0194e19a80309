import Gawd.Home.Indexing
import Gawd.Home.JobLife
import Gawd.Home.Outgoing

/-!
The recovery sweep of a Home, walked in batches while the Home goes on working.
-/

namespace Gawd.Home

open Gawd.Logic Gawd.Wire Gawd.Journal

/-! The keys come in strictly increasing order. -/

variable {attempt : AttemptId}

theorem controlRecoveryKey_eq_some {event : SignedRecord JobEvent}
    (found : controlRecoveryKey state job attempt event = some key) :
    key = recoveryKey job homeRecoveryControl event.payload.sequence := by
  unfold controlRecoveryKey at found
  split at found
  · split at found
    · exact (Option.some.inj found).symm
    · cases found
  · cases found

variable {record : JobRecord}

theorem mem_jobRecoveryKeys (member : key ∈ jobRecoveryKeys state job record) :
    ∃ kind sequence, key = recoveryKey job kind sequence := by
  unfold jobRecoveryKeys at member
  split at member
  · exact ⟨_, _, List.mem_singleton.mp member⟩
  · exact ⟨_, _, List.mem_singleton.mp member⟩
  all_goals try exact absurd member List.not_mem_nil
  all_goals
    split at member
    · exact absurd member List.not_mem_nil
    · split at member
      · rcases List.mem_cons.mp member with first | later
        · exact ⟨_, _, first⟩
        · obtain ⟨event, _, found⟩ := List.mem_filterMap.mp later
          exact ⟨_, _, controlRecoveryKey_eq_some found⟩
      · exact absurd member List.not_mem_nil

theorem attemptRecoveryKeys_sorted (sequenced : Sequenced job record) : (recoveryKey job homeRecoveryAttempt 0 ::
      record.events.filterMap (controlRecoveryKey state job attempt)).Pairwise (· < ·) := by
  refine List.pairwise_cons.mpr ⟨fun key member => ?_, ?_⟩
  · obtain ⟨event, _, found⟩ := List.mem_filterMap.mp member
    rw [controlRecoveryKey_eq_some found]
    simp [recoveryKey, Prod.Lex.toLex_lt_toLex, homeRecoveryAttempt, homeRecoveryControl]
  · have increasing : record.events.Pairwise fun earlier later => earlier.payload.sequence < later.payload.sequence := by
      rw [← List.pairwise_map (f := fun event : SignedRecord JobEvent => event.payload.sequence), sequenced.1]
      exact List.pairwise_lt_range'
    refine List.pairwise_filterMap.mpr (increasing.imp fun {earlier later} less => ?_)
    intro one first two second
    rw [controlRecoveryKey_eq_some first, controlRecoveryKey_eq_some second]
    simp [recoveryKey, Prod.Lex.toLex_lt_toLex, less]

theorem jobRecoveryKeys_sorted (sequenced : Sequenced job record) :
    (jobRecoveryKeys state job record).Pairwise (· < ·) := by
  unfold jobRecoveryKeys
  split
  · exact List.pairwise_singleton _ _
  · exact List.pairwise_singleton _ _
  all_goals try exact List.Pairwise.nil
  all_goals
    split
    · exact List.Pairwise.nil
    · split
      · exact attemptRecoveryKeys_sorted sequenced
      · exact List.Pairwise.nil

theorem recoveryKeys_sorted (sequenced : EachJob Sequenced state) : (recoveryKeys state).Pairwise (· < ·) := by
  rw [recoveryKeys, List.pairwise_flatMap]
  constructor
  · intro entry member
    exact jobRecoveryKeys_sorted (sequenced entry.1 entry.2 (state.jobs.mem_entries_iff.mp member))
  · refine state.jobs.sorted.imp fun {left right} less => ?_
    intro one first two second
    obtain ⟨_, _, rfl⟩ := mem_jobRecoveryKeys first
    obtain ⟨_, _, rfl⟩ := mem_jobRecoveryKeys second
    exact Prod.Lex.toLex_lt_toLex.mpr (.inl less)

/-! One batch. -/

namespace HomeRecoverySweep

/-- The keys between the cursor and the captured end. -/
def ahead (sweep : HomeRecoverySweep) (keys : List HomeRecoveryKey) : List HomeRecoveryKey :=
  match sweep.highWater with
  | none => []
  | some highWater => keys.filter fun key => sweep.beyond key ∧ key ≤ highWater

def limit (sweep : HomeRecoverySweep) : Nat :=
  min sweep.remaining maxHomeRecoveryDispatches

/-- The sweep is under way and has not passed the key. -/
def Awaits (sweep : HomeRecoverySweep) (key : HomeRecoveryKey) : Prop :=
  sweep.remaining ≠ 0 ∧ sweep.beyond key = true

variable {sweep : HomeRecoverySweep} {keys : List HomeRecoveryKey} {ending : HomeRecoveryKey}

theorem ahead_eq (mark : sweep.highWater = some ending) :
    sweep.ahead keys = keys.filter fun key => sweep.beyond key ∧ key ≤ ending := by
  rw [ahead, mark]

theorem batch_eq (mark : sweep.highWater = some ending) : sweep.batch ending keys =
      ((sweep.ahead keys).take sweep.limit, decide (sweep.limit < (sweep.ahead keys).length)) := by
  have more : sweep.limit < ((sweep.ahead keys).take (sweep.limit + 1)).length ↔
      sweep.limit < (sweep.ahead keys).length := by
    rw [List.length_take]
    omega
  unfold batch
  rw [← ahead_eq mark]
  change (((sweep.ahead keys).take (sweep.limit + 1)).take sweep.limit, decide _) = _
  rw [List.take_take, Nat.min_eq_left (Nat.le_succ _)]
  exact congrArg (Prod.mk _) (decide_eq_decide.mpr more)

theorem limit_pos (pending : sweep.remaining ≠ 0) : 0 < sweep.limit := by
  simp only [limit, maxHomeRecoveryDispatches]
  omega

/-- A batch takes the first of the keys ahead. It ends the sweep when it finds no more of them, or when as many
as were captured have been visited. -/
theorem advance_eq (pending : sweep.remaining ≠ 0) : sweep.advance keys = ((sweep.ahead keys).take sweep.limit,
      if sweep.ahead keys = [] then { sweep with remaining := 0 }
      else ⟨((sweep.ahead keys).take sweep.limit).getLast?, sweep.highWater,
        if sweep.limit < (sweep.ahead keys).length then sweep.remaining - sweep.limit else 0⟩) := by
  rw [advance, if_neg pending]
  cases mark : sweep.highWater with
  | none => simp [ahead, mark]
  | some ending =>
    simp only [batch_eq mark]
    cases found : sweep.ahead keys with
    | nil => simp
    | cons first rest =>
      have nonempty : (List.take sweep.limit (first :: rest)).getLast? ≠ none := by simp [(limit_pos pending).ne']
      obtain ⟨last, ends⟩ := Option.ne_none_iff_exists'.mp nonempty
      simp only [ends, reduceCtorEq, if_false, decide_eq_true_eq, List.length_take, Prod.mk.injEq, true_and,
        HomeRecoverySweep.mk.injEq]
      split
      · rename_i more
        rw [Nat.min_eq_left more.le]
      · rfl

/-- What a batch does to a sweep under way. -/
inductive Advanced (sweep : HomeRecoverySweep) (keys : List HomeRecoveryKey) :
    List HomeRecoveryKey → HomeRecoverySweep → Prop where
  | exhausted : next.remaining = 0 → Advanced sweep keys (sweep.ahead keys) next
  | spent : sweep.remaining < (sweep.ahead keys).length → next.remaining = 0 →
      Advanced sweep keys ((sweep.ahead keys).take sweep.remaining) next
  | continued : sweep.limit < sweep.remaining → sweep.limit < (sweep.ahead keys).length →
      ((sweep.ahead keys).take sweep.limit).getLast? = some last →
      Advanced sweep keys ((sweep.ahead keys).take sweep.limit)
        ⟨some last, sweep.highWater, sweep.remaining - sweep.limit⟩

theorem advanced (pending : sweep.remaining ≠ 0) : Advanced sweep keys (sweep.advance keys).1 (sweep.advance keys).2 := by
  rw [advance_eq pending]
  by_cases more : sweep.limit < (sweep.ahead keys).length
  · have some' : sweep.ahead keys ≠ [] := by
      rintro empty
      simp [empty] at more
    rw [if_neg some', if_pos more]
    by_cases left : sweep.limit < sweep.remaining
    · have nonempty : ((sweep.ahead keys).take sweep.limit).getLast? ≠ none := by
        simp [(limit_pos pending).ne', some']
      obtain ⟨last, ends⟩ := Option.ne_none_iff_exists'.mp nonempty
      rw [ends]
      exact .continued left more ends
    · have all : sweep.limit = sweep.remaining := Nat.le_antisymm (Nat.min_le_left _ _) (Nat.not_lt.mp left)
      rw [all] at more ⊢
      exact .spent more (Nat.sub_self _)
  · rw [List.take_of_length_le (Nat.not_lt.mp more), if_neg more]
    refine .exhausted ?_
    split <;> rfl

variable {key : HomeRecoveryKey}

theorem mem_ahead (mark : sweep.highWater = some ending) :
    key ∈ sweep.ahead keys ↔ key ∈ keys ∧ sweep.beyond key = true ∧ key ≤ ending := by
  rw [ahead_eq mark, List.mem_filter, decide_eq_true_eq]

theorem ahead_sublist : (sweep.ahead keys).Sublist keys := by
  unfold ahead
  split
  · exact List.nil_sublist keys
  · exact List.filter_sublist

/-- A batch visits some of the keys ahead, in their order. -/
theorem Advanced.visited_prefix (step : Advanced sweep keys visited next) : visited <+: sweep.ahead keys := by
  cases step with
  | exhausted _ => exact List.prefix_rfl
  | spent _ _ | continued _ _ _ => exact List.take_prefix _ _

/-- The start of a sorted list is what lies up to its last element. -/
theorem mem_take_iff (sorted : keys.Pairwise (· < ·)) (ends : (keys.take count).getLast? = some last) :
    key ∈ keys.take count ↔ key ∈ keys ∧ key ≤ last := by
  obtain ⟨earlier, split⟩ := List.getLast?_eq_some_iff.mp ends
  have parts := List.take_append_drop count keys
  rw [← parts, List.pairwise_append, split, List.pairwise_append] at sorted
  obtain ⟨⟨_, _, below⟩, _, above⟩ := sorted
  constructor
  · intro member
    refine ⟨List.mem_of_mem_take member, ?_⟩
    rw [split] at member
    rcases List.mem_append.mp member with old | new
    · exact (below key old last (List.mem_singleton_self last)).le
    · rw [List.mem_singleton.mp new]
  · rintro ⟨member, up⟩
    rw [← parts] at member
    rcases List.mem_append.mp member with taken | later
    · exact taken
    · have beyond := above last (by simp) key later
      exact absurd up (not_le.mpr beyond)

end HomeRecoverySweep

/-! Whole sweeps. -/

section

variable [Crypto] {ι : Type} [DecidableEq ι] {fleet : Fleet ι} {root : ι} {captured : List HomeRecoveryKey}

/-- One batch of a sweep: the Home it found, the sweep before and after, and the keys it visited. -/
structure Batch where
  home : FunctionHome
  before : HomeRecoverySweep
  after : HomeRecoverySweep
  visited : List HomeRecoveryKey

/-- The batch passes the key. -/
def Batch.Passes (batch : Batch) (key : HomeRecoveryKey) : Prop :=
  batch.before.Awaits key ∧ ¬ batch.after.Awaits key

/-- The batch found its Home authoritative, and between its cursor and the end of the sweep only captured keys. -/
def Batch.Quiet (captured : List HomeRecoveryKey) (batch : Batch) : Prop :=
  batch.home.authoritative = .ok () ∧ ∀ key ∈ batch.before.ahead (recoveryKeys batch.home.state), key ∈ captured

/-- The keys that `continue_recovery_sweep` visits. -/
def visitedKeys (home : FunctionHome) (sweep : HomeRecoverySweep) : List HomeRecoveryKey :=
  match home.authoritative with
  | .error _ => []
  | .ok _ => (sweep.advance (recoveryKeys home.state)).1

/-- The roots of a Home while one of them sweeps. -/
structure Sweeping (ι : Type) where
  world : World ι
  sweep : HomeRecoverySweep
  batches : List Batch

inductive SweepLabel (ι : Type) where
  | work (actor : ι) (command : Command)
  | poke (host : Host)

/-- A sweep begins at a reachable Home with the keys that it finds. Then the roots do whatever they may do, and
pokes go on with the sweep. -/
def sweepSystem (fleet : Fleet ι) (root : ι) (captured : List HomeRecoveryKey) :
    TransitionSystem (Sweeping ι) (SweepLabel ι) where
  start first := fleet.system.Reachable first.world ∧ first.batches = [] ∧
    ∃ home, (first.world root).process? = some home ∧ home.authoritative = .ok () ∧
      captured = recoveryKeys home.state ∧ first.sweep = beginRecoverySweep home
  step before label after :=
    match label with
    | .work actor command => fleet.system.step before.world (actor, command) after.world ∧
        after.sweep = before.sweep ∧ after.batches = before.batches
    | .poke host => after.world = before.world ∧ ∃ home, (before.world root).process? = some home ∧
        after.sweep = (continueRecoverySweep host home before.sweep).2 ∧
        after.batches = before.batches ++ [⟨home, before.sweep, after.sweep, visitedKeys home before.sweep⟩]

/-- What holds of a sweep whatever happens in between. -/
structure SweepSound (fleet : Fleet ι) (captured : List HomeRecoveryKey) (state : Sweeping ι) : Prop where
  world : fleet.system.Reachable state.world
  sorted : (state.batches.flatMap Batch.visited).Pairwise (· < ·)
  passed : ∀ key ∈ state.batches.flatMap Batch.visited, ¬ state.sweep.Awaits key
  pokes : (state.batches.filter fun batch => 0 < batch.after.remaining).length + state.sweep.remaining ≤ captured.length

variable {sweep : HomeRecoverySweep}

omit [Crypto] in
/-- A key that the sweep has passed comes before every key that it awaits. -/
theorem HomeRecoverySweep.Awaits.after (awaits : sweep.Awaits later) (passed : ¬ sweep.Awaits earlier) :
    earlier < later := by
  have behind : sweep.beyond earlier ≠ true := fun beyond => passed ⟨awaits.1, beyond⟩
  have ahead := awaits.2
  unfold HomeRecoverySweep.beyond at behind ahead
  split at behind
  · exact absurd rfl behind
  · rename_i cursor stands
    simp only [ne_eq, stands, decide_eq_true_eq, not_lt] at behind ahead
    exact behind.trans_lt ahead

variable {home : FunctionHome}

/-- A poke goes on with the sweep under way, where the Home has authority. -/
theorem poke_advanced (host : Host) (authority : home.authoritative = .ok ()) (pending : sweep.remaining ≠ 0) :
    HomeRecoverySweep.Advanced sweep (recoveryKeys home.state) (visitedKeys home sweep)
      (continueRecoverySweep host home sweep).2 := by
  unfold visitedKeys continueRecoverySweep
  rw [authority]
  exact HomeRecoverySweep.advanced pending

/-- Otherwise it ends the sweep. -/
theorem poke_cases :
    (visitedKeys home sweep = [] ∧ (continueRecoverySweep host home sweep).2.remaining = 0) ∨
      (home.authoritative = .ok () ∧ sweep.remaining ≠ 0) := by
  cases authority : home.authoritative with
  | error _ =>
    left
    unfold visitedKeys continueRecoverySweep
    rw [authority]
    exact ⟨rfl, rfl⟩
  | ok _ =>
    by_cases idle : sweep.remaining = 0
    · left
      unfold visitedKeys continueRecoverySweep
      rw [authority]
      simp [HomeRecoverySweep.advance, idle]
    · exact .inr ⟨rfl, idle⟩

variable {keys : List HomeRecoveryKey} {key : HomeRecoveryKey}

omit [Crypto] in
theorem HomeRecoverySweep.awaits_of_ahead (pending : sweep.remaining ≠ 0) (member : key ∈ sweep.ahead keys) :
    sweep.Awaits key := by
  unfold HomeRecoverySweep.ahead at member
  split at member
  · cases member
  · rw [List.mem_filter, decide_eq_true_eq] at member
    exact ⟨pending, member.2.1⟩

variable {next : HomeRecoverySweep} {visited : List HomeRecoveryKey}

omit [Crypto] in
/-- After a batch the sweep awaits no key that it had passed, and none that the batch visited. -/
theorem HomeRecoverySweep.Advanced.passed (sorted : keys.Pairwise (· < ·)) (pending : sweep.remaining ≠ 0)
    (step : Advanced sweep keys visited next) (old : ¬ sweep.Awaits key ∨ key ∈ visited) : ¬ next.Awaits key := by
  cases step with
  | exhausted ended | spent _ ended => exact fun awaits => awaits.1 ended
  | @continued last _ _ ends =>
    have among : last ∈ sweep.ahead keys := List.mem_of_mem_take (List.mem_of_getLast? ends)
    have up : key ≤ last := by
      rcases old with passed | visited
      · exact ((awaits_of_ahead pending among).after passed).le
      · exact ((mem_take_iff (sorted.sublist ahead_sublist) ends).mp visited).2
    rintro ⟨_, later⟩
    exact absurd up (not_le.mpr (of_decide_eq_true later))

theorem SweepSound.poke {before after : Sweeping ι} (sound : SweepSound fleet captured before)
    (running : (before.world root).process? = some home) (world : after.world = before.world)
    (sweep : after.sweep = (continueRecoverySweep host home before.sweep).2)
    (batches : after.batches = before.batches ++ [⟨home, before.sweep, after.sweep, visitedKeys home before.sweep⟩]) :
    SweepSound fleet captured after := by
  have keys := recoveryKeys_sorted (sequenced_of_reachable sound.world root home running)
  have visits : after.batches.flatMap Batch.visited =
      before.batches.flatMap Batch.visited ++ visitedKeys home before.sweep := by simp [batches]
  have counts : (after.batches.filter fun batch => 0 < batch.after.remaining).length =
      (before.batches.filter fun batch => 0 < batch.after.remaining).length + if 0 < after.sweep.remaining then 1 else 0 := by
    rw [batches, List.filter_append, List.length_append]
    split <;> simp_all
  have pokes := sound.pokes
  rcases poke_cases with ⟨none, ended⟩ | ⟨authority, pending⟩
  · rw [← sweep] at ended
    refine ⟨world ▸ sound.world, ?_, ?_, ?_⟩
    · rw [visits, none, List.append_nil]
      exact sound.sorted
    · exact fun _ _ awaits => awaits.1 ended
    · rw [counts, ended]
      simp only [lt_irrefl, if_false]
      omega
  · have step := poke_advanced host authority pending
    rw [← sweep] at step
    refine ⟨world ▸ sound.world, ?_, ?_, ?_⟩
    · rw [visits, List.pairwise_append]
      refine ⟨sound.sorted, keys.sublist (step.visited_prefix.sublist.trans HomeRecoverySweep.ahead_sublist), ?_⟩
      intro earlier old later new
      exact (HomeRecoverySweep.awaits_of_ahead pending (step.visited_prefix.subset new)).after (sound.passed earlier old)
    · intro key member
      rw [visits] at member
      exact step.passed keys pending ((List.mem_append.mp member).imp (sound.passed key) id)
    · rw [counts]
      generalize after.sweep = next, visitedKeys home before.sweep = visited at step ⊢
      cases step with
      | exhausted ended | spent _ ended =>
        rw [ended]
        simp only [lt_irrefl, if_false]
        omega
      | continued left _ _ =>
        have positive := HomeRecoverySweep.limit_pos pending
        have goes : 0 < before.sweep.remaining - before.sweep.limit := Nat.sub_pos_of_lt left
        rw [if_pos goes]
        simp only
        omega

theorem sweepSound_start (start : (sweepSystem fleet root captured).start first) : SweepSound fleet captured first := by
  obtain ⟨world, batches, home, _, authority, rfl, sweep⟩ := start
  refine ⟨world, by simp [batches], by simp [batches], ?_⟩
  rw [batches, sweep, beginRecoverySweep, authority]
  simp

theorem sweepSound_of_reachable (reached : (sweepSystem fleet root captured).Reachable state) :
    SweepSound fleet captured state := by
  refine reached.invariant (fun _ => sweepSound_start) ?_
  intro before label after sound step
  cases label with
  | work actor command =>
    obtain ⟨_, _, _⟩ := after
    obtain ⟨worked, ⟨⟩, ⟨⟩⟩ := step
    exact ⟨sound.world.step worked, sound.sorted, sound.passed, sound.pokes⟩
  | poke host =>
    obtain ⟨world, home, running, sweep, batches⟩ := step
    exact sound.poke running world sweep batches

/-- What holds of a sweep all of whose batches were quiet. -/
structure SweepCovers (captured : List HomeRecoveryKey) (state : Sweeping ι) : Prop where
  mark : state.sweep.remaining ≠ 0 → state.sweep.highWater = captured.getLast?
  budget : state.sweep.remaining ≠ 0 → (captured.filter state.sweep.beyond).length ≤ state.sweep.remaining
  visits : ∀ batch ∈ state.batches, ∀ key ∈ captured, batch.Passes key → key ∈ recoveryKeys batch.home.state →
    key ∈ batch.visited
  passes : ∀ key ∈ captured, ¬ state.sweep.Awaits key → ∃ batch ∈ state.batches, batch.Passes key

variable {before : Sweeping ι}

omit [Crypto] [DecidableEq ι] in
/-- The next batch keeps the coverage if the keys that it passes are visited, and leaves enough to visit. -/
theorem SweepCovers.extend {after : Sweeping ι} {batch : Batch} (covers : SweepCovers captured before)
    (earlier : batch.before = before.sweep) (later : batch.after = after.sweep)
    (batches : after.batches = before.batches ++ [batch])
    (mark : after.sweep.remaining ≠ 0 → after.sweep.highWater = captured.getLast?)
    (budget : after.sweep.remaining ≠ 0 → (captured.filter after.sweep.beyond).length ≤ after.sweep.remaining)
    (visits : ∀ key ∈ captured, batch.Passes key → key ∈ recoveryKeys batch.home.state → key ∈ batch.visited) :
    SweepCovers captured after := by
  refine ⟨mark, budget, ?_, ?_⟩
  · intro other member
    rw [batches] at member
    rcases List.mem_append.mp member with old | new
    · exact covers.visits other old
    · rw [List.mem_singleton.mp new]
      exact visits
  · intro key member passed
    rw [batches]
    by_cases awaited : before.sweep.Awaits key
    · refine ⟨batch, by simp, ?_⟩
      rw [Batch.Passes, earlier, later]
      exact ⟨awaited, passed⟩
    · obtain ⟨other, old, passes⟩ := covers.passes key member awaited
      exact ⟨other, List.mem_append_left _ old, passes⟩

omit [Crypto] in
/-- Distinct keys that are all captured and beyond the cursor are not more than those. -/
theorem length_le_beyond (sorted : keys.Pairwise (· < ·))
    (among : ∀ key ∈ keys, key ∈ captured ∧ sweep.beyond key = true) :
    keys.length ≤ (captured.filter sweep.beyond).length := by
  have distinct : keys.Nodup := sorted.imp fun less => less.ne
  refine (List.subperm_of_subset distinct fun key member => ?_).length_le
  exact List.mem_filter.mpr (among key member)

omit [Crypto] in
/-- A batch that finds only captured keys ahead, and not more of them than are left to visit, passes none of them
unvisited and leaves enough for the rest. -/
theorem HomeRecoverySweep.Advanced.covers (step : Advanced sweep keys visited next)
    (sorted : (sweep.ahead keys).Pairwise (· < ·)) (distinct : captured.Pairwise (· < ·))
    (pending : sweep.remaining ≠ 0) (own : ∀ key ∈ sweep.ahead keys, key ∈ captured)
    (budget : (captured.filter sweep.beyond).length ≤ sweep.remaining) :
    (next.remaining ≠ 0 → next.highWater = sweep.highWater ∧
      (captured.filter next.beyond).length ≤ next.remaining) ∧
    ∀ key ∈ sweep.ahead keys, ¬ next.Awaits key → key ∈ visited := by
  have within : ∀ key ∈ sweep.ahead keys, key ∈ captured ∧ sweep.beyond key = true :=
    fun key member => ⟨own key member, (awaits_of_ahead pending member).2⟩
  cases step with
  | exhausted ended => exact ⟨fun on => absurd ended on, fun _ member _ => member⟩
  | spent short _ => exact absurd short (Nat.not_lt.mpr ((length_le_beyond sorted within).trans budget))
  | @continued last left more ends =>
    have goes : sweep.remaining - sweep.limit ≠ 0 := by omega
    refine ⟨fun _ => ⟨rfl, ?_⟩, ?_⟩
    · -- The visited keys and those still beyond the cursor are all captured ones that were beyond it before.
      have both : ((sweep.ahead keys).take sweep.limit ++ captured.filter fun key => last < key).Pairwise (· < ·) := by
        refine List.pairwise_append.mpr ⟨sorted.sublist (List.take_sublist _ _), distinct.sublist List.filter_sublist, ?_⟩
        intro earlier visited key rest
        have up := ((mem_take_iff sorted ends).mp visited).2
        exact up.trans_lt (of_decide_eq_true (List.mem_filter.mp rest).2)
      have bounded : ∀ key ∈ (sweep.ahead keys).take sweep.limit ++ captured.filter fun key => last < key,
          key ∈ captured ∧ sweep.beyond key = true := by
        intro key member
        rcases List.mem_append.mp member with visited | rest
        · exact within key (List.mem_of_mem_take visited)
        · obtain ⟨mine, after⟩ := List.mem_filter.mp rest
          have among : last ∈ sweep.ahead keys := List.mem_of_mem_take (List.mem_of_getLast? ends)
          have ahead := (awaits_of_ahead pending among).2
          have after := of_decide_eq_true after
          refine ⟨mine, ?_⟩
          unfold HomeRecoverySweep.beyond at ahead ⊢
          split at ahead
          · rfl
          · simp only [decide_eq_true_eq] at ahead ⊢
            exact ahead.trans after
      have counted := length_le_beyond both bounded
      rw [List.length_append, List.length_take, Nat.min_eq_left more.le] at counted
      change (captured.filter fun key => last < key).length ≤ sweep.remaining - sweep.limit
      omega
    · intro key member passed
      have up : key ≤ last := by
        by_contra beyond
        exact passed ⟨goes, decide_eq_true (not_le.mp beyond)⟩
      exact (mem_take_iff sorted ends).mpr ⟨member, up⟩

variable {host : Host}

omit [DecidableEq ι] in
theorem SweepCovers.poke {after : Sweeping ι} (distinct : captured.Pairwise (· < ·))
    (keys : (recoveryKeys home.state).Pairwise (· < ·)) (covers : SweepCovers captured before)
    (sweep : after.sweep = (continueRecoverySweep host home before.sweep).2)
    (quiet : Batch.Quiet captured ⟨home, before.sweep, after.sweep, visitedKeys home before.sweep⟩)
    (batches : after.batches = before.batches ++ [⟨home, before.sweep, after.sweep, visitedKeys home before.sweep⟩]) :
    SweepCovers captured after := by
  obtain ⟨authority, own⟩ := quiet
  by_cases idle : before.sweep.remaining = 0
  · have ended : after.sweep.remaining = 0 := by
      rw [sweep, continueRecoverySweep, authority]
      simp [HomeRecoverySweep.advance, idle]
    exact covers.extend rfl rfl batches (fun on => absurd ended on) (fun on => absurd ended on)
      fun key _ passes => absurd idle passes.1.1
  have mark := covers.mark idle
  have step := poke_advanced host authority idle
  rw [← sweep] at step
  have sorted := keys.sublist (@HomeRecoverySweep.ahead_sublist before.sweep _)
  obtain ⟨kept, visits⟩ := step.covers sorted distinct idle own (covers.budget idle)
  refine covers.extend rfl rfl batches (fun on => (kept on).1.trans mark) (fun on => (kept on).2) ?_
  intro key member passes pending
  obtain ⟨ending, ends⟩ := Option.ne_none_iff_exists'.mp (List.getLast?_eq_none_iff.not.mpr (List.ne_nil_of_mem member))
  have up : key ≤ ending := by
    have whole := ends
    rw [← List.take_length (l := captured)] at whole
    exact ((HomeRecoverySweep.mem_take_iff distinct whole).mp (by simpa using member)).2
  have among := (HomeRecoverySweep.mem_ahead (mark.trans ends)).mpr ⟨pending, passes.1.2, up⟩
  exact visits key among passes.2

theorem sweepCovers_start (start : (sweepSystem fleet root captured).start first) :
    captured.Pairwise (· < ·) ∧ SweepCovers captured first := by
  obtain ⟨world, batches, home, running, authority, rfl, sweep⟩ := start
  rw [beginRecoverySweep, authority] at sweep
  refine ⟨recoveryKeys_sorted (sequenced_of_reachable world root home running), ?_⟩
  refine ⟨fun _ => by rw [sweep], fun _ => ?_, by simp [batches], ?_⟩
  · rw [sweep]
    exact List.length_filter_le _ _
  · intro key member passed
    refine absurd ⟨?_, ?_⟩ passed
    · rw [sweep]
      exact (List.length_pos_of_mem member).ne'
    · rw [sweep]
      rfl

def CoversIfQuiet (captured : List HomeRecoveryKey) (state : Sweeping ι) : Prop :=
  captured.Pairwise (· < ·) ∧ ((∀ batch ∈ state.batches, batch.Quiet captured) → SweepCovers captured state)

theorem CoversIfQuiet.step {before after : Sweeping ι} (reached : fleet.system.Reachable before.world)
    (covers : CoversIfQuiet captured before) (step : (sweepSystem fleet root captured).step before label after) :
    CoversIfQuiet captured after := by
  refine ⟨covers.1, fun quiet => ?_⟩
  cases label with
  | work actor command =>
    obtain ⟨_, _, _⟩ := after
    obtain ⟨_, ⟨⟩, ⟨⟩⟩ := step
    obtain ⟨mark, budget, visits, passes⟩ := covers.2 quiet
    exact ⟨mark, budget, visits, passes⟩
  | poke host =>
    obtain ⟨_, home, running, sweep, batches⟩ := step
    rw [batches] at quiet
    have earlier := covers.2 fun batch member => quiet batch (List.mem_append_left _ member)
    have last := quiet _ (List.mem_append_right _ (List.mem_singleton_self _))
    exact earlier.poke covers.1 (recoveryKeys_sorted (sequenced_of_reachable reached root home running)) sweep last batches

theorem coversIfQuiet_of_reachable (reached : (sweepSystem fleet root captured).Reachable state) :
    CoversIfQuiet captured state := by
  obtain ⟨first, start, run⟩ := reached
  induction run with
  | refl =>
    obtain ⟨sorted, covers⟩ := sweepCovers_start start
    exact ⟨sorted, fun _ => covers⟩
  | tail run step covers =>
    obtain ⟨label, step⟩ := step
    exact covers.step (sweepSound_of_reachable ⟨first, start, run⟩).world step

/-- A key is answered by work, never by a poke. -/
theorem recoveryDispatchForKey_works {dispatch : HomeDispatch}
    (found : recoveryDispatchForKey host home key = some dispatch) : dispatch.message ≠ .recoveryPoke := by
  unfold recoveryDispatchForKey at found
  simp only [Option.bind_eq_bind, Option.bind_eq_some_iff] at found
  obtain ⟨job, _, found⟩ := found
  split_ifs at found
  all_goals simp only [recoverPlacement, recoverRetry, recoverAttempt, recoverControl, Option.bind_eq_bind,
    Option.bind_eq_some_iff] at found
  · obtain ⟨_, _, _, _, ⟨⟩⟩ := found
    nofun
  · obtain ⟨_, _, _, _, _, _, ⟨⟩⟩ := found
    nofun
  · obtain ⟨_, _, _, _, _, _, found⟩ := found
    split_ifs at found
    · cases found
      nofun
    · obtain ⟨_, _, ⟨⟩⟩ := Option.bind_eq_some_iff.mp found
      nofun
  · obtain ⟨_, _, _, _, _, _, found⟩ := found
    split at found
    · split_ifs at found
      simp only [Option.bind_eq_some_iff] at found
      obtain ⟨_, _, _, _, ⟨⟩⟩ := found
      nofun
    · cases found

omit [Crypto] in
/-- A batch visits no more keys than it may. -/
theorem HomeRecoverySweep.advance_length_le (sweep : HomeRecoverySweep) (keys : List HomeRecoveryKey) :
    (sweep.advance keys).1.length ≤ maxHomeRecoveryDispatches := by
  by_cases idle : sweep.remaining = 0
  · simp [HomeRecoverySweep.advance, idle]
  · rw [HomeRecoverySweep.advance_eq idle, List.length_take]
    exact (Nat.min_le_left _ _).trans (Nat.min_le_right _ _)

/-- A batch sends no more work than it may, and one poke at most. -/
theorem continueRecoverySweep_bounded (host : Host) (home : FunctionHome) (sweep : HomeRecoverySweep) :
    ∃ work poke, (continueRecoverySweep host home sweep).1 = work ++ poke ∧
      work.length ≤ maxHomeRecoveryDispatches ∧ (∀ dispatch ∈ work, dispatch.message ≠ .recoveryPoke) ∧
      poke.length ≤ 1 ∧ ∀ dispatch ∈ poke, dispatch.message = .recoveryPoke := by
  unfold continueRecoverySweep
  split
  · exact ⟨[], [], rfl, Nat.zero_le _, by simp, Nat.zero_le _, by simp⟩
  · refine ⟨_, _, rfl, ?_, ?_, ?_, ?_⟩
    · exact (List.length_filterMap_le _ _).trans (sweep.advance_length_le _)
    · intro dispatch member
      obtain ⟨key, _, found⟩ := List.mem_filterMap.mp member
      exact recoveryDispatchForKey_works found
    · exact Option.length_toList_le
    · intro dispatch member
      split_ifs at member
      · obtain ⟨me, _, rfl⟩ := Option.map_eq_some_iff.mp (Option.mem_toList.mp member)
        rfl
      · cases member

/-- A sweep whose batches find only captured keys ahead of them: every captured key that it has passed was passed by
one of its batches, which visited it if it was still pending. No key is visited twice. The pokes are no more than the
captured keys, and each batch is bounded. -/
theorem recovery_sweep_covers {state : Sweeping ι} (reached : (sweepSystem fleet root captured).Reachable state)
    (quiet : ∀ batch ∈ state.batches, batch.Quiet captured) :
    (∀ key ∈ captured, ¬ state.sweep.Awaits key → ∃ batch ∈ state.batches, batch.Passes key) ∧
      (∀ batch ∈ state.batches, ∀ key ∈ captured, batch.Passes key → key ∈ recoveryKeys batch.home.state →
        key ∈ batch.visited) ∧
      (state.batches.flatMap Batch.visited).Pairwise (· < ·) ∧
      (state.batches.filter fun batch => 0 < batch.after.remaining).length + state.sweep.remaining ≤ captured.length ∧
      ∀ host home sweep, ∃ work poke, (continueRecoverySweep host home sweep).1 = work ++ poke ∧
        work.length ≤ maxHomeRecoveryDispatches ∧ (∀ dispatch ∈ work, dispatch.message ≠ .recoveryPoke) ∧
        poke.length ≤ 1 ∧ ∀ dispatch ∈ poke, dispatch.message = .recoveryPoke := by
  have sound := sweepSound_of_reachable reached
  have covers := (coversIfQuiet_of_reachable reached).2 quiet
  exact ⟨covers.passes, covers.visits, sound.sorted, sound.pokes, continueRecoverySweep_bounded⟩

end

namespace Sample

open Wire.Sample

section

variable [Crypto]

/-- A sweep that found the given Home, before its first batch. -/
def swept (commands : List Command) (first : FunctionHome) : Sweeping Unit :=
  ⟨world commands, beginRecoverySweep first, []⟩

/-- The state after a batch. -/
def poked (state : Sweeping Unit) (found : FunctionHome) : Sweeping Unit :=
  ⟨state.world, (continueRecoverySweep host found state.sweep).2,
    state.batches ++ [⟨found, state.sweep, (continueRecoverySweep host found state.sweep).2, visitedKeys found state.sweep⟩]⟩

theorem poked_reachable {state : Sweeping Unit} (reached : (sweepSystem fleet () captured).Reachable state)
    (running : (state.world ()).process? = some found) :
    (sweepSystem fleet () captured).Reachable (poked state found) := by
  have step : (sweepSystem fleet () captured).step state (.poke host) (poked state found) :=
    ⟨rfl, found, running, rfl, rfl⟩
  exact reached.step step

theorem swept_reachable {first : FunctionHome} (own : ∀ command ∈ commands, Ours command)
    (running : (world commands ()).process? = some first) (authority : first.authoritative = .ok ()) :
    (sweepSystem fleet () (recoveryKeys first.state)).Reachable (poked (swept commands first) first) := by
  have start : (sweepSystem fleet () (recoveryKeys first.state)).Reachable (swept commands first) :=
    .start ⟨world_reachable own, rfl, first, running, authority, rfl, rfl⟩
  exact poked_reachable start running

end

section

attribute [local instance] Wire.Sample.crypto

/-- The one batch that a sweep over one waiting Job takes. -/
theorem recovery_sweep_covers_submitted : ∃ first, (world submitted ()).process? = some first ∧
    (poked (swept submitted first) first).batches.flatMap Batch.visited = [recoveryKey job homeRecoveryPlacement 0] ∧
    ∀ key ∈ recoveryKeys first.state, ¬ (poked (swept submitted first) first).sweep.Awaits key →
      ∃ batch ∈ (poked (swept submitted first) first).batches, batch.Passes key := by
  obtain ⟨first, running, authority, visited⟩ : ∃ first ∈ (world submitted ()).process?, first.authoritative = .ok () ∧
      visitedKeys first (beginRecoverySweep first) = [recoveryKey job homeRecoveryPlacement 0] := by decide +kernel
  refine ⟨first, running, by simpa [poked, swept] using visited, ?_⟩
  refine (recovery_sweep_covers (swept_reachable (by simp [submitted, Ours]; rfl) running authority) ?_).1
  rintro batch (_ | ⟨_, ⟨⟩⟩)
  exact ⟨authority, fun key member => HomeRecoverySweep.ahead_sublist.subset member⟩

end

section

/-- Digests of bytes that tell short keys apart. -/
@[reducible] def hashing : Crypto where
  sha256 bytes := bytes.foldl (fun sum byte => sum * 256 + byte.toNat) 0
  canonicalDigest _ := 0
  encodedLen _ := 0
  verify _ _ := true

attribute [local instance] hashing

def submitAs (key : String) : Command :=
  .operate host (.submit (signed .job rootKey
    ⟨home, key, .id function, value, .atMostOnce, false, none, [], ⟨[], []⟩, [], [], none⟩) resolution deployment)

/-- The Job under the first key. -/
def early : JobId := ⟨.sha256 (Crypto.sha256 (jobIdPreimage home "1"))⟩

/-- One more recovery key than a batch takes: a granted attempt with its controls, and a waiting Job. -/
def crowd : List Command :=
  .openHome host { config with journalCaps := ⟨1000, 1024⟩ } :: submitAs "1" :: submitAs "3" ::
    .operate host (.issueGrant early deployment none none) ::
    (List.range 63).map fun count =>
      .operate host (.control (signed .job rootKey ⟨⟨home, early⟩, 1, ⟨.key (63 - count)⟩, none, .steer value⟩))

theorem crowd_ours : ∀ command ∈ crowd, Ours command := by
  intro command member
  simp only [crowd, List.mem_cons, List.mem_map] at member
  rcases member with rfl | rfl | rfl | rfl | ⟨_, _, rfl⟩ <;> rfl

/-- A Job that is submitted between two batches, under a key below the last one captured, takes the last visit that
the sweep had left. The sweep ends, and the last captured key was pending throughout and never visited. -/
theorem newcomer_takes_last_visit : ∃ captured state, (sweepSystem fleet () captured).Reachable state ∧
    state.sweep.remaining = 0 ∧ ∃ key ∈ captured, ¬ state.sweep.Awaits key ∧
      ∀ batch ∈ state.batches, batch.home.authoritative = .ok () ∧ key ∈ recoveryKeys batch.home.state ∧
        key ∉ batch.visited := by
  obtain ⟨first, running, second, reopened, authority, still, ended, left⟩ :
      ∃ first ∈ (world crowd ()).process?, ∃ second ∈ ((world crowd ()).perform (submitAs "2")).process?,
      first.authoritative = .ok () ∧ second.authoritative = .ok () ∧
      (continueRecoverySweep host second (poked (swept crowd first) first).sweep).2.remaining = 0 ∧
      (recoveryKeys first.state).any (fun key => key ∈ recoveryKeys second.state ∧
        key ∉ visitedKeys first (swept crowd first).sweep ∧
        key ∉ visitedKeys second (poked (swept crowd first) first).sweep) = true := by decide +kernel
  simp only [List.any_eq_true, decide_eq_true_eq] at left
  obtain ⟨key, mine, pending, missed, missed'⟩ := left
  have once := swept_reachable crowd_ours running authority
  have step : (sweepSystem fleet () (recoveryKeys first.state)).step (poked (swept crowd first) first)
      (.work () (submitAs "2")) { poked (swept crowd first) first with world := world (crowd ++ [submitAs "2"]) } :=
    ⟨world_step crowd _ rfl, rfl, rfl⟩
  have found : (world (crowd ++ [submitAs "2"]) ()).process? = some second := by
    rw [world, List.foldl_append]
    exact reopened
  refine ⟨_, _, poked_reachable (once.step step) found, ended, key, mine, fun awaits => awaits.1 ended, ?_⟩
  simp only [poked, swept, List.nil_append, List.cons_append, List.mem_cons, List.not_mem_nil, or_false]
  rintro batch (rfl | rfl)
  · exact ⟨authority, mine, missed⟩
  · exact ⟨still, pending, missed'⟩

end

end Sample

end Gawd.Home
