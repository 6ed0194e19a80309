import Gawd.Executor.Run

/-!
Every root of an executor rests on a ledger: the records that its operations appended, one by one, each to the state
that the earlier ones led to. Crashes and reopens only ever make that ledger longer.
-/

namespace Gawd.Executor

open Gawd.Logic Gawd.Wire Gawd.Journal

variable {executor : FunctionExecutor}

section

variable [Crypto]

/-- A record that a process appends to a ledger and that its ledger takes: the operation has made its checks, the process
is where it may be, and enough slots stay free. -/
structure Taken (rule : ExecutorLedgerRecord → Prop) (place : ExecutorConfig → Prop) (identity : Text)
    (ledger : List ExecutorLedgerRecord) (state : ExecutorState) (record : ExecutorLedgerRecord) (config : ExecutorConfig)
    (reserve : Nat) : Prop where
  own : config.executor = identity
  place : place config
  machine : config.journalCaps.maxRecords < 2 ^ 64
  ruled : rule record
  produced : Produced config state record reserve
  room : reserve < config.journalCaps.maxRecords - ledger.length
  valid : validateRecord config identity record = .ok ()
  filed : ¬ Misfiled state record

/-- A ledger that operations appended record by record, and the state it leads to. -/
inductive Grown (rule : ExecutorLedgerRecord → Prop) (place : ExecutorConfig → Prop) (identity : Text) :
    List ExecutorLedgerRecord → ExecutorState → Prop where
  | nil : Grown rule place identity [] .initial
  | snoc : Grown rule place identity ledger state → Taken rule place identity ledger state record config reserve →
      Grown rule place identity (ledger ++ [record]) (state.next record)

/-- No process takes this ledger back. -/
def Broken (identity : Text) (ledger : List ExecutorLedgerRecord) : Prop :=
  ∀ config state, replay config identity ledger .initial ≠ .ok () state

variable {rule : ExecutorLedgerRecord → Prop} {place : ExecutorConfig → Prop} {identity : Text}
  {config : ExecutorConfig} {ledger : List ExecutorLedgerRecord} {state after : ExecutorState}
  {record : ExecutorLedgerRecord}

theorem replay_append {first : List ExecutorLedgerRecord} :
    replay config journalSigner (first ++ second) = (do
      replay config journalSigner first
      replay config journalSigner second) := by
  induction first with
  | nil => rfl
  | cons record rest ih => simp only [List.cons_append, replay, ih, bind_assoc]

theorem replay_snoc_eq_ok : replay config identity (ledger ++ [record]) state = .ok () after ↔
      ∃ middle, replay config identity ledger state = .ok () middle ∧
        applyRecord config identity record middle = .ok () after := by
  have single : replay config identity [record] = applyRecord config identity record := by simp [replay]
  rw [replay_append, run_bind_eq_ok, single]
  exact ⟨fun ⟨_, middle, run⟩ => ⟨middle, run⟩, fun ⟨middle, run⟩ => ⟨(), middle, run⟩⟩

/-- Which configuration applies a record makes no difference to what it does. -/
theorem applyRecord_congr (one : applyRecord config identity record state = .ok () after)
    (two : applyRecord other identity record state = .ok () after') : after = after' := by
  unfold applyRecord at one two
  simp only [run_bind_eq_ok, run_lift_eq_ok] at one two
  obtain ⟨_, _, ⟨_, rfl⟩, one⟩ := one
  obtain ⟨_, _, ⟨_, rfl⟩, two⟩ := two
  rw [one] at two
  obtain ⟨⟩ := two
  rfl

/-! The state of a grown ledger. -/

theorem SoundAttempts.next (sound : SoundAttempts (Pinned identity) state) (own : config.executor = identity)
    (valid : validateRecord config identity record = .ok ())
    (run : applyRecord config identity record state = .ok () after) : SoundAttempts (Pinned identity) after := by
  have trust : record.Trusted (Pinned identity) := by
    cases record with
    | claim grant receipt | refuse grant receipt =>
      simp only [validateRecord, ofUnauthorized, bind_eq_ok, mapError_eq_ok, reject_eq_ok, not_not] at valid
      obtain ⟨_, verified, _, pinned, _⟩ := valid
      exact ⟨verified, pinned.trans own⟩
    | _ => trivial
  have moved := wp_ok (along_applyRecord trust state) run
  exact moved.sound sound

/-- A record adds at most one to each counter. -/
theorem NextState.counters (next : NextState state record after) :
    after.nextReceiptRecoveryOrdinal ≤ state.nextReceiptRecoveryOrdinal + 1 ∧
      after.nonterminalAttempts ≤ state.nonterminalAttempts + 1 ∧
      after.unacknowledgedControls ≤ state.unacknowledgedControls + 1 := by
  have one := fun test : Bool => test.toNat_le
  cases next with
  | claim | refuse => exact ⟨Nat.le_refl _, Nat.add_le_add_left (one _) _, Nat.le_succ _⟩
  | queue => exact ⟨Nat.le_refl _, Nat.le_succ _, Nat.le_refl _⟩
  | receive => exact ⟨Nat.le_refl _, (Nat.sub_le _ _).trans (Nat.le_succ _), (Nat.sub_le _ _).trans (Nat.le_succ _)⟩
  | _ => exact ⟨Nat.le_succ _, Nat.le_succ _, Nat.le_succ _⟩

/-- What the state of a grown ledger satisfies. -/
structure Settled (identity : Text) (ledger : List ExecutorLedgerRecord) (state : ExecutorState) : Prop where
  sound : SoundAttempts (Pinned identity) state
  counted : Counted state
  ordinals : state.nextReceiptRecoveryOrdinal ≤ ledger.length
  attempts : state.nonterminalAttempts ≤ ledger.length
  controls : state.unacknowledgedControls ≤ ledger.length

/-- A state whose ledger may still grow on this machine is ready for a record. -/
theorem Settled.ready (settled : Settled identity ledger state) (room : ledger.length < limit)
    (machine : limit < 2 ^ 64) : Ready identity state := by
  have ordinals := settled.ordinals
  have attempts := settled.attempts
  have controls := settled.controls
  exact ⟨settled.sound, settled.counted, by omega, by omega, by omega⟩

section

variable {reserve : Nat} (taken : Taken rule place identity ledger state record config reserve)

include taken

theorem Taken.ready (settled : Settled identity ledger state) : Ready identity state :=
  settled.ready (Nat.lt_of_sub_pos (Nat.zero_lt_of_lt taken.room)) taken.machine

theorem Taken.applies (settled : Settled identity ledger state) :
    applyRecord config identity record state = .ok () (state.next record) :=
  taken.produced.applies (taken.ready settled) taken.own taken.valid taken.filed

end

section

variable (grown : Grown rule place identity ledger state)

include grown

theorem Grown.settled : Settled identity ledger state := by
  induction grown with
  | nil =>
    refine ⟨?_, ⟨rfl, rfl, ?_, rfl⟩, Nat.le_refl _, Nat.le_refl _, Nat.le_refl _⟩
    · exact fun _ _ found => (nomatch found)
    · exact fun _ _ found => (nomatch found)
  | @snoc ledger state record config reserve _ taken ih =>
    obtain ⟨ordinals, attempts, controls⟩ := (nextState state record).counters
    have one := ih.ordinals
    have two := ih.attempts
    have three := ih.controls
    refine ⟨ih.sound.next taken.own taken.valid (taken.applies ih), taken.produced.counted ih.counted taken.valid, ?_, ?_, ?_⟩
    all_goals
      rw [List.length_append, List.length_singleton]
      omega

/-- Under caps that stay the same, a slot is kept for every open attempt and every control still to acknowledge. -/
theorem Grown.reserved {caps : JournalCaps} (same : ∀ config, place config → config.journalCaps = caps) :
    state.reserved + ledger.length ≤ caps.maxRecords := by
  induction grown with
  | nil => exact Nat.zero_le _
  | @snoc ledger state record config reserve grown taken ih =>
    have machine := taken.machine
    have room := taken.room
    rw [same config taken.place] at machine room
    have kept := taken.produced.reserves (taken.ready grown.settled) taken.valid (by omega) room (by omega)
    rw [List.length_append, List.length_singleton]
    omega

/-- What any process makes of a grown ledger. -/
theorem Grown.replay_eq (run : replay config identity ledger .initial = .ok () after) : after = state := by
  induction grown generalizing after with
  | nil =>
    obtain ⟨⟩ := run
    rfl
  | snoc grown taken ih =>
    obtain ⟨middle, earlier, applied⟩ := replay_snoc_eq_ok.mp run
    obtain rfl := ih earlier
    exact applyRecord_congr applied (taken.applies grown.settled)

/-- A misfiled record breaks the ledger for good. -/
theorem Grown.broken (misfiled : Misfiled state record) : Broken identity (ledger ++ [record]) := by
  intro config after run
  obtain ⟨middle, earlier, applied⟩ := replay_snoc_eq_ok.mp run
  obtain rfl := grown.replay_eq earlier
  obtain ⟨error, refused⟩ := misfiled.refused
  rw [refused] at applied
  cases applied

end

theorem Broken.append (broken : Broken identity ledger) (more : List ExecutorLedgerRecord) :
    Broken identity (ledger ++ more) := by
  intro config after run
  rw [replay_append, run_bind_eq_ok] at run
  obtain ⟨_, middle, earlier, _⟩ := run
  exact broken config middle earlier

/-- A ledger leads to one state. -/
theorem Grown.unique (one : Grown rule place identity ledger state) (other : Grown rule place identity ledger after) :
    state = after := by
  induction one generalizing after with
  | nil =>
    generalize empty : ([] : List ExecutorLedgerRecord) = ledger at other
    cases other with
    | nil => rfl
    | snoc => simp at empty
  | @snoc ledger state record config reserve _ _ ih =>
    generalize whole : ledger ++ [record] = longer at other
    cases other with
    | nil => simp at whole
    | snoc earlier _ =>
      obtain ⟨rfl, same⟩ := List.append_inj' whole rfl
      obtain rfl := List.singleton_inj.mp same
      rw [ih earlier]

/-- A ledger that has grown from another leads to a state that every step between them leads to. -/
theorem Grown.extends (related : ExecutorState → ExecutorState → Prop)
    (refl : ∀ state, related state state)
    (trans : ∀ first second third, related first second → related second third →
      related first third) (step : ∀ ledger state record config reserve, Grown rule place identity ledger state →
      Taken rule place identity ledger state record config reserve → related state (state.next record))
    (grown : Grown rule place identity ledger state) (later : Grown rule place identity longer after)
    (extends_ : ledger <+: longer) : related state after := by
  induction later with
  | nil =>
    obtain rfl := List.prefix_nil.mp extends_
    exact grown.unique .nil ▸ refl _
  | @snoc longer middle record config reserve later taken ih =>
    rcases List.prefix_concat_iff.mp extends_ with rfl | shorter
    · exact grown.unique (later.snoc taken) ▸ refl _
    · exact trans _ _ _ (ih shorter) (step _ _ _ _ _ later taken)

/-! The ledger behind a root. -/

/-- Which runs are considered: the records that are allowed, the configurations that processes have, and whether a record
may end up misfiled. -/
structure Regime (identity : Text) where
  rule : ExecutorLedgerRecord → Prop
  place : ExecutorConfig → Prop
  faulty : Prop
  lenient : Lenient rule
  seated : ∀ before after, Seated before after → place before → place after
  machine : ∀ config, place config → config.journalCaps.maxRecords < 2 ^ 64
  misfiles : ∀ ledger state record, Grown rule place identity ledger state → Misfiled state record → faulty

variable {regime : Regime identity}

/-- The events of a journal and the ledger they rest on. A misfiled record is among the events, but not in the ledger. -/
inductive Rests (regime : Regime identity) :
    (events ledger : List ExecutorLedgerRecord) → (state : ExecutorState) → Prop where
  | nil : Rests regime [] [] .initial
  | filed {events ledger state record config reserve} : Rests regime events ledger state →
      Taken regime.rule regime.place identity ledger state record config reserve →
      Rests regime (events ++ [record]) (ledger ++ [record]) (state.next record)
  | misfiled {events ledger state record} : Rests regime events ledger state → Misfiled state record →
      Rests regime (events ++ [record]) ledger state

theorem Rests.grown (rests : Rests regime events ledger state) :
    Grown regime.rule regime.place identity ledger state := by
  induction rests with
  | nil => exact .nil
  | filed _ taken ih => exact .snoc ih taken
  | misfiled _ _ ih => exact ih

/-- The events are the ledger, unless the journal is broken. -/
theorem Rests.events {events : List ExecutorLedgerRecord} (rests : Rests regime events ledger state) :
    events = ledger ∨ regime.faulty ∧ Broken identity events := by
  induction rests with
  | nil => exact .inl rfl
  | filed _ _ ih => exact ih.imp (fun same => by rw [same]) fun ⟨faulty, broken⟩ => ⟨faulty, broken.append _⟩
  | misfiled rests misfiled ih =>
    refine .inr ⟨regime.misfiles _ _ _ rests.grown misfiled, ?_⟩
    rcases ih with same | ⟨_, broken⟩
    · exact same ▸ rests.grown.broken misfiled
    · exact broken.append _

theorem Rests.length_le {events : List ExecutorLedgerRecord} (rests : Rests regime events ledger state) :
    ledger.length ≤ events.length := by
  induction rests with
  | nil => exact Nat.le_refl _
  | filed _ _ ih => simpa using ih
  | misfiled _ _ ih => exact ih.trans (by simp)

/-- The ledger that a process rests on, and what an append it could not finish may have left in its files. -/
structure Backs (regime : Regime identity) (executor : FunctionExecutor) (ledger : List ExecutorLedgerRecord) : Prop where
  held : Rests regime executor.journal.events ledger executor.state
  own : executor.config.executor = identity
  place : regime.place executor.config
  caps : executor.journal.caps = executor.config.journalCaps
  disk : executor.journal.files.records = executor.journal.records ∨
    executor.journal.healthy = false ∧ ∃ longer state, ledger <+: longer ∧
      Rests regime (eventsOf executor.journal.files.records) longer state

omit [Crypto] in
theorem length_events {journal : SignedJournal ExecutorLedgerRecord} : journal.events.length = journal.records.length :=
  List.length_map _

/-- What a process has on its way is misfiled, or its ledger takes it. -/
theorem Backs.filing (backs : Backs regime executor ledger) (filing : Filing regime.rule identity executor record) :
    Misfiled executor.state record ∨
      ∃ reserve, Taken regime.rule regime.place identity ledger executor.state record executor.config reserve := by
  obtain ⟨⟨reserve, produced, room⟩, valid, ruled⟩ := filing
  have length := backs.held.length_le
  rw [length_events] at length
  rw [backs.caps] at room
  by_cases misfiled : Misfiled executor.state record
  · exact .inl misfiled
  · exact .inr ⟨reserve, backs.own, backs.place, regime.machine _ backs.place, ruled, produced, by omega, valid, misfiled⟩

/-- One more event, and the ledger with it unless the event is misfiled. -/
theorem Backs.longer (backs : Backs regime executor ledger) (filing : Filing regime.rule identity executor record) :
    ∃ longer state, ledger <+: longer ∧ Rests regime (executor.journal.events ++ [record]) longer state ∧
      ((∃ error, applyRecord executor.config identity record executor.state = .error error state) ∨
        applyRecord executor.config identity record executor.state = .ok () state) := by
  rcases backs.filing filing with misfiled | ⟨reserve, taken⟩
  · exact ⟨ledger, executor.state, List.prefix_rfl, backs.held.misfiled misfiled, .inl misfiled.refused⟩
  · exact ⟨ledger ++ [record], _, List.prefix_append _ _, backs.held.filed taken,
      .inr (taken.applies backs.held.grown.settled)⟩

section

variable {before after : FunctionExecutor} (backs : Backs regime before ledger)

include backs

/-- An append that went through, whatever applying its record came to. -/
theorem Backs.appended {entry : SignedRecord (ChainEntry ExecutorLedgerRecord)}
    {longer : List ExecutorLedgerRecord} (appended : SignedJournal.Appended before.journal entry after.journal)
    (held : Rests regime (before.journal.events ++ [entry.payload.event]) longer after.state)
    (config : after.config = before.config) : Backs regime after longer := by
  refine ⟨?_, config ▸ backs.own, config ▸ backs.place, ?_, .inl ?_⟩
  · rw [SignedJournal.events, appended.records, eventsOf_append, eventsOf_singleton]
    exact held
  · rw [appended.caps, config]
    exact backs.caps
  · rcases backs.disk with same | ⟨ill, _⟩
    · rw [appended.logged, appended.records, same]
    · rw [appended.healthy.1] at ill
      cases ill

/-- The next step of a process rests on the same ledger, or on one that is one record longer. -/
theorem Backs.move (move : Move regime.rule identity before after) :
    ∃ longer, ledger <+: longer ∧ Backs regime after longer := by
  cases move with
  | aside journal state _ seat =>
    refine ⟨ledger, List.prefix_rfl, ?_⟩
    refine ⟨journal ▸ state ▸ backs.held, ?_, regime.seated _ _ seat backs.place, ?_, journal ▸ backs.disk⟩
    · exact (congrArg ExecutorConfig.executor seat).trans backs.own
    · rw [journal, congrArg ExecutorConfig.journalCaps seat]
      exact backs.caps
  | filed filing continued appended run _ config =>
    obtain ⟨longer, state, further, held, outcome⟩ := backs.longer filing
    rcases outcome with ⟨error, refused⟩ | applied
    · rw [refused] at run
      cases run
    · rw [applied] at run
      obtain ⟨⟩ := run
      exact ⟨longer, further, backs.appended appended (continued.event ▸ held) config⟩
  | misfiled filing continued appended run _ config =>
    obtain ⟨longer, state, further, held, outcome⟩ := backs.longer filing
    rcases outcome with ⟨error, refused⟩ | applied
    · rw [refused] at run
      obtain ⟨⟩ := run
      exact ⟨longer, further, backs.appended appended (continued.event ▸ held) config⟩
    · rw [applied] at run
      cases run
  | poisoned filing continued poisoned state _ config =>
    obtain ⟨longer, later, further, held, _⟩ := backs.longer filing
    refine ⟨ledger, List.prefix_rfl, ?_, config ▸ backs.own, config ▸ backs.place, ?_, .inr ⟨poisoned.healthy.2, ?_⟩⟩
    · rw [SignedJournal.events, poisoned.records, state]
      exact backs.held
    · rw [poisoned.caps, config]
      exact backs.caps
    · have same : before.journal.files.records = before.journal.records := by
        rcases backs.disk with same | ⟨ill, _⟩
        · exact same
        · rw [poisoned.healthy.1] at ill
          cases ill
      rcases poisoned.logged with ⟨kept, _⟩ | ⟨grew, _⟩
      · rw [kept, same]
        exact ⟨ledger, _, List.prefix_rfl, backs.held⟩
      · rw [grew, same, eventsOf_append, eventsOf_singleton, continued.event]
        exact ⟨longer, later, further, held⟩

theorem Backs.stirs (stirs : Stirs regime.rule identity before after) :
    ∃ longer, ledger <+: longer ∧ Backs regime after longer := by
  induction stirs with
  | refl => exact ⟨ledger, List.prefix_rfl, backs⟩
  | tail _ stir ih =>
    obtain ⟨middle, earlier, backs⟩ := ih
    rcases stir with move | ⟨sweep, rfl⟩
    · obtain ⟨longer, later, backs⟩ := backs.move move
      exact ⟨longer, earlier.trans later, backs⟩
    · exact ⟨middle, earlier, backs.held, backs.own, backs.place, backs.caps, backs.disk⟩

end

end

end Gawd.Executor
