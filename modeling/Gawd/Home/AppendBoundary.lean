import Gawd.Home.Fleet

/-!
The append boundary of an open Home. Whatever an operation returns, its Job state is the old one with
exactly the appended records applied.
-/

namespace Gawd.Home

open Gawd.Logic Gawd.Wire Gawd.Journal

variable {allowed : HomeState → HomeLedgerRecord → Prop} {signer : Text}

section

variable [Crypto]

/-- What became durable was applied, and nothing else was. A journal that did not grow is the old one, or was
poisoned by an append that failed on its way to the disk. -/
structure Committed (before after : FunctionHome) : Prop where
  applied : ∃ later, after.journal.records = before.journal.records ++ later ∧
    replay before.config (eventsOf later) before.state = .ok () after.state
  idle : after.journal.records = before.journal.records →
    after.state = before.state ∧ (after.journal = before.journal ∨ after.journal.healthy = false)

variable {before after : FunctionHome}

theorem Committed.of_eq (journal : after.journal = before.journal) (state : after.state = before.state) :
    Committed before after where
  applied := ⟨[], by simp [journal], by rw [state]; rfl⟩
  idle _ := ⟨state, .inl journal⟩

theorem HomeStep.config (step : HomeStep allowed signer before after) : after.config = before.config := by
  cases step with
  | cached _ same => rw [same]
  | logged _ _ _ _ _ _ same => rw [same]
  | poisoned _ _ _ _ _ same => rw [same]

theorem Moves.config (moves : Moves allowed signer before after) : after.config = before.config := by
  induction moves with
  | refl => rfl
  | tail _ step ih => exact (HomeStep.config step).trans ih

theorem Committed.step {middle : FunctionHome} (committed : Committed before middle)
    (config : middle.config = before.config) (step : HomeStep allowed signer middle after) :
    Committed before after := by
  obtain ⟨later, records, replayed⟩ := committed.applied
  cases step with
  | cached binding same =>
    subst same
    exact ⟨⟨later, records, replayed⟩, committed.idle⟩
  | @logged record entry journal state _ _ _ continued appended applied same =>
    subst same
    have grown : journal.records = before.journal.records ++ (later ++ [entry]) := by
      rw [appended.records, records, List.append_assoc]
    refine ⟨⟨later ++ [entry], grown, ?_⟩, fun idle => ?_⟩
    · rw [eventsOf_append, eventsOf_singleton, continued.event, replay_snoc_eq_ok, ← config]
      exact ⟨_, config ▸ replayed, applied⟩
    · rw [grown] at idle
      simp at idle
  | @poisoned record entry journal _ _ _ _ poisoned same =>
    subst same
    refine ⟨⟨later, by rw [poisoned.records]; exact records, replayed⟩, fun idle => ?_⟩
    rw [poisoned.records] at idle
    exact ⟨(committed.idle idle).1, .inr poisoned.healthy.2⟩

theorem Moves.committed (moves : Moves allowed signer before after) : Committed before after := by
  induction moves with
  | refl => exact .of_eq rfl rfl
  | tail earlier step ih => exact ih.step (Moves.config earlier) step

/-- Custody operations leave the Job ledger alone. -/
def LedgerKept (before after : FunctionHome) : Prop :=
  after.journal = before.journal ∧ after.state = before.state

instance : Std.Refl LedgerKept := ⟨fun _ => ⟨rfl, rfl⟩⟩

instance : IsTrans FunctionHome LedgerKept where
  trans _ _ _ one two := ⟨two.1.trans one.1, two.2.trans one.2⟩

omit [Crypto] in
theorem CacheOnly.ledgerKept (cached : CacheOnly before after) : LedgerKept before after := by
  rw [cached]
  exact ⟨rfl, rfl⟩

theorem appendCustody_keeps : Along LedgerKept (appendCustody host record) := by
  refine Along.get.bind fun _ home => ?_
  rw [wp_zoom]
  exact wp_intro (fun _ _ _ => ⟨rfl, rfl⟩) fun _ _ _ => ⟨rfl, rfl⟩

omit [Crypto] in
theorem setCustody_keeps : Along LedgerKept (setCustody custody) :=
  fun _ => ⟨rfl, rfl⟩

theorem freeze_keeps : Along LedgerKept (freeze host grant checkpoint) := by
  refine Along.get.bind fun _ => .check fun _ => appendCustody_keeps.observe.bind fun _ =>
    setCustody_keeps.bind fun _ => ?_
  split
  · exact Along.throw _
  · exact Along.pure _

theorem persistPrepared_keeps : Along LedgerKept (persistPrepared host grant checkpoint commitment) := by
  refine Along.get.bind fun _ => .check fun _ => .check fun _ => .check fun _ =>
    appendCustody_keeps.bind fun _ => ?_
  split
  · exact setCustody_keeps.bind fun _ => Along.pure _
  · exact Along.throw _

theorem finishPrepare_keeps : Along LedgerKept (finishPrepare host grant checkpoint commitment) := by
  refine Along.get.bind fun _ => ?_
  split
  · exact .check fun _ => Along.pure _
  · exact persistPrepared_keeps

theorem prepareHandoff_keeps : Along LedgerKept (prepareHandoff host grant checkpoint) := by
  refine Along.get.bind fun home => .check fun _ => .check fun _ => .check fun _ =>
    (checkSourceBinding_cacheOnly.mono fun _ _ => CacheOnly.ledgerKept).bind fun _ => ?_
  refine Along.ite (fun _ => ?_) fun _ => .check fun _ => ?_
  all_goals
    refine .check fun _ => .check fun _ => .check fun _ =>
      .check fun _ => .check fun _ => ?_
    exact Along.ite (fun _ => finishPrepare_keeps) fun _ => freeze_keeps.bind fun _ => finishPrepare_keeps

theorem recordHandoffRedirect_keeps : Along LedgerKept (recordHandoffRedirect host lease) := by
  refine Along.get.bind fun _ => .check fun _ => .check fun _ => .check fun _ =>
    .check fun _ => ?_
  split
  · refine .check fun _ => Along.ite (fun _ => Along.pure _) fun _ => ?_
    exact .check fun _ => appendCustody_keeps.bind fun _ => setCustody_keeps
  · exact Along.throw _

theorem refreshRuntimeRoute_keeps : Along LedgerKept (refreshRuntimeRoute host coordinator) := by
  refine ensureAuthoritativeState_reads.of_eq.bind fun _ => Along.get.bind fun _ => ?_
  split
  · refine Along.ite (fun _ => Along.pure _) fun _ => ?_
    exact .check fun _ => .check fun _ => .check fun _ =>
      appendCustody_keeps.bind fun _ => setCustody_keeps
  · exact Along.throw _

theorem bindRuntime_keeps : Along LedgerKept (bindRuntime host me) := by
  have named : Along LedgerKept (modify fun home => { home with me := some me } : Action PUnit) :=
    fun _ => ⟨rfl, rfl⟩
  refine named.bind fun _ => refreshRuntimeRoute_keeps.observe.bind fun _ => ?_
  split
  · exact fun _ => ⟨rfl, rfl⟩
  · exact fun _ => ⟨rfl, rfl⟩

/-- An operation moves along the Job ledger or leaves it alone. -/
theorem Operation.moves_or_keeps (host : Host) (home : FunctionHome) (operation : Operation) :
    Moves (fun _ _ => True) host.signer.publicKey home (operation.perform host home) ∨
      LedgerKept home (operation.perform host home) :=
  operation.moves_or (fun _ _ _ _ => trivial) (fun _ _ _ _ => trivial)
    (fun _ _ _ => prepareHandoff_keeps home) (fun _ => recordHandoffRedirect_keeps home) fun _ => bindRuntime_keeps home

/-- Every operation applies exactly what it appended. -/
theorem Operation.committed (host : Host) (home : FunctionHome) (operation : Operation) :
    Committed home (operation.perform host home) := by
  rcases operation.moves_or_keeps host home with moves | kept
  · exact Moves.committed moves
  · exact .of_eq kept.1 kept.2

/-- A record that was admitted is applied once it is appended. -/
theorem applied_of_appended {home : FunctionHome} (admitted : home.admit record = .ok ())
    (run : appendJob host record home = .ok entry appended) :
    ∃ after, applyToState record appended = .ok () after := by
  have kept : wp (appendJob host record) (fun _ after => after.config = home.config ∧ after.state = home.state)
      (fun _ _ => True) home := by
    rw [appendJob, wp_bind, wp_get, wp_zoom]
    exact wp_intro (fun _ _ _ => ⟨rfl, rfl⟩) fun _ _ _ => trivial
  obtain ⟨config, state⟩ := wp_ok kept run
  simp only [ FunctionHome.admit, bind_eq_ok] at admitted
  obtain ⟨_, _, _, tried, _⟩ := admitted
  obtain ⟨after, applied⟩ := preflight_eq_ok.mp tried
  refine ⟨{ appended with state := after }, ?_⟩
  rw [run_eq_ok, applyToState, wp_bind, wp_get, wp_zoom, config, state]
  unfold wp
  rw [applied]
  exact ⟨rfl, rfl⟩

/-- The append boundary is transactional. The shadow admits a record just when the whole state does; a record
that was admitted and appended is applied; and whatever an operation returns, it applied exactly what it
appended. -/
theorem append_transactional (home : FunctionHome) :
    (∀ record, preflightLedgerTransition home.config home.state record = .ok () ↔
      ∃ after, applyLedgerRecord home.config record home.state = .ok () after) ∧
    (∀ host record entry appended, home.admit record = .ok () → appendJob host record home = .ok entry appended →
      ∃ after, applyToState record appended = .ok () after) ∧
    ∀ host (operation : Operation), Committed home (operation.perform host home) :=
  ⟨fun _ => preflight_eq_ok, fun _ _ _ _ => applied_of_appended, fun host operation => operation.committed host home⟩

/-- What every record keeps, an operation keeps. -/
theorem Operation.keeps {holds : HomeState → Prop}
    (step : ∀ config record before after, applyLedgerRecord config record before = .ok () after →
      holds before → holds after) (host : Host) (home : FunctionHome) (operation : Operation)
    (held : holds home.state) : holds (operation.perform host home).state := by
  obtain ⟨later, _, run⟩ := (operation.committed host home).applied
  exact replay_keeps (step home.config) run held

namespace Fleet

variable {ι : Type} [DecidableEq ι] {fleet : Fleet ι} {world : World ι} {holds : FunctionHome → Prop}

section

variable (opened : ∀ host config disk home after, OpenedFrom host config disk home after → holds home)
  (operated : ∀ host (operation : Operation) home, holds home → holds (operation.perform host home))
  (filed : ∀ (home : FunctionHome) (disk : Disk), holds home → holds { home with
    journal := { home.journal with files := disk.job }
    custodyJournal := { home.custodyJournal with files := disk.custody } })

include opened operated filed

/-- What opening gives, operations keep and the files do not matter to, a running Home keeps. -/
theorem process_performed {node : Root} (held : ∀ home, node.process? = some home → holds home) {home : FunctionHome}
    (running : (node.perform command).process? = some home) : holds home := by
  have withDisk : ∀ disk, (node.withDisk disk).process? = some home → holds home := by
    intro disk runs
    cases node with
    | down _ => cases runs
    | up other _ _ =>
      obtain rfl := Option.some.inj runs
      exact filed other disk (held other rfl)
  cases command with
  | openHome host config =>
    cases node with
    | up other _ _ => exact held home running
    | down disk =>
      have spec : wp (Home.openHome host config) (fun home after => OpenedFrom host config disk home after)
          (fun _ _ => True) disk := wp_openHome (fun _ _ _ => trivial) fun _ _ opened => opened
      unfold wp at spec
      simp only [Root.perform] at running
      split at spec
      · rename_i process after run
        rw [run] at running
        obtain rfl := Option.some.inj running
        exact opened host config disk process after spec
      · rename_i error after run
        rw [run] at running
        cases running
  | stageHandoff host config prepared | activateStagedHandoff host config staged => exact withDisk _ running
  | refreshActiveDestinationLease host config =>
    cases node with
    | up other _ _ => exact held home running
    | down disk => cases running
  | operate host operation =>
    cases node with
    | down disk => cases running
    | up other _ _ =>
      obtain rfl := Option.some.inj running
      exact operated host operation other (held other rfl)
  | crash => cases running

def EachProcess (holds : FunctionHome → Prop) (world : World ι) : Prop :=
  ∀ root home, (world root).process? = some home → holds home

/-- The induction rule for what every running Home has. -/
theorem process_invariant (reached : fleet.system.Reachable world) : EachProcess holds world := by
  refine reached.invariant ?_ ?_
  · intro first start root home running
    rw [start root] at running
    cases running
  · rintro before label after held ⟨_, rfl⟩
    exact (Function.forall_update_iff before fun _ node => ∀ home, node.process? = some home → holds home).mpr
      ⟨fun _ => process_performed opened operated filed (held label.1), fun root _ => held root⟩

end

/-- What the empty state has and every record keeps, the state of every running Home has. -/
theorem state_invariant {holds : HomeState → Prop} (initial : holds .initial)
    (step : ∀ config record before after, applyLedgerRecord config record before = .ok () after →
      holds before → holds after) (reached : fleet.system.Reachable world) :
    EachProcess (fun home => holds home.state) world := by
  refine process_invariant ?_ ?_ ?_ reached
  · intro host config disk home after opened
    obtain ⟨coordinator, recovers⟩ := opened.state
    exact replay_keeps (step _) (recoverState_eq_ok recovers) initial
  · intro host operation home held
    exact operation.keeps step host home held
  · intro home disk held
    exact held

end Fleet

end

end Gawd.Home
