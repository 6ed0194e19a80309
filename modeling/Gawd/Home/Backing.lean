import Gawd.Home.Lineage

/-!
The fence behind a Prepared proof. In runs in which no fence is refused before its write, the custody of
an open Home replays from its files, so every proof on disk stands behind its fence.
-/

namespace Gawd.Home

open Gawd.Logic Gawd.Wire Gawd.Journal

variable {record : CustodyLedgerRecord} {signer : Text} {custody : CustodyState} {after before : Disk}
  {importedAuthorities : Option ImportedAuthorityHistory}
  {currentAuthority : Option (SignedRecord CustodyPrepared)} {shown : SignedRecord CustodyPrepared → Prop}
  {rebinds : Prop} {epoch : Nat}

section

variable [Crypto]

/-- Every proof of the custody journal stands behind the fence that it proves. -/
def ProofsFenced (events : List CustodyLedgerRecord) : Prop :=
  ∀ prepared, .prepared prepared ∈ events →
    ProvenFence prepared.payload.grant prepared.payload.checkpoint prepared events

omit [Crypto] in
theorem ProofsFenced.snoc (fenced : ProofsFenced events) (proven : ∀ prepared, record = .prepared prepared →
      .frozen prepared.payload.grant prepared.payload.checkpoint ∈ events) : ProofsFenced (events ++ [record]) := by
  intro prepared member
  rcases List.mem_append.mp member with earlier | last
  · exact (fenced prepared earlier).mono _
  · rw [List.mem_singleton] at last
    exact ⟨events, [], by rw [last], proven prepared last.symm⟩

/-- The custody in memory is the one that the files replay to. -/
def CustodyReplays (home : FunctionHome) : Prop :=
  home.custodyJournal.healthy = true → home.custodyJournal.files.records = home.custodyJournal.records ∧
    ∃ coordinator, replayCustody { home.config with coordinator } true none home.custodyJournal.records =
      .ok (some home.custody)

/-- What a writer's custody records do does not depend on where its coordinator runs. -/
theorem custodyStep_coordinator (writer : ∀ prepared staging, custody ≠ .staged prepared staging) :
    custodyStep { config with coordinator } signer allowInitialized (some custody) record =
      custodyStep config signer allowInitialized (some custody) record := by
  cases custody with
  | staged prepared staging => exact absurd rfl (writer prepared staging)
  | active epoch handoff routeSequence current activation => cases record <;> cases activation <;> rfl
  | frozen grant checkpoint prepared redirect => cases record <;> cases prepared <;> rfl

variable {home : FunctionHome}

theorem CustodyReplays.shape (replays : CustodyReplays home) (healthy : home.custodyJournal.healthy = true) :
    ∃ coordinator,
    CustodyShape { home.config with coordinator } (eventsOf home.custodyJournal.files.records) (some home.custody) := by
  obtain ⟨files, coordinator, replayed⟩ := replays healthy
  have empty : CustodyShape { home.config with coordinator } [] none := rfl
  exact ⟨coordinator, by rw [files]; simpa using empty.replay replayed⟩

/-- A record that replay takes in memory extends what the files replay to. -/
theorem CustodyReplays.wrote (replays : CustodyReplays home)
    (writer : ∀ prepared staging, home.custody ≠ .staged prepared staging)
    (key : signer = home.config.authority.operationalKey)
    (step : custodyStep home.config signer true (some home.custody) record = .ok custody)
    (continued : home.custodyJournal.Continuation record signer entry)
    (appended : home.custodyJournal.Appended entry custodyJournal) :
    CustodyReplays { home with custodyJournal, custody } := by
  intro _
  obtain ⟨files, coordinator, replayed⟩ := replays appended.healthy.1
  refine ⟨by rw [appended.logged, appended.records, files], coordinator, ?_⟩
  simp only [appended.records]
  refine replayCustody_snoc replayed ?_
  simp only [applyCustodyRecord, continued.event, continued.signer, bind_eq_ok, reject_eq_ok, not_not]
  exact ⟨(), key, by rw [custodyStep_coordinator writer, step]⟩

/-- A proof that replay takes in memory has its fence on disk. -/
theorem CustodyReplays.proven {prepared : SignedRecord CustodyPrepared} (identified : HandoffsIdentified)
    (replays : CustodyReplays home) (healthy : home.custodyJournal.healthy = true)
    (writer : ∀ prepared staging, home.custody ≠ .staged prepared staging)
    (step : custodyStep home.config signer true (some home.custody) (.prepared prepared) = .ok custody) :
    .frozen prepared.payload.grant prepared.payload.checkpoint ∈ eventsOf home.custodyJournal.files.records := by
  obtain ⟨coordinator, shape⟩ := replays.shape healthy
  have step := writerStep_of_step writer step
  generalize home.custody = memory at step shape
  cases step with
  | active fence _ _ _ => cases fence
  | proof _ sameGrant sameCheckpoint =>
    rw [identified.grants _ _ sameGrant, identified.checkpoints _ _ sameCheckpoint]
    exact shape.2.2.1

namespace Fleet

variable {ι : Type} {fleet : Fleet ι} {allowed : HomeState → HomeLedgerRecord → Prop} {backed : Prop}
  {published : SignedRecord CustodyPrepared → Prop} {root : ι}

/-- What holds of a root none of whose fences was refused. -/
structure RootBacked (node : Root) : Prop where
  disk : ProofsFenced (eventsOf node.disk.custody.records)
  process : ∀ home, node.process? = some home → CustodyReplays home

theorem HomeStep.custody_kept {after : FunctionHome} (step : HomeStep allowed signer home after) :
    after.config = home.config ∧ after.custodyJournal = home.custodyJournal ∧ after.custody = home.custody := by
  cases step with
  | cached binding same | logged _ _ _ _ _ _ same | poisoned _ _ _ _ _ same => rw [same]; exact ⟨rfl, rfl, rfl⟩

theorem RootBacked.up (fenced : ProofsFenced (eventsOf home.custodyJournal.files.records))
    (replays : CustodyReplays home) : RootBacked (.up home importedAuthorities currentAuthority) :=
  ⟨fenced, fun _ running => Option.some.inj running ▸ replays⟩

theorem DiskMove.fenced (fenced : ProofsFenced (eventsOf before.custody.records))
    (move : DiskMove epoch shown rebinds before after) : ProofsFenced (eventsOf after.custody.records) := by
  have logged : ∀ {entry}, Logged entry before after → (∀ prepared, entry.payload.event ≠ .prepared prepared) →
      ProofsFenced (eventsOf after.custody.records) := by
    intro entry logged plain
    simp only [logged.custody, eventsOf_append, eventsOf_singleton]
    exact fenced.snoc fun prepared same => absurd same (plain prepared)
  cases move with
  | reread reread => exact reread.custody ▸ fenced
  | proven _ same | imported _ _ same | installed _ _ _ _ _ _ same => exact same ▸ fenced
  | initialized _ _ event written | staged _ _ event written | received _ event written =>
    exact logged written (by simp [event])
  | activated _ _ _ event written | rebound _ event written => exact logged written (by simp [event])

theorem DiskMoves.fenced (fenced : ProofsFenced (eventsOf before.custody.records))
    (moves : DiskMoves epoch shown rebinds before after) : ProofsFenced (eventsOf after.custody.records) := by
  induction moves with
  | refl => exact fenced
  | tail _ move ih => exact DiskMove.fenced ih move

/-- Under a running writer a durable step leaves the custody records alone. -/
theorem DiskMove.custody_kept (opened : ¬ Unopened (eventsOf before.custody.records)) (fixed : ¬ rebinds)
    (move : DiskMove epoch shown rebinds before after) : after.custody.records = before.custody.records := by
  cases move with
  | reread reread => exact reread.custody
  | proven _ same => rw [same]
  | imported _ _ same => rw [same]
  | installed _ _ _ _ _ _ same => rw [same]
  | initialized _ start _ _ | staged _ start _ _ => exact absurd (by simp [start, eventsOf, Unopened]) opened
  | received unopened _ _ | activated unopened _ _ _ _ => exact absurd unopened opened
  | rebound may _ _ => exact absurd may fixed

section

variable (identified : HandoffsIdentified)

include identified

theorem RootBacked.custodyMove {host : Host} {after : FunctionHome} (holds : backed)
    (sound : fleet.ProcessSound allowed published root home)
    (key : host.signer.publicKey = (fleet.identity root).operational.payload.operationalPublicKey)
    (back : RootBacked (.up home importedAuthorities currentAuthority)) (move : CustodyMove host backed home after) :
    RootBacked (.up after importedAuthorities currentAuthority) := by
  have fenced := back.disk
  have replays := back.process home rfl
  have writer := sound.custody.writer
  have operational : host.signer.publicKey = home.config.authority.operationalKey := by
    rw [key, HomeAuthority.operationalKey, sound.operational]
  -- whatever a healthy journal takes leaves its proofs fenced, be it lost afterwards or not
  have grows : ∀ {record next} {entry : SignedRecord (ChainEntry CustodyLedgerRecord)},
      home.custodyJournal.healthy = true → CustodyAdmits host.signer.publicKey home record next →
      home.custodyJournal.Continuation record host.signer.publicKey entry →
      ProofsFenced (eventsOf (home.custodyJournal.files.records ++ [entry])) := by
    intro record next entry healthy admits continued
    rw [eventsOf_append, eventsOf_singleton, continued.event]
    refine fenced.snoc ?_
    rintro prepared rfl
    exact replays.proven identified healthy writer admits.step
  have lost : ∀ {record next} {entry : SignedRecord (ChainEntry CustodyLedgerRecord)} {custodyJournal custody},
      CustodyAdmits host.signer.publicKey home record next →
      home.custodyJournal.Continuation record host.signer.publicKey entry →
      home.custodyJournal.Poisoned entry custodyJournal →
      RootBacked (.up { home with custodyJournal, custody } importedAuthorities currentAuthority) := by
    intro record next entry custodyJournal custody admits continued poisoned
    refine .up ?_ fun healthy => absurd healthy (by simp [poisoned.healthy.2])
    rcases poisoned.logged with ⟨same, _⟩ | ⟨longer, _⟩
    · exact same ▸ fenced
    · exact longer ▸ grows poisoned.healthy.1 admits continued
  cases move with
  | quiet coordinator binding failure me same => exact same ▸ .up fenced replays
  | wrote admits continued appended same =>
    subst same
    refine .up ?_ (replays.wrote writer operational admits.step continued appended)
    rw [appended.logged]
    exact grows appended.healthy.1 admits continued
  | lost admits _ continued poisoned same | lostFence admits continued poisoned same =>
    exact same ▸ lost admits continued poisoned
  | unbacked _ refused _ => exact absurd holds refused

theorem RootMove.keeps_backing {before after : Root} (holds : backed)
    (sound : fleet.RootSound allowed published root before) (back : RootBacked before)
    (move : fleet.RootMove allowed backed published root before after) : RootBacked after := by
  cases move with
  | job step =>
    obtain ⟨config, journal, custody⟩ := HomeStep.custody_kept step
    refine .up (by rw [journal]; exact back.disk) ?_
    unfold CustodyReplays
    rw [config, journal, custody]
    exact back.process _ rfl
  | custody key move => exact back.custodyMove identified holds (sound.process _ rfl) key move
  | @disk node files shown rebinds proper idle move =>
    refine ⟨by rw [Root.withDisk_disk]; exact DiskMove.fenced back.disk move, ?_⟩
    cases before with
    | down disk => simp [Root.withDisk]
    | up home importedAuthorities currentAuthority =>
      intro _ running
      obtain rfl := Option.some.inj running
      have kept := DiskMove.custody_kept (sound.process home rfl).opened.not_unopened (fun may => by simpa using idle may) move
      intro healthy
      obtain ⟨same, replayed⟩ := back.process home rfl healthy
      exact ⟨kept.trans same, replayed⟩
  | @opened home disk after host config configured unforged opened =>
    obtain ⟨coordinator, recovered⟩ := opened.custody
    refine .up ?_ ?_
    · rw [recovered.files]
      exact DiskMoves.fenced back.disk opened.moves
    · intro _
      exact ⟨by rw [recovered.files, recovered.records], coordinator, by rw [recovered.records]; exact recovered.replayed⟩
  | crashed => exact ⟨back.disk, by simp⟩

theorem RootMoves.keeps_backing {before after : Root} (holds : backed) (sealed : fleet.Sealed allowed published)
    (sound : fleet.RootSound allowed published root before) (back : RootBacked before)
    (moves : fleet.RootMoves allowed backed published root before after) : RootBacked after := by
  induction moves with
  | refl => exact back
  | tail earlier move ih => exact move.keeps_backing identified holds (RootMoves.sound identified sealed earlier sound) ih

/-- The runs in which no fence is refused before its write. -/
def fencing [DecidableEq ι] (fleet : Fleet ι) : TransitionSystem (World ι) (ι × Command) :=
  fleet.system.restrict fun world label => Backed (world label.1) label.2

theorem worldBacked_of_reachable [DecidableEq ι] (reached : fleet.fencing.Reachable world) (root : ι) :
    RootBacked (world root) := by
  have both : fleet.WorldSound Anything world ∧ ∀ root, RootBacked (world root) := by
    refine @TransitionSystem.Reachable.invariant _ _ _ _
      (fun world => fleet.WorldSound Anything world ∧ ∀ root, RootBacked (world root)) reached ?_ ?_
    · intro first start
      refine ⟨worldSound_of_run identified (.start start), fun root => ?_⟩
      rw [start root]
      exact ⟨by simp [ProofsFenced, Root.disk, Disk.empty, Files.empty, eventsOf], by simp⟩
    · rintro before label after ⟨sound, back⟩ ⟨taken, backing⟩
      refine ⟨(sound.step identified anything_free taken (observes_free (fun _ _ _ => trivial))).1, ?_⟩
      obtain ⟨admits, rfl⟩ := taken
      have moves := perform_moves anything_free admits (observes_free (fun _ _ _ => trivial))
        fun home running => ((sound label.1).process home running).custody.fits
      refine (Function.forall_update_iff before fun _ => RootBacked).mpr ⟨?_, fun other _ => back other⟩
      exact RootMoves.keeps_backing identified backing (sound.sealed identified) (sound label.1) (back label.1) moves
  exact both.2 root

end

end Fleet

end

namespace Sample

open Wire.Sample

attribute [local instance] collisionFree

def successorKey : SignedRecord OperationalKeyGrant :=
  signed .home rootKey ⟨home, 2, .key 12, none, none, [.jobHome, .jobControl, .custody, .locate], []⟩

def archive : HomeCheckpointArchive := ⟨checkpointFormat, home, 1, 0, genesis, [authority], [], none⟩

noncomputable def checkpoint : SignedRecord HomeCheckpoint :=
  signed .home homeKey ⟨home, 1, 0, genesis, ⟨canonicalHash archive, 0, checkpointMediaType⟩, none⟩

noncomputable def handoffGrant : SignedRecord CustodyGrant :=
  signed .home rootKey ⟨home, ⟨"handoff"⟩, 1, 2, authority, "realm", "node", "realm", "other",
    canonicalHash checkpoint, genesis, successorKey, [], none, none⟩

noncomputable def prepared : SignedRecord CustodyPrepared :=
  signed .home homeKey ⟨handoffGrant, checkpoint, canonicalHash handoffGrant, canonicalHash checkpoint, genesis, "9", none, none⟩

/-- The sample host with the archive in its store. -/
def courier : Host := { host with getCheckpoint := fun _ => .ok archive }

/-- The entry that the sample host appends. -/
noncomputable def entryOf {α : Type} (journal : SignedJournal α) (key : Text) (event : α) : SignedRecord (ChainEntry α) :=
  signed journal.chainSchema key ⟨journal.records.length, journal.tipHash, event⟩

/-- A journal after the sample host has appended to it. -/
noncomputable def logged {α : Type} (journal : SignedJournal α) (key : Text) (event : α) : SignedJournal α :=
  { journal with
    records := journal.records ++ [entryOf journal key event]
    tipHash := canonicalHash (entryOf journal key event)
    files := { journal.files with
      records := journal.files.records ++ [entryOf journal key event]
      head := some ⟨journal.records.length + 1, canonicalHash (entryOf journal key event)⟩
      present := true } }

/-- A custody journal to which nothing was appended. -/
def blank : CustodyJournal := ⟨custodyJournalSchema, ⟨16, 1024⟩, [], genesis, true, .empty⟩

/-- The writable Home of the first epoch with an empty ledger. -/
noncomputable def ready : FunctionHome :=
  ⟨config, ⟨homeJournalSchema, ⟨16, 1024⟩, [], genesis, true, .empty⟩,
    logged blank homeKey (.initialized home 1 1 "9"), .initial, .active 1 none 1 "9" none, none, none, none⟩

theorem opened_ready : (Root.perform (.down .empty) (.openHome courier config)).process? = some ready := by
  cbv

/-- The source after its fence. -/
noncomputable def frozen (ready : FunctionHome) : FunctionHome :=
  { ready with
    custodyJournal := logged ready.custodyJournal homeKey (.frozen handoffGrant checkpoint)
    custody := .frozen handoffGrant checkpoint none none }

/-- The source after it has kept its proof. -/
noncomputable def proven (held : FunctionHome) : FunctionHome :=
  { held with
    custodyJournal := logged held.custodyJournal homeKey (.prepared prepared)
    custody := .frozen handoffGrant checkpoint (some prepared) none }

theorem prepare_runs : prepareHandoff courier handoffGrant checkpoint ready =
    .ok ⟨handoffGrant, checkpoint, prepared⟩ (proven (frozen ready)) := by
  cbv

/-- The same host with a signer that refuses. -/
def refusing : Host := { courier with signer := ⟨homeKey, fun _ => .error (.crypto "refused")⟩ }

/-- A refused fence takes hold in memory alone. -/
noncomputable def unbacked (ready : FunctionHome) : FunctionHome :=
  { ready with custody := .frozen handoffGrant checkpoint none none }

theorem prepare_refused : finalState (prepareHandoff refusing handoffGrant checkpoint) ready = unbacked ready := by
  unfold prepareHandoff freeze appendCustody SignedJournal.append
  -- The text of the error is of no concern.
  generalize ContractError.display = display
  cbv

theorem prepare_again : prepareHandoff courier handoffGrant checkpoint (unbacked ready) =
    .ok ⟨handoffGrant, checkpoint, prepared⟩ (proven (unbacked ready)) := by
  cbv

theorem opened_reachable : fleet.fencing.Reachable (world [.openHome courier config]) :=
  restrict_reachable (by simp [Ours]) (by simp [Fleet.Backed])

/-- The first handoff is refused its signature. -/
noncomputable def refused : List Command :=
  [.openHome courier config, .operate refusing (.prepareHandoff handoffGrant checkpoint)]

theorem refused_reachable : fleet.system.Reachable (world refused) :=
  world_reachable (by simp [refused, Ours]; rfl)

theorem refused_runs : (world refused ()).process? = some (unbacked ready) := by
  rw [← prepare_refused]
  exact Root.process?_operate opened_ready

/-- What is in the custody journal of the source that was refused. -/
theorem unbacked_events : eventsOf (proven (unbacked ready)).custodyJournal.files.records =
    [.initialized home 1 1 "9", .prepared prepared] := rfl

/-- A custody journal that holds a proof right after its first record does not replay. -/
theorem unbacked_unreadable :
    replayCustody opener allowInitialized none (proven (unbacked ready)).custodyJournal.files.records ≠ .ok state := by
  intro replayed
  simp only [proven, unbacked, ready, logged, blank, entryOf, signed, Files.empty, List.nil_append, List.cons_append,
    replayCustody, applyCustodyRecord, custodyStep, bind_eq_ok] at replayed
  obtain ⟨middle, ⟨_, _, started⟩, last, ⟨_, _, stepped⟩, _⟩ := replayed
  split at started
  · obtain rfl := Except.ok.inj started
    simp at stepped
  · cases started

end Sample

namespace Fleet

variable [Crypto] {ι : Type} {fleet : Fleet ι} {root : ι}

/-- In a run in which no fence is refused before its write, a prepared handoff is backed by its fence: the
custody journal on disk holds the fence before the proof, and replays to the frozen state. -/
theorem prepared_backed [DecidableEq ι] {world : World ι} (identified : HandoffsIdentified)
    (reached : fleet.fencing.Reachable world) {home after : FunctionHome} (running : (world root).process? = some home)
    {host : Host} (key : host.signer.publicKey = (fleet.identity root).operational.payload.operationalPublicKey)
    {grant : SignedRecord CustodyGrant} {checkpoint : SignedRecord HomeCheckpoint} {result : PreparedHandoff}
    (able : home.custody.ensureWritable = .ok () → Fenceable host home grant checkpoint)
    (run : prepareHandoff host grant checkpoint home = .ok result after) :
    ProvenFence grant checkpoint result.prepared (eventsOf after.custodyJournal.files.records) ∧
      ∃ coordinator redirect, replayCustody { after.config with coordinator } true none after.custodyJournal.files.records =
        .ok (some (.frozen grant checkpoint (some result.prepared) redirect)) := by
  have sound := worldSound_of_run identified reached.of_restrict
  have process := (sound root).process home running
  obtain ⟨moves, rfl, rfl, holds⟩ := wp_ok (prepareHandoff_moves process.custody.fits fun (_ : True) => able) run
  obtain ⟨node, back, isUp⟩ : ∃ node, RootBacked node ∧ node.process? = some after := by
    have back := worldBacked_of_reachable identified reached root
    have rootSound := sound root
    generalize world root = node at running back rootSound
    cases node with
    | down disk => simp at running
    | up other importedAuthorities currentAuthority =>
      obtain rfl := Option.some.inj running
      have lifted : fleet.RootMoves Anything True world.Published root (.up other importedAuthorities currentAuthority)
          (.up after importedAuthorities currentAuthority) :=
        Relation.ReflTransGen.lift (fun home => Root.up home importedAuthorities currentAuthority)
          (fun _ _ move => RootMove.custody key move) _ _ moves
      exact ⟨_, RootMoves.keeps_backing identified trivial (sound.sealed identified) rootSound back lifted, rfl⟩
  have replays := back.process after isUp
  obtain ⟨coordinator, shape⟩ := replays.shape holds.healthy
  obtain ⟨files, opener, replayed⟩ := replays holds.healthy
  obtain ⟨grant, checkpoint, redirect, frozen⟩ := holds.kept
  have same := holds.frozen
  rw [frozen] at shape replayed same
  simp only [alreadyFrozen, sameRecord, decide_eq_true_eq] at same
  obtain rfl := identified.grants _ _ same.1
  obtain rfl := identified.checkpoints _ _ same.2
  exact ⟨shape.2.2.2 _ rfl, opener, redirect, by rw [files]; exact replayed⟩

end Fleet

namespace Sample

open Wire.Sample

attribute [local instance] collisionFree

/-- The sample handoff is prepared and backed. -/
theorem prepared_backed_sample : ∃ world home after result, fleet.fencing.Reachable world ∧
    (world ()).process? = some home ∧ prepareHandoff courier handoffGrant checkpoint home = .ok result after ∧
      ProvenFence handoffGrant checkpoint result.prepared (eventsOf after.custodyJournal.files.records) := by
  have running : (world [.openHome courier config] ()).process? = some ready := opened_ready
  have able : Fenceable courier ready handoffGrant checkpoint := ⟨_, rfl, Nat.zero_le _⟩
  have backed := Fleet.prepared_backed handoffsIdentified opened_reachable running rfl (fun _ => able) prepare_runs
  exact ⟨_, ready, _, _, opened_reachable, running, prepare_runs, backed.1⟩

/-- After a refused signature the same handoff is prepared without a fence, and the Home never opens again. -/
theorem refused_fence_unbacked : ∃ world home after result, fleet.system.Reachable world ∧
    (world ()).process? = some home ∧ prepareHandoff courier handoffGrant checkpoint home = .ok result after ∧
      .frozen handoffGrant checkpoint ∉ eventsOf after.custodyJournal.files.records ∧
      ∀ opener allowInitialized state,
        replayCustody opener allowInitialized none after.custodyJournal.files.records ≠ .ok state := by
  refine ⟨_, _, _, _, refused_reachable, refused_runs, prepare_again, ?_, fun _ _ _ => unbacked_unreadable⟩
  simp [unbacked_events]

end Sample

end Gawd.Home
