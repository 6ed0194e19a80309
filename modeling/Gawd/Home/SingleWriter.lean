import Gawd.Home.Backing
import Gawd.Home.JobLife

/-!
One writer at a time. Custody passes from root to root along the epochs, and every root that it has left
stands behind its fence.
-/

namespace Gawd.Home

open Gawd.Logic Gawd.Wire Gawd.Journal

theorem Root.disk_custody {root : Root} {home : FunctionHome} (running : root.process? = some home) :
    root.disk.custody = home.custodyJournal.files := by
  cases root with
  | down disk => cases running
  | up other importedAuthorities currentAuthority =>
    obtain rfl := Option.some.inj running
    rfl

section

variable [Crypto]

/-- The root is the active destination of a staged handoff: its Home is open as such, or its files replay
to that. -/
def Root.Serves (root : Root) (staged : SignedRecord CustodyStaged) : Prop :=
  (∃ home epoch handoff routeSequence coordinator lease, root.process? = some home ∧
    home.custody = .active epoch handoff routeSequence coordinator (some (staged, lease))) ∨
  ∃ config allowInitialized epoch handoff routeSequence coordinator lease,
    replayCustody config allowInitialized none root.disk.custody.records =
      .ok (some (.active epoch handoff routeSequence coordinator (some (staged, lease))))

namespace Fleet

variable {ι : Type} {fleet : Fleet ι} {allowed : HomeState → HomeLedgerRecord → Prop} {world : World ι}

section

variable (honest : fleet.Honest) (identified : HandoffsIdentified) (sound : fleet.WorldSound allowed world)

include honest identified sound

/-- A root that may write is not older than any open Home. -/
theorem WorldSound.not_older {earlier later : ι} (writable : (world earlier).Writable) {home : FunctionHome}
    (running : (world later).process? = some home) : fleet.epoch later ≤ fleet.epoch earlier := by
  obtain ⟨writer, open', writes⟩ := writable
  have process := (sound earlier).process writer open'
  have holds := ProcessSound.holds process
  by_contra older
  rcases ((sound later).process home running).based with first | ⟨_, _, proper, _, matching⟩
  · have positive := holds.pos
    omega
  · refine (sound.lineage honest identified holds (by omega) proper matching).2 ?_
    rw [Root.disk_custody open']
    exact process.custody.unfenced writes

/-- No two roots may write at once. -/
theorem WorldSound.writable_unique (one : (world left).Writable) (two : (world right).Writable) : left = right := by
  obtain ⟨home, running, _⟩ := id one
  obtain ⟨home', running', _⟩ := id two
  have same : fleet.epoch left = fleet.epoch right :=
    le_antisymm (sound.not_older honest identified two running) (sound.not_older honest identified one running')
  exact (ProcessSound.holds ((sound left).process home running)).unique honest
    (ProcessSound.holds ((sound right).process home' running')) same

end

/-- A root that may write after the first epoch is the active destination of a handoff. -/
theorem WorldSound.serves (sound : fleet.WorldSound allowed world) (writable : (world root).Writable)
    (moved : fleet.epoch root ≠ 1) : ∃ staged, (world root).Serves staged := by
  obtain ⟨home, running, writes⟩ := writable
  have process := (sound root).process home running
  have fits := process.custody.fits
  cases custody : home.custody with
  | active epoch handoff routeSequence coordinator activation =>
    rw [custody] at fits
    cases activation with
    | none => exact absurd (process.epoch ▸ fits.2 rfl) moved
    | some activation => exact ⟨activation.1, .inl ⟨home, _, _, _, _, activation.2, running, custody⟩⟩
  | frozen | staged => simp [custody, CustodyState.ensureWritable] at writes

/-- The journal of an active destination marks the handoff that it was activated for. -/
theorem WorldSound.marked (sound : fleet.WorldSound allowed world) {staged : SignedRecord CustodyStaged}
    (serves : (world root).Serves staged) :
    ∃ prepared, fleet.Proper world.Published root prepared ∧ sameRecord staged.payload.prepared prepared = true := by
  obtain ⟨prepared, member, same⟩ : ∃ prepared, .staged prepared ∈ eventsOf (world root).disk.custody.records ∧
      sameRecord staged.payload.prepared prepared = true := by
    rcases serves with ⟨home, _, _, _, _, _, running, custody⟩ | ⟨config, _, _, _, _, _, _, replayed⟩
    · have holds := ((sound root).process home running).custody
      unfold CustodyHolds at holds
      rw [custody] at holds
      rw [Root.disk_custody running]
      exact holds.2.2.2 staged rfl
    · have empty : CustodyShape config [] none := rfl
      have shape := empty.replay replayed
      exact shape.2.2.2.2 staged rfl
  exact ⟨prepared, (sound root).disk.staged prepared member, same⟩

end Fleet

end

namespace Sample

open Wire.Sample

attribute [local instance] collisionFree

/-- The configuration of the second epoch, with what is known of its proof and of the first epoch. -/
def located (proof : Option (SignedRecord CustodyPrepared)) (history : List HomeAuthority) : HomeConfig :=
  ⟨home, 2, "11", "realm", "other", .mk authority.abode successorKey proof, history, 8, 1024, ⟨16, 1024⟩⟩

def receiver : Host := { courier with signer := signerOf (.key 12) }

noncomputable def successor : HomeAuthority := .mk authority.abode successorKey (some prepared)

noncomputable def staged : SignedRecord CustodyStaged :=
  signed .home (.key 12) ⟨prepared, canonicalHash prepared, canonicalHash handoffGrant, canonicalHash checkpoint,
    "realm", "other", "11", none⟩

/-- The destination's custody journal after it is marked and receipted. -/
noncomputable def marked : CustodyJournal := logged blank (.key 12) (.staged prepared)

noncomputable def receipted : CustodyJournal := logged marked (.key 12) (.stagingReceipt staged)

def installedJob : Journal.Files HomeLedgerRecord := ⟨[], false, some ⟨0, genesis⟩, true⟩

def history : ImportedAuthorityHistory := ⟨checkpointFormat, home, [authority]⟩

noncomputable def stagedDisk : Disk := ⟨installedJob, receipted.files, some history, some prepared⟩

theorem stage_performs : (Root.down .empty).perform (.stageHandoff receiver (located none []) prepared) = .down stagedDisk := by
  cbv

/-- The lease that the destination serves under. -/
noncomputable def lease : HomeLease :=
  ⟨home, 2, 1, "realm", "other", "11", successor, some ⟨"handoff"⟩, some handoffGrant, canonicalHash checkpoint, none, none⟩

/-- The custody of the active destination. -/
noncomputable def serving : CustodyState := .active 2 (some ⟨"handoff"⟩) 1 "11" (some (staged, lease))

/-- The destination's custody journal once it is active. -/
noncomputable def activated : CustodyJournal :=
  logged receipted (.key 12) (.activated (canonicalHash staged) lease)

noncomputable def activeDisk : Disk := { stagedDisk with custody := activated.files }

/-- The Job journal that the destination reopens. -/
def installedJournal : SignedJournal HomeLedgerRecord := ⟨homeJournalSchema, ⟨16, 1024⟩, [], genesis, true, installedJob⟩

theorem activate_performs : (Root.down stagedDisk).perform (.activateStagedHandoff receiver (located none []) staged) =
    .down activeDisk := by
  cbv

/-- The destination once it is open. -/
noncomputable def heir : FunctionHome :=
  ⟨located (some prepared) [authority], installedJournal, activated, .initial, serving, none, none, none⟩

theorem open_performs : (Root.down activeDisk).perform (.openHome receiver (located none [])) =
    .up heir (some history) (some prepared) := by
  cbv

/-- The two roots of the sample handoff. -/
noncomputable def pair : Fleet Bool where
  home := home
  identity root := bif root then ⟨authority.abode, successorKey, "realm", "other"⟩ else
    ⟨authority.abode, authority.operational, "realm", "node"⟩
  genesis operational := operational = authority.operational
  minted grant := grant = handoffGrant

theorem pair_honest : pair.Honest where
  genesis _ _ one two := one.trans two.symm
  minted _ _ one two _ := one.trans two.symm
  keys left right same := by
    have differ : authority.operational ≠ successorKey := by decide
    cases left <;> cases right <;> first | rfl | exact absurd same differ | exact absurd same.symm differ

/-- The world of the two roots. -/
def duo (source destination : Root) : World Bool := fun root => bif root then destination else source

theorem duo_step (source destination : Root) (root : Bool) (command : Command)
    (admits : pair.Admits (duo source destination) root command) :
    pair.system.step (duo source destination) (root, command)
      (bif root then duo source (destination.perform command) else duo (source.perform command) destination) := by
  refine ⟨admits, ?_⟩
  funext other
  cases root <;> cases other <;> rfl

theorem pair_admits (before : World Bool) (command : Command) (own : Ours command) : pair.Admits before false command :=
  admits_ours ⟨rfl, rfl, rfl, rfl, rfl, rfl⟩ rfl own

theorem located_configured (history : List HomeAuthority) : pair.Configured true (located none history) :=
  ⟨rfl, rfl, rfl, rfl, rfl, rfl⟩

section

variable {source : Root} {held : FunctionHome} (running : source.process? = some (proven held))

include running

theorem proven_published (destination : Root) : (duo source destination).Published prepared := by
  refine ⟨false, ?_⟩
  change .prepared prepared ∈ eventsOf source.disk.custody.records
  rw [Root.disk_custody running]
  simp [proven, logged, entryOf, signed, eventsOf]

/-- The destination's commands. -/
theorem stage_admitted (destination : Root) :
    pair.Admits (duo source destination) true (.stageHandoff receiver (located none []) prepared) :=
  ⟨located_configured [], fun _ => ⟨proven_published running destination, rfl, .genesis _ rfl⟩⟩

end

theorem open_admitted (world : World Bool) : pair.Admits world true (.openHome receiver (located none [])) := by
  refine ⟨located_configured [], fun valid => ?_⟩
  exact absurd (Fleet.validate_genesis valid) (by decide)

/-- The destination takes over from a source that has its proof. -/
theorem taken_over {system : TransitionSystem (World Bool) (Bool × Command)}
    (takes : ∀ before command after, (∀ host operation, command ≠ .operate host operation) →
      pair.system.step before (true, command) after → system.step before (true, command) after) {source : Root}
    (running : source.process? = some (proven held)) (reached : system.Reachable (duo source (.down .empty))) :
    system.Reachable (duo source (.up heir (some history) (some prepared))) := by
  have staged := reached.step (takes _ _ _ (by simp) (duo_step _ _ true _ (stage_admitted running _)))
  rw [stage_performs] at staged
  have activated := staged.step (takes _ _ _ (by simp) (duo_step _ _ true
    (.activateStagedHandoff receiver (located none []) Sample.staged) (located_configured [])))
  rw [activate_performs] at activated
  have opened := activated.step (takes _ _ _ (by simp) (duo_step _ _ true _ (open_admitted _)))
  rwa [open_performs] at opened

theorem heir_writable : (Root.up heir (some history) (some prepared)).Writable := ⟨heir, rfl, rfl⟩

theorem heir_serves : (Root.up heir (some history) (some prepared)).Serves staged :=
  .inl ⟨heir, _, _, _, _, lease, rfl, rfl⟩

/-- The source once it is open. -/
noncomputable def opened : Root := (Root.down .empty).perform (.openHome courier config)

theorem opened_alone : pair.fencing.Reachable (duo opened (.down .empty)) := by
  have start : pair.fencing.Reachable (duo (.down .empty) (.down .empty)) := .start fun root => by cases root <;> rfl
  exact start.step ⟨duo_step _ _ false _ (pair_admits _ (.openHome courier config) rfl), trivial⟩

/-- The source's handoff, by a host that signs it and by one that refuses. -/
noncomputable def handsOver (worker : Host) : Command := .operate worker (.prepareHandoff handoffGrant checkpoint)

theorem handed_over : ∃ source held, source.process? = some (proven held) ∧
    pair.fencing.Reachable (duo source (.up heir (some history) (some prepared))) := by
  have prepares : (opened.perform (handsOver courier)).process? = some (proven (frozen ready)) :=
    (Root.process?_operate opened_ready).trans (congrArg some (finalState_of_run prepare_runs))
  have able : ∀ home, opened.process? = some home → home.custody.ensureWritable = .ok () →
      Fenceable courier home handoffGrant checkpoint := fun _ _ _ => ⟨_, rfl, Nat.zero_le _⟩
  have fenced := opened_alone.step ⟨duo_step _ _ false (handsOver courier) (pair_admits _ _ rfl), able⟩
  have takes : ∀ before command after, (∀ host operation, command ≠ .operate host operation) →
      pair.system.step before (true, command) after → pair.fencing.step before (true, command) after := by
    intro before command after other taken
    refine ⟨taken, ?_⟩
    cases command with
    | operate host operation => exact absurd rfl (other host operation)
    | _ => trivial
  exact ⟨_, _, prepares, taken_over takes prepares fenced⟩

theorem handed_over_unfenced : ∃ source, source.process? = some (proven (unbacked ready)) ∧
    pair.system.Reachable (duo source (.up heir (some history) (some prepared))) := by
  have refused : (opened.perform (handsOver refusing)).process? = some (unbacked ready) :=
    (Root.process?_operate opened_ready).trans (congrArg some prepare_refused)
  have prepares : ((opened.perform (handsOver refusing)).perform (handsOver courier)).process? =
      some (proven (unbacked ready)) :=
    (Root.process?_operate refused).trans (congrArg some (finalState_of_run prepare_again))
  have first := opened_alone.of_restrict.step (duo_step _ _ false (handsOver refusing) (pair_admits _ _ rfl))
  have second := first.step (duo_step _ _ false (handsOver courier) (pair_admits _ _ rfl))
  exact ⟨_, prepares, taken_over (fun _ _ _ _ taken => taken) prepares second⟩

end Sample

namespace Fleet

variable [Crypto] {ι : Type} {fleet : Fleet ι} {world : World ι}

/-- In a run in which no fence is refused before its write, at most one root may write at a time, and a
destination is active only if the root of the epoch before it holds the fence of exactly its grant and
checkpoint. -/
theorem single_writer [DecidableEq ι] (honest : fleet.Honest) (identified : HandoffsIdentified)
    (proofs : ∀ left right : SignedRecord CustodyPrepared, canonicalHash left = canonicalHash right → left = right)
    (reached : fleet.fencing.Reachable world) :
    (∀ left right, (world left).Writable → (world right).Writable → left = right) ∧
      (∀ root, (world root).Writable → fleet.epoch root ≠ 1 → ∃ staged, (world root).Serves staged) ∧
      ∀ root staged, (world root).Serves staged → ∃ source, fleet.epoch source + 1 = fleet.epoch root ∧
        .frozen staged.payload.prepared.payload.grant staged.payload.prepared.payload.checkpoint ∈
          eventsOf (world source).disk.custody.records := by
  have sound := worldSound_of_run identified reached.of_restrict
  refine ⟨fun left right => sound.writable_unique honest identified, fun root => sound.serves, fun root staged serves => ?_⟩
  obtain ⟨prepared, proper, same⟩ := sound.marked serves
  obtain rfl := proofs _ _ (by simpa [sameRecord] using same)
  obtain ⟨source, member, _, _, _, next⟩ := sound.source proper
  obtain ⟨before, after, events, fence⟩ := (worldBacked_of_reachable identified reached source).disk _ member
  exact ⟨source, next, by rw [events]; exact List.mem_append_left _ fence⟩

end Fleet

namespace Sample

open Wire.Sample

attribute [local instance] collisionFree

/-- The sample handoff ends with one writer, whose source holds the fence. -/
theorem single_writer_sample : ∃ world, pair.fencing.Reachable world ∧ (world true).Writable ∧
    (∀ root, (world root).Writable → root = true) ∧ (world true).Serves staged ∧
    ∃ source, pair.epoch source + 1 = pair.epoch true ∧
      .frozen handoffGrant checkpoint ∈ eventsOf (world source).disk.custody.records := by
  obtain ⟨source, held, _, reached⟩ := handed_over
  obtain ⟨unique, _, fenced⟩ := Fleet.single_writer pair_honest handoffsIdentified collisionFree_identifies reached
  exact ⟨_, reached, heir_writable, fun root writable => unique root true writable heir_writable, heir_serves,
    fenced true staged heir_serves⟩

/-- After a refused signature the destination becomes active while no root holds a fence. -/
theorem active_without_fence : ∃ world, pair.Honest ∧ pair.system.Reachable world ∧ (world true).Writable ∧
    (world true).Serves staged ∧
    ∀ root grant checkpoint, .frozen grant checkpoint ∉ eventsOf (world root).disk.custody.records := by
  obtain ⟨source, running, reached⟩ := handed_over_unfenced
  refine ⟨_, pair_honest, reached, heir_writable, heir_serves, fun root grant checkpoint => ?_⟩
  cases root with
  | true => simp [duo, Root.disk, heir, activated, receipted, marked, blank, logged, entryOf, signed, eventsOf, Files.empty]
  | false =>
    change .frozen grant checkpoint ∉ eventsOf source.disk.custody.records
    rw [Root.disk_custody running, unbacked_events]
    simp

end Sample

end Gawd.Home
