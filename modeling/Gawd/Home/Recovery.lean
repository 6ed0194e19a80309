import Gawd.Home.CustodyProcess

/-!
What opening, staging, activating and refreshing a root do to its files. Each is a run of elementary
moves, so whatever those keep survives a failure at any point.
-/

namespace Gawd.Home

open Gawd.Logic Gawd.Wire Gawd.Journal

/-- Only hints and metadata changed. -/
structure Reread (before after : Disk) : Prop where
  job : after.job.records = before.job.records
  present : after.job.present = before.job.present
  custody : after.custody.records = before.custody.records
  imported : after.importedAuthorities = before.importedAuthorities
  current : after.currentAuthority = before.currentAuthority

/-- One more custody entry. -/
structure Logged (entry : SignedRecord (ChainEntry CustodyLedgerRecord)) (before after : Disk) : Prop where
  job : after.job = before.job
  custody : after.custody.records = before.custody.records ++ [entry]
  imported : after.importedAuthorities = before.importedAuthorities
  current : after.currentAuthority = before.currentAuthority

theorem Reread.refl (disk : Disk) : Reread disk disk := ⟨rfl, rfl, rfl, rfl, rfl⟩

variable {config merged : HomeConfig} {allowInitialized : Bool} {disk : Disk} {journal : CustodyJournal}
  {host : Host} {failure : HomeError → Disk → Prop} {success : Unit → Disk → Prop}
  {prepared : SignedRecord CustodyPrepared} {archive : HomeCheckpointArchive}
  {authorized : SortedMap Text Nat} {staged : SignedRecord CustodyStaged}

section

variable [Crypto]

/-- A Prepared proof that completes the authority of this configuration. -/
structure Admissible (config : HomeConfig) (prepared : SignedRecord CustodyPrepared) : Prop where
  verified : verifyCustodyPrepared prepared = .ok ()
  home : prepared.payload.grant.payload.home = config.home
  epoch : prepared.payload.grant.payload.toEpoch = config.epoch
  operational : prepared.payload.grant.payload.destinationOperationalKey = config.authority.operational
  abode : prepared.payload.grant.payload.sourceAuthority.abode = config.authority.abode

/-- One durable step on the files of a root of an epoch, given the proofs it may be shown and whether it
may rebind its lease. -/
inductive DiskMove (epoch : Nat) (shown : SignedRecord CustodyPrepared → Prop) (rebinds : Prop)
    (before after : Disk) : Prop where
  | reread : Reread before after → DiskMove epoch shown rebinds before after
  | proven {prepared : SignedRecord CustodyPrepared} :
      shown prepared → after = { before with currentAuthority := some prepared } → DiskMove epoch shown rebinds before after
  | imported {prepared : SignedRecord CustodyPrepared} {config : HomeConfig} {archive : HomeCheckpointArchive}
      {home : HomeId} :
      shown prepared → validateArchive config prepared.payload.checkpoint archive = .ok () →
      after = { before with importedAuthorities := some ⟨checkpointFormat, home, archive.authorities⟩ } →
      DiskMove epoch shown rebinds before after
  | initialized {entry : SignedRecord (ChainEntry CustodyLedgerRecord)} {home : HomeId} {first routeSequence : Nat}
      {coordinator : String} :
      epoch = 1 → before.custody.records = [] →
      entry.payload.event = .initialized home first routeSequence coordinator → Logged entry before after →
      DiskMove epoch shown rebinds before after
  | staged {prepared : SignedRecord CustodyPrepared} {entry : SignedRecord (ChainEntry CustodyLedgerRecord)} :
      shown prepared → before.custody.records = [] → entry.payload.event = .staged prepared →
      Logged entry before after → DiskMove epoch shown rebinds before after
  | installed {prepared : SignedRecord CustodyPrepared} {records : List (SignedRecord (ChainEntry HomeLedgerRecord))}
      {job : Files HomeLedgerRecord} :
      shown prepared → Unopened (eventsOf before.custody.records) → Matches records prepared.payload.checkpoint →
      before.job.present = false → job.present = true → job.records = records →
      after = { before with job } → DiskMove epoch shown rebinds before after
  | received {staged : SignedRecord CustodyStaged} {entry : SignedRecord (ChainEntry CustodyLedgerRecord)} :
      Unopened (eventsOf before.custody.records) → entry.payload.event = .stagingReceipt staged →
      Logged entry before after → DiskMove epoch shown rebinds before after
  | activated {prepared : SignedRecord CustodyPrepared} {hash : Text} {lease : HomeLease}
      {entry : SignedRecord (ChainEntry CustodyLedgerRecord)} :
      Unopened (eventsOf before.custody.records) → .staged prepared ∈ eventsOf before.custody.records →
      Matches before.job.records prepared.payload.checkpoint → entry.payload.event = .activated hash lease →
      Logged entry before after → DiskMove epoch shown rebinds before after
  | rebound {lease : HomeLease} {entry : SignedRecord (ChainEntry CustodyLedgerRecord)} :
      rebinds → entry.payload.event = .leaseRebound lease → Logged entry before after → DiskMove epoch shown rebinds before after

def DiskMoves (epoch : Nat) (shown : SignedRecord CustodyPrepared → Prop) (rebinds : Prop) : Disk → Disk → Prop :=
  Relation.ReflTransGen (DiskMove epoch shown rebinds)

instance : Std.Refl (DiskMoves epoch shown rebinds) := ⟨fun _ => .refl⟩

instance : IsTrans Disk (DiskMoves epoch shown rebinds) := ⟨fun _ _ _ => .trans⟩

theorem Reread.moves (reread : Reread before after) : DiskMoves epoch shown rebinds before after :=
  .single (.reread reread)

/-- A custody journal opened from a root's files, and the state it replays to. -/
structure Recovered (config : HomeConfig) (allowInitialized : Bool) (disk : Disk) (journal : CustodyJournal)
    (state : Option CustodyState) : Prop where
  files : journal.files = disk.custody
  records : journal.records = disk.custody.records
  healthy : journal.healthy = true
  replayed : replayCustody config allowInitialized none disk.custody.records = .ok state

theorem Recovered.shape (recovered : Recovered config allowInitialized disk journal state) :
    CustodyShape config (eventsOf disk.custody.records) state := by
  have empty : CustodyShape config [] none := rfl
  simpa using empty.replay recovered.replayed

theorem wp_openCustodyJournal {success : CustodyJournal × Option CustodyState → Disk → Prop}
    (failed : ∀ error after, Reread disk after → failure error after)
    (done : ∀ journal state after, Reread disk after → after.job = disk.job →
      Recovered config allowInitialized after journal state → success (journal, state) after) :
    wp (openCustodyJournal host config allowInitialized) success failure disk := by
  rw [openCustodyJournal]
  refine wp_check (fun error _ => failed error disk (.refl disk)) fun authorized _ => ?_
  rw [wp_bind, wp_get]
  refine wp_check (fun error _ => failed error disk (.refl disk)) fun journal opened => ?_
  obtain ⟨records, logged, healthy, -⟩ := SignedJournal.openWithAuthority_eq_ok (mapError_eq_ok.mp opened)
  rw [wp_bind, wp_set]
  have reread : Reread disk { disk with custody := journal.files } := ⟨rfl, rfl, logged, rfl, rfl⟩
  refine wp_check (fun error _ => failed error _ reread) fun state replayed => ?_
  have recovered : Recovered config allowInitialized { disk with custody := journal.files } journal state :=
    ⟨rfl, records.trans logged.symm, healthy, by simpa [logged, records] using replayed⟩
  cases state with
  | none => exact done journal none _ reread rfl recovered
  | some state =>
    refine wp_check (fun error _ => failed error _ reread) fun _ _ => ?_
    exact wp_check (fun error _ => failed error _ reread) fun _ _ => done journal _ _ reread rfl recovered

theorem wp_appendToDisk {success : CustodyJournal → Disk → Prop}
    (current : journal.files = disk.custody) (failed : ∀ error after, Reread disk after → failure error after)
    (lost : ∀ error entry after, entry.payload.event = record → Logged entry disk after → failure error after)
    (done : ∀ entry longer after, entry.payload.event = record → entry.signer = host.signer.publicKey →
      journal.Appended entry longer → longer.files = after.custody → Logged entry disk after → success longer after) :
    wp (appendToDisk host journal record) success failure disk := by
  have spec : wp (SignedJournal.append record host.signer (host.custodyFate journal.records.length))
      (fun _ longer => success longer { disk with custody := longer.files })
      (fun error longer => failure (.journal error) { disk with custody := longer.files }) journal := by
    refine SignedJournal.wp_append (fun entry longer continued appended => ?_) (fun error => ?_)
      fun entry longer message continued poisoned => ?_
    · exact done entry longer _ continued.event continued.signer appended rfl
        ⟨rfl, by rw [← current]; exact appended.logged, rfl, rfl⟩
    · exact failed _ _ ⟨rfl, rfl, by rw [← current], rfl, rfl⟩
    · rcases poisoned.logged with ⟨same, _⟩ | ⟨longer, _⟩
      · exact failed _ _ ⟨rfl, rfl, by rw [← current]; exact same, rfl, rfl⟩
      · exact lost _ entry _ continued.event ⟨rfl, by rw [← current]; exact longer, rfl, rfl⟩
  unfold wp appendToDisk at *
  cases appended : SignedJournal.append record host.signer (host.custodyFate journal.records.length) journal with
  | ok _ longer | error error longer => simpa [appended] using spec

/-! Staging. -/

section Stage

variable {epoch : Nat} {shown : SignedRecord CustodyPrepared → Prop} {rebinds : Prop}

omit [Crypto] in
/-- Writing a file once may fail before or after it took effect. -/
theorem wp_replaceFile (unwritten : ∀ error, failure error disk) (lost : ∀ error, failure error (write disk))
    (done : success () (write disk)) : wp (replaceFile fate write) success failure disk := by
  cases fate with
  | done => exact done
  | failed visible message =>
    cases visible with
    | true => exact lost _
    | false => exact unwritten _

theorem installPreparedAuthority_eq_ok (installed : installPreparedAuthority config prepared = .ok completed) :
    Admissible config prepared ∧
      completed = { config with authority := HomeAuthority.complete config.authority prepared } := by
  simp only [installPreparedAuthority, bind_eq_ok, pure_eq_ok, reject_eq_ok, not_or, not_not] at installed
  obtain ⟨_, verified, _, ⟨home, epoch, _, _, operational, abode⟩, _, _, rfl⟩ := installed
  exact ⟨⟨mapError_eq_ok.mp verified, home, epoch, operational, abode⟩, rfl⟩

theorem persistCurrentAuthority_moves (isShown : Admissible config prepared → shown prepared) :
    wp (persistCurrentAuthority host config prepared)
      (fun completed after => DiskMoves epoch shown rebinds disk after ∧ Admissible config prepared ∧
        completed = { config with authority := HomeAuthority.complete config.authority prepared })
      (fun _ after => DiskMoves epoch shown rebinds disk after) disk := by
  rw [persistCurrentAuthority]
  refine wp_guard fun completed installed => wp_guard fun _ _ => ?_
  obtain ⟨admissible, rfl⟩ := installPreparedAuthority_eq_ok installed
  rw [wp_bind, wp_get]
  have proven : DiskMoves epoch shown rebinds disk { disk with currentAuthority := some prepared } :=
    .single (.proven (isShown admissible) rfl)
  split
  · exact wp_guard fun _ _ => ⟨.refl, admissible, rfl⟩
  · rw [wp_bind]
    exact wp_replaceFile (fun _ => .refl) (fun _ => proven) ⟨proven, admissible, rfl⟩

theorem persistImportedAuthorities_moves (isShown : shown prepared)
    (valid : validateArchive config prepared.payload.checkpoint archive = .ok ()) :
    AlongFrom (DiskMoves epoch shown rebinds) (persistImportedAuthorities host config archive.authorities) disk := by
  rw [AlongFrom, persistImportedAuthorities]
  refine wp_guard fun _ _ => wp_guard fun _ _ => ?_
  rw [wp_bind, wp_get]
  split
  · rw [wp_lift]
    exact ⟨fun _ _ => .refl, fun _ _ => .refl⟩
  · exact wp_replaceFile (fun _ => .refl) (fun _ => .single (.imported isShown valid rfl))
      (.single (.imported isShown valid rfl))

/-- What installing an archive leaves of the custody files. -/
theorem installArchive_moves (isShown : shown prepared) (unopened : Unopened (eventsOf disk.custody.records))
    (matching : Matches archive.records prepared.payload.checkpoint) : wp (installArchive host config archive)
      (fun _ after => DiskMoves epoch shown rebinds disk after ∧ after.custody = disk.custody)
      (fun _ after => DiskMoves epoch shown rebinds disk after) disk := by
  rw [installArchive]
  refine wp_guard fun _ _ => wp_guard fun _ _ => ?_
  rw [wp_zoom]
  have moves : ∀ job, SignedJournal.Installed archive.records disk.job job →
      DiskMoves epoch shown rebinds disk { disk with job } := by
    rintro job (⟨same, present⟩ | ⟨absent, present, there⟩)
    · exact .single (.reread ⟨same, present, rfl, rfl, rfl⟩)
    · exact .single (.installed isShown unopened matching absent present there rfl)
  exact wp_mono (SignedJournal.installSnapshot_installs _ _ _ _ _ _ disk.job)
    (fun _ job installed => ⟨moves job installed, rfl⟩) fun _ job installed => moves job installed

theorem signStaged_moves (current : journal.files = disk.custody)
    (unopened : Unopened (eventsOf disk.custody.records)) :
    AlongFrom (DiskMoves epoch shown rebinds) (signStaged host config prepared receipt journal) disk := by
  rw [AlongFrom, signStaged]
  refine wp_guard fun staged _ => wp_guard fun _ _ => ?_
  refine wp_guard fun _ _ => ?_
  rw [wp_bind]
  refine wp_appendToDisk current (fun _ _ reread => reread.moves) (fun _ entry after event logged => ?_)
    fun entry longer after event _ _ _ logged => ?_
  · exact .single (.received unopened event logged)
  · exact .single (.received unopened event logged)

theorem finishStage_moves (isShown : shown prepared) (current : journal.files = disk.custody)
    (unopened : Unopened (eventsOf disk.custody.records))
    (matching : Matches archive.records prepared.payload.checkpoint) :
    AlongFrom (DiskMoves epoch shown rebinds) (finishStage host config prepared archive inventory request journal staging) disk := by
  unfold finishStage
  refine wp_then (installArchive_moves isShown unopened matching) ?_
  rintro _ middle ⟨moved, custody⟩
  split
  · exact moved
  · exact wp_after moved (wp_guard fun _ _ => signStaged_moves (current.trans custody.symm) (by rwa [custody]))

/-- Staging writes only for the proof it is shown, and nothing at a root that is already the writer. -/
theorem stageHandoff_moves :
    AlongFrom (DiskMoves config.epoch (fun proof => proof = prepared ∧ Admissible config proof) False)
      (stageHandoff host config prepared) disk := by
  rw [AlongFrom, stageHandoff]
  refine wp_guard fun _ _ => wp_guard fun _ _ => ?_
  refine wp_then (persistCurrentAuthority_moves fun admissible => And.intro rfl admissible) ?_
  rintro completed first ⟨moved, admissible, completes⟩
  refine wp_after moved (wp_guard fun archive _ => wp_guard fun _ valid => ?_)
  refine wp_guard fun _ _ => wp_guard fun inventory _ => wp_guard fun request _ => ?_
  have matching := (validateArchive_matches valid).1
  refine wp_then (persistImportedAuthorities_moves (And.intro rfl admissible) valid) ?_
  intro _ second moved
  refine wp_after moved ?_
  rw [wp_bind]
  refine wp_openCustodyJournal (fun _ _ reread => reread.moves) ?_
  intro journal state third reread _ recovered
  refine wp_after reread.moves ?_
  have shape := recovered.shape
  have isShown : prepared = prepared ∧ Admissible config prepared := ⟨rfl, admissible⟩
  obtain _ | (⟨_, _, _, _, _ | ⟨staged, _⟩⟩ | _ | ⟨existing, staging⟩) := state
  case some.staged => exact wp_guard fun _ _ => finishStage_moves isShown recovered.files shape.2.1 matching
  case some.active.some => exact wp_guard fun _ _ => .refl
  case none =>
    refine wp_guard fun _ _ => ?_
    have empty : third.custody.records = [] := List.map_eq_nil_iff.mp shape
    rw [wp_bind]
    refine wp_appendToDisk recovered.files (fun _ _ reread => reread.moves) ?_ ?_
    · intro _ entry after event logged
      exact .single (.staged isShown empty event logged)
    · intro entry longer after event _ _ files logged
      refine wp_after (.single (.staged isShown empty event logged)) (finishStage_moves isShown files ?_ matching)
      simp [logged.custody, empty, eventsOf, event, Unopened, CustodyLedgerRecord.opens]
  all_goals exact .refl

end Stage

/-! Activation and lease refresh. -/

/-- A Job journal opened from a root's files. -/
structure JobRecovered (disk : Disk) (journal : SignedJournal HomeLedgerRecord) : Prop where
  records : journal.records = disk.job.records
  logged : journal.files.records = disk.job.records
  present : journal.files.present = disk.job.present
  healthy : journal.healthy = true
  chained : Chained journal.records journal.tipHash

theorem JobRecovered.reread {journal : SignedJournal HomeLedgerRecord} (recovered : JobRecovered disk journal) :
    Reread disk { disk with job := journal.files } :=
  ⟨recovered.logged, recovered.present, rfl, rfl, rfl⟩

theorem wp_openJobJournal {success : SignedJournal HomeLedgerRecord → Disk → Prop}
    (failed : ∀ error, failure error disk)
    (done : ∀ journal, JobRecovered disk journal → success journal { disk with job := journal.files }) :
    wp (openJobJournal host config authorized) success failure disk := by
  rw [openJobJournal, wp_bind, wp_get]
  refine wp_check (fun error _ => failed error) fun journal opened => ?_
  replace opened := mapError_eq_ok.mp opened
  obtain ⟨records, logged, healthy, -⟩ := SignedJournal.openWithAuthority_eq_ok opened
  have present : journal.files.present = disk.job.present := SignedJournal.openWithAuthority_present opened
  rw [wp_bind, wp_set]
  exact done journal ⟨records, logged, present, healthy, SignedJournal.openWithAuthority_chained opened⟩

/-- The installed journal is the ledger of the checkpoint. -/
theorem wp_verifyInstalledArchive (valid : validateArchive config checkpoint archive = .ok ())
    (failed : ∀ error after, Reread disk after → failure error after)
    (done : ∀ after, Reread disk after → after.custody = disk.custody → Matches after.job.records checkpoint →
      success () after) : wp (verifyInstalledArchive host config archive) success failure disk := by
  obtain ⟨_, length, root⟩ := validateArchive_matches valid
  rw [verifyInstalledArchive]
  refine wp_check (fun error _ => failed error disk (.refl disk)) fun _ _ => ?_
  rw [wp_bind]
  refine wp_openJobJournal (fun error => failed error disk (.refl disk)) fun journal recovered => ?_
  rw [wp_lift]
  refine ⟨fun _ same => ?_, fun error _ => failed error _ recovered.reread⟩
  simp only [reject_eq_ok, not_or, not_not] at same
  refine done _ recovered.reread rfl ⟨?_, ?_⟩
  · rw [recovered.reread.job, ← recovered.records, same.1, length]
  · rw [recovered.reread.job, ← recovered.records, ← root, ← same.2]
    exact recovered.chained

section Activation

variable {epoch : Nat} {shown : SignedRecord CustodyPrepared → Prop} {rebinds : Prop}

theorem activate_moves (current : journal.files = disk.custody)
    (unopened : Unopened (eventsOf disk.custody.records))
    (marked : .staged prepared ∈ eventsOf disk.custody.records) :
    AlongFrom (DiskMoves epoch shown rebinds) (activate host config journal prepared staged) disk := by
  rw [AlongFrom, activate]
  refine wp_guard fun _ _ => wp_guard fun archive _ => ?_
  refine wp_guard fun _ valid => wp_guard fun _ _ => ?_
  refine wp_guard fun _ _ => ?_
  rw [wp_bind]
  refine wp_verifyInstalledArchive valid (fun _ _ reread => reread.moves) fun middle reread custody matching => ?_
  refine wp_after reread.moves (wp_guard fun lease _ => wp_guard fun _ _ => ?_)
  rw [← custody] at unopened marked
  rw [wp_bind]
  refine wp_appendToDisk (current.trans custody.symm) (fun _ _ reread => reread.moves) ?_ ?_
  · intro _ entry after event logged
    exact .single (.activated unopened marked matching event logged)
  · intro entry longer after event _ _ _ logged
    exact .single (.activated unopened marked matching event logged)

theorem activateStagedHandoff_moves :
    AlongFrom (DiskMoves epoch shown rebinds) (activateStagedHandoff host config staged) disk := by
  rw [AlongFrom, activateStagedHandoff, wp_bind, wp_get]
  refine wp_guard fun merged _ => wp_guard fun _ _ => ?_
  rw [wp_bind]
  refine wp_openCustodyJournal (fun _ _ reread => reread.moves) fun journal state middle reread _ recovered => ?_
  refine wp_after reread.moves ?_
  have shape := recovered.shape
  obtain _ | (⟨_, _, _, _, _ | ⟨persisted, lease⟩⟩ | _ | ⟨prepared, _ | persisted⟩) := state
  case some.staged.some =>
    refine wp_guard fun _ _ => ?_
    refine wp_then (activate_moves recovered.files shape.2.1 shape.2.2.1) (fun lease after moved => ?_)
    exact wp_after moved (Along.lift _ _)
  case some.active.some => exact wp_guard fun _ _ => Along.lift _ _
  all_goals exact .refl

theorem refreshActiveDestinationLease_moves :
    AlongFrom (DiskMoves epoch shown True) (refreshActiveDestinationLease host config) disk := by
  rw [AlongFrom, refreshActiveDestinationLease, wp_bind]
  refine wp_openCustodyJournal (fun _ _ reread => reread.moves) fun journal state middle reread _ recovered => ?_
  refine wp_after reread.moves ?_
  obtain _ | (⟨_, _, _, _, _ | ⟨staged, current⟩⟩ | _ | _) := state
  case some.active.some =>
    refine wp_guard fun _ _ => wp_guard fun _ _ => wp_guard fun _ _ => wp_guard fun _ _ => ?_
    rw [wp_bind]
    refine wp_appendToDisk recovered.files (fun _ _ reread => reread.moves) ?_ ?_
    · intro _ entry after event logged
      exact .single (.rebound trivial event logged)
    · intro entry longer after event _ _ _ logged
      exact wp_after (.single (.rebound trivial event logged)) (wp_guard fun _ _ => .refl)
  all_goals exact .refl

end Activation

/-! Opening. -/

section Opening

/-- No proof is shown to a root that opens. -/
def Unshown (_ : SignedRecord CustodyPrepared) : Prop := False

theorem mergeImportedAuthorities_eq_ok (run : mergeImportedAuthorities config imported = .ok merged) :
    ∃ historicalAuthorities, merged = { config with historicalAuthorities } := by
  cases imported with
  | none =>
    obtain ⟨⟩ := run
    exact ⟨config.historicalAuthorities, rfl⟩
  | some imported =>
    simp only [mergeImportedAuthorities, bind_eq_ok, pure_eq_ok] at run
    obtain ⟨_, _, _, _, _, _, rfl⟩ := run
    exact ⟨_, rfl⟩

omit [Crypto] in
theorem HomeAuthority.complete_prepared {authority : HomeAuthority} (carried : authority.prepared = some prepared) :
    HomeAuthority.complete authority prepared = authority := by
  obtain ⟨abode, operational, carries⟩ := authority
  obtain rfl : carries = some prepared := carried
  rfl

/-- The authority in force is the configured one, or the one that the kept proof completes. -/
theorem mergeCurrentAuthority_eq_ok (run : mergeCurrentAuthority config persisted = .ok merged) :
    ∃ authority, merged = { config with authority } ∧ (authority = config.authority ∨
      ∃ prepared, persisted = some prepared ∧ authority = HomeAuthority.complete config.authority prepared) := by
  unfold mergeCurrentAuthority at run
  split at run
  · simp only [bind_eq_ok, pure_eq_ok] at run
    obtain ⟨_, _, rfl⟩ := run
    exact ⟨config.authority, rfl, .inl rfl⟩
  · split at run
    · simp only [bind_eq_ok] at run
      obtain ⟨_, _, installed⟩ := run
      obtain ⟨_, rfl⟩ := installPreparedAuthority_eq_ok installed
      exact ⟨_, rfl, .inr ⟨_, rfl, rfl⟩⟩
    · obtain ⟨_, rfl⟩ := installPreparedAuthority_eq_ok run
      exact ⟨_, rfl, .inr ⟨_, rfl, rfl⟩⟩
    · rename_i carried
      obtain ⟨_, rfl⟩ := installPreparedAuthority_eq_ok run
      exact ⟨_, rfl, .inl (HomeAuthority.complete_prepared carried)⟩
    · obtain ⟨⟩ := run
      exact ⟨config.authority, rfl, .inl rfl⟩

theorem checkConfig_eq_ok (run : checkConfig host config = .ok authorized) :
    config.authority.verify config.home config.epoch .jobHome = .ok () ∧
      config.authority.operationalKey = host.signer.publicKey ∧ isBlank config.coordinator = false := by
  simp only [checkConfig, asConfiguration, bind_eq_ok, reject_eq_ok, not_or, not_not, Bool.not_eq_true,
    mapError_eq_ok] at run
  obtain ⟨_, _, _, ⟨_, _, _, named, _, _⟩, _, verified, _, _, _, key, _⟩ := run
  exact ⟨verified, key, named⟩

/-- Opening custody finds the writer's state, or starts the genesis of the first epoch. -/
theorem wp_openOrInitializeCustody {success : CustodyJournal × CustodyState → Disk → Prop}
    (key : config.authority.operationalKey = host.signer.publicKey) (named : isBlank config.coordinator = false)
    (failed : ∀ error after, DiskMoves config.epoch Unshown False disk after → failure error after)
    (done : ∀ journal custody after, DiskMoves config.epoch Unshown False disk after → after.job = disk.job →
      Recovered config true after journal (some custody) → (∀ prepared staging, custody ≠ .staged prepared staging) →
      success (journal, custody) after) : wp (openOrInitializeCustody host config empty) success failure disk := by
  rw [openOrInitializeCustody, wp_bind]
  refine wp_openCustodyJournal (fun _ _ reread => failed _ _ reread.moves) fun journal state middle reread job recovered => ?_
  have moved : DiskMoves config.epoch Unshown False disk middle := reread.moves
  match state with
  | some (.staged _ _) => exact failed _ _ moved
  | some (.active ..) => exact done _ _ _ moved job recovered (by simp)
  | some (.frozen ..) => exact done _ _ _ moved job recovered (by simp)
  | none =>
    refine wp_check (fun _ _ => failed _ _ moved) fun _ fresh => ?_
    rw [initializeCustody]
    refine wp_check (fun _ _ => failed _ _ moved) fun _ _ => ?_
    simp only [reject_eq_ok, not_or, not_not] at fresh
    have start : middle.custody.records = [] := List.map_eq_nil_iff.mp recovered.shape
    rw [wp_bind]
    refine wp_appendToDisk recovered.files (fun _ _ reread => failed _ _ (moved.trans reread.moves)) ?_ ?_
    · intro _ entry after event logged
      exact failed _ _ (moved.tail (.initialized fresh.1 start event logged))
    · intro entry longer after event signer appended files logged
      refine done _ _ after (moved.tail (.initialized fresh.1 start event logged))
        (logged.job.trans job) ⟨files, ?_, appended.healthy.2, ?_⟩ (by simp)
      · rw [appended.records, logged.custody, recovered.records]
      · simp [logged.custody, start, replayCustody, applyCustodyRecord, custodyStep, event, signer, key, fresh.1, named,
          reject]

/-- What an opened Home is: its files are the root's, and its state and custody replay from them. -/
structure OpenedFrom (host : Host) (configured : HomeConfig) (disk : Disk) (home : FunctionHome) (after : Disk) :
    Prop where
  moves : DiskMoves configured.epoch Unshown False disk after
  job : JobRecovered after home.journal
  jobFiles : home.journal.files = after.job
  config : ∃ coordinator authority historicalAuthorities,
    home.config = { configured with coordinator, authority, historicalAuthorities } ∧
      (authority = configured.authority ∨ ∃ prepared, disk.currentAuthority = some prepared ∧
        authority = HomeAuthority.complete configured.authority prepared)
  authority : home.config.authority.verify home.config.home home.config.epoch .jobHome = .ok ()
  key : home.config.authority.operationalKey = host.signer.publicKey
  state : ∃ coordinator, recoverState { home.config with coordinator } home.journal = .ok home.state
  custody : ∃ coordinator,
    Recovered { home.config with coordinator } true after home.custodyJournal (some home.custody)
  writer : ∀ prepared staging, home.custody ≠ .staged prepared staging

theorem recoverState_eq_ok {journal : SignedJournal HomeLedgerRecord}
    (run : recoverState config journal = .ok state) : replay config journal.events .initial = .ok () state := by
  unfold recoverState at run
  split at run
  · cases run
  · rename_i replayed
    simp only [bind_eq_ok, pure_eq_ok] at run
    obtain ⟨_, _, _, _, _, _, _, _, rfl⟩ := run
    exact replayed

theorem wp_openHome {configured : HomeConfig} {success : FunctionHome → Disk → Prop}
    (failed : ∀ error after, DiskMoves configured.epoch Unshown False disk after → failure error after)
    (done : ∀ home after, OpenedFrom host configured disk home after → success home after) :
    wp (openHome host configured) success failure disk := by
  rw [openHome, wp_bind, wp_get]
  refine wp_check (fun error _ => failed error disk .refl) fun merged imported => ?_
  refine wp_check (fun error _ => failed error disk .refl) fun config current => ?_
  refine wp_check (fun error _ => failed error disk .refl) fun authorized checked => ?_
  obtain ⟨historical, rfl⟩ := mergeImportedAuthorities_eq_ok imported
  obtain ⟨authority, rfl, origin⟩ := mergeCurrentAuthority_eq_ok current
  obtain ⟨verified, key, named⟩ := checkConfig_eq_ok checked
  rw [wp_bind]
  refine wp_openJobJournal (fun error => failed error disk .refl) fun journal job => ?_
  rw [wp_bind]
  refine wp_openOrInitializeCustody key named (fun error after later => failed error after (job.reread.moves.trans later)) ?_
  intro custodyJournal custody after moved sameJob recovered writer
  replace moved : DiskMoves configured.epoch Unshown False disk after := job.reread.moves.trans moved
  refine wp_check (fun error _ => failed error after moved) fun state replayed => ?_
  refine wp_check (fun error _ => failed error after moved) fun binding _ => ?_
  refine done _ after ⟨moved, ?_, sameJob.symm, ⟨_, authority, historical, rfl, origin⟩, verified, key, ?_, ?_, writer⟩
  · exact ⟨by rw [sameJob, job.logged, job.records], by rw [sameJob], by rw [sameJob], job.healthy, job.chained⟩
  · exact ⟨_, replayed⟩
  · exact ⟨_, recovered⟩

end Opening

end

end Gawd.Home
