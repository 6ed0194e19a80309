import Gawd.Home.Authorities
import Gawd.Home.Fleet

/-!
What holds of every root of a fleet: its Job ledger grew by produced records, a fence stands at the
ledger it fences, and a moved root starts from the ledger its source was fenced at.
-/

namespace Gawd.Home

open Gawd.Logic Gawd.Wire Gawd.Journal

variable {longer : SignedRecord CustodyPrepared → Prop}
  {records : List (SignedRecord (ChainEntry HomeLedgerRecord))} {disk before after : Disk}
  {record : CustodyLedgerRecord} {entry : SignedRecord (ChainEntry CustodyLedgerRecord)} {home : FunctionHome}
  {signer : Text} {checkpoint : SignedRecord HomeCheckpoint} {next : CustodyState}
  {custodyJournal : CustodyJournal}

section

variable [Crypto]

/-- Canonical hashes identify what custody compares by hash. -/
structure HandoffsIdentified : Prop where
  entries : EntriesIdentified HomeLedgerRecord
  grants : ∀ left right : SignedRecord CustodyGrant, canonicalHash left = canonicalHash right → left = right
  checkpoints : ∀ left right : SignedRecord HomeCheckpoint, canonicalHash left = canonicalHash right → left = right

namespace Fleet

variable {ι : Type} {fleet : Fleet ι} {allowed : HomeState → HomeLedgerRecord → Prop}
  {published : SignedRecord CustodyPrepared → Prop} {root : ι}

/-- A genuine Prepared proof that hands custody to this root. -/
structure Proper (fleet : Fleet ι) (published : SignedRecord CustodyPrepared → Prop) (root : ι)
    (prepared : SignedRecord CustodyPrepared) : Prop where
  genuine : fleet.GenuineProof published prepared
  verified : verifyCustodyPrepared prepared = .ok ()
  epoch : prepared.payload.grant.payload.toEpoch = fleet.epoch root

/-- The Job ledger of a writer starts with the one its handoff fenced, unless it is the first writer. -/
def Based (fleet : Fleet ι) (published : SignedRecord CustodyPrepared → Prop) (root : ι)
    (records : List (SignedRecord (ChainEntry HomeLedgerRecord))) : Prop :=
  fleet.epoch root = 1 ∨ ∃ prepared base, fleet.Proper published root prepared ∧ base <+: records ∧
    Matches base prepared.payload.checkpoint

/-- What holds of the files of a root. -/
structure DiskSound (fleet : Fleet ι) (allowed : HomeState → HomeLedgerRecord → Prop)
    (published : SignedRecord CustodyPrepared → Prop) (root : ι) (disk : Disk) : Prop where
  chained : ∃ tip, Chained disk.job.records tip
  pending : Pending allowed (eventsOf disk.job.records)
  present : disk.job.records ≠ [] → disk.job.present = true
  fenced : ∀ record ∈ eventsOf disk.custody.records, ∀ checkpoint ∈ record.fence, Matches disk.job.records checkpoint
  proofs : ∀ prepared, .prepared prepared ∈ eventsOf disk.custody.records →
    verifyCustodyPrepared prepared = .ok () ∧
      prepared.payload.grant.payload.sourceAuthority.operational = (fleet.identity root).operational
  staged : ∀ prepared, .staged prepared ∈ eventsOf disk.custody.records → fleet.Proper published root prepared
  current : ∀ prepared ∈ disk.currentAuthority, fleet.Proper published root prepared
  imported : ∀ history ∈ disk.importedAuthorities, ∃ prepared config archive,
    fleet.Proper published root prepared ∧ validateArchive config prepared.payload.checkpoint archive = .ok () ∧
      history.authorities = archive.authorities
  order : Unopened (eventsOf disk.custody.records) → Unfenced (eventsOf disk.custody.records)
  unopened : Unopened (eventsOf disk.custody.records) → disk.job.records = [] ∨
    ∃ prepared, fleet.Proper published root prepared ∧ Matches disk.job.records prepared.payload.checkpoint
  based : ¬ Unopened (eventsOf disk.custody.records) → fleet.Based published root disk.job.records

omit [Crypto] in
theorem Genuine.mono (genuine : fleet.Genuine published authority)
    (more : ∀ prepared, published prepared → longer prepared) : fleet.Genuine longer authority := by
  induction genuine with
  | genesis abode first => exact .genesis abode first
  | moved abode operational shown minted _ ih => exact .moved abode operational (more _ shown) minted ih

theorem Proper.mono (proper : fleet.Proper published root prepared)
    (more : ∀ prepared, published prepared → longer prepared) : fleet.Proper longer root prepared :=
  ⟨⟨more _ proper.genuine.shown, proper.genuine.minted, proper.genuine.source.mono more⟩, proper.verified, proper.epoch⟩

theorem Based.mono (based : fleet.Based published root records)
    (more : ∀ prepared, published prepared → longer prepared) : fleet.Based longer root records := by
  rcases based with first | ⟨prepared, base, proper, rest⟩
  · exact .inl first
  · exact .inr ⟨prepared, base, proper.mono more, rest⟩

theorem Based.grow (based : fleet.Based published root records) (longer : records <+: more) :
    fleet.Based published root more := by
  rcases based with first | ⟨prepared, base, proper, shorter, matching⟩
  · exact .inl first
  · exact .inr ⟨prepared, base, proper, shorter.trans longer, matching⟩

theorem DiskSound.mono (sound : fleet.DiskSound allowed published root disk)
    (more : ∀ prepared, published prepared → longer prepared) : fleet.DiskSound allowed longer root disk :=
  { sound with
    staged := fun prepared member => (sound.staged prepared member).mono more
    current := fun prepared kept => (sound.current prepared kept).mono more
    imported := fun history kept => by
      obtain ⟨prepared, config, archive, proper, rest⟩ := sound.imported history kept
      exact ⟨prepared, config, archive, proper.mono more, rest⟩
    unopened := fun start => by
      rcases sound.unopened start with empty | ⟨prepared, proper, matching⟩
      · exact .inl empty
      · exact .inr ⟨prepared, proper.mono more, matching⟩
    based := fun opened => (sound.based opened).mono more }

theorem diskSound_empty : fleet.DiskSound allowed published root .empty := by
  refine ⟨⟨_, .nil⟩, .inl ⟨_, .nil⟩, ?_, ?_, ?_, ?_, ?_, ?_, ?_, fun _ => .inl rfl, ?_⟩
  all_goals simp [Disk.empty, Files.empty, eventsOf, Unfenced, Unopened]

/-- Soundness of the files looks only at the records and the metadata. -/
theorem DiskSound.reread (sound : fleet.DiskSound allowed published root before) (reread : Reread before after) :
    fleet.DiskSound allowed published root after := by
  obtain ⟨job, present, custody, imported, current⟩ := reread
  cases sound
  constructor <;> simp only [job, present, custody, imported, current] <;> assumption

/-- What one more custody record has to show to keep the files sound. -/
structure EntrySound (fleet : Fleet ι) (published : SignedRecord CustodyPrepared → Prop) (root : ι) (disk : Disk)
    (record : CustodyLedgerRecord) : Prop where
  fenced : ∀ checkpoint ∈ record.fence, Matches disk.job.records checkpoint
  proofs : ∀ prepared, record = .prepared prepared → verifyCustodyPrepared prepared = .ok () ∧
    prepared.payload.grant.payload.sourceAuthority.operational = (fleet.identity root).operational
  order : Unopened (eventsOf disk.custody.records) → record.fence = none
  staged : ∀ prepared, record = .staged prepared → fleet.Proper published root prepared
  based : record.opens = true → fleet.Based published root disk.job.records

theorem EntrySound.of_unfenced (fence : record.fence = none)
    (staged : ∀ prepared, record = .staged prepared → fleet.Proper published root prepared)
    (based : record.opens = true → fleet.Based published root disk.job.records) :
    fleet.EntrySound published root disk record where
  fenced checkpoint fences := by simp [fence] at fences
  proofs prepared same := by
    subst same
    cases fence
  order _ := fence
  staged := staged
  based := based

/-- A record that only moves a route or keeps a receipt has nothing to show. -/
theorem EntrySound.plain (fence : record.fence = none) (opens : record.opens = false)
    (staged : ∀ prepared, record ≠ .staged prepared) : fleet.EntrySound published root disk record := by
  exact .of_unfenced fence (fun prepared same => absurd same (staged prepared)) fun opened => by simp [opens] at opened

theorem DiskSound.logged (sound : fleet.DiskSound allowed published root before)
    (logged : Logged entry before after) (fits : fleet.EntrySound published root before entry.payload.event) :
    fleet.DiskSound allowed published root after := by
  obtain ⟨job, custody, imported, current⟩ := logged
  have events : eventsOf after.custody.records = eventsOf before.custody.records ++ [entry.payload.event] := by
    simp [custody]
  have member_cases : ∀ record, record ∈ eventsOf after.custody.records →
      record ∈ eventsOf before.custody.records ∨ entry.payload.event = record := by
    intro record member
    rw [events, List.mem_append, List.mem_singleton] at member
    exact member.imp_right Eq.symm
  have closes : Unopened (eventsOf after.custody.records) → Unopened (eventsOf before.custody.records) :=
    fun unopened record member => unopened record (by simp [events, member])
  constructor
  · rw [job]; exact sound.chained
  · rw [job]; exact sound.pending
  · rw [job]; exact sound.present
  · intro record member checkpoint fences
    rw [job]
    rcases member_cases record member with earlier | rfl
    · exact sound.fenced record earlier checkpoint fences
    · exact fits.fenced checkpoint fences
  · intro prepared member
    rcases member_cases _ member with earlier | last
    · exact sound.proofs prepared earlier
    · exact fits.proofs prepared last
  · intro prepared member
    rcases member_cases _ member with earlier | last
    · exact sound.staged prepared earlier
    · exact fits.staged prepared last
  · rw [current]; exact sound.current
  · rw [imported]; exact sound.imported
  · intro unopened
    rw [events]
    exact (sound.order (closes unopened)).snoc (fits.order (closes unopened))
  · intro unopened
    rw [job]
    exact sound.unopened (closes unopened)
  · intro opened
    rw [job]
    by_cases earlier : Unopened (eventsOf before.custody.records)
    · refine fits.based (Bool.not_eq_false _ ▸ fun closed => opened ?_)
      rw [events]
      exact earlier.snoc closed
    · exact sound.based earlier

/-- One durable step keeps the files of a root sound, if it is shown only proper proofs and the ledgers they
fence are known to be good. -/
theorem DiskSound.move (sound : fleet.DiskSound allowed published root before)
    (proper : ∀ prepared, shown prepared → fleet.Proper published root prepared)
    (sealed : ∀ prepared records, fleet.Proper published root prepared → Matches records prepared.payload.checkpoint →
      Pending allowed (eventsOf records)) (move : DiskMove (fleet.epoch root) shown rebinds before after) :
    fleet.DiskSound allowed published root after := by
  cases move with
  | reread reread => exact sound.reread reread
  | @proven prepared isShown same =>
    subst same
    refine { sound with current := ?_ }
    rintro _ ⟨⟩
    exact proper prepared isShown
  | @imported prepared config archive home isShown valid same =>
    subst same
    refine { sound with imported := ?_ }
    rintro _ ⟨⟩
    exact ⟨prepared, config, archive, proper prepared isShown, valid, rfl⟩
  | initialized first start event logged =>
    refine sound.logged logged ?_
    rw [event]
    exact .of_unfenced rfl (by simp) fun _ => .inl first
  | @staged prepared entry isShown start event logged =>
    refine sound.logged logged ?_
    rw [event]
    refine .of_unfenced rfl ?_ (by simp [CustodyLedgerRecord.opens])
    rintro _ ⟨⟩
    exact proper prepared isShown
  | @installed prepared records job isShown unopened matching absent present there same =>
    subst same
    have matches' : Matches job.records prepared.payload.checkpoint := there ▸ matching
    refine { sound with
      chained := ⟨_, matches'.chained⟩
      pending := sealed prepared _ (proper prepared isShown) matches'
      present := fun _ => present
      fenced := ?_
      unopened := fun _ => .inr ⟨prepared, proper prepared isShown, matches'⟩
      based := fun opened => absurd unopened opened }
    intro record member checkpoint fences
    rw [sound.order unopened record member] at fences
    cases fences
  | received unopened event logged | rebound _ event logged =>
    exact sound.logged logged (by rw [event]; exact .plain rfl rfl (by simp))
  | @activated prepared hash lease entry unopened marked matching event logged =>
    refine sound.logged logged ?_
    rw [event]
    exact .of_unfenced rfl (by simp) fun _ =>
      .inr ⟨prepared, before.job.records, sound.staged prepared marked, List.prefix_refl _, matching⟩

/-- The Job files hold what the process remembers, or one more produced entry that it failed to append. -/
def JobLogged (allowed : HomeState → HomeLedgerRecord → Prop) (home : FunctionHome) : Prop :=
  home.journal.files.records = home.journal.records ∨
    home.journal.healthy = false ∧ ∃ entry, home.journal.files.records = home.journal.records ++ [entry] ∧
      Chained (home.journal.records ++ [entry]) (canonicalHash entry) ∧
      Produced home.state entry.payload.event ∧ allowed home.state entry.payload.event

/-- What the custody state in memory says about the files. -/
def CustodyHolds (home : FunctionHome) : Prop :=
  match home.custody with
  | .active current _ _ _ activation =>
    Unfenced (eventsOf home.custodyJournal.files.records) ∧ current = home.config.epoch ∧
      (activation = none → home.config.epoch = 1) ∧ Marked (eventsOf home.custodyJournal.files.records) activation
  | .frozen grant checkpoint prepared _ =>
    grant.payload.sourceAuthority = home.config.authority ∧ Matches home.journal.records checkpoint ∧
      home.journal.files.records = home.journal.records ∧
      ∀ proof ∈ prepared, .prepared proof ∈ eventsOf home.custodyJournal.files.records
  | .staged .. => False

/-- What holds of an open Home. -/
structure ProcessSound (fleet : Fleet ι) (allowed : HomeState → HomeLedgerRecord → Prop)
    (published : SignedRecord CustodyPrepared → Prop) (root : ι) (home : FunctionHome) : Prop where
  owner : home.config.home = fleet.home
  epoch : home.config.epoch = fleet.epoch root
  operational : home.config.authority.operational = (fleet.identity root).operational
  valid : home.config.authority.validate = .ok ()
  genuine : fleet.Genuine published home.config.authority
  replays : replay home.config home.journal.events .initial = .ok () home.state
  grown : Grown allowed home.journal.events home.state
  chained : Chained home.journal.records home.journal.tipHash
  logged : JobLogged allowed home
  opened : Opened (fleet.epoch root) (eventsOf home.custodyJournal.files.records)
  custody : CustodyHolds home
  based : fleet.Based published root home.journal.records

/-- What holds of a root. -/
structure RootSound (fleet : Fleet ι) (allowed : HomeState → HomeLedgerRecord → Prop)
    (published : SignedRecord CustodyPrepared → Prop) (root : ι) (node : Root) : Prop where
  disk : fleet.DiskSound allowed published root node.disk
  process : ∀ home, node.process? = some home → fleet.ProcessSound allowed published root home

theorem CustodyHolds.fits (holds : CustodyHolds home) : home.custody.Fits home.config.epoch := by
  unfold CustodyHolds at holds
  cases custody : home.custody with
  | active =>
    simp only [custody] at holds
    exact ⟨holds.2.1, holds.2.2.1⟩
  | frozen => trivial
  | staged => simp [custody] at holds

theorem ProcessSound.mono (sound : fleet.ProcessSound allowed published root home)
    (more : ∀ prepared, published prepared → longer prepared) : fleet.ProcessSound allowed longer root home :=
  { sound with
    genuine := sound.genuine.mono more
    based := sound.based.mono more }

theorem RootSound.mono (sound : fleet.RootSound allowed published root node)
    (more : ∀ prepared, published prepared → longer prepared) : fleet.RootSound allowed longer root node :=
  ⟨sound.disk.mono more, fun home running => (sound.process home running).mono more⟩

theorem JobLogged.of_healthy (logged : JobLogged allowed home) (healthy : home.journal.healthy = true) :
    home.journal.files.records = home.journal.records := by
  rcases logged with same | ⟨sick, _⟩
  · exact same
  · simp [healthy] at sick

omit [Crypto] in
/-- Only a healthy and writable Home is authoritative. -/
theorem authoritative_eq_ok (authoritative : home.authoritative = .ok ()) :
    home.journal.healthy = true ∧ home.custodyJournal.healthy = true ∧ home.custody.ensureWritable = .ok () := by
  cases inert : home.operationalFailure with
  | some error =>
    simp only [FunctionHome.authoritative, inert] at authoritative
    cases authoritative
  | none =>
    simp only [FunctionHome.authoritative, inert, bind_eq_ok, ofJournal, mapError_eq_ok,
      SignedJournal.ensureHealthy, reject_eq_ok, Bool.not_eq_false] at authoritative
    obtain ⟨_, healthy, _, healthy', writable⟩ := authoritative
    exact ⟨healthy, healthy', writable⟩

section

variable (holds : CustodyHolds home) (writable : home.custody.ensureWritable = .ok ())

include holds writable

/-- A writable Home stands before no fence. -/
theorem CustodyHolds.unfenced : Unfenced (eventsOf home.custodyJournal.files.records) := by
  unfold CustodyHolds at holds
  cases custody : home.custody with
  | active =>
    simp only [custody] at holds
    exact holds.1
  | frozen | staged => simp [custody, CustodyState.ensureWritable] at writable

/-- What a writable Home does to its Job ledger leaves its custody alone. -/
theorem CustodyHolds.writes (journal : SignedJournal HomeLedgerRecord) (state : HomeState) :
    CustodyHolds { home with journal, state } := by
  unfold CustodyHolds at holds ⊢
  cases custody : home.custody with
  | active => simpa [custody] using holds
  | frozen | staged => simp [custody, CustodyState.ensureWritable] at writable

end

/-- The Job ledger of an unfenced writer may grow. -/
theorem DiskSound.grow {job : Journal.Files HomeLedgerRecord} (sound : fleet.DiskSound allowed published root before)
    (unfenced : Unfenced (eventsOf before.custody.records)) (opened : ¬ Unopened (eventsOf before.custody.records))
    (longer : before.job.records <+: job.records) (chained : ∃ tip, Chained job.records tip)
    (pending : Pending allowed (eventsOf job.records)) (present : job.records ≠ [] → job.present = true) :
    fleet.DiskSound allowed published root { before with job } :=
  { sound with
    chained, pending, present
    fenced := fun record member checkpoint fences => by
      rw [unfenced record member] at fences
      cases fences
    unopened := fun start => absurd start opened
    based := fun isOpened => (sound.based isOpened).grow longer }

theorem RootSound.up_iff : fleet.RootSound allowed published root (.up home importedAuthorities currentAuthority) ↔
      fleet.DiskSound allowed published root
          ⟨home.journal.files, home.custodyJournal.files, importedAuthorities, currentAuthority⟩ ∧
        fleet.ProcessSound allowed published root home := by
  refine ⟨fun sound => ⟨sound.disk, sound.process home rfl⟩, fun sound => ⟨sound.1, ?_⟩⟩
  rintro _ ⟨⟩
  exact sound.2

/-! Steps of the Job ledger. -/

section JobSteps

variable {home after : FunctionHome} {importedAuthorities : Option ImportedAuthorityHistory}
  {currentAuthority : Option (SignedRecord CustodyPrepared)}

/-- An entry that an authoritative Home appended, or may have. -/
theorem ProcessSound.continues {record : HomeLedgerRecord} {entry : SignedRecord (ChainEntry HomeLedgerRecord)}
    (sound : fleet.ProcessSound allowed published root home)
    (continued : home.journal.Continuation record signer entry) :
    Chained (home.journal.records ++ [entry]) (canonicalHash entry) :=
  .snoc sound.chained continued.sequence continued.previous

theorem RootSound.homeStep
    (sound : fleet.RootSound allowed published root (.up home importedAuthorities currentAuthority))
    (step : HomeStep allowed signer home after) :
    fleet.RootSound allowed published root (.up after importedAuthorities currentAuthority) := by
  obtain ⟨disk, process⟩ := RootSound.up_iff.mp sound
  rw [RootSound.up_iff]
  cases step with
  | cached binding same =>
    subst same
    exact ⟨disk, { process with }⟩
  | @logged record entry journal state writes produced admitted continued appended applied same =>
    subst same
    obtain ⟨healthy, _, writable⟩ := authoritative_eq_ok writes.authoritative
    have unfenced := process.custody.unfenced writable
    have files := process.logged.of_healthy healthy
    have records : journal.files.records = journal.records := by
      rw [appended.logged, appended.records, files]
    have chained : Chained journal.records journal.tipHash := by
      rw [appended.records, appended.tip]
      exact process.continues continued
    have events : journal.events = home.journal.events ++ [record] := by
      simp [SignedJournal.events, appended.records, continued.event]
    have grown : Grown allowed journal.events state := by
      rw [events]
      exact .snoc process.grown produced admitted applied
    refine ⟨disk.grow unfenced process.opened.not_unopened ?_ ⟨_, by rw [records]; exact chained⟩ ?_
      fun _ => appended.present, ?_⟩
    · rw [appended.logged]
      exact List.prefix_append _ _
    · rw [records]
      exact .inl ⟨state, grown⟩
    · refine { process with
        replays := ?_
        grown := grown
        chained := chained
        logged := .inl records
        custody := process.custody.writes writable journal state
        based := process.based.grow ?_ }
      · rw [events]
        exact replay_snoc_eq_ok.mpr ⟨_, process.replays, applied⟩
      · rw [appended.records]
        exact List.prefix_append _ _
  | @poisoned record entry journal writes produced admitted continued poisoned same =>
    subst same
    obtain ⟨healthy, _, writable⟩ := authoritative_eq_ok writes.authoritative
    have unfenced := process.custody.unfenced writable
    have files := process.logged.of_healthy healthy
    have chained := process.continues continued
    have custody : CustodyHolds { home with journal } := process.custody.writes writable journal home.state
    have process' : JobLogged allowed { home with journal } →
        fleet.ProcessSound allowed published root { home with journal } := by
      intro logged
      refine { process with replays := ?_, grown := ?_, chained := ?_, logged, custody, based := ?_ }
      · simpa [SignedJournal.events, poisoned.records] using process.replays
      · simpa [SignedJournal.events, poisoned.records] using process.grown
      · simpa [poisoned.records, poisoned.tip] using process.chained
      · simpa [poisoned.records] using process.based
    rcases poisoned.logged with ⟨shorter, present⟩ | ⟨longer, present⟩
    · have same : journal.files.records = home.journal.files.records := shorter
      refine ⟨disk.grow unfenced process.opened.not_unopened ?_ ?_ ?_ ?_, process' (.inl ?_)⟩
      · exact ⟨[], by simp [same]⟩
      · rw [same]
        exact disk.chained
      · rw [same]
        exact disk.pending
      · rw [same]
        exact fun some => present (disk.present some)
      · rw [same, poisoned.records, files]
    · have records : journal.files.records = home.journal.records ++ [entry] := by rw [longer, files]
      refine ⟨disk.grow unfenced process.opened.not_unopened ?_ ⟨_, by rw [records]; exact chained⟩ ?_
        fun _ => present, process' (.inr ⟨poisoned.healthy.2, entry, ?_, ?_, ?_, ?_⟩)⟩
      · rw [longer]
        exact List.prefix_append _ _
      · rw [records]
        refine .inr ⟨home.journal.events, record, home.state, ?_, process.grown, produced, admitted⟩
        simp [SignedJournal.events, continued.event]
      · rw [records, poisoned.records]
      · rw [poisoned.records]
        exact chained
      · rw [continued.event]
        exact produced
      · rw [continued.event]
        exact admitted

end JobSteps

/-! Steps of custody. -/

section CustodySteps

variable {home after : FunctionHome} {importedAuthorities : Option ImportedAuthorityHistory}
  {currentAuthority : Option (SignedRecord CustodyPrepared)}

theorem CustodyHolds.writer (holds : CustodyHolds home) :
    ∀ prepared staging, home.custody ≠ .staged prepared staging := by
  intro prepared staging staged
  unfold CustodyHolds at holds
  simp [staged] at holds

theorem ProcessSound.matching (sound : fleet.ProcessSound allowed published root home)
    (current : AtCheckpoint home checkpoint) :
    Matches home.journal.records checkpoint ∧ home.journal.files.records = home.journal.records :=
  ⟨⟨current.length, current.tip ▸ sound.chained⟩, sound.logged.of_healthy current.healthy⟩

/-- Every record that the custody of an open Home writes keeps its files sound. -/
theorem ProcessSound.entrySound (identified : HandoffsIdentified)
    (sound : fleet.ProcessSound allowed published root home) (admits : CustodyAdmits signer home record next) :
    fleet.EntrySound published root
      ⟨home.journal.files, home.custodyJournal.files, importedAuthorities, currentAuthority⟩ record := by
  have opened : ¬ Unopened (eventsOf home.custodyJournal.files.records) := sound.opened.not_unopened
  have step := writerStep_of_step sound.custody.writer admits.step
  have holds := sound.custody
  unfold CustodyHolds at holds
  generalize held : home.custody = custody at step
  cases step with
  | active fence opens staged _ => exact .plain fence opens staged
  | redirect => exact .plain rfl rfl (by simp)
  | fence source =>
    obtain ⟨matching, files⟩ := sound.matching (admits.fence _ _ rfl)
    refine ⟨?_, by simp, fun unopened => absurd unopened opened, by simp, by simp [CustodyLedgerRecord.opens]⟩
    rintro _ ⟨⟩
    exact files.symm ▸ matching
  | proof verified sameGrant sameCheckpoint =>
    simp only [held] at holds
    obtain ⟨source, matching, files, _⟩ := holds
    have grant := identified.grants _ _ sameGrant
    have checkpoint := identified.checkpoints _ _ sameCheckpoint
    refine ⟨?_, ?_, fun unopened => absurd unopened opened, by simp, by simp [CustodyLedgerRecord.opens]⟩
    · rintro _ ⟨⟩
      rw [checkpoint]
      exact files.symm ▸ matching
    · rintro _ ⟨⟩
      exact ⟨verified, by rw [grant, source, sound.operational]⟩

/-- The fence holds in memory whatever became of its record. -/
theorem ProcessSound.holds_fence (sound : fleet.ProcessSound allowed published root home)
    (admits : CustodyAdmits signer home (.frozen grant checkpoint) next) (custodyJournal : CustodyJournal) :
    CustodyHolds { home with custodyJournal, custody := next } := by
  obtain ⟨matching, files⟩ := sound.matching (admits.fence _ _ rfl)
  have step := writerStep_of_step sound.custody.writer admits.step
  generalize home.custody = custody at step
  cases step with
  | active fence _ _ _ => cases fence
  | fence source => exact ⟨source, matching, files, by simp⟩

/-- A record that replay takes leaves memory and files in agreement, once it is durable. -/
theorem ProcessSound.holds_written (sound : fleet.ProcessSound allowed published root home)
    (admits : CustodyAdmits signer home record next)
    (events : eventsOf custodyJournal.files.records = eventsOf home.custodyJournal.files.records ++ [record]) :
    CustodyHolds { home with custodyJournal, custody := next } := by
  have step := writerStep_of_step sound.custody.writer admits.step
  have holds := sound.custody
  unfold CustodyHolds at holds
  generalize held : home.custody = custody at step
  simp only [held] at holds
  cases step with
  | active fence _ _ activation =>
    obtain ⟨unfenced, current, first, marked⟩ := holds
    refine ⟨by rw [events]; exact unfenced.snoc fence, current, fun moved => first ?_, ?_⟩
    · rw [moved, Option.map_none, eq_comm, Option.map_eq_none_iff] at activation
      exact activation
    · exact marked.mono (by simp [events]) activation
  | fence source => exact sound.holds_fence admits custodyJournal
  | proof verified _ _ =>
    obtain ⟨source, matching, files, _⟩ := holds
    refine ⟨source, matching, files, ?_⟩
    rintro _ ⟨⟩
    simp [events]
  | redirect =>
    obtain ⟨source, matching, files, proofs⟩ := holds
    exact ⟨source, matching, files, fun proof kept => by simp [events, proofs proof kept]⟩

omit [Crypto] in
theorem subset_of_events {before after : List CustodyLedgerRecord}
    (events : after = before ∨ after = before ++ [record]) : before ⊆ after := by
  rcases events with rfl | rfl
  · exact List.Subset.refl _
  · exact List.subset_append_left _ _

/-- A record that was lost half way leaves memory as it was. -/
theorem ProcessSound.holds_lost (sound : fleet.ProcessSound allowed published root home)
    (admits : CustodyAdmits signer home record next) (plain : ∀ grant checkpoint, record ≠ .frozen grant checkpoint)
    (events : eventsOf custodyJournal.files.records = eventsOf home.custodyJournal.files.records ∨
      eventsOf custodyJournal.files.records = eventsOf home.custodyJournal.files.records ++ [record]) :
    CustodyHolds { home with custodyJournal } := by
  have step := writerStep_of_step sound.custody.writer admits.step
  have kept := subset_of_events events
  have holds := sound.custody
  unfold CustodyHolds at holds ⊢
  generalize held : home.custody = custody at step
  simp only [held] at holds ⊢
  cases step with
  | active fence _ _ _ =>
    refine ⟨?_, holds.2.1, holds.2.2.1, holds.2.2.2.mono kept rfl⟩
    rcases events with same | longer
    · rw [same]
      exact holds.1
    · rw [longer]
      exact holds.1.snoc fence
  | fence source => exact absurd rfl (plain _ _)
  | proof _ _ _ | redirect =>
    exact ⟨holds.1, holds.2.1, holds.2.2.1, fun proof kept' => kept (holds.2.2.2 proof kept')⟩

/-- The Job side of an open Home does not depend on its custody. -/
theorem ProcessSound.with_custody (sound : fleet.ProcessSound allowed published root home) {custody : CustodyState}
    (kept : eventsOf home.custodyJournal.files.records ⊆ eventsOf custodyJournal.files.records)
    (holds : CustodyHolds { home with custodyJournal, custody }) :
    fleet.ProcessSound allowed published root { home with custodyJournal, custody } :=
  { sound with opened := sound.opened.mono kept, custody := holds }

omit [Crypto] in
theorem poisoned_events {journal after : CustodyJournal} (poisoned : journal.Poisoned entry after) :
    eventsOf after.files.records = eventsOf journal.files.records ∨
      eventsOf after.files.records = eventsOf journal.files.records ++ [entry.payload.event] := by
  rcases poisoned.logged with ⟨same, _⟩ | ⟨longer, _⟩
  · exact .inl (by rw [same])
  · exact .inr (by simp [longer])

theorem DiskSound.poisoned {journal : SignedJournal HomeLedgerRecord} {before after : CustodyJournal}
    (sound : fleet.DiskSound allowed published root
      ⟨journal.files, before.files, importedAuthorities, currentAuthority⟩) (fits : fleet.EntrySound published root
      ⟨journal.files, before.files, importedAuthorities, currentAuthority⟩ entry.payload.event)
    (poisoned : before.Poisoned entry after) :
    fleet.DiskSound allowed published root ⟨journal.files, after.files, importedAuthorities, currentAuthority⟩ := by
  rcases poisoned.logged with ⟨same, _⟩ | ⟨longer, _⟩
  · exact sound.reread ⟨rfl, rfl, same, rfl, rfl⟩
  · exact sound.logged ⟨rfl, longer, rfl, rfl⟩ fits

/-- One step of custody keeps an open root sound. -/
theorem RootSound.custodyMove (identified : HandoffsIdentified)
    (sound : fleet.RootSound allowed published root (.up home importedAuthorities currentAuthority))
    (move : CustodyMove host backed home after) :
    fleet.RootSound allowed published root (.up after importedAuthorities currentAuthority) := by
  obtain ⟨disk, process⟩ := RootSound.up_iff.mp sound
  rw [RootSound.up_iff]
  have fits : ∀ {record next} {entry : SignedRecord (ChainEntry CustodyLedgerRecord)},
      CustodyAdmits host.signer.publicKey home record next →
      home.custodyJournal.Continuation record host.signer.publicKey entry →
      fleet.EntrySound published root
        ⟨home.journal.files, home.custodyJournal.files, importedAuthorities, currentAuthority⟩ entry.payload.event :=
    fun admits continued => continued.event.symm ▸ process.entrySound identified admits
  cases move with
  | quiet coordinator binding failure me same =>
    subst same
    have covers : HomeConfig.Covers { home.config with coordinator } home.config :=
      .of_authorities rfl (List.Subset.refl _)
    exact ⟨disk, { process with replays := covers.replay process.replays }⟩
  | @wrote record entry custodyJournal custody admits continued appended same =>
    subst same
    have events : eventsOf custodyJournal.files.records = eventsOf home.custodyJournal.files.records ++ [record] := by
      simp [appended.logged, continued.event]
    exact ⟨disk.logged ⟨rfl, appended.logged, rfl, rfl⟩ (fits admits continued),
      process.with_custody (subset_of_events (.inr events)) (process.holds_written admits events)⟩
  | @lost record entry custodyJournal next admits plain continued poisoned same =>
    subst same
    have events := continued.event ▸ poisoned_events poisoned
    exact ⟨disk.poisoned (fits admits continued) poisoned,
      process.with_custody (subset_of_events events) (process.holds_lost admits plain events)⟩
  | @lostFence grant checkpoint entry custodyJournal custody admits continued poisoned same =>
    subst same
    have events := continued.event ▸ poisoned_events poisoned
    exact ⟨disk.poisoned (fits admits continued) poisoned,
      process.with_custody (subset_of_events events) (process.holds_fence admits custodyJournal)⟩
  | @unbacked grant checkpoint custody admits refused same =>
    subst same
    exact ⟨disk, process.with_custody (List.Subset.refl _) (process.holds_fence admits home.custodyJournal)⟩

end CustodySteps

end Fleet

end

deriving instance Countable for ChainEntry, HomeLedgerRecord

namespace Sample

attribute [local instance] Wire.Sample.collisionFree

theorem handoffsIdentified : HandoffsIdentified where
  entries := Wire.Sample.collisionFree_identifies
  grants := Wire.Sample.collisionFree_identifies
  checkpoints := Wire.Sample.collisionFree_identifies

end Sample

end Gawd.Home
