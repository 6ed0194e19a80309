import Gawd.Home.Soundness

/-!
Every command keeps every root of a fleet sound, so every reachable world is.
-/

namespace Gawd.Home

open Gawd.Logic Gawd.Wire Gawd.Journal

@[simp] theorem Root.withDisk_disk (node : Root) (disk : Disk) : (node.withDisk disk).disk = disk := by
  cases node <;> rfl

@[simp] theorem Root.withDisk_self (node : Root) : node.withDisk node.disk = node := by
  cases node <;> rfl

@[simp] theorem Root.withDisk_withDisk (node : Root) (first second : Disk) :
    (node.withDisk first).withDisk second = node.withDisk second := by
  cases node <;> rfl

attribute [simp] Root.process?

variable {home : FunctionHome} {shown : SignedRecord CustodyPrepared → Prop} {rebinds : Prop}
  {after disk : Disk} {config : HomeConfig} {host : Host}

section

variable [Crypto]

theorem HomeAuthority.verify_valid {authority : HomeAuthority} {home : HomeId}
    (verified : authority.verify home epoch capability = .ok ()) :
    authority.validate = .ok () := by
  simp only [HomeAuthority.verify, HomeAuthority.verifyWith, bind_eq_ok] at verified
  obtain ⟨_, valid, _⟩ := verified
  exact valid

namespace Fleet

variable {ι : Type} {fleet : Fleet ι} {allowed : HomeState → HomeLedgerRecord → Prop}
  {published : SignedRecord CustodyPrepared → Prop} {root : ι} {node : Root}

/-- Ledgers that a proper proof fences are good. -/
def Sealed (fleet : Fleet ι) (allowed : HomeState → HomeLedgerRecord → Prop)
    (published : SignedRecord CustodyPrepared → Prop) : Prop :=
  ∀ root prepared records, fleet.Proper published root prepared → Matches records prepared.payload.checkpoint →
    Pending allowed (eventsOf records)

/-! Steps of the files, opening and crashing. -/

/-- A process looks at the records of its files only. -/
theorem ProcessSound.withDisk (sound : fleet.ProcessSound allowed published root home)
    {job : Journal.Files HomeLedgerRecord} {custody : Journal.Files CustodyLedgerRecord}
    (sameJob : job.records = home.journal.files.records)
    (sameCustody : custody.records = home.custodyJournal.files.records) :
    fleet.ProcessSound allowed published root { home with
      journal := { home.journal with files := job }
      custodyJournal := { home.custodyJournal with files := custody } } := by
  refine { sound with logged := ?_, opened := ?_, custody := ?_ }
  · have logged := sound.logged
    unfold JobLogged at logged ⊢
    simpa only [sameJob] using logged
  · simpa only [sameCustody] using sound.opened
  · have holds := sound.custody
    unfold CustodyHolds at holds ⊢
    simpa only [sameJob, sameCustody] using holds

/-- One durable step keeps a root sound. Under a running writer it changes metadata only. -/
theorem RootSound.diskMove (sound : fleet.RootSound allowed published root node)
    (proper : ∀ prepared, shown prepared → fleet.Proper published root prepared)
    (sealed : fleet.Sealed allowed published) (idle : rebinds → node.process? = none)
    (move : DiskMove (fleet.epoch root) shown rebinds node.disk after) :
    fleet.RootSound allowed published root (node.withDisk after) := by
  refine ⟨?_, ?_⟩
  · rw [Root.withDisk_disk]
    exact sound.disk.move proper (sealed root) move
  cases node with
  | down disk => simp [Root.withDisk]
  | up home importedAuthorities currentAuthority =>
    intro _ running
    obtain rfl := Option.some.inj running
    have process := sound.process home rfl
    have opened : ¬ Unopened (eventsOf home.custodyJournal.files.records) := process.opened.not_unopened
    cases move with
    | reread reread => exact process.withDisk reread.job reread.custody
    | proven _ same | imported _ _ same =>
      subst same
      exact process
    | initialized _ start _ _ | staged _ start _ _ =>
      exact absurd (by simp [Root.disk] at start; simp [start, eventsOf, Unopened]) opened
    | installed _ unopened _ _ _ _ _ | received unopened _ _ | activated unopened _ _ _ _ =>
      exact absurd unopened opened
    | rebound may _ _ => exact absurd (idle may) (by simp)

theorem DiskSound.moves (sound : fleet.DiskSound allowed published root before)
    (proper : ∀ prepared, shown prepared → fleet.Proper published root prepared)
    (sealed : fleet.Sealed allowed published) (moves : DiskMoves (fleet.epoch root) shown rebinds before after) :
    fleet.DiskSound allowed published root after := by
  induction moves with
  | refl => exact sound
  | tail _ move ih => exact ih.move proper (sealed root) move

/-- What the custody state of an opened Home says about its files. -/
theorem custodyHolds_of_shape (sound : fleet.DiskSound allowed published root disk)
    (jobFiles : home.journal.files = disk.job) (custodyFiles : home.custodyJournal.files = disk.custody)
    (records : home.journal.records = disk.job.records)
    (writer : ∀ prepared staging, home.custody ≠ .staged prepared staging)
    (shape : CustodyShape { home.config with coordinator } (eventsOf disk.custody.records) (some home.custody)) :
    CustodyHolds home := by
  unfold CustodyHolds
  cases custody : home.custody with
  | active current handoff routeSequence coordinator activation =>
    rw [custody] at shape
    obtain ⟨unfenced, _, current, first, marked⟩ := shape
    exact ⟨by rwa [custodyFiles], current, first, by rwa [custodyFiles]⟩
  | frozen grant checkpoint prepared redirect =>
    rw [custody] at shape
    obtain ⟨_, source, frozen, proven⟩ := shape
    refine ⟨source, ?_, by rw [jobFiles, records], fun proof kept => ?_⟩
    · rw [records]
      exact sound.fenced _ frozen checkpoint rfl
    · rw [custodyFiles]
      exact (proven proof kept).prepared_mem
  | staged prepared staging => exact absurd custody (writer prepared staging)

theorem opened_of_shape (shape : CustodyShape config events (some custody))
    (writer : ∀ prepared staging, custody ≠ .staged prepared staging) : Opened config.epoch events := by
  cases custody with
  | active => exact shape.2.1
  | frozen => exact shape.1
  | staged prepared staging => exact absurd rfl (writer prepared staging)

/-- The authority that an opened Home works under is genuine. -/
theorem genuine_of_opened (sound : fleet.DiskSound allowed published root disk)
    (unforged : config.authority.validate = .ok () → fleet.Genuine published config.authority)
    (opened : OpenedFrom host config disk home after) : fleet.Genuine published home.config.authority := by
  have valid := HomeAuthority.verify_valid opened.authority
  obtain ⟨_, authority, _, same, origin⟩ := opened.config
  have current : home.config.authority = authority := by rw [same]
  rw [current] at valid ⊢
  rcases origin with rfl | ⟨prepared, kept, rfl⟩
  · exact unforged valid
  · obtain ⟨shown, minted, source⟩ := (sound.current prepared kept).genuine
    exact .moved _ _ shown minted source

/-- Opening a sound root gives a sound Home. -/
theorem RootSound.opened (sound : fleet.RootSound allowed published root (.down disk))
    (sealed : fleet.Sealed allowed published) (configured : fleet.Configured root config)
    (unforged : config.authority.validate = .ok () → fleet.Genuine published config.authority)
    (opened : OpenedFrom host config disk home after) :
    fleet.RootSound allowed published root (.up home after.importedAuthorities after.currentAuthority) := by
  have reached : fleet.DiskSound allowed published root after :=
    sound.disk.moves (fun _ shown => False.elim shown) sealed (configured.epoch ▸ opened.moves)
  obtain ⟨coordinator, recovered⟩ := opened.custody
  obtain ⟨opener, recovers⟩ := opened.state
  have replayed := recoverState_eq_ok recovers
  have covers : HomeConfig.Covers home.config { home.config with coordinator := opener } :=
    .of_authorities rfl (List.Subset.refl _)
  have epoch : home.config.epoch = fleet.epoch root := by
    obtain ⟨_, _, _, same, _⟩ := opened.config
    rw [same]
    exact configured.epoch
  have records : home.journal.events = eventsOf after.job.records := by
    rw [SignedJournal.events, opened.job.records]
  rw [RootSound.up_iff, opened.jobFiles, recovered.files]
  refine ⟨reached, ?_⟩
  constructor
  case owner =>
    obtain ⟨_, _, _, same, _⟩ := opened.config
    rw [same]
    exact configured.home
  case epoch => exact epoch
  case operational =>
    obtain ⟨_, authority, _, same, origin⟩ := opened.config
    rw [same]
    rcases origin with rfl | ⟨prepared, _, rfl⟩
    · exact configured.operational
    · exact configured.operational
  case valid => exact HomeAuthority.verify_valid opened.authority
  case genuine => exact genuine_of_opened sound.disk unforged opened
  case replays => exact covers.replay replayed
  case grown =>
    rw [records] at replayed ⊢
    exact reached.pending.grown replayed
  case chained => exact opened.job.chained
  case logged => exact .inl (by rw [opened.job.logged, opened.job.records])
  case opened =>
    rw [← epoch, recovered.files]
    exact opened_of_shape recovered.shape opened.writer
  case custody =>
    exact custodyHolds_of_shape reached opened.jobFiles recovered.files opened.job.records opened.writer recovered.shape
  case based =>
    rw [opened.job.records]
    exact reached.based (opened_of_shape recovered.shape opened.writer).not_unopened

/-! Commands. -/

section Commands

variable {host : Host} {home : FunctionHome} {backed : Prop}

/-- What one operation does to an open Home: it moves along its Job ledger, or along its custody. -/
theorem Operation.perform_moves {operation : Operation} (free : Unobserved allowed)
    (fits : home.custody.Fits home.config.epoch) (receipts : ∀ receipt, operation = .applyExecutorReceipt receipt →
      ∀ record, record.receipt = some receipt → allowed home.state record)
    (backing : ∀ grant checkpoint, operation = .prepareHandoff grant checkpoint → backed →
      home.custody.ensureWritable = .ok () → Fenceable host home grant checkpoint) :
    Moves allowed host.signer.publicKey home (operation.perform host home) ∨
      CustodyMoves host backed home (operation.perform host home) := by
  refine Operation.moves_or free receipts (fun grant checkpoint same => ?_) (fun _ => recordHandoffRedirect_moves)
    fun _ => bindRuntime_moves fits
  exact wp_imp (prepareHandoff_moves fits (backing grant checkpoint same)) (fun _ _ done => done.1)

/-- One elementary step of a root. -/
inductive RootMove (fleet : Fleet ι) (allowed : HomeState → HomeLedgerRecord → Prop) (backed : Prop)
    (published : SignedRecord CustodyPrepared → Prop) (root : ι) : Root → Root → Prop where
  | job {home after : FunctionHome} {signer : Text} : HomeStep allowed signer home after →
      RootMove fleet allowed backed published root (.up home importedAuthorities currentAuthority)
        (.up after importedAuthorities currentAuthority)
  | custody {home after : FunctionHome} {host : Host} :
      host.signer.publicKey = (fleet.identity root).operational.payload.operationalPublicKey →
      CustodyMove host backed home after →
      RootMove fleet allowed backed published root (.up home importedAuthorities currentAuthority)
        (.up after importedAuthorities currentAuthority)
  | disk {node : Root} {after : Disk} {shown : SignedRecord CustodyPrepared → Prop} {rebinds : Prop} :
      (∀ prepared, shown prepared → fleet.Proper published root prepared) → (rebinds → node.process? = none) →
      DiskMove (fleet.epoch root) shown rebinds node.disk after →
      RootMove fleet allowed backed published root node (node.withDisk after)
  | opened {home : FunctionHome} {disk after : Disk} {host : Host} {config : HomeConfig} : fleet.Configured root config →
      (config.authority.validate = .ok () → fleet.Genuine published config.authority) →
      OpenedFrom host config disk home after →
      RootMove fleet allowed backed published root (.down disk) (.up home after.importedAuthorities after.currentAuthority)
  | crashed {node : Root} : RootMove fleet allowed backed published root node (.down node.disk)

def RootMoves (fleet : Fleet ι) (allowed : HomeState → HomeLedgerRecord → Prop) (backed : Prop)
    (published : SignedRecord CustodyPrepared → Prop) (root : ι) : Root → Root → Prop :=
  Relation.ReflTransGen (fleet.RootMove allowed backed published root)

/-- Durable steps on the files of a root are steps of the root. -/
theorem RootMoves.of_disk (proper : ∀ prepared, shown prepared → fleet.Proper published root prepared)
    (idle : rebinds → node.process? = none) (moves : DiskMoves (fleet.epoch root) shown rebinds node.disk after) :
    fleet.RootMoves allowed backed published root node (node.withDisk after) := by
  induction moves with
  | refl =>
    rw [Root.withDisk_self]
    exact .refl
  | @tail middle final _ move ih =>
    rw [← Root.withDisk_withDisk node middle final]
    refine ih.tail (.disk proper (fun may => ?_) (by simpa using move))
    cases node with
    | down disk => rfl
    | up home importedAuthorities currentAuthority => exact absurd (idle may) (by simp)

/-- A receipt may come only where every record that carries it is allowed. -/
def Observes (allowed : HomeState → HomeLedgerRecord → Prop) (node : Root) : Command → Prop
  | .operate _ (.applyExecutorReceipt receipt) =>
    ∀ home, node.process? = some home → ∀ record, record.receipt = some receipt → allowed home.state record
  | _ => True

/-- A Home that a handoff finds writable can sign the fence and fit it into its journal. -/
def Backed (node : Root) : Command → Prop
  | .operate host (.prepareHandoff grant checkpoint) => ∀ home, node.process? = some home →
    home.custody.ensureWritable = .ok () → Fenceable host home grant checkpoint
  | _ => True

variable {world : World ι} {command : Command}

/-- Every command is a run of elementary steps of its root. -/
theorem perform_moves (free : Unobserved allowed) (admits : fleet.Admits world root command)
    (observes : Observes allowed node command)
    (fits : ∀ home, node.process? = some home → home.custody.Fits home.config.epoch) :
    fleet.RootMoves allowed (Backed node command) world.Published root node (node.perform command) := by
  cases command with
  | openHome host config =>
    cases node with
    | up home importedAuthorities currentAuthority => exact .refl
    | down disk =>
      obtain ⟨configured, unforged⟩ := admits
      have spec : wp (Home.openHome host config) (fun home after => OpenedFrom host config disk home after)
          (fun _ after => DiskMoves config.epoch Unshown False disk after) disk :=
        wp_openHome (fun _ _ moves => moves) fun _ _ opened => opened
      unfold wp at spec
      simp only [Root.perform]
      split at spec
      · rename_i home after run
        rw [run]
        exact .single (.opened configured unforged spec)
      · rename_i error after run
        rw [run]
        exact RootMoves.of_disk (fun _ shown => False.elim shown) False.elim (configured.epoch ▸ spec)
  | stageHandoff host config prepared =>
    obtain ⟨configured, unforged⟩ := admits
    refine RootMoves.of_disk ?_ False.elim (configured.epoch ▸ finalState_of_wp stageHandoff_moves)
    rintro proof ⟨rfl, admissible⟩
    exact ⟨unforged admissible.verified, admissible.verified, admissible.epoch.trans configured.epoch⟩
  | activateStagedHandoff host config staged =>
    have moves : DiskMoves config.epoch Unshown False node.disk
        (finalState (Home.activateStagedHandoff host config staged) node.disk) :=
      finalState_of_wp activateStagedHandoff_moves
    exact RootMoves.of_disk (fun _ shown => False.elim shown) False.elim (admits.epoch ▸ moves)
  | refreshActiveDestinationLease host config =>
    cases node with
    | up home importedAuthorities currentAuthority => exact .refl
    | down disk =>
      have moves : DiskMoves config.epoch Unshown True disk (finalState (refreshMerged host config) disk) := by
        refine finalState_of_wp ?_
        rw [refreshMerged, wp_bind, wp_get]
        refine wp_guard fun merged _ => ?_
        exact wp_then refreshActiveDestinationLease_moves (fun _ _ moves => moves)
      exact RootMoves.of_disk (fun _ shown => False.elim shown) (fun _ => rfl) (admits.epoch ▸ moves)
  | operate host operation =>
    cases node with
    | down disk => exact .refl
    | up home importedAuthorities currentAuthority =>
      have receipts : ∀ receipt, operation = .applyExecutorReceipt receipt →
          ∀ record, record.receipt = some receipt → allowed home.state record := by
        rintro receipt rfl
        exact observes home rfl
      have backing : ∀ grant checkpoint, operation = .prepareHandoff grant checkpoint →
          Backed (.up home importedAuthorities currentAuthority) (.operate host operation) →
          home.custody.ensureWritable = .ok () → Fenceable host home grant checkpoint := by
        rintro grant checkpoint rfl backed
        exact backed home rfl
      have moved := Operation.perform_moves free (fits home rfl) receipts backing
      rcases moved with moves | moves
      · exact Relation.ReflTransGen.lift (fun home => Root.up home importedAuthorities currentAuthority)
          (fun _ _ step => RootMove.job step) _ _ moves
      · exact Relation.ReflTransGen.lift (fun home => Root.up home importedAuthorities currentAuthority)
          (fun _ _ move => RootMove.custody admits move) _ _ moves
  | crash => exact .single .crashed

end Commands

/-! Runs. -/

section Runs

variable {world : World ι} {before after : Root} {backed : Prop}

section

variable (identified : HandoffsIdentified) (sealed : fleet.Sealed allowed published)

include identified sealed

theorem RootMove.sound (move : fleet.RootMove allowed backed published root before after)
    (sound : fleet.RootSound allowed published root before) : fleet.RootSound allowed published root after := by
  cases move with
  | job step => exact sound.homeStep step
  | custody _ move => exact RootSound.custodyMove identified sound move
  | disk proper idle move => exact RootSound.diskMove sound proper sealed idle move
  | opened configured unforged opened => exact sound.opened sealed configured unforged opened
  | crashed => exact ⟨sound.disk, by simp⟩

theorem RootMoves.sound (moves : fleet.RootMoves allowed backed published root before after)
    (sound : fleet.RootSound allowed published root before) : fleet.RootSound allowed published root after := by
  induction moves with
  | refl => exact sound
  | tail _ move ih => exact move.sound identified sealed ih

end

end Runs

end Fleet

end

end Gawd.Home
