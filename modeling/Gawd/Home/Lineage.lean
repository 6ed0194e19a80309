import Gawd.Home.FleetRun

/-!
The roots of a fleet share one ledger: what one of them has made durable is the start of what every
later writer works on, whatever failed and crashed in between.
-/

namespace Gawd.Home

open Gawd.Logic Gawd.Wire Gawd.Journal

/-- The Job ledger as a root shows it: what its Home remembers, or what its files hold. -/
def Root.ledger : Root → List (SignedRecord (ChainEntry HomeLedgerRecord))
  | .down disk => disk.job.records
  | .up home _ _ => home.journal.records

theorem Root.ledger_of_process {root : Root} {home : FunctionHome} (running : root.process? = some home) :
    root.ledger = home.journal.records := by
  cases root with
  | down disk => simp at running
  | up other _ _ => rw [← Option.some.inj running]; rfl

theorem Root.disk_job {root : Root} {home : FunctionHome} (running : root.process? = some home) :
    root.disk.job = home.journal.files := by
  cases root with
  | down disk => simp at running
  | up other _ _ => rw [← Option.some.inj running]; rfl

/-- Nothing that was durable or shown is gone. -/
structure Advances (before after : Root) : Prop where
  ledger : before.ledger <+: after.ledger
  job : before.disk.job.records <+: after.disk.job.records
  custody : before.disk.custody.records <+: after.disk.custody.records

theorem Advances.refl (node : Root) : Advances node node :=
  ⟨List.prefix_refl _, List.prefix_refl _, List.prefix_refl _⟩

theorem Advances.trans (one : Advances first second) (two : Advances second third) : Advances first third :=
  ⟨one.ledger.trans two.ledger, one.job.trans two.job, one.custody.trans two.custody⟩

variable {shown : SignedRecord CustodyPrepared → Prop} {rebinds : Prop} {after : FunctionHome}
  {importedAuthorities : Option ImportedAuthorityHistory}
  {currentAuthority : Option (SignedRecord CustodyPrepared)} {before : Root}
  {abode : SignedRecord AbodeKeyBinding} {operational : SignedRecord OperationalKeyGrant}

section

variable [Crypto]

namespace Fleet

variable {ι : Type} {fleet : Fleet ι} {allowed : HomeState → HomeLedgerRecord → Prop} {backed : Prop}
  {published : SignedRecord CustodyPrepared → Prop} {root : ι}

/-! One root. -/

omit [Crypto] in
theorem Poisoned.durable {before after : SignedJournal α} (poisoned : before.Poisoned entry after) :
    before.files.records <+: after.files.records := by
  rcases poisoned.logged with ⟨same, _⟩ | ⟨longer, _⟩
  · exact same ▸ List.prefix_refl _
  · exact longer ▸ List.prefix_append _ _

theorem DiskMove.advances {epoch : Nat} {before after : Disk}
    (sound : fleet.DiskSound allowed published root before) (move : DiskMove epoch shown rebinds before after) :
    before.job.records <+: after.job.records ∧ before.custody.records <+: after.custody.records := by
  have logged : ∀ {entry}, Logged entry before after →
      before.job.records <+: after.job.records ∧ before.custody.records <+: after.custody.records :=
    fun logged => ⟨logged.job ▸ List.prefix_refl _, logged.custody ▸ List.prefix_append _ _⟩
  cases move with
  | reread reread => exact ⟨reread.job ▸ List.prefix_refl _, reread.custody ▸ List.prefix_refl _⟩
  | proven _ same | imported _ _ same => exact same ▸ ⟨List.prefix_refl _, List.prefix_refl _⟩
  | installed _ _ _ absent _ _ same =>
    -- An archive is installed only where no Job ledger is.
    have empty : before.job.records = [] := by
      by_contra records
      simp [sound.present records] at absent
    exact ⟨empty ▸ List.nil_prefix, same ▸ List.prefix_refl _⟩
  | initialized _ _ _ written | staged _ _ _ written | received _ _ written | activated _ _ _ _ written =>
    exact logged written
  | rebound _ _ written => exact logged written

theorem DiskMoves.advances {before after : Disk} (sound : fleet.DiskSound allowed published root before)
    (proper : ∀ prepared, shown prepared → fleet.Proper published root prepared)
    (sealed : fleet.Sealed allowed published) (moves : DiskMoves (fleet.epoch root) shown rebinds before after) :
    before.job.records <+: after.job.records ∧ before.custody.records <+: after.custody.records := by
  induction moves with
  | refl => exact ⟨List.prefix_refl _, List.prefix_refl _⟩
  | tail earlier move ih =>
    obtain ⟨job, custody⟩ := DiskMove.advances (sound.moves proper sealed earlier) move
    exact ⟨ih.1.trans job, ih.2.trans custody⟩

variable {home : FunctionHome}

/-- What a Home remembers of its Job ledger is the start of what its files hold. -/
theorem JobLogged.durable (logged : JobLogged allowed home) : home.journal.records <+: home.journal.files.records := by
  rcases logged with same | ⟨_, entry, longer, _⟩
  · exact same ▸ List.prefix_refl _
  · exact longer ▸ List.prefix_append _ _

theorem HomeStep.advances (step : HomeStep allowed signer home after) :
    Advances (.up home importedAuthorities currentAuthority) (.up after importedAuthorities currentAuthority) := by
  cases step with
  | cached binding same =>
    subst same
    exact ⟨List.prefix_refl _, List.prefix_refl _, List.prefix_refl _⟩
  | logged _ _ _ _ appended _ same =>
    subst same
    exact ⟨⟨_, appended.records.symm⟩, ⟨_, appended.logged.symm⟩, List.prefix_refl _⟩
  | poisoned _ _ _ _ poisoned same =>
    subst same
    exact ⟨⟨[], by simp [Root.ledger, poisoned.records]⟩, Poisoned.durable poisoned, List.prefix_refl _⟩

theorem CustodyMove.advances (move : CustodyMove host backed home after) :
    Advances (.up home importedAuthorities currentAuthority) (.up after importedAuthorities currentAuthority) := by
  cases move with
  | quiet coordinator binding failure me same | unbacked _ _ same =>
    subst same
    exact ⟨List.prefix_refl _, List.prefix_refl _, List.prefix_refl _⟩
  | wrote _ _ appended same =>
    subst same
    exact ⟨List.prefix_refl _, List.prefix_refl _, appended.logged ▸ List.prefix_append _ _⟩
  | lost _ _ _ poisoned same | lostFence _ _ poisoned same =>
    subst same
    exact ⟨List.prefix_refl _, List.prefix_refl _, Poisoned.durable poisoned⟩

theorem RootMove.advances {after : Root} (sealed : fleet.Sealed allowed published)
    (sound : fleet.RootSound allowed published root before)
    (move : fleet.RootMove allowed backed published root before after) : Advances before after := by
  cases move with
  | job step => exact HomeStep.advances step
  | custody _ move => exact CustodyMove.advances move
  | @disk node files shown rebinds proper idle move =>
    obtain ⟨job, custody⟩ := DiskMove.advances sound.disk move
    cases before with
    | down disk => exact ⟨job, job, custody⟩
    | up home importedAuthorities currentAuthority => exact ⟨List.prefix_refl _, job, custody⟩
  | @opened home disk after host config configured unforged opened =>
    obtain ⟨job, custody⟩ := DiskMoves.advances sound.disk (fun _ shown => False.elim shown) sealed
      (configured.epoch ▸ opened.moves)
    obtain ⟨coordinator, recovered⟩ := opened.custody
    refine ⟨?_, ?_, ?_⟩
    · simpa only [Root.ledger, Root.disk, opened.job.records] using job
    · simpa only [Root.disk, opened.jobFiles] using job
    · simpa only [Root.disk, recovered.files] using custody
  | crashed =>
    refine ⟨?_, List.prefix_refl _, List.prefix_refl _⟩
    cases before with
    | down disk => exact List.prefix_refl _
    | up home importedAuthorities currentAuthority => exact JobLogged.durable (sound.process home rfl).logged

theorem RootMoves.advances {after : Root} (identified : HandoffsIdentified)
    (sealed : fleet.Sealed allowed published) (sound : fleet.RootSound allowed published root before)
    (moves : fleet.RootMoves allowed backed published root before after) : Advances before after := by
  induction moves with
  | refl => exact .refl before
  | tail earlier move ih => exact ih.trans (move.advances sealed (RootMoves.sound identified sealed earlier sound))

/-! The world. -/

variable {world : World ι}

/-- Every root is sound, against the proofs that the roots together have published. -/
def WorldSound (fleet : Fleet ι) (allowed : HomeState → HomeLedgerRecord → Prop) (world : World ι) : Prop :=
  ∀ root, fleet.RootSound allowed world.Published root (world root)

omit [Crypto] in
theorem published_mono {before after : World ι} (advances : ∀ root, Advances (before root) (after root))
    (shown : before.Published prepared) : after.Published prepared := by
  obtain ⟨root, member⟩ := shown
  exact ⟨root, ((advances root).custody.map _).subset member⟩

variable {prepared : SignedRecord CustodyPrepared}

/-- A published proof fences the durable ledger of the root that published it. -/
theorem WorldSound.publisher (sound : fleet.WorldSound allowed world) (shown : world.Published prepared) :
    ∃ source, .prepared prepared ∈ eventsOf (world source).disk.custody.records ∧
      Matches (world source).disk.job.records prepared.payload.checkpoint ∧
      ¬ Unopened (eventsOf (world source).disk.custody.records) ∧
      prepared.payload.grant.payload.sourceAuthority.operational = (fleet.identity source).operational := by
  obtain ⟨source, member⟩ := shown
  have disk := (sound source).disk
  refine ⟨source, member, disk.fenced _ member _ rfl, fun unopened => ?_, (disk.proofs prepared member).2⟩
  simpa [CustodyLedgerRecord.fence] using disk.order unopened _ member

section

variable (identified : HandoffsIdentified)

include identified

theorem WorldSound.sealed (sound : fleet.WorldSound allowed world) : fleet.Sealed allowed world.Published := by
  intro root prepared records proper matching
  obtain ⟨source, _, fenced, _⟩ := sound.publisher proper.genuine.shown
  rw [matching.unique identified.entries fenced]
  exact (sound source).disk.pending

/-- One command keeps the world sound, and nothing of it is lost. -/
theorem WorldSound.step [DecidableEq ι] {after : World ι} {label : ι × Command} (free : Unobserved allowed)
    (sound : fleet.WorldSound allowed world) (taken : fleet.system.step world label after)
    (observes : Observes allowed (world label.1) label.2) :
    fleet.WorldSound allowed after ∧ ∀ root, Advances (world root) (after root) := by
  obtain ⟨admits, rfl⟩ := taken
  have sealed := sound.sealed identified
  have moves := perform_moves free admits observes fun home running => ((sound label.1).process home running).custody.fits
  have advances := (Function.forall_update_iff world fun root => Advances (world root)).mpr
    ⟨RootMoves.advances identified sealed (sound label.1) moves, fun _ _ => .refl _⟩
  have kept := (Function.forall_update_iff world fun root => fleet.RootSound allowed world.Published root).mpr
    ⟨RootMoves.sound identified sealed moves (sound label.1), fun root _ => sound root⟩
  exact ⟨fun root => RootSound.mono (kept root) fun _ => published_mono advances, advances⟩

/-- The runs in which every receipt that a Home is given meets the condition. -/
def observed [DecidableEq ι] (fleet : Fleet ι) (allowed : HomeState → HomeLedgerRecord → Prop) :
    TransitionSystem (World ι) (ι × Command) :=
  fleet.system.restrict fun world label => Observes allowed (world label.1) label.2

theorem worldSound_of_reachable [DecidableEq ι] (free : Unobserved allowed)
    (reached : (fleet.observed allowed).Reachable world) : fleet.WorldSound allowed world := by
  refine reached.invariant ?_ ?_
  · intro first start root
    rw [start root]
    exact ⟨diskSound_empty, by simp⟩
  · rintro before label after sound ⟨taken, observes⟩
    exact (sound.step identified free taken observes).1

theorem advances_of_leads [DecidableEq ι] {after : World ι} (free : Unobserved allowed)
    (reached : (fleet.observed allowed).Reachable world) (run : (fleet.observed allowed).Leads world after)
    (root : ι) : Advances (world root) (after root) := by
  induction run with
  | refl => exact .refl _
  | tail earlier next ih =>
    obtain ⟨label, taken, observes⟩ := next
    have sound := worldSound_of_reachable identified free (reached.leads earlier)
    exact ih.trans ((sound.step identified free taken observes).2 root)

end

/-! Lineage. -/

/-- What a verified Prepared proof says of the grant it continues. -/
structure Continues (prepared : SignedRecord CustodyPrepared) : Prop where
  first : prepared.payload.grant.payload.fromEpoch ≠ 0
  next : prepared.payload.grant.payload.toEpoch = prepared.payload.grant.payload.fromEpoch + 1
  source : prepared.payload.grant.payload.sourceAuthority.validate = .ok ()
  sourceEpoch : prepared.payload.grant.payload.sourceAuthority.operational.payload.epoch =
    prepared.payload.grant.payload.fromEpoch
  checkpoint : canonicalHash prepared.payload.checkpoint = prepared.payload.grant.payload.checkpointHash

theorem continues_of_verified (verified : verifyCustodyPrepared prepared = .ok ()) : Continues prepared := by
  simp only [verifyCustodyPrepared, verifyCustodyPreparedWith, SignedRecord.validateWith, bind_eq_ok] at verified
  obtain ⟨_, ⟨_, _, _, _, _, _, _, payload, _⟩, _⟩ := verified
  simp only [CustodyPreparedOf.validateWith, verifyHandoffCheckpointWith, verifyCustodyGrantWith,
    SignedRecord.validateWith, bind_eq_ok, reject_eq_ok, not_or, not_not] at payload
  obtain ⟨_, ⟨_, ⟨_, ⟨_, _, _, _, _, _, _, grant, _⟩, _⟩, _, _, _, _, _, _, _, _, checkpoint⟩, _⟩ := payload
  simp only [CustodyGrantOf.validateWith, HomeAuthority.verifyWith, bind_eq_ok, reject_eq_ok, not_or,
    not_not] at grant
  obtain ⟨_, _, _, _, _, ⟨first, next⟩, _, ⟨_, source, _, _, _, ⟨_, sourceEpoch⟩, _⟩, _⟩ := grant
  exact ⟨first, next, source, sourceEpoch, checkpoint⟩

/-- A valid moved authority continues a verified proof that names its key. -/
theorem validate_moved (valid : (HomeAuthority.mk abode operational (some prepared)).validate = .ok ()) :
    verifyCustodyPrepared prepared = .ok () ∧ operational.payload.epoch ≠ 1 ∧
      prepared.payload.grant.payload.toEpoch = operational.payload.epoch ∧
      prepared.payload.grant.payload.destinationOperationalKey = operational := by
  simp only [HomeAuthority.validate, bind_eq_ok, reject_eq_ok, not_or, not_not] at valid
  obtain ⟨_, _, _, moved, _, verified, _, epoch, key, _⟩ := valid
  exact ⟨verified, moved, epoch, key⟩

theorem validate_genesis (valid : (HomeAuthority.mk abode operational none).validate = .ok ()) :
    operational.payload.epoch = 1 := by
  simp only [HomeAuthority.validate, bind_eq_ok, reject_eq_ok, not_not] at valid
  exact valid.choose_spec.2

/-- Every epoch has one operational key: genesis for the first, and for a later one the key of the one grant
that the epoch before it was given. -/
theorem Genuine.operational_unique (honest : fleet.Honest) {left right : HomeAuthority} (one : fleet.Genuine published left)
    (two : fleet.Genuine published right) (leftValid : left.validate = .ok ()) (rightValid : right.validate = .ok ())
    (same : left.operational.payload.epoch = right.operational.payload.epoch) : left.operational = right.operational := by
  cases one with
  | genesis _ first =>
    cases two with
    | genesis _ first' => exact honest.genesis _ _ first first'
    | moved _ operational _ _ _ =>
      exact absurd (same ▸ validate_genesis leftValid) (validate_moved rightValid).2.1
  | @moved _ _ first _ minted _ =>
    obtain ⟨verified, moved, epoch, key⟩ := validate_moved leftValid
    cases two with
    | genesis _ _ => exact absurd (same.trans (validate_genesis rightValid)) moved
    | @moved _ _ second _ minted' _ =>
      obtain ⟨verified', _, epoch', key'⟩ := validate_moved rightValid
      have source : first.payload.grant.payload.fromEpoch = second.payload.grant.payload.fromEpoch := by
        have next := (continues_of_verified verified).next
        have next' := (continues_of_verified verified').next
        simp only [HomeAuthority.operational] at same
        omega
      have grant := honest.minted _ _ minted minted' source
      exact key.symm.trans (grant ▸ key')

/-- The key of this root is the one of its epoch. -/
def Holds (fleet : Fleet ι) (published : SignedRecord CustodyPrepared → Prop) (root : ι) : Prop :=
  ∃ authority, fleet.Genuine published authority ∧ authority.validate = .ok () ∧
    authority.operational = (fleet.identity root).operational

theorem Holds.unique (honest : fleet.Honest) (one : fleet.Holds published left) (two : fleet.Holds published right)
    (same : fleet.epoch left = fleet.epoch right) : left = right := by
  obtain ⟨authority, genuine, valid, key⟩ := one
  obtain ⟨authority', genuine', valid', key'⟩ := two
  refine honest.keys ?_
  simp only [← key, ← key']
  exact genuine.operational_unique honest genuine' valid valid' (by rw [key, key']; exact same)

theorem Holds.pos (holds : fleet.Holds published root) : 0 < fleet.epoch root := by
  obtain ⟨authority, genuine, valid, key⟩ := holds
  rw [epoch, ← key]
  cases genuine with
  | genesis _ _ => exact validate_genesis valid ▸ Nat.one_pos
  | moved _ _ _ _ _ =>
    obtain ⟨verified, _, epoch, _⟩ := validate_moved valid
    have next := (continues_of_verified verified).next
    simp only [HomeAuthority.operational]
    omega

theorem ProcessSound.holds (sound : fleet.ProcessSound allowed published root home) : fleet.Holds published root :=
  ⟨_, sound.genuine, sound.valid, sound.operational⟩

/-- The publisher of a proper proof is the root of the epoch before. -/
theorem WorldSound.source (sound : fleet.WorldSound allowed world)
    (proper : fleet.Proper world.Published root prepared) :
    ∃ source, .prepared prepared ∈ eventsOf (world source).disk.custody.records ∧
      Matches (world source).disk.job.records prepared.payload.checkpoint ∧
      ¬ Unopened (eventsOf (world source).disk.custody.records) ∧ fleet.Holds world.Published source ∧
      fleet.epoch source + 1 = fleet.epoch root := by
  obtain ⟨source, member, matching, opened, key⟩ := sound.publisher proper.genuine.shown
  have continues := continues_of_verified proper.verified
  refine ⟨source, member, matching, opened, ⟨_, proper.genuine.source, continues.source, key⟩, ?_⟩
  rw [← proper.epoch, continues.next, ← continues.sourceEpoch, key]
  rfl

section

variable (honest : fleet.Honest) (identified : HandoffsIdentified)

include honest identified

/-- A root that custody has passed stands behind a fence, and its ledger is the start of every ledger that
custody was passed on to. The induction is on the epoch that it was passed on to. -/
theorem WorldSound.lineage (sound : fleet.WorldSound allowed world) (holds : fleet.Holds world.Published earlier)
    (older : fleet.epoch earlier < fleet.epoch later) {prepared : SignedRecord CustodyPrepared}
    (proper : fleet.Proper world.Published later prepared) (matching : Matches base prepared.payload.checkpoint) :
    (world earlier).disk.job.records <+: base ∧ ¬ Unfenced (eventsOf (world earlier).disk.custody.records) := by
  induction bound : fleet.epoch later using Nat.strong_induction_on generalizing later prepared base with
  | _ epoch ih =>
    subst bound
    obtain ⟨source, member, fenced, opened, key, next⟩ := sound.source proper
    rw [matching.unique identified.entries fenced]
    by_cases last : fleet.epoch earlier = fleet.epoch source
    · obtain rfl := holds.unique honest key last
      exact ⟨List.prefix_refl _, fun unfenced => nomatch unfenced _ member⟩
    · have newer : fleet.epoch earlier < fleet.epoch source := by omega
      rcases (sound source).disk.based opened with first | ⟨prepared', base', proper', longer, matching'⟩
      · have positive := holds.pos
        omega
      · exact (ih _ (by omega) newer proper' matching' rfl).imp_left (·.trans longer)

/-- What a Home has once remembered, every Home of its own or a later epoch remembers ever after. -/
theorem ledger_prefix [DecidableEq ι] {after : World ι} (free : Unobserved allowed)
    (reached : (fleet.observed allowed).Reachable world) (run : (fleet.observed allowed).Leads world after)
    {earlier later : ι} (order : fleet.epoch earlier ≤ fleet.epoch later) {home home' : FunctionHome}
    (before : (world earlier).process? = some home) (afterwards : (after later).process? = some home') :
    home.journal.records <+: home'.journal.records := by
  have advances := advances_of_leads identified free reached run
  have first := worldSound_of_reachable identified free reached earlier
  have second := worldSound_of_reachable identified free (reached.leads run)
  have holds : fleet.Holds after.Published earlier := by
    have process := (first.process home before).mono fun _ => published_mono advances
    exact ProcessSound.holds process
  have process := (second later).process home' afterwards
  rcases Nat.lt_or_eq_of_le order with older | same
  · have durable := JobLogged.durable (first.process home before).logged
    rcases process.based with one | ⟨prepared, base, proper, longer, matching⟩
    · have positive := holds.pos
      omega
    · have inherited := (second.lineage honest identified holds older proper matching).1
      have kept := (advances earlier).job
      rw [Root.disk_job before] at kept
      exact ((durable.trans kept).trans inherited).trans longer
  · obtain rfl := holds.unique honest (ProcessSound.holds process) same
    have kept := (advances earlier).ledger
    rwa [Root.ledger_of_process before, Root.ledger_of_process afterwards] at kept

/-- What a Home of an earlier epoch will ever remember, a Home of a later epoch has remembered all along. -/
theorem ledger_prefix_of_older [DecidableEq ι] {after : World ι} (free : Unobserved allowed)
    (reached : (fleet.observed allowed).Reachable world) (run : (fleet.observed allowed).Leads world after)
    {earlier later : ι} (older : fleet.epoch earlier < fleet.epoch later) {home home' : FunctionHome}
    (before : (world later).process? = some home) (afterwards : (after earlier).process? = some home') :
    home'.journal.records <+: home.journal.records := by
  have advances := advances_of_leads identified free reached run
  have second := worldSound_of_reachable identified free (reached.leads run)
  have based := ((worldSound_of_reachable identified free reached later).process home before).based
  have process := (second earlier).process home' afterwards
  have holds := ProcessSound.holds process
  rcases based.mono fun _ => published_mono advances with one | ⟨prepared, base, proper, longer, matching⟩
  · have positive := holds.pos
    omega
  · have inherited := (second.lineage honest identified holds older proper matching).1
    rw [Root.disk_job afterwards] at inherited
    exact ((JobLogged.durable process.logged).trans inherited).trans longer

end

/-! Runs without a condition. -/

section

variable (every : ∀ state record, record.receipt ≠ none → allowed state record)

include every

omit [Crypto] in
theorem observes_free : Observes allowed node command := by
  unfold Observes
  split
  · intro home _ record carried
    refine every home.state record ?_
    rw [carried]
    exact Option.some_ne_none _
  · trivial

theorem observed_free [DecidableEq ι] : fleet.observed allowed = fleet.system := by
  have same : ∀ before label after, ((fleet.observed allowed).step before label after) = fleet.system.step before label after :=
    fun before label after => propext (and_iff_left (observes_free every))
  exact congrArg (TransitionSystem.mk fleet.system.start) (funext fun before => funext fun label => funext (same before label))

end

/-- What holds of an open Home in a run without a condition, with what is known of every record without a receipt. -/
theorem processSound_of_free [DecidableEq ι] (identified : HandoffsIdentified) (free : Unobserved allowed)
    (every : ∀ state record, record.receipt ≠ none → allowed state record) (reached : fleet.system.Reachable world)
    (running : (world root).process? = some home) : fleet.ProcessSound allowed world.Published root home := by
  rw [← observed_free every] at reached
  exact (worldSound_of_reachable identified free reached root).process home running

/-- No condition on what a Home observes. -/
def Anything : HomeState → HomeLedgerRecord → Prop := fun _ _ => True

theorem anything_free : Unobserved Anything := fun _ _ _ _ => trivial

theorem worldSound_of_run [DecidableEq ι] (identified : HandoffsIdentified) (reached : fleet.system.Reachable world) :
    fleet.WorldSound Anything world := by
  rw [← observed_free fun _ _ _ => trivial] at reached
  exact worldSound_of_reachable identified anything_free reached

theorem processSound_of_reachable [DecidableEq ι] (identified : HandoffsIdentified)
    (reached : fleet.system.Reachable world) (running : (world root).process? = some home) :
    fleet.ProcessSound Anything world.Published root home :=
  (worldSound_of_run identified reached root).process home running

end Fleet

end

end Gawd.Home
