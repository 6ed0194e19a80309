import Gawd.Home.Handoff
import Gawd.Journal.Chain

/-!
What a custody journal must hold for the custody state it replays to: who made this root the writer, and
the fence behind which its Job ledger never grows again.
-/

namespace Gawd.Home

open Gawd.Logic Gawd.Wire Gawd.Journal

/-- The checkpoint at which a custody record fences the Job ledger. -/
def CustodyLedgerRecord.fence : CustodyLedgerRecord → Option (SignedRecord HomeCheckpoint)
  | .frozen _ checkpoint => some checkpoint
  | .prepared proof => some proof.payload.checkpoint
  | _ => none

/-- Whether a record makes its root the writer, at genesis or by activation. -/
def CustodyLedgerRecord.opens : CustodyLedgerRecord → Bool
  | .initialized .. | .activated .. => true
  | _ => false

def Unfenced (events : List CustodyLedgerRecord) : Prop :=
  ∀ record ∈ events, record.fence = none

def Unopened (events : List CustodyLedgerRecord) : Prop :=
  ∀ record ∈ events, record.opens = false

/-- The root was made the writer: the first epoch by its genesis record, a later one by activation. -/
def Opened (epoch : Nat) (events : List CustodyLedgerRecord) : Prop :=
  (epoch = 1 ∧ ∃ record ∈ events, record.opens = true) ∨ ∃ hash lease, .activated hash lease ∈ events

/-- The fence comes first and the proof of it later. -/
def ProvenFence (grant : SignedRecord CustodyGrant) (checkpoint : SignedRecord HomeCheckpoint)
    (prepared : SignedRecord CustodyPrepared) (events : List CustodyLedgerRecord) : Prop :=
  ∃ before after, events = before ++ .prepared prepared :: after ∧ .frozen grant checkpoint ∈ before

section

variable [Crypto]

/-- The staging receipt that a writer was activated by continues a handoff that its journal marked. -/
def Marked (events : List CustodyLedgerRecord) (activation : Option (SignedRecord CustodyStaged × HomeLease)) : Prop :=
  ∀ staged ∈ activation.map Prod.fst, ∃ prepared, .staged prepared ∈ events ∧
    sameRecord staged.payload.prepared prepared = true

theorem Marked.mono {activation activation' : Option (SignedRecord CustodyStaged × HomeLease)}
    (marked : Marked events activation) (subset : events ⊆ longer)
    (same : activation'.map Prod.fst = activation.map Prod.fst) : Marked longer activation' := by
  intro staged held
  obtain ⟨prepared, member, continues⟩ := marked staged (same ▸ held)
  exact ⟨prepared, subset member, continues⟩

/-- What the events of a custody journal hold when they end in a state. -/
def CustodyShape (config : HomeConfig) (events : List CustodyLedgerRecord) : Option CustodyState → Prop
  | none => events = []
  | some (.staged prepared staging) =>
    Unfenced events ∧ Unopened events ∧ .staged prepared ∈ events ∧
      ∀ staged ∈ staging, .stagingReceipt staged ∈ events ∧ sameRecord staged.payload.prepared prepared = true
  | some (.active current _ _ _ activation) =>
    Unfenced events ∧ Opened config.epoch events ∧ current = config.epoch ∧ (activation = none → config.epoch = 1) ∧
      Marked events activation
  | some (.frozen grant checkpoint prepared _) =>
    Opened config.epoch events ∧ grant.payload.sourceAuthority = config.authority ∧
      .frozen grant checkpoint ∈ events ∧ ∀ proof ∈ prepared, ProvenFence grant checkpoint proof events

end

theorem Unfenced.snoc {record : CustodyLedgerRecord} (unfenced : Unfenced events) (next : record.fence = none) :
    Unfenced (events ++ [record]) := by
  intro other member
  rcases List.mem_append.mp member with member | member
  · exact unfenced other member
  · rwa [List.mem_singleton.mp member]

theorem Unopened.snoc {record : CustodyLedgerRecord} (unopened : Unopened events) (next : record.opens = false) :
    Unopened (events ++ [record]) := by
  intro other member
  rcases List.mem_append.mp member with member | member
  · exact unopened other member
  · rwa [List.mem_singleton.mp member]

theorem Opened.mono (opened : Opened epoch events) (subset : events ⊆ longer) : Opened epoch longer := by
  rcases opened with ⟨first, record, member, opens⟩ | ⟨hash, lease, member⟩
  · exact .inl ⟨first, record, subset member, opens⟩
  · exact .inr ⟨hash, lease, subset member⟩

theorem Opened.not_unopened (opened : Opened epoch events) : ¬ Unopened events := by
  intro unopened
  rcases opened with ⟨_, record, member, opens⟩ | ⟨hash, lease, member⟩
  · simp [unopened record member] at opens
  · simpa [CustodyLedgerRecord.opens] using unopened _ member

theorem ProvenFence.mono (proven : ProvenFence grant checkpoint prepared events) (later : List CustodyLedgerRecord) :
    ProvenFence grant checkpoint prepared (events ++ later) := by
  obtain ⟨before, after, rfl, member⟩ := proven
  exact ⟨before, after ++ later, by simp, member⟩

theorem ProvenFence.prepared_mem (proven : ProvenFence grant checkpoint prepared events) :
    .prepared prepared ∈ events := by
  obtain ⟨before, after, rfl, -⟩ := proven
  simp

section

variable [Crypto]

/-- A ledger is the one a checkpoint describes: so long, and chained up to its log root. -/
structure Matches (records : List (SignedRecord (ChainEntry HomeLedgerRecord)))
    (checkpoint : SignedRecord HomeCheckpoint) : Prop where
  length : records.length = checkpoint.payload.highWaterMark
  chained : Chained records checkpoint.payload.logRoot

theorem Matches.unique (identified : EntriesIdentified HomeLedgerRecord) (one : Matches first checkpoint)
    (two : Matches second checkpoint) : first = second :=
  one.chained.unique identified two.chained (one.length.trans two.length.symm)

theorem walkArchive_chained (run : walkArchive authorized 0 genesis records = .ok tip) : Chained records tip := by
  refine SignedJournal.chained_of_walk (walkArchive authorized) ?_ ?_ .nil run
  · intro index tip result ended
    obtain ⟨⟩ := ended
    rfl
  · intro index tip record rest result stepped
    simp only [walkArchive, bind_eq_ok, reject_eq_ok, not_or, not_not] at stepped
    obtain ⟨_, ⟨_, _, sequence, previous⟩, _, _, _, _, later⟩ := stepped
    exact ⟨sequence, previous, later⟩

/-- A validated archive holds the ledger of its checkpoint. -/
theorem validateArchive_matches {checkpoint : SignedRecord HomeCheckpoint} {archive : HomeCheckpointArchive}
    (valid : validateArchive config checkpoint archive = .ok ()) :
    Matches archive.records checkpoint ∧ archive.records.length = checkpoint.payload.highWaterMark ∧
      archive.logRoot = checkpoint.payload.logRoot := by
  simp only [validateArchive, bind_eq_ok, reject_eq_ok, not_or, not_not] at valid
  obtain ⟨_, ⟨_, _, _, mark, root, length⟩, _, _, _, _, tip, walked, _, same, _⟩ := valid
  have long := length.trans mark
  refine ⟨⟨long, ?_⟩, long, root⟩
  rw [← root, ← same]
  exact walkArchive_chained walked

theorem verifySourceHandoff_eq_ok {config : HomeConfig} {grant : SignedRecord CustodyGrant}
    (verified : verifySourceHandoff config grant checkpoint = .ok ()) :
    grant.payload.sourceAuthority = config.authority := by
  simp only [verifySourceHandoff, bind_eq_ok, reject_eq_ok, not_or, not_not] at verified
  obtain ⟨_, _, _, _, _, _, _, _, _, _, source⟩ := verified
  exact source

/-- One step of the custody journal keeps its shape. -/
theorem CustodyShape.step (shape : CustodyShape config events state)
    (stepped : custodyStep config signer allowInitialized state record = .ok next) :
    CustodyShape config (events ++ [record]) (some next) := by
  have more : events ⊆ events ++ [record] := List.subset_append_left _ _
  have last : record ∈ events ++ [record] := by simp
  unfold custodyStep at stepped
  split at stepped
  case h_1 =>
    split at stepped
    case isTrue genesis =>
      obtain ⟨⟩ := stepped
      obtain rfl := shape
      obtain ⟨-, -, rfl, first, -, -⟩ := genesis
      refine ⟨by simp [Unfenced, CustodyLedgerRecord.fence], .inl ⟨first, _, last, rfl⟩, first.symm, fun _ => first,
        by simp [Marked]⟩
    case isFalse => cases stepped
  case h_2 =>
    split at stepped
    case isTrue =>
      obtain ⟨⟩ := stepped
      obtain ⟨unfenced, opened, current, genesis, marked⟩ := shape
      exact ⟨unfenced.snoc rfl, opened.mono more, current, genesis, marked.mono more rfl⟩
    case isFalse => cases stepped
  case h_3 =>
    simp only [bind_eq_ok, pure_eq_ok] at stepped
    obtain ⟨_, _, _, _, rfl⟩ := stepped
    obtain rfl := shape
    exact ⟨by simp [Unfenced, CustodyLedgerRecord.fence], by simp [Unopened, CustodyLedgerRecord.opens], last,
      by simp⟩
  case h_4 =>
    split at stepped
    case isTrue =>
      simp only [bind_eq_ok, pure_eq_ok] at stepped
      obtain ⟨_, verified, rfl⟩ := stepped
      obtain ⟨_, opened, _, _⟩ := shape
      exact ⟨opened.mono more, verifySourceHandoff_eq_ok verified, last, by simp⟩
    case isFalse => cases stepped
  case h_5 =>
    simp only [bind_eq_ok, pure_eq_ok] at stepped
    obtain ⟨_, _, _, _, rfl⟩ := stepped
    obtain ⟨opened, source, frozen, _⟩ := shape
    refine ⟨opened.mono more, source, more frozen, ?_⟩
    rintro proof ⟨⟩
    exact ⟨events, [], rfl, frozen⟩
  case h_6 =>
    simp only [bind_eq_ok, pure_eq_ok] at stepped
    obtain ⟨_, _, _, same, rfl⟩ := stepped
    obtain ⟨unfenced, unopened, staged, _⟩ := shape
    refine ⟨unfenced.snoc rfl, unopened.snoc rfl, more staged, ?_⟩
    rintro receipt ⟨⟩
    exact ⟨last, by simpa using same⟩
  case h_7 =>
    simp only [bind_eq_ok, pure_eq_ok] at stepped
    obtain ⟨_, _, _, _, rfl⟩ := stepped
    obtain ⟨unfenced, _, marked, receipts⟩ := shape
    refine ⟨unfenced.snoc rfl, .inr ⟨_, _, last⟩, rfl, by simp, ?_⟩
    rintro receipt ⟨⟩
    exact ⟨_, more marked, (receipts _ rfl).2⟩
  case h_8 =>
    simp only [bind_eq_ok, pure_eq_ok] at stepped
    obtain ⟨_, _, _, _, rfl⟩ := stepped
    obtain ⟨unfenced, opened, current, _, marked⟩ := shape
    exact ⟨unfenced.snoc rfl, opened.mono more, current, by simp, marked.mono more rfl⟩
  case h_9 =>
    simp only [bind_eq_ok, pure_eq_ok] at stepped
    obtain ⟨_, _, _, _, _, _, rfl⟩ := stepped
    obtain ⟨opened, source, frozen, proven⟩ := shape
    exact ⟨opened.mono more, source, more frozen, fun proof member => (proven proof member).mono _⟩
  case h_10 => cases stepped

theorem replayCustody_snoc {entry : SignedRecord (ChainEntry CustodyLedgerRecord)}
    (earlier : replayCustody config allowInitialized state records = .ok middle)
    (continues : applyCustodyRecord config middle entry.payload.event entry.signer allowInitialized = .ok next) :
    replayCustody config allowInitialized state (records ++ [entry]) = .ok (some next) := by
  induction records generalizing state with
  | nil =>
    obtain ⟨⟩ := earlier
    simp [replayCustody, continues]
  | cons record rest ih =>
    simp only [List.cons_append, replayCustody, bind_eq_ok] at earlier ⊢
    obtain ⟨following, applied, rest⟩ := earlier
    exact ⟨following, applied, ih rest⟩

/-- A replayed custody journal has the shape of the state it ends in. -/
theorem CustodyShape.replay (shape : CustodyShape config walked state)
    (run : replayCustody config allowInitialized state records = .ok final) :
    CustodyShape config (walked ++ eventsOf records) final := by
  induction records generalizing walked state with
  | nil =>
    obtain ⟨⟩ := run
    simpa [eventsOf] using shape
  | cons record rest ih =>
    simp only [replayCustody, applyCustodyRecord, bind_eq_ok] at run
    obtain ⟨next, ⟨_, _, stepped⟩, later⟩ := run
    have longer := ih (shape.step stepped) later
    simpa [eventsOf] using longer

/-- What replay can do with one more record of a writer: keep its phase, fence it, or prove its fence. -/
inductive WriterStep (config : HomeConfig) : CustodyState → CustodyLedgerRecord → CustodyState → Prop where
  | active {handoff handoff' : Option HandoffId} {routeSequence routeSequence' : Nat} {coordinator coordinator' : String}
      {activation activation' : Option (SignedRecord CustodyStaged × HomeLease)} :
      record.fence = none → record.opens = false → (∀ prepared, record ≠ .staged prepared) →
      activation'.map Prod.fst = activation.map Prod.fst →
      WriterStep config (.active epoch handoff routeSequence coordinator activation) record
        (.active epoch handoff' routeSequence' coordinator' activation')
  | fence {handoff : Option HandoffId} {activation : Option (SignedRecord CustodyStaged × HomeLease)} :
      grant.payload.sourceAuthority = config.authority →
      WriterStep config (.active epoch handoff routeSequence coordinator activation) (.frozen grant checkpoint)
        (.frozen grant checkpoint none none)
  | proof : verifyCustodyPrepared prepared = .ok () →
      canonicalHash prepared.payload.grant = canonicalHash grant →
      canonicalHash prepared.payload.checkpoint = canonicalHash checkpoint →
      WriterStep config (.frozen grant checkpoint none redirect) (.prepared prepared)
        (.frozen grant checkpoint (some prepared) redirect)
  | redirect : WriterStep config (.frozen grant checkpoint prepared redirect) (.redirect lease)
        (.frozen grant checkpoint prepared (some lease))

/-- The step that replay takes from a writer's state. -/
theorem writerStep_of_step (writer : ∀ prepared staging, custody ≠ .staged prepared staging)
    (stepped : custodyStep config signer allowInitialized (some custody) record = .ok next) :
    WriterStep config custody record next := by
  generalize whole : some custody = state at stepped
  unfold custodyStep at stepped
  split at stepped <;> try cases whole
  case h_2 =>
    split at stepped
    · obtain ⟨⟩ := stepped
      exact .active rfl rfl (by simp) rfl
    · cases stepped
  case h_4 =>
    split at stepped
    · simp only [bind_eq_ok, pure_eq_ok] at stepped
      obtain ⟨_, verified, rfl⟩ := stepped
      exact .fence (verifySourceHandoff_eq_ok verified)
    · cases stepped
  case h_5 =>
    simp only [bind_eq_ok, pure_eq_ok, reject_eq_ok, not_or, Bool.not_eq_false] at stepped
    obtain ⟨_, verified, _, ⟨grant, checkpoint⟩, rfl⟩ := stepped
    exact .proof (mapError_eq_ok.mp verified) (by simpa [sameRecord] using grant) (by simpa [sameRecord] using checkpoint)
  case h_6 => exact absurd rfl (writer _ _)
  case h_7 => exact absurd rfl (writer _ _)
  case h_8 =>
    simp only [bind_eq_ok, pure_eq_ok] at stepped
    obtain ⟨_, _, _, _, rfl⟩ := stepped
    exact .active rfl rfl (by simp) (by simp)
  case h_9 =>
    simp only [bind_eq_ok, pure_eq_ok] at stepped
    obtain ⟨_, _, _, _, _, _, rfl⟩ := stepped
    exact .redirect
  case h_10 => cases stepped

end

end Gawd.Home
