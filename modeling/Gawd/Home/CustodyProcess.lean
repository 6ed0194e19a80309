import Gawd.Home.Fence
import Gawd.Home.Process

/-!
What the custody operations of an open Home do to it: every custody record that reaches the disk is one
that replay takes from the state in memory. The fence alone also takes hold when its append fails.
-/

namespace Gawd.Home

open Gawd.Logic Gawd.Wire Gawd.Journal

/-- The Job journal of a process is healthy and stands at a checkpoint. -/
structure AtCheckpoint (home : FunctionHome) (checkpoint : SignedRecord HomeCheckpoint) : Prop where
  healthy : home.journal.healthy = true
  length : home.journal.records.length = checkpoint.payload.highWaterMark
  tip : home.journal.tipHash = checkpoint.payload.logRoot

/-- An active state is of the configured epoch, and of the first one unless it was activated. -/
def CustodyState.Fits (epoch : Nat) : CustodyState → Prop
  | .active current _ _ _ activation => current = epoch ∧ (activation = none → epoch = 1)
  | _ => True

variable {custody : CustodyState}

theorem isBlank_toString {number : Nat} : isBlank (toString number) = false := by
  obtain ⟨first, rest, shape⟩ := List.exists_cons_of_ne_nil (Nat.toDigits_ne_nil (n := number) (b := 10))
  have digit : first.isDigit = true :=
    Nat.isDigit_of_mem_toDigits (n := number) (b := 10) (by decide) (by decide) (by rw [shape]; simp)
  have visible : isWhitespace first = false := by
    simp only [Char.isDigit, Bool.and_eq_true, decide_eq_true_eq, UInt32.le_iff_toNat_le] at digit
    have low : 48 ≤ first.toNat := digit.1
    have high : first.toNat ≤ 57 := digit.2
    simp only [isWhitespace, Bool.or_eq_false_iff, Bool.and_eq_false_iff, decide_eq_false_iff_not,
      beq_eq_false_iff_ne]
    omega
  simp [isBlank, Text.isBlank, shape, visible]

variable {host : Host} {before after home : FunctionHome} {record : CustodyLedgerRecord}
  {failure : HomeError → FunctionHome → Prop} {success : Unit → FunctionHome → Prop}
  {grant : SignedRecord CustodyGrant} {checkpoint : SignedRecord HomeCheckpoint}
  {commitment : Option Text × Option Nat}

/-- What a remembered binding leaves alone. -/
theorem CacheOnly.books (cached : CacheOnly before after) :
    after.config = before.config ∧ after.journal = before.journal ∧ after.custody = before.custody := by
  unfold CacheOnly at cached
  rw [cached]
  exact ⟨rfl, rfl, rfl⟩

theorem CacheOnly.custodyJournal (cached : CacheOnly before after) : after.custodyJournal = before.custodyJournal := by
  unfold CacheOnly at cached
  rw [cached]

theorem requireCustodyCapacity_eq_ok {journal : SignedJournal α}
    (room : requireCustodyCapacity journal reservedAfter operation = .ok ()) :
    journal.healthy = true ∧ journal.records.length < journal.caps.maxRecords := by
  simp only [requireCustodyCapacity, bind_eq_ok, ofJournal, mapError_eq_ok, SignedJournal.remainingRecords,
    SignedJournal.ensureHealthy, reject_eq_ok, pure_eq_ok] at room
  obtain ⟨_, ⟨_, healthy, rfl⟩, room⟩ := room
  exact ⟨by simpa using healthy, by omega⟩

section

variable [Crypto]

/-- The fence of this process can be signed and fits its journal. -/
def Fenceable (host : Host) (home : FunctionHome) (grant : SignedRecord CustodyGrant)
    (checkpoint : SignedRecord HomeCheckpoint) : Prop :=
  home.custodyJournal.Signable (.frozen grant checkpoint) host.signer

/-- The record is one that replay takes from the state in memory, and a fence stands at the ledger's end. -/
structure CustodyAdmits (signer : Text) (home : FunctionHome) (record : CustodyLedgerRecord) (next : CustodyState) :
    Prop where
  step : custodyStep home.config signer true (some home.custody) record = .ok next
  fence : ∀ grant checkpoint, record = .frozen grant checkpoint → AtCheckpoint home checkpoint

/-- One step of the custody of an open Home. Only what is not backed leaves a fence in memory alone. -/
inductive CustodyMove (host : Host) (backed : Prop) (before after : FunctionHome) : Prop where
  | quiet (coordinator : String) (currentRecipientBinding : Option (SignedRecord RecipientKeyBinding))
      (operationalFailure : Option String) (me : Option Nat) :
      after = { before with
        config := { before.config with coordinator }, currentRecipientBinding, operationalFailure, me } →
      CustodyMove host backed before after
  | wrote {record : CustodyLedgerRecord} {entry : SignedRecord (ChainEntry CustodyLedgerRecord)}
      {custodyJournal : CustodyJournal} {custody : CustodyState} :
      CustodyAdmits host.signer.publicKey before record custody →
      before.custodyJournal.Continuation record host.signer.publicKey entry →
      before.custodyJournal.Appended entry custodyJournal →
      after = { before with custodyJournal, custody } → CustodyMove host backed before after
  | lost {record : CustodyLedgerRecord} {entry : SignedRecord (ChainEntry CustodyLedgerRecord)}
      {custodyJournal : CustodyJournal} {next : CustodyState} :
      CustodyAdmits host.signer.publicKey before record next → (∀ grant checkpoint, record ≠ .frozen grant checkpoint) →
      before.custodyJournal.Continuation record host.signer.publicKey entry →
      before.custodyJournal.Poisoned entry custodyJournal →
      after = { before with custodyJournal } → CustodyMove host backed before after
  | lostFence {grant : SignedRecord CustodyGrant} {checkpoint : SignedRecord HomeCheckpoint}
      {entry : SignedRecord (ChainEntry CustodyLedgerRecord)} {custodyJournal : CustodyJournal}
      {custody : CustodyState} :
      CustodyAdmits host.signer.publicKey before (.frozen grant checkpoint) custody →
      before.custodyJournal.Continuation (.frozen grant checkpoint) host.signer.publicKey entry →
      before.custodyJournal.Poisoned entry custodyJournal →
      after = { before with custodyJournal, custody } → CustodyMove host backed before after
  | unbacked {grant : SignedRecord CustodyGrant} {checkpoint : SignedRecord HomeCheckpoint} {custody : CustodyState} :
      CustodyAdmits host.signer.publicKey before (.frozen grant checkpoint) custody →
      ¬ backed →
      after = { before with custody } → CustodyMove host backed before after

def CustodyMoves (host : Host) (backed : Prop) : FunctionHome → FunctionHome → Prop :=
  Relation.ReflTransGen (CustodyMove host backed)

instance : Std.Refl (CustodyMoves host backed) := ⟨fun _ => .refl⟩

variable {backed : Prop}

theorem CacheOnly.custodyMoves (cached : CacheOnly before after) : CustodyMoves host backed before after :=
  .single (.quiet before.config.coordinator after.currentRecipientBinding before.operationalFailure before.me cached)

theorem wp_appendCustody {success : SignedRecord (ChainEntry CustodyLedgerRecord) → FunctionHome → Prop}
    (added : ∀ entry custodyJournal, home.custodyJournal.Continuation record host.signer.publicKey entry →
      home.custodyJournal.Appended entry custodyJournal → success entry { home with custodyJournal })
    (refused : ∀ error, (home.custodyJournal.healthy = true →
      home.custodyJournal.records.length < home.custodyJournal.caps.maxRecords →
      ¬ home.custodyJournal.Signable record host.signer) → failure error home)
    (poisoned : ∀ error entry custodyJournal, home.custodyJournal.Continuation record host.signer.publicKey entry →
      home.custodyJournal.Poisoned entry custodyJournal → failure error { home with custodyJournal }) :
    wp (appendCustody host record) success failure home := by
  rw [appendCustody, wp_bind, wp_get, wp_zoom]
  exact SignedJournal.wp_append_cases (fun entry journal => added entry journal)
    (fun error reason => refused (.journal error) reason)
    fun entry journal message => poisoned (.journal (.io message)) entry journal

/-- A custody record that is not a fence: appended and applied, refused, or lost with the journal. -/
theorem wp_appendCustody_moves (admits : CustodyAdmits host.signer.publicKey home record custody)
    (plain : ∀ grant checkpoint, record ≠ .frozen grant checkpoint)
    (failed : ∀ error after, CustodyMoves host backed home after → failure error after)
    (done : ∀ custodyJournal, CustodyMoves host backed home { home with custodyJournal, custody } →
      custodyJournal.healthy = true → success () { home with custodyJournal, custody }) :
    wp (appendCustody host record >>= fun _ => setCustody custody) success failure home := by
  rw [wp_bind]
  refine wp_appendCustody (fun entry journal continued appended => ?_) (fun error _ => failed error home .refl)
    fun error entry journal continued poisoned => failed error _ (.single (.lost admits plain continued poisoned rfl))
  rw [setCustody, wp_modify]
  exact done journal (.single (.wrote admits continued appended rfl)) appended.healthy.2

/-! The route of a genesis Home. -/

theorem refreshRuntimeRoute_moves (fits : home.custody.Fits home.config.epoch) (named : isBlank coordinator = false) :
    AlongFrom (CustodyMoves host backed) (refreshRuntimeRoute host coordinator) home := by
  refine wp_reads ensureAuthoritativeState_reads (fun _ => ?_) fun _ => .refl
  rw [wp_bind, wp_get]
  split
  case h_2 => exact .refl
  case h_1 epoch handoff routeSequence current activation active =>
    rw [wp_ite]
    refine ⟨fun _ => .refl, fun _ => ?_⟩
    refine wp_guard fun _ unmoved => ?_
    refine wp_guard fun _ _ => wp_guard fun _ _ => ?_
    obtain rfl : activation = none := by simpa using unmoved
    rw [active] at fits
    have first : epoch = 1 := fits.1.trans (fits.2 rfl)
    refine wp_appendCustody_moves ⟨?_, by simp⟩ (by simp) (fun _ _ moved => moved) fun _ moved _ => moved
    simp [custodyStep, active, first, named]

theorem bindRuntime_moves (fits : home.custody.Fits home.config.epoch) :
    AlongFrom (CustodyMoves host backed) (bindRuntime host me) home := by
  rw [AlongFrom, bindRuntime, wp_bind, wp_modify, wp_bind, wp_observe]
  have started : CustodyMoves host backed home { home with me := some me } :=
    .single (.quiet home.config.coordinator home.currentRecipientBinding home.operationalFailure (some me) rfl)
  have refreshed : AlongFrom (CustodyMoves host backed) (refreshRuntimeRoute host (toString me)) { home with me := some me } :=
    refreshRuntimeRoute_moves fits isBlank_toString
  refine wp_mono refreshed (fun _ after moved => ?_) fun _ after moved => ?_
  · exact (started.trans moved).tail
      (.quiet (toString me) after.currentRecipientBinding after.operationalFailure after.me rfl)
  · exact (started.trans moved).tail
      (.quiet after.config.coordinator after.currentRecipientBinding _ after.me rfl)

theorem createCheckpoint_reads : Along Eq (createCheckpoint host createdAtUnixMs) := by
  refine ensureAuthoritativeState_reads.bind fun _ => Along.get.bind fun _ => ?_
  refine .check fun _ => .check fun _ => .check fun _ => ?_
  refine .check fun _ => .check fun _ => .check fun _ => ?_
  exact .check fun _ => .check fun _ => Along.pure _

/-! The source fence and its proof. -/

/-- The fence takes hold whether or not its record is written. -/
theorem wp_freeze (backing : backed → Fenceable host home grant checkpoint)
    (admits : CustodyAdmits host.signer.publicKey home (.frozen grant checkpoint) (.frozen grant checkpoint none none))
    (failed : ∀ error after, CustodyMoves host backed home after → failure error after)
    (done : ∀ custodyJournal, custodyJournal.healthy = true →
      CustodyMoves host backed home { home with custodyJournal, custody := .frozen grant checkpoint none none } →
      success () { home with custodyJournal, custody := .frozen grant checkpoint none none }) :
    wp (freeze host grant checkpoint) success failure home := by
  rw [freeze, wp_bind, wp_get]
  refine wp_check (fun error _ => failed error home .refl) fun _ room => ?_
  obtain ⟨healthy, room⟩ := requireCustodyCapacity_eq_ok room
  rw [wp_bind, wp_observe]
  refine wp_appendCustody (fun entry journal continued appended => ?_) (fun error reason => ?_)
    fun error entry journal continued poisoned => ?_
  · exact done journal appended.healthy.2 (.single (.wrote admits continued appended rfl))
  · exact failed error _ (.single (.unbacked admits (fun holds => reason healthy room (backing holds)) rfl))
  · exact failed error _ (.single (.lostFence admits continued poisoned rfl))

theorem alreadyFrozen_eq_true (frozen : alreadyFrozen custody grant checkpoint = true) :
    ∃ existingGrant existingCheckpoint prepared redirect,
      custody = .frozen existingGrant existingCheckpoint prepared redirect ∧
        sameRecord existingGrant grant = true ∧ sameRecord existingCheckpoint checkpoint = true := by
  unfold alreadyFrozen at frozen
  split at frozen
  · exact ⟨_, _, _, _, rfl, by simpa using frozen⟩
  · cases frozen

/-- A prepared handoff: the process is frozen for it, keeps its proof and trusts its custody journal. -/
structure HoldsProof (result : PreparedHandoff) (home : FunctionHome) : Prop where
  healthy : home.custodyJournal.healthy = true
  frozen : alreadyFrozen home.custody result.grant result.checkpoint = true
  kept : ∃ grant checkpoint redirect, home.custody = .frozen grant checkpoint (some result.prepared) redirect

theorem persistPrepared_moves (frozen : home.custody = .frozen existingGrant existingCheckpoint none redirect)
    (sameGrant : sameRecord existingGrant grant = true)
    (sameCheckpoint : sameRecord existingCheckpoint checkpoint = true) :
    wp (persistPrepared host grant checkpoint commitment)
      (fun result after => CustodyMoves host backed home after ∧ result.grant = grant ∧ result.checkpoint = checkpoint ∧
        HoldsProof result after)
      (fun _ after => CustodyMoves host backed home after) home := by
  rw [persistPrepared, wp_bind, wp_get]
  refine wp_guard fun prepared signed => ?_
  refine wp_guard fun _ verified => wp_guard fun _ _ => ?_
  obtain ⟨-, -, payload⟩ := SignedRecord.sign_eq_ok (mapError_eq_ok.mp signed)
  have hashes := And.intro sameGrant sameCheckpoint
  simp only [sameRecord, decide_eq_true_eq] at hashes
  have admits : CustodyAdmits host.signer.publicKey home (.prepared prepared)
      (.frozen existingGrant existingCheckpoint (some prepared) redirect) := by
    refine ⟨?_, by simp⟩
    simp only [custodyStep, frozen, bind_eq_ok, reject_eq_ok, pure_eq_ok]
    exact ⟨(), verified, (), by simp [sameRecord, payload, hashes], trivial⟩
  rw [wp_bind]
  refine wp_appendCustody (fun entry journal continued appended => ?_) (fun _ _ => .refl)
    fun _ entry journal continued poisoned => .single (.lost admits (by simp) continued poisoned rfl)
  simp only [frozen]
  refine ⟨.single (.wrote admits continued appended rfl), rfl, rfl, appended.healthy.2, ?_, _, _, _, rfl⟩
  simp [alreadyFrozen, sameGrant, sameCheckpoint]

theorem finishPrepare_moves (healthy : home.custodyJournal.healthy = true)
    (frozen : alreadyFrozen home.custody grant checkpoint = true) :
    wp (finishPrepare host grant checkpoint commitment)
      (fun result after => CustodyMoves host backed home after ∧ result.grant = grant ∧ result.checkpoint = checkpoint ∧
        HoldsProof result after)
      (fun _ after => CustodyMoves host backed home after) home := by
  obtain ⟨_, _, kept, _, shape, sameGrant, sameCheckpoint⟩ := alreadyFrozen_eq_true frozen
  rw [finishPrepare, wp_bind, wp_get]
  cases kept with
  | none =>
    simp only [shape]
    exact persistPrepared_moves shape sameGrant sameCheckpoint
  | some prepared =>
    simp only [shape]
    refine wp_guard fun _ _ => ?_
    exact ⟨.refl, rfl, rfl, healthy, frozen, _, _, _, shape⟩

theorem checkSourceBinding_cacheOnly : Along CacheOnly (checkSourceBinding host grant) := by
  unfold checkSourceBinding
  split
  · exact Along.pure _
  · exact cachedRecipientBinding_cacheOnly.bind fun _ => Along.lift _

/-- The checks before the fence are those that replay makes of its record. -/
theorem admitsFence (fits : home.custody.Fits home.config.epoch)
    (verified : verifySourceHandoff home.config grant checkpoint = .ok ())
    (writable : home.custody.ensureWritable = .ok ()) (healthy : ofJournal home.journal.ensureHealthy = .ok ())
    (length : home.journal.records.length = checkpoint.payload.highWaterMark)
    (tip : home.journal.tipHash = checkpoint.payload.logRoot) (cached : CacheOnly home middle) :
    CustodyAdmits signer middle (.frozen grant checkpoint) (.frozen grant checkpoint none none) := by
  obtain ⟨config, journal, custody⟩ := cached.books
  constructor
  · rw [config, custody]
    cases active : home.custody with
    | active epoch handoff routeSequence coordinator activation =>
      rw [active] at fits
      simp [custodyStep, fits.1, verified]
    | frozen | staged => simp [active, CustodyState.ensureWritable] at writable
  · rintro _ _ ⟨⟩
    simp only [ofJournal, mapError_eq_ok, SignedJournal.ensureHealthy, reject_eq_ok, Bool.not_eq_false] at healthy
    exact ⟨by rw [journal, healthy], by rw [journal, length], by rw [journal, tip]⟩

/-- What prepares a handoff: a fence first, unless it is there, then the proof of it. -/
theorem prepareHandoff_moves (fits : home.custody.Fits home.config.epoch)
    (backing : backed → home.custody.ensureWritable = .ok () → Fenceable host home grant checkpoint) :
    wp (prepareHandoff host grant checkpoint)
      (fun result after => CustodyMoves host backed home after ∧ result.grant = grant ∧ result.checkpoint = checkpoint ∧
        HoldsProof result after)
      (fun _ after => CustodyMoves host backed home after) home := by
  rw [prepareHandoff, wp_bind, wp_get]
  refine wp_guard fun _ healthy => wp_guard fun _ sound => ?_
  simp only [ofJournal, mapError_eq_ok, SignedJournal.ensureHealthy, reject_eq_ok, Bool.not_eq_false] at sound
  refine wp_guard fun _ verified => ?_
  refine wp_along checkSourceBinding_cacheOnly (fun _ _ cached => cached.custodyMoves)
    fun _ middle cached => ?_
  have moved : CustodyMoves host backed home middle := cached.custodyMoves
  have sameCustody : middle.custody = home.custody := cached.books.2.2
  -- what is left to do at a frozen Home, wherever it was frozen
  have finish : ∀ commitment frozenHome, CustodyMoves host backed home frozenHome →
      frozenHome.custodyJournal.healthy = true → alreadyFrozen frozenHome.custody grant checkpoint = true →
      wp (finishPrepare host grant checkpoint commitment)
        (fun result after => CustodyMoves host backed home after ∧ result.grant = grant ∧ result.checkpoint = checkpoint ∧
          HoldsProof result after)
        (fun _ after => CustodyMoves host backed home after) frozenHome := by
    intro commitment frozenHome reached trusted frozen
    exact wp_mono (finishPrepare_moves trusted frozen) (fun _ _ done => ⟨reached.trans done.1, done.2⟩)
      fun _ _ later => reached.trans later
  by_cases frozen : alreadyFrozen home.custody grant checkpoint = true
  · simp only [frozen, ↓reduceIte]
    refine wp_check (fun _ _ => moved) fun _ _ => wp_check (fun _ _ => moved) fun _ _ => ?_
    refine wp_check (fun _ _ => moved) fun _ _ => wp_check (fun _ _ => moved) fun _ _ => ?_
    exact wp_check (fun _ _ => moved) fun commitment _ => finish commitment middle moved
      (by rw [cached.custodyJournal, sound]) (by rwa [sameCustody])
  · rw [Bool.not_eq_true] at frozen
    simp only [frozen, Bool.false_eq_true, ↓reduceIte]
    refine wp_check (fun _ _ => moved) fun _ writable => wp_check (fun _ _ => moved) fun _ current => ?_
    refine wp_check (fun _ _ => moved) fun _ _ => wp_check (fun _ _ => moved) fun _ _ => ?_
    refine wp_check (fun _ _ => moved) fun _ _ => wp_check (fun _ _ => moved) fun commitment _ => ?_
    rw [wp_bind]
    simp only [reject_eq_ok, true_and, not_or, not_not] at current
    have backs : backed → Fenceable host middle grant checkpoint := by
      intro holds
      rw [Fenceable, cached.custodyJournal]
      exact backing holds writable
    refine wp_freeze backs (admitsFence fits verified writable healthy current.1 current.2 cached) (fun _ _ later => moved.trans later) ?_
    intro journal trusted later
    exact finish commitment _ (moved.trans later) trusted (by simp [alreadyFrozen, sameRecord])

/-- A redirect is kept only by a frozen source. -/
theorem recordHandoffRedirect_moves : AlongFrom (CustodyMoves host backed) (recordHandoffRedirect host lease) home := by
  rw [AlongFrom, recordHandoffRedirect, wp_bind, wp_get]
  refine wp_guard fun _ _ => wp_guard fun _ _ => ?_
  refine wp_guard fun _ verified => wp_guard fun _ _ => ?_
  split
  case h_2 => exact .refl
  case h_1 grant checkpoint prepared redirect frozen =>
    refine wp_guard fun _ matching => ?_
    rw [wp_ite]
    refine ⟨fun _ => .refl, fun fresh => wp_guard fun _ revises => ?_⟩
    refine wp_appendCustody_moves ⟨?_, by simp⟩ (by simp) (fun _ _ moved => moved) fun _ moved _ => moved
    simp only [custodyStep, frozen, bind_eq_ok, reject_eq_ok, pure_eq_ok]
    refine ⟨(), verified, (), reject_eq_ok.mp matching, (), ?_, trivial⟩
    rw [reject_eq_ok] at revises
    cases redirect with
    | none => simp
    | some existing => simp_all

end

end Gawd.Home
