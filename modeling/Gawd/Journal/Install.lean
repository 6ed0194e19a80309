import Gawd.Journal.Chain
import Gawd.Wire.Deployment

/-!
A signed chain is put into the files of a journal in two replacements, of the log and then of the head. Whatever
replacement stops, the files take the same chain afterwards just when they took it before.
-/

namespace Gawd.Journal

open Gawd.Logic Gawd.Wire

namespace SignedJournal

section

variable [Crypto] {α : Type} {tip : Text} {records : List (SignedRecord (ChainEntry α))} {schema : Schema}
  {caps : JournalCaps} {authorize : Text → ChainEntry α → Bool} {files : Files α}

/-- The files of an installed chain. -/
def installed (records : List (SignedRecord (ChainEntry α))) (tip : Text) : Files α :=
  ⟨records, false, some ⟨records.length, tip⟩, true⟩

/-- The head that is there does not contradict the chain. -/
def Committed (records : List (SignedRecord (ChainEntry α))) (tip : Text) (head : Option Head) : Prop :=
  head = some ⟨records.length, tip⟩ ∨ ∀ parsed ∈ head, ¬ (records.length < parsed.nextSequence ∨
    parsed.nextSequence ≠ 0 ∧
      (records[parsed.nextSequence - 1]?.map fun record => canonicalHash record) ≠ some parsed.tipHash)

/-- Files in which the chain can be put, or is already. -/
def Takes (records : List (SignedRecord (ChainEntry α))) (tip : Text) (files : Files α) : Prop :=
  (files.present = true → files.records = records ∧ files.torn = false) ∧ Committed records tip files.head

variable {head : Option Head} {logFate headFate : Replacement} {success : Unit → Files α → Prop}
  {failure : JournalError → Files α → Prop}

theorem wp_installHead (installs : Committed records tip head → success () (installed records tip))
    (stops : ∀ error left, (Committed records tip left ↔ Committed records tip head) →
      (Committed records tip head → headFate ≠ .done) → failure error ⟨records, false, left, true⟩) :
    wp (installHead records tip headFate) success failure ⟨records, false, head, true⟩ := by
  rw [installHead, wp_bind, wp_get, wp_ite]
  refine ⟨fun same => ?_, fun other => ?_⟩
  · obtain rfl : head = _ := same
    exact installs (.inl rfl)
  have replaced (committed : Committed records tip head) :
      wp (replaceHead ⟨records.length, tip⟩ headFate) success failure ⟨records, false, head, true⟩ := by
    cases headFate with
    | done => exact installs committed
    | failed visible message =>
      cases visible with
      | true => exact stops _ _ (iff_of_true (.inl rfl) committed) fun _ => nofun
      | false => exact stops _ _ .rfl fun _ => nofun
  cases head with
  | none => exact replaced (.inr nofun)
  | some parsed =>
    refine wp_check (fun _ refused => stops _ _ .rfl fun committed => ?_) fun _ fits => replaced (.inr ?_)
    · exact absurd (reject_eq_error.mp refused).1 (committed.resolve_left other parsed rfl)
    · rintro _ ⟨⟩
      exact reject_eq_ok.mp fits

variable [DecidableEq α]

/-- Installing puts the chain in place, or stops and leaves files that take it just when those it found did. -/
theorem wp_install (hollow : files.present = false → files.torn = false)
    (installs : Takes records tip files → success () (installed records tip))
    (stops : ∀ error left, (left.present = false → left.torn = false) →
      (Takes records tip left ↔ Takes records tip files) →
      (Takes records tip files → logFate = .done → headFate ≠ .done) → failure error left) :
    wp (installLog records logFate >>= fun _ => installHead records tip headFate) success failure files := by
  obtain ⟨held, torn, head, present⟩ := files
  rw [wp_bind, installLog, wp_bind, wp_get]
  cases present with
  | true =>
    refine (wp_lift).mpr ⟨fun _ same => ?_, fun _ differs => stops _ _ hollow .rfl fun takes => ?_⟩
    · rw [reject_eq_ok, not_or, not_not, Bool.not_eq_true] at same
      obtain ⟨rfl, rfl⟩ := same
      refine wp_installHead (fun committed => installs ⟨fun _ => ⟨rfl, rfl⟩, committed⟩) fun error left same stopped => ?_
      refine stops _ _ (by simp) ?_ fun takes _ => stopped takes.2
      simp [Takes, same]
    · obtain ⟨rfl, rfl⟩ := takes.1 rfl
      simp [reject] at differs
  | false =>
    obtain rfl := hollow rfl
    have written (left : Option Head) : Takes records tip ⟨records, false, left, true⟩ ↔ Takes records tip ⟨held, false, left, false⟩ := by
      simp [Takes]
    cases logFate with
    | done =>
      refine wp_installHead (fun committed => installs ⟨by simp, committed⟩) fun error left same stopped => ?_
      refine stops _ _ (by simp) ?_ fun takes _ => stopped takes.2
      simp [Takes, same]
    | failed visible message =>
      cases visible with
      | true => exact stops _ _ (by simp) (written head) (by simp)
      | false => exact stops _ _ hollow .rfl (by simp)

/-- A chain that may be installed, up to its tip. -/
structure Verified (schema : Schema) (caps : JournalCaps) (authorize : Text → ChainEntry α → Bool)
    (records : List (SignedRecord (ChainEntry α))) (tip : Text) : Prop where
  nonzero : ¬ (caps.maxRecords = 0 ∨ caps.maxRecordBytes = 0)
  room : records.length ≤ caps.maxRecords
  walked : checkSnapshot schema caps authorize 0 genesis records = .ok tip

omit [DecidableEq α] in
/-- The installed chain opens as it is. -/
theorem Verified.opens (verified : Verified schema caps authorize records tip) :
    openWithAuthority (installed records tip) schema caps authorize none =
      .ok ⟨schema, caps, records, tip, true, installed records tip⟩ := by
  have chained : Chained records tip := by
    refine chained_of_walk (checkSnapshot schema caps authorize) ?_ ?_ .nil verified.walked
    · rintro index tip result ⟨⟩
      rfl
    · intro index tip record rest result stepped
      simp only [checkSnapshot, bind_eq_ok, reject_eq_ok, not_or, not_not] at stepped
      obtain ⟨_, _, _, ⟨sequence, previous⟩, _, _, later⟩ := stepped
      exact ⟨sequence, previous, later⟩
  have takes : ∀ records index below, checkSnapshot schema caps authorize index below records = .ok tip →
      ∀ record ∈ records, Acceptable schema caps authorize record := by
    intro records
    induction records with
    | nil => simp
    | cons first rest ih =>
      intro index below walked
      simp only [checkSnapshot, bind_eq_ok, reject_eq_ok, not_or, not_not, Bool.not_eq_false, Nat.not_lt] at walked
      obtain ⟨_, ⟨same, verified, authorized⟩, _, _, _, size, later⟩ := walked
      exact List.forall_mem_cons.mpr ⟨⟨size, same, verified, authorized⟩, ih _ _ later⟩
  have fits : HeadFits (installed records tip) := by
    rintro _ ⟨⟩
    exact ⟨records, [], tip, (List.append_nil _).symm, chained, rfl⟩
  exact openWithAuthority_of_chained chained (takes _ _ _ verified.walked) verified.room (not_or.mp verified.nonzero) rfl fits

theorem Verified.run (verified : Verified schema caps authorize records tip) :
    wp (installSnapshot schema records caps authorize logFate headFate) success failure files ↔
      wp (installLog records logFate >>= fun _ => installHead records tip headFate) success failure files := by
  rw [installSnapshot, wp_passed (reject_of_not verified.nonzero),
    wp_passed (reject_of_not (Nat.not_lt.mpr verified.room)), wp_passed verified.walked]

/-- What is installed opens as the chain that it is and may be installed again; a different log is refused and left
alone; and where the installation stops, the chain can still be installed just when its files took it before. -/
theorem installSnapshot_settles (verified : Verified schema caps authorize records tip)
    (hollow : files.present = false → files.torn = false) (logFate headFate : Replacement) :
    (∀ after, installSnapshot schema records caps authorize logFate headFate files = .ok () after →
      openWithAuthority after schema caps authorize none = .ok ⟨schema, caps, records, tip, true, after⟩ ∧
      ∀ logFate headFate, installSnapshot schema records caps authorize logFate headFate after = .ok () after) ∧
    (files.present = true → files.records ≠ records →
      ∃ error, installSnapshot schema records caps authorize logFate headFate files = .error error files) ∧
    ∀ error left, installSnapshot schema records caps authorize logFate headFate files = .error error left →
      ((∃ after, installSnapshot schema records caps authorize .done .done left = .ok () after) ↔ Takes records tip files) := by
  have install : ∀ {files : Files α} {logFate headFate}, (files.present = false → files.torn = false) →
      wp (installSnapshot schema records caps authorize logFate headFate)
        (fun _ after => Takes records tip files ∧ after = installed records tip)
        (fun _ left => (left.present = false → left.torn = false) ∧ (Takes records tip left ↔ Takes records tip files) ∧
          (Takes records tip files → logFate = .done → headFate ≠ .done)) files :=
    fun hollow => verified.run.mpr (wp_install hollow (fun takes => ⟨takes, rfl⟩) fun _ _ one two three => ⟨one, two, three⟩)
  refine ⟨fun after ran => ?_, fun present differs => ?_, fun error left ran => ?_⟩
  · obtain ⟨-, rfl⟩ := wp_ok (install hollow) ran
    refine ⟨verified.opens, fun logFate headFate => run_eq_ok.mpr (verified.run.mpr ?_)⟩
    simp [installLog, installHead, installed, wp_bind, wp_get, wp_lift, reject]
  · have refused : wp (installSnapshot schema records caps authorize logFate headFate) (fun _ _ => False)
        (fun _ after => after = files) files := by
      rw [verified.run]
      simp [installLog, wp_bind, wp_get, wp_lift, present, differs, reject]
    obtain ⟨error, after, ran, rfl⟩ := fails_of_wp refused
    exact ⟨error, ran⟩
  · obtain ⟨hollow', same, -⟩ := wp_error (install hollow) ran
    rw [← same]
    refine ⟨fun again => (wp_ok (install hollow') again.choose_spec).1, fun takes => ?_⟩
    cases again : installSnapshot schema records caps authorize .done .done left with
    | ok _ after => exact ⟨after, rfl⟩
    | error error after => exact absurd rfl ((wp_error (install hollow') again).2.2 takes rfl)

end

namespace Sample

open Wire.Sample

attribute [local instance] Wire.Sample.crypto

/-- A chain of one record. -/
def chain : List (SignedRecord (ChainEntry Nat)) := [signed (.other "chain") homeKey ⟨0, genesis, 7⟩]

def install (logFate headFate : Replacement) : EStateM JournalError (Files Nat) Unit :=
  installSnapshot (.other "chain") chain ⟨4, 1024⟩ (fun _ _ => true) logFate headFate

theorem chain_verified : Verified (.other "chain") ⟨4, 1024⟩ (fun _ _ => true) chain (.sha256 0) :=
  ⟨by decide, by decide, by cbv⟩

theorem installSnapshot_settles_fresh : install .done .done .empty = .ok () (installed chain (.sha256 0)) ∧
    openWithAuthority (installed chain (.sha256 0)) (.other "chain") ⟨4, 1024⟩ (fun _ _ => true) none =
      .ok ⟨.other "chain", ⟨4, 1024⟩, chain, .sha256 0, true, installed chain (.sha256 0)⟩ := by
  have run : install .done .done .empty = .ok () (installed chain (.sha256 0)) := by cbv
  exact ⟨run, ((installSnapshot_settles chain_verified (fun _ => rfl) .done .done).1 _ run).1⟩

/-- The directory holds the head of another chain and no log: the installation stops after the log is in place, and
from there it is refused for good. -/
theorem foreign_head_strands_snapshot : ∃ stopped, install (.failed true "crash") .done ⟨[], false, some ⟨1, .sha256 5⟩, false⟩ =
      .error (.io "crash") stopped ∧
    ∀ logFate headFate, install logFate headFate stopped =
      .error (.corrupt "installed journal head is not a committed snapshot prefix") stopped :=
  ⟨⟨chain, false, some ⟨1, .sha256 5⟩, true⟩, by cbv, fun _ _ => by cbv⟩

end Sample

end SignedJournal

end Gawd.Journal
