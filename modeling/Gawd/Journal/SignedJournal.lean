import Gawd.Logic.Process
import Gawd.Wire.Contract

/-!
The signed append journal: a hash chain of signed entries in one log file, with a head file that hints
at its end. A failed durable append poisons the process until it reopens the files.
-/

namespace Gawd.Journal

open Gawd.Logic Gawd.Wire

structure JournalCaps where
  maxRecords : Nat
  maxRecordBytes : Nat
deriving DecidableEq

structure ChainEntry (α : Type) where
  sequence : Nat
  previousHash : Text
  event : α
deriving DecidableEq

structure Head where
  nextSequence : Nat
  tipHash : Text
deriving DecidableEq

inductive JournalError where
  | io (message : String)
  | encoding (message : String)
  | corrupt (message : String)
  | limit (message : String)
  | uncertain
deriving DecidableEq

def JournalError.display : JournalError → String
  | .io message => "journal I/O error: " ++ message
  | .encoding message => "journal encoding error: " ++ message
  | .corrupt message => "journal is corrupt: " ++ message
  | .limit message => "journal limit reached: " ++ message
  | .uncertain => "journal state is uncertain after a failed durable append; reopen before writing"

def genesis : Text := .sha256 0

/-- What the two files of a journal hold. `present` tells an empty log file from none. -/
structure Files (α : Type) where
  records : List (SignedRecord (ChainEntry α))
  torn : Bool
  head : Option Head
  present : Bool

def Files.empty {α : Type} : Files α := ⟨[], false, none, false⟩

/-- Where a durable append stopped. -/
inductive Cut where
  | beforeLogWrite
  | afterLogCreate
  | tornLogWrite
  | afterLogWrite
  | afterLogSync
  | beforeHeadRename
  | afterHeadRename
deriving DecidableEq

/-- How the filesystem treats one append: it lets it through, or stops it with an error. -/
inductive Fate where
  | durable
  | stopped (cut : Cut) (message : String)
deriving DecidableEq

/-- How replacing a small file ends: done, or with an error before or after the rename. -/
inductive Replacement where
  | done
  | failed (visible : Bool) (message : String)
deriving DecidableEq

/-- The events of a list of records. -/
def eventsOf {α : Type} (records : List (SignedRecord (ChainEntry α))) : List α :=
  records.map fun record => record.payload.event

@[simp] theorem eventsOf_append (records later : List (SignedRecord (ChainEntry α))) :
    eventsOf (records ++ later) = eventsOf records ++ eventsOf later :=
  List.map_append

@[simp] theorem eventsOf_singleton (record : SignedRecord (ChainEntry α)) :
    eventsOf [record] = [record.payload.event] :=
  rfl

/-- An open journal and the files behind it. -/
structure SignedJournal (α : Type) where
  chainSchema : Schema
  caps : JournalCaps
  records : List (SignedRecord (ChainEntry α))
  tipHash : Text
  healthy : Bool
  files : Files α

variable {before after journal : SignedJournal α} {entry : SignedRecord (ChainEntry α)} {event : α}
  {signer : AuthoritySigner} {fate : Fate} {success : SignedRecord (ChainEntry α) → SignedJournal α → Prop}
  {failure : JournalError → SignedJournal α → Prop} {files : Files α} {schema : Schema} {caps : JournalCaps}
  {authorize : Text → ChainEntry α → Bool} {fault : Option String}

namespace SignedJournal

variable {α : Type}

def events (journal : SignedJournal α) : List α :=
  eventsOf journal.records

def Files.write (files : Files α) (record : SignedRecord (ChainEntry α)) (head : Head) : Cut → Files α
  | .beforeLogWrite => files
  | .afterLogCreate => { files with present := true }
  | .tornLogWrite => { files with torn := true, present := true }
  | .afterLogWrite => { files with records := files.records ++ [record], present := true }
  | .afterLogSync => { files with records := files.records ++ [record], present := true }
  | .beforeHeadRename => { files with records := files.records ++ [record], present := true }
  | .afterHeadRename =>
    { files with records := files.records ++ [record], head := some head, present := true }

section

variable [Crypto]

def append (event : α) (signer : AuthoritySigner) (fate : Fate) :
    EStateM JournalError (SignedJournal α) (SignedRecord (ChainEntry α)) := do
  let journal ← get
  reject (journal.healthy = false) JournalError.uncertain
  let count := journal.records.length
  let maxRecords := journal.caps.maxRecords
  reject (maxRecords ≤ count) (JournalError.limit s!"{count} records exceeds {maxRecords}")
  let entry : ChainEntry α := ⟨count, journal.tipHash, event⟩
  let record ← mapError (fun error => JournalError.encoding error.display)
    (SignedRecord.sign journal.chainSchema entry signer)
  let len := Crypto.encodedLen record
  let maxRecordBytes := journal.caps.maxRecordBytes
  reject (maxRecordBytes < len) (JournalError.limit s!"record is {len} bytes, exceeds {maxRecordBytes}")
  let head : Head := ⟨count + 1, canonicalHash record⟩
  match fate with
  | .stopped cut message =>
    set { journal with healthy := false, files := Files.write journal.files record head cut }
    throw (.io message)
  | .durable =>
    set { journal with
      records := journal.records ++ [record]
      tipHash := canonicalHash record
      files := Files.write journal.files record head .afterHeadRename }
    return record

def ensureHealthy (journal : SignedJournal α) : Except JournalError Unit :=
  reject (journal.healthy = false) .uncertain

/-- Capacity left for future records. -/
def remainingRecords (journal : SignedJournal α) : Except JournalError Nat := do
  journal.ensureHealthy
  return journal.caps.maxRecords - journal.records.length

/-- Walk the recovered records and return the tip of their chain. -/
def recover (schema : Schema) (caps : JournalCaps) (authorize : Text → ChainEntry α → Bool) :
    (index : Nat) → (tip : Text) → List (SignedRecord (ChainEntry α)) → Except JournalError Text
  | _, tip, [] => .ok tip
  | index, tip, record :: rest => do
    reject (caps.maxRecordBytes < Crypto.encodedLen record) (.limit s!"record {index} exceeds byte limit")
    reject (caps.maxRecords ≤ index) (.limit "record count exceeds limit")
    reject (record.schema ≠ schema) (.corrupt s!"record {index} has wrong schema")
    reject (record.verify = false ∨ authorize record.signer record.payload = false)
      (.corrupt s!"record {index} has an invalid or unexpected signature")
    reject (record.payload.sequence ≠ index ∨ record.payload.previousHash ≠ tip)
      (.corrupt s!"record {index} breaks sequence/hash chain")
    recover schema caps authorize (index + 1) (canonicalHash record) rest

/-- The heads of all prefixes of a recovered chain. -/
def prefixHeads : (index : Nat) → (tip : Text) → List (SignedRecord (ChainEntry α)) → List Head
  | index, tip, [] => [⟨index, tip⟩]
  | index, tip, record :: rest => ⟨index, tip⟩ :: prefixHeads (index + 1) (canonicalHash record) rest

/-- The head hint must name the recovered chain or a prefix of it. -/
def checkHead (files : Files α) (tip : Text) : Except JournalError Unit :=
  match files.head with
  | some persisted =>
    let next := persisted.nextSequence
    let hint := persisted.tipHash.render
    let count := files.records.length
    let found := tip.render
    reject (persisted ∉ prefixHeads 0 genesis files.records)
      (.corrupt s!"head ({next}, {hint}) is not a prefix of recovered chain ({count}, {found})")
  | none => .ok ()

/-- Reopen the files: verify the chain, fence it, and repair a stale head hint. The filesystem may
fail the fence. -/
def openWithAuthority (files : Files α) (schema : Schema) (caps : JournalCaps)
    (authorize : Text → ChainEntry α → Bool) (fault : Option String) :
    Except JournalError (SignedJournal α) := do
  reject (caps.maxRecords = 0 ∨ caps.maxRecordBytes = 0) (.limit "caps must be non-zero")
  reject files.torn (.corrupt "journal has a torn final record")
  let tip ← recover schema caps authorize 0 genesis files.records
  reject fault.isSome (.io (fault.getD ""))
  checkHead files tip
  let expected : Head := ⟨files.records.length, tip⟩
  let head := if files.head = none ∧ files.records = [] then none else some expected
  return ⟨schema, caps, files.records, tip, true, { files with head }⟩

/-- A journal whose every record the current signer must have made. -/
def openWithSchema (files : Files α) (schema : Schema) (signer : AuthoritySigner) (caps : JournalCaps)
    (fault : Option String) : Except JournalError (SignedJournal α) :=
  openWithAuthority files schema caps (fun candidate _ => candidate = signer.publicKey) fault

/-- Walk a snapshot before it is installed and return the tip of its chain. -/
def checkSnapshot (schema : Schema) (caps : JournalCaps) (authorize : Text → ChainEntry α → Bool) :
    (index : Nat) → (tip : Text) → List (SignedRecord (ChainEntry α)) → Except JournalError Text
  | _, tip, [] => .ok tip
  | index, tip, record :: rest => do
    reject (record.schema ≠ schema ∨ record.verify = false ∨ authorize record.signer record.payload = false)
      (.corrupt s!"snapshot record {index} has an invalid or unexpected signature")
    reject (record.payload.sequence ≠ index ∨ record.payload.previousHash ≠ tip)
      (.corrupt s!"snapshot record {index} breaks sequence/hash chain")
    reject (caps.maxRecordBytes < Crypto.encodedLen record)
      (.limit s!"snapshot record {index} exceeds byte limit")
    checkSnapshot schema caps authorize (index + 1) (canonicalHash record) rest

/-- Put the log of a snapshot in place, or accept the one that is there if it is the same. -/
def installLog (records : List (SignedRecord (ChainEntry α))) (fate : Replacement) [DecidableEq α] :
    EStateM JournalError (Files α) Unit := do
  let files ← get
  if files.present then
    reject (files.records ≠ records ∨ files.torn)
      (JournalError.corrupt "refusing to replace a different installed journal snapshot")
  else
    match fate with
    | .done => set { files with records, present := true }
    | .failed visible message =>
      if visible then set { files with records, present := true }
      throw (.io message)

/-- Replace the head file; an error may leave it replaced. -/
def replaceHead (head : Head) (fate : Replacement) : EStateM JournalError (Files α) Unit := do
  match fate with
  | .done => modify fun files => { files with head := some head }
  | .failed visible message =>
    if visible then modify fun files => { files with head := some head }
    throw (.io message)

/-- Put the head of a snapshot in place, or repair the one that is there. -/
def installHead (records : List (SignedRecord (ChainEntry α))) (tip : Text) (fate : Replacement) :
    EStateM JournalError (Files α) Unit := do
  let files ← get
  let expected : Head := ⟨records.length, tip⟩
  if files.head = some expected then pure ()
  else do
    match files.head with
    | some parsed =>
      reject (records.length < parsed.nextSequence ∨
          (parsed.nextSequence ≠ 0 ∧
            (records[parsed.nextSequence - 1]?.map fun record => canonicalHash record) ≠ some parsed.tipHash))
        (JournalError.corrupt "installed journal head is not a committed snapshot prefix")
    | none => pure ()
    replaceHead expected fate

/-- Install an already signed chain without signing it again. A different local chain is refused, and
the same one may be installed twice. -/
def installSnapshot (schema : Schema) (records : List (SignedRecord (ChainEntry α))) (caps : JournalCaps)
    (authorize : Text → ChainEntry α → Bool) (logFate headFate : Replacement) [DecidableEq α] :
    EStateM JournalError (Files α) Unit := do
  reject (caps.maxRecords = 0 ∨ caps.maxRecordBytes = 0) (JournalError.limit "caps must be non-zero")
  let count := records.length
  let maxRecords := caps.maxRecords
  reject (maxRecords < count) (JournalError.limit s!"snapshot has {count} records, exceeds {maxRecords}")
  let tip ← checkSnapshot schema caps authorize 0 genesis records
  installLog records logFate
  installHead records tip headFate

end

/-- The entry by which an event continues a journal. -/
structure Continuation (journal : SignedJournal α) (event : α) (signer : Text)
    (entry : SignedRecord (ChainEntry α)) : Prop where
  event : entry.payload.event = event
  signer : entry.signer = signer
  sequence : entry.payload.sequence = journal.records.length
  previous : entry.payload.previousHash = journal.tipHash

/-- A successful append: one more entry, in memory and on disk. -/
structure Appended [Crypto] (before : SignedJournal α) (entry : SignedRecord (ChainEntry α))
    (after : SignedJournal α) : Prop where
  healthy : before.healthy = true ∧ after.healthy = true
  records : after.records = before.records ++ [entry]
  tip : after.tipHash = canonicalHash entry
  logged : after.files.records = before.files.records ++ [entry]
  torn : after.files.torn = before.files.torn
  caps : after.caps = before.caps
  present : after.files.present = true

/-- A failed durable append: the process stops trusting the journal, whatever reached the disk. -/
structure Poisoned (before : SignedJournal α) (entry : SignedRecord (ChainEntry α))
    (after : SignedJournal α) : Prop where
  healthy : before.healthy = true ∧ after.healthy = false
  records : after.records = before.records
  tip : after.tipHash = before.tipHash
  logged : (after.files.records = before.files.records ∧
      (before.files.present = true → after.files.present = true)) ∨
    (after.files.records = before.files.records ++ [entry] ∧ after.files.present = true)
  caps : after.caps = before.caps

theorem write_records (files : Files α) (record : SignedRecord (ChainEntry α)) (head : Head) (cut : Cut) :
    ((Files.write files record head cut).records = files.records ∧
        (files.present = true → (Files.write files record head cut).present = true)) ∨
      ((Files.write files record head cut).records = files.records ++ [record] ∧
        (Files.write files record head cut).present = true) := by
  cases cut <;> simp [Files.write]

section

variable [Crypto]

/-- The entry for an event can be signed and fits the byte cap. -/
def Signable (journal : SignedJournal α) (event : α) (signer : AuthoritySigner) : Prop :=
  ∃ entry, SignedRecord.sign journal.chainSchema
      (⟨journal.records.length, journal.tipHash, event⟩ : ChainEntry α) signer = .ok entry ∧
    Crypto.encodedLen entry ≤ journal.caps.maxRecordBytes

section

variable
  (added : ∀ entry after, Continuation journal event signer.publicKey entry → Appended journal entry after → success entry after)

include added

/-- What an append can do: add its event durably, fail without a trace, or fail and poison the journal.
A healthy journal with room refuses only what it cannot sign within the byte cap. -/
theorem wp_append_cases
    (refused : ∀ error, (journal.healthy = true → journal.records.length < journal.caps.maxRecords →
      ¬ journal.Signable event signer) → failure error journal)
    (poisoned : ∀ entry after message, Continuation journal event signer.publicKey entry →
      Poisoned journal entry after → failure (.io message) after) :
    wp (append event signer fate) success failure journal := by
  rw [append, wp_bind, wp_get]
  refine wp_check (fun error sick => refused error fun healthy => ?_) fun _ healthy => ?_
  · simp [healthy, reject] at sick
  refine wp_check (fun error full => refused error fun _ room => ?_) fun _ _ => ?_
  · simp [Nat.not_le.mpr room, reject] at full
  refine wp_check (fun error unsigned => refused error fun _ _ signable => ?_) fun entry signed => ?_
  · obtain ⟨entry, signed, -⟩ := signable
    simp [signed, mapError] at unsigned
  rw [mapError_eq_ok] at signed
  refine wp_check (fun error large => refused error fun _ _ signable => ?_) fun _ _ => ?_
  · obtain ⟨other, same, fits⟩ := signable
    rw [signed] at same
    obtain ⟨⟩ := same
    simp [Nat.not_lt.mpr fits, reject] at large
  obtain ⟨-, author, payload⟩ := SignedRecord.sign_eq_ok signed
  have continued : Continuation journal event signer.publicKey entry := by
    refine ⟨?_, author, ?_, ?_⟩
    all_goals rw [payload]
  have wasHealthy : journal.healthy = true := by simpa using healthy
  cases fate with
  | durable =>
    simp only [wp_bind, wp_set, wp_pure]
    exact added entry _ continued ⟨⟨wasHealthy, wasHealthy⟩, rfl, rfl, rfl, rfl, rfl, rfl⟩
  | stopped cut message =>
    simp only [wp_bind, wp_set, wp_throw]
    exact poisoned entry _ message continued ⟨⟨wasHealthy, rfl⟩, rfl, rfl, write_records _ _ _ cut, rfl⟩

/-- The same without the reason of a refusal. -/
theorem wp_append (refused : ∀ error, failure error journal)
    (poisoned : ∀ entry after message, Continuation journal event signer.publicKey entry →
      Poisoned journal entry after → failure (.io message) after) :
    wp (append event signer fate) success failure journal :=
  wp_append_cases added (fun error _ => refused error) poisoned

end

/-- A healthy journal with room appends what can be signed within the byte cap. -/
theorem wp_append_durable (healthy : journal.healthy = true)
    (room : journal.records.length < journal.caps.maxRecords) (signable : journal.Signable event signer)
    (added : ∀ entry after, Continuation journal event signer.publicKey entry →
      Appended journal entry after → success entry after) :
    wp (append event signer .durable) success failure journal := by
  obtain ⟨entry, signed, fits⟩ := signable
  rw [append, wp_bind, wp_get]
  refine wp_unless (by simp [healthy]) ?_
  refine wp_unless (Nat.not_le.mpr room) ?_
  refine wp_pass (mapError_eq_ok.mpr signed) ?_
  refine wp_unless (Nat.not_lt.mpr fits) ?_
  obtain ⟨-, author, payload⟩ := SignedRecord.sign_eq_ok signed
  refine added entry _ ⟨?_, author, ?_, ?_⟩ ⟨⟨healthy, healthy⟩, rfl, rfl, rfl, rfl, rfl, rfl⟩
  all_goals rw [payload]

/-- A snapshot is installed only where there was no log; otherwise the records stay. -/
def Installed (records : List (SignedRecord (ChainEntry α))) (before after : Files α) : Prop :=
  (after.records = before.records ∧ after.present = before.present) ∨
    (before.present = false ∧ after.present = true ∧ after.records = records)

omit [Crypto] in
instance (records : List (SignedRecord (ChainEntry α))) : Std.Refl (Installed records) :=
  ⟨fun _ => .inl ⟨rfl, rfl⟩⟩

omit [Crypto] in
instance (records : List (SignedRecord (ChainEntry α))) : IsTrans (Files α) (Installed records) where
  trans first second third one two := by
    rcases one with ⟨same, present⟩ | ⟨absent, present, there⟩
    · rcases two with ⟨same', present'⟩ | ⟨absent', present', there'⟩
      · exact .inl ⟨same'.trans same, present'.trans present⟩
      · exact .inr ⟨present ▸ absent', present', there'⟩
    · rcases two with ⟨same', present'⟩ | ⟨absent', present', there'⟩
      · exact .inr ⟨absent, present'.trans present, same'.trans there⟩
      · exact .inr ⟨absent, present', there'⟩

section

variable (records : List (SignedRecord (ChainEntry α)))

include records

omit [Crypto] in
theorem installLog_installs [DecidableEq α] (fate : Replacement) :
    Along (Installed records) (installLog records fate) := by
  intro files
  rw [installLog, wp_bind, wp_get]
  split
  · exact Along.lift _ files
  · rename_i absent
    rw [Bool.not_eq_true] at absent
    cases fate with
    | done => exact .inr ⟨absent, rfl, rfl⟩
    | failed visible message =>
      cases visible with
      | true => exact .inr ⟨absent, rfl, rfl⟩
      | false => exact .inl ⟨rfl, rfl⟩

omit [Crypto] in
theorem replaceHead_installs (head : Head) (fate : Replacement) :
    Along (Installed records) (replaceHead head fate) := by
  intro files
  cases fate with
  | done => exact .inl ⟨rfl, rfl⟩
  | failed visible message =>
    cases visible <;> exact .inl ⟨rfl, rfl⟩

theorem installHead_installs (tip : Text) (fate : Replacement) :
    Along (Installed records) (installHead records tip fate) := by
  refine Along.get.bind fun files => Along.ite (fun _ => Along.pure _) fun _ => ?_
  split
  · exact .check fun _ => replaceHead_installs records _ fate
  · exact replaceHead_installs records _ fate

end

theorem installSnapshot_installs [DecidableEq α] (schema : Schema) (records : List (SignedRecord (ChainEntry α)))
    (caps : JournalCaps) (authorize : Text → ChainEntry α → Bool) (logFate headFate : Replacement) :
    Along (Installed records) (installSnapshot schema records caps authorize logFate headFate) := by
  refine .check fun _ => .check fun _ => .check fun tip => ?_
  exact (installLog_installs records logFate).bind fun _ => installHead_installs records tip headFate

section

variable (opened : openWithAuthority files schema caps authorize fault = .ok journal)

include opened

/-- Opening yields exactly the records of the log, in memory and on disk. -/
theorem openWithAuthority_eq_ok :
    journal.records = files.records ∧ journal.files.records = files.records ∧
      journal.healthy = true ∧ journal.files.torn = false := by
  simp only [openWithAuthority, bind_eq_ok, reject_eq_ok, pure_eq_ok] at opened
  obtain ⟨-, -, -, whole, tip, -, -, -, -, -, rfl⟩ := opened
  exact ⟨rfl, rfl, rfl, by simpa using whole⟩

theorem openWithAuthority_present : journal.files.present = files.present := by
  simp only [openWithAuthority, bind_eq_ok, reject_eq_ok, pure_eq_ok] at opened
  obtain ⟨-, -, -, -, tip, -, -, -, -, -, rfl⟩ := opened
  rfl

end

end

end SignedJournal

end Gawd.Journal
