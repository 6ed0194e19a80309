import Gawd.Journal.SignedJournal

/-!
The hash chain of a journal: each entry names its place and the hash of the entry before it, so the tip
and the length fix every entry below.
-/

namespace Gawd.Journal

open Gawd.Logic Gawd.Wire

variable [Crypto] {α : Type}

/-- The records chain up from genesis to the tip. -/
inductive Chained : List (SignedRecord (ChainEntry α)) → Text → Prop where
  | nil : Chained [] genesis
  | snoc : Chained records tip → entry.payload.sequence = records.length → entry.payload.previousHash = tip →
      Chained (records ++ [entry]) (canonicalHash entry)

variable {tip : Text}

variable {records : List (SignedRecord (ChainEntry α))}

theorem Chained.last {entry : SignedRecord (ChainEntry α)} (chained : Chained (records ++ [entry]) tip) :
    tip = canonicalHash entry ∧ Chained records entry.payload.previousHash := by
  generalize whole : records ++ [entry] = longer at chained
  cases chained with
  | nil => simp at whole
  | snoc earlier _ previous =>
    obtain ⟨rfl, same⟩ := List.append_inj' whole rfl
    obtain ⟨⟩ := same
    exact ⟨rfl, by rw [previous]; exact earlier⟩

/-- The hash of a journal entry identifies it. -/
def EntriesIdentified (α : Type) : Prop :=
  ∀ left right : SignedRecord (ChainEntry α), canonicalHash left = canonicalHash right → left = right

/-- Two chains of one length with one tip are the same. -/
theorem Chained.unique (identified : EntriesIdentified α) {first second : List (SignedRecord (ChainEntry α))}
    (one : Chained first tip) (two : Chained second tip) (same : first.length = second.length) : first = second := by
  induction first using List.reverseRecOn generalizing second tip with
  | nil => exact (List.length_eq_zero_iff.mp same.symm).symm
  | append_singleton records entry ih =>
    cases second using List.reverseRecOn with
    | nil => simp at same
    | append_singleton records' entry' =>
      obtain ⟨tipped, below⟩ := one.last
      obtain ⟨tipped', below'⟩ := two.last
      obtain rfl := identified entry entry' (tipped.symm.trans tipped')
      rw [ih below below' (by simpa using same)]

variable {schema : Schema} {caps : JournalCaps} {authorize : Text → ChainEntry α → Bool} {files : Files α}

namespace SignedJournal

/-- A walk that checks place and previous hash at every record has walked a chain. -/
theorem chained_of_walk (walk : Nat → Text → List (SignedRecord (ChainEntry α)) → Except ε Text)
    (done : ∀ index tip result, walk index tip [] = .ok result → result = tip)
    (next : ∀ index tip record rest result, walk index tip (record :: rest) = .ok result →
      record.payload.sequence = index ∧ record.payload.previousHash = tip ∧
        walk (index + 1) (canonicalHash record) rest = .ok result) {walked : List (SignedRecord (ChainEntry α))}
    (chained : Chained walked tip) (run : walk walked.length tip records = .ok result) :
    Chained (walked ++ records) result := by
  induction records generalizing walked tip with
  | nil =>
    rw [done _ _ _ run, List.append_nil]
    exact chained
  | cons record rest ih =>
    obtain ⟨sequence, previous, later⟩ := next _ _ _ _ _ run
    have longer := ih (chained.snoc sequence previous) (by simpa using later)
    simpa using longer

theorem recover_chained (run : recover schema caps authorize 0 genesis records = .ok tip) : Chained records tip := by
  refine chained_of_walk (recover schema caps authorize) ?_ ?_ .nil run
  · intro index tip result ended
    obtain ⟨⟩ := ended
    rfl
  · intro index tip record rest result stepped
    simp only [recover, bind_eq_ok, reject_eq_ok, not_or, not_not] at stepped
    obtain ⟨_, _, _, _, _, _, _, _, _, ⟨sequence, previous⟩, later⟩ := stepped
    exact ⟨sequence, previous, later⟩

/-- An opened journal is a chain up to its tip. -/
theorem openWithAuthority_chained {journal : SignedJournal α}
    (opened : openWithAuthority files schema caps authorize fault = .ok journal) :
    Chained journal.records journal.tipHash := by
  simp only [openWithAuthority, bind_eq_ok, reject_eq_ok, pure_eq_ok] at opened
  obtain ⟨-, -, -, -, tip, recovered, -, -, -, -, rfl⟩ := opened
  exact recover_chained recovered

/-! Taking a chain back. -/

/-- A record that a journal takes back, whatever its place. -/
structure Acceptable (schema : Schema) (caps : JournalCaps) (authorize : Text → ChainEntry α → Bool)
    (record : SignedRecord (ChainEntry α)) : Prop where
  size : Crypto.encodedLen record ≤ caps.maxRecordBytes
  schema : record.schema = schema
  verified : record.verify = true
  authorized : authorize record.signer record.payload = true

theorem recover_append (authorize : Text → ChainEntry α → Bool) {first : List (SignedRecord (ChainEntry α))} :
    recover schema caps authorize index tip (first ++ second) =
      (recover schema caps authorize index tip first >>= fun middle =>
        recover schema caps authorize (index + first.length) middle second) := by
  induction first generalizing index tip with
  | nil => simp [recover]
  | cons record rest ih =>
    simp only [List.cons_append, recover, ih, List.length_cons, bind_assoc]
    rw [Nat.add_right_comm, Nat.add_assoc]

/-- A chain of acceptable records within the caps is taken back up to its tip. -/
theorem recover_of_chained (chained : Chained records tip)
    (takes : ∀ record ∈ records, Acceptable schema caps authorize record) (room : records.length ≤ caps.maxRecords) :
    recover schema caps authorize 0 genesis records = .ok tip := by
  induction chained with
  | nil => rfl
  | @snoc records tip entry _ sequence previous ih =>
    have earlier := ih (fun record member => takes record (List.mem_append_left _ member))
      (by rw [List.length_append] at room; omega)
    obtain ⟨size, same, verified, authorized⟩ := takes entry (by simp)
    rw [recover_append, earlier, ok_bind, Nat.zero_add]
    rw [List.length_append, List.length_singleton] at room
    simp only [recover, bind_eq_ok, reject_eq_ok, not_or, not_not]
    exact ⟨(), by omega, (), by omega, (), same, (), by simp [verified, authorized], (), ⟨sequence, previous⟩, trivial⟩

/-- The head of every part of a chain is among those of the whole. -/
theorem mem_prefixHeads (chained : Chained records tip) :
    (⟨records.length, tip⟩ : Head) ∈ prefixHeads 0 genesis (records ++ later) := by
  have whole : ∀ index below, (⟨index, below⟩ : Head) ∈ prefixHeads index below later := by
    intro index below
    cases later <;> simp [prefixHeads]
  have walk : ∀ (records : List (SignedRecord (ChainEntry α))) tip, Chained records tip → ∀ later head,
      head ∈ prefixHeads records.length tip later → head ∈ prefixHeads 0 genesis (records ++ later) := by
    intro records tip chained
    induction chained with
    | nil => simp
    | @snoc records tip entry _ _ _ ih =>
      intro later head member
      rw [List.append_assoc]
      refine ih _ head ?_
      simp only [List.singleton_append, prefixHeads, List.mem_cons]
      right
      simpa using member
  exact walk records tip chained later _ (whole _ _)

/-- A head hint that names the whole chain or a part of it. -/
def HeadFits (files : Files α) : Prop :=
  ∀ head ∈ files.head, ∃ earlier later below, files.records = earlier ++ later ∧ Chained earlier below ∧
    head = ⟨earlier.length, below⟩

/-- Whole files that hold a chain of acceptable records within the caps reopen. -/
theorem openWithAuthority_of_chained (chained : Chained files.records tip)
    (takes : ∀ record ∈ files.records, Acceptable schema caps authorize record)
    (room : files.records.length ≤ caps.maxRecords) (nonzero : caps.maxRecords ≠ 0 ∧ caps.maxRecordBytes ≠ 0)
    (whole : files.torn = false) (fits : HeadFits files) :
    openWithAuthority files schema caps authorize none = .ok ⟨schema, caps, files.records, tip, true,
      { files with
        head := if files.head = none ∧ files.records = [] then none else some ⟨files.records.length, tip⟩ }⟩ := by
  have hinted : checkHead files tip = .ok () := by
    unfold checkHead
    split
    · rename_i persisted kept
      obtain ⟨earlier, later, below, same, part, rfl⟩ := fits persisted kept
      simp only [reject_eq_ok, not_not, same]
      exact mem_prefixHeads part
    · rfl
  simp only [openWithAuthority, bind_eq_ok, reject_eq_ok, pure_eq_ok, not_or]
  exact ⟨(), nonzero, (), by simp [whole], tip, recover_of_chained chained takes room, (), by simp, (), hinted, rfl⟩

end SignedJournal

end Gawd.Journal
