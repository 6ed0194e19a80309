import Gawd.Transfer.RegistryId

/-!
The chunks of a transfer plan cut its file without gaps and overlaps.
-/

namespace Gawd.Transfer

open Gawd.Transport Gawd.Logic

structure TransferPlan where
  transferId : String
  fileSize : Nat
  fileHash : String
  chunkSize : Nat
  totalChunks : Nat

inductive TransferPlanError where
  | chunkPlan (error : ChunkPlanError)
  | invalidTransferId (error : String)
  | invalidFileHash (error : String)

/-- The errors of `chunk_bounds`. -/
inductive TransferChunkError where
  | planShape (error : String)
  | chunkOutOfRange (chunkIndex totalChunks : Nat)
  | fileTooLarge (fileSize : Nat)

/-- The width of a `usize`, on a 64-bit target. -/
def usizeBits : Nat := 64

namespace TransferPlan

def new (transferId : String) (fileSize : Nat) (fileHash : String) (chunkSize : Nat) : Except TransferPlanError TransferPlan :=
  match chunkIdShapeError "transfer_id" transferId maxTransferIdBytes, sha256HexShapeError "file_hash" fileHash with
  | some error, _ => .error (.invalidTransferId error)
  | none, some error => .error (.invalidFileHash error)
  | none, none =>
    match computeChunks fileSize chunkSize with
    | .error error => .error (.chunkPlan error)
    | .ok totalChunks => .ok ⟨transferId, fileSize, fileHash, chunkSize, totalChunks⟩

def shapeError (plan : TransferPlan) : Option String :=
  chunkIdShapeError "transfer_id" plan.transferId maxTransferIdBytes
    <|> sha256HexShapeError "file_hash" plan.fileHash
    <|> match computeChunks plan.fileSize plan.chunkSize with
      | .ok expected =>
        if expected = plan.totalChunks then none
        else some s!"total_chunks {plan.totalChunks} does not match expected {expected}"
      | .error error => some error.display

/-- The byte range of a chunk, with sums and products as `u64` has them. -/
def chunkBounds (plan : TransferPlan) (chunkIndex : Nat) : Except TransferChunkError (Nat × Nat) := do
  match plan.shapeError with
  | some error => throw (.planShape error)
  | none =>
    reject (plan.totalChunks ≤ chunkIndex) (.chunkOutOfRange chunkIndex plan.totalChunks)
    let start := chunkIndex * plan.chunkSize % 2 ^ 64
    let stop := max (min ((start + plan.chunkSize) % 2 ^ 64) plan.fileSize) start
    reject (2 ^ usizeBits ≤ start) (.fileTooLarge plan.fileSize)
    reject (2 ^ usizeBits ≤ stop) (.fileTooLarge plan.fileSize)
    return (start, stop)

/-- The byte lies in the chunk. -/
def Holds (plan : TransferPlan) (index byte : Nat) : Prop :=
  ∃ start stop, plan.chunkBounds index = .ok (start, stop) ∧ start ≤ byte ∧ byte < stop

/-- The chunks follow each other and are no longer than a chunk may be. They are disjoint, and together the file. Only the chunk
of an empty file is empty, there are no others, and no sum or product was cut off. -/
structure Geometry (plan : TransferPlan) : Prop where
  bounds : ∀ index < plan.totalChunks, ∃ start stop, plan.chunkBounds index = .ok (start, stop) ∧ start ≤ stop ∧
    stop ≤ start + plan.chunkSize ∧ (start = stop → plan.fileSize = 0 ∧ plan.totalChunks = 1)
  contiguous : ∀ index, index + 1 < plan.totalChunks → ∃ start middle stop,
    plan.chunkBounds index = .ok (start, middle) ∧ plan.chunkBounds (index + 1) = .ok (middle, stop)
  disjoint : ∀ one other byte, plan.Holds one byte → plan.Holds other byte → one = other
  whole : ∀ byte, (∃ index, plan.Holds index byte) ↔ byte < plan.fileSize
  refused : ∀ index, plan.totalChunks ≤ index → plan.chunkBounds index = .error (.chunkOutOfRange index plan.totalChunks)
  exact : plan.fileSize / plan.chunkSize + 1 < 2 ^ 64 ∧
    ∀ index < plan.totalChunks, index * plan.chunkSize + plan.chunkSize < 2 ^ 64

theorem shapeError_of_new (made : new name size digest chunk = .ok plan) : plan.shapeError = none := by
  unfold new at made
  split at made
  · cases made
  · cases made
  · rename_i idOk hashOk
    split at made
    · cases made
    · rename_i totalChunks counted
      cases made
      simp [shapeError, idOk, hashOk, counted]

/-- The numbers of a plan in shape. -/
structure Sized (plan : TransferPlan) : Prop where
  positive : 0 < plan.chunkSize
  large : plan.chunkSize ≤ maxChunkSize
  few : plan.totalChunks < 2 ^ 32
  spans : (plan.fileSize = 0 ∧ plan.totalChunks = 1) ∨
    ((plan.totalChunks - 1) * plan.chunkSize < plan.fileSize ∧ plan.fileSize ≤ plan.totalChunks * plan.chunkSize)

variable {plan : TransferPlan} (passes : plan.shapeError = none)

include passes

theorem sized_of_shape : plan.Sized := by
  have counted : computeChunks plan.fileSize plan.chunkSize = .ok plan.totalChunks := by
    simp only [shapeError, Option.orElse_eq_orElse, Option.orElse_eq_or, Option.or_eq_none_iff] at passes
    obtain ⟨_, _, shape⟩ := passes
    split at shape
    · rename_i expected computed
      split_ifs at shape with same
      rw [computed, same]
    · cases shape
  simp only [computeChunks, bind_eq_ok, reject_eq_ok, pure_eq_ok, not_lt, not_le] at counted
  obtain ⟨_, _, _, small, _, large, _, few, same⟩ := counted
  have positive : 0 < plan.chunkSize := Nat.lt_of_lt_of_le (by decide) small
  refine ⟨positive, large, same ▸ few, ?_⟩
  by_cases empty : plan.fileSize = 0
  · rw [if_pos empty] at same
    exact .inl ⟨empty, same.symm⟩
  · rw [if_neg empty] at same
    have parts := Nat.div_add_mod (plan.fileSize + plan.chunkSize - 1) plan.chunkSize
    have rest := Nat.mod_lt (plan.fileSize + plan.chunkSize - 1) positive
    rw [same, Nat.mul_comm] at parts
    rw [Nat.sub_mul]
    omega

/-- A chunk starts within the file, and at its end only if the file is empty. -/
theorem start_of_shape (among : index < plan.totalChunks) : index * plan.chunkSize + plan.chunkSize < 2 ^ 64 ∧
    (index * plan.chunkSize < plan.fileSize ∨ (index = 0 ∧ plan.fileSize = 0 ∧ plan.totalChunks = 1)) := by
  obtain ⟨_, large, few, spans⟩ := sized_of_shape passes
  have most : index * plan.chunkSize ≤ (plan.totalChunks - 1) * plan.chunkSize :=
    Nat.mul_le_mul_right _ (Nat.le_sub_one_of_lt among)
  have bounded : index * plan.chunkSize ≤ 2 ^ 32 * maxChunkSize := Nat.mul_le_mul (by omega) large
  simp only [maxChunkSize] at bounded large
  omega

theorem chunkBounds_of_shape (among : index < plan.totalChunks) : plan.chunkBounds index =
    .ok (index * plan.chunkSize, min (index * plan.chunkSize + plan.chunkSize) plan.fileSize) := by
  obtain ⟨exact, start⟩ := start_of_shape passes among
  have first : index * plan.chunkSize % 2 ^ 64 = index * plan.chunkSize := Nat.mod_eq_of_lt (by omega)
  have within : index * plan.chunkSize ≤ min (index * plan.chunkSize + plan.chunkSize) plan.fileSize := by
    rcases start with inside | ⟨rfl, _⟩ <;> omega
  have startFits : ¬ 2 ^ usizeBits ≤ index * plan.chunkSize := by
    simp only [usizeBits]
    omega
  have stopFits : ¬ 2 ^ usizeBits ≤ min (index * plan.chunkSize + plan.chunkSize) plan.fileSize := by
    simp only [usizeBits]
    omega
  simp only [chunkBounds, passes, first, Nat.mod_eq_of_lt exact, Nat.max_eq_left within, reject_of_not (Nat.not_le.mpr among),
    reject_of_not startFits, reject_of_not stopFits, ok_bind]
  rfl

theorem holds_iff (index byte : Nat) : plan.Holds index byte ↔ byte < plan.fileSize ∧ byte / plan.chunkSize = index := by
  obtain ⟨positive, _, _, spans⟩ := sized_of_shape passes
  constructor
  · rintro ⟨start, stop, cut, low, high⟩
    have among : index < plan.totalChunks := by
      by_contra beyond
      simp [chunkBounds, passes, reject, Nat.le_of_not_lt beyond] at cut
    rw [chunkBounds_of_shape passes among] at cut
    cases cut
    refine ⟨by omega, Nat.div_eq_of_lt_le low ?_⟩
    rw [Nat.succ_mul]
    omega
  · rintro ⟨inside, rfl⟩
    have among : byte / plan.chunkSize < plan.totalChunks := Nat.div_lt_of_lt_mul (by rw [Nat.mul_comm]; omega)
    have parts := Nat.div_add_mod' byte plan.chunkSize
    have rest := Nat.mod_lt byte positive
    exact ⟨_, _, chunkBounds_of_shape passes among, by omega, by omega⟩

omit passes in
/-- The geometry of every plan that passes its check, and of every plan that the constructor made. -/
theorem chunk_geometry (accepted : plan.shapeError = none ∨ ∃ name size digest chunk, new name size digest chunk = .ok plan) :
    plan.Geometry := by
  have passes : plan.shapeError = none := by
    rcases accepted with passes | ⟨name, size, digest, chunk, made⟩
    · exact passes
    · exact shapeError_of_new made
  obtain ⟨positive, large, few, spans⟩ := sized_of_shape passes
  refine ⟨fun index among => ?_, fun index more => ?_, fun one other byte inOne inOther => ?_, fun byte => ?_,
    fun index beyond => ?_, ?_, fun index among => (start_of_shape passes among).1⟩
  · obtain ⟨_, start⟩ := start_of_shape passes among
    refine ⟨_, _, chunkBounds_of_shape passes among, ?_⟩
    rcases start with inside | ⟨rfl, _⟩ <;> omega
  · obtain ⟨_, inside | ⟨⟨⟩, _⟩⟩ := start_of_shape passes more
    have whole : min (index * plan.chunkSize + plan.chunkSize) plan.fileSize = (index + 1) * plan.chunkSize := by
      rw [Nat.succ_mul] at inside ⊢
      omega
    exact ⟨_, _, _, chunkBounds_of_shape passes (by omega), whole ▸ chunkBounds_of_shape passes more⟩
  · rw [← ((holds_iff passes one byte).mp inOne).2]
    exact ((holds_iff passes other byte).mp inOther).2
  · simp [holds_iff passes]
  · simp only [chunkBounds, passes, reject, if_pos beyond]
    rfl
  · have most : plan.fileSize / plan.chunkSize ≤ plan.totalChunks := Nat.div_le_of_le_mul (by rw [Nat.mul_comm]; omega)
    omega

end TransferPlan

/-- A file of three chunks, the last of one byte. -/
theorem chunk_geometry_three : TransferPlan.Geometry ⟨"t", 2049, Sample.zeros, 1024, 3⟩ :=
  TransferPlan.chunk_geometry (.inl (by decide +kernel))

end Gawd.Transfer
