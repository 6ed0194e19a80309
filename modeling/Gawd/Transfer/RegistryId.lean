import Gawd.Transport.BulkRoutes

/-!
The ids that registries give to artifact transfers name the artifact and the chunking they are for.
-/

namespace Gawd.Transfer

open Gawd.Transport Gawd.Logic

def minChunkSize : Nat := 1024

def maxChunkSize : Nat := 4 * 1024 * 1024

def registryTransferIdNamespace : String := "registry"

inductive ChunkPlanError where
  | zeroChunkSize
  | chunkSizeTooSmall (chunkSize min : Nat)
  | chunkSizeTooLarge (chunkSize max : Nat)
  | tooManyChunks (chunks max : Nat)
deriving DecidableEq

def ChunkPlanError.display : ChunkPlanError → String
  | .zeroChunkSize => "chunk size must be nonzero"
  | .chunkSizeTooSmall chunkSize min => s!"chunk size {chunkSize} is below minimum {min}"
  | .chunkSizeTooLarge chunkSize max => s!"chunk size {chunkSize} exceeds maximum {max}"
  | .tooManyChunks chunks max => s!"{chunks} chunks exceeds u32 chunk-count limit {max}"

/-- An empty file still uses one empty chunk. -/
def computeChunks (fileSize chunkSize : Nat) : Except ChunkPlanError Nat := do
  reject (chunkSize = 0) .zeroChunkSize
  reject (chunkSize < minChunkSize) (.chunkSizeTooSmall chunkSize minChunkSize)
  reject (maxChunkSize < chunkSize) (.chunkSizeTooLarge chunkSize maxChunkSize)
  let chunks := if fileSize = 0 then 1 else (fileSize + chunkSize - 1) / chunkSize
  reject (2 ^ 32 ≤ chunks) (.tooManyChunks chunks (2 ^ 32 - 1))
  return chunks

def chunkSizeShapeError (chunkSize : Nat) : Option String :=
  match computeChunks 0 chunkSize with
  | .ok _ => none
  | .error error => some error.display

def registryTransferId (artifactHash : String) (chunkSize seq corr : Nat) : String :=
  s!"{registryTransferIdNamespace}.{artifactHash}.{chunkSize}.{seq}.{corr}"

def registryForm : String := "GX transfer_id must match registry.\x7bartifact_hash\x7d.\x7bchunk_size\x7d.\x7bseq\x7d.\x7bcorr\x7d"

def registryTransferIdShapeError (transferId artifactHash : String) (chunkSize : Nat) : Option String :=
  chunkIdShapeError "transfer_id" transferId maxTransferIdBytes
    <|> sha256HexShapeError "artifact_hash" artifactHash
    <|> chunkSizeShapeError chunkSize
    <|> match transferId.toList.splitOn '.' with
      | [space, idArtifactHash, idChunkSize, seq, corr] =>
        if space ≠ registryTransferIdNamespace.toList then some registryForm
        else if idArtifactHash ≠ artifactHash.toList then some "GX transfer_id does not belong to artifact_hash"
        else if seq = [] ∨ corr = [] ∨ idChunkSize = [] ∨ ¬ idChunkSize.all Char.isDigit ∨ ¬ seq.all Char.isDigit ∨
            ¬ corr.all Char.isDigit then
          some "GX transfer_id chunk_size, seq, and corr must be decimal"
        else if idChunkSize ≠ (toString chunkSize).toList then some "GX transfer_id does not belong to chunk_size"
        else none
      | _ => some registryForm

theorem chunkSizeShapeError_eq_none :
    chunkSizeShapeError chunkSize = none ↔ minChunkSize ≤ chunkSize ∧ chunkSize ≤ maxChunkSize := by
  have spec : (∃ chunks, computeChunks 0 chunkSize = .ok chunks) ↔ minChunkSize ≤ chunkSize ∧ chunkSize ≤ maxChunkSize := by
    simp only [computeChunks, bind_eq_ok, reject_eq_ok, pure_eq_ok, if_true, not_lt]
    simp only [minChunkSize, maxChunkSize]
    constructor
    · rintro ⟨_, _, _, _, large, _, small, _⟩
      exact ⟨large, small⟩
    · rintro ⟨large, small⟩
      exact ⟨1, (), by omega, (), large, (), small, (), by omega, rfl⟩
  rw [← spec, chunkSizeShapeError]
  cases computeChunks 0 chunkSize <;> simp

/-- The characters of an id: visible ones. -/
def Printable (chars : List Char) : Prop := ∀ c ∈ chars, 33 ≤ c.toNat ∧ c.toNat ≤ 126

theorem utf8Len_of_printable (printable : Printable chars) : String.utf8Len chars = chars.length := by
  induction chars with
  | nil => rfl
  | cons c chars ih =>
    have one : c.utf8Size = 1 := by
      rw [Char.utf8Size_eq_one_iff, UInt32.le_iff_toNat_le]
      exact Nat.le_trans (printable c (by simp)).2 (by decide)
    rw [String.utf8Len_cons, ih fun c member => printable c (by simp [member]), one, List.length_cons]

theorem utf8ByteSize_of_printable {value : String} (printable : Printable value.toList) :
    value.utf8ByteSize = value.toList.length := by
  rw [← utf8Len_of_printable printable, ← String.utf8ByteSize_ofList, String.ofList_toList]

theorem chunkIdShapeError_of_printable {value : String} (printable : Printable value.toList) (nonempty : value.toList ≠ [])
    (short : value.toList.length ≤ maxBytes) : chunkIdShapeError field value maxBytes = none := by
  have size := utf8ByteSize_of_printable printable
  have visible : (value.toList.all fun c => 33 ≤ c.toNat && c.toNat ≤ 126) = true := by
    simpa [Printable] using printable
  have unmarked : ¬ (value.toList.any fun c => c.toNat = 0) = true := by
    simp only [List.any_eq_true, decide_eq_true_eq, not_exists, not_and]
    intro c member zero
    have := printable c member
    omega
  rw [chunkIdShapeError, if_neg (by simpa using nonempty), if_neg (by omega), if_neg unmarked, if_neg (by simp [visible])]

/-- The decimal digits of a number. -/
theorem isDigit_toDigits (number : Nat) : ∀ c ∈ Nat.toDigits 10 number, c.isDigit = true :=
  fun _ => Nat.isDigit_of_mem_toDigits (by decide) (by decide)

theorem printable_of_isDigit (digits : ∀ c ∈ chars, c.isDigit = true) : Printable chars := by
  intro c member
  have digit := Char.isDigit_iff_toNat.mp (digits c member)
  simp only [Char.reduceToNat] at digit
  omega

/-- A hash in lowercase hex: 64 visible characters without a dot. -/
theorem hex_of_shape {value : String} (shape : sha256HexShapeError field value = none) :
    Printable value.toList ∧ '.' ∉ value.toList ∧ value.toList.length = 64 := by
  unfold sha256HexShapeError at shape
  split_ifs at shape with size hex
  simp only [Bool.not_eq_true, Bool.not_eq_false', List.all_eq_true, Bool.or_eq_true, Bool.and_eq_true, decide_eq_true_eq] at hex
  have printable : Printable value.toList := by
    intro c member
    rcases hex c member with digit | ⟨low, high⟩
    · exact @printable_of_isDigit [c] (by simpa using digit) c (by simp)
    · exact ⟨Nat.le_trans (by decide) low, Nat.le_trans high (by decide)⟩
  refine ⟨printable, fun dot => ?_, ?_⟩
  · have := hex _ dot
    revert this
    decide
  · rw [← utf8ByteSize_of_printable printable]
    exact not_not.mp size

theorem registryTransferId_toList (artifactHash : String) (chunkSize seq corr : Nat) :
    (registryTransferId artifactHash chunkSize seq corr).toList = ['.'].intercalate [registryTransferIdNamespace.toList,
      artifactHash.toList, Nat.toDigits 10 chunkSize, Nat.toDigits 10 seq, Nat.toDigits 10 corr] := by
  simp [registryTransferId, List.intercalate]
  rfl

/-- What an id is accepted for. -/
theorem registryTransferIdShapeError_eq_none :
    registryTransferIdShapeError transferId artifactHash chunkSize = none ↔
      chunkIdShapeError "transfer_id" transferId maxTransferIdBytes = none ∧
      sha256HexShapeError "artifact_hash" artifactHash = none ∧ chunkSizeShapeError chunkSize = none ∧
      ∃ seq corr, transferId.toList.splitOn '.' =
          [registryTransferIdNamespace.toList, artifactHash.toList, Nat.toDigits 10 chunkSize, seq, corr] ∧
        seq ≠ [] ∧ corr ≠ [] ∧ seq.all Char.isDigit = true ∧ corr.all Char.isDigit = true := by
  simp only [registryTransferIdShapeError, Option.orElse_eq_orElse, Option.orElse_eq_or, Option.or_eq_none_iff]
  refine and_congr_right fun _ => and_congr_right fun _ => and_congr_right fun _ => ?_
  have written : (toString chunkSize).toList = Nat.toDigits 10 chunkSize := by simp
  constructor
  · intro fits
    split at fits
    · rename_i space idArtifactHash idChunkSize seq corr parts
      split_ifs at fits with namespaced owned decimal sized
      simp only [not_not, not_or] at namespaced owned decimal sized
      rw [parts, namespaced, owned, sized, written]
      exact ⟨seq, corr, rfl, decimal.1, decimal.2.1, decimal.2.2.2.2⟩
    · cases fits
  · rintro ⟨seq, corr, parts, some_seq, some_corr, digits, digits'⟩
    have digits'' : (Nat.toDigits 10 chunkSize).all Char.isDigit = true := List.all_eq_true.mpr (isDigit_toDigits chunkSize)
    simp [parts, some_seq, some_corr, digits, digits', digits'', Nat.toDigits_ne_nil]

/-- An id names its artifact and its chunking. For every hash in lowercase hex, valid chunk size and 64-bit sequence and
correlation it fits its bound and is accepted for them, and no id is accepted for two artifacts or two chunk sizes. -/
theorem registry_transfer_ids_bind :
    (∀ artifactHash chunkSize seq corr, sha256HexShapeError "artifact_hash" artifactHash = none →
      chunkSizeShapeError chunkSize = none → seq < 2 ^ 64 → corr < 2 ^ 64 →
      (registryTransferId artifactHash chunkSize seq corr).utf8ByteSize ≤ maxTransferIdBytes ∧
        registryTransferIdShapeError (registryTransferId artifactHash chunkSize seq corr) artifactHash chunkSize = none) ∧
    ∀ transferId artifactHash chunkSize artifactHash' chunkSize',
      registryTransferIdShapeError transferId artifactHash chunkSize = none →
      registryTransferIdShapeError transferId artifactHash' chunkSize' = none →
      artifactHash = artifactHash' ∧ chunkSize = chunkSize' := by
  constructor
  · intro artifactHash chunkSize seq corr hash size sequence correlation
    obtain ⟨printable, undotted, length⟩ := hex_of_shape hash
    obtain ⟨-, small⟩ := chunkSizeShapeError_eq_none.mp size
    have text := registryTransferId_toList artifactHash chunkSize seq corr
    generalize registryTransferId artifactHash chunkSize seq corr = transferId at text ⊢
    have joined := text
    simp only [List.intercalate, List.intersperse, List.flatten_cons, List.flatten_nil, List.append_nil,
      List.singleton_append] at joined
    have number (value : Nat) := printable_of_isDigit (isDigit_toDigits value)
    have visible : Printable transferId.toList := by
      simp only [joined, Printable, List.forall_mem_append, List.forall_mem_cons]
      exact ⟨by simp [registryTransferIdNamespace], by decide, printable, by decide, number _, by decide, number _, by decide, number _⟩
    have short : transferId.toList.length ≤ 123 := by
      have digits (value bound : Nat) (positive : 0 < bound) : value < 10 ^ bound → (Nat.toDigits 10 value).length ≤ bound :=
        (Nat.length_toDigits_le_iff (by decide) positive).mpr
      have sizeDigits := digits chunkSize 7 (by decide) (small.trans_lt (by decide))
      have seqDigits := digits seq 20 (by decide) (sequence.trans (by decide))
      have corrDigits := digits corr 20 (by decide) (correlation.trans (by decide))
      have space : registryTransferIdNamespace.toList.length = 8 := rfl
      simp only [joined, List.length_append, List.length_cons]
      omega
    refine ⟨?_, registryTransferIdShapeError_eq_none.mpr ⟨?_, hash, size, Nat.toDigits 10 seq, Nat.toDigits 10 corr, ?_⟩⟩
    · rw [utf8ByteSize_of_printable visible]
      exact short.trans (by decide)
    · exact chunkIdShapeError_of_printable visible (by simp [joined]) (short.trans (by decide))
    · refine ⟨?_, Nat.toDigits_ne_nil, Nat.toDigits_ne_nil, List.all_eq_true.mpr (isDigit_toDigits seq),
        List.all_eq_true.mpr (isDigit_toDigits corr)⟩
      have undecimal (value : Nat) : '.' ∉ Nat.toDigits 10 value := fun dot => absurd (isDigit_toDigits value _ dot) (by decide)
      rw [text, List.splitOn_intercalate _ _ (by simp)]
      simp only [List.forall_mem_cons]
      exact ⟨by decide, undotted, undecimal _, undecimal _, undecimal _, nofun⟩
  · intro transferId artifactHash chunkSize artifactHash' chunkSize' accepted accepted'
    obtain ⟨_, _, _, _, _, parts, _⟩ := registryTransferIdShapeError_eq_none.mp accepted
    obtain ⟨_, _, _, _, _, parts', _⟩ := registryTransferIdShapeError_eq_none.mp accepted'
    simp only [parts, List.cons.injEq, true_and] at parts'
    obtain ⟨owned, sized, _⟩ := parts'
    have same := congrArg (fun digits => Nat.ofDigitChars 10 digits 0) sized
    exact ⟨String.toList_inj.mp owned, by simpa using same⟩

namespace Sample

/-- The hash of no artifact in particular. -/
def zeros : String := String.ofList (List.replicate 64 '0')

/-- The first id for it with the smallest chunks. -/
theorem registry_transfer_ids_bind_zeros :
    (registryTransferId zeros 1024 1 1).utf8ByteSize ≤ maxTransferIdBytes ∧
      registryTransferIdShapeError (registryTransferId zeros 1024 1 1) zeros 1024 = none ∧
      ∀ artifactHash chunkSize, registryTransferIdShapeError (registryTransferId zeros 1024 1 1) artifactHash chunkSize = none →
        zeros = artifactHash ∧ 1024 = chunkSize := by
  obtain ⟨fits, accepted⟩ := registry_transfer_ids_bind.1 zeros 1024 1 1 (by decide +kernel) (by decide) (by decide) (by decide)
  exact ⟨fits, accepted, fun _ _ => registry_transfer_ids_bind.2 _ _ _ _ _ accepted⟩

end Sample

end Gawd.Transfer
