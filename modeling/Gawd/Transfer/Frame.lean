import Gawd.Transport.BulkRoutes
import Gawd.Transport.Framing

/-!
The binary frame of a chunk: the length of its header in four bytes, the JSON of the header, and the raw payload.
-/

namespace Gawd.Transfer

open Gawd.Logic Gawd.Transport

def maxBinaryFrameHeaderBytes : Nat := 1024 * 1024

/-- What `serde_json` writes for a header and reads back from it. -/
structure HeaderCodec (η : Type) where
  toVec : η → Except String (List UInt8)
  fromSlice : List UInt8 → Except String η
  reads_back : ∀ header bytes, toVec header = .ok bytes → fromSlice bytes = .ok header

inductive FrameError where
  | tooShort
  | headerTooLarge (len max : Nat)
  | truncated (needed actual : Nat)
  | frameTooLarge
  | headerEncode (error : String)
  | headerDecode (error : String)
deriving DecidableEq

/-- `usize::checked_add` -/
def checkedAdd (left right : Nat) : Option Nat :=
  if left + right < 2 ^ 64 then some (left + right) else none

/-- A slice of a byte string; there is none where the source would panic. -/
def slice (data : List UInt8) (start stop : Nat) : Option (List UInt8) :=
  if start ≤ stop ∧ stop ≤ data.length then some ((data.take stop).drop start) else none

section

variable {η : Type} (codec : HeaderCodec η)

def encodeBinaryFrame (header : η) (payload : List UInt8) : Except FrameError (List UInt8) := do
  let headerBytes ← mapError FrameError.headerEncode (codec.toVec header)
  reject (maxBinaryFrameHeaderBytes < headerBytes.length)
    (.headerTooLarge headerBytes.length maxBinaryFrameHeaderBytes)
  reject (2 ^ 32 ≤ headerBytes.length) .frameTooLarge
  let _ ← orError FrameError.frameTooLarge
    ((checkedAdd 4 headerBytes.length).bind fun length => checkedAdd length payload.length)
  return (toLeBytes headerBytes.length).reverse ++ headerBytes ++ payload

/-- Nothing where the source would panic. -/
def decodeBinaryFrame (data : List UInt8) : Option (Except FrameError (η × List UInt8)) :=
  if data.length < 4 then some (.error .tooShort)
  else do
    let lengthBytes ← [data[3]?, data[2]?, data[1]?, data[0]?].mapM id
    let headerLen := fromLeBytes lengthBytes
    if maxBinaryFrameHeaderBytes < headerLen then
      return .error (.headerTooLarge headerLen maxBinaryFrameHeaderBytes)
    match checkedAdd 4 headerLen with
    | none => return .error .frameTooLarge
    | some payloadOffset =>
      if data.length < payloadOffset then
        return .error (.truncated payloadOffset data.length)
      let headerBytes ← slice data 4 payloadOffset
      match codec.fromSlice headerBytes with
      | .error error => return .error (.headerDecode error)
      | .ok header =>
        let payload ← slice data payloadOffset data.length
        return .ok (header, payload)

/-- What is read behind four length bytes. No addition overflows and no slice is out of bounds. -/
theorem decodeBinaryFrame_cons (first second third fourth : UInt8) (rest : List UInt8) :
    decodeBinaryFrame codec (first :: second :: third :: fourth :: rest) =
      let headerLen := fromLeBytes [fourth, third, second, first]
      some (if maxBinaryFrameHeaderBytes < headerLen then .error (.headerTooLarge headerLen maxBinaryFrameHeaderBytes)
        else if rest.length < headerLen then .error (.truncated (4 + headerLen) (rest.length + 4))
        else (mapError FrameError.headerDecode (codec.fromSlice (rest.take headerLen))).map
          fun header => (header, rest.drop headerLen)) := by
  have taken (count : Nat) : (first :: second :: third :: fourth :: rest).take (4 + count) =
      first :: second :: third :: fourth :: rest.take count := by
    rw [Nat.add_comm]
    rfl
  simp only [decodeBinaryFrame, List.length_cons, Nat.not_lt.mpr (Nat.le_add_left 4 rest.length), reduceIte,
    List.getElem?_cons_succ, List.getElem?_cons_zero, List.mapM_cons, List.mapM_nil, id, Option.bind_eq_bind,
    Option.bind_some, Option.pure_def]
  generalize fromLeBytes [fourth, third, second, first] = headerLen
  split
  · rfl
  · rename_i small
    have fits : checkedAdd 4 headerLen = some (4 + headerLen) := if_pos (by simp only [maxBinaryFrameHeaderBytes] at small; omega)
    simp only [fits]
    by_cases short : rest.length < headerLen
    · rw [if_pos (by omega), if_pos short]
    · have header : slice (first :: second :: third :: fourth :: rest) 4 (4 + headerLen) = some (rest.take headerLen) := by
        rw [slice, if_pos (by simp only [List.length_cons]; omega), taken]
        rfl
      have payload : slice (first :: second :: third :: fourth :: rest) (4 + headerLen) (rest.length + 4) =
          some (rest.drop headerLen) := by
        rw [slice, if_pos (by simp only [List.length_cons]; omega), Nat.add_comm rest.length, taken, List.take_length, Nat.add_comm]
        rfl
      rw [if_neg (by omega), if_neg short, header]
      cases read : codec.fromSlice (rest.take headerLen) with
      | error error => simp [read, mapError, Except.map]
      | ok found => simp [read, payload, mapError, Except.map]

/-- The four length bytes of what they say. -/
theorem toLeBytes_fromLeBytes (first second third fourth : UInt8) :
    toLeBytes (fromLeBytes [first, second, third, fourth]) = [first, second, third, fourth] := by
  have := first.toNat_lt
  have := second.toNat_lt
  have := third.toNat_lt
  have := fourth.toNat_lt
  simp only [toLeBytes, fromLeBytes, List.cons.injEq, ← UInt8.toNat_inj, UInt8.toNat_ofNat', and_true]
  omega

/-- What is encoded is decoded. Every byte string is decoded or refused, and what is decoded is the declared header and
all that follows it. -/
theorem binary_frame_codec :
    (∀ header payload frame, encodeBinaryFrame codec header payload = .ok frame →
      decodeBinaryFrame codec frame = some (.ok (header, payload))) ∧
    ∀ data, ∃ outcome, decodeBinaryFrame codec data = some outcome ∧ outcome ≠ .error .frameTooLarge ∧
      ∀ header payload, outcome = .ok (header, payload) → ∃ headerBytes,
        data = (toLeBytes headerBytes.length).reverse ++ headerBytes ++ payload ∧
        headerBytes.length ≤ maxBinaryFrameHeaderBytes ∧ codec.fromSlice headerBytes = .ok header := by
  refine ⟨fun header payload frame encoded => ?_, fun data => ?_⟩
  · simp only [encodeBinaryFrame, bind_eq_ok, mapError_eq_ok, reject_eq_ok, pure_eq_ok] at encoded
    obtain ⟨headerBytes, written, _, bounded, _, small, _, _, rfl⟩ := encoded
    have declared := fromLeBytes_toLeBytes (Nat.not_le.mp small)
    simp only [toLeBytes] at declared
    simp only [toLeBytes, List.reverse_cons, List.reverse_nil, List.nil_append, List.cons_append]
    rw [decodeBinaryFrame_cons, declared]
    simp [bounded, codec.reads_back _ _ written, mapError, Except.map]
  · obtain _ | ⟨first, _ | ⟨second, _ | ⟨third, _ | ⟨fourth, rest⟩⟩⟩⟩ := data
    case cons.cons.cons.cons =>
      refine ⟨_, decodeBinaryFrame_cons codec first second third fourth rest, ?_⟩
      have bytes := toLeBytes_fromLeBytes fourth third second first
      revert bytes
      generalize fromLeBytes [fourth, third, second, first] = headerLen
      intro bytes
      split
      · simp
      split
      · simp
      · rename_i bounded whole
        cases read : codec.fromSlice (rest.take headerLen) with
        | error error => simp [mapError, Except.map]
        | ok found =>
          refine ⟨by simp [mapError, Except.map], ?_⟩
          rintro _ _ ⟨⟩
          have length : (rest.take headerLen).length = headerLen := List.length_take_of_le (Nat.not_lt.mp whole)
          refine ⟨rest.take headerLen, ?_, by rw [length]; exact Nat.not_lt.mp bounded, read⟩
          rw [length, bytes, List.append_assoc, List.take_append_drop]
          rfl
    all_goals exact ⟨_, rfl, by simp, by simp⟩

end

namespace Sample

/-- A header without a transfer. -/
def nameless : ChunkFrameHeader := ⟨gxChunkType, none, "", 0, none, ""⟩

/-- Its JSON. -/
def namelessJson : List UInt8 :=
  "\x7b\"type\":\"gx.chunk\",\"transfer_id\":\"\",\"chunk_index\":0,\"chunk_hash\":\"\"\x7d".toList.map fun c => .ofNat c.toNat

/-- The part of the header's codec that the sample needs. -/
def namelessCodec : HeaderCodec ChunkFrameHeader where
  toVec header := if header = nameless then .ok namelessJson else .error "unlisted"
  fromSlice bytes := if bytes = namelessJson then .ok nameless else .error "unlisted"
  reads_back header bytes written := by
    split at written
    · obtain rfl := Except.ok.inj written
      simp [*]
    · cases written

theorem binary_frame_codec_nameless : ∃ frame, encodeBinaryFrame namelessCodec nameless [7] = .ok frame ∧
    decodeBinaryFrame namelessCodec frame = some (.ok (nameless, [7])) :=
  ⟨(toLeBytes namelessJson.length).reverse ++ namelessJson ++ [7], by decide,
    (binary_frame_codec namelessCodec).1 _ _ _ (by decide)⟩

/-- A header that breaks the shape rules is decoded. -/
theorem nameless_decoded : decodeBinaryFrame namelessCodec ((toLeBytes namelessJson.length).reverse ++ namelessJson) = some (.ok (nameless, [])) ∧
    nameless.shapeError.isSome = true := by
  decide

end Sample

end Gawd.Transfer
