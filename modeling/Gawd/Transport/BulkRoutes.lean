import Gawd.Transport.Inbound

/-!
The lane for raw chunks of bulk transfers: the sender binds a route ahead of every chunk, and the receiver retires it.
-/

namespace Gawd.Transport

open Gawd.Wire

def gxChunkSchema : String := "transport.gx.chunk"

def gxChunkType : String := "gx.chunk"

def maxTransferIdBytes : Nat := 128

def maxRequestIdBytes : Nat := 256

def sha256HexBytes : Nat := 64

def maxGxRoutesPerPeer : Nat := 4096

def chunkIdShapeError (field value : String) (maxBytes : Nat) : Option String :=
  if value.isEmpty then some s!"{field} must not be empty"
  else if value.utf8ByteSize > maxBytes then some s!"{field} is {value.utf8ByteSize} bytes, exceeds {maxBytes} byte limit"
  else if value.toList.any fun c => c.toNat = 0 then some s!"{field} contains NUL byte"
  else if ! value.toList.all fun c => 33 ≤ c.toNat && c.toNat ≤ 126 then
    some s!"{field} must be printable ASCII without whitespace"
  else none

def sha256HexShapeError (field value : String) : Option String :=
  if value.utf8ByteSize ≠ sha256HexBytes then some s!"{field} must be {sha256HexBytes} lowercase hex bytes"
  else if ! value.toList.all fun c => c.isDigit || ('a' ≤ c && c ≤ 'f') then some s!"{field} must be lowercase hex"
  else none

structure ChunkFrameHeader where
  messageType : String
  requestId : Option String
  transferId : String
  chunkIndex : Nat
  totalChunks : Option Nat
  chunkHash : String
deriving DecidableEq

/-- What is wrong with the chunk's place among the declared ones. -/
def ChunkFrameHeader.countError (header : ChunkFrameHeader) : Option String :=
  match header.totalChunks with
  | none => none
  | some totalChunks =>
    if totalChunks = 0 then some "total_chunks must be greater than zero"
    else if totalChunks ≤ header.chunkIndex then
      some s!"chunk_index {header.chunkIndex} out of range for total_chunks {totalChunks}"
    else none

def ChunkFrameHeader.shapeError (header : ChunkFrameHeader) : Option String :=
  if header.messageType ≠ gxChunkType then some s!"GX chunk frame type must be `{gxChunkType}`"
  else
    chunkIdShapeError "transfer_id" header.transferId maxTransferIdBytes
      <|> (header.requestId.bind fun requestId => chunkIdShapeError "request_id" requestId maxRequestIdBytes)
      <|> sha256HexShapeError "chunk_hash" header.chunkHash
      <|> header.countError

structure GxRoute where
  target : Nat
  schema : String
  corr : Option Nat
  totalChunks : Option Nat
deriving DecidableEq

structure GxRouteBind extends GxRoute where
  transferId : String
deriving DecidableEq

def GxRouteBind.shapeError (bind : GxRouteBind) : Option String :=
  chunkIdShapeError "transfer_id" bind.transferId maxTransferIdBytes
    <|> (if bind.target = kernelId then some "GX chunks may not target the reserved local KERNEL_ID"
      else if bind.schema ≠ gxChunkSchema then some s!"GX bind schema must be `{gxChunkSchema}`"
      else if bind.totalChunks = some 0 then some "GX bind total_chunks must be greater than zero"
      else none)

inductive GxFrame where
  | bind (bind : GxRouteBind)
  | chunk (header : ChunkFrameHeader) (payload : List UInt8)
deriving DecidableEq

/-- What becomes of a chunk that a local creature sends. -/
inductive GxOutbound where
  | ignored
  | dropped (event : PeerEvent)
  | queued (peer : NodeId) (frames : List GxFrame)
deriving DecidableEq

/-- Send a chunk: its bind and the chunk itself, in one batch. `decode` reads the payload, and `queue` is what the peer's queue
answers to a batch. -/
def handleGxChunkOutbound (decode : List UInt8 → Option (ChunkFrameHeader × List UInt8))
    (queue : NodeId → List GxFrame → Option String) (envelope : Envelope) : GxOutbound :=
  match envelope.header.receiver with
  | .node peer target =>
    if target = kernelId then .dropped ⟨⟨peer⟩, "peer_send_dropped:gx_kernel_target"⟩
    else
      match decode envelope.payload with
      | some (header, payload) =>
        if header.shapeError.isSome then .dropped ⟨⟨peer⟩, "peer_send_dropped:malformed_gx_chunk"⟩
        else
          let frames : List GxFrame :=
            [.bind ⟨⟨target, gxChunkSchema, envelope.header.corr, header.totalChunks⟩, header.transferId⟩, .chunk header payload]
          match queue ⟨peer⟩ frames with
          | some event => .dropped ⟨⟨peer⟩, event⟩
          | none => .queued ⟨peer⟩ frames
      | none => .dropped ⟨⟨peer⟩, "peer_send_dropped:malformed_gx_chunk"⟩
  | _ => .ignored

/-- The routes by peer and transfer. -/
abbrev GxRoutes := AList fun _ : NodeId × String => GxRoute

/-- How many routes a peer has. -/
def GxRoutes.count (routes : GxRoutes) (peer : NodeId) : Nat :=
  (routes.keys.filter fun key => key.1 = peer).length

def installGxRoute (routes : GxRoutes) (peer : NodeId) (bind : GxRouteBind) : GxRoutes × List Effect :=
  if bind.shapeError.isSome then (routes, [.peerEvent ⟨peer, "gx_route_bind_dropped:malformed"⟩])
  else
    match routes.lookup (peer, bind.transferId) with
    | some existing =>
      if existing ≠ bind.toGxRoute then (routes, [.peerEvent ⟨peer, "gx_route_bind_dropped:conflict"⟩]) else (routes, [])
    | none =>
      if maxGxRoutesPerPeer ≤ routes.count peer then (routes, [.peerEvent ⟨peer, "gx_route_bind_dropped:capacity"⟩])
      else (routes.insert (peer, bind.transferId) bind.toGxRoute, [])

/-- The part of the node that a chunk is delivered with: the hash of a payload, the frame that is written for a creature, and
whether the transport is bound to a bus. -/
structure Delivery where
  hashBytes : List UInt8 → String
  encodeBinaryFrame : ChunkFrameHeader → List UInt8 → Option (List UInt8)
  bound : Bool

def deliverGxChunkLocally (delivery : Delivery) (routes : GxRoutes) (peer : NodeId) (header : ChunkFrameHeader)
    (payload : List UInt8) : GxRoutes × List Effect :=
  let key := (peer, header.transferId)
  match routes.lookup key with
  | none => (routes, [.peerEvent ⟨peer, "gx_chunk_dropped:no_route"⟩])
  | some route =>
    if route.totalChunks.isSome ∧ header.totalChunks ≠ route.totalChunks then
      (routes.erase key, [.peerEvent ⟨peer, "gx_chunk_dropped:route_mismatch"⟩])
    else
      let retireRoute := route.totalChunks.any fun totalChunks => header.chunkIndex = totalChunks - 1
      let after := if retireRoute then routes.erase key else routes
      if delivery.hashBytes payload ≠ header.chunkHash then (after, [.peerEvent ⟨peer, "gx_chunk_dropped:hash_mismatch"⟩])
      else
        match delivery.encodeBinaryFrame header payload with
        | none => (after, [.peerEvent ⟨peer, "gx_chunk_dropped:frame_encode_failed"⟩])
        | some body =>
          let dispatch : Dispatch :=
            { receiver := .creature route.target, replyTo := none, payload := body, schema := route.schema, corr := route.corr,
              commitment := none }
          (after, if delivery.bound then [.emit dispatch none] else [])

/-- The reader takes a frame; a chunk with a malformed header is no frame. -/
def receiveGx (delivery : Delivery) (peer : NodeId) (routes : GxRoutes) : GxFrame → GxRoutes × List Effect
  | .bind bind => installGxRoute routes peer bind
  | .chunk header payload =>
    if header.shapeError.isSome then (routes, []) else deliverGxChunkLocally delivery routes peer header payload

/-- A receiver's routes, with the chunks that found one and what it did. -/
structure Lane where
  routes : GxRoutes
  routed : List ChunkFrameHeader
  effects : List Effect

/-- The chunk that finds a route, if the frame is one. -/
def routedBy (routes : GxRoutes) (peer : NodeId) : GxFrame → List ChunkFrameHeader
  | .bind _ => []
  | .chunk header _ => if header.shapeError = none ∧ (peer, header.transferId) ∈ routes then [header] else []

def Lane.receive (delivery : Delivery) (peer : NodeId) (lane : Lane) (frame : GxFrame) : Lane where
  routes := (receiveGx delivery peer lane.routes frame).1
  routed := lane.routed ++ routedBy lane.routes peer frame
  effects := lane.effects ++ (receiveGx delivery peer lane.routes frame).2

/-- The frames that an envelope puts on the link to a node. -/
def framesTo (decode : List UInt8 → Option (ChunkFrameHeader × List UInt8)) (queue : NodeId → List GxFrame → Option String)
    (node : NodeId) (envelope : Envelope) : List GxFrame :=
  match handleGxChunkOutbound decode queue envelope with
  | .queued peer frames => if peer = node then frames else []
  | _ => []

/-- The last chunk of a transfer that found its route. -/
def Lane.lastRouted (lane : Lane) (transferId : String) : Option ChunkFrameHeader :=
  (lane.routed.filter fun header => header.transferId = transferId).getLast?

section

variable {decode : List UInt8 → Option (ChunkFrameHeader × List UInt8)} {queue : NodeId → List GxFrame → Option String}
  {delivery : Delivery} {peer node : NodeId} {routes : GxRoutes} {lane : Lane} {totals : String → Nat}

/-- A bind changes nothing or installs its route where none was. -/
theorem installGxRoute_cases (routes : GxRoutes) (peer : NodeId) (bind : GxRouteBind) :
    (installGxRoute routes peer bind).1 = routes ∨
      routes.lookup (peer, bind.transferId) = none ∧
        (installGxRoute routes peer bind).1 = routes.insert (peer, bind.transferId) bind.toGxRoute := by
  unfold installGxRoute
  split
  · exact .inl rfl
  · split
    · split <;> exact .inl rfl
    · rename_i absent
      split
      · exact .inl rfl
      · exact .inr ⟨absent, rfl⟩

theorem deliverGxChunkLocally_absent (absent : routes.lookup (peer, header.transferId) = none) :
    (deliverGxChunkLocally delivery routes peer header payload).1 = routes := by
  simp only [deliverGxChunkLocally, absent]

/-- A chunk of the declared count retires its route if it is the final one. -/
theorem deliverGxChunkLocally_present (present : routes.lookup (peer, header.transferId) = some route)
    (counted : route.totalChunks = some total) (declared : header.totalChunks = some total) :
    (deliverGxChunkLocally delivery routes peer header payload).1 =
      if header.chunkIndex = total - 1 then routes.erase (peer, header.transferId) else routes := by
  simp only [deliverGxChunkLocally, present, counted, declared, ne_eq, not_true, and_false, reduceIte, Option.any_some,
    decide_eq_true_eq]
  split
  · rfl
  · split <;> rfl

variable (decode queue node) in
/-- What an envelope puts on the link: nothing, or a bind and a well-formed chunk of one transfer. -/
theorem framesTo_cases (envelope : Envelope) : framesTo decode queue node envelope = [] ∨
      ∃ bind header payload, framesTo decode queue node envelope = [.bind bind, .chunk header payload] ∧
        decode envelope.payload = some (header, payload) ∧ header.shapeError = none ∧ bind.transferId = header.transferId ∧
        bind.totalChunks = header.totalChunks := by
  unfold framesTo handleGxChunkOutbound
  split
  · rename_i sent
    split
    · split at sent
      · split at sent
        · cases sent
        · split at sent
          · rename_i header payload decoded
            split at sent
            · cases sent
            · rename_i wellFormed
              dsimp only at sent
              split at sent <;> cases sent
              exact .inr ⟨_, header, payload, rfl, decoded, by simpa using wellFormed, rfl, rfl⟩
          · cases sent
      · cases sent
    · exact .inl rfl
  · exact .inl rfl

/-- At the end of a batch: routes have the declared count of their transfer, and a transfer has a route exactly if its last routed
chunk was not the final one. -/
structure Lane.Kept (totals : String → Nat) (peer : NodeId) (lane : Lane) : Prop where
  counted : ∀ transferId route, lane.routes.lookup (peer, transferId) = some route → route.totalChunks = some (totals transferId)
  retired : ∀ transferId, lane.routes.lookup (peer, transferId) = none ↔
    ∀ header, lane.lastRouted transferId = some header → header.chunkIndex = totals transferId - 1

theorem lastRouted_append (header : ChunkFrameHeader) (effects : List Effect) (transferId : String) :
    Lane.lastRouted ⟨routes, lane.routed ++ [header], effects⟩ transferId =
      if header.transferId = transferId then some header else lane.lastRouted transferId := by
  simp only [Lane.lastRouted, List.filter_append]
  split
  · rename_i same
    simp [same]
  · rename_i differs
    simp [differs]

/-- A bind alone: counts stay right, and other transfers keep their routes. -/
theorem Lane.Kept.bind (kept : lane.Kept totals peer) (bind : GxRouteBind)
    (declared : bind.totalChunks = some (totals bind.transferId)) :
    (∀ transferId route, (installGxRoute lane.routes peer bind).1.lookup (peer, transferId) = some route →
      route.totalChunks = some (totals transferId)) ∧
    (∀ transferId, transferId ≠ bind.transferId →
      (installGxRoute lane.routes peer bind).1.lookup (peer, transferId) = lane.routes.lookup (peer, transferId)) ∧
    ((installGxRoute lane.routes peer bind).1.lookup (peer, bind.transferId) = none →
      (installGxRoute lane.routes peer bind).1 = lane.routes) := by
  rcases installGxRoute_cases lane.routes peer bind with same | ⟨_, installed⟩
  · rw [same]
    exact ⟨kept.counted, fun _ _ => rfl, fun _ => rfl⟩
  · rw [installed]
    have others (transferId : String) (differs : transferId ≠ bind.transferId) :
        (lane.routes.insert (peer, bind.transferId) bind.toGxRoute).lookup (peer, transferId) =
          lane.routes.lookup (peer, transferId) :=
      AList.lookup_insert_ne (by simpa using differs)
    refine ⟨fun transferId route held => ?_, others, fun absent => ?_⟩
    · by_cases own : transferId = bind.transferId
      · subst own
        rw [AList.lookup_insert] at held
        cases held
        exact declared
      · rw [others transferId own] at held
        exact kept.counted transferId route held
    · rw [AList.lookup_insert] at absent
      cases absent

/-- One batch: the bind, then its chunk. -/
theorem Lane.Kept.batch (kept : lane.Kept totals peer) {bind : GxRouteBind} {header : ChunkFrameHeader}
    (wellFormed : header.shapeError = none) (same : bind.transferId = header.transferId)
    (sameTotal : bind.totalChunks = header.totalChunks) (declared : header.totalChunks = some (totals header.transferId)) :
    ((lane.receive delivery peer (.bind bind)).receive delivery peer (.chunk header payload)).Kept totals peer := by
  obtain ⟨counted, others, unbound⟩ := kept.bind bind (by rw [sameTotal, declared, same])
  rw [same] at others unbound
  have taken : receiveGx delivery peer (installGxRoute lane.routes peer bind).1 (.chunk header payload) =
      deliverGxChunkLocally delivery (installGxRoute lane.routes peer bind).1 peer header payload := by
    simp [receiveGx, wellFormed]
  simp only [Lane.receive, receiveGx.eq_1, taken, routedBy, wellFormed, true_and, List.append_nil]
  generalize (installGxRoute lane.routes peer bind).1 = bound at counted others unbound ⊢
  cases found : bound.lookup (peer, header.transferId) with
  | none =>
    -- the bind was refused, so nothing has changed
    have absent : (peer, header.transferId) ∉ bound := AList.lookup_eq_none.mp found
    rw [deliverGxChunkLocally_absent found, if_neg absent, List.append_nil, unbound found]
    exact ⟨kept.counted, kept.retired⟩
  | some route =>
    have present : (peer, header.transferId) ∈ bound := AList.lookup_isSome.mp (by rw [found]; rfl)
    rw [deliverGxChunkLocally_present found (counted _ _ found) declared, if_pos present]
    have left (transferId : String) :
        (if header.chunkIndex = totals header.transferId - 1 then bound.erase (peer, header.transferId) else bound).lookup
          (peer, transferId) =
        if transferId = header.transferId ∧ header.chunkIndex = totals header.transferId - 1 then none
          else bound.lookup (peer, transferId) := by
      by_cases final : header.chunkIndex = totals header.transferId - 1
      · by_cases own : transferId = header.transferId
        · rw [if_pos final, if_pos ⟨own, final⟩, own, AList.lookup_erase]
        · rw [if_pos final, if_neg (fun both => own both.1), AList.lookup_erase_ne (by simpa using own)]
      · rw [if_neg final, if_neg (fun both => final both.2)]
    constructor
    · intro transferId route held
      rw [left] at held
      split at held
      · cases held
      · exact counted transferId route held
    · intro transferId
      rw [lastRouted_append, left]
      by_cases own : transferId = header.transferId
      · subst own
        simp [found]
      · rw [if_neg (fun both => own both.1), if_neg (Ne.symm own), others transferId own]
        exact kept.retired transferId

variable (queue node delivery) in
/-- All batches of a run. -/
theorem Lane.Kept.run (kept : lane.Kept totals peer) (sends : List Envelope)
    (counted : ∀ envelope ∈ sends, ∀ header payload, decode envelope.payload = some (header, payload) →
      header.totalChunks = some (totals header.transferId)) :
    ((sends.flatMap (framesTo decode queue node)).foldl (Lane.receive delivery peer) lane).Kept totals peer := by
  induction sends generalizing lane with
  | nil => exact kept
  | cons envelope rest ih =>
    have later := fun other among => counted other (List.mem_cons_of_mem envelope among)
    rw [List.flatMap_cons, List.foldl_append]
    rcases framesTo_cases decode queue node envelope with
      none | ⟨bind, header, payload, frames, decoded, wellFormed, same, sameTotal⟩
    · rw [none]
      exact ih kept later
    · rw [frames]
      have declared := counted envelope List.mem_cons_self header payload decoded
      exact ih (kept.batch wellFormed same sameTotal declared) later

/-- For every sequence of counted chunks that a peer sends, in whatever order and however often, and for every transfer: once all
frames are processed its route is gone exactly if the last of its chunks that found the route was the final one. So if this holds
of every transfer the peer has no route. -/
theorem route_retired_iff (totals : String → Nat) (sends : List Envelope)
    (counted : ∀ envelope ∈ sends, ∀ header payload, decode envelope.payload = some (header, payload) →
      header.totalChunks = some (totals header.transferId))
    (idle : ∀ transferId, lane.routes.lookup (peer, transferId) = none) (unrouted : lane.routed = [])
    (done : (sends.flatMap (framesTo decode queue node)).foldl (Lane.receive delivery peer) lane = after) :
    (∀ transferId, after.routes.lookup (peer, transferId) = none ↔
      ∀ header, after.lastRouted transferId = some header → header.chunkIndex = totals transferId - 1) ∧
    ((∀ transferId header, after.lastRouted transferId = some header → header.chunkIndex = totals transferId - 1) →
      after.routes.count peer = 0) := by
  have kept : lane.Kept totals peer := by
    refine ⟨fun transferId route held => ?_, fun transferId => iff_of_true (idle transferId) ?_⟩
    · rw [idle transferId] at held
      cases held
    · simp [Lane.lastRouted, unrouted]
  have final := kept.run queue delivery node sends counted
  rw [done] at final
  refine ⟨final.retired, fun all => ?_⟩
  rw [GxRoutes.count, List.length_eq_zero_iff, List.filter_eq_nil_iff]
  rintro ⟨owner, transferId⟩ listed own
  simp only [decide_eq_true_eq] at own
  subst own
  exact AList.lookup_eq_none.mp ((final.retired transferId).mpr (all transferId)) listed

end

namespace Sample

def chunkHash : String := String.ofList (List.replicate sha256HexBytes '0')

/-- Chunks of one transfer in two parts, named by their index. -/
def decodePart (payload : List UInt8) : Option (ChunkFrameHeader × List UInt8) :=
  payload.head?.map fun index => (⟨gxChunkType, none, "t", index.toNat, some 2, chunkHash⟩, payload)

def part (index : UInt8) : Envelope :=
  ⟨⟨.creature 9, .node "a" 7, none, 1, "", some 5, none, gxChunkSchema, none⟩, [index]⟩

def delivery : Delivery := ⟨fun _ => chunkHash, fun _ payload => some payload, true⟩

/-- What the node `a` has done when all frames of its peer `b` are processed. -/
def received (parts : List UInt8) : Lane :=
  ((parts.map part).flatMap (framesTo decodePart (fun _ _ => none) ⟨"a"⟩)).foldl (Lane.receive delivery ⟨"b"⟩) ⟨∅, [], []⟩

theorem parts_counted (parts : List UInt8) : ∀ envelope ∈ parts.map part, ∀ header payload,
    decodePart envelope.payload = some (header, payload) → header.totalChunks = some 2 := by
  intro envelope among header payload decoded
  obtain ⟨index, _, rfl⟩ := List.mem_map.mp among
  cases decoded
  rfl

end Sample

open Sample in
/-- The parts in order, with one of them sent again. -/
theorem route_retired_iff_ordered : (Sample.received [0, 0, 1]).routes.lookup (⟨"b"⟩, "t") = none := by
  have last : (Sample.received [0, 0, 1]).lastRouted "t" = some ⟨gxChunkType, none, "t", 1, some 2, chunkHash⟩ := by decide
  refine ((route_retired_iff (fun _ => 2) _ (parts_counted [0, 0, 1]) (fun _ => rfl) rfl rfl).1 "t").mpr fun header found => ?_
  cases last.symm.trans found
  rfl

open Sample in
/-- The final part first: both parts are delivered, and the route is still there. -/
theorem early_final_part_keeps_route : (Sample.received [1, 0]).effects.map (fun effect => match effect with
      | .emit dispatch _ => some dispatch.payload
      | _ => none) = [some [1], some [0]] ∧
    ((Sample.received [1, 0]).routes.lookup (⟨"b"⟩, "t")).isSome := by
  decide

end Gawd.Transport
