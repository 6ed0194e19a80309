import Gawd.Transport.Handshake
import Gawd.Wire.Address

/-!
Frames that arrive from a peer: how they are re-addressed for the local bus, and where the replies to them go.
-/

namespace Gawd.Transport

open Gawd.Wire

def kernelId : Nat := 0

/-- The trust and routing header of an envelope, without its causal links and stamp. -/
structure Header where
  sender : Address
  receiver : Address
  replyTo : Option Address
  seq : Nat
  sig : String
  corr : Option Nat
  commitment : Option String
  schema : String
  origin : Option NodeId
deriving DecidableEq

structure Envelope where
  header : Header
  payload : List UInt8
deriving DecidableEq

/-- The address that a reply goes to. -/
def Envelope.replyTarget (envelope : Envelope) : Address :=
  envelope.header.replyTo.getD envelope.header.sender

/-- What a creature hands to the bus. -/
structure Dispatch where
  receiver : Address
  replyTo : Option Address
  payload : List UInt8
  schema : String
  corr : Option Nat
  commitment : Option String
deriving DecidableEq

/-- The bus of the transport: its own creature, whether it may attest origins, and the roles that the host exposes. -/
structure Bus where
  me : Nat
  mayAttest : Bool
  remoteRoleTarget : String → Option Nat

/-- The envelope that the bus makes of a dispatch; sequence and signature are the bus's own. -/
def Bus.sealed (bus : Bus) (seq : Nat) (sig : String) (dispatch : Dispatch) (origin : Option NodeId) : Envelope where
  header :=
    { sender := .creature bus.me, receiver := dispatch.receiver, replyTo := dispatch.replyTo, seq, sig, corr := dispatch.corr,
      commitment := dispatch.commitment, schema := dispatch.schema, origin }
  payload := dispatch.payload

inductive OriginVerdict where
  | verified
  | unresolved
  | badSig
deriving DecidableEq

/-- What the transport does with a frame besides keeping its watermarks. -/
inductive Effect where
  | peerEvent (event : PeerEvent)
  | originEvent (origin : NodeId) (target : Nat) (corr : Option Nat) (verdict : OriginVerdict)
  | emit (dispatch : Dispatch) (origin : Option NodeId)
deriving DecidableEq

/-- What the delivery of frames reads and writes of the transport. -/
structure InboundState where
  selfNode : NodeId
  bus : Option Bus
  /-- The highest sequence that was seen of each sender. -/
  originSeq : NodeId × Nat → Option Nat

/-- A peer's own address, seen from here. -/
def rewriteInboundTarget (peer : NodeId) : Address → Address
  | .creature creature => .node peer.name creature
  | .realm realm target => .realm realm (rewriteInboundTarget peer target)
  | .omega realm target => .omega realm (rewriteInboundTarget peer target)
  | other => other

/-- Whether a sequence does not advance the watermark of its sender, and the watermarks after it. -/
def isReplayedSeq (state : InboundState) (peer : NodeId) (sender seq : Nat) : Bool × InboundState :=
  match state.originSeq (peer, sender) with
  | some last =>
    if seq ≤ last then (true, state)
    else (false, { state with originSeq := Function.update state.originSeq (peer, sender) (some seq) })
  | none => (false, { state with originSeq := Function.update state.originSeq (peer, sender) (some seq) })

/-- The creature that a frame is for, or what is published about its refusal. -/
def inboundTarget (state : InboundState) (bus : Bus) (peer : NodeId) (receiver : Address) : Except (List Effect) Nat :=
  match receiver with
  | .node node creature => if node = state.selfNode.name then .ok creature else .error []
  | .nodeRole node role =>
    if node = state.selfNode.name then
      if bus.mayAttest = false then .error [.peerEvent ⟨peer, "remote_role_non_attesting_dropped"⟩]
      else
        match bus.remoteRoleTarget role with
        | some creature => .ok creature
        | none => .error [.peerEvent ⟨peer, "remote_role_unexposed_dropped"⟩]
    else .error []
  | _ => .error []

/-- Deliver a frame from a peer on the local bus. `verify` checks the signature of the envelope as it came. -/
def deliverLocally (verify : String → Envelope → Bool) (state : InboundState) (envelope : Envelope) (peer : NodeId)
    (peerPubkey : String) : InboundState × List Effect :=
  match state.bus with
  | none => (state, [])
  | some bus =>
    match inboundTarget state bus peer envelope.header.receiver with
    | .error effects => (state, effects)
    | .ok target =>
      -- kernel control is local-only
      if target = kernelId then (state, [])
      else
        match envelope.header.sender with
        | .creature sender =>
          let dispatch : Dispatch :=
            { receiver := .creature target, replyTo := envelope.header.replyTo.map (rewriteInboundTarget peer),
              payload := envelope.payload, schema := envelope.header.schema, corr := envelope.header.corr,
              commitment := envelope.header.commitment }
          if bus.mayAttest = false then (state, [.emit dispatch none])
          else
            match isReplayedSeq state peer sender envelope.header.seq with
            | (true, after) => (after, [.peerEvent ⟨peer, "frame_replay_dropped"⟩])
            | (false, after) =>
              let verdict : OriginVerdict :=
                if peerPubkey.isEmpty then .unresolved
                else if verify peerPubkey envelope then .verified
                else .badSig
              (after, [.originEvent peer target envelope.header.corr verdict, .emit dispatch (some peer)])
        | _ => (state, [.peerEvent ⟨peer, "frame_bad_from_dropped"⟩])

/-- The bindings that the router resolves addresses with. -/
structure Router where
  roles : String → Option Nat
  topics : String → List Nat

/-- The creatures whose inboxes an address is delivered to. -/
def Router.recipients (router : Router) : Address → List Nat
  | .creature creature => [creature]
  | .kernel => [kernelId]
  | .topic topic => router.topics topic
  | .role role => (router.roles role).toList
  | .intent _ _ => (router.roles "distributor").toList
  | .node _ _ | .nodeRole _ _ => (router.roles "transport").toList
  | .realm _ _ => (router.roles "realm-gateway").toList
  | .omega _ _ => (router.roles "omega-gateway").toList

/-- The address inside its federation wrappers. -/
def unwrapped : Address → Address
  | .realm _ target => unwrapped target
  | .omega _ target => unwrapped target
  | other => other

/-- The address names something of the host that resolves it: its kernel, a role, a topic or an intent. -/
def HostBound : Address → Prop
  | .kernel | .role _ | .topic _ | .intent _ _ => True
  | _ => False

instance : DecidablePred HostBound := fun address => by
  cases address <;> unfold HostBound <;> infer_instance

@[simp] theorem unwrapped_rewriteInboundTarget (peer : NodeId) (address : Address) :
    unwrapped (rewriteInboundTarget peer address) = rewriteInboundTarget peer (unwrapped address) := by
  induction address with
  | realm realm target ih => exact ih
  | omega realm target ih => exact ih
  | _ => rfl

/-- What is inside the wrappers is no wrapper. -/
inductive Bare : Address → Prop
  | creature (creature : Nat) : Bare (.creature creature)
  | node (node : String) (creature : Nat) : Bare (.node node creature)
  | nodeRole (node role : String) : Bare (.nodeRole node role)
  | hostBound {address : Address} (bound : HostBound address) : Bare address

theorem bare_unwrapped (address : Address) : Bare (unwrapped address) := by
  induction address with
  | realm _ _ ih => exact ih
  | omega _ _ ih => exact ih
  | creature creature => exact .creature creature
  | node node creature => exact .node node creature
  | nodeRole node role => exact .nodeRole node role
  | kernel | topic | role | intent => exact .hostBound trivial

/-- A host-bound address is taken over as it is. -/
theorem rewriteInboundTarget_of_hostBound (peer : NodeId) (bound : HostBound address) :
    rewriteInboundTarget peer address = address := by
  cases address <;> first | rfl | exact bound.elim

/-- What keeps a reply from being delivered here by the peer's choice. `reply` is the reply address inside its wrappers. -/
structure AnsweredAway (router : Router) (bus : Bus) (peer : NodeId) (header : Header) (reply : Address) : Prop where
  /-- The reply is not for the kernel, a role, a topic or an intent of this host. -/
  away : ¬ HostBound reply
  /-- It is for no creature of this host but the transport. -/
  creature : ∀ creature, reply = .creature creature → creature = bus.me
  /-- A creature of the sender is a creature of the peer. -/
  rooted : ∀ address creature, header.replyTo = some address → unwrapped address = .creature creature →
    reply = .node peer.name creature
  /-- The router delivers it to the transport. -/
  routed : ∀ creature ∈ router.recipients reply, creature = bus.me ∨ router.roles "transport" = some creature
  /-- So no reply reaches the control inbox. -/
  uncontrolled : bus.me ≠ kernelId → router.roles "transport" ≠ some kernelId → kernelId ∉ router.recipients reply

/-- An address that is for the transport itself or for another node is answered there. -/
theorem answeredAway_of_rooted {bus : Bus} {peer : NodeId} {header : Header} (bare : Bare reply)
    (away : ¬ HostBound reply) (creature : ∀ creature, reply = .creature creature → creature = bus.me)
    (rooted : ∀ address creature, header.replyTo = some address → unwrapped address = .creature creature →
      reply = .node peer.name creature) : AnsweredAway router bus peer header reply := by
  have routed : ∀ creature ∈ router.recipients reply, creature = bus.me ∨ router.roles "transport" = some creature := by
    intro recipient receives
    cases bare with
    | creature target =>
      rw [List.mem_singleton.mp receives]
      exact .inl (creature target rfl)
    | node | nodeRole => exact .inr (Option.mem_toList.mp receives)
    | hostBound bound => exact absurd bound away
  exact ⟨away, creature, rooted, routed, fun notMe unbound receives => (routed kernelId receives).elim (notMe ·.symm) unbound⟩

section

variable {verify : String → Envelope → Bool} {state : InboundState} {bus : Bus} {envelope : Envelope} {peer : NodeId}
  {peerPubkey : String} {dispatch : Dispatch} {origin : Option NodeId}

/-- A refused target emits nothing. -/
theorem not_emit_of_refused (refused : inboundTarget state bus peer receiver = .error effects) :
    .emit dispatch origin ∉ effects := by
  unfold inboundTarget at refused
  split at refused
  · split at refused <;> cases refused
    exact List.not_mem_nil
  · split at refused
    · split at refused
      · cases refused
        simp
      · split at refused <;> cases refused
        simp
    · cases refused
      exact List.not_mem_nil
  · cases refused
    exact List.not_mem_nil

/-- What is emitted carries the rewritten reply address of its frame. -/
theorem replyTo_of_emit (emits : .emit dispatch origin ∈ (deliverLocally verify state envelope peer peerPubkey).2) :
    dispatch.replyTo = envelope.header.replyTo.map (rewriteInboundTarget peer) := by
  unfold deliverLocally at emits
  split at emits
  · exact absurd emits List.not_mem_nil
  split at emits
  case h_1 refused => exact absurd emits (not_emit_of_refused refused)
  split at emits
  · exact absurd emits List.not_mem_nil
  split at emits
  · -- both branches that emit build one and the same dispatch
    dsimp only at emits
    split at emits
    · cases List.mem_singleton.mp emits
      rfl
    · split at emits
      · simp at emits
      · simp only [List.mem_cons, List.not_mem_nil, or_false, reduceCtorEq, false_or] at emits
        cases emits
        rfl
  · simp at emits

/-- For every frame that is delivered, and every router: the reply to it leaves this host unless the address that the peer wrote
names, inside its wrappers, the kernel, a role, a topic or an intent; and then it does not. -/
theorem reply_away_iff (router : Router) (seq : Nat) (sig : String)
    (emits : .emit dispatch origin ∈ (deliverLocally verify state envelope peer peerPubkey).2) :
    AnsweredAway router bus peer envelope.header (unwrapped (bus.sealed seq sig dispatch origin).replyTarget) ↔
      ∀ address, envelope.header.replyTo = some address → ¬ HostBound (unwrapped address) := by
  have written : (bus.sealed seq sig dispatch origin).replyTarget =
      (envelope.header.replyTo.map (rewriteInboundTarget peer)).getD (.creature bus.me) := by
    rw [← replyTo_of_emit emits]
    rfl
  rw [written]
  constructor
  · intro answered address wrote bound
    apply answered.away
    rw [wrote, Option.map_some, Option.getD_some, unwrapped_rewriteInboundTarget,
      rewriteInboundTarget_of_hostBound peer bound]
    exact bound
  · intro unbound
    cases wrote : envelope.header.replyTo with
    | none => exact answeredAway_of_rooted (.creature bus.me) id (fun _ same => by cases same; rfl) (by simp [wrote])
    | some address =>
      have away := unbound address wrote
      rw [Option.map_some, Option.getD_some, unwrapped_rewriteInboundTarget]
      have rooted : ∀ reply creature, envelope.header.replyTo = some reply → unwrapped reply = .creature creature →
          rewriteInboundTarget peer (unwrapped address) = .node peer.name creature := by
        rintro reply creature again core
        cases Option.some.inj (wrote.symm.trans again)
        rw [core, rewriteInboundTarget]
      have bare := bare_unwrapped address
      generalize unwrapped address = core at away bare rooted ⊢
      cases bare with
      | creature creature | node node creature => exact answeredAway_of_rooted (.node _ _) id nofun rooted
      | nodeRole node role => exact answeredAway_of_rooted (.nodeRole _ _) id nofun rooted
      | hostBound bound => exact absurd bound away

end

namespace Sample

/-- An attesting transport with creature 4 on the node `a`. -/
def bus : Bus := ⟨4, true, fun _ => none⟩

def router : Router := ⟨fun role => if role = "transport" then some 4 else none, fun _ => []⟩

def listening : InboundState := ⟨⟨"a"⟩, some bus, fun _ => none⟩

/-- A frame of creature 9 on the peer for creature 7 here. -/
def asking (replyTo : Option Address) : Envelope :=
  ⟨⟨.creature 9, .node "a" 7, replyTo, 1, "", some 5, none, "ask", none⟩, [1]⟩

/-- The dispatch that the frame is delivered as. -/
def asked (replyTo : Option Address) : Dispatch := ⟨.creature 7, replyTo, [1], "ask", some 5, none⟩

end Sample

open Sample in
/-- A wrapped creature of the peer is answered at the peer. -/
theorem reply_away_iff_wrapped :
    AnsweredAway router bus ⟨"b"⟩ (asking (some (.realm "r" (.creature 9)))).header
      (unwrapped (bus.sealed 0 "" (asked (some (.realm "r" (.node "b" 9)))) (some ⟨"b"⟩)).replyTarget) :=
  have emits : .emit (asked (some (.realm "r" (.node "b" 9)))) (some ⟨"b"⟩) ∈
      (deliverLocally (fun _ _ => true) listening (asking (some (.realm "r" (.creature 9)))) ⟨"b"⟩ "key").2 := by
    decide
  (reply_away_iff router 0 "" emits).mpr fun _ wrote bound => by
    cases wrote
    exact bound

open Sample in
/-- The reply address `Kernel` is taken over as it is, and the reply to the frame is put into the control inbox. -/
theorem kernel_reply_delivered :
    .emit (asked (some .kernel)) (some ⟨"b"⟩) ∈
      (deliverLocally (fun _ _ => true) listening (asking (some .kernel)) ⟨"b"⟩ "key").2 ∧
    router.recipients (bus.sealed 0 "" (asked (some .kernel)) (some ⟨"b"⟩)).replyTarget = [kernelId] ∧
    ¬ AnsweredAway router bus ⟨"b"⟩ (asking (some .kernel)).header
      (unwrapped (bus.sealed 0 "" (asked (some .kernel)) (some ⟨"b"⟩)).replyTarget) :=
  ⟨by decide, rfl, fun answered => answered.away trivial⟩

end Gawd.Transport
