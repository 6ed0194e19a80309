import Gawd.Transport.Handshake

/-!
The cluster membership of `transport-tcp`: its member table, the allowlist of the inbound handshake, the dialers, and the control
operations and gossip that change them.
-/

namespace Gawd.Transport

def maxMemberNodeIdBytes : Nat := 256

def maxMemberAddrBytes : Nat := 512

def maxGossipMembers : Nat := 1024

def defaultMaxMembers : Nat := maxGossipMembers - 1

/-- The value of a hexadecimal digit in either case. -/
def hexNibble (digit : Char) : Option Nat :=
  if '0' ≤ digit ∧ digit ≤ '9' then some (digit.toNat - '0'.toNat)
  else if 'a' ≤ digit ∧ digit ≤ 'f' then some (digit.toNat - 'a'.toNat + 10)
  else if 'A' ≤ digit ∧ digit ≤ 'F' then some (digit.toNat - 'A'.toNat + 10)
  else none

/-- Bytes from pairs of digits. -/
def hexDecode : List Char → Option (List UInt8)
  | [] => some []
  | [_] => none
  | high :: low :: rest => do
    let high ← hexNibble high
    let low ← hexNibble low
    let rest ← hexDecode rest
    return UInt8.ofNat (high * 16 + low) :: rest

/-- The key that a hexadecimal text in either case stands for. -/
def canonicalPeerPubkey (pubkeyHex : String) : Option PublicKey := do
  let bytes ← hexDecode pubkeyHex.toList
  if sized : bytes.length = pubkeyBytes then some ⟨bytes.toArray, by simpa using sized⟩ else none

def validateClusterNodeId (nodeId : NodeId) : Option String :=
  if nodeId.name.isEmpty then some "empty node id"
  else if nodeId.name.utf8ByteSize > maxMemberNodeIdBytes then some "node id exceeds transport member byte cap"
  else if ! nodeId.name.toList.all fun c => c.isAlphanum || c = '.' || c = '_' || c = '-' then
    some "node id contains characters outside [A-Za-z0-9._-]"
  else none

/-- What an address may be. `parses` says which texts the standard library reads as a socket address. -/
def validateMemberAddr (parses : String → Bool) (addr : String) : Option String :=
  if addr.isEmpty then some "empty dial address"
  else if addr.utf8ByteSize > maxMemberAddrBytes then some "dial address exceeds transport member byte cap"
  else if addr.toList.any fun c => c.toNat < 32 || c.toNat = 127 then some "dial address contains control characters"
  else if ! parses addr then some "dial address is not an IP socket address"
  else none

def validateMemberShape (parses : String → Bool) (nodeId : NodeId) (pubkeyHex addr : String) : Except String PublicKey :=
  match validateClusterNodeId nodeId with
  | some reason => .error reason
  | none =>
    match canonicalPeerPubkey pubkeyHex with
    | none => .error "malformed ed25519 pubkey"
    | some pubkey =>
      match validateMemberAddr parses addr with
      | some reason => .error reason
      | none => .ok pubkey

structure MemberInfo where
  pubkey : PublicKey
  addr : String
deriving DecidableEq

/-- What a dialer was started with. -/
structure DialerConfig extends PeerConfig where
  dialAddr : Option String
deriving DecidableEq

/-- One entry of a gossip frame. -/
structure GossipMember where
  nodeId : String
  pubkeyHex : String
  addr : String
deriving DecidableEq

/-- A frame from a peer; what is not gossip goes to the local bus. -/
inductive Frame where
  | gossip (members : List GossipMember)
  | traffic (payload : List UInt8)
deriving DecidableEq

/-- An installed connection that a reader is running for. -/
structure Link where
  number : Nat
  peer : NodeId
  pubkey : PublicKey
  /-- The frames that have arrived and that the reader has not taken. -/
  received : List Frame
  /-- The socket is shut down. -/
  shut : Bool
deriving DecidableEq

/-- What membership is about in the state of a transport. -/
structure Cluster where
  selfNode : NodeId
  selfPubkey : PublicKey
  maxMembers : Nat
  gossip : Bool
  advertiseAddr : String
  members : AList fun _ : NodeId => MemberInfo
  peersByPubkey : PublicKey → Option NodeId
  dialing : Finset NodeId
  /-- The dialer threads that are running. -/
  dialers : List DialerConfig
  /-- The connection whose queue frames for a node go to. -/
  writers : NodeId → Option Nat
  /-- The connections that are shut down with a node. -/
  sockets : NodeId → List Nat
  links : List Link

/-- A transport without configured peers. -/
def Cluster.fresh (selfNode : NodeId) (selfPubkey : PublicKey) (maxMembers : Nat) (gossip : Bool) (advertiseAddr : String) :
    Cluster where
  selfNode := selfNode
  selfPubkey := selfPubkey
  maxMembers := maxMembers
  gossip := gossip
  advertiseAddr := advertiseAddr
  members := ∅
  peersByPubkey _ := none
  dialing := ∅
  dialers := []
  writers _ := none
  sockets _ := []
  links := []

/-- What the handshake reads of it. -/
def Cluster.transport (state : Cluster) : TransportState := ⟨state.selfPubkey, state.peersByPubkey⟩

inductive AdmitMemberResult where
  | changed
  | unchanged
  | refused
deriving DecidableEq

section

variable (parses : String → Bool) (spawned : NodeId → Bool)

/-- Start a dialer, unless there is one. `spawned` says for which nodes the thread starts. -/
def spawnDialer (state : Cluster) (peer : DialerConfig) : Cluster × List PeerEvent :=
  if peer.dialAddr = none ∨ peer.nodeId = state.selfNode then (state, [])
  else if peer.nodeId ∈ state.dialing then (state, [])
  else if spawned peer.nodeId then
    ({ state with dialing := insert peer.nodeId state.dialing, dialers := state.dialers ++ [peer] }, [])
  else (state, [⟨peer.nodeId, "peer_dialer_spawn_failed"⟩])

/-- Admit a peer into the allowlist and the member table. -/
def admitMember (state : Cluster) (nodeId : NodeId) (pubkeyHex addr : String) : Cluster × AdmitMemberResult × List PeerEvent :=
  match validateMemberShape parses nodeId pubkeyHex addr with
  | .error _ => (state, .refused, [])
  | .ok pubkey =>
    if nodeId = state.selfNode then (state, .refused, [])
    else if state.members.lookup nodeId = some ⟨pubkey, addr⟩ then
      ({ state with peersByPubkey := Function.update state.peersByPubkey pubkey (some nodeId) }, .unchanged, [])
    else if nodeId ∉ state.members ∧ state.maxMembers ≠ 0 ∧ state.maxMembers ≤ state.members.keys.length then
      (state, .refused, [])
    else
      ({ state with
          members := state.members.insert nodeId ⟨pubkey, addr⟩
          peersByPubkey := Function.update state.peersByPubkey pubkey (some nodeId) },
        .changed, [⟨nodeId, "peer_admitted"⟩])

/-- This node and its members as gossip entries. -/
def memberGossip (state : Cluster) : List GossipMember :=
  ⟨state.selfNode.name, hexEncode state.selfPubkey.toList, state.advertiseAddr⟩ ::
    state.members.entries.map fun ⟨nodeId, info⟩ => ⟨nodeId.name, hexEncode info.pubkey.toList, info.addr⟩

/-- Admit and dial one member of a gossip frame. -/
def graftMember (state : Cluster) (member : GossipMember) : Cluster × Bool × List PeerEvent :=
  let nodeId : NodeId := ⟨member.nodeId⟩
  if nodeId = state.selfNode then (state, false, [])
  else
    match admitMember parses state nodeId member.pubkeyHex member.addr, canonicalPeerPubkey member.pubkeyHex with
    | (admitted, .changed, events), some pubkey =>
      let (dialed, failed) := spawnDialer spawned admitted ⟨⟨nodeId, pubkey⟩, some member.addr⟩
      (dialed, true, events ++ failed)
    | (admitted, _, events), _ => (admitted, false, events)

/-- Graft members in order, and say whether any of them changed the table. -/
def graftMembers (state : Cluster) : List GossipMember → Cluster × Bool × List PeerEvent
  | [] => (state, false, [])
  | member :: rest =>
    let (grafted, new, events) := graftMember parses spawned state member
    let (final, anyNew, more) := graftMembers grafted rest
    (final, new || anyNew, events ++ more)

/-- Ingest a peer's gossip; the flag says that it is broadcast again. -/
def ingestGossip (state : Cluster) (members : List GossipMember) : Cluster × Bool × List PeerEvent :=
  graftMembers parses spawned state (members.take maxGossipMembers)

/-- Drop a peer from the tables, and shut its connections down. -/
def forgetMember (state : Cluster) (node : NodeId) : Cluster :=
  if node = state.selfNode then state
  else
    { state with
      peersByPubkey := fun pubkey => if state.peersByPubkey pubkey = some node then none else state.peersByPubkey pubkey
      members := state.members.erase node
      dialing := state.dialing.erase node
      writers := Function.update state.writers node none
      sockets := Function.update state.sockets node []
      links := state.links.map fun link =>
        if link.number ∈ state.sockets node then { link with shut := true } else link }

/-- A decoded control operation. -/
inductive TransportCtl where
  | connect (nodeId pubkeyHex addr : String)
  | members
  | forget (nodeId : String)
deriving DecidableEq

structure MemberView where
  nodeId : String
  addr : String
  connected : Bool
deriving DecidableEq

inductive TransportCtlReply where
  | connecting (nodeId : String)
  | rejected (reason : String)
  | members (selfNode : String) (members : List MemberView)
  | forgotten (nodeId : String)
deriving DecidableEq

/-- What a control operation leaves: the state, the answer, whether gossip is broadcast, and what is published. -/
structure CtlOutcome where
  state : Cluster
  reply : TransportCtlReply
  broadcast : Bool
  events : List PeerEvent

def handleCtl (state : Cluster) : TransportCtl → CtlOutcome
  | .connect nodeId pubkeyHex addr =>
    match admitMember parses state ⟨nodeId⟩ pubkeyHex addr, canonicalPeerPubkey pubkeyHex with
    | (admitted, .refused, events), _ | (admitted, _, events), none =>
      { state := admitted
        reply := .rejected "transport member refused: capacity, self-admission, or malformed member shape"
        broadcast := false, events }
    | (admitted, result, events), some pubkey =>
      let (dialed, failed) := spawnDialer spawned admitted ⟨⟨⟨nodeId⟩, pubkey⟩, some addr⟩
      { state := dialed, reply := .connecting nodeId, broadcast := result = .changed, events := events ++ failed }
  | .members =>
    let views := state.members.entries.map fun ⟨nodeId, info⟩ =>
      (⟨nodeId.name, info.addr, (state.writers nodeId).isSome⟩ : MemberView)
    { state, reply := .members state.selfNode.name (views.mergeSort fun a b => a.nodeId ≤ b.nodeId)
      broadcast := false, events := [] }
  | .forget nodeId =>
    { state := forgetMember state ⟨nodeId⟩, reply := .forgotten nodeId, broadcast := true, events := [] }

/-! ## What the operations change -/

/-- The tables after a member was admitted. -/
def Cluster.allowing (state : Cluster) (nodeId : NodeId) (pubkey : PublicKey)
    (members : AList fun _ : NodeId => MemberInfo) : Cluster :=
  { state with members, peersByPubkey := Function.update state.peersByPubkey pubkey (some nodeId) }

/-- The ways in which an admission ends. -/
inductive Admission (state : Cluster) (nodeId : NodeId) (pubkeyHex addr : String) :
    Cluster × AdmitMemberResult × List PeerEvent → Prop where
  | refused : Admission state nodeId pubkeyHex addr (state, .refused, [])
  | unchanged (valid : validateMemberShape parses nodeId pubkeyHex addr = .ok pubkey) (other : nodeId ≠ state.selfNode)
      (known : state.members.lookup nodeId = some ⟨pubkey, addr⟩) :
      Admission state nodeId pubkeyHex addr (state.allowing nodeId pubkey state.members, .unchanged, [])
  | changed (valid : validateMemberShape parses nodeId pubkeyHex addr = .ok pubkey) (other : nodeId ≠ state.selfNode)
      (differs : state.members.lookup nodeId ≠ some ⟨pubkey, addr⟩) :
      Admission state nodeId pubkeyHex addr
        (state.allowing nodeId pubkey (state.members.insert nodeId ⟨pubkey, addr⟩), .changed, [⟨nodeId, "peer_admitted"⟩])

theorem admission_admitMember (state : Cluster) (nodeId : NodeId) (pubkeyHex addr : String) :
    Admission parses state nodeId pubkeyHex addr (admitMember parses state nodeId pubkeyHex addr) := by
  unfold admitMember
  split
  · exact .refused
  · rename_i pubkey valid
    split_ifs with self known full
    · exact .refused
    · exact .unchanged valid self known
    · exact .refused
    · exact .changed valid self known

variable {parses spawned}

theorem canonicalPeerPubkey_of_valid (valid : validateMemberShape parses nodeId pubkeyHex addr = .ok pubkey) :
    canonicalPeerPubkey pubkeyHex = some pubkey := by
  unfold validateMemberShape at valid
  split at valid
  · cases valid
  · split at valid
    · cases valid
    · split at valid <;> cases valid
      assumption

variable (spawned) in
/-- A dialer touches no table but its own reservation. -/
theorem spawnDialer_eq (state : Cluster) (peer : DialerConfig) :
    ∃ dialing dialers, (spawnDialer spawned state peer).1 = { state with dialing, dialers } ∧
      ∀ dialer ∈ dialers, dialer ∈ state.dialers ∨ dialer.nodeId = peer.nodeId := by
  unfold spawnDialer
  split_ifs
  · exact ⟨_, _, rfl, fun _ => .inl⟩
  · exact ⟨_, _, rfl, fun _ => .inl⟩
  · refine ⟨_, _, rfl, fun dialer among => ?_⟩
    rcases List.mem_append.mp among with running | started
    · exact .inl running
    · exact .inr (by rw [List.mem_singleton.mp started])
  · exact ⟨_, _, rfl, fun _ => .inl⟩

variable (parses) in
/-- What naming a member does, by an operation or in gossip: an admission, and perhaps a dialer. -/
inductive Named (state : Cluster) (nodeId : NodeId) (pubkeyHex addr : String) : Cluster → AdmitMemberResult → Prop where
  | refused : Named state nodeId pubkeyHex addr state .refused
  | unchanged (valid : validateMemberShape parses nodeId pubkeyHex addr = .ok pubkey) (other : nodeId ≠ state.selfNode)
      (known : state.members.lookup nodeId = some ⟨pubkey, addr⟩)
      (dials : ∀ dialer ∈ dialers, dialer ∈ state.dialers ∨ dialer.nodeId = nodeId) :
      Named state nodeId pubkeyHex addr { state.allowing nodeId pubkey state.members with dialing, dialers } .unchanged
  | changed (valid : validateMemberShape parses nodeId pubkeyHex addr = .ok pubkey) (other : nodeId ≠ state.selfNode)
      (differs : state.members.lookup nodeId ≠ some ⟨pubkey, addr⟩)
      (dials : ∀ dialer ∈ dialers, dialer ∈ state.dialers ∨ dialer.nodeId = nodeId) :
      Named state nodeId pubkeyHex addr
        { state.allowing nodeId pubkey (state.members.insert nodeId ⟨pubkey, addr⟩) with dialing, dialers } .changed

variable (parses spawned) in
theorem named_of_connect (state : Cluster) (nodeId pubkeyHex addr : String) :
    ∃ result, Named parses state ⟨nodeId⟩ pubkeyHex addr
        (handleCtl parses spawned state (.connect nodeId pubkeyHex addr)).state result ∧
      (handleCtl parses spawned state (.connect nodeId pubkeyHex addr)).broadcast = decide (result = .changed) ∧
      ((∃ reason, (handleCtl parses spawned state (.connect nodeId pubkeyHex addr)).reply = .rejected reason) ↔
        result = .refused) := by
  have ways := admission_admitMember parses state ⟨nodeId⟩ pubkeyHex addr
  simp only [handleCtl]
  generalize admitMember parses state ⟨nodeId⟩ pubkeyHex addr = ended at ways ⊢
  cases ways with
  | refused => exact ⟨.refused, .refused, rfl, by simp⟩
  | @unchanged pubkey valid other known =>
    have canonical := canonicalPeerPubkey_of_valid valid
    obtain ⟨dialing, dialers, dialed, dials⟩ :=
      spawnDialer_eq spawned (state.allowing ⟨nodeId⟩ pubkey state.members) ⟨⟨⟨nodeId⟩, pubkey⟩, some addr⟩
    simp only [canonical, dialed]
    exact ⟨.unchanged, .unchanged valid other known dials, by simp, by simp⟩
  | @changed pubkey valid other differs =>
    have canonical := canonicalPeerPubkey_of_valid valid
    obtain ⟨dialing, dialers, dialed, dials⟩ :=
      spawnDialer_eq spawned
        (state.allowing ⟨nodeId⟩ pubkey (state.members.insert ⟨nodeId⟩ ⟨pubkey, addr⟩)) ⟨⟨⟨nodeId⟩, pubkey⟩, some addr⟩
    simp only [canonical, dialed]
    exact ⟨.changed, .changed valid other differs dials, by simp, by simp⟩

variable (parses spawned) in
theorem named_of_graft (state : Cluster) (member : GossipMember) :
    ∃ result, Named parses state ⟨member.nodeId⟩ member.pubkeyHex member.addr (graftMember parses spawned state member).1 result ∧
      (graftMember parses spawned state member).2.1 = decide (result = .changed) := by
  have ways := admission_admitMember parses state ⟨member.nodeId⟩ member.pubkeyHex member.addr
  simp only [graftMember]
  split_ifs with self
  · exact ⟨.refused, .refused, rfl⟩
  generalize admitMember parses state ⟨member.nodeId⟩ member.pubkeyHex member.addr = ended at ways ⊢
  cases ways with
  | refused => exact ⟨.refused, .refused, rfl⟩
  | @unchanged pubkey valid other known =>
    exact ⟨.unchanged, .unchanged valid other known fun _ => .inl, rfl⟩
  | @changed pubkey valid other differs =>
    have canonical := canonicalPeerPubkey_of_valid valid
    obtain ⟨dialing, dialers, dialed, dials⟩ :=
      spawnDialer_eq spawned
        (state.allowing ⟨member.nodeId⟩ pubkey (state.members.insert ⟨member.nodeId⟩ ⟨pubkey, member.addr⟩))
        ⟨⟨⟨member.nodeId⟩, pubkey⟩, some member.addr⟩
    simp only [canonical, dialed]
    exact ⟨.changed, .changed valid other differs dials, rfl⟩

end

end Gawd.Transport
