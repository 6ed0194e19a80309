import Gawd.Logic.TransitionSystem
import Gawd.Transport.Allowlist

/-!
Membership gossip in a mesh of nodes: how many frames it sends, and what the nodes agree on.
-/

namespace Gawd.Transport

open Gawd.Logic

/-! ## Keys on the wire -/

theorem hexNibble_digitChar {value : Nat} (small : value < 16) : hexNibble value.digitChar = some value := by
  have digits : ∀ digit : Fin 16, hexNibble (Nat.digitChar digit) = some digit.val := by decide
  exact digits ⟨value, small⟩

theorem hexDecode_digits {bytes : List UInt8} :
    hexDecode (bytes.flatMap fun byte => [Nat.digitChar (byte.toNat / 16), Nat.digitChar (byte.toNat % 16)]) = some bytes := by
  induction bytes with
  | nil => rfl
  | cons byte rest ih =>
    have small := byte.toNat_lt
    have high : hexNibble (Nat.digitChar (byte.toNat / 16)) = some (byte.toNat / 16) := hexNibble_digitChar (by omega)
    have low : hexNibble (Nat.digitChar (byte.toNat % 16)) = some (byte.toNat % 16) := hexNibble_digitChar (by omega)
    have whole : UInt8.ofNat (byte.toNat / 16 * 16 + byte.toNat % 16) = byte := by
      rw [Nat.div_add_mod', UInt8.ofNat_toNat]
    rw [List.flatMap_cons, List.cons_append, List.cons_append, List.nil_append, hexDecode, high, low, ih]
    exact congrArg (fun first => some (first :: rest)) whole

/-- A key is read as it was written. -/
theorem canonicalPeerPubkey_hexEncode {pubkey : PublicKey} :
    canonicalPeerPubkey (hexEncode pubkey.toList) = some pubkey := by
  have sized : pubkey.toList.length = pubkeyBytes := Vector.length_toList
  simp only [canonicalPeerPubkey, hexEncode, String.toList_ofList, hexDecode_digits, Option.bind_eq_bind, Option.bind_some, sized,
    dif_pos]
  exact congrArg some (Vector.toList_inj.mp rfl)

/-! ## The mesh -/

/-- The nodes of a mesh and the gossip that is on its links, each frame with its entries in the order in which the table was
read. -/
structure Net where
  nodes : NodeId → Cluster
  flying : NodeId → NodeId → List (List GossipMember)
  /-- How many frames have been sent. -/
  sent : Nat

/-- A step of the mesh: an operation at a node, one side of a new connection, or the next frame of a link. A frame lists the
table in any order. -/
inductive Hop where
  | connect (node : NodeId) (nodeId pubkeyHex addr : String) (spawned : NodeId → Bool) (frame : List GossipMember)
  | join (node peer : NodeId) (frame : List GossipMember)
  | deliver (source target : NodeId) (spawned : NodeId → Bool) (frame : List GossipMember)

/-- The nodes that a node has a queue for. -/
def Net.peers (names : Finset NodeId) (net : Net) (node : NodeId) : Finset NodeId :=
  names.filter fun peer => ((net.nodes node).writers peer).isSome

/-- Put a frame on every link of a node. -/
def Net.broadcast (names : Finset NodeId) (net : Net) (node : NodeId) (frame : List GossipMember) : Net :=
  { net with
    flying := fun source target =>
      if source = node ∧ target ∈ net.peers names node then net.flying source target ++ [frame] else net.flying source target
    sent := net.sent + (net.peers names node).card }

/-- A node changes, and broadcasts if its table did. -/
def Net.update (names : Finset NodeId) (net : Net) (node : NodeId) (after : Cluster) (changed : Bool)
    (frame : List GossipMember) : Net :=
  let updated := { net with nodes := Function.update net.nodes node after }
  if changed then updated.broadcast names node frame else updated

/-- A queue for the peer is there. -/
def Cluster.linked (state : Cluster) (peer : NodeId) : Cluster :=
  { state with writers := Function.update state.writers peer (some 0) }

/-- What is on one link. -/
def Net.setFlying (net : Net) (source target : NodeId) (frames : List (List GossipMember)) : Net :=
  { net with flying := Function.update net.flying source (Function.update (net.flying source) target frames) }

/-- Install a connection on one side, and put the member view on it. -/
def Net.join (net : Net) (node peer : NodeId) (frame : List GossipMember) : Net :=
  let joined := { net with nodes := Function.update net.nodes node ((net.nodes node).linked peer) }
  if (net.nodes node).gossip then
    { joined.setFlying node peer (net.flying node peer ++ [frame]) with sent := net.sent + 1 }
  else joined

section

variable (parses : String → Bool) (names : Finset NodeId)

/-- What a step does, if it can be taken. -/
inductive Net.Step : Net → Hop → Net → Prop where
  | connect (among : node ∈ names)
      (served : handleCtl parses spawned (net.nodes node) (.connect nodeId pubkeyHex addr) = outcome)
      (written : frame.Perm (memberGossip outcome.state)) :
      Net.Step net (.connect node nodeId pubkeyHex addr spawned frame)
        (net.update names node outcome.state outcome.broadcast frame)
  | join (among : node ∈ names) (amongPeer : peer ∈ names) (unlinked : (net.nodes node).writers peer = none)
      (written : frame.Perm (memberGossip (net.nodes node))) :
      Net.Step net (.join node peer frame) (net.join node peer frame)
  | deliver (among : target ∈ names) (next : net.flying source target = members :: rest)
      (gossips : (net.nodes target).gossip = true)
      (ingested : ingestGossip parses spawned (net.nodes target) members = (after, changed, events))
      (written : frame.Perm (memberGossip after)) :
      Net.Step net (.deliver source target spawned frame) ((net.setFlying source target rest).update names target after changed frame)
  | ignore (among : target ∈ names) (next : net.flying source target = members :: rest)
      (static : (net.nodes target).gossip = false) :
      Net.Step net (.deliver source target spawned frame) (net.setFlying source target rest)

/-- Meshes of the named nodes, from wherever they start. -/
def gossipSystem : TransitionSystem Net Hop where
  start _ := True
  step := Net.Step parses names

variable (roster : Finset NodeId) (book : NodeId → MemberInfo)

/-- An entry that can be admitted is the one of the book. -/
def Agrees (member : GossipMember) : Prop :=
  ∀ pubkey, validateMemberShape parses ⟨member.nodeId⟩ member.pubkeyHex member.addr = .ok pubkey →
    (⟨member.nodeId⟩ : NodeId) ∈ roster ∧ book ⟨member.nodeId⟩ = ⟨pubkey, member.addr⟩

/-- The table and what the node says of itself agree with the book. -/
structure Cluster.Agreed (state : Cluster) : Prop where
  members : ∀ node info, state.members.lookup node = some info → node ∈ roster ∧ book node = info
  advertised : Agrees parses roster book ⟨state.selfNode.name, hexEncode state.selfPubkey.toList, state.advertiseAddr⟩

/-- So do all nodes and all frames of the mesh. -/
structure Net.Agreed (net : Net) : Prop where
  nodes : ∀ node ∈ names, (net.nodes node).Agreed parses roster book
  flying : ∀ source target, target ∈ names → ∀ frame ∈ net.flying source target, ∀ member ∈ frame, Agrees parses roster book member

/-- An operation names a member as the book has it. -/
def Hop.Agreed : Net → Hop → Prop
  | _, .connect _ nodeId pubkeyHex addr _ _ => Agrees parses roster book ⟨nodeId, pubkeyHex, addr⟩
  | _, _ => True

end

/-- The members of the roster that a table does not have. -/
def Cluster.missing (roster : Finset NodeId) (state : Cluster) : Nat :=
  (roster \ state.members.keys.toFinset).card

/-- The connections that are not there. -/
def Net.gaps (names : Finset NodeId) (net : Net) : Nat :=
  ((names ×ˢ names).filter fun pair => (net.nodes pair.1).writers pair.2 = none).card

/-- What bounds the frames still to be sent. -/
def Net.potential (names roster : Finset NodeId) (net : Net) : Nat :=
  names.card * ∑ node ∈ names, (net.nodes node).missing roster + net.gaps names

/-! ## Tables -/

section

variable {parses : String → Bool} {names roster : Finset NodeId} {book : NodeId → MemberInfo} {state after : Cluster}

/-- What naming a member as the book has it does to a node: it stays in agreement, keeps its queues, and changes only by a member
that it was missing. -/
structure Cluster.Grows (parses : String → Bool) (roster : Finset NodeId) (book : NodeId → MemberInfo) (state after : Cluster)
    (changed : Bool) : Prop where
  agreed : after.Agreed parses roster book
  missing : after.missing roster + changed.toNat ≤ state.missing roster
  writers : after.writers = state.writers

theorem missing_insert {members : AList fun _ : NodeId => MemberInfo} (listed : node ∈ roster)
    (new : members.lookup node = none) :
    (roster \ (members.insert node info).keys.toFinset).card + 1 ≤ (roster \ members.keys.toFinset).card := by
  have absent : node ∉ members := AList.lookup_eq_none.mp new
  apply Finset.card_lt_card
  refine ⟨?_, fun contained => ?_⟩
  · intro other
    simp only [Finset.mem_sdiff, List.mem_toFinset, ← AList.mem_keys, AList.mem_insert]
    tauto
  · have kept := contained (Finset.mem_sdiff.mpr ⟨listed, by simpa [← AList.mem_keys] using absent⟩)
    simp at kept

section

variable (agreed : state.Agreed parses roster book)

include agreed

theorem Cluster.Agreed.named (agrees : Agrees parses roster book ⟨nodeId, pubkeyHex, addr⟩)
    (named : Named parses state ⟨nodeId⟩ pubkeyHex addr after result) :
    state.Grows parses roster book after (result = .changed) := by
  cases named with
  | refused => exact ⟨agreed, le_refl _, rfl⟩
  | unchanged valid other known dials => exact ⟨⟨agreed.members, agreed.advertised⟩, le_refl _, rfl⟩
  | @changed pubkey _ _ valid other differs dials =>
    obtain ⟨listed, entry⟩ := agrees pubkey valid
    have new : state.members.lookup ⟨nodeId⟩ = none := by
      cases held : state.members.lookup ⟨nodeId⟩ with
      | none => rfl
      | some info =>
        obtain ⟨_, same⟩ := agreed.members _ _ held
        exact absurd (held.trans (congrArg some (same.symm.trans entry))) differs
    refine ⟨⟨fun node info held => ?_, agreed.advertised⟩, missing_insert listed new, rfl⟩
    change (state.members.insert ⟨nodeId⟩ ⟨pubkey, addr⟩).lookup node = some info at held
    by_cases same : node = ⟨nodeId⟩
    · subst same
      rw [AList.lookup_insert] at held
      cases held
      exact ⟨listed, entry⟩
    · rw [AList.lookup_insert_ne same] at held
      exact agreed.members node info held

theorem Cluster.Agreed.graftMembers (spawned : NodeId → Bool) (members : List GossipMember)
    (agree : ∀ member ∈ members, Agrees parses roster book member) :
    state.Grows parses roster book (graftMembers parses spawned state members).1
      (graftMembers parses spawned state members).2.1 := by
  induction members generalizing state with
  | nil => exact ⟨agreed, le_refl _, rfl⟩
  | cons member rest ih =>
    obtain ⟨result, named, flag⟩ := named_of_graft parses spawned state member
    have first := agreed.named (agree member List.mem_cons_self) named
    have later := ih first.agreed fun other among => agree other (List.mem_cons_of_mem member among)
    refine ⟨later.agreed, ?_, later.writers.trans first.writers⟩
    have missing := first.missing
    have missingLater := later.missing
    simp only [Transport.graftMembers, flag]
    generalize (Transport.graftMembers parses spawned (graftMember parses spawned state member).1 rest).2.1 = more at missingLater ⊢
    generalize decide (result = .changed) = now at missing ⊢
    cases now <;> cases more <;> simp at missing missingLater ⊢ <;> omega

theorem Cluster.Agreed.ingestGossip {members : List GossipMember}
    (agree : ∀ member ∈ members, Agrees parses roster book member)
    (ingested : ingestGossip parses spawned state members = (after, changed, events)) :
    state.Grows parses roster book after changed := by
  have grows := agreed.graftMembers spawned (members.take maxGossipMembers) fun member held =>
    agree member (List.mem_of_mem_take held)
  rw [← Transport.ingestGossip, ingested] at grows
  exact grows

theorem Cluster.Agreed.connect (agrees : Agrees parses roster book ⟨nodeId, pubkeyHex, addr⟩) :
    state.Grows parses roster book (handleCtl parses spawned state (.connect nodeId pubkeyHex addr)).state
      (handleCtl parses spawned state (.connect nodeId pubkeyHex addr)).broadcast := by
  obtain ⟨result, named, flag, _⟩ := named_of_connect parses spawned state nodeId pubkeyHex addr
  rw [flag]
  exact agreed.named agrees named

end

/-- What a node in agreement gossips agrees. -/
theorem Cluster.Agreed.memberGossip (agreed : state.Agreed parses roster book) :
    ∀ member ∈ memberGossip state, Agrees parses roster book member := by
  intro member among
  rcases List.mem_cons.mp among with rfl | held
  · exact agreed.advertised
  · obtain ⟨⟨node, info⟩, entry, rfl⟩ := List.mem_map.mp held
    obtain ⟨listed, same⟩ := agreed.members node info (AList.mem_lookup_iff.mpr entry)
    intro pubkey valid
    have canonical := canonicalPeerPubkey_of_valid valid
    rw [canonicalPeerPubkey_hexEncode] at canonical
    cases canonical
    exact ⟨listed, same⟩

end

/-! ## The mesh -/

section

variable {parses : String → Bool} {names roster : Finset NodeId} {book : NodeId → MemberInfo} {net after : Net} {hop : Hop}
  {node : NodeId} {cluster : Cluster} {frame : List GossipMember}

/-- The mesh stays in agreement, and what it sends is taken from its potential. -/
structure Net.Abates (parses : String → Bool) (names roster : Finset NodeId) (book : NodeId → MemberInfo) (net after : Net) :
    Prop where
  agreed : after.Agreed parses names roster book
  spent : after.sent + after.potential names roster ≤ net.sent + net.potential names roster

theorem Net.Agreed.set (agreed : net.Agreed parses names roster book) (node : NodeId) (agrees : cluster.Agreed parses roster book) :
    ∀ other ∈ names, (Function.update net.nodes node cluster other).Agreed parses roster book := by
  intro other among
  rw [Function.update_apply]
  split
  · exact agrees
  · exact agreed.nodes other among

theorem sum_missing_update {nodes : NodeId → Cluster} (freed : Nat) (among : node ∈ names)
    (fewer : cluster.missing roster + freed ≤ (nodes node).missing roster) :
    ∑ other ∈ names, (Function.update nodes node cluster other).missing roster + freed ≤
      ∑ other ∈ names, (nodes other).missing roster := by
  rw [← Finset.add_sum_erase names _ among, ← Finset.add_sum_erase names (fun other => (nodes other).missing roster) among]
  have others : ∑ other ∈ names.erase node, (Function.update nodes node cluster other).missing roster =
      ∑ other ∈ names.erase node, (nodes other).missing roster :=
    Finset.sum_congr rfl fun other among => by rw [Function.update_of_ne (Finset.ne_of_mem_erase among)]
  rw [others, Function.update_self]
  omega

theorem gaps_of_writers (same : ∀ other, (after.nodes other).writers = (net.nodes other).writers) :
    after.gaps names = net.gaps names := by
  simp only [Net.gaps, same]

/-- A change of a node that it broadcasts is paid for by the member that it was missing. -/
theorem Net.Agreed.update (agreed : net.Agreed parses names roster book) (among : node ∈ names)
    (grows : (net.nodes node).Grows parses roster book cluster changed) (written : frame.Perm (memberGossip cluster)) :
    net.Abates parses names roster book (net.update names node cluster changed frame) := by
  have nodes := agreed.set node grows.agreed
  have fewer := sum_missing_update _ among grows.missing
  have gaps : Net.gaps names { net with nodes := Function.update net.nodes node cluster } = net.gaps names := by
    refine gaps_of_writers fun other => ?_
    dsimp only
    rw [Function.update_apply]
    split
    · rename_i same
      rw [same, grows.writers]
    · rfl
  cases changed with
  | false =>
    refine ⟨⟨nodes, agreed.flying⟩, ?_⟩
    exact Nat.add_le_add_left (Nat.add_le_add (Nat.mul_le_mul_left _ fewer) gaps.le) _
  | true =>
    refine ⟨⟨nodes, fun source target amongTarget => ?_⟩, ?_⟩
    · simp only [Net.update, Net.broadcast, reduceIte]
      split
      · intro queued queuedFrame
        rcases List.mem_append.mp queuedFrame with old | new
        · exact agreed.flying source target amongTarget queued old
        · rw [List.mem_singleton.mp new]
          exact fun member held => grows.agreed.memberGossip member (written.mem_iff.mp held)
      · exact agreed.flying source target amongTarget
    · have few : (Net.peers names { net with nodes := Function.update net.nodes node cluster } node).card ≤ names.card :=
        Finset.card_filter_le _ _
      have paid := Nat.mul_le_mul_left names.card fewer
      simp only [Bool.toNat_true, Nat.mul_add, Nat.mul_one] at paid
      simp only [Net.update, Net.broadcast, reduceIte, Net.potential]
      change _ + (_ + Net.gaps names { net with nodes := Function.update net.nodes node cluster }) ≤ _
      omega

theorem Net.Agreed.setFlying (agreed : net.Agreed parses names roster book) (source : NodeId)
    (agree : target ∈ names → ∀ frame ∈ frames, ∀ member ∈ frame, Agrees parses roster book member) :
    (net.setFlying source target frames).Agreed parses names roster book := by
  refine ⟨agreed.nodes, fun one other among => ?_⟩
  by_cases here : one = source ∧ other = target
  · obtain ⟨rfl, rfl⟩ := here
    simpa only [Net.setFlying, Function.update_self] using agree among
  · have same : (net.setFlying source target frames).flying one other = net.flying one other := by
      simp only [Net.setFlying, Function.update_apply]
      grind
    rw [same]
    exact agreed.flying one other among

/-- A connection closes a gap. -/
theorem gaps_linked (among : node ∈ names) (amongPeer : peer ∈ names)
    (unlinked : (net.nodes node).writers peer = none) :
    Net.gaps names { net with nodes := Function.update net.nodes node ((net.nodes node).linked peer) } + 1 ≤ net.gaps names := by
  have writers (one : NodeId) (other : NodeId) :
      (Function.update net.nodes node ((net.nodes node).linked peer) one).writers other =
        if one = node ∧ other = peer then some 0 else (net.nodes one).writers other := by
    by_cases own : one = node
    · subst own
      simp [Cluster.linked, Function.update_apply]
    · simp [own]
  apply Finset.card_lt_card
  refine ⟨fun pair open_ => ?_, fun contained => ?_⟩
  · simp only [Finset.mem_filter, writers] at open_ ⊢
    refine ⟨open_.1, ?_⟩
    have still := open_.2
    split at still
    · cases still
    · exact still
  · have gap := contained (Finset.mem_filter.mpr (⟨Finset.mem_product.mpr ⟨among, amongPeer⟩, unlinked⟩ :
      (node, peer) ∈ names ×ˢ names ∧ _))
    simp [writers] at gap

section

variable (agreed : net.Agreed parses names roster book)

include agreed

/-- A new connection is paid for by the gap that it closes. -/
theorem Net.Agreed.join (among : node ∈ names) (amongPeer : peer ∈ names)
    (unlinked : (net.nodes node).writers peer = none) (written : frame.Perm (memberGossip (net.nodes node))) :
    net.Abates parses names roster book (net.join node peer frame) := by
  have own := agreed.nodes node among
  have nodes : ∀ other ∈ names, (Function.update net.nodes node ((net.nodes node).linked peer) other).Agreed parses roster book :=
    agreed.set node ⟨own.members, own.advertised⟩
  have joined : Net.Agreed parses names roster book
      { net with nodes := Function.update net.nodes node ((net.nodes node).linked peer) } := ⟨nodes, agreed.flying⟩
  have fewer : ∑ other ∈ names, (Function.update net.nodes node ((net.nodes node).linked peer) other).missing roster ≤
      ∑ other ∈ names, (net.nodes other).missing roster :=
    sum_missing_update 0 among (le_refl _)
  have paid : Net.potential names roster { net with nodes := Function.update net.nodes node ((net.nodes node).linked peer) } + 1 ≤
      net.potential names roster :=
    (Nat.add_assoc _ _ _).le.trans (Nat.add_le_add (Nat.mul_le_mul_left _ fewer) (gaps_linked among amongPeer unlinked))
  unfold Net.join
  split
  · have agree : peer ∈ names → ∀ queued ∈ net.flying node peer ++ [frame], ∀ member ∈ queued,
        Agrees parses roster book member := by
      intro amongPeer queued queuedFrame
      rcases List.mem_append.mp queuedFrame with old | new
      · exact agreed.flying node peer amongPeer queued old
      · rw [List.mem_singleton.mp new]
        exact fun member held => own.memberGossip member (written.mem_iff.mp held)
    have sent := joined.setFlying node agree
    refine ⟨⟨sent.nodes, sent.flying⟩, ?_⟩
    exact Nat.add_right_comm net.sent _ _ ▸ Nat.add_le_add_left paid net.sent
  · exact ⟨joined, Nat.add_le_add_left (Nat.le_of_succ_le paid) net.sent⟩

theorem Net.Agreed.next (among : target ∈ names) (next : net.flying source target = members :: rest) :
    (∀ member ∈ members, Agrees parses roster book member) ∧ (net.setFlying source target rest).Agreed parses names roster book := by
  have flying := agreed.flying source target among
  rw [next] at flying
  obtain ⟨first, later⟩ := List.forall_mem_cons.mp flying
  exact ⟨first, agreed.setFlying source fun _ => later⟩

/-- One step of the mesh. -/
theorem Net.Agreed.step (taken : Net.Step parses names net hop after) (agrees : hop.Agreed parses roster book net) :
    net.Abates parses names roster book after := by
  cases taken with
  | connect among served written =>
    subst served
    exact agreed.update among ((agreed.nodes _ among).connect agrees) written
  | join among amongPeer unlinked written => exact agreed.join among amongPeer unlinked written
  | deliver among next gossips ingested written =>
    obtain ⟨arrived, popped⟩ := agreed.next among next
    have grows := (agreed.nodes _ among).ingestGossip arrived ingested
    have broadcast := popped.update among grows written
    exact ⟨broadcast.agreed, broadcast.spent⟩
  | ignore among next static =>
    exact ⟨(agreed.next among next).2, le_refl _⟩

end

/-- What a mesh can spend is bounded by its size. -/
theorem potential_le :
    net.potential names roster ≤ names.card * (names.card * roster.card) + names.card * names.card := by
  have missing : ∑ node ∈ names, (net.nodes node).missing roster ≤ names.card * roster.card :=
    Finset.sum_le_card_nsmul names _ roster.card fun node _ => Finset.card_le_card Finset.sdiff_subset
  have gaps : net.gaps names ≤ names.card * names.card := (Finset.card_filter_le _ _).trans (Finset.card_product _ _).le
  exact Nat.add_le_add (Nat.mul_le_mul_left _ missing) gaps

/-- For every mesh of nodes, and every run in which all operations name a member with one key and address: no more frames are sent
than the size of the mesh allows, and any two nodes hold the same key and address for a member that they share. -/
theorem gossip_quiesces (agreed : net.Agreed parses names roster book)
    (run : ((gossipSystem parses names).restrict (Hop.Agreed parses roster book)).Leads net after) :
    after.sent ≤ net.sent + (names.card * (names.card * roster.card) + names.card * names.card) ∧
    ∀ one ∈ names, ∀ other ∈ names, ∀ node info info',
      (after.nodes one).members.lookup node = some info → (after.nodes other).members.lookup node = some info' → info = info' := by
  have abates : net.Abates parses names roster book after := by
    induction run with
    | refl => exact ⟨agreed, le_refl _⟩
    | tail _ next ih =>
      obtain ⟨hop, taken, agrees⟩ := next
      have last := ih.agreed.step taken agrees
      exact ⟨last.agreed, last.spent.trans ih.spent⟩
  constructor
  · calc
      after.sent ≤ after.sent + after.potential names roster := Nat.le_add_right _ _
      _ ≤ net.sent + net.potential names roster := abates.spent
      _ ≤ _ := Nat.add_le_add_left potential_le _
  · intro one amongOne other amongOther node info info' holds holds'
    obtain ⟨_, first⟩ := (abates.agreed.nodes one amongOne).members node info holds
    obtain ⟨_, second⟩ := (abates.agreed.nodes other amongOther).members node info' holds'
    exact first.symm.trans second

end

namespace Sample

/-- Every text is an address but a host name. -/
def parsed (addr : String) : Bool := addr ≠ "localhost:9001"

/-- One of two nodes that are connected and gossip. -/
def gossiper (name peer : String) (byte : UInt8) : Cluster :=
  (Cluster.fresh ⟨name⟩ (keyOf byte) defaultMaxMembers true "localhost:9001").linked ⟨peer⟩

def pair : Net where
  nodes node := if node = ⟨"a"⟩ then gossiper "a" "b" 1 else gossiper "b" "a" 2
  flying _ _ := []
  sent := 0

/-- What the node sends when it knows the member `m` at the address. -/
def rumour (name : String) (byte : UInt8) (addr : String) : List GossipMember :=
  [⟨name, hexEncode (keyOf byte).toList, "localhost:9001"⟩, ⟨"m", hexEncode (keyOf 187).toList, addr⟩]

/-- The node once it knows the member `m` at the address, which it dials where it first heard of it. -/
def told (name peer : String) (byte : UInt8) (dialed addr : String) : Cluster :=
  { gossiper name peer byte with
    members := AList.singleton ⟨"m"⟩ ⟨keyOf 187, addr⟩
    peersByPubkey := Function.update (fun _ => none) (keyOf 187) (some ⟨"m"⟩)
    dialing := {⟨"m"⟩}
    dialers := [⟨⟨⟨"m"⟩, keyOf 187⟩, some dialed⟩] }

theorem told_again :
    (told name peer byte dialed addr).allowing ⟨"m"⟩ (keyOf 187) (told name peer byte dialed addr).members =
      told name peer byte dialed addr := by
  simp [Cluster.allowing, told]

theorem localhost_invalid (valid : validateMemberShape parsed node pubkeyHex "localhost:9001" = .ok pubkey) : False := by
  have invalid : validateMemberAddr parsed "localhost:9001" = some "dial address is not an IP socket address" := by decide
  unfold validateMemberShape at valid
  rw [invalid] at valid
  split at valid
  · cases valid
  · split at valid <;> cases valid

def mesh : Finset NodeId := {⟨"a"⟩, ⟨"b"⟩}

/-- The addresses that the operators of the two nodes name, and the same ones swapped. -/
def named (swapped : Bool) : String := bif swapped then "y" else "x"

/-- Gossip with the other address replaces the address, and is broadcast. -/
theorem ingest_left :
    ingestGossip parsed (fun _ => true) (told "a" "b" 1 "x" (named swapped)) (rumour "b" 2 (named !swapped)) =
      (told "a" "b" 1 "x" (named !swapped), true, [⟨⟨"m"⟩, "peer_admitted"⟩]) := by
  conv_rhs => rw [← told_again]
  cases swapped <;> rfl

theorem ingest_right :
    ingestGossip parsed (fun _ => true) (told "b" "a" 2 "y" (named !swapped)) (rumour "a" 1 (named swapped)) =
      (told "b" "a" 2 "y" (named swapped), true, [⟨⟨"m"⟩, "peer_admitted"⟩]) := by
  conv_rhs => rw [← told_again]
  cases swapped <;> rfl

/-- The first node learns the address and tells the second. -/
structure Tells (net after : Net) (me you : String) (byte : UInt8) (dialed addr : String) : Prop where
  here : after.nodes ⟨me⟩ = told me you byte dialed addr
  there : after.nodes ⟨you⟩ = net.nodes ⟨you⟩
  incoming : after.flying ⟨you⟩ ⟨me⟩ = net.flying ⟨you⟩ ⟨me⟩
  outgoing : after.flying ⟨me⟩ ⟨you⟩ = net.flying ⟨me⟩ ⟨you⟩ ++ [rumour me byte addr]
  sent : after.sent = net.sent + 1

/-- What holds of two nodes that tell each other about `m`. -/
structure Partners (me you : String) (byte : UInt8) : Prop where
  among : (⟨me⟩ : NodeId) ∈ mesh
  apart : (⟨you⟩ : NodeId) ≠ ⟨me⟩
  linked : (mesh.filter fun peer => ((gossiper me you byte).writers peer).isSome) = {⟨you⟩}

theorem partners_left : Partners "a" "b" 1 := ⟨by decide, by decide, by decide⟩

theorem partners_right : Partners "b" "a" 2 := ⟨by decide, by decide, by decide⟩

theorem Partners.tells (partners : Partners me you byte) (net : Net) (dialed addr : String) :
    Tells net (net.update mesh ⟨me⟩ (told me you byte dialed addr) true (rumour me byte addr)) me you byte dialed addr := by
  have apart := partners.apart
  have peers : Net.peers mesh { net with nodes := Function.update net.nodes ⟨me⟩ (told me you byte dialed addr) } ⟨me⟩ = {⟨you⟩} := by
    simp only [Net.peers, Function.update_self]
    exact partners.linked
  simp only [Net.update, Net.broadcast, peers]
  refine ⟨?_, ?_, ?_, ?_, ?_⟩ <;> simp [apart]

/-- An operation at a node that knew nobody. -/
theorem Partners.connect (partners : Partners me you byte) (net : Net) (addr : String) (fresh : net.nodes ⟨me⟩ = gossiper me you byte)
    (served : (handleCtl parsed (fun _ => true) (gossiper me you byte)
      (.connect "m" (hexEncode (keyOf 187).toList) addr)) = ⟨told me you byte addr addr, reply, true, events⟩) :
    ∃ after, Net.Step parsed mesh net
        (.connect ⟨me⟩ "m" (hexEncode (keyOf 187).toList) addr (fun _ => true) (rumour me byte addr)) after ∧
      Tells net after me you byte addr addr :=
  ⟨_, .connect partners.among (by rw [fresh, served]) (.refl _), partners.tells net addr addr⟩

/-- The delivery of gossip with another address. -/
theorem Partners.deliver (partners : Partners me you byte) {net : Net} (knows : net.nodes ⟨me⟩ = told me you byte dialed addr)
    (next : net.flying ⟨you⟩ ⟨me⟩ = rumour you byte' addr' :: rest)
    (ingested : ingestGossip parsed (fun _ => true) (told me you byte dialed addr) (rumour you byte' addr') =
      (told me you byte dialed addr', true, events)) :
    ∃ after, Net.Step parsed mesh net (.deliver ⟨you⟩ ⟨me⟩ (fun _ => true) (rumour me byte addr')) after ∧
      Tells (net.setFlying ⟨you⟩ ⟨me⟩ rest) after me you byte dialed addr' :=
  ⟨_, .deliver partners.among next (by rw [knows]; rfl) (by rw [knows, ingested]) (.refl _), partners.tells _ dialed addr'⟩

/-- The two nodes know `m` at different addresses, and each has told the other. -/
structure Swapping (net : Net) (swapped : Bool) : Prop where
  left : net.nodes ⟨"a"⟩ = told "a" "b" 1 "x" (named swapped)
  right : net.nodes ⟨"b"⟩ = told "b" "a" 2 "y" (named !swapped)
  outward : net.flying ⟨"a"⟩ ⟨"b"⟩ = [rumour "a" 1 (named swapped)]
  inward : net.flying ⟨"b"⟩ ⟨"a"⟩ = [rumour "b" 2 (named !swapped)]

/-- The mesh of the two nodes with no step but the delivery of frames. -/
def delivering : TransitionSystem Net Hop :=
  (gossipSystem parsed mesh).restrict fun _ hop => ∃ source target spawned frame, hop = .deliver source target spawned frame

/-- One round: each node takes over what the other had told it. -/
theorem Swapping.round (swapping : Swapping net swapped) :
    ∃ after, delivering.Leads net after ∧ Swapping after !swapped ∧ after.sent = net.sent + 2 := by
  obtain ⟨middle, first, tells⟩ := partners_left.deliver swapping.left swapping.inward ingest_left
  have queued := tells.outgoing
  rw [show (net.setFlying ⟨"b"⟩ ⟨"a"⟩ []).flying ⟨"a"⟩ ⟨"b"⟩ = _ from swapping.outward] at queued
  obtain ⟨after, second, tells'⟩ := partners_right.deliver (tells.there.trans swapping.right) queued ingest_right
  refine ⟨after, (Relation.ReflTransGen.single ⟨_, first, _, _, _, _, rfl⟩).tail ⟨_, second, _, _, _, _, rfl⟩, ⟨?_, ?_, ?_, ?_⟩, ?_⟩
  · exact tells'.there.trans tells.here
  · rw [Bool.not_not]
    exact tells'.here
  · rw [tells'.incoming]
    rfl
  · rw [tells'.outgoing, Bool.not_not]
    exact congrArg (· ++ _) (tells.incoming)
  · exact tells'.sent.trans (congrArg (· + 1) tells.sent)

/-- Any number of rounds. -/
theorem Swapping.rounds (swapping : Swapping net swapped) (bound : Nat) :
    ∃ after, delivering.Leads net after ∧ net.sent + bound ≤ after.sent := by
  induction bound generalizing net swapped with
  | zero => exact ⟨net, .refl, le_refl _⟩
  | succ bound ih =>
    obtain ⟨middle, first, swapped, sent⟩ := swapping.round
    obtain ⟨after, later, more⟩ := ih swapped
    exact ⟨after, first.trans later, by omega⟩

/-- The two nodes have no members, and nobody admits what they say of themselves. -/
theorem pair_agreed : pair.Agreed parsed mesh roster book where
  nodes node _ := by
    have unknown (name peer : String) (byte : UInt8) : (gossiper name peer byte).Agreed parsed roster book := by
      exact ⟨nofun, fun pubkey valid => (localhost_invalid valid).elim⟩
    simp only [pair]
    split
    · exact unknown "a" "b" 1
    · exact unknown "b" "a" 2
  flying _ _ _ := nofun

end Sample

open Sample in
/-- One operation at one of the two nodes. -/
theorem gossip_quiesces_pair : ∃ told,
    (gossipSystem parsed mesh).Path pair
      [.connect ⟨"a"⟩ "m" (hexEncode (keyOf 187).toList) "x" (fun _ => true) (rumour "a" 1 "x")] told ∧
    told.sent ≤ pair.sent + (mesh.card * (mesh.card * ({⟨"m"⟩} : Finset NodeId).card) + mesh.card * mesh.card) := by
  obtain ⟨told, taken, _⟩ := partners_left.connect pair "x" rfl rfl
  have agrees : Agrees parsed {⟨"m"⟩} (fun _ => ⟨keyOf 187, "x"⟩) ⟨"m", hexEncode (keyOf 187).toList, "x"⟩ := by
    intro pubkey valid
    have canonical := canonicalPeerPubkey_of_valid valid
    rw [canonicalPeerPubkey_hexEncode] at canonical
    cases canonical
    exact ⟨Finset.mem_singleton_self _, rfl⟩
  have run : ((gossipSystem parsed mesh).restrict (Hop.Agreed parsed {⟨"m"⟩} fun _ => ⟨keyOf 187, "x"⟩)).Leads pair told :=
    .single ⟨_, taken, agrees⟩
  exact ⟨told, .cons taken .nil, (gossip_quiesces pair_agreed run).1⟩

open Sample in
/-- Two connected nodes whose operators name the member `m` with different addresses never stop: after the two operations, and with
nothing but deliveries, any number of frames is sent. -/
theorem gossip_never_quiesces : ∃ told,
    (gossipSystem parsed mesh).Path pair
      [.connect ⟨"a"⟩ "m" (hexEncode (keyOf 187).toList) "x" (fun _ => true) (rumour "a" 1 "x"),
        .connect ⟨"b"⟩ "m" (hexEncode (keyOf 187).toList) "y" (fun _ => true) (rumour "b" 2 "y")] told ∧
      ∀ bound, ∃ after, delivering.Leads told after ∧ bound ≤ after.sent := by
  obtain ⟨middle, first, tells⟩ := partners_left.connect pair "x" rfl rfl
  obtain ⟨told, second, tells'⟩ := partners_right.connect middle "y" tells.there rfl
  have swapping : Swapping told false :=
    ⟨tells'.there.trans tells.here, tells'.here, tells'.incoming.trans tells.outgoing,
      tells'.outgoing.trans (congrArg (· ++ _) tells.incoming)⟩
  refine ⟨told, .cons first (.cons second .nil), fun bound => ?_⟩
  obtain ⟨after, run, sent⟩ := swapping.rounds bound
  exact ⟨after, run, (Nat.le_add_left _ _).trans sent⟩

end Gawd.Transport
