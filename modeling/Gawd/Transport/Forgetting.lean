import Gawd.Transport.Allowlist

/-!
The threads of a transport: handshakes in both roles, dialers, readers and writers, and what they do after a member is forgotten.
-/

namespace Gawd.Transport

/-- The tables of a transport, and where its handshakes stand. -/
structure Mesh where
  cluster : Cluster
  /-- The handshakes with accepted connections. -/
  servers : List ServerSession
  /-- The handshake that each running dialer is in, by its place. -/
  attempts : Nat → ClientSession
  /-- The number of the next connection. -/
  nextLink : Nat
  maxInboundHandshakes : Nat

/-- What the system has left when a connection is installed. -/
inductive Resources where
  | enough
  | noClone
  | noReader
  | noWriter
deriving DecidableEq

/-- What a node sees of its peers. -/
inductive Observation where
  | connected (peer : NodeId)
  | handled (peer : NodeId) (frame : Frame)
deriving DecidableEq

def Observation.peer : Observation → NodeId
  | .connected peer => peer
  | .handled peer _ => peer

/-- The first handshake for a peer wins; a later one closes its connection. -/
def installConnection (mesh : Mesh) (peer : NodeId) (pubkey : PublicKey) (resources : Resources) : Mesh × List Observation :=
  let cluster := mesh.cluster
  if (cluster.writers peer).isSome then (mesh, [])
  else
    let number := mesh.nextLink
    let registered := cluster.sockets peer ++ [number]
    match resources with
    | .noClone => (mesh, [])
    | .noReader =>
      ({ mesh with
          nextLink := number + 1
          cluster := { cluster with sockets := Function.update cluster.sockets peer [] } }, [.connected peer])
    | .noWriter =>
      let links := cluster.links ++ [⟨number, peer, pubkey, [], false⟩]
      ({ mesh with
          nextLink := number + 1
          cluster := { cluster with
            sockets := Function.update cluster.sockets peer registered
            links := links.map fun link => if link.number ∈ registered then { link with shut := true } else link } },
        [.connected peer])
    | .enough =>
      ({ mesh with
          nextLink := number + 1
          cluster := { cluster with
            writers := Function.update cluster.writers peer (some number)
            sockets := Function.update cluster.sockets peer registered
            links := cluster.links ++ [⟨number, peer, pubkey, [], false⟩] } }, [.connected peer])

/-- One step of some thread, with what it reads and what the system gives it. -/
inductive Event (scheme : SignatureScheme) where
  | ctl (request : Request)
  | accept (freshNonce : Option Nonce) (written : Bool)
  | serverHello (index : Nat) (read : Option (PublicKey × Nonce)) (written : Bool)
  | serverSignature (index : Nat) (read : Option scheme.Signature) (resources : Resources)
  | dial (index : Nat) (freshNonce : Option Nonce)
  | clientHello (index : Nat) (read : Option (PublicKey × Nonce)) (written : Bool)
  | clientSignature (index : Nat) (read : Option scheme.Signature) (written : Bool) (resources : Resources)
  | arrive (number : Nat) (frame : Frame)
  | take (number : Nat) (spawned : NodeId → Bool)
  | disconnect (number : Nat)
  | writerExit (number : Nat)

/-- The handshake still holds its slot. -/
def ServerSession.pending : ServerSession → Bool
  | .helloSent _ | .signatureSent .. => true
  | .authenticated .. | .closed => false

def Cluster.link? (state : Cluster) (number : Nat) : Option Link :=
  state.links.find? fun link => link.number = number

/-- The reader of a connection takes its next frame. -/
def Cluster.taken (state : Cluster) (number : Nat) : Cluster :=
  { state with
    links := state.links.map fun link => if link.number = number then { link with received := link.received.tail } else link }

section

variable (scheme : SignatureScheme) (parses : String → Bool)

/-- What a step does; a step of a thread that is not there does nothing. -/
def advance (mesh : Mesh) : Event scheme → Mesh × List Observation
  | .ctl request => ({ mesh with cluster := (handleCtl parses request.spawned mesh.cluster request.op).state }, [])
  | .accept freshNonce written =>
    if (mesh.servers.filter (·.pending)).length < mesh.maxInboundHandshakes then
      ({ mesh with servers := mesh.servers ++ [(serverOpen scheme mesh.cluster.transport freshNonce written).session] }, [])
    else (mesh, [])
  | .serverHello index read written =>
    match mesh.servers[index]? with
    | none => (mesh, [])
    | some session =>
      let next := (serverReadHello scheme mesh.cluster.transport session read written).session
      ({ mesh with servers := mesh.servers.set index next }, [])
  | .serverSignature index read resources =>
    match mesh.servers[index]? with
    | none => (mesh, [])
    | some session =>
      match (serverReadSignature scheme mesh.cluster.transport session read).session with
      | .authenticated _ clientPubkey clientNode =>
        installConnection { mesh with servers := mesh.servers.set index .closed } clientNode clientPubkey resources
      | next => ({ mesh with servers := mesh.servers.set index next }, [])
  | .dial index freshNonce =>
    match mesh.cluster.dialers[index]?, mesh.attempts index with
    | some dialer, .closed =>
      -- a dialer idles while its peer is connected
      if (mesh.cluster.writers dialer.nodeId).isSome then (mesh, [])
      else
        ({ mesh with
            attempts := Function.update mesh.attempts index (clientOpen scheme dialer.toPeerConfig freshNonce).session }, [])
    | _, _ => (mesh, [])
  | .clientHello index read written =>
    ({ mesh with
        attempts := Function.update mesh.attempts index
          (clientReadHello scheme mesh.cluster.transport (mesh.attempts index) read written).session }, [])
  | .clientSignature index read written resources =>
    match (clientReadSignature scheme mesh.cluster.transport (mesh.attempts index) read written).session with
    | .authenticated peer _ serverPubkey =>
      installConnection { mesh with attempts := Function.update mesh.attempts index .closed } peer.nodeId serverPubkey resources
    | next => ({ mesh with attempts := Function.update mesh.attempts index next }, [])
  | .arrive number frame =>
    ({ mesh with
        cluster := { mesh.cluster with
          links := mesh.cluster.links.map fun link =>
            if link.number = number ∧ link.shut = false then { link with received := link.received ++ [frame] } else link } },
      [])
  | .take number spawned =>
    match mesh.cluster.link? number with
    | some ⟨_, peer, _, frame :: _, _⟩ =>
      let taken := mesh.cluster.taken number
      match frame with
      | .gossip members =>
        if taken.gossip then
          ({ mesh with cluster := (ingestGossip parses spawned taken members).1 }, [.handled peer frame])
        else ({ mesh with cluster := taken }, [.handled peer frame])
      | .traffic _ => ({ mesh with cluster := taken }, [.handled peer frame])
    | _ => (mesh, [])
  | .disconnect number =>
    match mesh.cluster.link? number with
    | some link =>
      ({ mesh with
          cluster := { mesh.cluster with
            links := mesh.cluster.links.filter fun other => other.number ≠ number
            writers := Function.update mesh.cluster.writers link.peer none
            sockets := Function.update mesh.cluster.sockets link.peer [] } }, [])
    | none => (mesh, [])
  | .writerExit number =>
    ({ mesh with
        cluster := { mesh.cluster with
          links := mesh.cluster.links.map fun link =>
            if link.number = number ∧ mesh.cluster.writers link.peer ≠ some number then { link with shut := true } else link } },
      [])

/-- The steps of the threads in order, and what the node saw. -/
def run (mesh : Mesh) : List (Event scheme) → Mesh × List Observation
  | [] => (mesh, [])
  | event :: rest =>
    let (middle, seen) := advance scheme parses mesh event
    let (final, more) := run middle rest
    (final, seen ++ more)

end

/-- The client whose key the server has looked up. -/
def ServerSession.client? : ServerSession → Option NodeId
  | .signatureSent _ _ clientNode | .authenticated _ _ clientNode => some clientNode
  | .helloSent _ | .closed => none

/-- The server that the client has dialed. -/
def ClientSession.server? : ClientSession → Option NodeId
  | .dialed peer _ | .helloSent peer .. | .authenticated peer .. => some peer.nodeId
  | .closed => none

/-- The step is a Connect operation for the node. -/
def Event.Connects {scheme : SignatureScheme} (node : NodeId) : Event scheme → Prop
  | .ctl ⟨.connect nodeId _ _, _⟩ => node = ⟨nodeId⟩
  | _ => False

/-- The step ingests gossip that has an entry for the node. -/
def Event.Grafts {scheme : SignatureScheme} (node : NodeId) (mesh : Mesh) : Event scheme → Prop
  | .take number _ =>
    mesh.cluster.gossip = true ∧ ∃ link members rest, mesh.cluster.link? number = some link ∧
      link.received = .gossip members :: rest ∧ ∃ member ∈ members.take maxGossipMembers, node = ⟨member.nodeId⟩
  | _ => False

/-- No step of the run connects the node or ingests gossip about it. -/
def LeftOut (scheme : SignatureScheme) (parses : String → Bool) (node : NodeId) : Mesh → List (Event scheme) → Prop
  | _, [] => True
  | mesh, event :: rest =>
    ¬ event.Connects node ∧ ¬ event.Grafts node mesh ∧ LeftOut scheme parses node (advance scheme parses mesh event).1 rest

/-- Nothing is under way with the node: no dialer, no handshake that has identified it, no frame that has not been taken, and no
connection that the tables have lost. -/
structure Settled (mesh : Mesh) (node : NodeId) : Prop where
  undialed : ∀ dialer ∈ mesh.cluster.dialers, dialer.nodeId ≠ node
  unattempted : ∀ index, (mesh.attempts index).server? ≠ some node
  unserved : ∀ session ∈ mesh.servers, session.client? ≠ some node
  read : ∀ link ∈ mesh.cluster.links, link.peer = node → link.received = [] ∧ link.number ∈ mesh.cluster.sockets node

/-- Every connection of the node is shut down and read to its end. -/
def ShutOut (node : NodeId) (links : List Link) : Prop :=
  ∀ link ∈ links, link.peer = node → link.received = [] ∧ link.shut = true

/-- The tables keep a node out: no key is listed for it, no dialer runs for it, and its connections are shut and read. -/
structure Cluster.Bars (state : Cluster) (node : NodeId) : Prop where
  unlisted : ∀ pubkey, state.peersByPubkey pubkey ≠ some node
  undialed : ∀ dialer ∈ state.dialers, dialer.nodeId ≠ node
  shut : ShutOut node state.links

/-- The tables keep the node out, and so do the handshakes. -/
structure Mesh.Bars (mesh : Mesh) (node : NodeId) : Prop where
  cluster : mesh.cluster.Bars node
  unattempted : ∀ index, (mesh.attempts index).server? ≠ some node
  unserved : ∀ session ∈ mesh.servers, session.client? ≠ some node

/-! ## Handshakes -/

section

variable {scheme : SignatureScheme} {transport : TransportState} {node : NodeId}

theorem client?_serverOpen : (serverOpen scheme transport freshNonce written).session.client? = none := by
  unfold serverOpen
  split
  · rfl
  · split <;> rfl

variable (scheme transport) in
/-- A server learns its client from the allowlist. -/
theorem client?_serverReadHello (bytes : Option (PublicKey × Nonce)) (written : Bool)
    (unlisted : ∀ pubkey, transport.peersByPubkey pubkey ≠ some node) (before : session.client? ≠ some node) :
    (serverReadHello scheme transport session bytes written).session.client? ≠ some node := by
  unfold serverReadHello
  split
  · split
    · nofun
    · rename_i listed
      split
      · intro same
        cases same
        exact unlisted _ listed
      · nofun
  · nofun
  · exact before

variable (scheme transport) in
theorem client?_serverReadSignature (bytes : Option scheme.Signature) (before : session.client? ≠ some node) :
    (serverReadSignature scheme transport session bytes).session.client? ≠ some node := by
  unfold serverReadSignature
  split
  · dsimp only
    split
    · exact before
    · nofun
  · nofun
  · exact before

theorem server?_clientOpen {peer : PeerConfig} (other : peer.nodeId ≠ node) :
    (clientOpen scheme peer freshNonce).session.server? ≠ some node := by
  unfold clientOpen
  split
  · nofun
  · exact fun same => other (Option.some.inj same)

theorem server?_clientReadHello (before : session.server? ≠ some node) :
    (clientReadHello scheme transport session bytes written).session.server? ≠ some node := by
  unfold clientReadHello
  split
  · split_ifs
    · nofun
    · exact before
    · nofun
  · nofun
  · exact before

variable (scheme transport) in
theorem server?_clientReadSignature (bytes : Option scheme.Signature) (written : Bool) (before : session.server? ≠ some node) :
    (clientReadSignature scheme transport session bytes written).session.server? ≠ some node := by
  unfold clientReadSignature
  split
  · dsimp only
    split_ifs
    · exact before
    · nofun
    · nofun
  · nofun
  · exact before

end

/-! ## Tables -/

variable {links : List Link}

section

variable {parses : String → Bool} {spawned : NodeId → Bool} {state after : Cluster} {node other : NodeId}

/-- Naming another member changes nothing for the node. -/
theorem Cluster.Bars.named (bars : state.Bars node) (apart : other ≠ node)
    (named : Named parses state other pubkeyHex addr after result) : after.Bars node := by
  have unlisted (pubkey pubkey' : PublicKey) :
      Function.update state.peersByPubkey pubkey (some other) pubkey' ≠ some node := by
    rw [Function.update_apply]
    split
    · exact fun same => apart (Option.some.inj same)
    · exact bars.unlisted pubkey'
  have undialed {dialers : List DialerConfig} (dials : ∀ dialer ∈ dialers, dialer ∈ state.dialers ∨ dialer.nodeId = other)
      (dialer : DialerConfig) (runs : dialer ∈ dialers) : dialer.nodeId ≠ node := by
    rcases dials dialer runs with before | new
    · exact bars.undialed dialer before
    · rwa [new]
  cases named with
  | refused => exact bars
  | unchanged valid _ known dials | changed valid _ differs dials => exact ⟨unlisted _, undialed dials, bars.shut⟩

theorem Cluster.Bars.graftMembers (bars : state.Bars node) (members : List GossipMember)
    (unnamed : ∀ member ∈ members, node ≠ ⟨member.nodeId⟩) : (graftMembers parses spawned state members).1.Bars node := by
  induction members generalizing state with
  | nil => exact bars
  | cons member rest ih =>
    obtain ⟨result, named, _⟩ := named_of_graft parses spawned state member
    have grafted := bars.named (unnamed member List.mem_cons_self).symm named
    exact ih grafted fun later among => unnamed later (List.mem_cons_of_mem member among)

/-- A change of links that leaves their peers alone and opens or fills none that is shut and empty. -/
theorem ShutOut.map (out : ShutOut node links) (kept : ∀ link, (change link).peer = link.peer)
    (barred : ∀ link, link.received = [] ∧ link.shut = true → (change link).received = [] ∧ (change link).shut = true) :
    ShutOut node (links.map change) := by
  intro link among own
  obtain ⟨old, before, rfl⟩ := List.mem_map.mp among
  exact barred old (out old before ((kept old).symm.trans own))

/-- Shutting more connections down. -/
theorem ShutOut.shut (out : ShutOut node links) (registered : Link → Prop) [DecidablePred registered] :
    ShutOut node (links.map fun link => if registered link then { link with shut := true } else link) := by
  refine out.map (fun link => ?_) fun link barred => ?_
  · split <;> rfl
  · split
    · exact ⟨barred.1, rfl⟩
    · exact barred

theorem ShutOut.concat (out : ShutOut node links) {link : Link} (apart : link.peer ≠ node) :
    ShutOut node (links ++ [link]) := by
  intro other among own
  rcases List.mem_append.mp among with old | new
  · exact out other old own
  · rw [List.mem_singleton.mp new] at own
    exact absurd own apart

/-- The allowlist without the keys of a node. -/
theorem unlisted_forget (table : PublicKey → Option NodeId) (unlisted : node = other ∨ ∀ pubkey, table pubkey ≠ some node)
    (pubkey : PublicKey) : (if table pubkey = some other then none else table pubkey) ≠ some node := by
  split
  · nofun
  · rename_i differs
    rcases unlisted with rfl | unlisted
    · exact differs
    · exact unlisted pubkey

theorem Cluster.Bars.forgetMember (bars : state.Bars node) (other : NodeId) : (forgetMember state other).Bars node := by
  unfold Transport.forgetMember
  split
  · exact bars
  · exact ⟨unlisted_forget _ (.inr bars.unlisted), bars.undialed, bars.shut.shut (·.number ∈ state.sockets other)⟩

theorem Cluster.Bars.taken (bars : state.Bars node) (number : Nat) : (state.taken number).Bars node := by
  refine ⟨bars.unlisted, bars.undialed, bars.shut.map (fun link => ?_) fun link barred => ?_⟩
  · split <;> rfl
  · split
    · exact ⟨by rw [barred.1, List.tail_nil], barred.2⟩
    · exact barred

/-- Only a Connect operation lets a node in. -/
theorem Cluster.Bars.handleCtl (bars : state.Bars node) {request : Request}
    (others : ¬ (Event.ctl request : Event scheme).Connects node) :
    (handleCtl parses request.spawned state request.op).state.Bars node := by
  obtain ⟨op, spawned⟩ := request
  cases op with
  | connect nodeId pubkeyHex addr =>
    obtain ⟨result, named, _⟩ := named_of_connect parses spawned state nodeId pubkeyHex addr
    exact bars.named (fun same => others same.symm) named
  | members => exact bars
  | forget nodeId => exact bars.forgetMember ⟨nodeId⟩

end

/-! ## Runs -/

section

variable {scheme : SignatureScheme} {parses : String → Bool} {mesh : Mesh} {node peer : NodeId} {event : Event scheme}
  {events : List (Event scheme)}

/-- Connections of other peers change nothing for the node. -/
theorem Mesh.Bars.installConnection (bars : mesh.Bars node) (apart : peer ≠ node) :
    (installConnection mesh peer pubkey resources).1.Bars node ∧
      ∀ seen ∈ (installConnection mesh peer pubkey resources).2, seen.peer ≠ node := by
  have linked : ShutOut node (mesh.cluster.links ++ [⟨mesh.nextLink, peer, pubkey, [], false⟩]) :=
    bars.cluster.shut.concat apart
  have saw : ∀ seen ∈ [Observation.connected peer], seen.peer ≠ node := by
    intro seen among
    rw [List.mem_singleton.mp among]
    exact apart
  obtain ⟨⟨unlisted, undialed, shut⟩, unattempted, unserved⟩ := bars
  unfold Transport.installConnection
  dsimp only
  split
  · exact ⟨⟨⟨unlisted, undialed, shut⟩, unattempted, unserved⟩, nofun⟩
  · split
    · exact ⟨⟨⟨unlisted, undialed, shut⟩, unattempted, unserved⟩, nofun⟩
    · exact ⟨⟨⟨unlisted, undialed, shut⟩, unattempted, unserved⟩, saw⟩
    · exact ⟨⟨⟨unlisted, undialed, linked.shut (·.number ∈ mesh.cluster.sockets peer ++ [mesh.nextLink])⟩, unattempted, unserved⟩,
        saw⟩
    · exact ⟨⟨⟨unlisted, undialed, linked⟩, unattempted, unserved⟩, saw⟩

theorem unattempted_update {attempts : Nat → ClientSession} (before : ∀ index, (attempts index).server? ≠ some node)
    (now : session.server? ≠ some node) (index other : Nat) :
    (Function.update attempts index session other).server? ≠ some node := by
  rw [Function.update_apply]
  split
  · exact now
  · exact before other

theorem unserved_set {servers : List ServerSession} (before : ∀ session ∈ servers, session.client? ≠ some node)
    (now : ServerSession.client? next ≠ some node) (index : Nat) :
    ∀ session ∈ servers.set index next, session.client? ≠ some node := by
  intro session among
  rcases List.mem_or_eq_of_mem_set among with old | rfl
  · exact before session old
  · exact now

/-- No step but a Connect operation or gossip about the node lets it in. -/
theorem Mesh.Bars.advance (bars : mesh.Bars node) (unconnected : ¬ event.Connects node) (ungrafted : ¬ event.Grafts node mesh) :
    (advance scheme parses mesh event).1.Bars node ∧ ∀ seen ∈ (advance scheme parses mesh event).2, seen.peer ≠ node := by
  cases event with
  | ctl request => exact ⟨⟨bars.cluster.handleCtl unconnected, bars.unattempted, bars.unserved⟩, nofun⟩
  | accept freshNonce written =>
    simp only [Transport.advance]
    split
    · refine ⟨⟨bars.cluster, bars.unattempted, fun session among => ?_⟩, nofun⟩
      rcases List.mem_append.mp among with old | new
      · exact bars.unserved session old
      · rw [List.mem_singleton.mp new, client?_serverOpen]
        nofun
    · exact ⟨bars, nofun⟩
  | serverHello index bytes written =>
    simp only [Transport.advance]
    split
    · exact ⟨bars, nofun⟩
    · rename_i session found
      have before := bars.unserved session (List.mem_of_getElem? found)
      have now := client?_serverReadHello scheme mesh.cluster.transport bytes written bars.cluster.unlisted before
      exact ⟨⟨bars.cluster, bars.unattempted, unserved_set bars.unserved now index⟩, nofun⟩
  | serverSignature index bytes resources =>
    simp only [Transport.advance]
    split
    · exact ⟨bars, nofun⟩
    rename_i session found
    have before := bars.unserved session (List.mem_of_getElem? found)
    have now := client?_serverReadSignature scheme mesh.cluster.transport bytes before
    split
    · rename_i authenticated
      rw [authenticated] at now
      have nobody : ServerSession.closed.client? ≠ some node := nofun
      have closed : Mesh.Bars { mesh with servers := mesh.servers.set index .closed } node :=
        ⟨bars.cluster, bars.unattempted, unserved_set bars.unserved nobody index⟩
      exact closed.installConnection fun same => now (by rw [same]; rfl)
    · exact ⟨⟨bars.cluster, bars.unattempted, unserved_set bars.unserved now index⟩, nofun⟩
  | dial index freshNonce =>
    simp only [Transport.advance]
    split
    · rename_i dialer found closed
      split
      · exact ⟨bars, nofun⟩
      · have other := bars.cluster.undialed dialer (List.mem_of_getElem? found)
        exact ⟨⟨bars.cluster, unattempted_update bars.unattempted (server?_clientOpen other) index, bars.unserved⟩, nofun⟩
    · exact ⟨bars, nofun⟩
  | clientHello index bytes written =>
    exact ⟨⟨bars.cluster, unattempted_update bars.unattempted (server?_clientReadHello (bars.unattempted index)) index,
      bars.unserved⟩, nofun⟩
  | clientSignature index bytes written resources =>
    simp only [Transport.advance]
    have now := server?_clientReadSignature scheme mesh.cluster.transport bytes written (bars.unattempted index)
    split
    · rename_i authenticated
      rw [authenticated] at now
      have nobody : ClientSession.closed.server? ≠ some node := nofun
      have closed : Mesh.Bars { mesh with attempts := Function.update mesh.attempts index .closed } node :=
        ⟨bars.cluster, unattempted_update bars.unattempted nobody index, bars.unserved⟩
      exact closed.installConnection fun same => now (by rw [← same]; rfl)
    · exact ⟨⟨bars.cluster, unattempted_update bars.unattempted now index, bars.unserved⟩, nofun⟩
  | arrive number frame =>
    obtain ⟨⟨unlisted, undialed, shut⟩, unattempted, unserved⟩ := bars
    refine ⟨⟨⟨unlisted, undialed, shut.map (fun link => ?_) fun link barred => ?_⟩, unattempted, unserved⟩, nofun⟩
    · split <;> rfl
    · rw [if_neg (by simp [barred.2])]
      exact barred
  | take number spawned =>
    simp only [Transport.advance]
    split
    · rename_i peer _ frame rest shutdown found
      have linked := List.mem_of_find?_eq_some found
      -- a connection of the node has no frame left to take
      have apart : peer ≠ node := fun own => absurd (bars.cluster.shut _ linked own).1 (List.cons_ne_nil _ _)
      have saw : ∀ seen ∈ [Observation.handled peer frame], seen.peer ≠ node := by
        intro seen among
        rw [List.mem_singleton.mp among]
        exact apart
      have taken := bars.cluster.taken number
      split
      · rename_i members
        split
        · rename_i gossips
          have unnamed : ∀ member ∈ members.take maxGossipMembers, node ≠ ⟨member.nodeId⟩ := by
            intro member among same
            exact ungrafted ⟨gossips, _, members, rest, found, rfl, member, among, same⟩
          exact ⟨⟨taken.graftMembers _ unnamed, bars.unattempted, bars.unserved⟩, saw⟩
        · exact ⟨⟨taken, bars.unattempted, bars.unserved⟩, saw⟩
      · exact ⟨⟨taken, bars.unattempted, bars.unserved⟩, saw⟩
    · exact ⟨bars, nofun⟩
  | disconnect number =>
    simp only [Transport.advance]
    split
    · obtain ⟨⟨unlisted, undialed, shut⟩, unattempted, unserved⟩ := bars
      exact ⟨⟨⟨unlisted, undialed, fun link among => shut link (List.mem_filter.mp among).1⟩, unattempted, unserved⟩, nofun⟩
    · exact ⟨bars, nofun⟩
  | writerExit number =>
    obtain ⟨⟨unlisted, undialed, shut⟩, unattempted, unserved⟩ := bars
    exact ⟨⟨⟨unlisted, undialed, shut.shut fun link => link.number = number ∧ mesh.cluster.writers link.peer ≠ some number⟩,
      unattempted, unserved⟩, nofun⟩

/-- A whole run without them does not let the node in. -/
theorem Mesh.Bars.run (bars : mesh.Bars node) (leftOut : LeftOut scheme parses node mesh events) :
    ∀ seen ∈ (run scheme parses mesh events).2, seen.peer ≠ node := by
  induction events generalizing mesh with
  | nil => nofun
  | cons event rest ih =>
    obtain ⟨unconnected, ungrafted, later⟩ := leftOut
    obtain ⟨still, saw⟩ := bars.advance unconnected ungrafted
    intro seen among
    rcases List.mem_append.mp among with now | then_
    · exact saw seen now
    · exact ih still later seen then_

/-- Forgetting a node with which nothing is under way bars it. -/
theorem Settled.bars (settled : Settled mesh node) (other : node ≠ mesh.cluster.selfNode) :
    Mesh.Bars { mesh with cluster := forgetMember mesh.cluster node } node := by
  refine ⟨?_, settled.unattempted, settled.unserved⟩
  rw [forgetMember, if_neg other]
  refine ⟨unlisted_forget _ (.inl rfl), settled.undialed, fun link among own => ?_⟩
  obtain ⟨old, before, rfl⟩ := List.mem_map.mp among
  split at own
  · rename_i registered
    rw [if_pos registered]
    exact ⟨(settled.read old before own).1, rfl⟩
  · rename_i lost
    exact absurd (settled.read old before own).2 lost

end

namespace Sample

def nonce : Nonce := Vector.replicate nonceBytes 0

/-- The node `a`, with no peers. -/
def alone : Mesh where
  cluster := .fresh ⟨"a"⟩ (keyOf 1) defaultMaxMembers true "here"
  servers := []
  attempts _ := .closed
  nextLink := 0
  maxInboundHandshakes := 64

/-- The node `a`, to which its configured peer `b` is connected. -/
def joined : Mesh :=
  { alone with
    nextLink := 1
    cluster := { alone.cluster with
      peersByPubkey := fun pubkey => if pubkey = keyOf 187 then some ⟨"b"⟩ else none
      writers := fun node => if node = ⟨"b"⟩ then some 0 else none
      sockets := fun node => if node = ⟨"b"⟩ then [0] else []
      links := [⟨0, ⟨"b"⟩, keyOf 187, [], false⟩] } }

/-- The key of `b` is shown to the listener, and its signature. -/
def knocks : List (Event scheme) :=
  [.arrive 0 (.traffic [1]), .take 0 fun _ => true, .accept (some nonce) true, .serverHello 0 (some (keyOf 187, nonce)) true,
    .serverSignature 0 (some ()) .enough]

/-- The first dialer reaches a server with the key of `b`. -/
def dials : List (Event scheme) :=
  [.dial 0 (some nonce), .clientHello 0 (some (keyOf 187, nonce)) true, .clientSignature 0 (some ()) true .enough]

theorem joined_settled : Settled joined ⟨"b"⟩ where
  undialed := nofun
  unattempted _ := nofun
  unserved := nofun
  read link among _ := by
    rw [List.mem_singleton.mp among]
    decide

end Sample

end Gawd.Transport
