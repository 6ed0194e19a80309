import Gawd.Transport.Membership

/-!
Which keys the inbound handshake accepts after a history of control operations.
-/

namespace Gawd.Transport

/-- A client that shows the key and signs with it is taken for the node. -/
def AcceptedAs (scheme : SignatureScheme) (state : TransportState) (pubkey : PublicKey) (node : NodeId) : Prop :=
  ∃ serverNonce clientNonce clientSig,
    (serverReadSignature scheme state
      (serverReadHello scheme state (.helloSent serverNonce) (some (pubkey, clientNonce)) true).session
      (some clientSig)).session = .authenticated serverNonce pubkey node

/-- The handshake goes by the allowlist alone. -/
theorem acceptedAs_iff {state : TransportState} :
    AcceptedAs scheme state pubkey node ↔ state.peersByPubkey pubkey = some node := by
  constructor
  · rintro ⟨serverNonce, clientNonce, clientSig, authenticated⟩
    cases listed : state.peersByPubkey pubkey with
    | none => simp [serverReadHello, serverReadSignature, listed] at authenticated
    | some known =>
      simp only [serverReadHello, serverReadSignature, listed, reduceIte] at authenticated
      split at authenticated <;> cases authenticated
      rfl
  · intro listed
    refine ⟨Vector.replicate _ 0, Vector.replicate _ 0, scheme.sign pubkey (handshakeTranscript (Vector.replicate _ 0) state.selfPubkey pubkey), ?_⟩
    simp only [serverReadHello, listed, reduceIte, serverReadSignature, scheme.verify_sign]

/-- A control operation of the operator, with the threads that the system lets it start. -/
structure Request where
  op : TransportCtl
  spawned : NodeId → Bool

/-- Serve operations in order, as long as none is rejected. -/
def operate (parses : String → Bool) (state : Cluster) : List Request → Option Cluster
  | [] => some state
  | request :: rest =>
    match handleCtl parses request.spawned state request.op with
    | ⟨_, .rejected _, _, _⟩ => none
    | ⟨after, _, _, _⟩ => operate parses after rest

/-- What an operation does to the key that each node was last given. -/
def assign (assigned : NodeId → Option PublicKey) : TransportCtl → NodeId → Option PublicKey
  | .connect nodeId pubkeyHex _ => Function.update assigned ⟨nodeId⟩ (canonicalPeerPubkey pubkeyHex)
  | .forget nodeId => Function.update assigned ⟨nodeId⟩ none
  | .members => assigned

/-- The key most recently admitted for each node that has not been forgotten since. -/
def assigned (history : List Request) : NodeId → Option PublicKey :=
  history.foldl (fun keys request => assign keys request.op) fun _ => none

/-- Exactly the assigned keys are accepted, each as its own node. -/
def KeysEffective (scheme : SignatureScheme) (history : List Request) (state : Cluster) : Prop :=
  ∀ pubkey node, AcceptedAs scheme state.transport pubkey node ↔ assigned history node = some pubkey

/-- The operation gives no node a second key and no key a second node. -/
def Unambiguous (history : List Request) (request : Request) : Prop :=
  ∀ nodeId pubkeyHex addr pubkey, request.op = .connect nodeId pubkeyHex addr → canonicalPeerPubkey pubkeyHex = some pubkey →
    ∀ node key, assigned history node = some key → (node = ⟨nodeId⟩ ↔ key = pubkey)

/-- What a served operation does to the allowlist. -/
inductive Served (state : Cluster) : TransportCtl → Cluster → Prop where
  | connect (other : (⟨nodeId⟩ : NodeId) ≠ state.selfNode) (canonical : canonicalPeerPubkey pubkeyHex = some pubkey)
      (self : after.selfNode = state.selfNode)
      (listed : after.peersByPubkey = Function.update state.peersByPubkey pubkey (some ⟨nodeId⟩)) :
      Served state (.connect nodeId pubkeyHex addr) after
  | forget : Served state (.forget nodeId) (forgetMember state ⟨nodeId⟩)
  | members : Served state .members state

section

variable {parses : String → Bool} {scheme : SignatureScheme} {state after : Cluster} {history : List Request} {request : Request}

@[simp] theorem assigned_concat : assigned (history ++ [request]) = assign (assigned history) request.op := by
  simp [assigned]

theorem served_of_named (named : Named parses state ⟨nodeId⟩ pubkeyHex addr after result)
    (accepted : result ≠ .refused) : Served state (.connect nodeId pubkeyHex addr) after := by
  cases named with
  | refused => exact absurd rfl accepted
  | unchanged valid other | changed valid other => exact .connect other (canonicalPeerPubkey_of_valid valid) rfl rfl

theorem served_of_operate (served : operate parses state [request] = some after) : Served state request.op after := by
  obtain ⟨op, spawned⟩ := request
  cases op with
  | forget nodeId =>
    cases served
    exact .forget
  | members =>
    cases served
    exact .members
  | connect nodeId pubkeyHex addr =>
    obtain ⟨result, named, _, rejected⟩ := named_of_connect parses spawned state nodeId pubkeyHex addr
    simp only [operate] at served
    generalize handleCtl parses spawned state (.connect nodeId pubkeyHex addr) = outcome at served named rejected
    split at served
    · cases served
    · cases served
      rename_i accepted
      refine served_of_named named fun refused => ?_
      obtain ⟨reason, same⟩ := rejected.mpr refused
      exact accepted reason same

theorem operate_concat : operate parses state (history ++ [request]) =
    (operate parses state history).bind fun middle => operate parses middle [request] := by
  induction history generalizing state with
  | nil => rfl
  | cons first rest ih =>
    simp only [List.cons_append, operate]
    split
    · rfl
    · exact ih

@[simp] theorem selfNode_forgetMember (state : Cluster) (node : NodeId) :
    (forgetMember state node).selfNode = state.selfNode := by
  unfold forgetMember
  split <;> rfl

/-- A node never admits itself. -/
theorem Served.unassigned (served : Served state op after) (self : keys state.selfNode = none) :
    assign keys op after.selfNode = none := by
  cases served with
  | connect other _ same _ => rw [same, assign, Function.update_of_ne (Ne.symm other), self]
  | @forget nodeId =>
    rw [selfNode_forgetMember, assign, Function.update_apply]
    split
    · rfl
    · exact self
  | members => exact self

/-- The allowlist holds the assigned keys, each for its node. -/
def Lists (table : PublicKey → Option NodeId) (keys : NodeId → Option PublicKey) : Prop :=
  ∀ pubkey node, table pubkey = some node ↔ keys node = some pubkey

/-- One more entry keeps the two tables inverse exactly if neither its key nor its node is in another entry. -/
theorem Lists.update_iff (lists : Lists table keys) :
    Lists (Function.update table pubkey (some node)) (Function.update keys node (some pubkey)) ↔
      ∀ other key, keys other = some key → (other = node ↔ key = pubkey) := by
  constructor
  · intro kept other key has
    constructor
    · rintro rfl
      by_contra differs
      have still := (kept key other).mp (by rw [Function.update_of_ne differs, (lists key other).mpr has])
      rw [Function.update_self] at still
      exact differs (Option.some.inj still).symm
    · rintro rfl
      by_contra differs
      have still := (kept key other).mpr (by rw [Function.update_of_ne differs, has])
      rw [Function.update_self] at still
      exact differs (Option.some.inj still).symm
  · intro apart key other
    have same := lists key other
    have apart := apart other
    simp only [Function.update_apply]
    grind

/-- Taking a node out of both tables keeps them inverse. -/
theorem Lists.erase (lists : Lists table keys) (node : NodeId) :
    Lists (fun pubkey => if table pubkey = some node then none else table pubkey) (Function.update keys node none) := by
  intro pubkey other
  have same := lists pubkey other
  simp only [Function.update_apply]
  grind

/-- One operation keeps the allowlist right exactly if it is unambiguous. -/
theorem Served.lists_iff (served : Served state request.op after) (self : assigned history state.selfNode = none)
    (lists : Lists state.peersByPubkey (assigned history)) :
    Lists after.peersByPubkey (assigned (history ++ [request])) ↔ Unambiguous history request := by
  rw [assigned_concat, Unambiguous]
  generalize request.op = op at served
  cases served with
  | connect other canonical _ listed =>
    rw [listed, assign, canonical, lists.update_iff]
    constructor
    · rintro apart _ _ _ _ ⟨⟩ same
      cases canonical.symm.trans same
      exact apart
    · intro apart
      exact apart _ _ _ _ rfl canonical
  | @forget nodeId =>
    refine iff_of_true ?_ nofun
    simp only [forgetMember, assign]
    split
    case isTrue own => rwa [own, Function.update_eq_self_iff.mpr self.symm]
    case isFalse => exact lists.erase ⟨nodeId⟩
  | members => exact iff_of_true lists nofun

theorem keysEffective_iff_lists : KeysEffective scheme history state ↔ Lists state.peersByPubkey (assigned history) := by
  simp only [KeysEffective, acceptedAs_iff, Lists]
  rfl

/-- The last operation of a served history. -/
theorem served_of_operate_concat (ran : operate parses first (history ++ [request]) = some after) :
    ∃ state, operate parses first history = some state ∧ Served state request.op after := by
  rw [operate_concat, Option.bind_eq_some_iff] at ran
  obtain ⟨state, earlier, last⟩ := ran
  exact ⟨state, earlier, served_of_operate last⟩

/-- Along a whole history a node never admits itself. -/
theorem unassigned_of_operate (initial : assigned [] first.selfNode = none)
    (ran : operate parses first history = some state) : assigned history state.selfNode = none := by
  induction history using List.reverseRecOn generalizing state with
  | nil =>
    cases ran
    exact initial
  | append_singleton history request ih =>
    obtain ⟨middle, earlier, served⟩ := served_of_operate_concat ran
    rw [assigned_concat]
    exact served.unassigned (ih earlier)

/-- For every history of served operations on a transport without configured peers: after each of them exactly the keys most
recently admitted are accepted, each as its node, if and only if none of them gives an unforgotten node another key or an
unforgotten key another node. -/
theorem keys_effective_iff (selfNode : NodeId) (selfPubkey : PublicKey) (maxMembers : Nat) (gossip : Bool)
    (advertiseAddr : String)
    (ran : operate parses (.fresh selfNode selfPubkey maxMembers gossip advertiseAddr) history = some state) :
    (∀ earlier middle, earlier <+: history →
      operate parses (.fresh selfNode selfPubkey maxMembers gossip advertiseAddr) earlier = some middle →
      KeysEffective scheme earlier middle) ↔
    ∀ earlier request, earlier ++ [request] <+: history → Unambiguous earlier request := by
  simp only [keysEffective_iff_lists]
  induction history using List.reverseRecOn generalizing state with
  | nil =>
    refine iff_of_true ?_ (by simp)
    intro earlier middle among empty
    cases List.prefix_nil.mp among
    cases empty
    exact fun _ _ => ⟨nofun, nofun⟩
  | append_singleton history request ih =>
    obtain ⟨middle, earlierRan, served⟩ := served_of_operate_concat ran
    have self := unassigned_of_operate rfl earlierRan
    have ih := ih earlierRan
    simp only [List.prefix_concat_iff]
    constructor
    · rintro effective earlier last (whole | among)
      · obtain ⟨rfl, ⟨⟩⟩ := List.append_inj' whole rfl
        have lists := effective earlier middle (.inr (List.prefix_refl earlier)) earlierRan
        exact (served.lists_iff self lists).mp (effective _ _ (.inl rfl) ran)
      · exact ih.mp (fun earlier middle among => effective earlier middle (.inr among)) earlier last among
    · rintro unambiguous earlier reached (rfl | among) reachedBy
      · cases ran.symm.trans reachedBy
        have lists := ih.mpr (fun earlier last among => unambiguous earlier last (.inr among)) _ _ (List.prefix_refl history) earlierRan
        exact (served.lists_iff self lists).mpr (unambiguous history request (.inl rfl))
      · exact ih.mpr (fun earlier last among => unambiguous earlier last (.inr among)) earlier reached among reachedBy

end

namespace Sample

/-- Sixty-four times the digit. -/
def hexOf (digit : Char) : String := String.ofList (List.replicate 64 digit)

def connect (nodeId : String) (digit : Char) (addr : String) : Request :=
  ⟨.connect nodeId (hexOf digit) addr, fun _ => true⟩

def forget (nodeId : String) : Request := ⟨.forget nodeId, fun _ => true⟩

/-- The key whose bytes are all alike. -/
def keyOf (byte : UInt8) : PublicKey := Vector.replicate pubkeyBytes byte

def scheme : SignatureScheme := ⟨Unit, fun _ _ => (), fun _ _ _ => true, fun _ _ => rfl⟩

/-- The node `a`, where every address is well formed. -/
def serve (history : List Request) : Option Cluster :=
  operate (fun _ => true) (.fresh ⟨"a"⟩ (keyOf 1) defaultMaxMembers false "") history

/-- A member is forgotten before it is given another key. -/
def rekeyed : List Request := [connect "b" 'a' "x", forget "b", connect "b" 'B' "x"]

theorem rekeyed_unambiguous (earlier : List Request) (request : Request) (among : earlier ++ [request] <+: rekeyed) :
    Unambiguous earlier request := by
  obtain ⟨rest, whole⟩ := among
  intro nodeId pubkeyHex addr pubkey op canonical node key has
  rcases earlier with _ | ⟨_, _ | ⟨_, _ | ⟨_, _⟩⟩⟩
  · cases has
  · cases whole
    cases op
  · cases whole
    simp [assigned, assign, connect, forget] at has
  · simp [rekeyed] at whole

end Sample

open Sample in
theorem keys_effective_iff_rekeyed : ∃ state, serve rekeyed = some state ∧ KeysEffective scheme rekeyed state := by
  have served : (serve rekeyed).isSome := by decide
  obtain ⟨state, ran⟩ := Option.isSome_iff_exists.mp served
  exact ⟨state, ran, (keys_effective_iff _ _ _ _ _ ran).mpr rekeyed_unambiguous rekeyed state (List.prefix_refl _) ran⟩

open Sample in
/-- A key that was replaced is still accepted. -/
theorem replaced_key_accepted : ∃ state, serve [connect "b" 'a' "x", connect "b" 'B' "x"] = some state ∧
    assigned [connect "b" 'a' "x", connect "b" 'B' "x"] ⟨"b"⟩ = some (keyOf 187) ∧
    AcceptedAs scheme state.transport (keyOf 170) ⟨"b"⟩ := by
  have served : (serve [connect "b" 'a' "x", connect "b" 'B' "x"]).map (·.peersByPubkey (keyOf 170)) = some (some ⟨"b"⟩) := by
    decide
  obtain ⟨state, ran, listed⟩ := Option.map_eq_some_iff.mp served
  exact ⟨state, ran, by decide, acceptedAs_iff.mpr listed⟩

end Gawd.Transport
