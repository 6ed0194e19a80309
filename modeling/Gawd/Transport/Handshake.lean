import Mathlib

/-!
The mutual authentication handshake of `transport-tcp`: what each side reads, checks, signs, writes
and publishes, one function for every blocking read of the two handshake routines.
-/

namespace Gawd.Transport

def handshakeDomain : List UInt8 := "GAWD-NODE-AUTH-v1:".toUTF8.toList

def pubkeyBytes : Nat := 32

def nonceBytes : Nat := 32

abbrev PublicKey := Vector UInt8 pubkeyBytes

abbrev Nonce := Vector UInt8 nonceBytes

structure NodeId where
  name : String
deriving DecidableEq

/-- The Ed25519 operations the handshake calls, signatures kept abstract. -/
structure SignatureScheme where
  Signature : Type
  sign : PublicKey → List UInt8 → Signature
  verify : PublicKey → List UInt8 → Signature → Bool
  verify_sign : ∀ key message, verify key message (sign key message) = true

/-- The bytes both sides sign: the side that owns the nonce comes first. -/
def handshakeTranscript (nonce : Nonce) (ownerPk peerPk : PublicKey) : List UInt8 :=
  handshakeDomain ++ nonce.toList ++ ownerPk.toList ++ peerPk.toList

/-- Fixed-width fields make the transcript unambiguous. -/
theorem handshakeTranscript_inj : handshakeTranscript nonce owner peer = handshakeTranscript nonce' owner' peer' ↔
      nonce = nonce' ∧ owner = owner' ∧ peer = peer' := by
  constructor
  · intro same
    have widths {n : Nat} (left right : Vector UInt8 n) : left.toList.length = right.toList.length := by
      simp
    obtain ⟨front, last⟩ := List.append_inj' same (widths peer peer')
    obtain ⟨front, middle⟩ := List.append_inj' front (widths owner owner')
    have first := List.append_cancel_left front
    exact ⟨Vector.toList_inj.mp first, Vector.toList_inj.mp middle, Vector.toList_inj.mp last⟩
  · rintro ⟨rfl, rfl, rfl⟩
    rfl

def hexEncode (bytes : List UInt8) : String :=
  String.ofList (bytes.flatMap fun byte => [Nat.digitChar (byte.toNat / 16), Nat.digitChar (byte.toNat % 16)])

/-- A proprioception event about one peer. -/
structure PeerEvent where
  peer : NodeId
  event : String
deriving DecidableEq

/-- The peer a dialer was configured with. -/
structure PeerConfig where
  nodeId : NodeId
  pubkey : PublicKey
deriving DecidableEq

/-- What the handshake reads of a node: its key and the allowlist at that instant. -/
structure TransportState where
  selfPubkey : PublicKey
  peersByPubkey : PublicKey → Option NodeId

inductive Message (scheme : SignatureScheme) where
  | hello (pubkey : PublicKey) (nonce : Nonce)
  | signature (value : scheme.Signature)

/-- One transcript a node signed, with the nonce and the peer key it took from the connection. -/
structure Signing where
  nonce : Nonce
  peer : PublicKey
  transcript : List UInt8

/-- The effects of one stretch of handshake code between two blocking reads. -/
structure Outcome (scheme : SignatureScheme) (Session : Type) where
  session : Session
  signed : Option Signing := none
  sent : List (Message scheme) := []
  published : List PeerEvent := []

/-- Where `server_handshake_and_run` stands. -/
inductive ServerSession where
  | helloSent (serverNonce : Nonce)
  | signatureSent (serverNonce : Nonce) (clientPubkey : PublicKey) (clientNode : NodeId)
  | authenticated (serverNonce : Nonce) (clientPubkey : PublicKey) (clientNode : NodeId)
  | closed

/-- Where `client_handshake_and_run` stands. -/
inductive ClientSession where
  | dialed (peer : PeerConfig) (clientNonce : Nonce)
  | helloSent (peer : PeerConfig) (clientNonce : Nonce) (serverPubkey : PublicKey) (serverNonce : Nonce)
  | authenticated (peer : PeerConfig) (clientNonce : Nonce) (serverPubkey : PublicKey)
  | closed

section

variable (scheme : SignatureScheme) (state : TransportState)

/-- Step 1 of the server: draw a nonce, send key and nonce. -/
def serverOpen (freshNonce : Option Nonce) (written : Bool) : Outcome scheme ServerSession :=
  match freshNonce with
  | none => { session := .closed }
  | some serverNonce =>
    if written then
      { session := .helloSent serverNonce, sent := [.hello state.selfPubkey serverNonce] }
    else
      { session := .closed }

/-- Steps 2 and 3 of the server: admit the claimed client key, sign the client's nonce. -/
def serverReadHello (session : ServerSession) (read : Option (PublicKey × Nonce)) (written : Bool) :
    Outcome scheme ServerSession :=
  match session, read with
  | .helloSent serverNonce, some (clientPubkey, clientNonce) =>
    match state.peersByPubkey clientPubkey with
    | none =>
      { session := .closed
        published := [⟨⟨hexEncode clientPubkey.toList⟩, "peer_auth_failed:unknown_pubkey"⟩] }
    | some clientNode =>
      let transcript := handshakeTranscript clientNonce clientPubkey state.selfPubkey
      if written then
        { session := .signatureSent serverNonce clientPubkey clientNode
          signed := some ⟨clientNonce, clientPubkey, transcript⟩
          sent := [.signature (scheme.sign state.selfPubkey transcript)] }
      else
        { session := .closed, signed := some ⟨clientNonce, clientPubkey, transcript⟩ }
  | .helloSent _, none => { session := .closed }
  | session, _ => { session }

/-- Step 4 of the server: verify the client's signature over the server's nonce. -/
def serverReadSignature (session : ServerSession) (read : Option scheme.Signature) :
    Outcome scheme ServerSession :=
  match session, read with
  | .signatureSent serverNonce clientPubkey clientNode, some clientSig =>
    let expected := handshakeTranscript serverNonce state.selfPubkey clientPubkey
    if scheme.verify clientPubkey expected clientSig then
      { session := .authenticated serverNonce clientPubkey clientNode }
    else
      { session := .closed, published := [⟨clientNode, "peer_auth_failed:bad_sig"⟩] }
  | .signatureSent .., none => { session := .closed }
  | session, _ => { session }

/-- The client draws its nonce before it reads anything. -/
def clientOpen (peer : PeerConfig) (freshNonce : Option Nonce) : Outcome scheme ClientSession :=
  match freshNonce with
  | none => { session := .closed, published := [⟨peer.nodeId, "peer_auth_failed:rng"⟩] }
  | some clientNonce => { session := .dialed peer clientNonce }

/-- Steps 1 and 2 of the client: expect the configured server key, send key and nonce. -/
def clientReadHello (session : ClientSession) (read : Option (PublicKey × Nonce)) (written : Bool) :
    Outcome scheme ClientSession :=
  match session, read with
  | .dialed peer clientNonce, some (serverPubkey, serverNonce) =>
    if serverPubkey ≠ peer.pubkey then
      { session := .closed, published := [⟨peer.nodeId, "peer_auth_failed:wrong_server_pubkey"⟩] }
    else if written then
      { session := .helloSent peer clientNonce serverPubkey serverNonce
        sent := [.hello state.selfPubkey clientNonce] }
    else
      { session := .closed }
  | .dialed .., none => { session := .closed }
  | session, _ => { session }

/-- Steps 3 and 4 of the client: verify the server's signature, then sign the server's nonce. -/
def clientReadSignature (session : ClientSession) (read : Option scheme.Signature) (written : Bool) :
    Outcome scheme ClientSession :=
  match session, read with
  | .helloSent peer clientNonce serverPubkey serverNonce, some serverSig =>
    let expected := handshakeTranscript clientNonce state.selfPubkey serverPubkey
    if scheme.verify serverPubkey expected serverSig then
      let transcript := handshakeTranscript serverNonce serverPubkey state.selfPubkey
      if written then
        { session := .authenticated peer clientNonce serverPubkey
          signed := some ⟨serverNonce, serverPubkey, transcript⟩
          sent := [.signature (scheme.sign state.selfPubkey transcript)] }
      else
        { session := .closed, signed := some ⟨serverNonce, serverPubkey, transcript⟩ }
    else
      { session := .closed, published := [⟨peer.nodeId, "peer_auth_failed:bad_server_sig"⟩] }
  | .helloSent .., none => { session := .closed }
  | session, _ => { session }

end

end Gawd.Transport
