import Gawd.Logic.TransitionSystem
import Gawd.Transport.Handshake

/-!
Honest nodes that run any number of handshakes in both roles over a network the attacker controls.

Every byte an honest node reads is chosen by the attacker. What the attacker cannot do is produce a
signature that verifies under an honest key and that its holder never made.
-/

namespace Gawd.Transport

inductive Role where
  | server
  | client
deriving DecidableEq

inductive Session where
  | server (session : ServerSession)
  | client (session : ClientSession)

/-- A signature an honest node made, with the role it was playing. -/
structure SigningRecord where
  signer : PublicKey
  role : Role
  signing : Signing

structure IssuedNonce where
  owner : PublicKey
  role : Role
  nonce : Nonce
deriving DecidableEq

/-- All handshake state of the honest nodes, connections numbered in any order. -/
structure Network where
  allowlist : PublicKey → PublicKey → Option NodeId
  sessions : Nat → Option (PublicKey × Session)
  signed : List SigningRecord
  issued : List IssuedNonce
  heard : List Nonce

/-- The attacker's schedule: which connection makes progress and what it reads. -/
inductive Action (scheme : SignatureScheme) where
  | openServer (connection : Nat) (owner : PublicKey) (freshNonce : Option Nonce) (written : Bool)
  | openClient (connection : Nat) (owner : PublicKey) (peer : PeerConfig) (freshNonce : Option Nonce)
  | hello (connection : Nat) (read : Option (PublicKey × Nonce)) (written : Bool)
  | signature (connection : Nat) (read : Option scheme.Signature) (written : Bool)
  | allow (owner : PublicKey) (peers : PublicKey → Option NodeId)

namespace Network

def state (net : Network) (owner : PublicKey) : TransportState where
  selfPubkey := owner
  peersByPubkey := net.allowlist owner

/-- Store a connection's next session and log what its owner signed meanwhile. -/
def advance (net : Network) (connection : Nat) (owner : PublicKey) (role : Role) (session : Session)
    (signed : Option Signing) : Network where
  allowlist := net.allowlist
  sessions := Function.update net.sessions connection (some (owner, session))
  signed := (signed.map fun signing => ⟨owner, role, signing⟩).toList ++ net.signed
  issued := net.issued
  heard := net.heard

def issue (net : Network) (owner : PublicKey) (role : Role) (nonce : Option Nonce) : Network :=
  { net with issued := (nonce.map fun nonce => ⟨owner, role, nonce⟩).toList ++ net.issued }

def hear (net : Network) (read : Option (PublicKey × Nonce)) : Network :=
  { net with heard := (read.map Prod.snd).toList ++ net.heard }

variable {scheme : SignatureScheme}

def perform (net : Network) : Action scheme → Network
  | .openServer connection owner freshNonce written =>
    let outcome := serverOpen scheme (net.state owner) freshNonce written
    (net.issue owner .server freshNonce).advance connection owner .server (.server outcome.session)
      outcome.signed
  | .openClient connection owner peer freshNonce =>
    let outcome := clientOpen scheme peer freshNonce
    (net.issue owner .client freshNonce).advance connection owner .client (.client outcome.session)
      outcome.signed
  | .hello connection read written =>
    match net.sessions connection with
    | none => net
    | some (owner, .server session) =>
      let outcome := serverReadHello scheme (net.state owner) session read written
      (net.hear read).advance connection owner .server (.server outcome.session) outcome.signed
    | some (owner, .client session) =>
      let outcome := clientReadHello scheme (net.state owner) session read written
      (net.hear read).advance connection owner .client (.client outcome.session) outcome.signed
  | .signature connection read written =>
    match net.sessions connection with
    | none => net
    | some (owner, .server session) =>
      let outcome := serverReadSignature scheme (net.state owner) session read
      net.advance connection owner .server (.server outcome.session) outcome.signed
    | some (owner, .client session) =>
      let outcome := clientReadSignature scheme (net.state owner) session read written
      net.advance connection owner .client (.client outcome.session) outcome.signed
  | .allow owner peers => { net with allowlist := Function.update net.allowlist owner peers }

/-- A nonce nobody drew and no honest node has read before. -/
def Fresh (net : Network) (nonce : Nonce) : Prop :=
  (∀ issue ∈ net.issued, issue.nonce ≠ nonce) ∧ nonce ∉ net.heard

/-- A signature that is no forgery under an honest key. -/
def Unforged (honest : PublicKey → Prop) (net : Network) (value : scheme.Signature) : Prop :=
  ∀ key message, honest key → scheme.verify key message value = true →
    ∃ record ∈ net.signed, record.signer = key ∧ record.signing.transcript = message

/-- What the network may do: fresh nonces for honest sessions, no forged signatures. -/
def Admissible (honest : PublicKey → Prop) (net : Network) : Action scheme → Prop
  | .openServer connection owner freshNonce _ =>
    honest owner ∧ net.sessions connection = none ∧ ∀ nonce ∈ freshNonce, net.Fresh nonce
  | .openClient connection owner _ freshNonce =>
    honest owner ∧ net.sessions connection = none ∧ ∀ nonce ∈ freshNonce, net.Fresh nonce
  | .hello .. => True
  | .signature _ read _ => ∀ value ∈ read, net.Unforged honest value
  | .allow owner _ => honest owner

/-- Honest nodes that allowlist each other and have not run a handshake yet. -/
def Initial (honest : PublicKey → Prop) (net : Network) : Prop :=
  (∀ owner peer, honest owner → honest peer → (net.allowlist owner peer).isSome) ∧
    (∀ connection, net.sessions connection = none) ∧ net.signed = [] ∧ net.issued = [] ∧ net.heard = []

end Network

/-- The handshake protocol under the active attacker. -/
def handshakes (scheme : SignatureScheme) (honest : PublicKey → Prop) :
    Logic.TransitionSystem Network (Action scheme) where
  start := Network.Initial honest
  step before action after := before.Admissible honest action ∧ after = before.perform action

/-- The holder of `key` signed `nonce` for `peer` while playing `role`. -/
def Network.SignedInRole (net : Network) (key : PublicKey) (role : Role) (peer : PublicKey)
    (nonce : Nonce) : Prop :=
  ∃ record ∈ net.signed, record.signer = key ∧ record.role = role ∧ record.signing.peer = peer ∧
    record.signing.nonce = nonce

/-- Whoever completed a handshake with an honest key did so with its holder in the opposite role. -/
structure Network.Agreement (honest : PublicKey → Prop) (net : Network) : Prop where
  server : ∀ connection owner nonce key node,
    net.sessions connection = some (owner, .server (.authenticated nonce key node)) → honest key →
      net.SignedInRole key .client owner nonce
  client : ∀ connection owner peer nonce key,
    net.sessions connection = some (owner, .client (.authenticated peer nonce key)) → honest key →
      net.SignedInRole key .server owner nonce

end Gawd.Transport
