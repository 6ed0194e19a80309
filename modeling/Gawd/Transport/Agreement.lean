import Gawd.Transport.Network

/-!
Agreement of the handshake. The transcript names the owner of the nonce and its peer but not the role
of the signer, so a signature made as a server also answers a server's challenge to a client. The
runs in which no node is handed a nonce back in the role that drew it do agree.
-/

namespace Gawd.Transport

/-- No hello echoes a nonce that the holder of the claimed key drew in the role of the reader. -/
def Network.RoleFresh {scheme : SignatureScheme} (net : Network) : Action scheme → Prop
  | .hello connection (some (key, nonce)) _ =>
    match net.sessions connection with
    | some (_, .server _) => ⟨key, .server, nonce⟩ ∉ net.issued
    | some (_, .client _) => ⟨key, .client, nonce⟩ ∉ net.issued
    | none => True
  | _ => True

variable {read : Option (PublicKey × Nonce)}

namespace Network

variable {scheme : SignatureScheme} {honest : PublicKey → Prop} {net before after : Network}

/-- The holder of `key`, if honest, signed the challenge `nonce` of `owner` in some role. -/
def Answered (honest : PublicKey → Prop) (net : Network) (owner : PublicKey) (nonce : Nonce)
    (key : PublicKey) : Prop :=
  honest key → ∃ record ∈ net.signed,
    record.signer = key ∧ record.signing.transcript = handshakeTranscript nonce owner key

/-- What a connection in progress has established. -/
def SessionSound (honest : PublicKey → Prop) (net : Network) (owner : PublicKey) : Session → Prop
  | .server (.helloSent nonce) => ⟨owner, .server, nonce⟩ ∈ net.issued
  | .server (.signatureSent nonce _ _) => ⟨owner, .server, nonce⟩ ∈ net.issued
  | .server (.authenticated nonce key _) =>
    ⟨owner, .server, nonce⟩ ∈ net.issued ∧ net.Answered honest owner nonce key
  | .client (.dialed _ nonce) => ⟨owner, .client, nonce⟩ ∈ net.issued
  | .client (.helloSent _ nonce key serverNonce) =>
    ⟨owner, .client, nonce⟩ ∈ net.issued ∧ serverNonce ∈ net.heard ∧
      ⟨key, .client, serverNonce⟩ ∉ net.issued
  | .client (.authenticated _ nonce key) =>
    ⟨owner, .client, nonce⟩ ∈ net.issued ∧ net.Answered honest owner nonce key
  | .server .closed => True
  | .client .closed => True

/-- A signature covers its signer, and its nonce was not drawn by the peer in the signer's role. -/
structure RecordSound (net : Network) (record : SigningRecord) : Prop where
  transcript : record.signing.transcript =
    handshakeTranscript record.signing.nonce record.signing.peer record.signer
  heard : record.signing.nonce ∈ net.heard
  foreign : ⟨record.signing.peer, record.role, record.signing.nonce⟩ ∉ net.issued

structure RoleInvariant (honest : PublicKey → Prop) (net : Network) : Prop where
  sessions : ∀ connection owner session,
    net.sessions connection = some (owner, session) → net.SessionSound honest owner session
  records : ∀ record ∈ net.signed, net.RecordSound record

/-- The logs only grow, and a nonce drawn later was never read before. -/
structure Extends (before after : Network) : Prop where
  signed : before.signed ⊆ after.signed
  issued : before.issued ⊆ after.issued
  heard : before.heard ⊆ after.heard
  fresh : ∀ issue ∈ after.issued, issue ∈ before.issued ∨ issue.nonce ∉ before.heard

section

variable (extended : Extends before after)

include extended

theorem Extends.foreign (heard : nonce ∈ before.heard) (foreign : ⟨key, role, nonce⟩ ∉ before.issued) :
    ⟨key, role, nonce⟩ ∉ after.issued := by
  intro issued
  rcases extended.fresh _ issued with known | unread
  · exact foreign known
  · exact unread heard

theorem Answered.mono (answered : before.Answered honest owner nonce key) : after.Answered honest owner nonce key := by
  intro trusted
  obtain ⟨record, member, facts⟩ := answered trusted
  exact ⟨record, extended.signed member, facts⟩

theorem SessionSound.mono (sound : before.SessionSound honest owner session) :
    after.SessionSound honest owner session := by
  rcases session with (_ | _ | _ | _) | (_ | _ | _ | _)
  case client.helloSent =>
    exact ⟨extended.issued sound.1, extended.heard sound.2.1, extended.foreign sound.2.1 sound.2.2⟩
  case server.authenticated => exact ⟨extended.issued sound.1, sound.2.mono extended⟩
  case client.authenticated => exact ⟨extended.issued sound.1, sound.2.mono extended⟩
  case server.closed => trivial
  case client.closed => trivial
  all_goals exact extended.issued sound

theorem RecordSound.mono (sound : before.RecordSound record) :
    after.RecordSound record where
  transcript := sound.transcript
  heard := extended.heard sound.heard
  foreign := extended.foreign sound.heard sound.foreign

end

theorem extends_advance (net : Network) (connection : Nat) (owner : PublicKey) (role : Role) (session : Session)
    (signed : Option Signing) : Extends net (net.advance connection owner role session signed) where
  signed := List.subset_append_right _ _
  issued := List.Subset.refl _
  heard := List.Subset.refl _
  fresh _ member := .inl member

theorem extends_hear (net : Network) (read : Option (PublicKey × Nonce)) : Extends net (net.hear read) where
  signed := List.Subset.refl _
  issued := List.Subset.refl _
  heard := List.subset_append_right _ _
  fresh _ member := .inl member

theorem extends_issue (owner : PublicKey) (role : Role) (fresh : ∀ value ∈ nonce, net.Fresh value) :
    Extends net (net.issue owner role nonce) where
  signed := List.Subset.refl _
  issued := List.subset_append_right _ _
  heard := List.Subset.refl _
  fresh issue member := by
    rcases List.mem_append.mp member with drawn | known
    · obtain ⟨value, some, rfl⟩ := Option.map_eq_some_iff.mp (Option.mem_toList.mp drawn)
      exact .inr (fresh value some).2
    · exact .inl known

theorem RoleInvariant.extend (valid : before.RoleInvariant honest) (extended : Extends before after)
    (sessions : after.sessions = before.sessions) (signed : after.signed = before.signed) :
    after.RoleInvariant honest where
  sessions connection owner session found :=
    (valid.sessions connection owner session (sessions ▸ found)).mono extended
  records record member := (valid.records record (signed ▸ member)).mono extended

section

variable (valid : net.RoleInvariant honest)

include valid

/-- One connection moves to a sound session and signs at most one sound transcript. -/
theorem RoleInvariant.advance {signed : Option Signing}
    (session : (net.advance connection owner role next signed).SessionSound honest owner next)
    (record : ∀ signing ∈ signed, net.RecordSound ⟨owner, role, signing⟩) :
    (net.advance connection owner role next signed).RoleInvariant honest := by
  have extended := net.extends_advance connection owner role next signed
  constructor
  · intro other holder current found
    by_cases same : other = connection
    · subst other
      simp only [Network.advance, Function.update_self, Option.some.injEq, Prod.mk.injEq] at found
      obtain ⟨rfl, rfl⟩ := found
      exact session
    · simp only [Network.advance, Function.update_of_ne same] at found
      exact (valid.sessions other holder current found).mono extended
  · intro entry member
    rcases List.mem_append.mp member with new | old
    · obtain ⟨signing, made, rfl⟩ := Option.map_eq_some_iff.mp (Option.mem_toList.mp new)
      exact (record signing made).mono extended
    · exact (valid.records entry old).mono extended

theorem RoleInvariant.openServer (fresh : ∀ value ∈ nonce, net.Fresh value) :
    (net.perform (.openServer connection owner nonce written : Action scheme)).RoleInvariant honest := by
  have issued := valid.extend (extends_issue owner .server fresh) rfl rfl
  cases nonce with
  | none => exact issued.advance trivial (by simp [serverOpen])
  | some nonce =>
    cases written with
    | true => exact issued.advance (List.mem_cons_self ..) (by simp [serverOpen])
    | false => exact issued.advance trivial (by simp [serverOpen])

theorem RoleInvariant.openClient (fresh : ∀ value ∈ nonce, net.Fresh value) :
    (net.perform (.openClient connection owner peer nonce : Action scheme)).RoleInvariant honest := by
  have issued := valid.extend (extends_issue owner .client fresh) rfl rfl
  cases nonce with
  | none => exact issued.advance trivial (by simp [clientOpen])
  | some nonce => exact issued.advance (List.mem_cons_self ..) (by simp [clientOpen])

theorem RoleInvariant.helloToServer (found : net.sessions connection = some (owner, .server session))
    (roleFresh : ∀ key nonce, read = some (key, nonce) → ⟨key, .server, nonce⟩ ∉ net.issued) :
    (net.perform (.hello connection read written : Action scheme)).RoleInvariant honest := by
  have heard := valid.extend (net.extends_hear read) rfl rfl
  have sound := heard.sessions connection owner (.server session) found
  simp only [perform, found]
  rcases session with nonce | _ | _ | _
  case helloSent =>
    rcases read with _ | ⟨key, clientNonce⟩
    · exact heard.advance trivial (by simp [serverReadHello])
    · have record : (net.hear (some (key, clientNonce))).RecordSound ⟨owner, .server,
          ⟨clientNonce, key, handshakeTranscript clientNonce key owner⟩⟩ :=
        ⟨rfl, List.mem_cons_self .., roleFresh key clientNonce rfl⟩
      cases known : net.allowlist owner key with
      | none =>
        simp only [serverReadHello, state, known]
        exact heard.advance trivial (by simp)
      | some node =>
        cases written <;> simp only [serverReadHello, state, known]
        · exact heard.advance trivial (by simpa using record)
        · exact heard.advance sound (by simpa using record)
  all_goals exact heard.advance (sound.mono (extends_advance ..)) (by simp [serverReadHello])

theorem RoleInvariant.helloToClient (found : net.sessions connection = some (owner, .client session))
    (roleFresh : ∀ key nonce, read = some (key, nonce) → ⟨key, .client, nonce⟩ ∉ net.issued) :
    (net.perform (.hello connection read written : Action scheme)).RoleInvariant honest := by
  have heard := valid.extend (net.extends_hear read) rfl rfl
  have sound := heard.sessions connection owner (.client session) found
  simp only [perform, found]
  rcases session with ⟨peer, nonce⟩ | _ | _ | _
  case dialed =>
    rcases read with _ | ⟨key, serverNonce⟩
    · exact heard.advance trivial (by simp [clientReadHello])
    · by_cases expected : key = peer.pubkey
      · cases written <;>
          simp only [clientReadHello, expected, ne_eq, not_true_eq_false, Bool.false_eq_true, if_false, if_true]
        · exact heard.advance trivial (by simp)
        · exact heard.advance ⟨sound, List.mem_cons_self .., expected ▸ roleFresh key serverNonce rfl⟩
            (by simp)
      · simp only [clientReadHello, ne_eq, expected, not_false_eq_true, if_true]
        exact heard.advance trivial (by simp)
  all_goals exact heard.advance (sound.mono (extends_advance ..)) (by simp [clientReadHello])

end

/-- A signature that verifies under an honest key answers the challenge it was checked against. -/
theorem Unforged.answered (unforged : net.Unforged honest value)
    (verified : scheme.verify key (handshakeTranscript nonce owner key) value = true) :
    net.Answered honest owner nonce key :=
  fun trusted => unforged key _ trusted verified

section

variable (valid : net.RoleInvariant honest)

include valid

theorem RoleInvariant.signatureToServer {read : Option scheme.Signature}
    (found : net.sessions connection = some (owner, .server session))
    (unforged : ∀ value ∈ read, net.Unforged honest value) :
    (net.perform (.signature connection read written : Action scheme)).RoleInvariant honest := by
  have sound := valid.sessions connection owner (.server session) found
  simp only [perform, found]
  rcases session with _ | ⟨nonce, key, node⟩ | _ | _
  case signatureSent =>
    cases read with
    | none => exact valid.advance trivial (by simp [serverReadSignature])
    | some value =>
      cases verified : scheme.verify key (handshakeTranscript nonce owner key) value with
      | true =>
        simp only [serverReadSignature, state, verified, if_true]
        have answered := (unforged value rfl).answered verified
        exact valid.advance ⟨sound, answered.mono (extends_advance ..)⟩ (by simp)
      | false =>
        simp only [serverReadSignature, state, verified]
        exact valid.advance trivial (by simp)
  all_goals exact valid.advance (sound.mono (extends_advance ..)) (by simp [serverReadSignature])

theorem RoleInvariant.signatureToClient {read : Option scheme.Signature}
    (found : net.sessions connection = some (owner, .client session))
    (unforged : ∀ value ∈ read, net.Unforged honest value) :
    (net.perform (.signature connection read written : Action scheme)).RoleInvariant honest := by
  have sound := valid.sessions connection owner (.client session) found
  simp only [perform, found]
  rcases session with _ | ⟨peer, nonce, key, serverNonce⟩ | _ | _
  case helloSent =>
    cases read with
    | none => exact valid.advance trivial (by simp [clientReadSignature])
    | some value =>
      have record : net.RecordSound ⟨owner, .client,
          ⟨serverNonce, key, handshakeTranscript serverNonce key owner⟩⟩ :=
        ⟨rfl, sound.2.1, sound.2.2⟩
      cases verified : scheme.verify key (handshakeTranscript nonce owner key) value with
      | true =>
        have answered := (unforged value rfl).answered verified
        cases written <;> simp only [clientReadSignature, state, verified, if_true]
        · exact valid.advance trivial (by simpa using record)
        · exact valid.advance ⟨sound.1, answered.mono (extends_advance ..)⟩ (by simpa using record)
      | false =>
        simp only [clientReadSignature, state, verified]
        exact valid.advance trivial (by simp)
  all_goals exact valid.advance (sound.mono (extends_advance ..)) (by simp [clientReadSignature])

theorem RoleInvariant.perform (admissible : net.Admissible honest action) (roleFresh : net.RoleFresh action) :
    (net.perform action).RoleInvariant honest := by
  cases action with
  | openServer => exact valid.openServer admissible.2.2
  | openClient => exact valid.openClient admissible.2.2
  | hello connection read written =>
    rcases found : net.sessions connection with _ | ⟨owner, session | session⟩
    · simpa only [Network.perform, found] using valid
    · refine valid.helloToServer found ?_
      rintro key nonce rfl
      simpa only [RoleFresh, found] using roleFresh
    · refine valid.helloToClient found ?_
      rintro key nonce rfl
      simpa only [RoleFresh, found] using roleFresh
  | signature connection read written =>
    rcases found : net.sessions connection with _ | ⟨owner, session | session⟩
    · simpa only [Network.perform, found] using valid
    · exact valid.signatureToServer found admissible
    · exact valid.signatureToClient found admissible
  | allow owner peers =>
    exact valid.extend ⟨List.Subset.refl _, List.Subset.refl _, List.Subset.refl _, fun _ => .inl⟩ rfl rfl

end

theorem RoleInvariant.initial (start : net.Initial honest) : net.RoleInvariant honest := by
  obtain ⟨_, idle, unsigned, _, _⟩ := start
  constructor
  · simp [idle]
  · simp [unsigned]

/-- With the roles kept apart, an answered challenge was answered in the other role. -/
theorem RoleInvariant.signedInRole (valid : net.RoleInvariant honest) (issued : ⟨owner, role, nonce⟩ ∈ net.issued)
    (answered : net.Answered honest owner nonce key) (trusted : honest key) :
    ∃ other, other ≠ role ∧ net.SignedInRole key other owner nonce := by
  obtain ⟨record, member, rfl, same⟩ := answered trusted
  have sound := valid.records record member
  obtain ⟨sameNonce, samePeer, _⟩ := handshakeTranscript_inj.mp (sound.transcript.symm.trans same)
  refine ⟨record.role, ?_, record, member, rfl, rfl, samePeer, sameNonce⟩
  rintro rfl
  exact sound.foreign (samePeer ▸ sameNonce ▸ issued)

theorem RoleInvariant.agreement (valid : net.RoleInvariant honest) : net.Agreement honest where
  server connection owner nonce key node found trusted := by
    obtain ⟨issued, answered⟩ := valid.sessions connection owner _ found
    obtain ⟨_ | _, differs, signed⟩ := valid.signedInRole issued answered trusted
    · exact absurd rfl differs
    · exact signed
  client connection owner peer nonce key found trusted := by
    obtain ⟨issued, answered⟩ := valid.sessions connection owner _ found
    obtain ⟨_ | _, differs, signed⟩ := valid.signedInRole issued answered trusted
    · exact signed
    · exact absurd rfl differs

end Network

/-- In every run in which no hello echoes a nonce into the role that drew it, both sides agree. -/
theorem agreement_of_roleFresh {scheme : SignatureScheme} {honest : PublicKey → Prop} {net : Network}
    (reached : ((handshakes scheme honest).restrict Network.RoleFresh).Reachable net) :
    net.Agreement honest := by
  have valid : net.RoleInvariant honest :=
    reached.invariant (fun _ start => .initial start) (by
      rintro before action after valid ⟨⟨admissible, rfl⟩, roleFresh⟩
      exact valid.perform admissible roleFresh)
  exact valid.agreement

section Examples

/-- Signatures that show who signed what. -/
def tagScheme : SignatureScheme where
  Signature := PublicKey × List UInt8
  sign := Prod.mk
  verify key message value := decide (value = (key, message))
  verify_sign := by simp

def alice : PublicKey := Vector.replicate 32 1

def bob : PublicKey := Vector.replicate 32 2

def aliceNonce : Nonce := Vector.replicate 32 3

def bobNonce : Nonce := Vector.replicate 32 4

def aliceOrBob (key : PublicKey) : Prop :=
  key = alice ∨ key = bob

/-- Two honest nodes that know each other, before any handshake. -/
def idle : Network where
  allowlist _ _ := some ⟨"peer"⟩
  sessions _ := none
  signed := []
  issued := []
  heard := []

theorem idle_initial : idle.Initial aliceOrBob :=
  ⟨fun _ _ _ _ => rfl, fun _ => rfl, rfl, rfl, rfl⟩

theorem unforged_of_signed {net : Network} (record : SigningRecord) (member : record ∈ net.signed) :
    ∀ value ∈ some (tagScheme.sign record.signer record.signing.transcript), net.Unforged honest value := by
  rintro value ⟨⟩ key message _ verified
  simp only [tagScheme, decide_eq_true_eq, Prod.mk.injEq] at verified
  exact ⟨record, member, verified⟩

/-- Both nodes listen; the attacker answers Bob's challenge with the signature Alice makes as a server. -/
def reflection : List (Action tagScheme) :=
  [.openServer 0 bob (some bobNonce) true,
   .openServer 1 alice (some aliceNonce) true,
   .hello 0 (some (alice, aliceNonce)) true,
   .hello 1 (some (bob, bobNonce)) true,
   .signature 0 (some (tagScheme.sign alice (handshakeTranscript bobNonce bob alice))) true]

theorem reflection_path :
    (handshakes tagScheme aliceOrBob).Path idle reflection (reflection.foldl Network.perform idle) := by
  refine .cons ⟨⟨.inr rfl, rfl, ?_⟩, rfl⟩ (.cons ⟨⟨.inl rfl, rfl, ?_⟩, rfl⟩
    (.cons ⟨trivial, rfl⟩ (.cons ⟨trivial, rfl⟩ (.cons ⟨?_, rfl⟩ .nil))))
  · simp [Network.Fresh, idle]
  · simp only [Option.mem_def, Option.some.injEq, forall_eq']
    exact ⟨by decide, by decide⟩
  · exact unforged_of_signed ⟨alice, .server, bobNonce, bob, handshakeTranscript bobNonce bob alice⟩
      (List.mem_cons_self ..)

theorem reflection_sessions : (reflection.foldl Network.perform idle).sessions 0 =
    some (bob, .server (.authenticated bobNonce alice ⟨"peer"⟩)) := by
  simp [reflection, Network.perform, idle, Network.issue, Network.advance, Network.hear, serverOpen,
    serverReadHello, serverReadSignature, Network.state, tagScheme.verify_sign]

theorem reflection_signed : ∀ record ∈ (reflection.foldl Network.perform idle).signed,
    record.role = .server := by
  simp [reflection, Network.perform, idle, Network.issue, Network.advance, Network.hear, serverOpen,
    serverReadHello, serverReadSignature, Network.state, tagScheme.verify_sign]

/-- Bob takes the attacker for Alice although Alice never dialed him. -/
theorem agreement_fails_reflection : ¬ ∀ (scheme : SignatureScheme) (honest : PublicKey → Prop)
    (net : Network), (handshakes scheme honest).Reachable net → net.Agreement honest := by
  intro claim
  have reached := (Logic.TransitionSystem.Reachable.start idle_initial).path reflection_path
  obtain ⟨record, member, _, role, _⟩ :=
    (claim tagScheme aliceOrBob _ reached).server 0 _ _ _ _ reflection_sessions (.inl rfl)
  rw [reflection_signed record member] at role
  cases role

/-- Alice dials Bob and every message is delivered as sent. -/
def dialing : List (Action tagScheme) :=
  [.openServer 0 bob (some bobNonce) true,
   .openClient 1 alice ⟨⟨"peer"⟩, bob⟩ (some aliceNonce),
   .hello 1 (some (bob, bobNonce)) true,
   .hello 0 (some (alice, aliceNonce)) true,
   .signature 1 (some (tagScheme.sign bob (handshakeTranscript aliceNonce alice bob))) true,
   .signature 0 (some (tagScheme.sign alice (handshakeTranscript bobNonce bob alice))) true]

theorem dialing_path : ((handshakes tagScheme aliceOrBob).restrict Network.RoleFresh).Path idle dialing
    (dialing.foldl Network.perform idle) := by
  refine .cons ⟨⟨⟨.inr rfl, rfl, ?_⟩, rfl⟩, trivial⟩ (.cons ⟨⟨⟨.inl rfl, rfl, ?_⟩, rfl⟩, trivial⟩
    (.cons ⟨⟨trivial, rfl⟩, ?_⟩ (.cons ⟨⟨trivial, rfl⟩, ?_⟩ (.cons ⟨⟨?_, rfl⟩, trivial⟩
      (.cons ⟨⟨?_, rfl⟩, trivial⟩ .nil)))))
  · simp [Network.Fresh, idle]
  · simp only [Option.mem_def, Option.some.injEq, forall_eq']
    exact ⟨by decide, by decide⟩
  · simp [Network.RoleFresh, Network.perform, idle, Network.issue, Network.advance]
    decide
  · simp [Network.RoleFresh, Network.perform, idle, Network.issue, Network.advance, Network.hear]
    decide
  · exact unforged_of_signed ⟨bob, .server, aliceNonce, alice, handshakeTranscript aliceNonce alice bob⟩
      (List.mem_cons_self ..)
  · refine unforged_of_signed ⟨alice, .client, bobNonce, bob, handshakeTranscript bobNonce bob alice⟩ ?_
    simp [Network.perform, idle, Network.issue, Network.advance, Network.hear, Network.state, serverOpen,
      serverReadHello, clientOpen, clientReadHello, clientReadSignature, tagScheme.verify_sign]

theorem dialing_sessions : (dialing.foldl Network.perform idle).sessions 0 =
        some (bob, .server (.authenticated bobNonce alice ⟨"peer"⟩)) ∧
      (dialing.foldl Network.perform idle).sessions 1 =
        some (alice, .client (.authenticated ⟨⟨"peer"⟩, bob⟩ aliceNonce bob)) := by
  simp [dialing, Network.perform, idle, Network.issue, Network.advance, Network.hear, Network.state,
    serverOpen, serverReadHello, serverReadSignature, clientOpen, clientReadHello, clientReadSignature,
    tagScheme.verify_sign]

/-- The undisturbed handshake completes on both sides, and both agree. -/
theorem agreement_of_roleFresh_dialing :
    (dialing.foldl Network.perform idle).SignedInRole alice .client bob bobNonce ∧
      (dialing.foldl Network.perform idle).SignedInRole bob .server alice aliceNonce := by
  have agreed := agreement_of_roleFresh
    ((Logic.TransitionSystem.Reachable.start idle_initial).path dialing_path)
  exact ⟨agreed.server 0 _ _ _ _ dialing_sessions.1 (.inl rfl),
    agreed.client 1 _ _ _ _ dialing_sessions.2 (.inr rfl)⟩

end Examples

end Gawd.Transport
