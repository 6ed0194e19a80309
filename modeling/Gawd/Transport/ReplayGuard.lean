import Gawd.Transport.Inbound

/-!
The replay guard of an attesting transport, over the frames, installs and Forget operations of all peers.
-/

namespace Gawd.Transport

/-- The watermarks of a peer are dropped. -/
def resetOriginWatermarks (state : InboundState) (peer : NodeId) : InboundState :=
  { state with originSeq := fun key => if key.1 = peer then none else state.originSeq key }

/-- What touches the watermarks: a reader delivers a frame, a connection is installed, another node is forgotten. -/
inductive LinkEvent where
  | frame (envelope : Envelope) (peer : NodeId) (peerPubkey : String)
  | install (peer : NodeId)
  | forget (node : NodeId)

def LinkEvent.apply (verify : String → Envelope → Bool) (state : InboundState) : LinkEvent → InboundState × List Effect
  | .frame envelope peer peerPubkey => deliverLocally verify state envelope peer peerPubkey
  | .install peer | .forget peer => (resetOriginWatermarks state peer, [])

def Effect.isEmit : Effect → Bool
  | .emit .. => true
  | _ => false

/-- The sequence of a frame of the sender that is put on the bus. -/
def LinkEvent.deliveredSeq (peer : NodeId) (sender : Nat) (effects : List Effect) : LinkEvent → Option Nat
  | .frame envelope via _ =>
    if (via = peer ∧ envelope.header.sender = .creature sender) ∧ effects.any Effect.isEmit then some envelope.header.seq else none
  | _ => none

/-- The sequences of a sender that a run puts on the bus, in order. -/
def deliveredSeqs (verify : String → Envelope → Bool) (peer : NodeId) (sender : Nat) : InboundState → List LinkEvent → List Nat
  | _, [] => []
  | state, event :: rest =>
    let (after, effects) := event.apply verify state
    (event.deliveredSeq peer sender effects).toList ++ deliveredSeqs verify peer sender after rest

/-- The frame does not come as far as the guard: it is for another node, for an unexposed role or for the kernel, or its sender is no
creature. -/
def Unguarded (state : InboundState) (bus : Bus) (peer : NodeId) (header : Header) : Prop :=
  ∀ target sender, inboundTarget state bus peer header.receiver = .ok target → header.sender = .creature sender →
    target = kernelId

section

variable (verify : String → Envelope → Bool) {state : InboundState} {bus : Bus} (bound : state.bus = some bus)
  (attests : bus.mayAttest = true)

include bound attests

/-- A frame changes nothing and is not delivered, or it passes the guard and becomes the watermark of its sender. -/
theorem deliverLocally_cases (envelope : Envelope) (peer : NodeId) (key : String) :
    (∃ effects, deliverLocally verify state envelope peer key = (state, effects) ∧ effects.any Effect.isEmit = false) ∨
      ∃ sender effects, envelope.header.sender = .creature sender ∧ ¬ Unguarded state bus peer envelope.header ∧
        (∀ last ∈ state.originSeq (peer, sender), last < envelope.header.seq) ∧ effects.any Effect.isEmit = true ∧
        deliverLocally verify state envelope peer key =
          ({ state with originSeq := Function.update state.originSeq (peer, sender) (some envelope.header.seq) }, effects) := by
  obtain ⟨selfNode, _, originSeq⟩ := state
  cases bound
  unfold deliverLocally
  dsimp only
  split
  · rename_i effects refused
    refine .inl ⟨effects, rfl, List.any_eq_false.mpr ?_⟩
    rintro (_ | _ | ⟨dispatch, origin⟩) member <;> simp only [Effect.isEmit, Bool.false_eq_true, not_false_eq_true]
    exact absurd member (not_emit_of_refused refused)
  rename_i target accepted
  by_cases kernel : target = kernelId
  · exact .inl ⟨[], by rw [if_pos kernel], rfl⟩
  rw [if_neg kernel]
  cases named : envelope.header.sender with
  | creature sender =>
    have guarded : ¬ Unguarded ⟨selfNode, _, originSeq⟩ bus peer envelope.header :=
      fun unguarded => kernel (unguarded target sender accepted named)
    simp only [attests, Bool.true_eq_false, if_false, isReplayedSeq]
    cases marked : originSeq (peer, sender) with
    | none => exact .inr ⟨sender, [_, .emit _ _], rfl, guarded, by simp [marked], rfl, rfl⟩
    | some last =>
      by_cases replayed : envelope.header.seq ≤ last
      · exact .inl ⟨_, by simp only [if_pos replayed]; rfl, rfl⟩
      · exact .inr ⟨sender, [_, .emit _ _], rfl, guarded, by simpa [marked] using replayed, rfl,
          by simp only [if_neg replayed]; rfl⟩
  | _ => exact .inl ⟨_, rfl, rfl⟩

/-- While a peer's watermarks are kept, the sequences of its sender increase from the watermark on. -/
theorem deliveredSeqs_increasing (peer : NodeId) (sender : Nat) (events : List LinkEvent)
    (session : ∀ event ∈ events, event ≠ .install peer ∧ event ≠ .forget peer) :
    ((state.originSeq (peer, sender)).toList ++ deliveredSeqs verify peer sender state events).IsChain (· < ·) := by
  induction events generalizing state with
  | nil => cases state.originSeq (peer, sender) <;> simp [deliveredSeqs]
  | cons event rest ih =>
    rw [List.forall_mem_cons] at session
    have others (other : NodeId) (apart : other ≠ peer) :
        (resetOriginWatermarks state other).originSeq (peer, sender) = state.originSeq (peer, sender) := if_neg apart.symm
    cases event with
    | install other =>
      rw [← others other fun same => session.1.1 (by rw [same])]
      exact ih bound session.2
    | forget other =>
      rw [← others other fun same => session.1.2 (by rw [same])]
      exact ih bound session.2
    | frame envelope via key =>
      rcases deliverLocally_cases verify bound attests envelope via key with
        ⟨effects, done, silent⟩ | ⟨speaker, effects, named, _, above, emits, done⟩
      · simp only [deliveredSeqs, LinkEvent.apply, LinkEvent.deliveredSeq, done, silent, Bool.false_eq_true, and_false, if_false]
        exact ih bound session.2
      · have later := @ih { state with originSeq := Function.update state.originSeq (via, speaker) (some envelope.header.seq) } bound
          session.2
        simp only [deliveredSeqs, LinkEvent.apply, LinkEvent.deliveredSeq, done, emits, named, and_true]
        by_cases own : via = peer ∧ speaker = sender
        · obtain ⟨rfl, rfl⟩ := own
          simp only [Function.update_self, Option.toList_some] at later
          rw [if_pos ⟨rfl, rfl⟩]
          cases marked : state.originSeq (via, speaker) with
          | none => exact later
          | some last => exact .cons_cons (above last marked) later
        · have apart : (peer, sender) ≠ (via, speaker) := fun same => own (by cases same; exact ⟨rfl, rfl⟩)
          simp only [Function.update_of_ne apart] at later
          rw [if_neg (by simpa using own)]
          exact later

/-- On an attesting transport, in every state: from an install of a peer to its next install or Forget, over the frames of all
peers, the frames of each sender creature of the peer are delivered with strictly increasing sequences. A frame that is refused
before the guard leaves the state as it was, and a reset leaves the watermarks of all other peers. -/
theorem session_replay_guard :
    (∀ peer sender events, (∀ event ∈ events, event ≠ LinkEvent.install peer ∧ event ≠ .forget peer) →
      (deliveredSeqs verify peer sender state events).IsChain (· < ·)) ∧
    (∀ envelope peer key, Unguarded state bus peer envelope.header →
      (deliverLocally verify state envelope peer key).1 = state) ∧
    ∀ peer other sender, other ≠ peer →
      (resetOriginWatermarks state peer).originSeq (other, sender) = state.originSeq (other, sender) := by
  refine ⟨fun peer sender events session => ?_, fun envelope peer key unguarded => ?_, fun _ _ _ apart => if_neg apart⟩
  · exact (deliveredSeqs_increasing verify bound attests peer sender events session).right_of_append
  · rcases deliverLocally_cases verify bound attests envelope peer key with ⟨_, done, _⟩ | ⟨_, _, _, guarded, _⟩
    · rw [done]
    · exact absurd unguarded guarded

end

namespace Sample

/-- The frame of creature 9 with the sequence 1 comes from `b`. -/
def knock : LinkEvent := .frame (asking none) ⟨"b"⟩ "key"

/-- A copy of the frame is dropped. -/
theorem session_replay_guard_copied :
    deliveredSeqs (fun _ _ => true) ⟨"b"⟩ 9 listening [knock, knock] = [1] ∧
    (deliveredSeqs (fun _ _ => true) ⟨"b"⟩ 9 listening [knock, knock]).IsChain (· < ·) :=
  ⟨by decide, (session_replay_guard (fun _ _ => true) rfl rfl).1 ⟨"b"⟩ 9 [knock, knock] (by simp [knock])⟩

/-- A Forget in the session drops the watermarks, and the reader delivers the copy. -/
theorem forgotten_frame_delivered :
    deliveredSeqs (fun _ _ => true) ⟨"b"⟩ 9 listening [.install ⟨"b"⟩, knock, .forget ⟨"b"⟩, knock] = [1, 1] := by
  decide

end Sample

end Gawd.Transport
