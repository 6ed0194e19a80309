import Gawd.Logic.TransitionSystem

/-!
The reference defense against peers with bad origin verdicts: it counts them and forgets a peer that has too many.
-/

namespace Gawd.Policy

open Gawd.Logic

def originEventSchema : String := "origin_verdict"

def maxSenseEventBytes : Nat := 1024 * 1024

def ctlSchema : String := "transport.ctl"

def defaultForgetThreshold : Nat := 3

def defaultMaxTrackedNodes : Nat := 1024

inductive OriginVerdict where
  | sameNode
  | verified
  | unresolved
  | badSig
deriving DecidableEq

structure OriginEvent where
  originNode : String
  verdict : OriginVerdict
deriving DecidableEq

/-- The verdict is evidence against its peer. -/
def OriginEvent.Bad (event : OriginEvent) : Prop :=
  ¬ (event.verdict = .verified ∨ event.verdict = .sameNode)
deriving Decidable

/-- What the creature reads of an envelope, with what the payload decodes to. -/
structure Envelope where
  schema : String
  payloadLen : Nat
  event : Option OriginEvent

/-- A Forget operation for whoever fills the transport role. -/
structure Forget where
  nodeId : String
  schema : String
deriving DecidableEq

structure OriginDefense where
  threshold : Nat
  maxTracked : Nat
  counts : AList fun _ : String => Nat
  forgotten : Finset String

namespace OriginDefense

/-- The defense with the given threshold, which is one at least, and the given cap. -/
def fresh (threshold maxTracked : Nat) : OriginDefense := ⟨max threshold 1, maxTracked, ∅, ∅⟩

def new : OriginDefense := fresh defaultForgetThreshold defaultMaxTrackedNodes

/-- The part of `handle` behind the decoding. -/
def observe (defense : OriginDefense) (event : OriginEvent) : OriginDefense × List Forget :=
  let node := event.originNode
  if ¬ event.Bad then (defense, [])
  else if node ∈ defense.forgotten then (defense, [])
  else if node ∉ defense.counts ∧ defense.maxTracked ≠ 0 ∧ defense.maxTracked ≤ defense.counts.keys.length then (defense, [])
  else
    let count := (defense.counts.lookup node).getD 0 + 1
    if count < defense.threshold then ({ defense with counts := defense.counts.insert node count }, [])
    else
      ({ defense with forgotten := insert node defense.forgotten, counts := defense.counts.erase node }, [⟨node, ctlSchema⟩])

def handle (defense : OriginDefense) (envelope : Envelope) : OriginDefense × List Forget :=
  if envelope.schema ≠ originEventSchema ∨ maxSenseEventBytes < envelope.payloadLen then (defense, [])
  else
    match envelope.event with
    | none => (defense, [])
    | some event => defense.observe event

/-- The defense after a stream of verdicts. -/
def after (defense : OriginDefense) (stream : List OriginEvent) : OriginDefense :=
  stream.foldl (fun defense event => (defense.observe event).1) defense

/-- The event, after the stream, makes the defense forget the peer. -/
def Forgets (defense : OriginDefense) (stream : List OriginEvent) (event : OriginEvent) (peer : String) : Prop :=
  (⟨peer, ctlSchema⟩ : Forget) ∈ ((defense.after stream).observe event).2

theorem observe_forgotten (defense : OriginDefense) (event : OriginEvent) :
    defense.forgotten ⊆ (defense.observe event).1.forgotten ∧ ∀ forget ∈ (defense.observe event).2,
      forget.nodeId ∉ defense.forgotten ∧ forget.nodeId ∈ (defense.observe event).1.forgotten := by
  unfold observe
  dsimp only
  split_ifs with bad known full counted
  · exact ⟨Finset.Subset.refl _, by simp⟩
  · exact ⟨Finset.Subset.refl _, by simp⟩
  · exact ⟨Finset.Subset.refl _, by simp⟩
  · refine ⟨Finset.subset_insert _ _, fun forget sent => ?_⟩
    rw [List.mem_singleton.mp sent]
    exact ⟨known, Finset.mem_insert_self _ _⟩
  · exact ⟨Finset.Subset.refl _, by simp⟩

theorem after_forgotten (defense : OriginDefense) (stream : List OriginEvent) :
    defense.forgotten ⊆ (defense.after stream).forgotten := by
  induction stream generalizing defense with
  | nil => exact Finset.Subset.refl _
  | cons event rest ih => exact (defense.observe_forgotten event).1.trans (ih _)

/-- A peer is forgotten once. -/
theorem not_forgets_again {defense : OriginDefense} (first : defense.Forgets before forgetting peer) :
    ¬ defense.Forgets (before ++ forgetting :: between) event peer := by
  intro again
  have known := ((defense.after before).observe_forgotten forgetting).2 _ first
  have unknown := ((defense.after (before ++ forgetting :: between)).observe_forgotten event).2 _ again
  refine unknown.1 ?_
  rw [after, List.foldl_append]
  exact after_forgotten _ between known.2

/-- How often a peer had a bad verdict. -/
def badVerdicts (peer : String) (stream : List OriginEvent) : Nat :=
  stream.countP fun event => event.originNode = peer ∧ event.Bad

/-- The peer is forgotten, is admitted again, and then has as many bad verdicts as it takes. -/
structure Relapse (defense : OriginDefense) (stream : List OriginEvent) (peer : String) (before : List OriginEvent)
    (forgetting : OriginEvent) (between later : List OriginEvent) : Prop where
  split : stream = before ++ forgetting :: (between ++ ⟨peer, .verified⟩ :: later)
  forgets : defense.Forgets before forgetting peer
  bad : defense.threshold ≤ badVerdicts peer later

/-- A peer that relapses is forgotten again. -/
def Reguards (defense : OriginDefense) (stream : List OriginEvent) (peer : String) : Prop :=
  ∀ before forgetting between later, defense.Relapse stream peer before forgetting between later →
    ∃ more event rest, later = more ++ event :: rest ∧
      defense.Forgets (before ++ forgetting :: (between ++ ⟨peer, .verified⟩ :: more)) event peer

/-- It takes as many bad verdicts each time. -/
def Spaces (defense : OriginDefense) (stream : List OriginEvent) (peer : String) : Prop :=
  ∀ before forgetting between event rest, stream = before ++ forgetting :: (between ++ event :: rest) →
    defense.Forgets before forgetting peer → defense.Forgets (before ++ forgetting :: between) event peer →
    defense.threshold ≤ badVerdicts peer (between ++ [event])

/-- A peer that is forgotten, admitted again and then has three bad verdicts more. -/
def relapsing : List OriginEvent :=
  List.replicate 3 ⟨"evil", .badSig⟩ ++ ⟨"evil", .verified⟩ :: List.replicate 3 ⟨"evil", .badSig⟩

/-- The peers about which anything is retained. -/
def retained (defense : OriginDefense) : Finset String :=
  defense.counts.keys.toFinset ∪ defense.forgotten

theorem observe_retained (defense : OriginDefense) (event : OriginEvent) :
    (defense.observe event).1.maxTracked = defense.maxTracked ∧ (defense.observe event).1.retained ⊆
      if event.Bad then insert event.originNode defense.retained else defense.retained := by
  unfold observe
  dsimp only
  split_ifs with bad known full counted
  · exact ⟨rfl, Finset.subset_insert _ _⟩
  · exact ⟨rfl, Finset.subset_insert _ _⟩
  · refine ⟨rfl, fun peer held => ?_⟩
    simp only [retained, Finset.mem_union, List.mem_toFinset, ← AList.mem_keys, AList.mem_insert, Finset.mem_insert] at held ⊢
    tauto
  · refine ⟨rfl, fun peer held => ?_⟩
    simp only [retained, Finset.mem_union, List.mem_toFinset, ← AList.mem_keys, AList.mem_erase, Finset.mem_insert] at held ⊢
    tauto
  · exact ⟨rfl, Finset.Subset.refl _⟩

/-- The runs of the defense over all streams. -/
def originSystem (threshold maxTracked : Nat) : TransitionSystem OriginDefense OriginEvent where
  start defense := defense = fresh threshold maxTracked
  step before event after := after = (before.observe event).1

/-- A peer about which nothing is retained has a bad verdict only while there is room for it. -/
def Roomy (before : OriginDefense) (event : OriginEvent) : Prop :=
  event.Bad → event.originNode ∉ before.retained → before.retained.card < before.maxTracked

/-- What is retained fits under the cap. -/
structure Within (cap : Nat) (defense : OriginDefense) : Prop where
  capped : defense.maxTracked = cap
  bounded : defense.retained.card ≤ cap

theorem Within.observe (within : Within cap before) (roomy : Roomy before event) : Within cap (before.observe event).1 := by
  obtain ⟨kept, grown⟩ := before.observe_retained event
  refine ⟨kept.trans within.capped, (Finset.card_le_card grown).trans ?_⟩
  split_ifs with bad
  · by_cases held : event.originNode ∈ before.retained
    · rw [Finset.insert_eq_of_mem held]
      exact within.bounded
    · rw [Finset.card_insert_of_notMem held, ← within.capped]
      exact roomy bad held
  · exact within.bounded

end OriginDefense

end Gawd.Policy
