import Gawd.Locator.Convergence

/-!
What a refusal for want of capacity does to a locator.
-/

namespace Gawd.Locator

open Gawd.Logic Gawd.Wire

/-- A locator that serves is not uncertain, whatever it is asked. -/
theorem locate_ne_uncertain {locator : FunctionLocator} (healthy : locator.healthy = true) (query : HomeLocate) :
    locator.locate query ≠ .error .uncertain := by
  intro uncertain
  simp only [FunctionLocator.locate, ofInvalid, bind_eq_error, reject_eq_error, mapError_eq_error, healthy] at uncertain
  rcases uncertain with ⟨⟨⟩, _⟩ | ⟨_, _, ⟨_, _, ⟨⟩⟩ | ⟨_, _, answered⟩⟩
  split at answered
  · cases answered
  split at answered
  · cases answered
  split at answered <;> cases answered

theorem locate_stopped (locator : FunctionLocator) (query : HomeLocate) :
    locator.stopped.locate query = .error .uncertain :=
  rfl

section

variable [Crypto]

/-- What a locator can be asked. -/
inductive Operation where
  | apply (fate : WriteFate) (lease : SignedRecord HomeLease)
  | locate (query : HomeLocate)
  | message (fate : WriteFate) (schema : Schema) (len : Nat) (payload : Option LocateMessage)

/-- What it answers. -/
inductive Response where
  | applied (outcome : Except LocatorError ApplyOutcome)
  | located (outcome : Except LocatorError LocateOutcome)
  | replied (outcome : Except LocatorError (Option LocateMessage))

/-- The outcome of an action, and what it leaves behind. -/
def Action.outcome {α : Type} (action : Action α) (service : Service) : Except LocatorError α × Service :=
  match action service with
  | .ok value after => (.ok value, after)
  | .error error after => (.error error, after)

def respond (operation : Operation) (service : Service) : Response × Service :=
  match operation with
  | .apply fate lease => (Action.outcome (apply fate lease) service).map .applied id
  | .locate query => (.located (service.locator.locate query), service)
  | .message fate schema len payload => (Action.outcome (handle fate schema len payload) service).map .replied id

/-- The answers to operations that follow each other. -/
def responses : List Operation → Service → List Response
  | [], _ => []
  | operation :: rest, service => (respond operation service).1 :: responses rest (respond operation service).2

variable {fate : WriteFate} {lease : SignedRecord HomeLease} {before after : Service} {reason : String}

/-- A refusal for want of capacity writes nothing and changes nothing that is retained. Everything later is answered as if the
lease had not been offered exactly if the refusal came from the cap on Homes or on contradictions: a snapshot that would be
too long stops the locator, although nothing was written. -/
theorem capacity_refusal_iff (healthy : before.locator.healthy = true)
    (refused : apply fate lease before = .error (.limit reason) after) :
    after.disk = before.disk ∧ after.locator.states = before.locator.states ∧
      ((∀ operations, responses operations after = responses operations before) ↔
        before.Full lease ∨ Crowded before.locator.states lease before.locator.caps) := by
  cases wp_error wp_apply refused with
  | full full => exact ⟨rfl, rfl, iff_of_true (fun _ => rfl) (.inl full)⟩
  | crowded crowded => exact ⟨rfl, rfl, iff_of_true (fun _ => rfl) (.inr crowded)⟩
  | overlong room merged long =>
    refine ⟨rfl, rfl, iff_of_false (fun alike => ?_) ?_⟩
    · have answers := List.head_eq_of_cons_eq (alike [.locate ⟨lease.payload.home, none⟩])
      obtain answered := Response.located.inj answers
      rw [locate_stopped] at answered
      exact locate_ne_uncertain healthy _ answered.symm
    · rintro (full | crowded)
      · exact room full
      · exact crowded.fails merged

end

section

open Sample

attribute [local instance] Wire.Sample.crypto

/-- A third lease with the same sequence, where two contradictions fill the cap, is refused and changes nothing. -/
theorem capacity_refusal_iff_crowded : ∃ before after reason,
    apply .durable (lease 1 "c") before = .error (.limit reason) after ∧
      ∀ operations, responses operations after = responses operations before := by
  let states := (∅ : SortedMap HomeId LeaseState).insert Wire.Sample.home (.conflict 1 [lease 1 "a", lease 1 "b"])
  let before : Service := ⟨⟨⟨16384, 2, 1024⟩, states, true, true⟩, none⟩
  have refused : apply .durable (lease 1 "c") before = .error (.limit _) before := rfl
  exact ⟨before, before, _, refused, (capacity_refusal_iff rfl refused).2.2.mpr (.inr ⟨_, rfl, by decide, le_rfl⟩)⟩

end

/-- Every value takes five bytes. -/
@[reducible] def Sample.heavy : Crypto :=
  { Wire.Sample.crypto with encodedLen := fun _ => 5 }

section

open Sample

attribute [local instance] heavy

/-- A locator whose snapshot may take four bytes refuses its first lease, and nothing else is answered from then on. -/
theorem overlong_snapshot_stops : ∃ before after reason,
    Delivered [] before ∧ verifyHomeLease (lease 1 "a") = .ok () ∧
      apply .durable (lease 1 "a") before = .error (.limit reason) after ∧ after.disk = before.disk ∧
      before.locator.locate ⟨Wire.Sample.home, none⟩ = .ok .notFound ∧
      after.locator.locate ⟨Wire.Sample.home, none⟩ = .error .uncertain := by
  have opened : FunctionLocator.open .fine ⟨1, 2, 4⟩ none = .ok ⟨⟨1, 2, 4⟩, ∅, true, true⟩ := rfl
  have verified : verifyHomeLease (lease 1 "a") = .ok () := by decide
  refine ⟨_, ⟨FunctionLocator.stopped ⟨⟨1, 2, 4⟩, ∅, true, true⟩, none⟩, "snapshot is 5 bytes, exceeds 4", .opened opened, verified, ?_, rfl, ?_, rfl⟩
  · rfl
  · rfl

end

end Gawd.Locator
