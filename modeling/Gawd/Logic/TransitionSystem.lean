import Mathlib

/-!
Labelled transition systems, the states they reach and the invariants of their runs.
-/

namespace Gawd.Logic

universe u v

/-- A labelled transition system: where runs start and what one labelled step may do. -/
structure TransitionSystem (σ : Type u) (ℓ : Type v) where
  start : σ → Prop
  step : σ → ℓ → σ → Prop

namespace TransitionSystem

variable {σ : Type u} {ℓ : Type v} {sys : TransitionSystem σ ℓ}

/-- Some step leads from the first state to the second. -/
def Next (sys : TransitionSystem σ ℓ) (before after : σ) : Prop :=
  ∃ label, sys.step before label after

/-- A finite run leads from the first state to the second. -/
def Leads (sys : TransitionSystem σ ℓ) : σ → σ → Prop :=
  Relation.ReflTransGen sys.Next

/-- A state that some run from a start state ends in. -/
def Reachable (sys : TransitionSystem σ ℓ) (state : σ) : Prop :=
  ∃ first, sys.start first ∧ sys.Leads first state

/-- The runs of a system all of whose steps meet a condition. -/
def restrict (sys : TransitionSystem σ ℓ) (condition : σ → ℓ → Prop) : TransitionSystem σ ℓ where
  start := sys.start
  step before label after := sys.step before label after ∧ condition before label

theorem Reachable.start (first : sys.start state) : sys.Reachable state :=
  ⟨state, first, Relation.ReflTransGen.refl⟩

theorem Reachable.step (reached : sys.Reachable before) (taken : sys.step before label after) :
    sys.Reachable after := by
  obtain ⟨first, start, run⟩ := reached
  exact ⟨first, start, run.tail ⟨label, taken⟩⟩

/-- What a restricted system reaches, the whole one does. -/
theorem Reachable.of_restrict {condition : σ → ℓ → Prop} (reached : (sys.restrict condition).Reachable state) :
    sys.Reachable state := by
  obtain ⟨first, start, run⟩ := reached
  exact ⟨first, start, Relation.ReflTransGen.mono (fun _ _ ⟨label, taken, _⟩ => ⟨label, taken⟩) _ _ run⟩

/-- A run written out: the labels taken in order and the state they end in. -/
inductive Path (sys : TransitionSystem σ ℓ) : σ → List ℓ → σ → Prop where
  | nil : Path sys state [] state
  | cons : sys.step before label middle → Path sys middle labels after →
      Path sys before (label :: labels) after

theorem Reachable.path (reached : sys.Reachable before) (path : sys.Path before labels after) :
    sys.Reachable after := by
  induction path with
  | nil => exact reached
  | cons taken _ ih => exact ih (reached.step taken)

theorem Reachable.leads (reached : sys.Reachable before) (run : sys.Leads before after) : sys.Reachable after := by
  obtain ⟨first, start, earlier⟩ := reached
  exact ⟨first, start, earlier.trans run⟩

/-- A system whose steps a function computes reaches what the function computes from a list of labels. -/
theorem Reachable.foldl {next : σ → ℓ → σ} (reached : sys.Reachable state)
    (taken : ∀ before label, sys.step before label (next before label)) (labels : List ℓ) :
    sys.Reachable (labels.foldl next state) := by
  induction labels generalizing state with
  | nil => exact reached
  | cons label labels ih => exact ih (reached.step (taken state label))

/-- The induction rule for invariants: what starts hold and steps keep, every reached state has. -/
theorem Reachable.invariant {holds : σ → Prop} (reached : sys.Reachable state)
    (initial : ∀ first, sys.start first → holds first)
    (kept : ∀ before label after, holds before → sys.step before label after → holds after) : holds state := by
  obtain ⟨first, start, run⟩ := reached
  induction run with
  | refl => exact initial first start
  | tail _ next ih =>
    obtain ⟨label, taken⟩ := next
    exact kept _ label _ ih taken

end TransitionSystem

end Gawd.Logic
