import Mathlib

/-!
Sequences of checks in `Except`: a check either rejects with its error or lets the next one run.
-/

namespace Gawd.Logic

universe u v w

/-- Fail with `error` when the condition holds. -/
def reject {ε : Type u} (bad : Prop) [Decidable bad] (error : ε) : Except ε Unit :=
  if bad then .error error else .ok ()

variable {ε : Type u} {bad : Prop}

variable {error : ε}

@[simp] theorem reject_eq_ok [Decidable bad] {value : Unit} : reject bad error = .ok value ↔ ¬ bad := by
  unfold reject
  split <;> simp_all

theorem reject_eq_error [Decidable bad] {problem : ε} : reject bad error = .error problem ↔ bad ∧ error = problem := by
  unfold reject
  split <;> simp_all

theorem reject_of_not [Decidable bad] (fine : ¬ bad) : reject bad error = .ok () := by
  simp [fine]

variable {α β : Type v}

variable {first : Except ε α} {rest : α → Except ε β}

theorem bind_eq_error :
    (first >>= rest) = .error error ↔
      first = .error error ∨ ∃ middle, first = .ok middle ∧ rest middle = .error error := by
  cases first <;> simp [bind, Except.bind]

@[simp] theorem bind_eq_ok {value : β} :
    (first >>= rest) = .ok value ↔ ∃ middle, first = .ok middle ∧ rest middle = .ok value := by
  cases first <;> simp [bind, Except.bind]

@[simp] theorem ok_bind {first : α} : ((.ok first : Except ε α) >>= rest) = rest first :=
  rfl

variable {value : α}

@[simp] theorem pure_eq_ok {result : α} : (pure value : Except ε α) = .ok result ↔ value = result := by
  simp [pure, Except.pure]

/-- Change the error of a failed computation. -/
def mapError {ε δ : Type u} {α : Type v} (wrap : ε → δ) : Except ε α → Except δ α
  | .ok value => .ok value
  | .error error => .error (wrap error)

theorem mapError_eq_error {δ : Type u} {wrap : ε → δ} {problem : δ} :
    mapError wrap first = .error problem ↔ ∃ error, first = .error error ∧ wrap error = problem := by
  cases first <;> simp [mapError]

@[simp] theorem mapError_eq_ok {δ : Type u} {wrap : ε → δ} : mapError wrap first = .ok value ↔ first = .ok value := by
  cases first <;> simp [mapError]

/-- The value of an option, or an error when there is none. -/
def orError {ε : Type u} {α : Type v} (error : ε) : Option α → Except ε α
  | some value => .ok value
  | none => .error error

@[simp] theorem orError_eq_ok {found : Option α} : orError error found = .ok value ↔ found = some value := by
  cases found <;> simp [orError]

/-- Run a step on the value of an option, if there is one. -/
def ifPresent {m : Type u → Type v} [Monad m] {α : Type u} (part : Option α) (step : α → m PUnit) : m PUnit :=
  match part with
  | some value => step value
  | none => pure ⟨⟩

@[simp] theorem ifPresent_eq_ok {part : Option α} {step : α → Except ε PUnit} {value : PUnit} :
    ifPresent part step = .ok value ↔ ∀ found ∈ part, step found = .ok value := by
  cases part <;> simp [ifPresent]

end Gawd.Logic
