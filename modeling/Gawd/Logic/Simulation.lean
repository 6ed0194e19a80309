import Gawd.Logic.Process

/-!
Two runs side by side. `Follows` carries success from a program on a part of the state to the program
on all of it; `Coincides` says that two programs which both succeed end in the same state.
-/

namespace Gawd.Logic

universe u

variable {σ τ ε α β : Type u}

/-- If the second program succeeds from `t`, the first succeeds from `s` with the same answer, and the
states they end in are related. -/
def Follows (related : σ → τ → Prop) (full : EStateM ε σ α) (part : EStateM ε τ α) (s : σ) (t : τ) : Prop :=
  ∀ value t', part t = .ok value t' → ∃ s', full s = .ok value s' ∧ related s' t'

variable {first : EStateM ε σ β} {rest : β → EStateM ε σ α} {rest' : β → EStateM ε τ α} {condition : Prop}
  {yes no : EStateM ε σ α}

namespace Follows

variable {related : σ → τ → Prop} {s : σ} {t : τ}

theorem pure (same : related s t) (value : α) : Follows related (pure value : EStateM ε σ α) (pure value) s t := by
  rintro _ _ ⟨⟩
  exact ⟨s, rfl, same⟩

theorem store {s' : σ} {t' : τ} (same : related s' t') : Follows related (set s' : EStateM ε σ PUnit) (set t') s t := by
  rintro _ _ ⟨⟩
  exact ⟨s', rfl, same⟩

theorem update {change : σ → σ} {change' : τ → τ} (same : related (change s) (change' t)) :
    Follows related (modify change : EStateM ε σ PUnit) (modify change') s t := by
  rintro _ _ ⟨⟩
  exact ⟨change s, rfl, same⟩

theorem bind {first' : EStateM ε τ β} (begun : Follows related first first' s t)
    (next : ∀ value s' t', related s' t' → Follows related (rest value) (rest' value) s' t') :
    Follows related (first >>= rest) (first' >>= rest') s t := by
  intro value after run
  simp only [Bind.bind, EStateM.bind] at run ⊢
  cases ran : first' t with
  | error error middle => simp [ran] at run
  | ok answer middle =>
    rw [ran] at run
    obtain ⟨state, done, same⟩ := begun answer middle ran
    rw [done]
    exact next answer state middle same value after run

theorem read {rest : σ → EStateM ε σ α} {rest' : τ → EStateM ε τ α} (next : Follows related (rest s) (rest' t) s t) :
    Follows related (get >>= rest) (get >>= rest') s t :=
  next

/-- A check that passes on the part passes on the whole, perhaps with another answer. -/
theorem checkWith {γ : Type u} {first : Except ε β} {first' : Except ε γ} {rest' : γ → EStateM ε τ α}
    (passes : ∀ value', first' = .ok value' →
      ∃ value, first = .ok value ∧ Follows related (rest value) (rest' value') s t) :
    Follows related (liftM first >>= rest) (liftM first' >>= rest') s t := by
  intro value after run
  cases checked : first' with
  | error error => simp [checked, Bind.bind, EStateM.bind, liftM, monadLift, MonadLift.monadLift] at run
  | ok answer =>
    obtain ⟨own, passed, next⟩ := passes answer checked
    rw [checked] at run
    rw [passed]
    exact next value after run

/-- A check that passes on the part passes on the whole with the same answer. -/
theorem check {first first' : Except ε β} (passes : ∀ value, first' = .ok value →
      first = .ok value ∧ Follows related (rest value) (rest' value) s t) :
    Follows related (liftM first >>= rest) (liftM first' >>= rest') s t :=
  checkWith fun value passed => ⟨value, passes value passed⟩

/-- The last check of a program. -/
theorem last {first first' : Except ε α} (same : related s t)
    (passes : ∀ value, first' = .ok value → first = .ok value) :
    Follows related (liftM first : EStateM ε σ α) (liftM first') s t := by
  intro value after run
  cases checked : first' with
  | error error => simp [checked, liftM, monadLift, MonadLift.monadLift] at run
  | ok answer =>
    rw [checked] at run
    obtain ⟨⟩ := run
    exact ⟨s, by rw [passes value checked]; rfl, same⟩

theorem ite [Decidable condition] {yes' no' : EStateM ε τ α} (first : condition → Follows related yes yes' s t)
    (second : ¬ condition → Follows related no no' s t) :
    Follows related (if condition then yes else no) (if condition then yes' else no') s t := by
  by_cases holds : condition
  · simpa only [if_pos holds] using first holds
  · simpa only [if_neg holds] using second holds

/-- A program follows itself. -/
theorem refl (program : EStateM ε σ α) (s : σ) : Follows Eq program program s s :=
  fun _ after run => ⟨after, run, rfl⟩

end Follows

/-- Two programs that both succeed from a state give the same answer and end in the same state. -/
def Coincides (first second : EStateM ε σ α) : Prop :=
  ∀ state value after value' after', first state = .ok value after → second state = .ok value' after' →
    value = value' ∧ after = after'

namespace Coincides

theorem refl (program : EStateM ε σ α) : Coincides program program := by
  intro state value after value' after' run run'
  rw [run] at run'
  obtain ⟨⟩ := run'
  exact ⟨rfl, rfl⟩

theorem bind {first' : EStateM ε σ β} {rest' : β → EStateM ε σ α} (begun : Coincides first first')
    (next : ∀ value, Coincides (rest value) (rest' value)) : Coincides (first >>= rest) (first' >>= rest') := by
  intro state value after value' after' run run'
  simp only [Bind.bind, EStateM.bind] at run run'
  cases ran : first state with
  | error error middle => simp [ran] at run
  | ok answer middle =>
    cases ran' : first' state with
    | error error middle => simp [ran'] at run'
    | ok answer' middle' =>
      rw [ran] at run
      rw [ran'] at run'
      obtain ⟨rfl, rfl⟩ := begun state _ _ _ _ ran ran'
      exact next answer middle _ _ _ _ run run'

/-- Checks of no interest, with one answer. -/
theorem lift (first first' : Except ε PUnit) : Coincides (liftM first : EStateM ε σ PUnit) (liftM first') := by
  intro state value after value' after' run run'
  cases first <;> cases first' <;>
    simp_all [liftM, monadLift, MonadLift.monadLift]

end Coincides

end Gawd.Logic
