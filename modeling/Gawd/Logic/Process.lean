import Gawd.Logic.Checked

/-!
Programs that mutate a state and may fail half way, keeping what they changed so far: the shape of a
function that takes `&mut` state and returns a `Result`. Their specifications are weakest
preconditions with one postcondition for success and one for failure.
-/

namespace Gawd.Logic

universe u

variable {σ ε α β : Type u}

instance liftCheck : MonadLift (Except ε) (EStateM ε σ) where
  monadLift first := fun state =>
    match first with
    | .ok value => .ok value state
    | .error error => .error error state

/-- What must hold of `state` so that the program ends in `success` or in `failure`. -/
def wp (program : EStateM ε σ α) (success : α → σ → Prop) (failure : ε → σ → Prop) (state : σ) : Prop :=
  match program state with
  | .ok value after => success value after
  | .error error after => failure error after

variable {success : α → σ → Prop} {failure : ε → σ → Prop} {state : σ}

variable {program : EStateM ε σ α}

theorem wp_ok (spec : wp program success failure state) (run : program state = .ok value after) :
    success value after := by
  simpa [wp, run] using spec

theorem wp_error (spec : wp program success failure state) (run : program state = .error error after) :
    failure error after := by
  simpa [wp, run] using spec

theorem wp_intro (ok : ∀ value after, program state = .ok value after → success value after)
    (error : ∀ error after, program state = .error error after → failure error after) :
    wp program success failure state := by
  unfold wp
  split
  · exact ok _ _ (by assumption)
  · exact error _ _ (by assumption)

variable {success' : α → σ → Prop} {failure' : ε → σ → Prop}

section

variable (spec : wp program success failure state) (ok : ∀ value after, success value after → success' value after)

include spec ok

/-- A specification may be weakened. -/
theorem wp_mono (error : ∀ error after, failure error after → failure' error after) :
    wp program success' failure' state :=
  wp_intro (fun _ _ run => ok _ _ (wp_ok spec run)) (fun _ _ run => error _ _ (wp_error spec run))

theorem wp_imp : wp program success' failure state :=
  wp_mono spec ok fun _ _ => id

theorem wp_weaken : wp program success' (fun _ _ => True) state :=
  wp_mono spec ok fun _ _ _ => trivial

end

/-- Two specifications of one run hold together. -/
theorem wp_and (one : wp program success failure state) (two : wp program success' failure' state) :
    wp program (fun value after => success value after ∧ success' value after)
      (fun error after => failure error after ∧ failure' error after) state :=
  wp_intro (fun _ _ run => ⟨wp_ok one run, wp_ok two run⟩) (fun _ _ run => ⟨wp_error one run, wp_error two run⟩)

@[simp] theorem wp_pure (value : α) : wp (pure value) success failure state ↔ success value state :=
  Iff.rfl

@[simp] theorem wp_throw (error : ε) : wp (throw error : EStateM ε σ α) success failure state ↔ failure error state :=
  Iff.rfl

variable {first : EStateM ε σ β} {rest : β → EStateM ε σ α}

@[simp] theorem wp_bind : wp (first >>= rest) success failure state ↔
      wp first (fun value after => wp (rest value) success failure after) failure state := by
  unfold wp
  simp only [bind, EStateM.bind]
  cases first state <;> rfl

@[simp] theorem wp_get {success : σ → σ → Prop} :
    wp (get : EStateM ε σ σ) success failure state ↔ success state state :=
  Iff.rfl

@[simp] theorem wp_set {success : PUnit → σ → Prop} (next : σ) :
    wp (set next : EStateM ε σ PUnit) success failure state ↔ success ⟨⟩ next :=
  Iff.rfl

@[simp] theorem wp_modify {success : PUnit → σ → Prop} (change : σ → σ) :
    wp (modify change : EStateM ε σ PUnit) success failure state ↔ success ⟨⟩ (change state) :=
  Iff.rfl

@[simp] theorem wp_lift {first : Except ε α} : wp (liftM first : EStateM ε σ α) success failure state ↔
      (∀ value, first = .ok value → success value state) ∧
        ∀ error, first = .error error → failure error state := by
  cases first <;> simp [wp, liftM, monadLift, MonadLift.monadLift]

variable {condition : Prop} {yes no : EStateM ε σ α}

@[simp] theorem wp_ite [Decidable condition] : wp (if condition then yes else no) success failure state ↔
      (condition → wp yes success failure state) ∧ (¬ condition → wp no success failure state) := by
  split <;> simp_all

/-- Run a program on a part of the state. -/
def zoom {τ δ : Type u} (view : σ → τ) (put : τ → σ → σ) (wrap : δ → ε) (program : EStateM δ τ α) :
    EStateM ε σ α := fun state =>
  match program (view state) with
  | .ok value part => .ok value (put part state)
  | .error error part => .error (wrap error) (put part state)

variable {δ : Type u}

@[simp] theorem wp_zoom {τ : Type u} {view : σ → τ} {put : τ → σ → σ} {wrap : δ → ε} {program : EStateM δ τ α} :
    wp (zoom view put wrap program) success failure state ↔
      wp program (fun value part => success value (put part state))
        (fun error part => failure (wrap error) (put part state)) (view state) := by
  unfold wp zoom
  cases program (view state) <;> rfl

/-- Run a program and hand its failure to the caller as a value. -/
def observe {δ : Type u} (program : EStateM δ σ α) : EStateM ε σ (Except δ α) := fun state =>
  match program state with
  | .ok value after => .ok (.ok value) after
  | .error error after => .ok (.error error) after

@[simp] theorem wp_observe {program : EStateM δ σ α} {success : Except δ α → σ → Prop} :
    wp (observe program : EStateM ε σ (Except δ α)) success failure state ↔
      wp program (fun value after => success (.ok value) after)
        (fun error after => success (.error error) after) state := by
  unfold wp observe
  cases program state <;> rfl

/-- Run a program that has a specification, then the rest. -/
theorem wp_seq {success' : β → σ → Prop} (spec : wp first success' failure' state)
    (next : ∀ value after, success' value after → wp (rest value) success failure after)
    (failed : ∀ error after, failure' error after → failure error after) : wp (first >>= rest) success failure state :=
  wp_bind.mpr (wp_mono spec next failed)

theorem wp_then {success' : β → σ → Prop} (spec : wp first success' failure state)
    (next : ∀ value after, success' value after → wp (rest value) success failure after) :
    wp (first >>= rest) success failure state :=
  wp_seq spec next fun _ _ => id

/-- What a program leaves stands when the rest only returns. -/
theorem wp_returning {holds : σ → Prop} {value : β → α}
    (spec : wp first (fun _ after => holds after) (fun _ after => holds after) state) :
    wp (first >>= fun part => pure (value part)) (fun _ after => holds after) (fun _ after => holds after) state :=
  wp_then spec (fun _ _ held => held)

/-- Run a check, then the rest: the check leaves the state alone. -/
theorem wp_check {first : Except ε β} (failed : ∀ error, first = .error error → failure error state)
    (next : ∀ value, first = .ok value → wp (rest value) success failure state) :
    wp (liftM first >>= rest) success failure state := by
  rw [wp_bind, wp_lift]
  exact ⟨next, failed⟩

/-- A check that may fail. -/
theorem wp_assume {first : Except ε β}
    (next : ∀ value, first = .ok value → wp (rest value) success (fun _ _ => True) state) :
    wp (liftM first >>= rest) success (fun _ _ => True) state :=
  wp_check (fun _ _ => trivial) next

variable {relation : σ → σ → Prop}

/-- A check that may fail where a failure must leave the state as it is, up to a reflexive relation. -/
theorem wp_guard [reflexive : Std.Refl relation] {first : Except ε β}
    (next : ∀ value, first = .ok value → wp (rest value) success (fun _ after => relation state after) state) :
    wp (liftM first >>= rest) success (fun _ after => relation state after) state :=
  wp_check (fun _ _ => reflexive.refl state) next

/-- Run a program of which nothing is known, then the rest. -/
theorem wp_whatever (failed : ∀ error after, failure error after)
    (next : ∀ value after, wp (rest value) success failure after) : wp (first >>= rest) success failure state := by
  rw [wp_bind]
  exact wp_intro (fun value after _ => next value after) fun error after _ => failed error after

theorem wp_any (program : EStateM ε σ α) (state : σ) : wp program (fun _ _ => True) (fun _ _ => True) state :=
  wp_intro (fun _ _ _ => trivial) fun _ _ _ => trivial

/-- A check that is known to pass. -/
theorem wp_passed {first : Except ε β} (passed : first = .ok value) :
    wp (liftM first >>= rest) success failure state ↔ wp (rest value) success failure state := by
  rw [wp_bind, wp_lift, passed]
  simp

theorem wp_pass {first : Except ε β} (passed : first = .ok value) (next : wp (rest value) success failure state) :
    wp (liftM first >>= rest) success failure state :=
  (wp_passed passed).mpr next

theorem wp_unless {ε σ α : Type} {success : α → σ → Prop} {failure : ε → σ → Prop} {state : σ} {bad : Prop} [Decidable bad]
    {error : ε} {rest : Unit → EStateM ε σ α} (fine : ¬ bad) (next : wp (rest ()) success failure state) :
    wp (liftM (reject bad error) >>= rest) success failure state :=
  wp_pass (reject_of_not fine) next

variable {error : ε}

/-- A check that is known to fail. -/
theorem wp_failed {first : Except ε β} (failed : first = .error error) :
    wp (liftM first >>= rest) success failure state ↔ failure error state := by
  rw [wp_bind, wp_lift, failed]
  simp

/-- A program whose run is known. -/
theorem wp_ran {value : β} {after : σ} (ran : first state = .ok value after) :
    wp (first >>= rest) success failure state ↔ wp (rest value) success failure after := by
  rw [wp_bind]
  unfold wp
  rw [ran]

theorem wp_run {value : β} {after : σ} (ran : first state = .ok value after)
    (next : wp (rest value) success failure after) : wp (first >>= rest) success failure state :=
  (wp_ran ran).mpr next

/-- A run is its specification with equations for postconditions. -/
theorem run_eq_ok : program state = .ok value after ↔
      wp program (fun result final => result = value ∧ final = after) (fun _ _ => False) state := by
  unfold wp
  cases program state <;> simp

theorem run_eq_error : program state = .error error after ↔
      wp program (fun _ _ => False) (fun problem final => problem = error ∧ final = after) state := by
  unfold wp
  cases program state <;> simp

theorem run_bind_eq_ok : (first >>= rest) state = .ok value after ↔
      ∃ part middle, first state = .ok part middle ∧ rest part middle = .ok value after := by
  simp only [bind, EStateM.bind]
  cases first state with
  | ok part middle =>
    constructor
    · exact fun run => ⟨part, middle, rfl, run⟩
    · rintro ⟨_, _, ⟨⟩, run⟩
      exact run
  | error error middle => simp

theorem run_lift_eq_ok {first : Except ε α} :
    (liftM first : EStateM ε σ α) state = .ok value after ↔ first = .ok value ∧ state = after := by
  cases first <;> simp [liftM, monadLift, MonadLift.monadLift]

@[simp] theorem run_pure : (pure value : EStateM ε σ α) state = .ok value state :=
  rfl

/-- The state that a program leaves behind, whether it succeeds or fails. -/
def finalState (program : EStateM ε σ α) (state : σ) : σ :=
  match program state with
  | .ok _ after => after
  | .error _ after => after

/-- What cannot fail succeeds. -/
theorem exists_of_wp (spec : wp program success (fun _ _ => False) state) :
    ∃ value after, program state = .ok value after ∧ success value after := by
  unfold wp at spec
  split at spec
  · rename_i value after run
    exact ⟨value, after, run, spec⟩
  · exact spec.elim

section

variable {kind : α → σ → Prop} [∀ value after, Decidable (kind value after)] {reason : ε → σ → Prop}
  [∀ error after, Decidable (reason error after)]

/-- Whether a run ends in a given way can be evaluated. -/
instance decidableOk : Decidable (∃ value after, program state = .ok value after ∧ kind value after) :=
  match program state with
  | .ok value after => decidable_of_iff (kind value after) (by simp [and_assoc])
  | .error .. => .isFalse (by simp)

instance decidableError : Decidable (∃ error after, program state = .error error after ∧ reason error after) :=
  match program state with
  | .ok .. => .isFalse (by simp)
  | .error error after => decidable_of_iff (reason error after) (by simp [and_assoc])

end

/-- What cannot succeed fails. -/
theorem fails_of_wp (spec : wp program (fun _ _ => False) failure state) :
    ∃ error after, program state = .error error after ∧ failure error after := by
  unfold wp at spec
  split at spec
  · exact spec.elim
  · rename_i error after run
    exact ⟨error, after, run, spec⟩

theorem finalState_of_run (run : program state = .ok value after) : finalState program state = after := by
  simp [finalState, run]

theorem finalState_of_wp {holds : σ → Prop}
    (spec : wp program (fun _ after => holds after) (fun _ after => holds after) state) :
    holds (finalState program state) := by
  unfold wp at spec
  unfold finalState
  split at spec <;> exact spec

/-- A program moves the state only along a relation, whether it succeeds or fails. -/
def Along (relation : σ → σ → Prop) (program : EStateM ε σ α) : Prop :=
  ∀ state, wp program (fun _ after => relation state after) (fun _ after => relation state after) state

/-- Along a relation from one state. -/
abbrev AlongFrom (relation : σ → σ → Prop) (program : EStateM ε σ α) (state : σ) : Prop :=
  wp program (fun _ after => relation state after) (fun _ after => relation state after) state

/-- Run a program that moves along a relation, then the rest. -/
theorem wp_along (along : Along relation first)
    (failed : ∀ error after, relation state after → failure error after)
    (next : ∀ value after, relation state after → wp (rest value) success failure after) :
    wp (first >>= rest) success failure state := by
  exact wp_seq (along state) next failed

/-- Run a program that only reads, then the rest. -/
theorem wp_reads (reads : Along Eq first) (next : ∀ value, wp (rest value) success failure state)
    (failed : ∀ error, failure error state) :
    wp (first >>= rest) success failure state :=
  wp_along reads (fun error _ same => same ▸ failed error) fun value _ same => same ▸ next value

/-- A program after a move. -/
theorem wp_after [IsTrans σ relation] {before : σ} (moved : relation before state)
    (spec : wp program (fun _ after => relation state after) (fun _ after => relation state after) state) :
    wp program (fun _ after => relation before after) (fun _ after => relation before after) state :=
  wp_mono spec (fun _ _ later => IsTrans.trans _ _ _ moved later) fun _ _ later => IsTrans.trans _ _ _ moved later

namespace Along

variable {relation : σ → σ → Prop}

theorem mono {weaker : σ → σ → Prop} (along : Along relation program)
    (weaken : ∀ before after, relation before after → weaker before after) : Along weaker program :=
  fun state => wp_mono (along state) (fun _ after => weaken state after) (fun _ after => weaken state after)

/-- A program that only reads moves along every reflexive relation. -/
theorem of_eq [Std.Refl relation] (along : Along Eq program) : Along relation program :=
  along.mono fun before _ same => same ▸ Std.Refl.refl before

theorem pure [Std.Refl relation] (value : α) : Along relation (pure value : EStateM ε σ α) :=
  fun state => Std.Refl.refl state

theorem throw [Std.Refl relation] (error : ε) : Along relation (throw error : EStateM ε σ α) :=
  fun state => Std.Refl.refl state

theorem get [Std.Refl relation] : Along relation (get : EStateM ε σ σ) :=
  fun state => Std.Refl.refl state

theorem lift [Std.Refl relation] (first : Except ε α) : Along relation (liftM first : EStateM ε σ α) := by
  intro state
  rw [wp_lift]
  exact ⟨fun _ _ => Std.Refl.refl state, fun _ _ => Std.Refl.refl state⟩

theorem bind [IsTrans σ relation] (along : Along relation first) (next : ∀ value, Along relation (rest value)) :
    Along relation (first >>= rest) := by
  intro state
  exact wp_along along (fun _ _ moved => moved) fun value middle moved => wp_after moved (next value middle)

/-- A check moves nothing. -/
theorem check [Std.Refl relation] [IsTrans σ relation] {first : Except ε β}
    (next : ∀ value, Along relation (rest value)) : Along relation (liftM first >>= rest) :=
  (lift first).bind next

theorem ite [Decidable condition] (first : condition → Along relation yes)
    (second : ¬ condition → Along relation no) : Along relation (if condition then yes else no) := by
  split
  · exact first (by assumption)
  · exact second (by assumption)

theorem observe {program : EStateM δ σ α} (along : Along relation program) :
    Along relation (observe program : EStateM ε σ (Except δ α)) := by
  intro state
  rw [wp_observe]
  exact along state

end Along

end Gawd.Logic
