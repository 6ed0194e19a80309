import Gawd.Wire.Types

/-!
Total orders on the identities that key ordered maps.
-/

namespace Gawd.Wire

/-- The order of a rank. That two values compare as their ranks do is spelled out, for evaluation to see. -/
abbrev orderBy {α β : Type} [LinearOrder β] (rank : α → β) (injective : Function.Injective rank) : LinearOrder α where
  __ := LinearOrder.lift' rank injective
  toDecidableLT left right := inferInstanceAs (Decidable (rank left < rank right))

def Text.rank : Text → ℕ ×ₗ (ℕ ×ₗ String)
  | .key value => toLex (0, toLex (value, ""))
  | .sha256 digest => toLex (1, toLex (digest, ""))
  | .plain text => toLex (2, toLex (0, text))

theorem Text.rank_injective : Function.Injective Text.rank := by
  intro left right same
  cases left <;> cases right <;> simp_all [Text.rank]

instance : LinearOrder Text := orderBy Text.rank Text.rank_injective

instance : LinearOrder HomeId := orderBy HomeId.text fun _ _ => congrArg HomeId.mk

instance : LinearOrder JobId := orderBy JobId.text fun _ _ => congrArg JobId.mk

instance : LinearOrder DeploymentId := orderBy DeploymentId.text fun _ _ => congrArg DeploymentId.mk

instance : LinearOrder ControlId := orderBy ControlId.text fun _ _ => congrArg ControlId.mk

/-- An attempt orders by Home, then Job, then number. -/
def AttemptId.rank (attempt : AttemptId) : HomeId ×ₗ (JobId ×ₗ ℕ) :=
  toLex (attempt.home, toLex (attempt.job, attempt.number))

theorem AttemptId.rank_injective : Function.Injective AttemptId.rank := by
  rintro ⟨home, job, number⟩ ⟨home', job', number'⟩ same
  simpa [AttemptId.rank] using same

instance : LinearOrder AttemptId := orderBy AttemptId.rank AttemptId.rank_injective

end Gawd.Wire
