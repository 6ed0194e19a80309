import Gawd.Wire.Deployment

/-!
Contract values are countable, so there is cryptography whose digests never collide: what is assumed of
canonical hashes can be met.
-/

namespace Gawd.Wire

instance countableChar : Countable Char := Function.Injective.countable fun _ _ => Char.toNat_inj.mp

instance countableString : Countable String := Function.Injective.countable fun _ _ => String.toList_inj.mp

instance : Countable Json := Json.tokens_injective.countable

deriving instance Countable for Text, Schema, SignedRecord, HomeId, JobId, DeploymentId, HandoffId, ControlId,
  FunctionId, FunctionAlias, FunctionSelector, BlobRef, RecipientKeyWrap, SealedValue, ValueRef, EvidenceRef,
  ResolutionReceipt, ResolvedFunction, AttemptId, JobHandle, CausalLink, JobAccess, AbodeKeyBinding,
  OperationalCapability, OperationalKeyGrant, RecipientKeyBinding, HomeCheckpoint, CustodyRewrapRequirement,
  CustodyGrantOf, CustodyPreparedOf, HomeAuthority.Link

instance : Countable HomeAuthority := HomeAuthority.links_injective.countable

deriving instance Countable for DeliveryMode, DeploymentReceipt, ExecutionGrant, ControlDisposition, ExecutionStage,
  ExecutionReceipt, JobSubmit, JobSpec, JobState, JobControlKind, JobControl, JobEventKind, JobEvent, ExecutionControl

namespace Sample

open Classical in
/-- Every signature verifies, and digests of countable types never collide. -/
@[reducible] noncomputable def collisionFree : Crypto where
  sha256 _ := 0
  canonicalDigest {α} value := if _ : Countable α then (exists_injective_nat α).choose value else 0
  encodedLen _ := 0
  verify _ _ := true

theorem collisionFree_digest {α : Type} [counted : Countable α] (value : α) :
    @Crypto.canonicalDigest collisionFree α value = (exists_injective_nat α).choose value :=
  dif_pos counted

/-- Equal hashes are hashes of one value. -/
theorem collisionFree_identifies {α : Type} [Countable α] (left right : α)
    (same : @canonicalHash collisionFree α left = @canonicalHash collisionFree α right) : left = right := by
  simp only [canonicalHash, Text.sha256.injEq, collisionFree_digest] at same
  exact (exists_injective_nat α).choose_spec same

end Sample

end Gawd.Wire
