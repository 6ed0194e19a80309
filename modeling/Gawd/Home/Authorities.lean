import Gawd.Home.History

/-!
Replay under more authorities. A configuration that vouches for every signer another one vouches for
replays all that the other one replays, into the same state.
-/

namespace Gawd.Home

open Gawd.Logic Gawd.Wire Gawd.Journal

variable {record : HomeLedgerRecord} {ledger : List HomeLedgerRecord} {before after : HomeState}

theorem applySubmitted_congr (same : config.home = other.home) :
    applySubmitted config event spec = applySubmitted other event spec := by
  simp only [applySubmitted, checkLineage, same]

section

variable [Crypto]

/-- The configuration is of the same Home and vouches for every signer that the other one vouches for. -/
structure HomeConfig.Covers (config other : HomeConfig) : Prop where
  home : config.home = other.home
  vouches : ∀ epoch signer, authorizedOperational other epoch signer = true →
    authorizedOperational config epoch signer = true

variable {config other : HomeConfig}

theorem applyTransition_congr (same : config.home = other.home) :
    applyTransition config event = applyTransition other event := by
  simp only [applyTransition, indexEvent, forwardControl, same]

section

variable (covers : config.Covers other)

include covers

theorem verifyEvents_covers (verified : verifyEvents other events = .ok ()) : verifyEvents config events = .ok () := by
  induction events with
  | nil => rfl
  | cons event rest ih =>
    simp only [verifyEvents, bind_eq_ok, reject_eq_ok, not_or, not_not, Bool.not_eq_false] at verified ⊢
    obtain ⟨_, ⟨valid, vouched⟩, later⟩ := verified
    exact ⟨(), ⟨valid, covers.vouches _ _ vouched⟩, ih later⟩

theorem validateLedgerRecord_covers (valid : validateLedgerRecord record other = .ok ()) :
    validateLedgerRecord record config = .ok () := by
  simp only [validateLedgerRecord, bind_eq_ok] at valid ⊢
  obtain ⟨_, some, _, verified, rest⟩ := valid
  exact ⟨(), some, (), verifyEvents_covers covers verified, rest⟩

theorem applyGrant_covers :
    Follows Eq (applyGrant config grant) (applyGrant other grant) state state := by
  refine Follows.check fun _ passed => ⟨?_, .refl _ state⟩
  simp only [reject_eq_ok, not_or, not_not, Bool.not_eq_false] at passed ⊢
  exact ⟨passed.1.trans covers.home.symm, covers.vouches _ _ passed.2⟩

theorem applyJobEvent_covers :
    Follows Eq (applyJobEvent config event) (applyJobEvent other event) state state := by
  refine Follows.check fun _ passed => ⟨?_, ?_⟩
  · simp only [reject_eq_ok, not_or, not_not, Bool.not_eq_false] at passed ⊢
    exact ⟨passed.1.trans covers.home.symm, covers.vouches _ _ passed.2⟩
  · simp only [applySubmitted_congr covers.home, applyTransition_congr covers.home]
    exact .refl _ state

theorem applyEvents_covers :
    Follows Eq (applyEvents config events) (applyEvents other events) state state := by
  induction events generalizing state with
  | nil => exact .refl _ state
  | cons event rest ih =>
    refine (applyJobEvent_covers covers).bind fun _ middle _ same => ?_
    subst same
    exact ih

/-- More authorities admit every record that fewer admit. -/
theorem applyLedgerRecord_covers :
    Follows Eq (applyLedgerRecord config record) (applyLedgerRecord other record) state state := by
  refine Follows.check fun _ valid => ⟨validateLedgerRecord_covers covers valid, Follows.bind ?_ ?_⟩
  · cases record.grant with
    | some grant => exact applyGrant_covers covers
    | none => exact .refl _ state
  · intro _ middle _ same
    subst same
    refine (Follows.refl _ middle).bind fun _ later _ same => ?_
    subst same
    exact applyEvents_covers covers

theorem replay_covers : Follows Eq (replay config ledger) (replay other ledger) state state := by
  induction ledger generalizing state with
  | nil => exact .refl _ state
  | cons record rest ih =>
    refine (applyLedgerRecord_covers covers).bind fun _ middle _ same => ?_
    subst same
    exact ih

/-- A replay that fewer authorities admit ends in the same state under more. -/
theorem HomeConfig.Covers.replay (run : replay other ledger before = .ok () after) :
    replay config ledger before = .ok () after := by
  obtain ⟨state, done, rfl⟩ := replay_covers covers () after run
  exact done

end

/-- Only the Home and the authorities of a configuration matter to its ledger. -/
theorem HomeConfig.Covers.of_authorities (home : config.home = other.home)
    (authorities : other.authorities ⊆ config.authorities) : config.Covers other := by
  refine ⟨home, fun epoch signer vouched => ?_⟩
  simp only [authorizedOperational, List.any_eq_true, decide_eq_true_eq] at vouched ⊢
  obtain ⟨authority, member, fits⟩ := vouched
  rw [home]
  exact ⟨authority, authorities member, fits⟩

end

end Gawd.Home
