import Gawd.Locator.Service
import Gawd.Logic.Supersession

/-!
What a locator answers depends on the leases that were delivered to it, and hardly on their order.
-/

namespace Gawd.Locator

open Gawd.Logic Gawd.Wire

/-! The leases of one epoch are the offers to a slot. -/

/-- What the leases of one epoch agree on unless they contradict each other: all but coordinator and sequence. -/
def binding (lease : HomeLease) : HomeLease :=
  { lease with coordinator := "", leaseSequence := 0 }

theorem isHomeLeaseCoordinatorRevision_iff {current next : HomeLease} :
    isHomeLeaseCoordinatorRevision current next = true ↔
      binding current = binding next ∧ current.leaseSequence < next.leaseSequence := by
  simp only [isHomeLeaseCoordinatorRevision, Bool.and_eq_true, decide_eq_true_eq, binding, HomeLease.mk.injEq, true_and]
  tauto

/-- The next lease is a coordinator revision of the current one. -/
def Revises (current next : SignedRecord HomeLease) : Prop :=
  isHomeLeaseCoordinatorRevision current.payload next.payload = true

instance : DecidableRel Revises := fun _ _ => inferInstanceAs (Decidable (_ = true))

instance : IsTrans (SignedRecord HomeLease) Revises where
  trans first second third one two := by
    rw [Revises, isHomeLeaseCoordinatorRevision_iff] at *
    exact ⟨one.1.trans two.1, one.2.trans two.2⟩

def LeaseState.slot : LeaseState → Slot (SignedRecord HomeLease)
  | .current lease => .current lease
  | .conflict _ leases => .clash leases

/-- A conflict retains at least two leases, and not more than the caps allow. -/
def LeaseState.Fits (caps : LocatorCaps) : LeaseState → Prop
  | .current _ => True
  | .conflict _ leases => 2 ≤ leases.length ∧ leases.length ≤ caps.maxConflictsPerHome

/-- What a lease makes of the retained ones. -/
inductive Merge (states : SortedMap HomeId LeaseState) (lease : SignedRecord HomeLease) (caps : LocatorCaps) :
    SortedMap HomeId LeaseState → Prop where
  | fresh : states.get? lease.payload.home = none →
      Merge states lease caps (states.insert lease.payload.home (.current lease))
  | raised {current} : states.get? lease.payload.home = some current → current.epoch < lease.payload.epoch →
      Merge states lease caps (states.insert lease.payload.home (.current lease))
  | lower {current} : states.get? lease.payload.home = some current → lease.payload.epoch < current.epoch →
      Merge states lease caps states
  | kept {current} : states.get? lease.payload.home = some current → lease.payload.epoch = current.epoch →
      current.slot.offer Revises lease = current.slot → Merge states lease caps states
  | offered {current after} : states.get? lease.payload.home = some current → lease.payload.epoch = current.epoch →
      after.epoch = current.epoch → current.slot.offer Revises lease = after.slot →
      (∀ held ∈ after.leases, held = lease ∨ held ∈ current.leases) →
      (2 ≤ caps.maxConflictsPerHome → current.Fits caps → after.Fits caps) →
      Merge states lease caps (states.insert lease.payload.home after)

theorem applyToMap_merge {outcome : ApplyOutcome}
    (applied : applyToMap states lease caps = .ok (outcome, next)) :
    Merge states lease caps next ∧ (outcome.isIdle = true → next = states) := by
  unfold applyToMap at applied
  dsimp only at applied
  split at applied
  · cases applied
    exact ⟨.fresh ‹_›, by simp [ApplyOutcome.isIdle]⟩
  rename_i current found
  split at applied
  · cases applied
    exact ⟨.raised found ‹_›, by simp [ApplyOutcome.isIdle]⟩
  split at applied
  · cases applied
    exact ⟨.lower found ‹_›, fun _ => rfl⟩
  have same : lease.payload.epoch = current.epoch := by omega
  cases current with
  | current existing =>
    dsimp only at applied
    split at applied
    · cases applied
      exact ⟨.kept found same (if_pos ‹_›), fun _ => rfl⟩
    rename_i differ
    split at applied
    · rename_i revises
      cases applied
      have offered : (LeaseState.current existing).slot.offer Revises lease = (LeaseState.current lease).slot := by
        simp only [LeaseState.slot, Slot.offer, if_neg differ, if_pos (show Revises existing lease from revises)]
      exact ⟨.offered found same same offered (by simp [LeaseState.leases]) fun _ _ => trivial, by simp [ApplyOutcome.isIdle]⟩
    rename_i keeps
    split at applied
    · rename_i revised
      cases applied
      refine ⟨.kept found same ?_, fun _ => rfl⟩
      simp only [LeaseState.slot, Slot.offer, if_neg differ, if_neg (show ¬ Revises existing lease from keeps),
        if_pos (show Revises lease existing from revised)]
    · rename_i stays
      cases applied
      refine ⟨.offered found same rfl ?_ ?_ fun room _ => ⟨le_rfl, room⟩, by simp [ApplyOutcome.isIdle]⟩
      · simp only [LeaseState.slot, Slot.offer, if_neg differ, if_neg (show ¬ Revises existing lease from keeps),
          if_neg (show ¬ Revises lease existing from stays)]
      · simp [LeaseState.leases, or_comm]
  | conflict epoch leases =>
    dsimp only at applied
    split at applied
    · rename_i member
      cases applied
      exact ⟨.kept found same (if_pos member), by simp [ApplyOutcome.isIdle]⟩
    rename_i absent
    split at applied
    · cases applied
    · rename_i room
      cases applied
      refine ⟨.offered found same rfl (if_neg absent) ?_ fun _ fits => ?_, by simp [ApplyOutcome.isIdle]⟩
      · simp [LeaseState.leases, or_comm]
      · simp only [LeaseState.Fits, List.length_append, List.length_singleton] at fits ⊢
        omega

/-! What is retained reflects what was heard. -/

/-- The leases of one epoch of a Home. -/
def leasesOf (home : HomeId) (epoch : Nat) (heard : List (SignedRecord HomeLease)) : List (SignedRecord HomeLease) :=
  heard.filter fun lease => lease.payload.home = home ∧ lease.payload.epoch = epoch

theorem mem_leasesOf {lease : SignedRecord HomeLease} :
    lease ∈ leasesOf home epoch heard ↔ lease ∈ heard ∧ lease.payload.home = home ∧ lease.payload.epoch = epoch := by
  simp [leasesOf]

/-- What is retained for a Home is the slot of the leases of the highest epoch that was heard of. -/
def Reflects (home : HomeId) (heard : List (SignedRecord HomeLease)) : Option LeaseState → Prop
  | none => ∀ lease ∈ heard, lease.payload.home ≠ home
  | some state => (∀ lease ∈ heard, lease.payload.home = home → lease.payload.epoch ≤ state.epoch) ∧
      Slot.Standing Revises (leasesOf home state.epoch heard) state.slot

section

variable {home : HomeId} {heard : List (SignedRecord HomeLease)} {states next : SortedMap HomeId LeaseState}
  {lease : SignedRecord HomeLease} {caps : LocatorCaps}

theorem leasesOf_concat_of_not (other : lease.payload.home = home → lease.payload.epoch ≠ epoch) :
    leasesOf home epoch (heard ++ [lease]) = leasesOf home epoch heard := by
  rw [leasesOf, List.filter_append, List.filter_singleton, decide_eq_false (fun same => other same.1 same.2)]
  simp [leasesOf]

theorem leasesOf_concat : leasesOf lease.payload.home lease.payload.epoch (heard ++ [lease]) =
      leasesOf lease.payload.home lease.payload.epoch heard ++ [lease] := by
  simp [leasesOf]

/-- A lease of another Home, or of an epoch that has passed, is not reflected. -/
theorem Reflects.ignore (reflects : Reflects home heard found)
    (other : lease.payload.home = home → ∃ state, found = some state ∧ lease.payload.epoch < state.epoch) :
    Reflects home (heard ++ [lease]) found := by
  cases found with
  | none =>
    refine List.forall_mem_append.mpr ⟨reflects, ?_⟩
    rw [List.forall_mem_singleton]
    intro same
    obtain ⟨_, ⟨⟩, _⟩ := other same
  | some state =>
    obtain ⟨highest, standing⟩ := reflects
    have below : lease.payload.home = home → lease.payload.epoch < state.epoch := fun same => by
      obtain ⟨_, ⟨⟩, below⟩ := other same
      exact below
    refine ⟨List.forall_mem_append.mpr ⟨highest, ?_⟩, ?_⟩
    · rw [List.forall_mem_singleton]
      exact fun same => (below same).le
    · rw [leasesOf_concat_of_not fun same => (below same).ne]
      exact standing

/-- The first lease of an epoch starts its slot. -/
theorem reflects_first (below : ∀ other ∈ heard, other.payload.home = lease.payload.home →
    other.payload.epoch < lease.payload.epoch) :
    Reflects lease.payload.home (heard ++ [lease]) (some (.current lease)) := by
  have none : leasesOf lease.payload.home lease.payload.epoch heard = [] := by
    rw [List.eq_nil_iff_forall_not_mem]
    intro other member
    obtain ⟨heardOf, same, epoch⟩ := mem_leasesOf.mp member
    exact (below other heardOf same).ne epoch
  refine ⟨List.forall_mem_append.mpr ⟨fun other heardOf same => (below other heardOf same).le, by simp [LeaseState.epoch]⟩, ?_⟩
  change Slot.Standing Revises (leasesOf lease.payload.home lease.payload.epoch (heard ++ [lease])) (.current lease)
  rw [leasesOf_concat, none]
  exact Slot.standing_single lease

/-- A lease of the epoch is offered to its slot. -/
theorem Reflects.offer {current after : LeaseState} (reflects : Reflects lease.payload.home heard (some current))
    (same : lease.payload.epoch = current.epoch) (epoch : after.epoch = current.epoch)
    (offered : current.slot.offer Revises lease = after.slot) :
    Reflects lease.payload.home (heard ++ [lease]) (some after) := by
  obtain ⟨highest, standing⟩ := reflects
  refine ⟨?_, ?_⟩
  · rw [epoch]
    refine List.forall_mem_append.mpr ⟨highest, ?_⟩
    rw [List.forall_mem_singleton]
    exact fun _ => same.le
  · rw [epoch, ← same, leasesOf_concat, ← offered]
    rw [← same] at standing
    exact standing.offer lease

theorem Merge.reflects (merge : Merge states lease caps next) (reflects : ∀ home, Reflects home heard (states.get? home))
    (home : HomeId) : Reflects home (heard ++ [lease]) (next.get? home) := by
  have ignored : (lease.payload.home = home → ∃ state, states.get? home = some state ∧ lease.payload.epoch < state.epoch) →
      Reflects home (heard ++ [lease]) (states.get? home) := (reflects home).ignore
  have own := reflects lease.payload.home
  by_cases mine : home = lease.payload.home
  · subst mine
    cases merge with
    | fresh absent =>
      rw [absent] at own
      rw [SortedMap.get?_insert_self]
      exact reflects_first fun other member same => absurd same (own other member)
    | raised found raise =>
      rw [found] at own
      rw [SortedMap.get?_insert_self]
      exact reflects_first fun other member same => (own.1 other member same).trans_lt raise
    | lower found below => exact ignored fun _ => ⟨_, found, below⟩
    | kept found same offered =>
      rw [found] at own ⊢
      exact own.offer same rfl offered
    | offered found same epoch offered =>
      rw [found] at own
      rw [SortedMap.get?_insert_self]
      exact own.offer same epoch offered
  · have kept : next.get? home = states.get? home := by
      cases merge with
      | lower | kept => rfl
      | fresh | raised | offered => exact SortedMap.get?_insert_of_ne _ _ mine
    rw [kept]
    exact ignored fun same => absurd same.symm mine

end

/-! What is retained can be opened again. -/

variable {value : Unit} {fate : OpenFate}

theorem forM_eq_ok {α : Type} {check : α → Except LocatorError Unit} {items : List α} :
    items.forM check = .ok value ↔ ∀ item ∈ items, check item = .ok () := by
  induction items with
  | nil => simp [List.forM_nil]
  | cons item rest ih =>
    rw [List.forM, bind_eq_ok, List.forall_mem_cons, ← ih]
    exact ⟨fun ⟨_, first, others⟩ => ⟨first, others⟩, fun ⟨first, others⟩ => ⟨(), first, others⟩⟩

theorem conflicts_of_validateCaps (valid : validateCaps caps = .ok ()) : 2 ≤ caps.maxConflictsPerHome := by
  simp only [validateCaps, reject_eq_ok, not_or, not_lt] at valid
  exact valid.2.1

theorem Merge.size_le (merge : Merge states lease caps next) (bounded : states.size ≤ limit)
    (room : states.contains lease.payload.home = false → states.size < limit) : next.size ≤ limit := by
  have inserted : ∀ {added : LeaseState}, (states.insert lease.payload.home added).size ≤ limit := by
    intro added
    have counted := states.size_insert lease.payload.home added
    cases held : states.get? lease.payload.home with
    | none =>
      have small := room (by rw [SortedMap.contains, held]; rfl)
      rw [held, Option.isSome_none, Bool.toNat_false] at counted
      omega
    | some =>
      rw [held, Option.isSome_some, Bool.toNat_true] at counted
      omega
  cases merge with
  | fresh | raised | offered => exact inserted
  | lower | kept => exact bounded

theorem ofIo_eq_ok {failure : Option String} : ofIo failure = .ok value ↔ failure = none := by
  cases failure <;> simp [ofIo]

section

variable [Crypto] {home : HomeId} {state : LeaseState} {states next : SortedMap HomeId LeaseState} {caps : LocatorCaps}
  {lease : SignedRecord HomeLease}

/-- What an open asks of the leases that are retained for a Home. -/
structure LeaseState.Valid (home : HomeId) (caps : LocatorCaps) (state : LeaseState) : Prop where
  fits : state.Fits caps
  leases : ∀ lease ∈ state.leases, verifyHomeLease lease = .ok () ∧ lease.payload.home = home ∧ lease.payload.epoch = state.epoch

variable {epoch : Nat}

theorem validateRetained_eq_ok : validateRetained home epoch lease = .ok () ↔
    verifyHomeLease lease = .ok () ∧ lease.payload.home = home ∧ lease.payload.epoch = epoch := by
  simp only [validateRetained, ofCorrupt, bind_eq_ok, mapError_eq_ok, reject_eq_ok, not_or, not_not]
  constructor
  · rintro ⟨_, verified, _, same⟩
    exact ⟨verified, same⟩
  · rintro ⟨verified, same⟩
    exact ⟨(), verified, schema_of_verified verified, same⟩

theorem validateState_eq_ok (room : 2 ≤ caps.maxConflictsPerHome) :
    validateState home state caps = .ok () ↔ state.Valid home caps := by
  unfold validateState
  cases state with
  | current lease =>
    simp only [bind_eq_ok, reject_eq_ok, forM_eq_ok, validateRetained_eq_ok]
    constructor
    · rintro ⟨_, _, _, each, _⟩
      exact ⟨trivial, each⟩
    · rintro ⟨_, each⟩
      refine ⟨(), ?_, (), each, fun differ => differ rfl⟩
      rw [LeaseState.leases, List.length_singleton]
      rintro (empty | long)
      · cases empty
      · omega
  | conflict epoch leases =>
    simp only [bind_eq_ok, reject_eq_ok, forM_eq_ok, validateRetained_eq_ok, not_or, not_lt]
    constructor
    · rintro ⟨_, ⟨_, bounded⟩, _, each, many⟩
      exact ⟨⟨many, bounded⟩, each⟩
    · rintro ⟨⟨many, bounded⟩, each⟩
      refine ⟨(), ⟨?_, bounded⟩, (), each, many⟩
      rintro rfl
      simp at many

/-- The entries of a snapshot are restored in their order if each of them passes its check. -/
theorem restoreEntries_eq_ok {rest : List (HomeId × LeaseState)}
    (sorted : (states.entries ++ rest).Pairwise fun left right => left.1 < right.1) :
    restoreEntries caps states (rest.map fun entry => ⟨entry.1, entry.2⟩) = .ok next ↔
      (∀ entry ∈ rest, validateState entry.1 entry.2 caps = .ok ()) ∧ next.entries = states.entries ++ rest := by
  induction rest generalizing states with
  | nil =>
    obtain ⟨entries, _⟩ := next
    obtain ⟨others, _⟩ := states
    simp [restoreEntries, eq_comm]
  | cons entry rest ih =>
    have above : ∀ earlier ∈ states.entries, earlier.1 < entry.1 := fun earlier member =>
      (List.pairwise_append.mp sorted).2.2 earlier member entry List.mem_cons_self
    have absent : states.contains entry.1 = false := by
      rw [SortedMap.contains, SortedMap.get?, SortedMap.find_eq_none fun earlier member => (above earlier member).ne]
      rfl
    have grown : (states.insert entry.1 entry.2).entries = states.entries ++ [entry] := SortedMap.insertEntry_of_lt above
    have later : ((states.insert entry.1 entry.2).entries ++ rest).Pairwise fun left right => left.1 < right.1 := by
      rwa [grown, List.append_assoc]
    have restored := ih later
    rw [grown, List.append_assoc] at restored
    simp only [List.map_cons, restoreEntries, bind_eq_ok, reject_eq_ok, absent, List.forall_mem_cons]
    constructor
    · rintro ⟨_, _, _, valid, run⟩
      obtain ⟨others, entries⟩ := restored.mp run
      exact ⟨⟨valid, others⟩, entries⟩
    · rintro ⟨⟨valid, others⟩, entries⟩
      exact ⟨(), by simp, (), valid, restored.mpr ⟨others, entries⟩⟩

/-! A whole run. -/

/-- The leases that a locator was given one after the other since it started without any, each of them accepted.
Between them it may be closed and opened again. -/
inductive Delivered : List (SignedRecord HomeLease) → Service → Prop where
  | created {caps locator} : FunctionLocator.new caps = .ok locator → Delivered [] ⟨locator, none⟩
  | opened {fate caps locator} : FunctionLocator.open fate caps none = .ok locator → Delivered [] ⟨locator, none⟩
  | applied {heard before fate lease outcome after} : Delivered heard before → apply fate lease before = .ok outcome after →
      Delivered (heard ++ [lease]) after
  | reopened {heard before fate caps locator} : Delivered heard before → before.locator.persistence = true →
      FunctionLocator.open fate caps before.disk = .ok locator → Delivered heard ⟨locator, before.disk⟩

/-- The snapshot file holds what is retained. -/
def Service.Stored (service : Service) : Prop :=
  service.disk = none ∧ service.locator.states = ∅ ∨
    service.disk = some (snapshotFile service.locator.states) ∧ ¬ service.Overlong service.locator.states

/-- What holds of a locator after the leases it was given. -/
structure Retains (heard : List (SignedRecord HomeLease)) (service : Service) : Prop where
  healthy : service.locator.healthy = true
  caps : validateCaps service.locator.caps = .ok ()
  size : service.locator.states.size ≤ service.locator.caps.maxHomes
  valid : ∀ home state, service.locator.states.get? home = some state → state.Valid home service.locator.caps
  verified : ∀ lease ∈ heard, verifyHomeLease lease = .ok ()
  reflects : ∀ home, Reflects home heard (service.locator.states.get? home)
  stored : service.locator.persistence = true → service.Stored

variable {heard : List (SignedRecord HomeLease)} {before after service : Service} {outcome : ApplyOutcome}

theorem Merge.valid (merge : Merge states lease caps next) (room : 2 ≤ caps.maxConflictsPerHome)
    (verified : verifyHomeLease lease = .ok ())
    (valid : ∀ home state, states.get? home = some state → state.Valid home caps) :
    ∀ home state, next.get? home = some state → state.Valid home caps := by
  have single : LeaseState.Valid lease.payload.home caps (.current lease) := by
    refine ⟨trivial, fun other member => ?_⟩
    obtain rfl := List.mem_singleton.mp member
    exact ⟨verified, rfl, rfl⟩
  have inserted : ∀ {added : LeaseState}, added.Valid lease.payload.home caps → ∀ home state,
      (states.insert lease.payload.home added).get? home = some state → state.Valid home caps := by
    intro added sound home state held
    rw [SortedMap.get?_insert] at held
    split at held
    · rename_i same
      cases held
      exact same ▸ sound
    · exact valid home state held
  cases merge with
  | fresh | raised => exact inserted single
  | lower | kept => exact valid
  | offered found same epoch offered held fits =>
    have known := valid _ _ found
    refine inserted ⟨fits room known.fits, fun other member => ?_⟩
    rw [epoch]
    rcases held other member with rfl | old
    · exact ⟨verified, rfl, same⟩
    · exact known.leases other old

/-- Reading a snapshot that was written gives the retained leases back, if they pass the checks of an open. -/
theorem readSnapshot_snapshotFile : readSnapshot fate (snapshotFile states) caps = .ok next ↔
    (fate.read = none ∧ Crypto.encodedLen (persistedState states) ≤ caps.maxSnapshotBytes ∧ states.size ≤ caps.maxHomes ∧
      ∀ home state, states.get? home = some state → validateState home state caps = .ok ()) ∧ next = states := by
  have restored : restoreEntries caps ∅ (persistedState states).entries = .ok next ↔
      (∀ entry ∈ states.entries, validateState entry.1 entry.2 caps = .ok ()) ∧ next.entries = states.entries :=
    restoreEntries_eq_ok states.sorted
  have entries : (∀ entry ∈ states.entries, validateState entry.1 entry.2 caps = .ok ()) ↔
      ∀ home state, states.get? home = some state → validateState home state caps = .ok () := by
    simp only [Prod.forall, SortedMap.mem_entries_iff]
  have whole : next.entries = states.entries ↔ next = states := by
    obtain ⟨_, _⟩ := next
    obtain ⟨_, _⟩ := states
    simp
  have length : (persistedState states).entries.length = states.size := List.length_map _
  rw [entries, whole] at restored
  simp only [readSnapshot, boundedRead, bind_eq_ok, mapError_eq_ok, ofIo_eq_ok, reject_eq_ok, not_lt,
    not_not]
  constructor
  · rintro ⟨_, ⟨_, read, short⟩, _, ⟨⟩, _, _, _, few, run⟩
    obtain ⟨valid, same⟩ := restored.mp run
    exact ⟨⟨read, short, length ▸ few, valid⟩, same⟩
  · rintro ⟨⟨read, short, few, valid⟩, same⟩
    exact ⟨(), ⟨(), read, short⟩, _, rfl, (), rfl, (), length.symm ▸ few, restored.mpr ⟨valid, same⟩⟩

variable {locator : FunctionLocator}

/-- What an open that succeeds has checked, and what it opens. -/
theorem open_eq_ok : FunctionLocator.open fate caps disk = .ok locator ↔
      (validateCaps caps = .ok () ∧ fate.create = none ∧ fate.sync = none) ∧
        ∃ states, locator = ⟨caps, states, true, true⟩ ∧
          (disk = none ∧ states = ∅ ∨ ∃ file, disk = some file ∧ readSnapshot fate file caps = .ok states) := by
  unfold FunctionLocator.open
  cases disk <;> simp only [bind_eq_ok, ofIo_eq_ok, pure_eq_ok, true_and] <;> constructor
  · rintro ⟨_, valid, _, created, _, rfl, _, synced, rfl⟩
    exact ⟨⟨valid, created, synced⟩, _, rfl, .inl rfl⟩
  · rintro ⟨⟨valid, created, synced⟩, states, rfl, rfl | ⟨_, ⟨⟩, _⟩⟩
    exact ⟨(), valid, (), created, _, rfl, (), synced, rfl⟩
  · rintro ⟨_, valid, _, created, _, read, _, synced, rfl⟩
    exact ⟨⟨valid, created, synced⟩, _, rfl, .inr ⟨_, rfl, read⟩⟩
  · rintro ⟨⟨valid, created, synced⟩, states, rfl, ⟨⟨⟩, _⟩ | ⟨_, ⟨⟩, read⟩⟩
    exact ⟨(), valid, (), created, _, read, (), synced, rfl⟩

theorem retains_empty (valid : validateCaps caps = .ok ()) : Retains [] ⟨⟨caps, ∅, persistence, true⟩, none⟩ where
  healthy := rfl
  caps := valid
  size := Nat.zero_le _
  valid _ _ held := by cases held
  verified _ member := absurd member List.not_mem_nil
  reflects _ _ member := absurd member List.not_mem_nil
  stored _ := .inl ⟨rfl, rfl⟩

theorem Retains.apply (retains : Retains heard before) (accepted : Accepted before lease outcome after) :
    Retains (heard ++ [lease]) after := by
  obtain ⟨next, applied, idleOr⟩ := accepted.merged
  obtain ⟨merge, idle⟩ := applyToMap_merge applied
  have room := conflicts_of_validateCaps retains.caps
  have verified : ∀ other ∈ heard ++ [lease], verifyHomeLease other = .ok () := by
    rw [List.forall_mem_append, List.forall_mem_singleton]
    exact ⟨retains.verified, accepted.verified⟩
  have reflects := merge.reflects retains.reflects
  rcases idleOr with ⟨isIdle, rfl⟩ | ⟨_, short, rfl⟩
  · rw [idle isIdle] at reflects
    exact { retains with verified, reflects }
  · refine ⟨retains.healthy, retains.caps, merge.size_le retains.size fun absent => ?_, merge.valid room accepted.verified retains.valid,
      verified, reflects, fun persistent => .inr ⟨if_pos persistent, short⟩⟩
    exact Nat.lt_of_not_le fun full => accepted.room ⟨absent, full⟩

theorem Retains.reopen (retains : Retains heard before) (persistent : before.locator.persistence = true)
    (opened : FunctionLocator.open fate caps before.disk = .ok locator) :
    Retains heard ⟨locator, before.disk⟩ ∧ locator.states = before.locator.states := by
  obtain ⟨⟨valid, _, _⟩, states, rfl, read⟩ := open_eq_ok.mp opened
  rcases retains.stored persistent with ⟨noFile, empty⟩ | ⟨file, short⟩
  · rcases read with ⟨_, rfl⟩ | ⟨_, absurd, _⟩
    · have reflects := retains.reflects
      rw [empty] at reflects
      exact ⟨{ retains_empty valid with verified := retains.verified, reflects, stored := fun _ => .inl ⟨noFile, rfl⟩ }, empty.symm⟩
    · rw [noFile] at absurd
      cases absurd
  · rcases read with ⟨noFile, _⟩ | ⟨_, same, read⟩
    · rw [file] at noFile
      cases noFile
    · rw [file] at same
      obtain rfl := Option.some.inj same
      obtain ⟨⟨_, fits, few, each⟩, rfl⟩ := readSnapshot_snapshotFile.mp read
      refine ⟨⟨rfl, valid, few, fun home state held => ?_, retains.verified, retains.reflects, fun _ => .inr ⟨file, ?_⟩⟩, rfl⟩
      · exact (validateState_eq_ok (conflicts_of_validateCaps valid)).mp (each home state held)
      · exact fun overlong => overlong.2.not_ge fits

theorem retains_of_delivered (delivered : Delivered heard service) : Retains heard service := by
  induction delivered with
  | created made =>
    simp only [FunctionLocator.new, bind_eq_ok, pure_eq_ok] at made
    obtain ⟨_, valid, rfl⟩ := made
    exact retains_empty valid
  | opened run =>
    obtain ⟨⟨valid, _, _⟩, states, rfl, ⟨_, rfl⟩ | ⟨_, ⟨⟩, _⟩⟩ := open_eq_ok.mp run
    exact retains_empty valid
  | applied _ run ih => exact ih.apply (wp_ok wp_apply run)
  | reopened _ persistent run ih => exact (ih.reopen persistent run).1

/-! What is answered. -/

theorem validate_home_of_verified (verified : verifyHomeLease lease = .ok ()) : validate lease.payload.home = .ok () := by
  simp only [verifyHomeLease, bind_eq_ok, validate, SignedRecord.validateWith] at verified
  obtain ⟨_, ⟨_, _, _, _, _, _, _, ⟨_, home, _⟩, _⟩, _⟩ := verified
  exact home

def LeaseState.answer : LeaseState → LocateOutcome
  | .current lease => .location lease
  | .conflict epoch leases => .conflict epoch leases

/-- What is retained for a Home is what is answered. -/
theorem Retains.locate (retains : Retains heard service) (held : service.locator.states.get? home = some state)
    (member : lease ∈ heard) (own : lease.payload.home = home) :
    service.locator.locate ⟨home, none⟩ = .ok state.answer := by
  have valid : validate (⟨home, none⟩ : HomeLocate) = .ok () := by
    simp only [validate, bind_eq_ok, reject_eq_ok]
    exact ⟨(), own ▸ validate_home_of_verified (retains.verified lease member), by simp⟩
  simp only [FunctionLocator.locate, bind_eq_ok, reject_eq_ok, ofInvalid, mapError_eq_ok]
  refine ⟨(), by simp [retains.healthy], (), valid, ?_⟩
  rw [held]
  cases state <;> rfl

/-- The leases of the highest epoch that was heard of settle the answer. -/
theorem Retains.settled (retains : Retains heard service)
    (highest : ∀ lease ∈ heard, lease.payload.home = home → lease.payload.epoch ≤ epoch)
    (some : leasesOf home epoch heard ≠ []) :
    ∃ state : LeaseState, service.locator.locate ⟨home, none⟩ = .ok state.answer ∧ state.epoch = epoch ∧
      Slot.Standing Revises (leasesOf home epoch heard) state.slot := by
  obtain ⟨lease, member⟩ := List.exists_mem_of_ne_nil _ some
  obtain ⟨heardOf, own, same⟩ := mem_leasesOf.mp member
  have reflects := retains.reflects home
  cases held : service.locator.states.get? home with
  | none =>
    rw [held] at reflects
    exact absurd own (reflects lease heardOf)
  | some state =>
    rw [held] at reflects
    obtain ⟨above, standing⟩ := reflects
    have upper := above lease heardOf own
    obtain ⟨other, offered⟩ := standing.exists_offer
    obtain ⟨otherHeard, otherOwn, otherEpoch⟩ := mem_leasesOf.mp offered
    have lower := highest other otherHeard otherOwn
    have epochs : state.epoch = epoch := by omega
    exact ⟨state, retains.locate held heardOf own, epochs, epochs ▸ standing⟩

/-- A locator that is opened from its snapshot answers as before. -/
theorem Retains.reopened (retains : Retains heard service) (persistent : service.locator.persistence = true) :
    (∃ locator, FunctionLocator.open .fine service.locator.caps service.disk = .ok locator) ∧
      ∀ fate caps locator, FunctionLocator.open fate caps service.disk = .ok locator →
        ∀ query, locator.locate query = service.locator.locate query := by
  refine ⟨?_, fun fate caps locator opened query => ?_⟩
  · rcases retains.stored persistent with ⟨noFile, _⟩ | ⟨file, short⟩
    · exact ⟨_, open_eq_ok.mpr ⟨⟨retains.caps, rfl, rfl⟩, ∅, rfl, .inl ⟨noFile, rfl⟩⟩⟩
    · have read : readSnapshot .fine (snapshotFile service.locator.states) service.locator.caps = .ok service.locator.states := by
        refine readSnapshot_snapshotFile.mpr ⟨⟨rfl, ?_, retains.size, fun home state held => ?_⟩, rfl⟩
        · exact Nat.le_of_not_lt fun long => short ⟨persistent, long⟩
        · exact (validateState_eq_ok (conflicts_of_validateCaps retains.caps)).mpr (retains.valid home state held)
      exact ⟨_, open_eq_ok.mpr ⟨⟨retains.caps, rfl, rfl⟩, _, rfl, .inr ⟨_, file, read⟩⟩⟩
  · obtain ⟨later, same⟩ := retains.reopen persistent opened
    have healthy : locator.healthy = true := later.healthy
    simp only [FunctionLocator.locate, same, retains.healthy, healthy]

/-- Whatever leases a locator was given, in whatever order: let the highest epoch of a Home among them be the given one. If two of
its leases differ in more than coordinator and sequence, the answer is a conflict of that epoch; it stays one as long as no
higher epoch arrives, since it holds after every further delivery. If they all agree on the rest and differ in their sequences,
the answer is the one with the greatest sequence. And a locator that is opened from the snapshot answers alike. -/
theorem locator_converges {epoch : Nat} (delivered : Delivered heard service)
    (highest : ∀ lease ∈ heard, lease.payload.home = home → lease.payload.epoch ≤ epoch)
    (some : leasesOf home epoch heard ≠ []) :
    ((∃ first ∈ leasesOf home epoch heard, ∃ second ∈ leasesOf home epoch heard,
        binding first.payload ≠ binding second.payload) →
      ∃ leases, service.locator.locate ⟨home, none⟩ = .ok (.conflict epoch leases)) ∧
    ((∀ first ∈ leasesOf home epoch heard, ∀ second ∈ leasesOf home epoch heard,
        binding first.payload = binding second.payload ∧
          (first ≠ second → first.payload.leaseSequence ≠ second.payload.leaseSequence)) →
      ∃ lease ∈ leasesOf home epoch heard, service.locator.locate ⟨home, none⟩ = .ok (.location lease) ∧
        ∀ other ∈ leasesOf home epoch heard, other.payload.leaseSequence ≤ lease.payload.leaseSequence) ∧
    (service.locator.persistence = true →
      (∃ locator, FunctionLocator.open .fine service.locator.caps service.disk = .ok locator) ∧
        ∀ fate caps locator, FunctionLocator.open fate caps service.disk = .ok locator →
          ∀ query, locator.locate query = service.locator.locate query) := by
  have retains := retains_of_delivered delivered
  obtain ⟨state, located, epochs, standing⟩ := retains.settled highest some
  have fixed : ∀ {first second}, Revises first second → binding first.payload = binding second.payload :=
    fun revises => (isHomeLeaseCoordinatorRevision_iff.mp revises).1
  refine ⟨?_, fun alike => ?_, retains.reopened⟩
  · rintro ⟨first, one, second, two, differ⟩
    obtain ⟨kept, clash⟩ := standing.clash_of_ne (fun lease => binding lease.payload) fixed one two differ
    cases state with
    | current => cases clash
    | conflict number leases =>
      obtain rfl : number = epoch := epochs
      exact ⟨leases, located⟩
  · have hidden : ¬ Slot.Evident Revises (leasesOf home epoch heard) := by
      refine Slot.not_evident_of_comparable fun first one second two clashing => ?_
      obtain ⟨differ, notNewer, notOlder⟩ := clashing
      obtain ⟨same, sequences⟩ := alike first one second two
      rcases lt_or_gt_of_ne (sequences differ) with less | greater
      · exact notNewer (isHomeLeaseCoordinatorRevision_iff.mpr ⟨same, less⟩)
      · exact notOlder (isHomeLeaseCoordinatorRevision_iff.mpr ⟨same.symm, greater⟩)
    cases state with
    | conflict => exact absurd standing.1 hidden
    | current lease =>
      obtain ⟨newest, _⟩ := standing
      refine ⟨lease, newest.offered, located, fun other member => ?_⟩
      rcases newest.above other member with rfl | older
      · exact le_rfl
      · exact (isHomeLeaseCoordinatorRevision_iff.mp older).2.le

end

variable {leases : List (SignedRecord HomeLease)}

namespace Sample

open Gawd.Wire.Sample

attribute [local instance] Wire.Sample.crypto

/-- A lease of the first epoch. -/
def lease (sequence : Nat) (coordinator : String) : SignedRecord HomeLease :=
  signed .locate homeKey ⟨home, 1, sequence, "realm", "node", coordinator, authority, none, none, .sha256 0, none, none⟩

/-- A locator of an empty root directory. -/
def empty : Service := ⟨⟨.default, ∅, true, true⟩, none⟩

theorem empty_delivered : Delivered [] empty := @Delivered.opened _ .fine .default _ rfl

theorem applied_durable (lease : SignedRecord HomeLease)
    (delivered : Delivered heard before) (run : apply .durable lease before = .ok outcome after) :
    Delivered (heard ++ [lease]) after := .applied delivered run

end Sample

section

attribute [local instance] Wire.Sample.crypto

open Sample in
/-- Two revisions that arrive in the wrong order. -/
theorem locator_converges_revised : ∃ service, Delivered [lease 2 "b", lease 1 "a"] service ∧
    ∃ found ∈ leasesOf Wire.Sample.home 1 [lease 2 "b", lease 1 "a"],
      service.locator.locate ⟨Wire.Sample.home, none⟩ = .ok (.location found) := by
  have delivered := applied_durable (lease 1 "a") (applied_durable (lease 2 "b") empty_delivered rfl) rfl
  have highest : ∀ found ∈ [lease 2 "b", lease 1 "a"], found.payload.home = Wire.Sample.home → found.payload.epoch ≤ 1 := by
    decide
  obtain ⟨_, newest, _⟩ := locator_converges delivered highest (by decide)
  obtain ⟨found, member, located, _⟩ := newest (by decide)
  exact ⟨_, delivered, found, member, located⟩

end

section

variable [Crypto] {home : HomeId} {heard : List (SignedRecord HomeLease)} {service : Service}

/-- The answer is a conflict exactly if some lease of the highest epoch arrived after one that it clashes with and before any
revision of it. So two leases with one sequence show as a conflict if no revision of the second arrived before it. -/
theorem conflict_iff_evident {epoch : Nat} (delivered : Delivered heard service)
    (highest : ∀ lease ∈ heard, lease.payload.home = home → lease.payload.epoch ≤ epoch)
    (some : leasesOf home epoch heard ≠ []) :
    ((∃ leases, service.locator.locate ⟨home, none⟩ = .ok (.conflict epoch leases)) ↔
      Slot.Evident Revises (leasesOf home epoch heard)) ∧
    ∀ before first second after, leasesOf home epoch heard = before ++ second :: after → first ∈ before → first ≠ second →
      first.payload.leaseSequence = second.payload.leaseSequence → (∀ other ∈ before, ¬ Revises second other) →
        ∃ leases, service.locator.locate ⟨home, none⟩ = .ok (.conflict epoch leases) := by
  obtain ⟨state, located, epochs, standing⟩ := (retains_of_delivered delivered).settled highest some
  have evident : (∃ leases, service.locator.locate ⟨home, none⟩ = .ok (.conflict epoch leases)) ↔
      Slot.Evident Revises (leasesOf home epoch heard) := by
    rw [located]
    cases state with
    | current lease => exact iff_of_false (by simp [LeaseState.answer]) standing.2
    | conflict number leases =>
      obtain rfl : number = epoch := epochs
      exact iff_of_true ⟨leases, rfl⟩ standing.1
  refine ⟨evident, fun before first second after split member differ same unrevised => evident.mpr ?_⟩
  refine ⟨before, second, after, split, ⟨first, member, differ, fun revises => ?_, fun revises => ?_⟩, unrevised⟩
  · exact (isHomeLeaseCoordinatorRevision_iff.mp revises).2.ne same
  · exact (isHomeLeaseCoordinatorRevision_iff.mp revises).2.ne same.symm

end

attribute [local instance] Wire.Sample.crypto

open Sample in
/-- Two leases with one sequence, one after the other. -/
theorem conflict_iff_evident_equivocal : ∃ service leases, Delivered [lease 1 "a", lease 1 "b"] service ∧
    service.locator.locate ⟨Wire.Sample.home, none⟩ = .ok (.conflict 1 leases) := by
  have delivered := applied_durable (lease 1 "b") (applied_durable (lease 1 "a") empty_delivered rfl) rfl
  have highest : ∀ found ∈ [lease 1 "a", lease 1 "b"], found.payload.home = Wire.Sample.home → found.payload.epoch ≤ 1 := by
    decide
  obtain ⟨_, equivocal⟩ := conflict_iff_evident delivered highest (by decide)
  obtain ⟨leases, located⟩ := equivocal [lease 1 "a"] (lease 1 "a") (lease 1 "b") [] (by decide) (by decide)
    (by decide) rfl (by decide)
  exact ⟨_, leases, delivered, located⟩

open Sample in
/-- Two leases with one sequence and a revision of both between them: the last one is taken for stale, and the answer is the
revision. -/
theorem revision_hides_equivocation : lease 1 "a" ≠ lease 1 "b" ∧
    (lease 1 "a").payload.leaseSequence = (lease 1 "b").payload.leaseSequence ∧
    ∃ service, Delivered [lease 1 "a", lease 2 "c", lease 1 "b"] service ∧
      service.locator.locate ⟨Wire.Sample.home, none⟩ = .ok (.location (lease 2 "c")) := by
  have delivered := applied_durable (lease 1 "b")
    (applied_durable (lease 2 "c") (applied_durable (lease 1 "a") empty_delivered rfl) rfl) rfl
  exact ⟨by decide, rfl, _, delivered, rfl⟩

end Gawd.Locator
