import Mathlib

/-!
A slot that keeps the newest of the items it was offered, as long as each offer can be compared with what it keeps, and
otherwise the items that could not be compared.
-/

namespace Gawd.Logic

/-- What a slot keeps: one item, or the items that clashed. -/
inductive Slot (α : Type) where
  | current (item : α)
  | clash (items : List α)

namespace Slot

variable {α : Type} [DecidableEq α] (newer : α → α → Prop) [DecidableRel newer]

/-- Offer an item. `newer held item` is that the item replaces the held one. -/
def offer (item : α) : Slot α → Slot α
  | .current held =>
    if held = item then .current held
    else if newer held item then .current item
    else if newer item held then .current held
    else .clash [held, item]
  | .clash items => if item ∈ items then .clash items else .clash (items ++ [item])

/-- Two items of which neither replaces the other. -/
def Clashing (first second : α) : Prop :=
  first ≠ second ∧ ¬ newer first second ∧ ¬ newer second first

/-- Some item was offered after one that it clashes with, and before any item that replaces it. -/
def Evident (items : List α) : Prop :=
  ∃ before item after, items = before ++ item :: after ∧ (∃ other ∈ before, Clashing newer other item) ∧
    ∀ other ∈ before, ¬ newer item other

/-- The item was offered, and every other offer is older. -/
structure Newest (items : List α) (held : α) : Prop where
  offered : held ∈ items
  above : ∀ item ∈ items, item = held ∨ newer item held

/-- The slot keeps the newest of the items it was offered if no clash was evident, and otherwise some of them. -/
def Standing (items : List α) : Slot α → Prop
  | .current held => Newest newer items held ∧ ¬ Evident newer items
  | .clash kept => Evident newer items ∧ ∀ item ∈ kept, item ∈ items

variable {newer} {items : List α} {slot : Slot α} {item held : α}

omit [DecidableEq α] [DecidableRel newer] in
/-- The last offer makes a clash evident, or it was evident before. -/
theorem evident_concat : Evident newer (items ++ [item]) ↔
    Evident newer items ∨ (∃ other ∈ items, Clashing newer other item) ∧ ∀ other ∈ items, ¬ newer item other := by
  constructor
  · rintro ⟨before, found, after, split, clashing, unreplaced⟩
    rcases List.eq_nil_or_concat after with rfl | ⟨shorter, last, rfl⟩
    · obtain ⟨rfl, ends⟩ := List.append_inj' split rfl
      obtain rfl := List.singleton_inj.mp ends
      exact .inr ⟨clashing, unreplaced⟩
    · rw [List.concat_eq_append, ← List.cons_append, ← List.append_assoc] at split
      obtain ⟨rfl, _⟩ := List.append_inj' split rfl
      exact .inl ⟨before, found, shorter, rfl, clashing, unreplaced⟩
  · rintro (⟨before, found, after, rfl, clashing, unreplaced⟩ | ⟨clashing, unreplaced⟩)
    · exact ⟨before, found, after ++ [item], by simp, clashing, unreplaced⟩
    · exact ⟨items, item, [], rfl, clashing, unreplaced⟩

omit [DecidableEq α] [DecidableRel newer] in
theorem not_evident_single (item : α) : ¬ Evident newer [item] := by
  rintro ⟨before, found, after, split, ⟨other, member, _⟩, _⟩
  rcases before with _ | ⟨first, rest⟩
  · exact List.not_mem_nil member
  · simp at split

omit [DecidableEq α] [DecidableRel newer] in
theorem standing_single (item : α) : Standing newer [item] (.current item) :=
  ⟨⟨List.mem_singleton_self item, fun _ member => .inl (List.mem_singleton.mp member)⟩, not_evident_single item⟩

omit [DecidableEq α] [DecidableRel newer] in
theorem Standing.exists_offer (standing : Standing newer items slot) : ∃ item, item ∈ items := by
  cases slot with
  | current held => exact ⟨held, standing.1.offered⟩
  | clash kept =>
    obtain ⟨⟨before, item, after, rfl, _⟩, _⟩ := standing
    exact ⟨item, by simp⟩

section

variable (newest : Newest newer items held)

include newest

omit [DecidableEq α] [DecidableRel newer] in
/-- An older or equal offer changes nothing. -/
theorem Newest.keep (older : item = held ∨ newer item held) :
    Newest newer (items ++ [item]) held where
  offered := List.mem_append_left _ newest.offered
  above other member := by
    rcases List.mem_append.mp member with old | new
    · exact newest.above other old
    · exact List.mem_singleton.mp new ▸ older

omit [DecidableEq α] [DecidableRel newer] in
/-- A newer offer takes the place. -/
theorem Newest.replace [IsTrans α newer] (replaces : newer held item) :
    Newest newer (items ++ [item]) item where
  offered := List.mem_append_right _ (List.mem_singleton_self item)
  above other member := by
    rcases List.mem_append.mp member with old | new
    · rcases newest.above other old with rfl | older
      · exact .inr replaces
      · exact .inr (IsTrans.trans _ _ _ older replaces)
    · exact .inl (List.mem_singleton.mp new)

omit [DecidableEq α] [DecidableRel newer] in
/-- An offer that can be compared with the newest item makes no clash evident. -/
theorem Newest.not_evident [IsTrans α newer] (hidden : ¬ Evident newer items)
    (comparable : ¬ Clashing newer held item) : ¬ Evident newer (items ++ [item]) := by
  rw [evident_concat]
  rintro (evident | ⟨⟨other, member, differ, notNewer, notOlder⟩, unreplaced⟩)
  · exact hidden evident
  refine comparable ⟨?_, fun replaces => ?_, fun replaced => unreplaced held newest.offered replaced⟩
  · rintro rfl
    rcases newest.above other member with same | older
    · exact differ same
    · exact notNewer older
  · rcases newest.above other member with rfl | older
    · exact notNewer replaces
    · exact notNewer (IsTrans.trans _ _ _ older replaces)

end

theorem Standing.offer [IsTrans α newer] (standing : Standing newer items slot) (item : α) :
    Standing newer (items ++ [item]) (slot.offer newer item) := by
  cases slot with
  | current held =>
    obtain ⟨newest, hidden⟩ := standing
    simp only [Slot.offer]
    split
    · rename_i same
      exact ⟨newest.keep (.inl same.symm), newest.not_evident hidden fun clashing => clashing.1 same⟩
    · rename_i differ
      split
      · rename_i replaces
        exact ⟨newest.replace replaces, newest.not_evident hidden fun clashing => clashing.2.1 replaces⟩
      · rename_i keeps
        split
        · rename_i replaced
          exact ⟨newest.keep (.inr replaced), newest.not_evident hidden fun clashing => clashing.2.2 replaced⟩
        · rename_i stays
          refine ⟨evident_concat.mpr (.inr ⟨⟨held, newest.offered, differ, keeps, stays⟩, fun other old replaced => ?_⟩), ?_⟩
          · rcases newest.above other old with rfl | older
            · exact stays replaced
            · exact stays (IsTrans.trans _ _ _ replaced older)
          · intro other member
            rcases List.mem_pair.mp member with rfl | rfl
            · exact List.mem_append_left _ newest.offered
            · exact List.mem_append_right _ (List.mem_singleton_self _)
  | clash kept =>
    obtain ⟨evident, offered⟩ := standing
    have longer : Evident newer (items ++ [item]) := evident_concat.mpr (.inl evident)
    simp only [Slot.offer]
    split
    · exact ⟨longer, fun other member => List.mem_append_left _ (offered other member)⟩
    · refine ⟨longer, fun other member => ?_⟩
      rcases List.mem_append.mp member with old | new
      · exact List.mem_append_left _ (offered other old)
      · exact List.mem_append_right _ new

omit [DecidableEq α] [DecidableRel newer] in
/-- Items of which any two can be compared hide no clash. -/
theorem not_evident_of_comparable (comparable : ∀ first ∈ items, ∀ second ∈ items, ¬ Clashing newer first second) :
    ¬ Evident newer items := by
  rintro ⟨before, item, after, rfl, ⟨other, member, clashing⟩, _⟩
  exact comparable other (List.mem_append_left _ member) item (by simp) clashing

omit [DecidableEq α] [DecidableRel newer] in
/-- Items that differ in what a replacement keeps clash in every order. -/
theorem Standing.clash_of_ne {β : Type} (fixed : α → β) (kept : ∀ {first second}, newer first second → fixed first = fixed second)
    (standing : Standing newer items slot) {first second : α} (one : first ∈ items) (two : second ∈ items)
    (differ : fixed first ≠ fixed second) : ∃ kept, slot = .clash kept := by
  cases slot with
  | clash kept => exact ⟨kept, rfl⟩
  | current held =>
    have same : ∀ item ∈ items, fixed item = fixed held := fun item member => by
      rcases standing.1.above item member with rfl | older
      · rfl
      · exact kept older
    exact absurd ((same first one).trans (same second two).symm) differ

end Slot

end Gawd.Logic
