import Mathlib

/-!
Finite maps kept as lists of entries in strictly increasing key order.
-/

namespace Gawd.Logic

/-- A finite map whose entries are listed in strictly increasing key order. -/
structure SortedMap (κ υ : Type) [LinearOrder κ] where
  entries : List (κ × υ)
  sorted : entries.Pairwise fun left right => left.1 < right.1

namespace SortedMap

variable {κ υ : Type} [LinearOrder κ]

def find (key : κ) : List (κ × υ) → Option υ
  | [] => none
  | (other, value) :: rest => if key = other then some value else find key rest

def insertEntry (key : κ) (value : υ) : List (κ × υ) → List (κ × υ)
  | [] => [(key, value)]
  | (other, old) :: rest =>
    if key < other then (key, value) :: (other, old) :: rest
    else if key = other then (key, value) :: rest
    else (other, old) :: insertEntry key value rest

theorem mem_insertEntry {entry : κ × υ} {entries : List (κ × υ)} (member : entry ∈ insertEntry key value entries) :
    entry.1 = key ∨ entry ∈ entries := by
  induction entries with
  | nil =>
    simp only [insertEntry, List.mem_singleton] at member
    exact .inl (by rw [member])
  | cons head rest ih =>
    unfold insertEntry at member
    split at member
    · rcases List.mem_cons.mp member with rfl | old
      · exact .inl rfl
      · exact .inr old
    · split at member
      · rcases List.mem_cons.mp member with rfl | old
        · exact .inl rfl
        · exact .inr (List.mem_cons_of_mem _ old)
      · rcases List.mem_cons.mp member with rfl | later
        · exact .inr List.mem_cons_self
        · exact (ih later).imp_right (List.mem_cons_of_mem _)

theorem insertEntry_sorted {entries : List (κ × υ)} (key : κ) (value : υ)
    (sorted : entries.Pairwise fun left right => left.1 < right.1) :
    (insertEntry key value entries).Pairwise fun left right => left.1 < right.1 := by
  induction sorted with
  | nil => simp [insertEntry]
  | @cons head rest below sorted ih =>
    unfold insertEntry
    split
    · rename_i less
      refine .cons ?_ (.cons below sorted)
      intro entry member
      rcases List.mem_cons.mp member with rfl | later
      · exact less
      · exact less.trans (below entry later)
    · split
      · rename_i same
        exact .cons (fun entry member => same ▸ below entry member) sorted
      · rename_i notLess differ
        refine .cons ?_ ih
        intro entry member
        rcases mem_insertEntry member with same | later
        · rw [same]
          exact lt_of_le_of_ne (not_lt.mp notLess) (Ne.symm differ)
        · exact below entry later

variable (entries : List (κ × υ))

theorem find_insertEntry (key other : κ) (value : υ) :
    find other (insertEntry key value entries) = if other = key then some value else find other entries := by
  induction entries with
  | nil => simp [insertEntry, find]
  | cons head rest ih =>
    unfold insertEntry
    split
    · simp [find]
    · split
      · rename_i same
        subst same
        by_cases hit : other = head.1 <;> simp [find, hit]
      · rename_i differ
        by_cases hit : other = head.1
        · subst hit
          simp [find, Ne.symm differ]
        · simp [find, hit, ih]

theorem insertEntry_of_lt {entries : List (κ × υ)} {key : κ} {value : υ} (above : ∀ entry ∈ entries, entry.1 < key) :
    insertEntry key value entries = entries ++ [(key, value)] := by
  induction entries with
  | nil => rfl
  | cons head rest ih =>
    obtain ⟨first, later⟩ := List.forall_mem_cons.mp above
    rw [insertEntry, if_neg first.not_gt, if_neg first.ne', ih later, List.cons_append]

/-- Entries with different keys, sorted and inserted one after the other. -/
theorem foldl_insertEntry {ν : Type} {values : List (κ × υ)} (change : υ → ν) (distinct : (values.map Prod.fst).Nodup) :
    ∃ entries, (values.mergeSort fun one other => one.1 ≤ other.1).foldl
        (fun map entry => insertEntry entry.1 (change entry.2) map) [] = entries ∧
      entries.Pairwise (fun one other => one.1 < other.1) ∧ entries.Perm (values.map (Prod.map id change)) := by
  have perm := values.mergeSort_perm fun one other => one.1 ≤ other.1
  have ordered : (values.mergeSort fun one other => one.1 ≤ other.1).Pairwise fun one other => one.1 ≤ other.1 := by
    refine (List.pairwise_mergeSort (fun one other third => ?_) (fun one other => ?_) values).imp of_decide_eq_true
    · simpa using le_trans
    · simpa using le_total one.1 other.1
  have apart := List.pairwise_map.mp ((perm.map Prod.fst).nodup_iff.mpr distinct)
  have sorted := (ordered.and apart).imp fun both => lt_of_le_of_ne both.1 both.2
  have inserts : ∀ {front entries : List (κ × υ)}, (front ++ entries).Pairwise (fun one other => one.1 < other.1) →
      entries.foldl (fun map entry => insertEntry entry.1 (change entry.2) map) (front.map (Prod.map id change)) =
        (front ++ entries).map (Prod.map id change) := by
    intro front entries sorted
    induction entries generalizing front with
    | nil => simp
    | cons entry rest ih =>
      have above := (List.pairwise_append.mp sorted).2.2
      rw [List.append_cons] at sorted ⊢
      rw [List.foldl_cons, insertEntry_of_lt, ← ih sorted, List.map_append]
      · rfl
      · rintro _ member
        obtain ⟨earlier, among, rfl⟩ := List.mem_map.mp member
        exact above earlier among entry List.mem_cons_self
  exact ⟨_, @inserts [] _ sorted, List.pairwise_map.mpr sorted, perm.map _⟩

def get? (map : SortedMap κ υ) (key : κ) : Option υ :=
  find key map.entries

def contains (map : SortedMap κ υ) (key : κ) : Bool :=
  (map.get? key).isSome

def insert (map : SortedMap κ υ) (key : κ) (value : υ) : SortedMap κ υ :=
  ⟨insertEntry key value map.entries, insertEntry_sorted key value map.sorted⟩

def erase (map : SortedMap κ υ) (key : κ) : SortedMap κ υ :=
  ⟨map.entries.filter fun entry => entry.1 ≠ key, map.sorted.filter _⟩

/-- Change every value. -/
def map {ν : Type} (change : υ → ν) (map : SortedMap κ υ) : SortedMap κ ν :=
  ⟨map.entries.map fun entry => (entry.1, change entry.2), List.pairwise_map.mpr map.sorted⟩

def size (map : SortedMap κ υ) : Nat :=
  map.entries.length

def values (map : SortedMap κ υ) : List υ :=
  map.entries.map Prod.snd

instance : EmptyCollection (SortedMap κ υ) := ⟨⟨[], .nil⟩⟩

@[simp] theorem get?_empty (key : κ) : (∅ : SortedMap κ υ).get? key = none :=
  rfl

theorem get?_insert (map : SortedMap κ υ) (key other : κ) (value : υ) :
    (map.insert key value).get? other = if other = key then some value else map.get? other :=
  find_insertEntry map.entries key other value

@[simp] theorem get?_insert_self (map : SortedMap κ υ) (key : κ) (value : υ) :
    (map.insert key value).get? key = some value := by
  simp [get?_insert]

theorem get?_insert_of_ne (map : SortedMap κ υ) (value : υ) (differ : other ≠ key) :
    (map.insert key value).get? other = map.get? other := by
  simp [get?_insert, differ]

theorem insertEntry_insertEntry (key : κ) (old value : υ) :
    insertEntry key value (insertEntry key old entries) = insertEntry key value entries := by
  induction entries with
  | nil => simp [insertEntry]
  | cons head rest ih =>
    by_cases less : key < head.1
    · simp [insertEntry, less]
    · by_cases same : key = head.1
      · simp [insertEntry, same]
      · simp [insertEntry, less, same, ih]

@[simp] theorem insert_insert (map : SortedMap κ υ) (key : κ) (old value : υ) :
    (map.insert key old).insert key value = map.insert key value := by
  simp [insert, insertEntry_insertEntry]

theorem find_filter (key other : κ) :
    find other (entries.filter fun entry => entry.1 ≠ key) = if other = key then none else find other entries := by
  induction entries with
  | nil => simp [find]
  | cons head rest ih =>
    by_cases same : head.1 = key
    · by_cases hit : other = key
      · simpa [find, same, hit] using ih
      · simpa [find, same, hit] using ih
    · by_cases hit : other = head.1
      · subst hit
        simp [find, same]
      · simpa [find, same, hit] using ih

theorem get?_erase (map : SortedMap κ υ) (key other : κ) :
    (map.erase key).get? other = if other = key then none else map.get? other :=
  find_filter map.entries key other

theorem find_map {ν : Type} (change : υ → ν) (entries : List (κ × υ)) (key : κ) :
    find key (entries.map fun entry => (entry.1, change entry.2)) = (find key entries).map change := by
  induction entries with
  | nil => rfl
  | cons head rest ih =>
    by_cases hit : key = head.1
    · simp [find, hit]
    · simp [find, hit, ih]

@[simp] theorem get?_map {ν : Type} (change : υ → ν) (map : SortedMap κ υ) (key : κ) :
    (map.map change).get? key = (map.get? key).map change :=
  find_map change map.entries key

theorem mem_entries_iff (map : SortedMap κ υ) : (key, value) ∈ map.entries ↔ map.get? key = some value := by
  obtain ⟨entries, sorted⟩ := map
  simp only [get?]
  induction sorted with
  | nil => simp [find]
  | @cons head rest below sorted ih =>
    by_cases hit : key = head.1
    · subst hit
      have absent : (head.1, value) ∉ rest := fun member => (below _ member).ne rfl
      simp only [find, if_true, Option.some.injEq, List.mem_cons, absent, or_false]
      exact ⟨fun same => congrArg Prod.snd same.symm, fun same => same ▸ rfl⟩
    · have differ : (key, value) ≠ head := fun same => hit (congrArg Prod.fst same)
      simp [find, hit, differ, ih]

/-- The last entry has the greatest key. -/
theorem le_of_getLast? {map : SortedMap κ υ} {last : κ × υ} (ends : map.entries.getLast? = some last)
    (held : map.get? key = some value) : key ≤ last.1 := by
  obtain ⟨earlier, split⟩ := List.getLast?_eq_some_iff.mp ends
  have member := map.mem_entries_iff.mpr held
  have sorted := map.sorted
  rw [split] at member sorted
  rcases List.mem_append.mp member with before | here
  · exact ((List.pairwise_append.mp sorted).2.2 _ before _ List.mem_cons_self).le
  · exact (congrArg Prod.fst (List.mem_singleton.mp here)).le

theorem mem_values_iff (map : SortedMap κ υ) : value ∈ map.values ↔ ∃ key, map.get? key = some value := by
  simp [values, ← mem_entries_iff]

/-- Values are related pairwise when those under different keys are. -/
theorem pairwise_values {map : SortedMap κ υ} {related : υ → υ → Prop}
    (apart : ∀ key other value value', map.get? key = some value → map.get? other = some value' → key ≠ other →
      related value value') : map.values.Pairwise related := by
  refine List.pairwise_map.mpr (map.sorted.imp_of_mem ?_)
  intro one other first second below
  exact apart _ _ _ _ (map.mem_entries_iff.mp first) (map.mem_entries_iff.mp second) below.ne

/-- The number of entries whose value passes the test. -/
def count (map : SortedMap κ υ) (test : υ → Bool) : Nat :=
  map.values.countP test

theorem count_pos {map : SortedMap κ υ} {test : υ → Bool} (held : map.get? key = some value)
    (passes : test value = true) : 0 < map.count test :=
  List.countP_pos_iff.mpr ⟨value, map.mem_values_iff.mpr ⟨key, held⟩, passes⟩

theorem find_eq_none {entries : List (κ × υ)} (absent : ∀ entry ∈ entries, entry.1 ≠ key) : find key entries = none := by
  induction entries with
  | nil => rfl
  | cons head rest ih =>
    have other : key ≠ head.1 := (absent head List.mem_cons_self).symm
    simp [find, other, ih fun entry member => absent entry (List.mem_cons_of_mem _ member)]

/-- An entry is inserted in the place of the one under its key. -/
theorem insertEntry_split {entries : List (κ × υ)} (key : κ) (value : υ)
    (sorted : entries.Pairwise fun left right => left.1 < right.1) :
    ∃ left right, entries = left ++ (find key entries).toList.map (Prod.mk key) ++ right ∧
      insertEntry key value entries = left ++ (key, value) :: right := by
  induction sorted with
  | nil => exact ⟨[], [], rfl, rfl⟩
  | @cons head rest below sorted ih =>
    unfold insertEntry
    split
    · rename_i less
      have absent : find key (head :: rest) = none := by
        refine find_eq_none fun entry member => ?_
        rcases List.mem_cons.mp member with rfl | later
        · exact less.ne'
        · exact (less.trans (below entry later)).ne'
      exact ⟨[], head :: rest, by simp [absent], rfl⟩
    · split
      · rename_i same
        subst same
        exact ⟨[], rest, by simp [find], rfl⟩
      · rename_i differ
        obtain ⟨left, right, before, after⟩ := ih
        refine ⟨head :: left, right, ?_, by rw [after]; rfl⟩
        simp only [find, differ, if_false, List.cons_append]
        rw [← before]

section

variable (map : SortedMap κ υ)

include map

/-- Inserting an entry takes away what was counted under its key and adds what the new value counts. -/
theorem count_insert (test : υ → Bool) (key : κ) (value : υ) :
    (map.insert key value).count test + ((map.get? key).any test).toNat = map.count test + (test value).toNat := by
  obtain ⟨left, right, before, after⟩ := insertEntry_split key value map.sorted
  simp only [count, values, insert, get?, after]
  generalize find key map.entries = found at before ⊢
  rw [before]
  cases found with
  | none => cases passes : test value <;> simp [passes]; omega
  | some old => cases passes : test value <;> cases passed : test old <;> simp [passes, passed] <;> omega

theorem size_eq_count : map.size = map.count fun _ => true := by
  simp [size, count, values]

theorem size_insert (key : κ) (value : υ) :
    (map.insert key value).size + (map.get? key).isSome.toNat = map.size + 1 := by
  have counted := map.count_insert (fun _ => true) key value
  rw [← size_eq_count, ← size_eq_count] at counted
  cases found : map.get? key <;> simpa [found] using counted

theorem size_erase_le (key : κ) : (map.erase key).size ≤ map.size :=
  List.length_filter_le _ _

/-- Inserting an entry takes away the weight under its key and adds that of the new value. -/
theorem sum_insert (weight : υ → Nat) (key : κ) (value : υ) :
    ((map.insert key value).values.map weight).sum + (map.get? key).elim 0 weight =
      (map.values.map weight).sum + weight value := by
  obtain ⟨left, right, before, after⟩ := insertEntry_split key value map.sorted
  simp only [values, insert, get?, after]
  generalize find key map.entries = found at before ⊢
  rw [before]
  cases found <;> simp <;> omega

end

/-- A list read off the entries does not change when the entry that is set contributes what its key did. -/
theorem flatMap_insert {β : Type} {map : SortedMap κ υ} {part : κ × υ → List β}
    (same : part (key, value) = (map.get? key).elim [] fun old => part (key, old)) :
    (map.insert key value).entries.flatMap part = map.entries.flatMap part := by
  obtain ⟨left, right, before, after⟩ := insertEntry_split key value map.sorted
  simp only [insert, get?, after] at same ⊢
  generalize find key map.entries = found at before same
  rw [before]
  cases found <;> simpa using same

section Retains

variable {key : κ} {value old : υ} {map before after : SortedMap κ υ} {agrees : υ → υ → Prop} {fact : Option (κ × υ)}

/-- A map that takes one more fact. A key keeps the value it had, and the new one agrees with it. -/
structure Retains (agrees : υ → υ → Prop) (fact : Option (κ × υ)) (before after : SortedMap κ υ) : Prop where
  lookup : ∀ key, after.get? key = (before.get? key).or (fact.bind fun fact => if fact.1 = key then some fact.2 else none)
  agreed : ∀ key value, fact = some (key, value) → ∀ old, before.get? key = some old → agrees old value

namespace Retains

theorem idle : Retains agrees none map map :=
  ⟨fun _ => by simp, nofun⟩

theorem present (found : map.get? key = some old) (agree : agrees old value) :
    Retains agrees (some (key, value)) map map := by
  refine ⟨fun other => ?_, ?_⟩
  · by_cases hit : key = other
    · simp [← hit, found]
    · simp [hit]
  · rintro _ _ ⟨⟩ same held
    rw [found] at held
    obtain ⟨⟩ := held
    exact agree

theorem fresh (absent : map.get? key = none) : Retains agrees (some (key, value)) map (map.insert key value) := by
  refine ⟨fun other => ?_, ?_⟩
  · by_cases hit : key = other
    · simp [← hit, absent]
    · simp [hit, get?_insert_of_ne map value (Ne.symm hit)]
  · rintro _ _ ⟨⟩ same held
    rw [absent] at held
    cases held

theorem kept (retains : Retains agrees fact before after) (held : before.get? key = some value) :
    after.get? key = some value := by
  rw [retains.lookup, held, Option.some_or]

theorem holds (retains : Retains agrees (some (key, value)) before after) :
    ∃ old, after.get? key = some old ∧ (old = value ∨ agrees old value) := by
  cases held : before.get? key with
  | some old => exact ⟨old, retains.kept held, .inr (retains.agreed key value rfl old held)⟩
  | none => exact ⟨value, by simp [retains.lookup, held], .inl rfl⟩

end Retains

end Retains

end SortedMap

end Gawd.Logic
