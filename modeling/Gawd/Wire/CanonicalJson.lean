import Gawd.Logic.SortedMap
import Gawd.Wire.Contract

/-!
Canonical JSON. Its bytes tell JSON values apart up to the order of the members of objects.
-/

namespace Gawd.Wire.Json

open Gawd.Logic

/-- A JSON value with no others inside. -/
inductive Scalar (Number : Type) where
  | null
  | bool (value : Bool)
  | number (value : Number)
  | string (value : String)

/-- A JSON value, the members of an object in any order. -/
inductive Value (Number : Type) where
  | scalar (value : Scalar Number)
  | array (values : List (Value Number))
  | object (values : List (String × Value Number))

variable {Number α : Type}

theorem sizeOf_lt_of_mem {values : List (String × Value Number)} (member : entry ∈ values) :
    sizeOf entry.2 < 1 + sizeOf values := by
  have smaller := List.sizeOf_lt_of_mem member
  cases entry
  simp only [Prod.mk.sizeOf_spec] at smaller ⊢
  omega

def sortJson : Value Number → Value Number
  | .array values => .array (values.map sortJson)
  | .object values =>
    let entries := values.mergeSort fun one other => one.1 ≤ other.1
    .object (entries.attach.foldl (fun sorted entry => SortedMap.insertEntry entry.1.1 (sortJson entry.1.2) sorted) [])
  | other => other
decreasing_by
  · decreasing_tactic
  · simpa using sizeOf_lt_of_mem (List.mem_mergeSort.mp entry.2)

/-- What may follow a value in a text: nothing, a comma, a colon or a closing bracket. -/
def Ends (rest : List UInt8) : Prop :=
  ∀ byte ∈ rest.head?, byte ∈ [0x2c, 0x3a, 0x5d, 0x7d]

/-- The item can be told from what is written of it, and so can the rest. -/
def Legible (write : α → List UInt8) (item : α) : Prop :=
  ∀ other rest rest', Ends rest → Ends rest' → write item ++ rest = write other ++ rest' → item = other ∧ rest = rest'

/-- How scalars are rendered: legibly, and none begins with a bracket. -/
structure Rendering (Number : Type) where
  text : Scalar Number → List UInt8
  legible : ∀ scalar, Legible text scalar
  opens : ∀ scalar, ∃ byte ∈ (text scalar).head?, byte ∉ [0x5b, 0x5d, 0x7b, 0x7d]

/-- Texts with a comma before each but the first. -/
def elements (first : Bool) : List (List UInt8) → List UInt8
  | [] => []
  | text :: rest => (if first then text else 0x2c :: text) ++ elements false rest

def Rendering.toVec (rendering : Rendering Number) : Value Number → List UInt8
  | .scalar value => rendering.text value
  | .array values => 0x5b :: elements true (values.map rendering.toVec) ++ [0x5d]
  | .object values => 0x7b :: elements true (values.map fun entry =>
      rendering.text (.string entry.1) ++ 0x3a :: rendering.toVec entry.2) ++ [0x7d]
decreasing_by
  · decreasing_tactic
  · simpa using sizeOf_lt_of_mem ‹_›

/-- The keys of every object differ. -/
inductive Distinct : Value Number → Prop where
  | scalar : Distinct (.scalar value)
  | array : (∀ value ∈ values, Distinct value) → Distinct (.array values)
  | object : (values.map Prod.fst).Nodup → (∀ entry ∈ values, Distinct entry.2) → Distinct (.object values)

mutual

/-- Equality up to the order of members at every depth. -/
inductive Alike : Value Number → Value Number → Prop where
  | scalar : Alike (.scalar value) (.scalar value)
  | array : List.Forall₂ Alike values others → Alike (.array values) (.array others)
  | object : List.Forall₂ AlikeEntry values middle → middle.Perm others → Alike (.object values) (.object others)

inductive AlikeEntry : String × Value Number → String × Value Number → Prop where
  | entry : Alike one other → AlikeEntry (key, one) (key, other)

end

theorem map_eq_map_iff {β : Type} {change : α → β} {relation : α → α → Prop} {items others : List α}
    (each : ∀ item ∈ items, ∀ other ∈ others, (change item = change other ↔ relation item other)) :
    items.map change = others.map change ↔ List.Forall₂ relation items others := by
  induction items generalizing others with
  | nil => cases others <;> simp
  | cons item items ih =>
    cases others with
    | nil => simp
    | cons other others =>
      simp only [List.forall_mem_cons, List.map_cons, List.cons.injEq, List.forall₂_cons] at each ⊢
      rw [each.1.1, ih fun item member => (each.2 item member).2]

section

variable {values others : List (String × Value Number)} {value other : Value Number}

theorem sortJson_object (distinct : (values.map Prod.fst).Nodup) : ∃ entries, sortJson (.object values) = .object entries ∧
    entries.Pairwise (fun one other => one.1 < other.1) ∧ entries.Perm (values.map (Prod.map id sortJson)) := by
  obtain ⟨entries, collected, spec⟩ := SortedMap.foldl_insertEntry sortJson distinct
  refine ⟨entries, ?_, spec⟩
  rw [sortJson, ← collected]
  exact congrArg Value.object (@List.foldl_attach _ _ _
    (fun sorted (entry : String × Value Number) => SortedMap.insertEntry entry.1 (sortJson entry.2) sorted) _)

/-- Sorted objects are equal when their sorted members are, in any order. -/
theorem sortJson_object_iff (distinct : (values.map Prod.fst).Nodup) (also : (others.map Prod.fst).Nodup) :
    sortJson (.object values) = sortJson (.object others) ↔
      (values.map (Prod.map id sortJson)).Perm (others.map (Prod.map id sortJson)) := by
  obtain ⟨entries, first, sorted, perm⟩ := sortJson_object distinct
  obtain ⟨entries', second, sorted', perm'⟩ := sortJson_object also
  rw [first, second, Value.object.injEq]
  refine ⟨fun same => perm.symm.trans (same ▸ perm'), fun same => ?_⟩
  refine List.Perm.eq_of_pairwise (fun _ _ _ _ less more => absurd less more.not_gt) sorted sorted' ?_
  exact perm.trans (same.trans perm'.symm)

/-- Two values are sorted to the same value exactly when they are equal up to the order of members. -/
theorem sortJson_eq_iff (distinct : Distinct value) (also : Distinct other) :
    sortJson value = sortJson other ↔ Alike value other := by
  induction value using Rendering.toVec.induct generalizing other with
  | case1 value =>
    cases also with
    | scalar =>
      simp only [sortJson, Value.scalar.injEq]
      exact ⟨fun same => same ▸ .scalar, fun | .scalar => rfl⟩
    | _ => exact iff_of_false (by simp [sortJson]) nofun
  | case2 values ih =>
    cases distinct with | array inside => ?_
    cases also with
    | array also =>
      have each := map_eq_map_iff fun value member other among => ih value member (inside value member) (also other among)
      simp only [sortJson, Value.array.injEq, each]
      exact ⟨.array, fun | .array same => same⟩
    | _ => exact iff_of_false (by simp [sortJson]) nofun
  | case3 values ih =>
    cases distinct with | object apart inside => ?_
    cases also with
    | @object others apart' also =>
      have each {middle : List (String × Value Number)} (reordered : middle.Perm others) :=
        @map_eq_map_iff _ _ (Prod.map id sortJson) AlikeEntry values middle fun entry member other among => by
          have inner := ih entry member (inside entry member) (also other (reordered.mem_iff.mp among))
          obtain ⟨key, value⟩ := entry
          obtain ⟨key', value'⟩ := other
          refine Prod.ext_iff.trans ⟨fun same => ?_, fun | .entry alike => ⟨rfl, inner.mpr alike⟩⟩
          obtain rfl : key = key' := same.1
          exact .entry (inner.mp same.2)
      rw [sortJson_object_iff apart apart', ← congrFun₂ (List.eq_map_comp_perm _) _ _]
      constructor
      · rintro ⟨middle, same, reordered⟩
        exact .object ((each reordered).mp same) reordered
      · rintro (_ | _ | ⟨inner, reordered⟩)
        exact ⟨_, (each reordered).mpr inner, reordered⟩
    | _ => exact iff_of_false (by simp [sortJson]) nofun

/-- What is sorted stays as it is. -/
theorem sortJson_sortJson (distinct : Distinct value) :
    Distinct (sortJson value) ∧ sortJson (sortJson value) = sortJson value := by
  induction value using Rendering.toVec.induct with
  | case1 value => simpa [sortJson] using distinct
  | case2 values ih =>
    cases distinct with | array inside => ?_
    simp only [sortJson, List.map_map, Value.array.injEq]
    refine ⟨.array ?_, List.map_congr_left fun value member => (ih value member (inside value member)).2⟩
    simpa using fun value member => (ih value member (inside value member)).1
  | case3 values ih =>
    cases distinct with | object apart inside => ?_
    obtain ⟨entries, first, sorted, perm⟩ := sortJson_object apart
    have keys : (entries.map Prod.fst).Nodup := List.pairwise_map.mpr (sorted.imp fun less => less.ne)
    have each := fun entry member => ih entry member (inside entry member)
    constructor
    · rw [first]
      refine .object keys fun entry member => ?_
      obtain ⟨held, among, rfl⟩ := List.mem_map.mp (perm.mem_iff.mp member)
      exact (each held among).1
    · nth_rewrite 1 [first]
      rw [sortJson_object_iff keys apart]
      refine (perm.map _).trans (.of_eq ?_)
      rw [List.map_map]
      exact List.map_congr_left fun entry member => Prod.ext rfl (each entry member).2

end

theorem append_ne_cons {text rest rest' bytes : List UInt8} (opens : ∃ byte ∈ text.head?, byte ∉ bytes)
    (among : close ∈ bytes) : text ++ rest ≠ close :: rest' := by
  obtain ⟨byte, begins, apart⟩ := opens
  obtain ⟨more, rfl⟩ := List.head?_eq_some_iff.mp begins
  rintro ⟨⟩
  exact apart among

theorem elements_legible {write : α → List UInt8} {items others : List α} (closing : close ∈ [0x5d, 0x7d])
    (opens : ∀ item, ∃ byte ∈ (write item).head?, byte ∉ [0x5d, 0x7d]) (each : ∀ item ∈ items, Legible write item)
    (same : elements first (items.map write) ++ close :: rest = elements first (others.map write) ++ close :: rest') :
    items = others ∧ rest = rest' := by
  have ends (items : List α) rest : Ends (elements false (items.map write) ++ close :: rest) := by
    cases items with
    | nil =>
      rintro _ ⟨⟩
      exact List.mem_cons_of_mem _ (List.mem_cons_of_mem _ closing)
    | cons => simp [Ends, elements]
  -- no item begins as the end does
  have begins {first : Bool} {item : α} {items : List α} {rest rest' : List UInt8} :
      elements first ((item :: items).map write) ++ rest ≠ close :: rest' := by
    cases first with
    | false =>
      rintro ⟨⟩
      simp at closing
    | true =>
      rw [List.map_cons, elements, if_pos rfl, List.append_assoc]
      exact append_ne_cons (opens item) closing
  induction items generalizing others first with
  | nil =>
    cases others with
    | nil => simpa [elements] using same
    | cons other others => exact absurd same.symm begins
  | cons item items ih =>
    cases others with
    | nil => exact absurd same begins
    | cons other others =>
      obtain ⟨legible, each⟩ := List.forall_mem_cons.mp each
      obtain ⟨rfl, later⟩ : item = other ∧ _ = _ := by
        refine legible other _ _ (ends items rest) (ends others rest') ?_
        cases first <;> simpa [elements] using same
      simpa using ih each later

namespace Rendering

variable {rendering : Rendering Number}

/-- Whatever is written is legible. -/
theorem toVec_legible (value : Value Number) : Legible rendering.toVec value := by
  have opens (value : Value Number) : ∃ byte ∈ (rendering.toVec value).head?, byte ∉ [0x5d, 0x7d] := by
    cases value with
    | scalar value =>
      obtain ⟨byte, begins, apart⟩ := rendering.opens value
      exact ⟨byte, by rwa [toVec], by simp_all⟩
    | array values | object values => exact ⟨_, by rw [toVec]; rfl, by decide⟩
  induction value using toVec.induct with
  | case1 value =>
    rintro (other | _ | _) rest rest' ends ends' same <;> rw [toVec, toVec] at same
    · simpa using rendering.legible value other rest rest' ends ends' same
    · exact absurd same (append_ne_cons (rendering.opens value) (by simp))
    · exact absurd same (append_ne_cons (rendering.opens value) (by simp))
  | case2 values ih =>
    rintro (_ | others | _) rest rest' _ _ same <;> simp only [toVec, List.cons_append, List.append_assoc] at same
    · exact absurd same.symm (append_ne_cons (rendering.opens _) (by simp))
    · simpa using elements_legible (by simp) opens ih (List.cons.inj same).2
    · simp at same
  | case3 values ih =>
    rintro (_ | _ | others) rest rest' _ _ same <;> simp only [toVec, List.cons_append, List.append_assoc] at same
    · exact absurd same.symm (append_ne_cons (rendering.opens _) (by simp))
    · simp at same
    · simp only [Value.object.injEq]
      refine elements_legible (by simp) (fun entry => ?_) (fun entry member other rest rest' ends ends' same => ?_)
        (List.cons.inj same).2
      · obtain ⟨byte, begins, apart⟩ := rendering.opens (.string entry.1)
        exact ⟨byte, by simp_all, by simp_all⟩
      · rw [List.append_assoc, List.append_assoc] at same
        obtain ⟨key, same⟩ := rendering.legible _ _ _ _ (by simp [Ends]) (by simp [Ends]) same
        obtain ⟨value, same⟩ := ih entry member other.2 rest rest' ends ends' (List.cons.inj same).2
        exact ⟨Prod.ext (Scalar.string.inj key) value, same⟩

theorem toVec_injective : Function.Injective rendering.toVec := by
  intro one other same
  have legible : Legible rendering.toVec one := toVec_legible one
  exact (legible other [] [] nofun nofun (by rw [same])).1

def canonicalJsonBytes (rendering : Rendering Number) (toValue : α → Except String (Value Number)) (value : α) :
    Except ContractError (List UInt8) := do
  let value ← mapError (fun error => .encoding s!"cannot encode canonical JSON: {error}") (toValue value)
  return rendering.toVec (sortJson value)

/-- Canonical bytes are equal exactly for values that are equal up to the order of members, canonicalizing them again
changes nothing, and the bytes of an array are those of its elements in their order. -/
theorem canonicalJsonBytes_canonical (parse : List UInt8 → Option (Value Number))
    (parses : ∀ value, Distinct value → parse (rendering.toVec value) = some value) :
    (∀ one other : Value Number, Distinct one → Distinct other →
      (rendering.canonicalJsonBytes .ok one = rendering.canonicalJsonBytes .ok other ↔ Alike one other)) ∧
    (∀ value : Value Number, Distinct value → ∃ bytes parsed, rendering.canonicalJsonBytes .ok value = .ok bytes ∧
      parse bytes = some parsed ∧ rendering.canonicalJsonBytes .ok parsed = .ok bytes) ∧
    ∀ values : List (Value Number), ∃ texts,
      values.map (rendering.canonicalJsonBytes .ok) = texts.map .ok ∧
      rendering.canonicalJsonBytes .ok (.array values) = .ok (0x5b :: elements true texts ++ [0x5d]) := by
  have runs (value : Value Number) : rendering.canonicalJsonBytes .ok value = .ok (rendering.toVec (sortJson value)) := rfl
  simp only [runs, Except.ok.injEq, toVec_injective.eq_iff]
  refine ⟨fun one other => sortJson_eq_iff, fun value distinct => ?_, fun values => ?_⟩
  · obtain ⟨still, same⟩ := sortJson_sortJson distinct
    exact ⟨_, _, rfl, parses _ still, congrArg rendering.toVec same⟩
  · refine ⟨values.map fun value => rendering.toVec (sortJson value), ?_, ?_⟩
    · simp [Function.comp_def, runs]
    · simp [sortJson, toVec, Function.comp_def]

namespace Sample

/-- A number for every scalar. -/
def code : Scalar Unit → Nat
  | .null => 0
  | .bool false => 1
  | .bool true => 2
  | .number _ => 3
  | .string value => Encodable.encode (value.toList.map Char.toNat) + 4

theorem code_injective : Function.Injective code := by
  rintro (_ | (_ | _) | _ | one) (_ | (_ | _) | _ | other) same <;> simp [code] at same ⊢
  exact String.toList_injective (List.map_injective_iff.mpr (fun _ _ => Char.toNat_inj.mp) same)

/-- The numbers of scalars in unary. -/
def unary : Rendering Unit where
  text scalar := List.replicate (code scalar + 1) 0x31
  opens scalar := ⟨0x31, rfl, by decide⟩
  legible one other rest rest' ends ends' same := by
    have measure {rest : List UInt8} (ends : Ends rest) (count : Nat) :
        ((List.replicate count 0x31 ++ rest).takeWhile (· = 0x31)).length = count := by
      cases rest with
      | nil => simp
      | cons byte =>
        have apart : byte ≠ 0x31 := by
          rintro rfl
          exact absurd (ends _ rfl) (by decide)
        simp [List.takeWhile_append_of_pos, apart]
    have counts := congrArg (fun text => (text.takeWhile (· = 0x31)).length) same
    dsimp only at counts
    rw [measure ends, measure ends'] at counts
    obtain rfl := code_injective (Nat.succ.inj counts)
    exact ⟨rfl, List.append_cancel_left same⟩

end Sample

open Sample in
/-- Two objects with their members swapped. -/
theorem canonicalJsonBytes_canonical_swapped :
    unary.canonicalJsonBytes .ok (.object [("b", .scalar .null), ("a", .array [])]) =
      unary.canonicalJsonBytes .ok (.object [("a", .array []), ("b", .scalar .null)]) := by
  have parses (value : Value Unit) (_ : Distinct value) : Function.partialInv unary.toVec (unary.toVec value) = some value :=
    Function.partialInv_left toVec_injective value
  refine ((canonicalJsonBytes_canonical _ parses).1 _ _ ?_ ?_).mpr ?_
  · exact .object (by decide) (by simpa using ⟨.scalar, .array (by simp)⟩)
  · exact .object (by decide) (by simpa using ⟨.array (by simp), .scalar⟩)
  · exact .object (.cons (.entry .scalar) (.cons (.entry (.array .nil)) .nil)) (.swap _ _ _)

end Rendering

end Gawd.Wire.Json
