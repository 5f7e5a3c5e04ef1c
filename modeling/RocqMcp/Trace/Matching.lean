import RocqMcp.Types
import Mathlib.Algebra.Order.BigOperators.Group.List
import Mathlib.Algebra.Order.Group.Nat
import Mathlib.Data.List.Forall2
import Mathlib.Data.List.Nodup
import Mathlib.Data.List.Perm.Subperm

/-! The comparison of a tool's output with the value that a trace expects. A marker
stands for every output of its kind. -/

namespace RocqMcp

/-- How decimals compare. Two texts may have one value, and each has a value: no
decimal in JSON is a NaN. -/
structure Decimals where
  equal : String → String → Bool
  refl (text : String) : equal text text = true

/-- Decimals compared as they are written. -/
def Decimals.written : Decimals where
  equal text other := text = other
  refl _ := decide_eq_true rfl

namespace Value

def isScalar : Value → Bool
  | .array _ | .object _ => false
  | _ => true

/-- Equality of values without parts. -/
def scalarEq (decimals : Decimals) : Value → Value → Bool
  | .null, .null => true
  | .bool value, .bool other => value = other
  | .number value, .number other => value = other
  | .decimal text, .decimal other => decimals.equal text other
  | .string value, .string other => value = other
  | _, _ => false

mutual

/-- Two values are compared part by part, up to the order of object keys. An object
may stand for a test of its own. -/
def compareWith (decimals : Decimals) (test : Value → Option (Value → Bool)) : Value → Value → Bool
  | .object fields, actual =>
    match test (.object fields), actual with
    | some accepts, actual => accepts actual
    | none, .object others =>
      fields.length = others.length && compareFields decimals test fields (.object others)
    | none, _ => false
  | .array items, .array others => compareItems decimals test items others
  | .array _, _ => false
  | expected, actual => expected.scalarEq decimals actual

def compareItems (decimals : Decimals) (test : Value → Option (Value → Bool)) :
    List Value → List Value → Bool
  | [], [] => true
  | item :: items, other :: others =>
    compareWith decimals test item other && compareItems decimals test items others
  | _, _ => false

def compareFields (decimals : Decimals) (test : Value → Option (Value → Bool)) :
    List (String × Value) → Value → Bool
  | [], _ => true
  | (key, value) :: fields, actual =>
    (match actual.get? key with
      | some found => compareWith decimals test value found
      | none => false) && compareFields decimals test fields actual

end

/-- `==` on JSON values. -/
def same (decimals : Decimals) : Value → Value → Bool := compareWith decimals fun _ => none

end Value

inductive TraceMarker where
  | checkpoint
  | goalId
  deriving DecidableEq

def TraceMarker.key : TraceMarker → String
  | checkpoint => "$checkpoint"
  | goalId => "$goal_id"

/-- A positive integer, or an array that is not empty. -/
def TraceMarker.accepts (actual : Value) : TraceMarker → Bool
  | checkpoint => actual.asNat.any (0 < ·)
  | goalId => actual.asArray.any (!·.isEmpty)

/-- An object with a marker as its only field. -/
def Value.marker? : Value → Option TraceMarker
  | .object [(key, .bool true)] =>
    if key = "$checkpoint" then some .checkpoint else if key = "$goal_id" then some .goalId else none
  | _ => none

/-- `output_matches`. -/
def outputMatches (decimals : Decimals) : Value → Value → Bool :=
  Value.compareWith decimals fun expected =>
    expected.marker?.map fun marker actual => marker.accepts actual

namespace Value

mutual

/-- A value and the values inside, at any depth. -/
def parts : Value → List Value
  | .object fields => .object fields :: fieldParts fields
  | .array items => .array items :: itemParts items
  | value => [value]

def itemParts : List Value → List Value
  | [] => []
  | item :: items => item.parts ++ itemParts items

def fieldParts : List (String × Value) → List Value
  | [] => []
  | (_, value) :: fields => value.parts ++ fieldParts fields

end

def hasMarker (value : Value) : Bool := value.parts.any fun part => part.marker?.isSome

def keys : Value → List String
  | .object fields => fields.map Prod.fst
  | _ => []

/-- No object has a key twice. -/
def KeysUnique (value : Value) : Prop := ∀ part ∈ value.parts, part.keys.Nodup

mutual

/-- An output that the markers accept, with one number for all of them. -/
def instantiate (number : Nat) : Value → Value
  | .object fields =>
    match marker? (.object fields) with
    | some .checkpoint => .number number
    | some .goalId => .array [.number number]
    | none => .object (instantiateFields number fields)
  | .array items => .array (instantiateItems number items)
  | value => value

def instantiateItems (number : Nat) : List Value → List Value
  | [] => []
  | item :: items => item.instantiate number :: instantiateItems number items

def instantiateFields (number : Nat) : List (String × Value) → List (String × Value)
  | [] => []
  | (key, value) :: fields => (key, value.instantiate number) :: instantiateFields number fields

end

/-! ### Induction on the parts -/

section

variable {decimals : Decimals} {test test' : Value → Option (Value → Bool)}

theorem induction {property : Value → Prop}
    (scalar : ∀ value, value.isScalar = true → property value)
    (array : ∀ items, (∀ item ∈ items, property item) → property (.array items))
    (object : ∀ fields, (∀ field ∈ fields, property field.2) → property (.object fields))
    (value : Value) : property value :=
  @Value.rec property (fun items => ∀ item ∈ items, property item)
    (fun fields => ∀ field ∈ fields, property field.2) (fun field => property field.2)
    (scalar .null rfl) (fun value => scalar (.bool value) rfl)
    (fun value => scalar (.number value) rfl) (fun text => scalar (.decimal text) rfl)
    (fun text => scalar (.string text) rfl) array object (List.forall_mem_nil _)
    (fun _ _ first rest => List.forall_mem_cons.mpr ⟨first, rest⟩) (List.forall_mem_nil _)
    (fun _ _ first rest => List.forall_mem_cons.mpr ⟨first, rest⟩) (fun _ _ second => second) value

theorem compareItems_iff {items others : List Value} :
    compareItems decimals test items others = true ↔
      List.Forall₂ (fun item other => compareWith decimals test item other = true) items others := by
  induction items generalizing others with
  | nil => cases others <;> simp [compareItems]
  | cons item items ih => cases others <;> simp [compareItems, ih]

theorem compareFields_iff {fields : List (String × Value)} {actual : Value} :
    compareFields decimals test fields actual = true ↔ ∀ field ∈ fields, ∃ found,
      actual.get? field.1 = some found ∧ compareWith decimals test field.2 found = true := by
  induction fields with
  | nil => simp [compareFields]
  | cons field fields ih =>
    obtain ⟨key, value⟩ := field
    rw [compareFields, Bool.and_eq_true_iff, ih, List.forall_mem_cons]
    cases actual.get? key <;> simp

theorem compareItems_congr {items others : List Value}
    (inner : ∀ item ∈ items, ∀ other,
      compareWith decimals test item other = compareWith decimals test' item other) :
    compareItems decimals test items others = compareItems decimals test' items others := by
  induction items generalizing others with
  | nil => cases others <;> rfl
  | cons item items ih =>
    cases others with
    | nil => rfl
    | cons other others =>
      rw [compareItems, compareItems, inner item List.mem_cons_self,
        ih fun item member => inner item (List.mem_cons_of_mem _ member)]

theorem compareFields_congr {fields : List (String × Value)} {actual : Value}
    (inner : ∀ field ∈ fields, ∀ other,
      compareWith decimals test field.2 other = compareWith decimals test' field.2 other) :
    compareFields decimals test fields actual = compareFields decimals test' fields actual := by
  induction fields with
  | nil => rfl
  | cons field fields ih =>
    obtain ⟨key, value⟩ := field
    rw [compareFields, compareFields, ih fun field member => inner field (List.mem_cons_of_mem _ member)]
    cases actual.get? key with
    | none => rfl
    | some found => exact congrArg (· && _) (inner (key, value) List.mem_cons_self found)

theorem compareWith_tested {fields : List (String × Value)} {actual : Value} {accepts : Value → Bool}
    (tested : test (.object fields) = some accepts) :
    compareWith decimals test (.object fields) actual = accepts actual := by
  simp [compareWith, tested]

theorem compareWith_object {fields : List (String × Value)} {actual : Value}
    (plain : test (.object fields) = none) :
    compareWith decimals test (.object fields) actual = true ↔
      ∃ others, actual = .object others ∧ fields.length = others.length ∧
        compareFields decimals test fields actual = true := by
  cases actual <;> simp [compareWith, plain]

theorem parts_array (items : List Value) :
    (Value.array items).parts = .array items :: items.flatMap parts := by
  have inner : itemParts items = items.flatMap parts := by
    induction items with
    | nil => rfl
    | cons item items ih => rw [itemParts, ih, List.flatMap_cons]
  rw [parts, inner]

theorem parts_object (fields : List (String × Value)) :
    (Value.object fields).parts = .object fields :: fields.flatMap fun field => field.2.parts := by
  have inner : fieldParts fields = fields.flatMap fun field => field.2.parts := by
    induction fields with
    | nil => rfl
    | cons field fields ih => rw [fieldParts, ih, List.flatMap_cons]
  rw [parts, inner]

theorem parts_scalar {value : Value} (scalar : value.isScalar = true) : value.parts = [value] := by
  cases value <;> first | rfl | cases scalar

theorem mem_parts (value : Value) : value ∈ value.parts := by
  cases value <;> simp [parts]

theorem instantiateItems_eq (number : Nat) (items : List Value) :
    instantiateItems number items = items.map (instantiate number) := by
  induction items with
  | nil => rfl
  | cons item items ih => rw [instantiateItems, ih, List.map_cons]

theorem instantiateFields_eq (number : Nat) (fields : List (String × Value)) :
    instantiateFields number fields =
      fields.map fun field => (field.1, field.2.instantiate number) := by
  induction fields with
  | nil => rfl
  | cons field fields ih => rw [instantiateFields, ih, List.map_cons]

theorem parts_item {items : List Value} {item part : Value} (member : item ∈ items)
    (inside : part ∈ item.parts) : part ∈ (Value.array items).parts := by
  rw [parts_array]
  exact List.mem_cons_of_mem _ (List.mem_flatMap.mpr ⟨item, member, inside⟩)

theorem parts_field {fields : List (String × Value)} {field : String × Value} {part : Value}
    (member : field ∈ fields) (inside : part ∈ field.2.parts) :
    part ∈ (Value.object fields).parts := by
  rw [parts_object]
  exact List.mem_cons_of_mem _ (List.mem_flatMap.mpr ⟨field, member, inside⟩)

/-- Without tests in its parts a value accepts what is equal to it. -/
theorem compareWith_plain {value actual : Value} (plain : ∀ part ∈ value.parts, test part = none) :
    compareWith decimals test value actual = same decimals value actual := by
  induction value using induction generalizing actual with
  | scalar value scalar => cases value <;> first | rfl | cases scalar
  | array items ih =>
    cases actual with
    | array others =>
      exact compareItems_congr fun item member _ =>
        ih item member fun part inside => plain part (parts_item member inside)
    | _ => rfl
  | object fields ih =>
    have below : compareFields decimals test fields actual =
        compareFields decimals (fun _ => none) fields actual :=
      compareFields_congr fun field member _ =>
        ih field member fun part inside => plain part (parts_field member inside)
    rw [Bool.eq_iff_iff, same, compareWith_object (plain _ (mem_parts _)), compareWith_object rfl,
      below]

end

/-! ### Instances of an expected value -/

variable {decimals : Decimals}

theorem KeysUnique.item {items : List Value} {item : Value}
    (unique : (Value.array items).KeysUnique) (member : item ∈ items) : item.KeysUnique :=
  fun part inside => unique part (parts_item member inside)

theorem KeysUnique.field {fields : List (String × Value)} {field : String × Value}
    (unique : (Value.object fields).KeysUnique) (member : field ∈ fields) : field.2.KeysUnique :=
  fun part inside => unique part (parts_field member inside)

theorem KeysUnique.keys {fields : List (String × Value)} (unique : (Value.object fields).KeysUnique) :
    (fields.map Prod.fst).Nodup :=
  unique _ (mem_parts _)

/-- With unique keys every field is found under its key. -/
theorem get?_of_mem {fields : List (String × Value)} {field : String × Value}
    (unique : (fields.map Prod.fst).Nodup) (member : field ∈ fields) :
    (Value.object fields).get? field.1 = some field.2 := by
  induction fields with
  | nil => cases member
  | cons first fields ih =>
    rw [List.map_cons, List.nodup_cons] at unique
    cases member with
    | head => simp [get?]
    | tail _ later =>
      have apart : first.1 ≠ field.1 := by
        intro equal
        exact unique.1 (equal ▸ List.mem_map_of_mem later)
      have found := ih unique.2 later
      simpa [get?, apart] using found

theorem mem_of_get? {fields : List (String × Value)} {key : String} {value : Value}
    (found : (Value.object fields).get? key = some value) : (key, value) ∈ fields := by
  obtain ⟨field, first, rfl⟩ := Option.map_eq_some_iff.mp found
  have same : field.1 = key := by simpa using List.find?_some first
  exact same ▸ List.mem_of_find?_eq_some first

theorem marker?_some {value : Value} {marker : TraceMarker} (marked : value.marker? = some marker) :
    value = .object [(marker.key, .bool true)] := by
  unfold marker? at marked
  split at marked
  · rename_i key
    by_cases checkpoint : key = "$checkpoint"
    · rw [if_pos checkpoint] at marked
      obtain rfl := Option.some.inj marked
      rw [checkpoint]
      rfl
    · rw [if_neg checkpoint] at marked
      split at marked
      · rename_i goalId
        obtain rfl := Option.some.inj marked
        rw [goalId]
        rfl
      · cases marked
  · cases marked

theorem instantiate_marker {number : Nat} {value : Value} {marker : TraceMarker}
    (marked : value.marker? = some marker) : value.instantiate number =
      if marker = .checkpoint then .number number else .array [.number number] := by
  obtain rfl := marker?_some marked
  cases marker <;> rfl

theorem instantiate_object {number : Nat} {fields : List (String × Value)}
    (plain : (Value.object fields).marker? = none) : (Value.object fields).instantiate number =
      .object (fields.map fun field => (field.1, field.2.instantiate number)) := by
  rw [instantiate, plain, instantiateFields_eq]

theorem instantiate_array {number : Nat} {items : List Value} :
    (Value.array items).instantiate number = .array (items.map (instantiate number)) := by
  rw [instantiate, instantiateItems_eq]

theorem instantiate_scalar {number : Nat} {value : Value} (scalar : value.isScalar = true) :
    value.instantiate number = value := by
  cases value <;> first | rfl | cases scalar

/-- The matcher accepts the instances. -/
theorem outputMatches_instantiate {number : Nat} (positive : 0 < number) (bounded : number < 2 ^ 64)
    {value : Value} (unique : value.KeysUnique) :
    outputMatches decimals value (value.instantiate number) = true := by
  induction value using induction with
  | scalar value scalar =>
    rw [instantiate_scalar scalar]
    cases value
    case array | object => cases scalar
    all_goals simp [outputMatches, compareWith, scalarEq, decimals.refl]
  | array items ih =>
    rw [instantiate_array]
    refine compareItems_iff.mpr (List.forall₂_map_right_iff.mpr (List.forall₂_same.mpr ?_))
    exact fun item member => ih item member (unique.item member)
  | object fields ih =>
    cases marked : (Value.object fields).marker? with
    | some marker =>
      rw [instantiate_marker marked, outputMatches, compareWith_tested (by rw [marked]; rfl)]
      cases marker with
      | checkpoint => simpa [TraceMarker.accepts, asNat_number bounded] using positive
      | goalId => rfl
    | none =>
      rw [instantiate_object marked]
      refine (compareWith_object (by rw [marked]; rfl)).mpr ⟨_, rfl, by simp, ?_⟩
      refine compareFields_iff.mpr fun field member => ?_
      have keys : ((fields.map fun field => (field.1, field.2.instantiate number)).map
          Prod.fst).Nodup := by
        rw [List.map_map]
        exact unique.keys
      have found := get?_of_mem keys (List.mem_map_of_mem member)
      exact ⟨_, found, ih field member (unique.field member)⟩

theorem hasMarker_array (items : List Value) :
    (Value.array items).hasMarker = items.any hasMarker := by
  simp only [hasMarker, parts_array, List.any_cons, List.any_flatMap]
  rfl

theorem hasMarker_object (fields : List (String × Value)) : (Value.object fields).hasMarker =
    ((Value.object fields).marker?.isSome || fields.any fun field => field.2.hasMarker) := by
  simp only [hasMarker, parts_object, List.any_cons, List.any_flatMap]

/-- An instance has the number where the value has a marker. -/
theorem mem_instantiate {number : Nat} {value : Value} (marked : value.hasMarker = true) :
    Value.number number ∈ (value.instantiate number).parts := by
  induction value using induction with
  | scalar value scalar =>
    rw [hasMarker, parts_scalar scalar] at marked
    cases value
    case array | object => cases scalar
    all_goals cases marked
  | array items ih =>
    rw [hasMarker_array, List.any_eq_true] at marked
    obtain ⟨item, member, marked⟩ := marked
    rw [instantiate_array]
    exact parts_item (List.mem_map_of_mem member) (ih item member marked)
  | object fields ih =>
    cases found : (Value.object fields).marker? with
    | some marker =>
      rw [instantiate_marker found]
      cases marker <;> simp [parts, itemParts]
    | none =>
      rw [hasMarker_object, found, Option.isSome_none, Bool.false_or, List.any_eq_true] at marked
      obtain ⟨field, member, marked⟩ := marked
      rw [instantiate_object found]
      exact parts_field (List.mem_map_of_mem member) (ih field member marked)

theorem keysUnique_scalar {value : Value} (scalar : value.isScalar = true) : value.KeysUnique := by
  intro part inside
  rw [parts_scalar scalar, List.mem_singleton] at inside
  subst inside
  cases part
  case array | object => cases scalar
  all_goals exact List.nodup_nil

theorem keysUnique_array {items : List Value} (unique : ∀ item ∈ items, item.KeysUnique) :
    (Value.array items).KeysUnique := by
  intro part inside
  rw [parts_array, List.mem_cons, List.mem_flatMap] at inside
  rcases inside with rfl | ⟨item, member, inside⟩
  · exact List.nodup_nil
  · exact unique item member part inside

theorem keysUnique_object {fields : List (String × Value)} (keys : (fields.map Prod.fst).Nodup)
    (unique : ∀ field ∈ fields, field.2.KeysUnique) : (Value.object fields).KeysUnique := by
  intro part inside
  rw [parts_object, List.mem_cons, List.mem_flatMap] at inside
  rcases inside with rfl | ⟨field, member, inside⟩
  · exact keys
  · exact unique field member part inside

theorem KeysUnique.instantiate {number : Nat} {value : Value} (unique : value.KeysUnique) :
    (value.instantiate number).KeysUnique := by
  induction value using induction with
  | scalar value scalar => rwa [instantiate_scalar scalar]
  | array items ih =>
    rw [instantiate_array]
    refine keysUnique_array (List.forall_mem_map.mpr fun item member => ?_)
    exact ih item member (unique.item member)
  | object fields ih =>
    cases marked : (Value.object fields).marker? with
    | some marker =>
      rw [instantiate_marker marked]
      cases marker with
      | checkpoint => exact keysUnique_scalar rfl
      | goalId =>
        refine keysUnique_array fun item member => ?_
        obtain rfl := List.mem_singleton.mp member
        exact keysUnique_scalar rfl
    | none =>
      rw [instantiate_object marked]
      refine keysUnique_object ?_ (List.forall_mem_map.mpr fun field member => ?_)
      · rw [List.map_map]
        exact unique.keys
      · exact ih field member (unique.field member)

theorem length_instantiate {number : Nat} {value : Value} :
    (value.instantiate number).parts.length ≤ value.parts.length := by
  induction value using induction with
  | scalar value scalar => exact (instantiate_scalar scalar).symm ▸ Nat.le_refl _
  | array items ih =>
    rw [instantiate_array, parts_array, parts_array]
    simp only [List.length_cons, List.length_flatMap, List.map_map]
    exact Nat.succ_le_succ (List.sum_le_sum ih)
  | object fields ih =>
    cases marked : (Value.object fields).marker? with
    | some marker =>
      rw [instantiate_marker marked, marker?_some marked]
      cases marker <;> simp [parts, itemParts, fieldParts]
    | none =>
      rw [instantiate_object marked, parts_object, parts_object]
      simp only [List.length_cons, List.length_flatMap, List.map_map]
      exact Nat.succ_le_succ (List.sum_le_sum ih)

/-- Equal values without parts are the same, or both are decimals. -/
theorem same_scalar {value actual : Value} (scalar : value.isScalar = true)
    (equal : same decimals value actual = true) :
    actual = value ∨ ∃ text other, value = .decimal text ∧ actual = .decimal other := by
  cases value
  case array | object => cases scalar
  all_goals cases actual <;> simp_all [same, compareWith, scalarEq]

/-- Without markers the matcher compares for equality. -/
theorem outputMatches_plain {value actual : Value} (plain : value.hasMarker = false) :
    outputMatches decimals value actual = same decimals value actual := by
  refine compareWith_plain fun part inside => ?_
  rw [hasMarker, List.any_eq_false] at plain
  have none' : part.marker? = none := by simpa using plain part inside
  rw [none', Option.map_none]

/-- There are more numbers than parts of a value. -/
theorem exists_fresh (values : List Value) {bound : Nat} (short : values.length < bound) :
    ∃ number : Nat, 0 < number ∧ number ≤ bound ∧ Value.number number ∉ values := by
  by_contra used
  have within : (List.range' 1 bound).map (fun number : Nat => Value.number number) ⊆ values := by
    intro value member
    obtain ⟨number, range, rfl⟩ := List.mem_map.mp member
    rw [List.mem_range'_1] at range
    by_contra absent
    exact used ⟨number, by omega, by omega, absent⟩
  have unique : ((List.range' 1 bound).map fun number : Nat => Value.number number).Nodup := by
    refine List.Nodup.map ?_ (List.nodup_range' ..)
    intro number other same
    exact Int.ofNat_inj.mp (Value.number.inj same)
  have fewer := (List.subperm_of_subset unique within).length_le
  rw [List.length_map, List.length_range'] at fewer
  omega

theorem exists_left {relation : Value → Value → Prop} {items others : List Value} {other : Value}
    (all : List.Forall₂ relation items others) (member : other ∈ others) :
    ∃ item ∈ items, relation item other := by
  induction all with
  | nil => cases member
  | cons related _ ih =>
    cases member with
    | head => exact ⟨_, List.mem_cons_self, related⟩
    | tail _ later =>
      obtain ⟨item, member, related⟩ := ih later
      exact ⟨item, List.mem_cons_of_mem _ member, related⟩

/-- Equal objects have the same keys. -/
theorem same_keys {fields others : List (String × Value)} (unique : (fields.map Prod.fst).Nodup)
    (length : fields.length = others.length)
    (found : ∀ field ∈ fields, field.1 ∈ others.map Prod.fst) {other : String × Value}
    (member : other ∈ others) : other.1 ∈ fields.map Prod.fst := by
  have within : fields.map Prod.fst ⊆ others.map Prod.fst := by
    intro key present
    obtain ⟨field, member, rfl⟩ := List.mem_map.mp present
    exact found field member
  have permuted := (List.subperm_of_subset unique within).perm_of_length_le (by simp [length])
  exact permuted.mem_iff.mpr (List.mem_map_of_mem member)

/-- Equal values have the same numbers. -/
theorem same_numbers {value actual : Value} {number : Int}
    (equal : same decimals value actual = true)
    (unique : value.KeysUnique) (unique' : actual.KeysUnique)
    (member : Value.number number ∈ actual.parts) : Value.number number ∈ value.parts := by
  induction value using induction generalizing actual with
  | scalar value scalar =>
    obtain rfl | ⟨text, other, rfl, rfl⟩ := same_scalar scalar equal
    · exact member
    · simp [parts] at member
  | array items ih =>
    cases actual with
    | array others =>
      rw [parts_array, List.mem_cons, List.mem_flatMap] at member
      obtain ⟨other, present, inside⟩ := member.resolve_left (by simp)
      obtain ⟨item, present', equal⟩ := exists_left (compareItems_iff.mp equal) present
      exact parts_item present' (ih item present' equal (unique.item present') (unique'.item present)
        inside)
    | _ => cases equal
  | object fields ih =>
    obtain ⟨others, rfl, length, found⟩ := (compareWith_object rfl).mp equal
    rw [compareFields_iff] at found
    rw [parts_object, List.mem_cons, List.mem_flatMap] at member
    obtain ⟨other, present, inside⟩ := member.resolve_left (by simp)
    have keys : ∀ field ∈ fields, field.1 ∈ others.map Prod.fst := by
      intro field member
      obtain ⟨value, got, _⟩ := found field member
      exact List.mem_map.mpr ⟨_, mem_of_get? got, rfl⟩
    obtain ⟨field, present', key⟩ := List.mem_map.mp (same_keys unique.keys length keys present)
    obtain ⟨value, got, equal⟩ := found field present'
    rw [key, get?_of_mem unique'.keys present] at got
    obtain rfl := Option.some.inj got
    exact parts_field present' (ih field present' equal (unique.field present')
      (unique'.field present) inside)

end Value

end RocqMcp
