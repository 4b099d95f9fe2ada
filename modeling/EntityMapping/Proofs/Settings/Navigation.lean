import EntityMapping.Proofs.Overriding
import EntityMapping.Proofs.Settings.Faults

/-!
# Paths into values and into their data

A path of keys and indices leads into a value, and into the data that the value becomes.  An
object searches its fields in the order written and takes the first of a key, while its data
are sorted by key and keep the last.  Main statement: where no object repeats a key both ways
lead to the same, and an object that does becomes the map of the last fields of its keys.
-/

namespace EntityMapping.Json

/-- What an object has under a key. -/
def field? (key : String) : Json → Option Json
  | object entries => entries.lookup key
  | _ => none

/-- An item of an array by its index. -/
def item? (index : Nat) : Json → Option Json
  | array items => items[index]?
  | _ => none

end EntityMapping.Json

namespace EntityMapping.Settings

open EntityMapping.Document

/-- The data that one step leads to: what stands under a key, or the item at an index. -/
def Step.intoData? (data : Json) : Step → Option Json
  | key name => data.field? name
  | index place => data.item? place

/-- The data that a path leads to. -/
def ArgumentPath.followData? : ArgumentPath → Json → Option Json
  | [], data => some data
  | step :: rest, data => (step.intoData? data).bind (followData? rest)

/-- No object repeats a key, at any depth. -/
inductive DistinctKeys : Value → Prop where
  | plain {value : Value} (notList : value.asList? = none) (notObject : value.asObject? = none) :
      DistinctKeys value
  | list {items : List Value} (each : ∀ item ∈ items, DistinctKeys item) :
      DistinctKeys (.list items)
  | object {fields : List (String × Value)} (distinct : (fields.map Prod.fst).Nodup)
      (each : ∀ field ∈ fields, DistinctKeys field.2) : DistinctKeys (.object fields)

/-! ## Objects -/

theorem lookup_fieldsToJson (key : String) (fields : List (String × Value)) :
    (Value.fieldsToJson fields).lookup key = (fields.lookup key).map Value.toJson := by
  induction fields with
  | nil => rfl
  | cons field rest ih =>
      obtain ⟨name, value⟩ := field
      rw [Value.fieldsToJson, List.lookup_cons, List.lookup_cons]
      split
      · rfl
      · exact ih

/-- Under a key of an object's data stands what the last field of the key becomes. -/
theorem lookup_data_eq_some_iff {key : String} {data : Json} {fields : List (String × Value)} :
    (Keyed.ofEntries (Value.fieldsToJson fields)).lookup key = some data ↔
      ∃ front value behind, fields = front ++ (key, value) :: behind ∧
        (∀ later ∈ behind, later.1 ≠ key) ∧ value.toJson = data := by
  rw [Keyed.lookup_ofEntries_eq_some_iff, Value.fieldsToJson_eq_map]
  constructor
  · rintro ⟨front, behind, split, others⟩
    obtain ⟨before, rest, rfl, -, isRest⟩ := List.map_eq_append_iff.mp split
    obtain ⟨field, after, rfl, isField, rfl⟩ := List.map_eq_cons_iff.mp isRest
    cases isField
    refine ⟨before, field.2, after, rfl, fun later member => ?_, rfl⟩
    exact others (later.1, later.2.toJson) (List.mem_map_of_mem member)
  · rintro ⟨front, value, behind, rfl, others, rfl⟩
    refine ⟨_, _, List.map_append, fun entry member => ?_⟩
    obtain ⟨later, among, rfl⟩ := List.mem_map.mp member
    exact others later among

/-- Where keys are distinct, the first field of a key is the last one as well. -/
theorem lookup_data_of_distinct {fields : List (String × Value)}
    (distinct : (fields.map Prod.fst).Nodup) (key : String) :
    (Keyed.ofEntries (Value.fieldsToJson fields)).lookup key =
      (fields.lookup key).map Value.toJson := by
  have backwards : fields.reverse.Pairwise fun left right => left.1 ≠ right.1 :=
    List.pairwise_reverse.mpr ((List.pairwise_map.mp distinct).imp Ne.symm)
  have same : fields.reverse.lookup key = fields.lookup key := by
    refine Option.ext fun value => ?_
    rw [Keyed.lookup_eq_some_iff_mem backwards, List.mem_reverse,
      Keyed.lookup_eq_some_iff_mem (List.pairwise_map.mp distinct)]
  rw [Keyed.lookup_ofEntries, Value.fieldsToJson_eq_map, ← List.map_reverse,
    ← Value.fieldsToJson_eq_map, lookup_fieldsToJson, same]

/-! ## Steps and paths -/

theorem field?_toJson {value : Value} (distinct : DistinctKeys value) (key : String) :
    (value.field? key).map Value.toJson = value.toJson.field? key := by
  cases value with
  | object fields =>
      cases distinct with
      | plain notList notObject => cases notObject
      | object distinct each => exact (lookup_data_of_distinct distinct key).symm
  | float number =>
      rw [Value.toJson]
      split <;> rfl
  | null | boolean | int | string | enum | list => rfl

theorem item?_toJson (value : Value) (index : Nat) :
    (value.item? index).map Value.toJson = value.toJson.item? index := by
  cases value with
  | list items =>
      rw [Value.toJson, Value.itemsToJson_eq_map]
      exact List.getElem?_map.symm
  | float number =>
      rw [Value.toJson]
      split <;> rfl
  | null | boolean | int | string | enum | object => rfl

/-- A step leads to the same before and after a value has become data. -/
theorem Step.into?_toJson {value : Value} (distinct : DistinctKeys value) (step : Step) :
    (step.into? value).map Value.toJson = step.intoData? value.toJson := by
  cases step with
  | key name => exact field?_toJson distinct name
  | index place => exact item?_toJson value place

/-- A step does not lead to objects that are not within. -/
theorem DistinctKeys.into {value inner : Value} {step : Step} (distinct : DistinctKeys value)
    (reached : step.into? value = some inner) : DistinctKeys inner := by
  cases step with
  | key name =>
      obtain ⟨fields, isObject, found⟩ := Option.bind_eq_some_iff.mp reached
      cases distinct with
      | plain notList notObject => simp [notObject] at isObject
      | list each => cases isObject
      | object distinct each =>
          cases isObject
          obtain ⟨front, behind, rfl, -⟩ := List.lookup_eq_some_iff.mp found
          exact each _ (List.mem_append_right front List.mem_cons_self)
  | index place =>
      obtain ⟨items, isList, found⟩ := Option.bind_eq_some_iff.mp reached
      cases distinct with
      | plain notList notObject => simp [notList] at isList
      | list each =>
          cases isList
          exact each inner (List.mem_of_getElem? found)
      | object distinct each => cases isList

/-- A path leads to the same before and after a value has become data. -/
theorem ArgumentPath.follow?_toJson {value : Value} (distinct : DistinctKeys value)
    (path : ArgumentPath) :
    (path.follow? value).map Value.toJson = path.followData? value.toJson := by
  induction path generalizing value with
  | nil => rfl
  | cons step path ih =>
      rw [follow?, followData?, ← Step.into?_toJson distinct]
      cases reached : step.into? value with
      | none => rfl
      | some inner => exact ih (distinct.into reached)

/-! ## Values and data -/

/-- Where no object repeats a key, a path leads to data exactly where it leads to a value, and
these are the data that the value becomes.  Any object becomes an object whose keys increase,
with the data of the last field of each key. -/
theorem data_navigated_alike :
    (∀ value : Value, DistinctKeys value → ∀ path : ArgumentPath,
      (path.follow? value).map Value.toJson = path.followData? value.toJson ∧
        (path.follow? value = none ↔ path.followData? value.toJson = none)) ∧
    ∀ fields : List (String × Value), ∃ entries : Keyed Json,
      (Value.object fields).toJson = .object entries ∧ entries.Sorted ∧
        ∀ key data, entries.lookup key = some data ↔
          ∃ front value behind, fields = front ++ (key, value) :: behind ∧
            (∀ later ∈ behind, later.1 ≠ key) ∧ value.toJson = data := by
  refine ⟨fun value distinct path => ?_, fun fields => ?_⟩
  · have same := path.follow?_toJson distinct
    exact ⟨same, by rw [← same, Option.map_eq_none_iff]⟩
  · refine ⟨Keyed.ofEntries (Value.fieldsToJson fields), by rw [Value.toJson, Json.ofEntries],
      Keyed.sorted_ofEntries _, fun key data => lookup_data_eq_some_iff⟩

/-- A bare word in an object in a list in an object, which is reached as a text. -/
theorem nestedWord_navigated :
    let written : Value := .object
      [("type", .string "text"), ("columns", .list [.null, .object [("mode", .enum "EAGER")]])]
    let path : ArgumentPath := [.key "columns", .index 1, .key "mode"]
    DistinctKeys written ∧ path.follow? written = some (.enum "EAGER") ∧
      path.followData? written.toJson = some (.text "EAGER") := by
  intro written path
  have word : DistinctKeys (.object [("mode", .enum "EAGER")]) :=
    .object (by decide) (List.forall_mem_singleton.mpr (.plain rfl rfl))
  have distinct : DistinctKeys written := by
    refine .object (by decide) (List.forall_mem_cons.mpr ⟨.plain rfl rfl, ?_⟩)
    refine List.forall_mem_singleton.mpr (.list (List.forall_mem_cons.mpr ⟨.plain rfl rfl, ?_⟩))
    exact List.forall_mem_singleton.mpr word
  have reached : path.follow? written = some (.enum "EAGER") := rfl
  obtain ⟨same, -⟩ := data_navigated_alike.1 written distinct path
  rw [reached] at same
  exact ⟨distinct, reached, same.symm⟩

end EntityMapping.Settings
