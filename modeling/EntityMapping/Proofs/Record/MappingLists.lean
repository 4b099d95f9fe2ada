import EntityMapping.Proofs.Record.Identifier

/-!
# Lists of mappings

Columns, associations and embedded values stand in one list each.  Main statement: after any
calls on a new record each list has every name once, in the order of first mention, with the
entry of the last call for it, and a call touches nothing but the entry of its own name in its
own list.
-/

namespace EntityMapping.Named

variable {α : Type}

/-- Put items one after another. -/
def putAll (name : α → String) (added items : List α) : List α :=
  added.foldl (fun all item => put name item all) items

/-- Entries that remember calls by name: in the order in which names were first mentioned, each
with its last call. -/
structure Remembers (name : α → String) (calls entries : List α) (lookup : String → Option α) :
    Prop where
  distinct : (entries.map name).Nodup
  ordered : entries.map name = (calls.map name).eraseDups
  latest : ∀ wanted, lookup wanted = find? name wanted calls.reverse

variable {name : α → String}

theorem putAll_cons (first : α) (others items : List α) :
    putAll name (first :: others) items = putAll name others (put name first items) := rfl

theorem putAll_append_singleton (added : List α) (last : α) (items : List α) :
    putAll name (added ++ [last]) items = put name last (putAll name added items) := by
  rw [putAll, putAll, List.foldl_append]
  rfl

theorem nodup_names_putAll (items : List α) : ((putAll name items []).map name).Nodup := by
  induction items using List.reverseRecOn with
  | nil => exact List.nodup_nil
  | append_singleton items item ih =>
      rw [putAll_append_singleton]
      exact nodup_names_put name item ih

theorem map_name_putAll (items : List α) :
    (putAll name items []).map name = (items.map name).eraseDups := by
  induction items using List.reverseRecOn with
  | nil => rfl
  | append_singleton items item ih =>
      rw [putAll_append_singleton, map_name_put, ih, List.map_append, List.eraseDups_append]
      by_cases known : name item ∈ items.map name
      · have nothing : [name item].removeAll (items.map name) = [] := by
          rw [List.removeAll, List.filter_eq_nil_iff]
          simpa using known
        rw [if_pos (List.mem_eraseDups.mpr known), List.map_singleton, nothing, List.eraseDups_nil,
          List.append_nil]
      · have added : [name item].removeAll (items.map name) = [name item] := by
          rw [List.removeAll, List.filter_eq_self]
          simpa using known
        rw [if_neg fun among => known (List.mem_eraseDups.mp among), List.map_singleton, added]
        rfl

theorem find?_putAll (items : List α) (wanted : String) :
    find? name wanted (putAll name items []) = find? name wanted items.reverse := by
  induction items using List.reverseRecOn with
  | nil => rfl
  | append_singleton items item ih =>
      rw [putAll_append_singleton, List.reverse_concat]
      by_cases same : wanted = name item
      · rw [same, find?_put_self]
        simp [find?]
      · have different : (name item == wanted) = false := beq_eq_false_iff_ne.mpr (Ne.symm same)
        rw [find?_put_of_ne name item _ same, ih]
        simp [find?, different]

theorem remembers_putAll (calls : List α) :
    Remembers name calls (putAll name calls [])
      fun wanted => find? name wanted (putAll name calls []) where
  distinct := nodup_names_putAll calls
  ordered := map_name_putAll calls
  latest := find?_putAll calls

namespace Remembers

variable {calls entries : List α} {lookup : String → Option α}

/-- A name is found if some call had it. -/
theorem isSome_iff (remembers : Remembers name calls entries lookup) (wanted : String) :
    (lookup wanted).isSome = true ↔ ∃ call ∈ calls, name call = wanted := by
  rw [remembers.latest, find?, List.find?_isSome]
  simp

end Remembers

/-- Entries of other names than the given one are the same, in the same places. -/
def SameBut (name : α → String) (touched : String) (before after : List α) : Prop :=
  ∀ (index : Nat) (item : α), name item ≠ touched →
    (after[index]? = some item ↔ before[index]? = some item)

theorem SameBut.refl (name : α → String) (touched : String) (entries : List α) :
    SameBut name touched entries entries :=
  fun _ _ _ => Iff.rfl

theorem sameBut_put (name : α → String) (item : α) (items : List α) :
    SameBut name (name item) items (put name item items) := by
  intro index other different
  have notItem : item ≠ other := fun same => different (congrArg name same.symm)
  induction items generalizing index with
  | nil => cases index <;> simp [put, notItem]
  | cons first rest ih =>
      rw [put]
      split
      · rename_i same
        have notFirst : first ≠ other := by
          rintro rfl
          exact different same
        cases index with
        | zero => simp [notItem, notFirst]
        | succ index => rfl
      · cases index with
        | zero => rfl
        | succ index => exact ih index

end EntityMapping.Named

namespace EntityMapping.Record

namespace MappingStep

/-- A call spares the entries of other names, which keep their places, and the lists that it
does not put anything in. -/
structure Spares (step : MappingStep) (before after : ClassMapping) : Prop where
  otherColumns : Named.SameBut Column.fieldName step.fieldName before.columns after.columns
  otherAssociations :
    Named.SameBut Association.fieldName step.fieldName before.associations after.associations
  otherEmbedded : Named.SameBut Embedded.fieldName step.fieldName before.embedded after.embedded
  columns : step.column? = none → after.columns = before.columns
  associations : step.association? = none → after.associations = before.associations
  embedded : step.embedded? = none → after.embedded = before.embedded

theorem fieldName_of_column? {step : MappingStep} {mapped : Column}
    (stored : step.column? = some mapped) : mapped.fieldName = step.fieldName := by
  cases step <;> cases stored
  rfl

theorem fieldName_of_association? {step : MappingStep} {mapped : Association}
    (stored : step.association? = some mapped) : mapped.fieldName = step.fieldName := by
  cases step <;> cases stored
  rfl

theorem fieldName_of_embedded? {step : MappingStep} {mapped : Embedded}
    (stored : step.embedded? = some mapped) : mapped.fieldName = step.fieldName := by
  cases step <;> cases stored
  rfl

end MappingStep

namespace ClassMapping

/-- A list of the record into which each call puts at most one item. -/
def PutInto {α : Type} (part : ClassMapping → List α) (part? : MappingStep → Option α)
    (name : α → String) : Prop :=
  ∀ step record,
    part (MappingStep.apply record step) = Named.putAll name (part? step).toList (part record)

theorem putInto_columns : PutInto columns MappingStep.column? Column.fieldName := by
  intro step record
  cases step with
  | column mapped => exact columns_mapColumn mapped record
  | association mapped => exact columns_mapAssociation mapped record
  | embedded mapped => rfl

theorem putInto_associations :
    PutInto associations MappingStep.association? Association.fieldName := by
  intro step record
  cases step with
  | column mapped => exact associations_mapColumn mapped record
  | association mapped => exact associations_mapAssociation mapped record
  | embedded mapped => rfl

theorem putInto_embedded : PutInto embedded MappingStep.embedded? Embedded.fieldName := by
  intro step record
  cases step with
  | column mapped => exact embedded_mapColumn mapped record
  | association mapped => exact embedded_mapAssociation mapped record
  | embedded mapped => rfl

namespace PutInto

variable {α : Type} {part : ClassMapping → List α} {part? : MappingStep → Option α}
  {name : α → String}

theorem mapAll (puts : PutInto part part? name) (steps : List MappingStep)
    (record : ClassMapping) :
    part (record.mapAll steps) = Named.putAll name (steps.filterMap part?) (part record) := by
  induction steps generalizing record with
  | nil => rfl
  | cons step steps ih =>
      refine (ih (step.apply record)).trans ?_
      rw [puts step record]
      cases found : part? step with
      | none => rw [List.filterMap_cons_none found]; rfl
      | some item => rw [List.filterMap_cons_some found]; rfl

theorem eq_of_nothing (puts : PutInto part part? name) {step : MappingStep}
    (nothing : part? step = none) (record : ClassMapping) :
    part (step.apply record) = part record := by
  rw [puts step record, nothing]
  rfl

/-- An item that is put under the name of the call leaves all others in place. -/
theorem sameBut (puts : PutInto part part? name) {step : MappingStep}
    (named : ∀ item, part? step = some item → name item = step.fieldName)
    (record : ClassMapping) :
    Named.SameBut name step.fieldName (part record) (part (step.apply record)) := by
  rw [puts step record]
  cases found : part? step with
  | none => exact .refl _ _ _
  | some item =>
      rw [← named item found]
      exact Named.sameBut_put name item (part record)

end PutInto

theorem spares_apply (step : MappingStep) (record : ClassMapping) :
    step.Spares record (step.apply record) where
  otherColumns := putInto_columns.sameBut (fun _ => MappingStep.fieldName_of_column?) record
  otherAssociations :=
    putInto_associations.sameBut (fun _ => MappingStep.fieldName_of_association?) record
  otherEmbedded := putInto_embedded.sameBut (fun _ => MappingStep.fieldName_of_embedded?) record
  columns nothing := putInto_columns.eq_of_nothing nothing record
  associations nothing := putInto_associations.eq_of_nothing nothing record
  embedded nothing := putInto_embedded.eq_of_nothing nothing record

/-! ## What the lists hold after a run -/

section Runs

variable (className : String) (steps : List MappingStep)

theorem remembers_columns :
    Named.Remembers Column.fieldName (steps.filterMap MappingStep.column?)
      (mapAll steps (.empty className)).columns
      fun wanted => (mapAll steps (.empty className)).column? wanted := by
  simp only [column?, putInto_columns.mapAll]
  exact Named.remembers_putAll _

theorem remembers_associations :
    Named.Remembers Association.fieldName (steps.filterMap MappingStep.association?)
      (mapAll steps (.empty className)).associations
      fun wanted => (mapAll steps (.empty className)).association? wanted := by
  simp only [association?, putInto_associations.mapAll]
  exact Named.remembers_putAll _

theorem remembers_embedded :
    Named.Remembers Embedded.fieldName (steps.filterMap MappingStep.embedded?)
      (mapAll steps (.empty className)).embedded
      fun wanted => (mapAll steps (.empty className)).embedded? wanted := by
  simp only [embedded?, putInto_embedded.mapAll]
  exact Named.remembers_putAll _

/-- A field is mapped if some call mapped it. -/
theorem hasMapping_mapAll (fieldName : String) :
    (mapAll steps (.empty className)).hasMapping fieldName = true ↔
      ∃ step ∈ steps, step.fieldName = fieldName := by
  rw [hasMapping, Bool.or_eq_true, Bool.or_eq_true,
    (remembers_columns className steps).isSome_iff,
    (remembers_associations className steps).isSome_iff,
    (remembers_embedded className steps).isSome_iff]
  constructor
  · rintro ((⟨mapped, member, named⟩ | ⟨mapped, member, named⟩) | ⟨mapped, member, named⟩)
    · obtain ⟨step, among, stored⟩ := List.mem_filterMap.mp member
      exact ⟨step, among, (MappingStep.fieldName_of_column? stored).symm.trans named⟩
    · obtain ⟨step, among, stored⟩ := List.mem_filterMap.mp member
      exact ⟨step, among, (MappingStep.fieldName_of_association? stored).symm.trans named⟩
    · obtain ⟨step, among, stored⟩ := List.mem_filterMap.mp member
      exact ⟨step, among, (MappingStep.fieldName_of_embedded? stored).symm.trans named⟩
  · rintro ⟨step, among, named⟩
    cases step with
    | column mapped => exact Or.inl (Or.inl ⟨mapped, List.mem_filterMap.mpr ⟨_, among, rfl⟩, named⟩)
    | association mapped =>
        exact Or.inl (Or.inr ⟨mapped, List.mem_filterMap.mpr ⟨_, among, rfl⟩, named⟩)
    | embedded mapped => exact Or.inr ⟨mapped, List.mem_filterMap.mpr ⟨_, among, rfl⟩, named⟩

/-- After any calls on a new record, each of its lists remembers the calls that put something in
it, a field is mapped if some call mapped it, and a further call spares the other names and the
other lists. -/
theorem mappings_remember_calls :
    Named.Remembers Column.fieldName (steps.filterMap MappingStep.column?)
        (mapAll steps (.empty className)).columns
        (fun fieldName => (mapAll steps (.empty className)).column? fieldName) ∧
      Named.Remembers Association.fieldName (steps.filterMap MappingStep.association?)
        (mapAll steps (.empty className)).associations
        (fun fieldName => (mapAll steps (.empty className)).association? fieldName) ∧
      Named.Remembers Embedded.fieldName (steps.filterMap MappingStep.embedded?)
        (mapAll steps (.empty className)).embedded
        (fun fieldName => (mapAll steps (.empty className)).embedded? fieldName) ∧
      (∀ fieldName, (mapAll steps (.empty className)).hasMapping fieldName = true ↔
        ∃ step ∈ steps, step.fieldName = fieldName) ∧
      ∀ step : MappingStep, step.Spares (mapAll steps (.empty className))
        (step.apply (mapAll steps (.empty className))) :=
  ⟨remembers_columns className steps, remembers_associations className steps,
    remembers_embedded className steps, hasMapping_mapAll className steps,
    fun step => spares_apply step _⟩

end Runs

end ClassMapping

end EntityMapping.Record
