import EntityMapping.Proofs.Settings.Identifier

/-!
# What a field contributes to a record

A field maps itself by at most one call.  Which call that is depends on its annotations and
on what the record says about the class as a whole, and no field changes that.  So what a
field contributes is the same whichever other fields the type has.  Main statement: the
record of a type is that of the contributions of its fields, and for the rest that of the
type without fields.
-/

namespace EntityMapping.Record

namespace ClassMapping

/-- Two records that say the same about the class as a whole. -/
structure SameClass (left right : ClassMapping) : Prop where
  name : left.name = right.name
  kind : left.kind = right.kind
  repositoryClass : left.repositoryClass = right.repositoryClass
  readOnly : left.readOnly = right.readOnly
  table : left.table = right.table
  cache : left.cache = right.cache
  inheritance : left.inheritance = right.inheritance
  discriminator : left.discriminator = right.discriminator
  discriminatorMap : left.discriminatorMap = right.discriminatorMap
  changeTracking : left.changeTracking = right.changeTracking
  namedQueries : left.namedQueries = right.namedQueries
  nativeQueries : left.nativeQueries = right.nativeQueries
  resultSetMappings : left.resultSetMappings = right.resultSetMappings

namespace SameClass

variable {left middle right : ClassMapping}

theorem refl (record : ClassMapping) : SameClass record record :=
  ⟨rfl, rfl, rfl, rfl, rfl, rfl, rfl, rfl, rfl, rfl, rfl, rfl, rfl⟩

theorem symm (same : SameClass left right) : SameClass right left where
  name := same.name.symm
  kind := same.kind.symm
  repositoryClass := same.repositoryClass.symm
  readOnly := same.readOnly.symm
  table := same.table.symm
  cache := same.cache.symm
  inheritance := same.inheritance.symm
  discriminator := same.discriminator.symm
  discriminatorMap := same.discriminatorMap.symm
  changeTracking := same.changeTracking.symm
  namedQueries := same.namedQueries.symm
  nativeQueries := same.nativeQueries.symm
  resultSetMappings := same.resultSetMappings.symm

theorem trans (first : SameClass left middle) (second : SameClass middle right) :
    SameClass left right where
  name := first.name.trans second.name
  kind := first.kind.trans second.kind
  repositoryClass := first.repositoryClass.trans second.repositoryClass
  readOnly := first.readOnly.trans second.readOnly
  table := first.table.trans second.table
  cache := first.cache.trans second.cache
  inheritance := first.inheritance.trans second.inheritance
  discriminator := first.discriminator.trans second.discriminator
  discriminatorMap := first.discriminatorMap.trans second.discriminatorMap
  changeTracking := first.changeTracking.trans second.changeTracking
  namedQueries := first.namedQueries.trans second.namedQueries
  nativeQueries := first.nativeQueries.trans second.nativeQueries
  resultSetMappings := first.resultSetMappings.trans second.resultSetMappings

/-- How an association is cached depends on the class only. -/
theorem associationCache (same : SameClass left right) (fieldName : String) :
    left.associationCache fieldName = right.associationCache fieldName := by
  rw [ClassMapping.associationCache, ClassMapping.associationCache, same.cache, same.name]

end SameClass

theorem addIdentifier_sameClass (isId : Bool) (fieldName : String) (record : ClassMapping) :
    (record.addIdentifier isId fieldName).SameClass record := by
  unfold addIdentifier
  split
  · exact { SameClass.refl record with }
  · exact .refl record

theorem mapColumn_sameClass (column : Column) (record : ClassMapping) :
    (record.mapColumn column).SameClass record :=
  { record.addIdentifier_sameClass column.isId column.fieldName with }

theorem mapAssociation_sameClass (association : Association) (record : ClassMapping) :
    (record.mapAssociation association).SameClass record :=
  { record.addIdentifier_sameClass association.isId association.fieldName with }

end ClassMapping

end EntityMapping.Record

namespace EntityMapping.Document

/-- The type with other fields in the place of its own. -/
def ObjectType.withFields (fields : List Field) (type : ObjectType) : ObjectType :=
  { type with fields := fields }

end EntityMapping.Document

namespace EntityMapping.Settings

open EntityMapping.Document
open EntityMapping.Record

/-! ## The call that maps a field -/

namespace ColumnSettings

theorem chooseGenerator_sameClass (generator : IdGenerator) (record : ClassMapping) :
    (chooseGenerator generator record).SameClass record := by
  unfold chooseGenerator
  split
  · exact { ClassMapping.SameClass.refl record with }
  · exact .refl record

theorem applyKeySource_sameClass (record : ClassMapping) (source : KeySource) :
    (applyKeySource record source).SameClass record := by
  cases source with
  | unspecified => exact .refl record
  | sequence definition => exact { chooseGenerator_sameClass .sequence _ with }
  | custom className => exact { chooseGenerator_sameClass .custom _ with }

theorem apply_sameClass (cache : Option CacheSettings) (settings : ColumnSettings)
    (record : ClassMapping) : (settings.apply cache record).SameClass record :=
  (applyKeySource_sameClass _ settings.keySource).trans
    { ClassMapping.mapColumn_sameClass (settings.stored cache) _ with }

end ColumnSettings

namespace FieldSettings

/-- The call by which a field is mapped in a record, if it is mapped at all. -/
def step? (record : ClassMapping) (settings : FieldSettings) : Option MappingStep :=
  let cache := settings.cache.map (·.withDefaults (record.associationCache settings.fieldName))
  match settings.kind with
  | .column column => some (.column (column.stored cache))
  | .association association => some (.association { association with cache := cache })
  | .embedded embedded => some (.embedded embedded)
  | .transient => none

theorem step?_congr {left right : ClassMapping}
    (same : ∀ fieldName, left.associationCache fieldName = right.associationCache fieldName)
    (settings : FieldSettings) : settings.step? left = settings.step? right := by
  rw [step?, step?, same]

theorem step?_names {record : ClassMapping} {fieldName : String} {settings : FieldSettings}
    (names : settings.kind.Names fieldName) :
    ∀ step ∈ settings.step? record, step.fieldName = fieldName := by
  obtain ⟨settingsName, cache, kind⟩ := settings
  intro step among
  cases kind with
  | column column =>
      cases among
      exact names
  | association association =>
      cases among
      exact names
  | embedded embedded =>
      cases among
      exact names
  | transient => cases among

theorem apply_sameFields (settings : FieldSettings) (record : ClassMapping) :
    (settings.apply record).SameFields (record.mapAll (settings.step? record).toList) := by
  obtain ⟨fieldName, cache, kind⟩ := settings
  cases kind with
  | column column => exact column.apply_sameFields _ record
  | association association => exact .refl _
  | embedded embedded => exact .refl _
  | transient => exact .refl record

theorem apply_sameClass (settings : FieldSettings) (record : ClassMapping) :
    (settings.apply record).SameClass record := by
  obtain ⟨fieldName, cache, kind⟩ := settings
  cases kind with
  | column column => exact column.apply_sameClass _ record
  | association association => exact ClassMapping.mapAssociation_sameClass _ record
  | embedded embedded => exact { ClassMapping.SameClass.refl record with }
  | transient => exact .refl record

/-- Fields are mapped one after another, each by the call that it would be mapped by in the
record of the class. -/
theorem applyAll_same {base record : ClassMapping} (same : record.SameClass base)
    (settings : List FieldSettings) :
    (settings.foldl (fun record field => field.apply record) record).SameClass base ∧
      (settings.foldl (fun record field => field.apply record) record).SameFields
        (record.mapAll (settings.filterMap (step? base))) := by
  induction settings generalizing record with
  | nil => exact ⟨same, .refl record⟩
  | cons first others ih =>
      obtain ⟨sameClass, sameFields⟩ := ih ((first.apply_sameClass record).trans same)
      refine ⟨sameClass, sameFields.trans ?_⟩
      have mapped := (first.apply_sameFields record).mapAll (others.filterMap (step? base))
      rw [first.step?_congr same.associationCache] at mapped
      cases isStep : first.step? base with
      | none =>
          rw [isStep] at mapped
          rw [List.filterMap_cons_none isStep]
          exact mapped
      | some step =>
          rw [isStep] at mapped
          rw [List.filterMap_cons_some isStep]
          exact mapped

end FieldSettings

/-- The call by which the annotations of a field map it in a record. -/
def contribution? (record : ClassMapping) (field : Field) : Option MappingStep :=
  match FieldSettings.ofField field with
  | .ok settings => settings.step? record
  | .error _ => none

theorem contribution?_eq_step? {field : Field} {settings : FieldSettings}
    (read : FieldSettings.ofField field = .ok settings) (record : ClassMapping) :
    contribution? record field = settings.step? record := by
  rw [contribution?, read]

theorem fieldName_of_contribution? {record : ClassMapping} {field : Field} {step : MappingStep}
    (contributed : contribution? record field = some step) : step.fieldName = field.name := by
  cases read : FieldSettings.ofField field with
  | error fault =>
      rw [contribution?, read] at contributed
      cases contributed
  | ok settings =>
      rw [contribution?_eq_step? read] at contributed
      exact FieldSettings.step?_names (FieldSettings.ofField_names read) step contributed

theorem filterMap_step?_eq {record : ClassMapping} {fields : List Field}
    {settings : List FieldSettings} (read : fields.mapM FieldSettings.ofField = .ok settings) :
    settings.filterMap (FieldSettings.step? record) = fields.filterMap (contribution? record) := by
  induction fields generalizing settings with
  | nil =>
      cases read
      rfl
  | cons field fields ih =>
      rw [List.mapM_cons] at read
      obtain ⟨first, readFirst, read⟩ := bind_eq_ok_iff.mp read
      obtain ⟨others, readOthers, read⟩ := bind_eq_ok_iff.mp read
      cases read
      rw [List.filterMap_cons, List.filterMap_cons, contribution?_eq_step? readFirst,
        ih readOthers]

/-! ## When a type can be evaluated -/

/-- A type can be evaluated into the record of a new class. -/
def Evaluates (className : String) (type : ObjectType) : Prop :=
  ∃ record, evaluateNew className type = .ok record

section Evaluation

variable {className : String} {type : ObjectType} {field : Field}

theorem evaluateNew_eq_ok_iff {record : ClassMapping} :
    evaluateNew className type = .ok record ↔
      ∃ ofClass ofFields, ClassSettings.ofDirectives type.directives = .ok ofClass ∧
        type.fields.mapM FieldSettings.ofField = .ok ofFields ∧
        ofFields.foldl (fun record field => field.apply record)
          (ofClass.apply className (.empty className)) = record := by
  unfold evaluateNew evaluate
  constructor
  · intro evaluated
    split at evaluated
    · rename_i settings read
      cases evaluated
      obtain ⟨ofClass, readClass, read⟩ := bind_eq_ok_iff.mp read
      obtain ⟨ofFields, readFields, read⟩ := bind_eq_ok_iff.mp read
      cases read
      exact ⟨ofClass, ofFields, readClass, readFields, rfl⟩
    · cases evaluated
  · rintro ⟨ofClass, ofFields, readClass, readFields, rfl⟩
    have read : TypeSettings.ofType type = .ok ⟨ofClass, ofFields⟩ :=
      bind_eq_ok_iff.mpr ⟨ofClass, readClass, bind_eq_ok_iff.mpr ⟨ofFields, readFields, rfl⟩⟩
    rw [read]
    rfl

theorem evaluateNew_eq_error_iff {error : EvaluationError} :
    evaluateNew className type = .error error ↔
      ∃ fault, error = ⟨className, fault⟩ ∧
        (ClassSettings.ofDirectives type.directives = .error fault ∨
          (∃ ofClass, ClassSettings.ofDirectives type.directives = .ok ofClass) ∧
            type.fields.mapM FieldSettings.ofField = .error fault) := by
  have ofType : ∀ fault, TypeSettings.ofType type = .error fault ↔
      ClassSettings.ofDirectives type.directives = .error fault ∨
        (∃ ofClass, ClassSettings.ofDirectives type.directives = .ok ofClass) ∧
          type.fields.mapM FieldSettings.ofField = .error fault := by
    intro fault
    rw [TypeSettings.ofType, bind_eq_error_iff]
    refine or_congr Iff.rfl ⟨?_, ?_⟩
    · rintro ⟨ofClass, readClass, failed⟩
      rcases bind_eq_error_iff.mp failed with readFields | ⟨ofFields, -, made⟩
      · exact ⟨⟨ofClass, readClass⟩, readFields⟩
      · cases made
    · rintro ⟨⟨ofClass, readClass⟩, readFields⟩
      exact ⟨ofClass, readClass, bind_eq_error_iff.mpr (Or.inl readFields)⟩
  unfold evaluateNew evaluate
  constructor
  · intro failed
    split at failed
    · cases failed
    · rename_i fault read
      cases failed
      exact ⟨fault, rfl, (ofType fault).mp read⟩
  · rintro ⟨fault, rfl, read⟩
    rw [(ofType fault).mpr read]

/-- Without fields only the annotations of the class matter. -/
theorem evaluateNew_withFields_nil {base : ClassMapping} :
    evaluateNew className (type.withFields []) = .ok base ↔
      ∃ ofClass, ClassSettings.ofDirectives type.directives = .ok ofClass ∧
        ofClass.apply className (.empty className) = base := by
  rw [evaluateNew_eq_ok_iff]
  constructor
  · rintro ⟨ofClass, ofFields, readClass, readFields, applied⟩
    cases readFields
    exact ⟨ofClass, readClass, applied⟩
  · rintro ⟨ofClass, readClass, applied⟩
    exact ⟨ofClass, [], readClass, rfl, applied⟩

theorem evaluates_iff :
    Evaluates className type ↔ Evaluates className (type.withFields []) ∧
      ∀ field ∈ type.fields, ∃ settings, FieldSettings.ofField field = .ok settings := by
  constructor
  · rintro ⟨record, evaluated⟩
    obtain ⟨ofClass, ofFields, readClass, readFields, -⟩ := evaluateNew_eq_ok_iff.mp evaluated
    exact ⟨⟨_, evaluateNew_withFields_nil.mpr ⟨ofClass, readClass, rfl⟩⟩,
      exists_ok_of_mapM_eq_ok readFields⟩
  · rintro ⟨⟨base, evaluated⟩, readEach⟩
    obtain ⟨ofClass, readClass, -⟩ := evaluateNew_withFields_nil.mp evaluated
    obtain ⟨ofFields, readFields, -⟩ := exists_mapM_eq_ok fun field member =>
      (readEach field member).imp fun _ read => ⟨read, read⟩
    exact ⟨_, evaluateNew_eq_ok_iff.mpr ⟨ofClass, ofFields, readClass, readFields, rfl⟩⟩

theorem evaluates_single_iff :
    Evaluates className (type.withFields [field]) ↔ Evaluates className (type.withFields []) ∧
      ∃ settings, FieldSettings.ofField field = .ok settings := by
  rw [evaluates_iff]
  exact and_congr Iff.rfl List.forall_mem_singleton

/-- The record of a type has what its fields contribute, and says about the class what the
record of the type without fields says. -/
theorem evaluateNew_contributions {record : ClassMapping}
    (evaluated : evaluateNew className type = .ok record) :
    ∃ base, evaluateNew className (type.withFields []) = .ok base ∧ record.SameClass base ∧
      record.SameFields
        (ClassMapping.mapAll (type.fields.filterMap (contribution? base)) (.empty className)) := by
  obtain ⟨ofClass, ofFields, readClass, readFields, rfl⟩ := evaluateNew_eq_ok_iff.mp evaluated
  obtain ⟨sameClass, sameFields⟩ :=
    FieldSettings.applyAll_same (.refl (ofClass.apply className (.empty className))) ofFields
  refine ⟨_, evaluateNew_withFields_nil.mpr ⟨ofClass, readClass, rfl⟩, sameClass, ?_⟩
  rw [filterMap_step?_eq readFields] at sameFields
  exact sameFields.trans ((ofClass.apply_sameFields className _).mapAll _)

/-- The record of a type with a single field has what that field contributes. -/
theorem evaluateNew_single {base alone : ClassMapping}
    (evaluatedBase : evaluateNew className (type.withFields []) = .ok base)
    (evaluated : evaluateNew className (type.withFields [field]) = .ok alone) :
    alone.SameFields
      (ClassMapping.mapAll (contribution? base field).toList (.empty className)) := by
  obtain ⟨other, evaluatedOther, -, same⟩ := evaluateNew_contributions evaluated
  cases evaluatedBase.symm.trans evaluatedOther
  cases contributed : contribution? base field with
  | none => simpa [ObjectType.withFields, contributed] using same
  | some step => simpa [ObjectType.withFields, contributed] using same

end Evaluation

end EntityMapping.Settings
