import EntityMapping.Proofs.Record.Identifier
import EntityMapping.Proofs.Settings.ReadSettings
import EntityMapping.Settings.Evaluation

/-!
# The identifier of an evaluated type

Evaluating a type maps its fields one after another, so the identifier of the record is
that of a run of mapping calls, each for a field of the type.
-/

namespace EntityMapping.Settings

open EntityMapping.Document
open EntityMapping.Record

/-! ## What a field is mapped as -/

/-- A field is mapped under the given name, if it is mapped at all. -/
def FieldKind.Names (fieldName : String) : FieldKind → Prop
  | column settings => settings.column.fieldName = fieldName
  | association mapped => mapped.fieldName = fieldName
  | embedded mapped => mapped.fieldName = fieldName
  | transient => True

namespace FieldSettings

variable {field : Field} {joinColumns : List JoinColumn} {arguments : Arguments}
  {association : Association}

theorem readColumn_fieldName {settings : ColumnSettings}
    (read : readColumn field arguments = .ok settings) :
    settings.column.fieldName = field.name := by
  obtain ⟨columnName, -, read⟩ := bind_eq_ok_iff.mp read
  obtain ⟨typeName, -, read⟩ := bind_eq_ok_iff.mp read
  obtain ⟨generator, -, read⟩ := bind_eq_ok_iff.mp read
  obtain ⟨keySource, -, read⟩ := bind_eq_ok_iff.mp read
  cases read
  rfl

theorem readOneToOne_fieldName (read : readOneToOne field joinColumns arguments = .ok association) :
    association.fieldName = field.name := by
  obtain ⟨plain, readPlain, read⟩ := bind_eq_ok_iff.mp read
  obtain ⟨sides, -, read⟩ := bind_eq_ok_iff.mp read
  obtain ⟨orphanRemoval, -, read⟩ := bind_eq_ok_iff.mp read
  obtain ⟨target, cascade, fetch, rfl⟩ := readAssociation_eq_plain readPlain
  cases read
  rfl

theorem readOneToMany_fieldName (read : readOneToMany field arguments = .ok association) :
    association.fieldName = field.name := by
  obtain ⟨plain, readPlain, read⟩ := bind_eq_ok_iff.mp read
  obtain ⟨mappedBy, -, read⟩ := bind_eq_ok_iff.mp read
  obtain ⟨indexBy, -, read⟩ := bind_eq_ok_iff.mp read
  obtain ⟨orphanRemoval, -, read⟩ := bind_eq_ok_iff.mp read
  obtain ⟨orderBy, -, read⟩ := bind_eq_ok_iff.mp read
  obtain ⟨target, cascade, fetch, rfl⟩ := readAssociation_eq_plain readPlain
  cases read
  rfl

theorem readManyToOne_fieldName
    (read : readManyToOne field joinColumns arguments = .ok association) :
    association.fieldName = field.name := by
  obtain ⟨plain, readPlain, read⟩ := bind_eq_ok_iff.mp read
  obtain ⟨inversedBy, -, read⟩ := bind_eq_ok_iff.mp read
  obtain ⟨target, cascade, fetch, rfl⟩ := readAssociation_eq_plain readPlain
  cases read
  rfl

theorem readManyToMany_fieldName (read : readManyToMany field arguments = .ok association) :
    association.fieldName = field.name := by
  obtain ⟨plain, readPlain, read⟩ := bind_eq_ok_iff.mp read
  obtain ⟨sides, -, read⟩ := bind_eq_ok_iff.mp read
  obtain ⟨indexBy, -, read⟩ := bind_eq_ok_iff.mp read
  obtain ⟨orphanRemoval, -, read⟩ := bind_eq_ok_iff.mp read
  obtain ⟨orderBy, -, read⟩ := bind_eq_ok_iff.mp read
  obtain ⟨joinTable, -, read⟩ := bind_eq_ok_iff.mp read
  obtain ⟨target, cascade, fetch, rfl⟩ := readAssociation_eq_plain readPlain
  cases read
  rfl

theorem readEmbedded_fieldName {fieldName : String} {embedded : Embedded}
    (read : readEmbedded fieldName arguments = .ok embedded) : embedded.fieldName = fieldName := by
  obtain ⟨className, -, read⟩ := bind_eq_ok_iff.mp read
  obtain ⟨columnPrefix, -, read⟩ := bind_eq_ok_iff.mp read
  cases read
  rfl

theorem readKind_names {kind : FieldKind} (read : readKind field joinColumns = .ok kind) :
    kind.Names field.name := by
  unfold readKind at read
  split at read
  · cases read
    exact trivial
  · split at read
    · obtain ⟨settings, readInner, rfl⟩ := map_eq_ok_iff.mp read
      exact readColumn_fieldName readInner
    · obtain ⟨inner, readInner, rfl⟩ := map_eq_ok_iff.mp read
      exact readOneToOne_fieldName readInner
    · obtain ⟨inner, readInner, rfl⟩ := map_eq_ok_iff.mp read
      exact readOneToMany_fieldName readInner
    · obtain ⟨inner, readInner, rfl⟩ := map_eq_ok_iff.mp read
      exact readManyToOne_fieldName readInner
    · obtain ⟨inner, readInner, rfl⟩ := map_eq_ok_iff.mp read
      exact readManyToMany_fieldName readInner
    · obtain ⟨inner, readInner, rfl⟩ := map_eq_ok_iff.mp read
      exact readEmbedded_fieldName readInner
    · cases read
      exact trivial

theorem ofField_names {settings : FieldSettings} (read : ofField field = .ok settings) :
    settings.kind.Names field.name := by
  unfold ofField at read
  split at read
  · cases read
  · obtain ⟨cache, -, read⟩ := bind_eq_ok_iff.mp read
    obtain ⟨joinColumns, -, read⟩ := bind_eq_ok_iff.mp read
    obtain ⟨kind, readKind, read⟩ := bind_eq_ok_iff.mp read
    cases read
    exact readKind_names readKind

end FieldSettings

/-! ## Evaluation as a run of mapping calls -/

theorem ColumnSettings.chooseGenerator_sameFields (generator : IdGenerator)
    (record : ClassMapping) : (chooseGenerator generator record).SameFields record := by
  unfold chooseGenerator
  split
  · exact ⟨rfl, rfl, rfl, rfl⟩
  · exact .refl record

theorem ColumnSettings.applyKeySource_sameFields (record : ClassMapping) (source : KeySource) :
    (applyKeySource record source).SameFields record := by
  cases source with
  | unspecified => exact .refl record
  | sequence definition =>
      exact (chooseGenerator_sameFields .sequence _).trans ⟨rfl, rfl, rfl, rfl⟩
  | custom className => exact (chooseGenerator_sameFields .custom _).trans ⟨rfl, rfl, rfl, rfl⟩

theorem ColumnSettings.apply_sameFields (cache : Option CacheSettings)
    (settings : ColumnSettings) (record : ClassMapping) :
    (settings.apply cache record).SameFields (record.mapColumn (settings.stored cache)) := by
  have unchanged :
      { record with
        idGenerator := settings.generator.getD record.idGenerator
        versionField :=
          if settings.isVersion then some settings.column.fieldName
          else record.versionField }.SameFields record :=
    ⟨rfl, rfl, rfl, rfl⟩
  exact (applyKeySource_sameFields _ settings.keySource).trans
    (unchanged.apply (.column (settings.stored cache)))

/-- Applying the settings of a field maps it by at most one call. -/
theorem FieldSettings.apply_steps {fieldName : String} {settings : FieldSettings}
    (names : settings.kind.Names fieldName) (record : ClassMapping) :
    ∃ steps, (steps.map MappingStep.fieldName).Sublist [fieldName] ∧
      (settings.apply record).SameFields (record.mapAll steps) := by
  obtain ⟨settingsName, cache, kind⟩ := settings
  cases kind with
  | column column =>
      obtain rfl : column.column.fieldName = fieldName := names
      exact ⟨[.column (column.stored _)], .refl _, column.apply_sameFields _ record⟩
  | association association =>
      obtain rfl : association.fieldName = fieldName := names
      let cached : Association :=
        { association with cache := cache.map (·.withDefaults (record.associationCache settingsName)) }
      exact ⟨[.association cached], .refl _, .refl (record.mapAssociation cached)⟩
  | embedded embedded =>
      obtain rfl : embedded.fieldName = fieldName := names
      exact ⟨[.embedded embedded], .refl _, .refl _⟩
  | transient => exact ⟨[], List.nil_sublist _, .refl record⟩

theorem KindSettings.apply_sameFields (record : ClassMapping) (kind : KindSettings) :
    (kind.apply record).SameFields record := by
  cases kind with
  | entity repositoryClass readOnly => exact ⟨rfl, rfl, rfl, rfl⟩
  | mappedSuperclass repositoryClass => exact ⟨rfl, rfl, rfl, rfl⟩
  | embeddable => exact ⟨rfl, rfl, rfl, rfl⟩

theorem InheritanceSettings.apply_sameFields (record : ClassMapping)
    (inheritance : InheritanceSettings) : (inheritance.apply record).SameFields record := by
  cases inheritance with
  | none => exact ⟨rfl, rfl, rfl, rfl⟩
  | hierarchy strategy discriminator classes => exact ⟨rfl, rfl, rfl, rfl⟩

/-- The settings of a class leave its fields alone. -/
theorem ClassSettings.apply_sameFields (className : String) (settings : ClassSettings)
    (record : ClassMapping) : (settings.apply className record).SameFields record := by
  have kind := settings.kind.apply_sameFields record
  unfold ClassSettings.apply
  split
  · exact { kind with }
  · rename_i inheritance _
    exact (inheritance.apply_sameFields _).trans { kind with }

/-- The fields of a type are mapped one after another, each by at most one call. -/
theorem applyFields_steps {fields : List Field} {settings : List FieldSettings}
    (read : fields.mapM FieldSettings.ofField = .ok settings) (record : ClassMapping) :
    ∃ steps, (steps.map MappingStep.fieldName).Sublist (fields.map Field.name) ∧
      (settings.foldl (fun record field => field.apply record) record).SameFields
        (record.mapAll steps) := by
  induction fields generalizing settings record with
  | nil =>
      cases read
      exact ⟨[], List.nil_sublist _, .refl record⟩
  | cons field fields ih =>
      rw [List.mapM_cons] at read
      obtain ⟨first, readFirst, read⟩ := bind_eq_ok_iff.mp read
      obtain ⟨others, readOthers, read⟩ := bind_eq_ok_iff.mp read
      cases read
      obtain ⟨step, stepNames, sameFirst⟩ :=
        FieldSettings.apply_steps (FieldSettings.ofField_names readFirst) record
      obtain ⟨steps, names, sameOthers⟩ := ih readOthers (first.apply record)
      refine ⟨step ++ steps, ?_, ?_⟩
      · rw [List.map_append]
        exact stepNames.append names
      · rw [ClassMapping.mapAll, List.foldl_append]
        exact sameOthers.trans (sameFirst.mapAll steps)

/-- The record of a new class is that of a run of mapping calls for fields of the type. -/
theorem evaluateNew_steps {className : String} {type : ObjectType} {record : ClassMapping}
    (evaluated : evaluateNew className type = .ok record) :
    ∃ steps, (steps.map MappingStep.fieldName).Sublist (type.fields.map Field.name) ∧
      record.SameFields (ClassMapping.mapAll steps (.empty className)) := by
  unfold evaluateNew evaluate at evaluated
  split at evaluated
  · rename_i settings read
    cases evaluated
    obtain ⟨ofClass, -, read⟩ := bind_eq_ok_iff.mp read
    obtain ⟨ofFields, readFields, read⟩ := bind_eq_ok_iff.mp read
    cases read
    obtain ⟨steps, names, same⟩ :=
      applyFields_steps readFields (ofClass.apply className (.empty className))
    exact ⟨steps, names, same.trans ((ofClass.apply_sameFields className _).mapAll steps)⟩
  · cases evaluated

/-! ## The identifier -/

/-- The identifier of a record has the names of all mapping calls with the flag of an
identifier, and so those of all fields that have the flag in the end.  If no call takes
back a flag, and in particular if the fields of an evaluated type have distinct names, it
has no others. -/
theorem identifier_of_mapped (className : String) :
    (∀ steps : List MappingStep,
      (∀ fieldName, fieldName ∈ (ClassMapping.mapAll steps (.empty className)).identifier ↔
        ∃ step ∈ steps, step.isId = true ∧ fieldName = step.fieldName) ∧
      (∀ fieldName, (ClassMapping.mapAll steps (.empty className)).HasIdFlag fieldName →
        fieldName ∈ (ClassMapping.mapAll steps (.empty className)).identifier) ∧
      (steps.Pairwise MappingStep.KeepsFlag →
        (ClassMapping.mapAll steps (.empty className)).IdentifierAgrees)) ∧
    ∀ (type : ObjectType) (record : ClassMapping), evaluateNew className type = .ok record →
      (∃ steps, (steps.map MappingStep.fieldName).Sublist (type.fields.map Field.name) ∧
        record.SameFields (ClassMapping.mapAll steps (.empty className))) ∧
      (∀ fieldName, record.HasIdFlag fieldName → fieldName ∈ record.identifier) ∧
      ((type.fields.map Field.name).Nodup → record.IdentifierAgrees) := by
  constructor
  · exact fun steps => ⟨ClassMapping.mem_identifier_mapAll className steps,
      fun _ => ClassMapping.mem_identifier_of_hasIdFlag,
      ClassMapping.identifierAgrees_mapAll className⟩
  · intro type record evaluated
    obtain ⟨steps, names, same⟩ := evaluateNew_steps evaluated
    refine ⟨⟨steps, names, same⟩, fun fieldName flagged => ?_, fun distinct fieldName => ?_⟩
    · rw [same.identifier]
      exact ClassMapping.mem_identifier_of_hasIdFlag ((same.hasIdFlag_iff fieldName).mp flagged)
    · have apart : steps.Pairwise fun earlier later => earlier.fieldName ≠ later.fieldName :=
        List.pairwise_map.mp (distinct.sublist names)
      have keep : steps.Pairwise MappingStep.KeepsFlag :=
        apart.imp fun different replaces => absurd replaces.fieldName_eq.symm different
      rw [same.identifier, same.hasIdFlag_iff]
      exact ClassMapping.identifierAgrees_mapAll className keep fieldName

/-- A type whose identifier is one of its two fields. -/
def memberType : ObjectType :=
  ⟨none, "Member", [], [⟨"Entity", [], ⟨0, 0⟩⟩],
    [⟨none, "key", [], .named "ID",
        [⟨"Column", [], ⟨0, 0⟩⟩, ⟨"Id", [], ⟨0, 0⟩⟩], ⟨0, 0⟩⟩,
      ⟨none, "name", [], .named "String", [⟨"Column", [], ⟨0, 0⟩⟩], ⟨0, 0⟩⟩], ⟨0, 0⟩⟩

/-- The identifier of a type with distinct fields, and of a record in which the identifier
is mapped twice. -/
theorem memberType_identifier :
    (∃ record, evaluateNew "Member" memberType = .ok record ∧ record.IdentifierAgrees) ∧
      (ClassMapping.mapAll [.column ⟨"key", "key", "integer", true, []⟩,
        .column ⟨"key", "id", "string", true, []⟩] (.empty "Member")).IdentifierAgrees := by
  have keep : [MappingStep.column ⟨"key", "key", "integer", true, []⟩,
      .column ⟨"key", "id", "string", true, []⟩].Pairwise MappingStep.KeepsFlag := by
    simp [MappingStep.KeepsFlag, MappingStep.isId]
  have distinct : (memberType.fields.map Field.name).Nodup := by decide
  have succeeds : (evaluateNew "Member" memberType).isOk = true := by decide
  refine ⟨?_, ((identifier_of_mapped "Member").1 _).2.2 keep⟩
  cases evaluated : evaluateNew "Member" memberType with
  | error fault =>
      rw [evaluated] at succeeds
      cases succeeds
  | ok record =>
      exact ⟨record, rfl,
        ((identifier_of_mapped "Member").2 memberType record evaluated).2.2 distinct⟩

/-- A type with the same field twice, first with the flag of an identifier and then
without it. -/
def remappedType : ObjectType :=
  ⟨none, "User", [], [⟨"Entity", [], ⟨0, 0⟩⟩],
    [⟨none, "a", [], .named "ID",
        [⟨"Column", [], ⟨0, 0⟩⟩, ⟨"Id", [], ⟨0, 0⟩⟩], ⟨0, 0⟩⟩,
      ⟨none, "a", [], .named "ID", [⟨"Column", [], ⟨0, 0⟩⟩], ⟨0, 0⟩⟩], ⟨0, 0⟩⟩

/-- The name stays in the identifier although the flag is gone. -/
theorem remappedType_identifier :
    ∃ record, evaluateNew "User" remappedType = .ok record ∧ "a" ∈ record.identifier ∧
      ¬ record.HasIdFlag "a" := by
  have outcome : (evaluateNew "User" remappedType).map (fun record =>
      (record.identifier, (record.column? "a").map Column.isId,
        (record.association? "a").map Association.isId)) =
      .ok (["a"], some false, none) := by
    rfl
  obtain ⟨record, evaluated, parts⟩ := map_eq_ok_iff.mp outcome
  simp only [Prod.mk.injEq] at parts
  obtain ⟨isIdentifier, ofColumn, noAssociation⟩ := parts
  refine ⟨record, evaluated, ?_, ?_⟩
  · rw [isIdentifier]
    exact List.mem_cons_self
  · rintro (⟨column, found, flagged⟩ | ⟨association, found, -⟩)
    · rw [found, Option.map_some, flagged] at ofColumn
      cases ofColumn
    · rw [found] at noAssociation
      cases noAssociation

end EntityMapping.Settings
