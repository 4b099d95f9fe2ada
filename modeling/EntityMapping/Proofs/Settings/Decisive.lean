import EntityMapping.Proofs.Settings.Contribution

/-!
# The annotation that decides how a field is mapped

What the settings of a field have been read from: the directive of the annotation that
decides, and the annotations that go with it.
-/

namespace EntityMapping.Settings

open EntityMapping.Document
open EntityMapping.Record

theorem Marker.among_eq_none {directives : List Directive} {marker : Marker}
    (absent : marker.isAmong directives = false) : marker.among directives = none := by
  rwa [isAmong, Option.isSome_eq_false_iff, Option.isNone_iff_eq_none] at absent

namespace FieldSettings

variable {field : Field} {marker : Marker} {directive : Directive} {settings : FieldSettings}

theorem among_of_decisive? (decides : decisive? field = some (marker, directive)) :
    marker.among field.directives = some directive := by
  obtain ⟨other, -, found⟩ := List.exists_of_findSome?_eq_some decides
  obtain ⟨first, found, same⟩ := Option.map_eq_some_iff.mp found
  cases same
  exact found

/-- No annotation goes before that of a column. -/
theorem decisive?_of_column (found : Marker.column.among field.directives = some directive) :
    decisive? field = some (.column, directive) := by
  rw [decisive?, kindMarkers, List.findSome?_cons, found, Option.map_some]

/-- The settings of a field are read from the directives that it has. -/
theorem exists_of_ofField (read : ofField field = .ok settings) :
    settings.fieldName = field.name ∧
      CacheOverride.ofDirectives field.directives = .ok settings.cache ∧
      ∃ joinColumns, readJoin field = .ok joinColumns ∧
        readKind field joinColumns = .ok settings.kind := by
  unfold ofField at read
  split at read
  · cases read
  · obtain ⟨cache, readCache, read⟩ := bind_eq_ok_iff.mp read
    obtain ⟨joinColumns, readColumns, read⟩ := bind_eq_ok_iff.mp read
    obtain ⟨kind, ofKind, read⟩ := bind_eq_ok_iff.mp read
    cases read
    exact ⟨rfl, readCache, joinColumns, readColumns, ofKind⟩

/-! ## Columns -/

/-- A column is read from the directive of a column. -/
theorem exists_column_of_readKind {joinColumns : List JoinColumn} {column : ColumnSettings}
    (read : readKind field joinColumns = .ok (.column column)) :
    ∃ directive, Marker.column.among field.directives = some directive ∧
      readColumn field (.ofDirective directive) = .ok column := by
  unfold readKind at read
  split at read
  · cases read
  · rename_i marker directive decides
    have found := among_of_decisive? decides
    split at read
    case h_1 =>
      obtain ⟨inner, readInner, same⟩ := map_eq_ok_iff.mp read
      cases same
      exact ⟨directive, found, readInner⟩
    case h_7 => cases read
    all_goals
      obtain ⟨inner, -, same⟩ := map_eq_ok_iff.mp read
      cases same

theorem exists_column_of_ofField (read : ofField field = .ok settings) {column : ColumnSettings}
    (isColumn : settings.kind = .column column) :
    ∃ directive, Marker.column.among field.directives = some directive ∧
      readColumn field (.ofDirective directive) = .ok column := by
  obtain ⟨-, -, joinColumns, -, ofKind⟩ := exists_of_ofField read
  rw [isColumn] at ofKind
  exact exists_column_of_readKind ofKind

/-- A field that has the directive of a column is a column. -/
theorem exists_kind_of_column (read : ofField field = .ok settings)
    (found : Marker.column.among field.directives = some directive) :
    ∃ column, settings.kind = .column column := by
  obtain ⟨-, -, joinColumns, -, ofKind⟩ := exists_of_ofField read
  rw [readKind, decisive?_of_column found] at ofKind
  obtain ⟨column, -, same⟩ := map_eq_ok_iff.mp ofKind
  exact ⟨column, same.symm⟩

/-- The parts of a column are read one after another. -/
theorem exists_of_readColumn {arguments : Arguments} {column : ColumnSettings}
    (read : readColumn field arguments = .ok column) :
    ∃ columnName typeName, arguments.text? "name" = .ok columnName ∧
      arguments.text? "type" = .ok typeName ∧
      readGenerator field = .ok column.generator ∧
      readKeySource field = .ok column.keySource ∧
      column.isVersion = Marker.version.isAmong field.directives ∧
      column.column =
        ⟨field.name, columnName.getD field.name, typeName.getD Column.defaultType,
          Marker.id.isAmong field.directives, arguments.attributes⟩ := by
  obtain ⟨columnName, readName, read⟩ := bind_eq_ok_iff.mp read
  obtain ⟨typeName, readType, read⟩ := bind_eq_ok_iff.mp read
  obtain ⟨generator, ofGenerator, read⟩ := bind_eq_ok_iff.mp read
  obtain ⟨keySource, ofSource, read⟩ := bind_eq_ok_iff.mp read
  cases read
  exact ⟨columnName, typeName, readName, readType, ofGenerator, ofSource, rfl, rfl⟩

theorem readGenerator_of_absent
    (absent : Marker.generatedValue.isAmong field.directives = false) :
    readGenerator field = .ok none := by
  rw [readGenerator, Marker.among_eq_none absent]

theorem readKeySource_of_absent
    (noSequence : Marker.sequenceGenerator.isAmong field.directives = false)
    (noCustom : Marker.customGenerator.isAmong field.directives = false) :
    readKeySource field = .ok .unspecified := by
  rw [readKeySource, Marker.among_eq_none noSequence, Marker.among_eq_none noCustom]

end FieldSettings

/-- A field contributes the call that its settings make of it. -/
theorem exists_settings_of_contribution? {record : ClassMapping} {field : Field}
    {step : MappingStep} (contributed : contribution? record field = some step) :
    ∃ settings, FieldSettings.ofField field = .ok settings ∧
      settings.step? record = some step := by
  cases read : FieldSettings.ofField field with
  | error fault =>
      rw [contribution?, read] at contributed
      cases contributed
  | ok settings => exact ⟨settings, rfl, (contribution?_eq_step? read record) ▸ contributed⟩

end EntityMapping.Settings
