import EntityMapping.Proofs.Settings.ReadSettings
import EntityMapping.Settings.Evaluation

/-!
# Evaluation keeps records well formed

Main statement: whatever types are evaluated one after another into the record of a
class, the record is well formed after each of them.
-/

namespace EntityMapping.Settings

open EntityMapping.Document
open EntityMapping.Record

variable {record : ClassMapping}

/-! ## Settings of a class -/

theorem KindSettings.apply_wellFormed (wellFormed : record.WellFormed) (kind : KindSettings) :
    (kind.apply record).WellFormed := by
  cases kind with
  | entity repositoryClass readOnly => exact { wellFormed with }
  | mappedSuperclass repositoryClass => exact { wellFormed with }
  | embeddable => exact { wellFormed with }

theorem InheritanceSettings.apply_wellFormed (wellFormed : record.WellFormed)
    (inheritance : InheritanceSettings) : (inheritance.apply record).WellFormed := by
  cases inheritance with
  | none => exact { wellFormed with discriminator := fun hierarchy => absurd rfl hierarchy }
  | hierarchy strategy discriminator classes =>
      exact { wellFormed with discriminator := fun _ => Option.some_ne_none discriminator }

theorem ClassSettings.apply_wellFormed {settings : ClassSettings} (className : String)
    (tables : ∀ table ∈ settings.table, table.WellFormed) (wellFormed : record.WellFormed) :
    (settings.apply className record).WellFormed := by
  have kind := settings.kind.apply_wellFormed wellFormed
  have table : ∀ table ∈ settings.table.or (settings.kind.apply record).table,
      table.WellFormed := by
    intro table member
    rcases Option.or_eq_some_iff.mp member with written | ⟨-, before⟩
    · exact tables table written
    · exact kind.table table before
  unfold ClassSettings.apply
  split
  · exact { kind with table := table }
  · rename_i inheritance _
    refine inheritance.apply_wellFormed ?_
    exact { kind with table := table }

/-! ## Settings of a field -/

namespace ColumnSettings

theorem stored_wellFormed (cache : Option CacheSettings) (settings : ColumnSettings) :
    (settings.stored cache).WellFormed := by
  have named := Keyed.lookup_insert_self "fieldName" (Json.text settings.column.fieldName)
    settings.column.attributes
  cases cache with
  | none => exact named
  | some cache =>
      exact (Keyed.lookup_insert_of_ne (cacheAttribute cache) _ (by decide)).trans named

theorem chooseGenerator_wellFormed (wellFormed : record.WellFormed) (generator : IdGenerator) :
    (chooseGenerator generator record).WellFormed := by
  unfold chooseGenerator
  split
  · exact { wellFormed with }
  · exact wellFormed

theorem applyKeySource_wellFormed (wellFormed : record.WellFormed) (source : KeySource) :
    (applyKeySource record source).WellFormed := by
  cases source with
  | unspecified => exact wellFormed
  | sequence definition =>
      have kept : { record with sequenceDefinition := some definition }.WellFormed :=
        { wellFormed with }
      exact chooseGenerator_wellFormed kept .sequence
  | custom className =>
      have kept : { record with customGenerator := some className }.WellFormed :=
        { wellFormed with }
      exact chooseGenerator_wellFormed kept .custom

theorem apply_wellFormed (wellFormed : record.WellFormed) (cache : Option CacheSettings)
    (settings : ColumnSettings) : (settings.apply cache record).WellFormed := by
  have generated :
      { record with idGenerator := settings.generator.getD record.idGenerator }.WellFormed :=
    { wellFormed with }
  apply applyKeySource_wellFormed
  refine generated.mapVersionedColumn (settings.stored_wellFormed cache) ?_
  split
  · exact Or.inr rfl
  · exact Or.inl rfl

end ColumnSettings

theorem FieldSettings.apply_wellFormed {settings : FieldSettings}
    (associations : ∀ association, settings.kind = .association association →
      association.WellFormed) (wellFormed : record.WellFormed) :
    (settings.apply record).WellFormed := by
  unfold FieldSettings.apply
  split
  · rename_i column _
    exact column.apply_wellFormed wellFormed _
  · rename_i association isAssociation
    exact wellFormed.mapAssociation { associations association isAssociation with }
  · rename_i embedded _
    exact wellFormed.mapEmbedded embedded
  · exact wellFormed

/-! ## Evaluation -/

theorem TypeSettings.apply_wellFormed {type : ObjectType} {settings : TypeSettings}
    (read : ofType type = .ok settings) (className : String) (wellFormed : record.WellFormed) :
    (settings.apply className record).WellFormed := by
  obtain ⟨ofClass, readClass, read⟩ := bind_eq_ok_iff.mp read
  obtain ⟨ofFields, readFields, read⟩ := bind_eq_ok_iff.mp read
  cases read
  have start := ClassSettings.apply_wellFormed className
    (ClassSettings.ofDirectives_table readClass) wellFormed
  refine List.foldlRecOn _ _ start fun record wellFormed settings member => ?_
  obtain ⟨field, -, readField⟩ := exists_of_mapM_eq_ok readFields settings member
  exact FieldSettings.apply_wellFormed
    (fun association => FieldSettings.ofField_association readField) wellFormed

theorem evaluate_wellFormed {className : String} {type : ObjectType} {next : ClassMapping}
    (wellFormed : record.WellFormed) (evaluated : evaluate className type record = .ok next) :
    next.WellFormed := by
  unfold evaluate at evaluated
  split at evaluated
  · rename_i settings read
    cases evaluated
    exact TypeSettings.apply_wellFormed read className wellFormed
  · cases evaluated

/-- Evaluate types one after another into a record. -/
def evaluateAll (className : String) (types : List ObjectType) (record : ClassMapping) :
    Except EvaluationError ClassMapping :=
  types.foldlM (fun record type => evaluate className type record) record

/-- The record of a class is well formed, whatever has been evaluated into it. -/
theorem evaluateAll_wellFormed {className : String} {types : List ObjectType}
    {final : ClassMapping}
    (evaluated : evaluateAll className types (.empty className) = .ok final) :
    final.WellFormed :=
  foldlM_preserves (fun _ _ _ => evaluate_wellFormed) (ClassMapping.wellFormed_empty className)
    evaluated

/-- A type whose only field is the identifier and the version. -/
def keyedType : ObjectType :=
  ⟨none, "A", [], [⟨"Entity", [], ⟨0, 0⟩⟩],
    [⟨none, "key", [], .named "Int",
      [⟨"Column", [], ⟨0, 0⟩⟩, ⟨"Id", [], ⟨0, 0⟩⟩, ⟨"Version", [], ⟨0, 0⟩⟩], ⟨0, 0⟩⟩], ⟨0, 0⟩⟩

/-- A type that maps the same field again, now as an association. -/
def linkedType : ObjectType :=
  ⟨none, "A", [], [⟨"Entity", [], ⟨0, 0⟩⟩],
    [⟨none, "key", [], .named "Part",
      [⟨"OneToMany", [⟨"targetEntity", .string "Part", ⟨0, 0⟩⟩,
        ⟨"mappedBy", .string "whole", ⟨0, 0⟩⟩], ⟨0, 0⟩⟩], ⟨0, 0⟩⟩], ⟨0, 0⟩⟩

theorem keyed_then_linked_wellFormed :
    ∃ record, evaluateAll "A" [keyedType, linkedType] (.empty "A") = .ok record ∧
      record.WellFormed := by
  have succeeds : (evaluateAll "A" [keyedType, linkedType] (.empty "A")).isOk = true := by
    decide
  cases evaluated : evaluateAll "A" [keyedType, linkedType] (.empty "A") with
  | error fault =>
      rw [evaluated] at succeeds
      cases succeeds
  | ok record => exact ⟨record, rfl, evaluateAll_wellFormed evaluated⟩

end EntityMapping.Settings
