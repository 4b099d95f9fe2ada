import EntityMapping.Record.ClassMapping

/-!
# Well-formed records

What holds of the parts of a record together: names are distinct, the identifier and
the version are mapped fields, a hierarchy has a discriminator, and associations have
only the settings that go with their cardinality.  Main statement: mapping one more
field keeps a record well formed.
-/

namespace EntityMapping.Record

/-- An index over at least one column or field. -/
def Index.WellFormed (index : Index) : Prop :=
  index.columns ≠ [] ∨ index.fields ≠ []

/-- A table with well-formed indexes and unique constraints. -/
structure Table.WellFormed (table : Table) : Prop where
  indexes : ∀ index ∈ table.indexes, index.WellFormed
  uniqueConstraints : ∀ index ∈ table.uniqueConstraints, index.WellFormed

/-- A column whose attributes hold the name of its field. -/
def Column.WellFormed (column : Column) : Prop :=
  column.attribute? "fieldName" = some (.text column.fieldName)

/-- An association with only the settings that go with its cardinality. -/
structure Association.WellFormed (association : Association) : Prop where
  oneSide : association.mappedBy = none ∨ association.inversedBy = none
  oneToOne : association.cardinality = .oneToOne →
    association.indexBy = none ∧ association.joinTable = none ∧ association.orderBy = []
  oneToMany : association.cardinality = .oneToMany →
    association.mappedBy ≠ none ∧ association.joinColumns = [] ∧
      association.joinTable = none ∧ association.isId = false
  manyToOne : association.cardinality = .manyToOne →
    association.mappedBy = none ∧ association.indexBy = none ∧
      association.joinTable = none ∧ association.orderBy = []
  manyToMany : association.cardinality = .manyToMany →
    association.joinColumns = [] ∧ association.isId = false

/-- A record whose parts go together. -/
structure ClassMapping.WellFormed (record : ClassMapping) : Prop where
  columnNames : (record.columns.map Column.fieldName).Nodup
  associationNames : (record.associations.map Association.fieldName).Nodup
  embeddedNames : (record.embedded.map Embedded.fieldName).Nodup
  identifierNames : record.identifier.Nodup
  identifierColumns : ∀ column ∈ record.columns, column.isId = true →
    column.fieldName ∈ record.identifier
  identifierAssociations : ∀ association ∈ record.associations, association.isId = true →
    association.fieldName ∈ record.identifier
  version : ∀ name ∈ record.versionField, name ∈ record.columns.map Column.fieldName
  discriminator : record.inheritance ≠ .none → record.discriminator ≠ none
  table : ∀ table ∈ record.table, table.WellFormed
  columns : ∀ column ∈ record.columns, column.WellFormed
  associations : ∀ association ∈ record.associations, association.WellFormed

namespace ClassMapping

theorem wellFormed_empty (name : String) : (empty name).WellFormed where
  columnNames := List.nodup_nil
  associationNames := List.nodup_nil
  embeddedNames := List.nodup_nil
  identifierNames := List.nodup_nil
  identifierColumns := List.forall_mem_nil _
  identifierAssociations := List.forall_mem_nil _
  version := nofun
  discriminator := fun hierarchy => absurd rfl hierarchy
  table := nofun
  columns := List.forall_mem_nil _
  associations := List.forall_mem_nil _

/-! ## Mapping fields -/

variable {record : ClassMapping}

/-- A name in the identifier does no harm, whether or not a field needs it there. -/
theorem WellFormed.addIdentifier (wellFormed : record.WellFormed) (isId : Bool)
    (fieldName : String) : (record.addIdentifier isId fieldName).WellFormed := by
  have kept : ∀ name ∈ record.identifier,
      name ∈ (record.addIdentifier isId fieldName).identifier := fun name member =>
    (mem_identifier_addIdentifier isId fieldName name record).mpr (Or.inl member)
  have distinct := nodup_identifier_addIdentifier isId fieldName wellFormed.identifierNames
  unfold ClassMapping.addIdentifier at kept distinct ⊢
  split
  · rename_i added
    rw [if_pos added] at kept distinct
    exact
      { wellFormed with
        identifierNames := distinct
        identifierColumns := fun column member isId =>
          kept column.fieldName (wellFormed.identifierColumns column member isId)
        identifierAssociations := fun association member isId =>
          kept association.fieldName (wellFormed.identifierAssociations association member isId) }
  · exact wellFormed

theorem mem_identifier_addIdentifier_self {isId : Bool} (flagged : isId = true)
    (fieldName : String) (record : ClassMapping) :
    fieldName ∈ (record.addIdentifier isId fieldName).identifier :=
  (mem_identifier_addIdentifier isId fieldName fieldName record).mpr (Or.inr ⟨flagged, rfl⟩)

theorem WellFormed.mapColumn (wellFormed : record.WellFormed) {column : Column}
    (columnWellFormed : column.WellFormed) : (record.mapColumn column).WellFormed := by
  have base := wellFormed.addIdentifier column.isId column.fieldName
  have columns : ∀ other ∈ (record.mapColumn column).columns,
      other = column ∨ other ∈ (record.addIdentifier column.isId column.fieldName).columns :=
    fun other member => Named.eq_or_mem_of_mem_put member
  exact
    { base with
      columnNames := Named.nodup_names_put Column.fieldName column base.columnNames
      identifierColumns := by
        intro other member isId
        rcases columns other member with rfl | before
        · exact mem_identifier_addIdentifier_self isId other.fieldName record
        · exact base.identifierColumns other before isId
      version := fun name versioned =>
        (Named.mem_names_put Column.fieldName column _ name).mpr
          (Or.inl (base.version name versioned))
      columns := by
        intro other member
        rcases columns other member with rfl | before
        · exact columnWellFormed
        · exact base.columns other before }

theorem WellFormed.mapAssociation (wellFormed : record.WellFormed) {association : Association}
    (associationWellFormed : association.WellFormed) :
    (record.mapAssociation association).WellFormed := by
  have base := wellFormed.addIdentifier association.isId association.fieldName
  have associations : ∀ other ∈ (record.mapAssociation association).associations,
      other = association ∨
        other ∈ (record.addIdentifier association.isId association.fieldName).associations :=
    fun other member => Named.eq_or_mem_of_mem_put member
  exact
    { base with
      associationNames :=
        Named.nodup_names_put Association.fieldName association base.associationNames
      identifierAssociations := by
        intro other member isId
        rcases associations other member with rfl | before
        · exact mem_identifier_addIdentifier_self isId other.fieldName record
        · exact base.identifierAssociations other before isId
      associations := by
        intro other member
        rcases associations other member with rfl | before
        · exact associationWellFormed
        · exact base.associations other before }

theorem WellFormed.mapEmbedded (wellFormed : record.WellFormed) (embedded : Embedded) :
    (record.mapEmbedded embedded).WellFormed :=
  { wellFormed with
    embeddedNames := Named.nodup_names_put Embedded.fieldName embedded wellFormed.embeddedNames }

/-! ## Versions -/

/-- Which field is the version does not matter to the columns. -/
theorem mapColumn_versionField (column : Column) (version : Option String)
    (record : ClassMapping) :
    { record with versionField := version }.mapColumn column =
      { record.mapColumn column with versionField := version } := by
  simp only [ClassMapping.mapColumn, ClassMapping.addIdentifier]
  split <;> rfl

/-- The field that is stored in a column may become the version. -/
theorem WellFormed.mapVersionedColumn (wellFormed : record.WellFormed) {column : Column}
    (columnWellFormed : column.WellFormed) {version : Option String}
    (versioned : version = record.versionField ∨ version = some column.fieldName) :
    ({ record with versionField := version }.mapColumn column).WellFormed := by
  have mapped := wellFormed.mapColumn columnWellFormed
  rw [mapColumn_versionField]
  rcases versioned with rfl | rfl
  · have kept : (record.mapColumn column).versionField = record.versionField := by
      simp only [ClassMapping.mapColumn, ClassMapping.addIdentifier]
      split <;> rfl
    rw [← kept]
    exact mapped
  · exact
      { mapped with
        version := by
          rintro name same
          cases same
          exact (Named.mem_names_put Column.fieldName column _ column.fieldName).mpr
            (Or.inr rfl) }

end ClassMapping

end EntityMapping.Record
