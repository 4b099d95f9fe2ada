import EntityMapping.Record.ClassMapping

/-!
# Mapping records as data

The form in which records are handed on.
-/

namespace EntityMapping.Record

/-- The written form of a value of a vocabulary, as data. -/
def Vocabulary.toJson {α : Type} [Vocabulary α] (value : α) : Json :=
  .text (text value)

def Index.toJson (index : Index) : Json :=
  .ofEntries
    [("name", .ofText? index.name), ("columns", .ofTexts index.columns),
     ("fields", .ofTexts index.fields), ("flags", .ofTexts index.flags),
     ("options", .object index.options)]

def Table.toJson (table : Table) : Json :=
  .ofEntries
    [("name", .ofText? table.name), ("schema", .ofText? table.schema),
     ("indexes", .array (table.indexes.map Index.toJson)),
     ("unique_constraints", .array (table.uniqueConstraints.map Index.toJson)),
     ("options", .object table.options)]

def CacheSettings.toJson (cache : CacheSettings) : Json :=
  .ofEntries [("usage", Vocabulary.toJson cache.usage), ("region", .text cache.region)]

def Discriminator.toJson (discriminator : Discriminator) : Json :=
  .ofEntries
    [("name", .text discriminator.column), ("type_name", .text discriminator.type),
     ("length", discriminator.length.elim .null fun length => .integer length)]

def NamedQuery.toJson (query : NamedQuery) : Json :=
  .ofEntries [("name", .text query.name), ("query", .text query.query)]

def NativeQuery.toJson (query : NativeQuery) : Json :=
  .ofEntries
    [("name", .text query.name), ("query", .text query.query),
     ("result_class", .ofText? query.resultClass),
     ("result_set_mapping", .ofText? query.resultSetMapping)]

def ResultSetMapping.toJson (mapping : ResultSetMapping) : Json :=
  .ofEntries
    [("name", .text mapping.name), ("entities", .array mapping.entities),
     ("columns", .array mapping.columns)]

def Column.toJson (column : Column) : Json :=
  .ofEntries
    [("field_name", .text column.fieldName), ("column_name", .text column.columnName),
     ("type_name", .text column.typeName), ("id", .boolean column.isId),
     ("attributes", .object column.attributes)]

def JoinColumn.toJson (column : JoinColumn) : Json :=
  .ofEntries
    [("name", .text column.name),
     ("referenced_column_name", .ofText? column.referencedColumn),
     ("unique", .boolean column.isUnique), ("nullable", .boolean column.isNullable),
     ("on_delete", .ofText? column.onDelete),
     ("column_definition", .ofText? column.columnDefinition)]

def JoinTable.toJson (table : JoinTable) : Json :=
  .ofEntries
    [("name", .ofText? table.name), ("schema", .ofText? table.schema),
     ("join_columns", .array (table.joinColumns.map JoinColumn.toJson)),
     ("inverse_join_columns", .array (table.inverseJoinColumns.map JoinColumn.toJson))]

def OrderTerm.toJson (term : OrderTerm) : Json :=
  .ofEntries [("field", .text term.field), ("direction", Vocabulary.toJson term.direction)]

def Association.toJson (association : Association) : Json :=
  .ofEntries
    [("field_name", .text association.fieldName),
     ("kind", .text association.cardinality.text),
     ("target_entity", .text association.targetEntity),
     ("mapped_by", .ofText? association.mappedBy),
     ("inversed_by", .ofText? association.inversedBy),
     ("cascade", .ofTexts association.cascade),
     ("fetch", Vocabulary.toJson association.fetch),
     ("orphan_removal", .boolean association.orphanRemoval),
     ("id", .boolean association.isId),
     ("join_columns", .array (association.joinColumns.map JoinColumn.toJson)),
     ("join_table", association.joinTable.elim .null JoinTable.toJson),
     ("index_by", .ofText? association.indexBy),
     ("order_by", .array (association.orderBy.map OrderTerm.toJson)),
     ("cache", association.cache.elim .null CacheSettings.toJson)]

def ColumnPrefix.toJson : ColumnPrefix → Json
  | .default => .text "default"
  | .disabled => .text "disabled"
  | .custom text => .ofEntries [("custom", .text text)]

def Embedded.toJson (embedded : Embedded) : Json :=
  .ofEntries
    [("field_name", .text embedded.fieldName), ("class", .text embedded.className),
     ("column_prefix", embedded.columnPrefix.toJson)]

/-- The class of a custom generator as data. -/
def customGeneratorJson (className : String) : Json :=
  .ofEntries [("class", .text className)]

def ClassMapping.toJson (record : ClassMapping) : Json :=
  .ofEntries
    [("name", .text record.name), ("kind", .text record.kind.text),
     ("custom_repository_class", .ofText? record.repositoryClass),
     ("read_only", .boolean record.readOnly),
     ("primary_table", record.table.elim .null Table.toJson),
     ("cache", record.cache.elim .null CacheSettings.toJson),
     ("inheritance_type", Vocabulary.toJson record.inheritance),
     ("discriminator_column", record.discriminator.elim .null Discriminator.toJson),
     ("discriminator_map",
       .object (record.discriminatorMap.map fun entry => (entry.1, .text entry.2))),
     ("change_tracking_policy", Vocabulary.toJson record.changeTracking),
     ("named_queries", .array (record.namedQueries.map NamedQuery.toJson)),
     ("named_native_queries", .array (record.nativeQueries.map NativeQuery.toJson)),
     ("sql_result_set_mappings",
       .array (record.resultSetMappings.map ResultSetMapping.toJson)),
     ("field_mappings", .array (record.columns.map Column.toJson)),
     ("association_mappings", .array (record.associations.map Association.toJson)),
     ("embedded_classes", .array (record.embedded.map Embedded.toJson)),
     ("identifier", .ofTexts record.identifier),
     ("id_generator_type", Vocabulary.toJson record.idGenerator),
     ("sequence_generator_definition", record.sequenceDefinition.elim .null .object),
     ("custom_generator_definition", record.customGenerator.elim .null customGeneratorJson),
     ("version_field", .ofText? record.versionField)]

/-- What can be told from a record: about the class, its columns, its associations
and its embedded values. -/
def ClassMapping.derivedJson (record : ClassMapping) : Json :=
  .ofEntries
    [("table_name", .ofText? record.tableName?),
     ("composite", .boolean record.hasCompositeIdentifier),
     ("versioned", .boolean record.isVersioned),
     ("mapped_superclass", .boolean (record.kind == .mappedSuperclass)),
     ("embeddable", .boolean (record.kind == .embeddable)),
     ("fields", .array (record.columns.map fun column =>
       .array [.text column.fieldName, .boolean column.isNullable, .boolean column.isUnique,
         column.length?.elim .null fun length => .integer length])),
     ("associations", .array (record.associations.map fun association =>
       .array [.text association.fieldName, .boolean association.isOwningSide,
         .boolean association.cardinality.isToOne])),
     ("embedded", .array (record.embedded.map fun embedded =>
       .array [.text embedded.fieldName, .text embedded.resolvedPrefix]))]

end EntityMapping.Record
