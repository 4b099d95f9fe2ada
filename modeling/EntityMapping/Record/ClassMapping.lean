import EntityMapping.Named
import EntityMapping.Record.MappedField

/-!
# The mapping record of a class

All that is known about how a class is stored.  Each field has at most one
column, one association and one embedded value; mapping it again replaces the
entry in place.  Main statements: what one mapping step does to each list of
names.
-/

namespace EntityMapping.Record

/-- The mapping record of a class. -/
structure ClassMapping where
  name : String
  kind : EntityKind
  repositoryClass : Option String
  readOnly : Bool
  table : Option Table
  cache : Option CacheSettings
  inheritance : Inheritance
  discriminator : Option Discriminator
  /-- Class names by discriminator value. -/
  discriminatorMap : Keyed String
  changeTracking : ChangeTracking
  namedQueries : List NamedQuery
  nativeQueries : List NativeQuery
  resultSetMappings : List ResultSetMapping
  columns : List Column
  associations : List Association
  embedded : List Embedded
  /-- Names of the fields that make up the identifier. -/
  identifier : List String
  idGenerator : IdGenerator
  sequenceDefinition : Option Attributes
  /-- The class of a custom identifier generator. -/
  customGenerator : Option String
  versionField : Option String

namespace ClassMapping

/-- The record of a class about which nothing is known yet. -/
def empty (name : String) : ClassMapping where
  name := name
  kind := .entity
  repositoryClass := none
  readOnly := false
  table := none
  cache := none
  inheritance := .none
  discriminator := none
  discriminatorMap := []
  changeTracking := .deferredImplicit
  namedQueries := []
  nativeQueries := []
  resultSetMappings := []
  columns := []
  associations := []
  embedded := []
  identifier := []
  idGenerator := .none
  sequenceDefinition := none
  customGenerator := none
  versionField := none

/-- Let a field belong to the identifier, if it is said to. -/
def addIdentifier (isId : Bool) (fieldName : String) (record : ClassMapping) : ClassMapping :=
  if isId && !record.identifier.contains fieldName then
    { record with identifier := record.identifier ++ [fieldName] }
  else record

/-- Store a field in a column. -/
def mapColumn (column : Column) (record : ClassMapping) : ClassMapping :=
  let record := record.addIdentifier column.isId column.fieldName
  { record with columns := Named.put Column.fieldName column record.columns }

/-- Let a field refer to other objects. -/
def mapAssociation (association : Association) (record : ClassMapping) : ClassMapping :=
  let record := record.addIdentifier association.isId association.fieldName
  { record with
    associations := Named.put Association.fieldName association record.associations }

/-- Let a field embed a value. -/
def mapEmbedded (embedded : Embedded) (record : ClassMapping) : ClassMapping :=
  { record with embedded := Named.put Embedded.fieldName embedded record.embedded }

/-- The column of a field. -/
def column? (fieldName : String) (record : ClassMapping) : Option Column :=
  Named.find? Column.fieldName fieldName record.columns

/-- The association of a field. -/
def association? (fieldName : String) (record : ClassMapping) : Option Association :=
  Named.find? Association.fieldName fieldName record.associations

/-- The embedded value of a field. -/
def embedded? (fieldName : String) (record : ClassMapping) : Option Embedded :=
  Named.find? Embedded.fieldName fieldName record.embedded

/-- Whether a field is mapped in any way. -/
def hasMapping (fieldName : String) (record : ClassMapping) : Bool :=
  (record.column? fieldName).isSome || (record.association? fieldName).isSome ||
    (record.embedded? fieldName).isSome

/-- Whether a field belongs to the identifier. -/
def isIdentifier (fieldName : String) (record : ClassMapping) : Bool :=
  record.identifier.contains fieldName

/-- Whether the identifier has several fields. -/
def hasCompositeIdentifier (record : ClassMapping) : Bool :=
  1 < record.identifier.length

/-- Whether a field counts the versions of an object. -/
def isVersioned (record : ClassMapping) : Bool :=
  record.versionField.isSome

/-- The name of the table, if the class has a table with a name. -/
def tableName? (record : ClassMapping) : Option String :=
  record.table.bind (·.name)

/-- How an association is cached for which only the caching is asked for: like the
class, in a region of its own. -/
def associationCache (fieldName : String) (record : ClassMapping) : CacheSettings :=
  match record.cache with
  | some cache => ⟨cache.usage, cache.region ++ "__" ++ fieldName⟩
  | none => ⟨.readOnly, defaultRegion record.name ++ "__" ++ fieldName⟩

theorem columns_addIdentifier (isId : Bool) (fieldName : String) (record : ClassMapping) :
    (record.addIdentifier isId fieldName).columns = record.columns := by
  unfold addIdentifier
  split <;> rfl

theorem associations_addIdentifier (isId : Bool) (fieldName : String)
    (record : ClassMapping) :
    (record.addIdentifier isId fieldName).associations = record.associations := by
  unfold addIdentifier
  split <;> rfl

theorem embedded_addIdentifier (isId : Bool) (fieldName : String) (record : ClassMapping) :
    (record.addIdentifier isId fieldName).embedded = record.embedded := by
  unfold addIdentifier
  split <;> rfl

theorem mem_identifier_addIdentifier (isId : Bool) (fieldName other : String)
    (record : ClassMapping) :
    other ∈ (record.addIdentifier isId fieldName).identifier ↔
      other ∈ record.identifier ∨ (isId = true ∧ other = fieldName) := by
  unfold addIdentifier
  split
  · rename_i added
    simp_all
  · rename_i kept
    simp only [Bool.and_eq_true, Bool.not_eq_true', List.contains_eq_mem,
      decide_eq_false_iff_not, not_and, Decidable.not_not] at kept
    constructor
    · exact Or.inl
    · rintro (member | ⟨flagged, rfl⟩)
      · exact member
      · exact kept flagged

theorem nodup_identifier_addIdentifier (isId : Bool) (fieldName : String)
    {record : ClassMapping} (distinct : record.identifier.Nodup) :
    (record.addIdentifier isId fieldName).identifier.Nodup := by
  unfold addIdentifier
  split
  · rename_i added
    simp only [Bool.and_eq_true, Bool.not_eq_true', List.contains_eq_mem,
      decide_eq_false_iff_not] at added
    rw [List.nodup_append]
    refine ⟨distinct, by simp, ?_⟩
    intro left leftMember right rightMember equal
    simp only [List.mem_singleton] at rightMember
    exact added.2 (rightMember ▸ equal ▸ leftMember)
  · exact distinct

theorem columns_mapColumn (column : Column) (record : ClassMapping) :
    (record.mapColumn column).columns = Named.put Column.fieldName column record.columns := by
  simp [mapColumn, columns_addIdentifier]

theorem associations_mapColumn (column : Column) (record : ClassMapping) :
    (record.mapColumn column).associations = record.associations := by
  simp [mapColumn, associations_addIdentifier]

theorem embedded_mapColumn (column : Column) (record : ClassMapping) :
    (record.mapColumn column).embedded = record.embedded := by
  simp [mapColumn, embedded_addIdentifier]

theorem columns_mapAssociation (association : Association) (record : ClassMapping) :
    (record.mapAssociation association).columns = record.columns := by
  simp [mapAssociation, columns_addIdentifier]

theorem associations_mapAssociation (association : Association) (record : ClassMapping) :
    (record.mapAssociation association).associations =
      Named.put Association.fieldName association record.associations := by
  simp [mapAssociation, associations_addIdentifier]

theorem embedded_mapAssociation (association : Association) (record : ClassMapping) :
    (record.mapAssociation association).embedded = record.embedded := by
  simp [mapAssociation, embedded_addIdentifier]

end ClassMapping

end EntityMapping.Record
