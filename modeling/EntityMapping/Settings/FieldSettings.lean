import EntityMapping.Record.ClassMapping
import EntityMapping.Settings.Arguments

/-!
# Settings of a field

What the annotations of a field say.  As with the settings of a class, reading
needs no record; only applying them looks at what the record already holds.
-/

namespace EntityMapping.Settings

open EntityMapping.Document
open EntityMapping.Record
open EntityMapping.Text

/-- Where the values of an identifier column come from, beside the strategy. -/
inductive KeySource where
  | unspecified
  | sequence (definition : Attributes)
  | custom (className : String)

/-- What the annotations of a column field say. -/
structure ColumnSettings where
  column : Column
  generator : Option IdGenerator
  isVersion : Bool
  keySource : KeySource

/-- How a field is mapped. -/
inductive FieldKind where
  | column (settings : ColumnSettings)
  | association (association : Association)
  | embedded (embedded : Embedded)
  /-- The field is not stored. -/
  | transient

/-- The settings of a field. -/
structure FieldSettings where
  fieldName : String
  cache : Option CacheOverride
  kind : FieldKind

namespace FieldSettings

/-- A join column: a name, or an object that describes it. -/
def readJoinColumn (arguments : Arguments) (path : ArgumentPath) (value : Value) :
    Checked JoinColumn :=
  match value with
  | .string name => .ok (.ofName name)
  | .object fields => do
      let inner := { arguments with place := path, entries := fields }
      let name ← inner.text "name"
      let referencedColumn ← inner.text? "referencedColumnName"
      let isUnique ← inner.flag "unique"
      let isNullable ← inner.boolean? "nullable"
      let onDelete ← inner.text? "onDelete"
      let columnDefinition ← inner.text? "columnDefinition"
      return ⟨name, referencedColumn, isUnique, isNullable.getD true, onDelete,
        columnDefinition⟩
  | other => .error (arguments.wrongAt path .joinColumn other)

/-- Join columns: a list, or a single one. -/
def readJoinColumns (name : String) (arguments : Arguments) : Checked (List JoinColumn) :=
  match arguments.get? name with
  | none => .ok []
  | some (.list items) =>
      (arguments.placed name items).mapM fun (path, item) => readJoinColumn arguments path item
  | some single => (readJoinColumn arguments (arguments.path name) single).map ([·])

/-- The join columns of a field, which has to give one of both arguments if it is annotated as a
join. -/
def readJoin (field : Field) : Checked (List JoinColumn) :=
  match Marker.join.among field.directives with
  | none => .ok []
  | some directive => do
      let arguments := Arguments.ofDirective directive
      if arguments.has "column" || arguments.has "columns" then
        let single ←
          match arguments.get? "column" with
          | none => pure []
          | some value =>
              (readJoinColumn arguments (arguments.path "column") value).map ([·])
        let several ← readJoinColumns "columns" arguments
        return single ++ several
      else .error (.noJoinColumn field.name)

/-- The table that links both sides of an association. -/
def readJoinTable (field : Field) : Checked (Option JoinTable) :=
  match Marker.joinTable.among field.directives with
  | none => .ok none
  | some directive => do
      let arguments := Arguments.ofDirective directive
      let name ← arguments.text? "name"
      let schema ← arguments.text? "schema"
      let joinColumns ← readJoinColumns "joinColumns" arguments
      let inverseJoinColumns ← readJoinColumns "inverseJoinColumns" arguments
      return some ⟨name, schema, joinColumns, inverseJoinColumns⟩

/-- A term of an ordering: the name of an argument, and the direction that the first
argument of that name gives. -/
def readOrderTerm (arguments : Arguments) (name : String) : Checked OrderTerm := do
  let written ← arguments.text name
  let direction ← Arguments.vocabulary (.unknownValue .direction) written
  return ⟨name, direction⟩

/-- The ordering of a collection: one term for each argument. -/
def readOrderBy (field : Field) : Checked (List OrderTerm) :=
  match Marker.orderBy.among field.directives with
  | none => .ok []
  | some directive =>
      let arguments := Arguments.ofDirective directive
      arguments.entries.mapM fun entry => readOrderTerm arguments entry.1

/-- The two sides of an association, of which only one can be given. -/
def readSides (fieldName : String) (arguments : Arguments) :
    Checked (Option String × Option String) := do
  let mappedBy ← arguments.text? "mappedBy"
  let inversedBy ← arguments.text? "inversedBy"
  if mappedBy.isSome && inversedBy.isSome then .error (.bothSides fieldName)
  else return (mappedBy, inversedBy)

/-- What all associations have in common. -/
def readAssociation (cardinality : Cardinality) (fieldName : String) (arguments : Arguments) :
    Checked Association := do
  let target ← arguments.text "targetEntity"
  let cascade ← arguments.texts "cascade"
  let fetch ← arguments.vocabulary? (.unknownValue .fetchMode) "fetch"
  let plain := Association.plain fieldName cardinality target
  return { plain with cascade := cascade.map lowerCase, fetch := fetch.getD plain.fetch }

def readOneToOne (field : Field) (joinColumns : List JoinColumn) (arguments : Arguments) :
    Checked Association := do
  let association ← readAssociation .oneToOne field.name arguments
  let (mappedBy, inversedBy) ← readSides field.name arguments
  let orphanRemoval ← arguments.flag "orphanRemoval"
  return { association with
    mappedBy := mappedBy
    inversedBy := inversedBy
    orphanRemoval := orphanRemoval
    joinColumns := joinColumns
    isId := Marker.id.isAmong field.directives }

def readOneToMany (field : Field) (arguments : Arguments) : Checked Association := do
  let association ← readAssociation .oneToMany field.name arguments
  let mappedBy ← arguments.text "mappedBy"
  let indexBy ← arguments.text? "indexBy"
  let orphanRemoval ← arguments.flag "orphanRemoval"
  let orderBy ← readOrderBy field
  return { association with
    mappedBy := some mappedBy
    indexBy := indexBy
    orphanRemoval := orphanRemoval
    orderBy := orderBy }

def readManyToOne (field : Field) (joinColumns : List JoinColumn) (arguments : Arguments) :
    Checked Association := do
  let association ← readAssociation .manyToOne field.name arguments
  let inversedBy ← arguments.text? "inversedBy"
  return { association with
    inversedBy := inversedBy
    joinColumns := joinColumns
    isId := Marker.id.isAmong field.directives }

def readManyToMany (field : Field) (arguments : Arguments) : Checked Association := do
  let association ← readAssociation .manyToMany field.name arguments
  let (mappedBy, inversedBy) ← readSides field.name arguments
  let indexBy ← arguments.text? "indexBy"
  let orphanRemoval ← arguments.flag "orphanRemoval"
  let orderBy ← readOrderBy field
  let joinTable ← readJoinTable field
  return { association with
    mappedBy := mappedBy
    inversedBy := inversedBy
    indexBy := indexBy
    orphanRemoval := orphanRemoval
    orderBy := orderBy
    joinTable := joinTable }

/-- The prefix of embedded columns: a text, or a switch. -/
def readColumnPrefix (arguments : Arguments) : Checked ColumnPrefix :=
  match arguments.get? "columnPrefix" with
  | none => .ok .default
  | some (.boolean true) => .ok .default
  | some (.boolean false) => .ok .disabled
  | some (.string text) => .ok (.custom text)
  | some other => .error (arguments.wrongAt (arguments.path "columnPrefix") .columnPrefix other)

def readEmbedded (fieldName : String) (arguments : Arguments) : Checked Embedded := do
  let className ← arguments.text "class"
  let columnPrefix ← readColumnPrefix arguments
  return ⟨fieldName, className, columnPrefix⟩

/-- The strategy for identifiers, automatic unless another one is named. -/
def readGenerator (field : Field) : Checked (Option IdGenerator) :=
  match Marker.generatedValue.among field.directives with
  | none => .ok none
  | some directive => do
      let written ← (Arguments.ofDirective directive).text? "strategy"
      let strategy ← Arguments.vocabulary (.unknownValue .generator)
        (written.getD (Vocabulary.text IdGenerator.auto))
      return some strategy

/-- Where identifiers come from; a sequence goes before a custom generator. -/
def readKeySource (field : Field) : Checked KeySource :=
  match Marker.sequenceGenerator.among field.directives with
  | some directive => .ok (.sequence (Arguments.ofDirective directive).attributes)
  | none =>
      match Marker.customGenerator.among field.directives with
      | none => .ok .unspecified
      | some directive => do
          let className ← (Arguments.ofDirective directive).text "class"
          return .custom className

def readColumn (field : Field) (arguments : Arguments) : Checked ColumnSettings := do
  let columnName ← arguments.text? "name"
  let typeName ← arguments.text? "type"
  let generator ← readGenerator field
  let keySource ← readKeySource field
  return {
    column :=
      { fieldName := field.name
        columnName := columnName.getD field.name
        typeName := typeName.getD Column.defaultType
        isId := Marker.id.isAmong field.directives
        attributes := arguments.attributes }
    generator := generator
    isVersion := Marker.version.isAmong field.directives
    keySource := keySource
  }

/-- The annotations that map a field; the first that is present decides. -/
def kindMarkers : List Marker :=
  [.column, .oneToOne, .oneToMany, .manyToOne, .manyToMany, .embedded]

/-- The annotation that decides how a field is mapped, with its directive. -/
def decisive? (field : Field) : Option (Marker × Directive) :=
  kindMarkers.findSome? fun marker =>
    (marker.among field.directives).map (marker, ·)

/-- How a field is mapped. -/
def readKind (field : Field) (joinColumns : List JoinColumn) : Checked FieldKind :=
  match decisive? field with
  | none => .ok .transient
  | some (marker, directive) =>
      let arguments := Arguments.ofDirective directive
      match marker with
      | .column => (readColumn field arguments).map .column
      | .oneToOne => (readOneToOne field joinColumns arguments).map .association
      | .oneToMany => (readOneToMany field arguments).map .association
      | .manyToOne => (readManyToOne field joinColumns arguments).map .association
      | .manyToMany => (readManyToMany field arguments).map .association
      | .embedded => (readEmbedded field.name arguments).map .embedded
      | _ => .ok .transient

/-- The settings that the directives of a field make, read in a fixed order. -/
def ofField (field : Field) : Checked FieldSettings :=
  if Marker.tableGenerator.isAmong field.directives then
    .error (.tableGenerator field.name)
  else do
    let cache ← CacheOverride.ofDirectives field.directives
    let joinColumns ← readJoin field
    let kind ← readKind field joinColumns
    return ⟨field.name, cache, kind⟩

end FieldSettings

/-- The cache settings of a column, as data. -/
def cacheAttribute (cache : CacheSettings) : Json :=
  .ofEntries [("usage", .text (Vocabulary.text cache.usage)), ("region", .text cache.region)]

namespace ColumnSettings

/-- The column as it is stored: what was written, the name of the field, and the cache
settings if there are any. -/
def stored (cache : Option CacheSettings) (settings : ColumnSettings) : Column :=
  let named :=
    Keyed.insert "fieldName" (.text settings.column.fieldName) settings.column.attributes
  { settings.column with
    attributes :=
      match cache with
      | none => named
      | some cache => Keyed.insert "cache" (cacheAttribute cache) named }

/-- Let a key source choose the strategy, unless one has been chosen. -/
def chooseGenerator (generator : IdGenerator) (record : ClassMapping) : ClassMapping :=
  if record.idGenerator = .none then { record with idGenerator := generator } else record

/-- Apply where identifiers come from to a record. -/
def applyKeySource (record : ClassMapping) : KeySource → ClassMapping
  | .unspecified => record
  | .sequence definition =>
      chooseGenerator .sequence { record with sequenceDefinition := some definition }
  | .custom className =>
      chooseGenerator .custom { record with customGenerator := some className }

/-- Apply the settings of a column to a record. -/
def apply (cache : Option CacheSettings) (settings : ColumnSettings) (record : ClassMapping) :
    ClassMapping :=
  let record :=
    { record with
      idGenerator := settings.generator.getD record.idGenerator
      versionField :=
        if settings.isVersion then some settings.column.fieldName else record.versionField }
  applyKeySource (record.mapColumn (settings.stored cache)) settings.keySource

end ColumnSettings

/-- Apply the settings of a field to a record. -/
def FieldSettings.apply (settings : FieldSettings) (record : ClassMapping) : ClassMapping :=
  let cache := settings.cache.map (·.withDefaults (record.associationCache settings.fieldName))
  match settings.kind with
  | .column column => column.apply cache record
  | .association association => record.mapAssociation { association with cache := cache }
  | .embedded embedded => record.mapEmbedded embedded
  | .transient => record

end EntityMapping.Settings
