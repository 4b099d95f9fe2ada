import EntityMapping.Record.ClassMapping
import EntityMapping.Settings.Arguments

/-!
# Settings of a class

What the annotations of a type say, apart from its fields.  Reading them needs
no record, so a fault depends on the type alone.
-/

namespace EntityMapping.Settings

open EntityMapping.Document
open EntityMapping.Record

/-- What kind of class the annotations make of a type. -/
inductive KindSettings where
  | entity (repositoryClass : Option String) (readOnly : Bool)
  | mappedSuperclass (repositoryClass : Option String)
  | embeddable
deriving DecidableEq

/-- How the classes of a hierarchy are told apart. -/
inductive InheritanceSettings where
  /-- Inheritance is switched off. -/
  | none
  | hierarchy (strategy : Inheritance) (discriminator : Discriminator)
      (classes : Keyed String)

/-- The settings of a class. -/
structure ClassSettings where
  kind : KindSettings
  table : Option Table
  cache : Option CacheOverride
  nativeQueries : List NativeQuery
  resultSetMappings : List ResultSetMapping
  namedQueries : List NamedQuery
  inheritance : Option InheritanceSettings
  changeTracking : Option ChangeTracking

namespace ClassSettings

/-- The kind of the class: the first that an annotation names, of entity, mapped
superclass and embeddable. -/
def readKind (directives : List Directive) : Checked KindSettings :=
  match Marker.entity.among directives with
  | some directive => do
      let arguments := Arguments.ofDirective directive
      let repositoryClass ← arguments.text? "repositoryClass"
      let readOnly ← arguments.flag "readOnly"
      return .entity repositoryClass readOnly
  | none =>
      match Marker.mappedSuperclass.among directives with
      | some directive => do
          let repositoryClass ← (Arguments.ofDirective directive).text? "repositoryClass"
          return .mappedSuperclass repositoryClass
      | none =>
          if Marker.embeddable.isAmong directives then .ok .embeddable
          else .error .noKind

/-- An index, which needs a column or a field. -/
def readIndex (arguments : Arguments) : Checked Index := do
  let name ← arguments.text? "name"
  let columns ← arguments.texts "columns"
  let fields ← arguments.texts "fields"
  let flags ← arguments.texts "flags"
  let options ← arguments.objectAttributes "options"
  if columns.isEmpty && fields.isEmpty then .error (arguments.missing "columns")
  else return ⟨name, columns, fields, flags, options⟩

/-- A list of indexes. -/
def readIndexes (name : String) (arguments : Arguments) : Checked (List Index) := do
  let indexes ← arguments.objects name
  indexes.mapM readIndex

/-- The table of the class. -/
def readTable (arguments : Arguments) : Checked Table := do
  let name ← arguments.text? "name"
  let schema ← arguments.text? "schema"
  let indexes ← readIndexes "indexes" arguments
  let uniqueConstraints ← readIndexes "uniqueConstraints" arguments
  let options ← arguments.objectAttributes "options"
  return ⟨name, schema, indexes, uniqueConstraints, options⟩

def readNativeQuery (arguments : Arguments) : Checked NativeQuery := do
  let name ← arguments.text "name"
  let query ← arguments.text "query"
  let resultClass ← arguments.text? "resultClass"
  let resultSetMapping ← arguments.text? "resultSetMapping"
  return ⟨name, query, resultClass, resultSetMapping⟩

def readResultSetMapping (arguments : Arguments) : Checked ResultSetMapping := do
  let name ← arguments.text "name"
  let entities ← arguments.dataList "entities"
  let columns ← arguments.dataList "columns"
  return ⟨name, entities, columns⟩

def readNamedQuery (arguments : Arguments) : Checked NamedQuery := do
  let name ← arguments.text "name"
  let query ← arguments.text "query"
  return ⟨name, query⟩

/-- The objects in an argument of an annotation, each read in the same way; none
without the annotation. -/
def readEach {α : Type} (marker : Marker) (name : String)
    (read : Arguments → Checked α) (directives : List Directive) : Checked (List α) :=
  match marker.among directives with
  | none => .ok []
  | some directive => do
      let objects ← (Arguments.ofDirective directive).objects name
      objects.mapM read

/-- The column that tells the classes of a hierarchy apart. -/
def readDiscriminator (arguments : Arguments) : Checked Discriminator := do
  let column ← arguments.text "column"
  let type ← arguments.text? "type"
  let length ← arguments.natural? "length"
  return ⟨column, type.getD Discriminator.defaultType,
    some (length.getD Discriminator.defaultLength)⟩

/-- A discriminator value and the class it stands for. -/
def readAlias (arguments : Arguments) : Checked (String × String) := do
  let value ← arguments.text "alias"
  let className ← arguments.text "class"
  return (value, className)

/-- The classes of a hierarchy by discriminator value. -/
def readClasses (arguments : Arguments) : Checked (Keyed String) :=
  if arguments.has "map" then do
    let objects ← arguments.objects "map"
    let aliases ← objects.mapM readAlias
    return Keyed.ofEntries aliases
  else .error (arguments.missing "map")

/-- Inheritance and, unless it is switched off, the discriminator. -/
def readInheritance (directives : List Directive) : Checked (Option InheritanceSettings) :=
  match Marker.inheritance.among directives with
  | none => .ok none
  | some directive => do
      let written ← (Arguments.ofDirective directive).text "type"
      let strategy ← Arguments.vocabulary (.unknownValue .inheritance) written
      if strategy = Inheritance.none then return some .none
      else
        match Marker.discriminator.among directives with
        | none => .error (.noDiscriminator strategy)
        | some directive => do
            let arguments := Arguments.ofDirective directive
            let discriminator ← readDiscriminator arguments
            let classes ← readClasses arguments
            return some (.hierarchy strategy discriminator classes)

/-- How changes are noticed. -/
def readChangeTracking (directives : List Directive) : Checked (Option ChangeTracking) :=
  match Marker.changeTracking.among directives with
  | none => .ok none
  | some directive => do
      let written ← (Arguments.ofDirective directive).text "policy"
      let policy ← Arguments.vocabulary (.unknownValue .changeTracking) written
      return some policy

/-- The settings that the directives of a type make, read in a fixed order. -/
def ofDirectives (directives : List Directive) : Checked ClassSettings := do
  let kind ← readKind directives
  let table ←
    match Marker.table.among directives with
    | none => pure none
    | some directive => (readTable (Arguments.ofDirective directive)).map some
  let cache ← CacheOverride.ofDirectives directives
  let nativeQueries ← readEach .nativeQueries "queries" readNativeQuery directives
  let resultSetMappings ←
    readEach .resultSetMappings "mappings" readResultSetMapping directives
  let namedQueries ← readEach .namedQueries "queries" readNamedQuery directives
  let inheritance ← readInheritance directives
  let changeTracking ← readChangeTracking directives
  return {
    kind := kind
    table := table
    cache := cache
    nativeQueries := nativeQueries
    resultSetMappings := resultSetMappings
    namedQueries := namedQueries
    inheritance := inheritance
    changeTracking := changeTracking
  }

end ClassSettings

/-- Apply the kind of class to a record.  Nothing that was set before is taken
back. -/
def KindSettings.apply (record : ClassMapping) : KindSettings → ClassMapping
  | entity repositoryClass readOnly =>
      { record with
        kind := .entity
        repositoryClass := repositoryClass.or record.repositoryClass
        readOnly := readOnly || record.readOnly }
  | mappedSuperclass repositoryClass =>
      { record with
        kind := .mappedSuperclass
        repositoryClass := repositoryClass.or record.repositoryClass }
  | embeddable => { record with kind := .embeddable }

/-- Apply inheritance to a record. -/
def InheritanceSettings.apply (record : ClassMapping) : InheritanceSettings → ClassMapping
  | none => { record with inheritance := .none }
  | hierarchy strategy discriminator classes =>
      { record with
        inheritance := strategy
        discriminator := some discriminator
        discriminatorMap := classes }

/-- Apply the settings of a class to a record. -/
def ClassSettings.apply (className : String) (settings : ClassSettings)
    (record : ClassMapping) : ClassMapping :=
  let record := settings.kind.apply record
  let cache := settings.cache.map fun override =>
    override.withDefaults ⟨.readOnly, defaultRegion className⟩
  let record :=
    { record with
      table := settings.table.or record.table
      cache := cache.or record.cache
      nativeQueries := record.nativeQueries ++ settings.nativeQueries
      resultSetMappings := record.resultSetMappings ++ settings.resultSetMappings
      namedQueries := record.namedQueries ++ settings.namedQueries
      changeTracking := settings.changeTracking.getD record.changeTracking }
  match settings.inheritance with
  | none => record
  | some inheritance => inheritance.apply record

end EntityMapping.Settings
