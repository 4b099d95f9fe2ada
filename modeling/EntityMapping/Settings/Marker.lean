import EntityMapping.Document.Definition

/-!
# Annotations

The directives that say how classes and fields are mapped.  Of several with one
name only the first counts, and all other directives are ignored.
-/

namespace EntityMapping.Settings

open EntityMapping.Document

/-- A directive with a meaning for the mapping. -/
inductive Marker where
  | classBinding
  | entity
  | mappedSuperclass
  | embeddable
  | table
  | cache
  | nativeQueries
  | resultSetMappings
  | namedQueries
  | inheritance
  | discriminator
  | changeTracking
  | column
  | id
  | generatedValue
  | version
  | sequenceGenerator
  | tableGenerator
  | customGenerator
  | join
  | joinTable
  | orderBy
  | oneToOne
  | oneToMany
  | manyToOne
  | manyToMany
  | embedded
deriving DecidableEq, Repr

namespace Marker

/-- The name of the directive. -/
def text : Marker → String
  | classBinding => "Class"
  | entity => "Entity"
  | mappedSuperclass => "MappedSuperClass"
  | embeddable => "Embeddable"
  | table => "Table"
  | cache => "Cache"
  | nativeQueries => "NamedNativeQueries"
  | resultSetMappings => "SqlResultSetMappings"
  | namedQueries => "NamedQueries"
  | inheritance => "Inheritance"
  | discriminator => "Discriminator"
  | changeTracking => "ChangeTracking"
  | column => "Column"
  | id => "Id"
  | generatedValue => "GeneratedValue"
  | version => "Version"
  | sequenceGenerator => "SequenceGenerator"
  | tableGenerator => "TableGenerator"
  | customGenerator => "CustomIdGenerator"
  | join => "Join"
  | joinTable => "JoinTable"
  | orderBy => "OrderBy"
  | oneToOne => "OneToOne"
  | oneToMany => "OneToMany"
  | manyToOne => "ManyToOne"
  | manyToMany => "ManyToMany"
  | embedded => "Embedded"

/-- The directive that carries the annotation, among the given ones. -/
def among (directives : List Directive) (marker : Marker) : Option Directive :=
  Directive.find? marker.text directives

/-- Whether one of the directives carries the annotation. -/
def isAmong (directives : List Directive) (marker : Marker) : Bool :=
  (marker.among directives).isSome

end Marker

end EntityMapping.Settings
