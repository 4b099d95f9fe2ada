import EntityMapping.Document.Value
import EntityMapping.Document.TypeRef
import EntityMapping.Source.Span

/-!
# Definitions

What a mapping file holds.  Every part that a complaint can be about knows the
span it was written at, and directives and fields keep their order.
-/

namespace EntityMapping.Document

open EntityMapping.Source

/-- A named argument of a directive. -/
structure Argument where
  name : String
  value : Value
  span : Span

/-- A directive such as `@Table(name: "users")`. -/
structure Directive where
  name : String
  arguments : List Argument
  span : Span

namespace Directive

/-- The value of the first argument of a name.  An argument that is written as
null is present. -/
def argument? (name : String) (directive : Directive) : Option Value :=
  (directive.arguments.find? (·.name == name)).map (·.value)

/-- The first directive of a name. -/
def find? (name : String) (directives : List Directive) : Option Directive :=
  directives.find? (·.name == name)

end Directive

/-- An argument of a field or directive, or a field of an input type. -/
structure InputValue where
  description : Option String
  name : String
  type : TypeRef
  default : Option Value
  directives : List Directive
  span : Span

/-- A field of an object type. -/
structure Field where
  description : Option String
  name : String
  arguments : List InputValue
  type : TypeRef
  directives : List Directive
  span : Span

namespace Field

/-- The first directive of a name on the field. -/
def directive? (name : String) (field : Field) : Option Directive :=
  Directive.find? name field.directives

end Field

/-- An object type, an extension of one, or an interface. -/
structure ObjectType where
  description : Option String
  name : String
  interfaces : List String
  directives : List Directive
  fields : List Field
  span : Span

namespace ObjectType

/-- The first directive of a name on the type. -/
def directive? (name : String) (type : ObjectType) : Option Directive :=
  Directive.find? name type.directives

/-- The first field of a name. -/
def field? (name : String) (type : ObjectType) : Option Field :=
  type.fields.find? (·.name == name)

end ObjectType

/-- An input type. -/
structure InputType where
  description : Option String
  name : String
  directives : List Directive
  fields : List InputValue
  span : Span

/-- A value of an enumeration. -/
structure EnumValue where
  description : Option String
  name : String
  directives : List Directive
  span : Span

/-- An enumeration. -/
structure EnumType where
  description : Option String
  name : String
  directives : List Directive
  values : List EnumValue
  span : Span

/-- A scalar type. -/
structure ScalarType where
  description : Option String
  name : String
  directives : List Directive
  span : Span

/-- A union of object types. -/
structure UnionType where
  description : Option String
  name : String
  directives : List Directive
  members : List String
  span : Span

/-- The definition of a directive. -/
structure DirectiveType where
  description : Option String
  name : String
  arguments : List InputValue
  repeatable : Bool
  locations : List String
  span : Span

/-- The root types of a schema, by operation. -/
structure SchemaRoots where
  directives : List Directive
  operations : List (String × String)
  span : Span

/-- A definition. -/
inductive Definition where
  | object (type : ObjectType)
  | extension (type : ObjectType)
  | interface (type : ObjectType)
  | input (type : InputType)
  | enum (type : EnumType)
  | scalar (type : ScalarType)
  | union (type : UnionType)
  | directive (type : DirectiveType)
  | schema (roots : SchemaRoots)

namespace Definition

/-- The name of the defined type or directive; a schema has none. -/
def name? : Definition → Option String
  | object type => some type.name
  | extension type => some type.name
  | interface type => some type.name
  | input type => some type.name
  | enum type => some type.name
  | scalar type => some type.name
  | union type => some type.name
  | directive type => some type.name
  | schema _ => none

/-- Where the definition stands. -/
def span : Definition → Span
  | object type => type.span
  | extension type => type.span
  | interface type => type.span
  | input type => type.span
  | enum type => type.span
  | scalar type => type.span
  | union type => type.span
  | directive type => type.span
  | schema roots => roots.span

/-- The object type that is defined or extended. -/
def objectType? : Definition → Option ObjectType
  | object type => some type
  | extension type => some type
  | _ => none

end Definition

/-- The object types of a document and their extensions, in order. -/
def objectTypes (definitions : List Definition) : List ObjectType :=
  definitions.filterMap Definition.objectType?

/-- The first object type or extension of a name. -/
def objectType? (name : String) (definitions : List Definition) : Option ObjectType :=
  (objectTypes definitions).find? (·.name == name)

end EntityMapping.Document
