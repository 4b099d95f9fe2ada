import EntityMapping.Document.Definition
import EntityMapping.Document.Lexeme

/-!
# Where definitions stand

The same definition can stand at another place of a text.  Relocation applies a
map of spans to every span inside a definition; shifting by a distance and
dropping all spans are the two maps of interest.
-/

namespace EntityMapping.Source.Span

/-- A map of spans that keeps the smallest span covering two others. -/
def Uniform (place : Span → Span) : Prop :=
  ∀ left right : Span, place (left.merge right) = (place left).merge (place right)

/-- The map that forgets where a span was. -/
def nowhere (_ : Span) : Span := ⟨0, 0⟩

/-- The span when `distance` bytes before it are taken away. -/
def unshift (distance : Nat) (span : Span) : Span :=
  ⟨span.start - distance, span.stop - distance⟩

theorem uniform_shift (distance : Nat) : Uniform (shift distance) :=
  fun left right => (merge_shift distance left right).symm

theorem uniform_unshift (distance : Nat) : Uniform (unshift distance) := by
  intro left right
  simp only [merge, unshift, mk.injEq]
  omega

end EntityMapping.Source.Span

namespace EntityMapping.Document

open EntityMapping.Source

/-- The same token at another place. -/
def Lexeme.relocate (place : Span → Span) (lexeme : Lexeme) : Lexeme :=
  { lexeme with span := place lexeme.span }

/-- The same argument at another place. -/
def Argument.relocate (place : Span → Span) (argument : Argument) : Argument :=
  { argument with span := place argument.span }

/-- The same directive at another place. -/
def Directive.relocate (place : Span → Span) (directive : Directive) : Directive :=
  { directive with
    arguments := directive.arguments.map (Argument.relocate place)
    span := place directive.span }

/-- The same argument of a definition, or field of an input type, at another place. -/
def InputValue.relocate (place : Span → Span) (input : InputValue) : InputValue :=
  { input with
    directives := input.directives.map (Directive.relocate place)
    span := place input.span }

/-- The same field at another place. -/
def Field.relocate (place : Span → Span) (field : Field) : Field :=
  { field with
    arguments := field.arguments.map (InputValue.relocate place)
    directives := field.directives.map (Directive.relocate place)
    span := place field.span }

/-- The same enumeration value at another place. -/
def EnumValue.relocate (place : Span → Span) (value : EnumValue) : EnumValue :=
  { value with
    directives := value.directives.map (Directive.relocate place)
    span := place value.span }

/-- The same object type at another place. -/
def ObjectType.relocate (place : Span → Span) (type : ObjectType) : ObjectType :=
  { type with
    directives := type.directives.map (Directive.relocate place)
    fields := type.fields.map (Field.relocate place)
    span := place type.span }

/-- The same input type at another place. -/
def InputType.relocate (place : Span → Span) (type : InputType) : InputType :=
  { type with
    directives := type.directives.map (Directive.relocate place)
    fields := type.fields.map (InputValue.relocate place)
    span := place type.span }

/-- The same enumeration at another place. -/
def EnumType.relocate (place : Span → Span) (type : EnumType) : EnumType :=
  { type with
    directives := type.directives.map (Directive.relocate place)
    values := type.values.map (EnumValue.relocate place)
    span := place type.span }

/-- The same scalar type at another place. -/
def ScalarType.relocate (place : Span → Span) (type : ScalarType) : ScalarType :=
  { type with
    directives := type.directives.map (Directive.relocate place)
    span := place type.span }

/-- The same union at another place. -/
def UnionType.relocate (place : Span → Span) (type : UnionType) : UnionType :=
  { type with
    directives := type.directives.map (Directive.relocate place)
    span := place type.span }

/-- The same directive definition at another place. -/
def DirectiveType.relocate (place : Span → Span) (type : DirectiveType) : DirectiveType :=
  { type with
    arguments := type.arguments.map (InputValue.relocate place)
    span := place type.span }

/-- The same schema at another place. -/
def SchemaRoots.relocate (place : Span → Span) (roots : SchemaRoots) : SchemaRoots :=
  { roots with
    directives := roots.directives.map (Directive.relocate place)
    span := place roots.span }

namespace Definition

/-- The same definition at another place. -/
def relocate (place : Span → Span) : Definition → Definition
  | object type => .object (type.relocate place)
  | extension type => .extension (type.relocate place)
  | interface type => .interface (type.relocate place)
  | input type => .input (type.relocate place)
  | enum type => .enum (type.relocate place)
  | scalar type => .scalar (type.relocate place)
  | union type => .union (type.relocate place)
  | directive type => .directive (type.relocate place)
  | schema roots => .schema (roots.relocate place)

/-- The definition when `distance` more bytes stand before it. -/
def shift (distance : Nat) (definition : Definition) : Definition :=
  definition.relocate (Span.shift distance)

/-- The definition without its spans: all of them are replaced by one and the
same. -/
def unplaced (definition : Definition) : Definition :=
  definition.relocate Span.nowhere

theorem span_relocate (place : Span → Span) (definition : Definition) :
    (definition.relocate place).span = place definition.span := by
  cases definition <;> rfl

end Definition

end EntityMapping.Document
