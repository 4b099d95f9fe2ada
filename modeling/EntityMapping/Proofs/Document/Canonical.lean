import EntityMapping.Document.DefinitionReader

/-!
# Canonical tokens of definitions

Every definition has one canonical sequence of tokens: its parts in order, with
brackets and separators only where something stands between them.  A definition
is well formed if that sequence can be read back.
-/

namespace EntityMapping.Document

/-! ## Well-formed definitions -/

/-- A value none of whose bare words is a constant of its own. -/
inductive Value.WellFormed : Value → Prop where
  | null : WellFormed .null
  | boolean (value : Bool) : WellFormed (.boolean value)
  | int (value : Int64) : WellFormed (.int value)
  | float (value : Number.Binary64) : WellFormed (.float value)
  | string (value : String) : WellFormed (.string value)
  | enum {word : String} (free : Cursor.isReserved word = false) : WellFormed (.enum word)
  | list {items : List Value} (each : ∀ item ∈ items, WellFormed item) :
      WellFormed (.list items)
  | object {fields : List (String × Value)} (each : ∀ field ∈ fields, WellFormed field.2) :
      WellFormed (.object fields)

/-- A type reference in which no mark stands directly behind another. -/
def TypeRef.WellFormed : TypeRef → Prop
  | named _ => True
  | list item => item.WellFormed
  | nonNull inner => inner.isNonNull = false ∧ inner.WellFormed

/-- A directive with well-formed values. -/
def Directive.WellFormed (directive : Directive) : Prop :=
  ∀ argument ∈ directive.arguments, argument.value.WellFormed

/-- An argument of a definition, or field of an input type, with well-formed parts. -/
structure InputValue.WellFormed (input : InputValue) : Prop where
  type : input.type.WellFormed
  default : ∀ value ∈ input.default, value.WellFormed
  directives : ∀ directive ∈ input.directives, directive.WellFormed

/-- A field with well-formed parts. -/
structure Field.WellFormed (field : Field) : Prop where
  arguments : ∀ argument ∈ field.arguments, argument.WellFormed
  type : field.type.WellFormed
  directives : ∀ directive ∈ field.directives, directive.WellFormed

/-- An object type with well-formed parts. -/
structure ObjectType.WellFormed (type : ObjectType) : Prop where
  directives : ∀ directive ∈ type.directives, directive.WellFormed
  fields : ∀ field ∈ type.fields, field.WellFormed

/-- An input type with well-formed parts. -/
structure InputType.WellFormed (type : InputType) : Prop where
  directives : ∀ directive ∈ type.directives, directive.WellFormed
  fields : ∀ field ∈ type.fields, field.WellFormed

/-- An enumeration value that is no constant of its own. -/
structure EnumValue.WellFormed (value : EnumValue) : Prop where
  name : Cursor.isReserved value.name = false
  directives : ∀ directive ∈ value.directives, directive.WellFormed

/-- An enumeration with well-formed parts. -/
structure EnumType.WellFormed (type : EnumType) : Prop where
  directives : ∀ directive ∈ type.directives, directive.WellFormed
  values : ∀ value ∈ type.values, value.WellFormed

/-- A directive definition with at least one location. -/
structure DirectiveType.WellFormed (type : DirectiveType) : Prop where
  arguments : ∀ argument ∈ type.arguments, argument.WellFormed
  locations : type.locations ≠ []

namespace Definition

/-- A definition with well-formed parts.  An extension has no description. -/
def WellFormed : Definition → Prop
  | object type => type.WellFormed
  | extension type => type.description = none ∧ type.WellFormed
  | interface type => type.WellFormed
  | input type => type.WellFormed
  | enum type => type.WellFormed
  | scalar type => ∀ directive ∈ type.directives, directive.WellFormed
  | union type => ∀ directive ∈ type.directives, directive.WellFormed
  | directive type => type.WellFormed
  | schema roots => ∀ directive ∈ roots.directives, directive.WellFormed

end Definition

/-! ## Canonical tokens -/

/-- The tokens of a description. -/
def descriptionTokens : Option String → List Token
  | none => []
  | some about => [.string about]

/-- Tokens between brackets; without any, the brackets are left out. -/
def enclosedTokens (opening close : Punctuator) (items : List (List Token)) : List Token :=
  match items with
  | [] => []
  | _ :: _ => .punct opening :: items.flatten ++ [.punct close]

/-- Names with a separator between each two. -/
def separatedTokens (separator : Punctuator) : List String → List Token
  | [] => []
  | first :: others =>
      .name first :: (others.map fun other => [.punct separator, .name other]).flatten

mutual

/-- The canonical tokens of a value. -/
def Value.tokens : Value → List Token
  | .null => [.name "null"]
  | .boolean true => [.name "true"]
  | .boolean false => [.name "false"]
  | .int value => [.int value]
  | .float value => [.float value]
  | .string value => [.string value]
  | .enum word => [.name word]
  | .list items => .punct .bracketOpen :: Value.itemsTokens items ++ [.punct .bracketClose]
  | .object fields => .punct .braceOpen :: Value.fieldsTokens fields ++ [.punct .braceClose]

/-- The canonical tokens of the items of a list. -/
def Value.itemsTokens : List Value → List Token
  | [] => []
  | item :: rest => Value.tokens item ++ Value.itemsTokens rest

/-- The canonical tokens of the fields of an object. -/
def Value.fieldsTokens : List (String × Value) → List Token
  | [] => []
  | (key, value) :: rest =>
      .name key :: .punct .colon :: Value.tokens value ++ Value.fieldsTokens rest

end

/-- The canonical tokens of a type reference. -/
def TypeRef.tokens : TypeRef → List Token
  | named name => [.name name]
  | list item => .punct .bracketOpen :: item.tokens ++ [.punct .bracketClose]
  | nonNull inner => inner.tokens ++ [.punct .bang]

/-- The canonical tokens of an argument. -/
def Argument.tokens (argument : Argument) : List Token :=
  .name argument.name :: .punct .colon :: argument.value.tokens

/-- The canonical tokens of a directive. -/
def Directive.tokens (directive : Directive) : List Token :=
  .punct .atSign :: .name directive.name ::
    enclosedTokens .parenOpen .parenClose (directive.arguments.map Argument.tokens)

/-- The canonical tokens of directives. -/
def directivesTokens (directives : List Directive) : List Token :=
  (directives.map Directive.tokens).flatten

/-- The canonical tokens of a default value. -/
def defaultTokens : Option Value → List Token
  | none => []
  | some value => .punct .equals :: value.tokens

/-- The canonical tokens of an argument of a definition, or field of an input type. -/
def InputValue.tokens (input : InputValue) : List Token :=
  descriptionTokens input.description ++ .name input.name :: .punct .colon ::
    (input.type.tokens ++ (defaultTokens input.default ++ directivesTokens input.directives))

/-- The canonical tokens of the arguments of a definition. -/
def parametersTokens (arguments : List InputValue) : List Token :=
  enclosedTokens .parenOpen .parenClose (arguments.map InputValue.tokens)

/-- The canonical tokens of a field. -/
def Field.tokens (field : Field) : List Token :=
  descriptionTokens field.description ++ .name field.name ::
    (parametersTokens field.arguments ++ .punct .colon ::
      (field.type.tokens ++ directivesTokens field.directives))

/-- The canonical tokens of the interfaces of an object type. -/
def interfacesTokens : List String → List Token
  | [] => []
  | names@(_ :: _) => .name "implements" :: separatedTokens .ampersand names

/-- The canonical tokens of the members of a union. -/
def membersTokens : List String → List Token
  | [] => []
  | names@(_ :: _) => .punct .equals :: separatedTokens .pipe names

/-- The canonical tokens of an enumeration value. -/
def EnumValue.tokens (value : EnumValue) : List Token :=
  descriptionTokens value.description ++ .name value.name ::
    directivesTokens value.directives

/-- The canonical tokens of an operation of a schema. -/
def operationTokens (operation : String × String) : List Token :=
  [.name operation.1, .punct .colon, .name operation.2]

/-- The canonical tokens of an object type behind its keyword. -/
def ObjectType.tokens (type : ObjectType) : List Token :=
  .name type.name :: (interfacesTokens type.interfaces ++ (directivesTokens type.directives ++
    enclosedTokens .braceOpen .braceClose (type.fields.map Field.tokens)))

namespace Definition

/-- The description of a definition; a schema has none. -/
def description? : Definition → Option String
  | object type => type.description
  | extension type => type.description
  | interface type => type.description
  | input type => type.description
  | enum type => type.description
  | scalar type => type.description
  | union type => type.description
  | directive type => type.description
  | schema _ => none

/-- The word that says which form of definition it is. -/
def keyword : Definition → String
  | object _ => "type"
  | extension _ => "extend"
  | interface _ => "interface"
  | input _ => "input"
  | enum _ => "enum"
  | scalar _ => "scalar"
  | union _ => "union"
  | directive _ => "directive"
  | schema _ => "schema"

/-- The canonical tokens of a definition behind its keyword. -/
def bodyTokens : Definition → List Token
  | object type => type.tokens
  | extension type => .name "type" :: type.tokens
  | interface type => type.tokens
  | input type =>
      .name type.name :: (directivesTokens type.directives ++
        enclosedTokens .braceOpen .braceClose (type.fields.map InputValue.tokens))
  | enum type =>
      .name type.name :: (directivesTokens type.directives ++
        enclosedTokens .braceOpen .braceClose (type.values.map EnumValue.tokens))
  | scalar type => .name type.name :: directivesTokens type.directives
  | union type =>
      .name type.name :: (directivesTokens type.directives ++ membersTokens type.members)
  | directive type =>
      .punct .atSign :: .name type.name :: (parametersTokens type.arguments ++
        ((if type.repeatable then [.name "repeatable"] else []) ++
          .name "on" :: separatedTokens .pipe type.locations))
  | schema roots =>
      directivesTokens roots.directives ++ .punct .braceOpen ::
        ((roots.operations.map operationTokens).flatten ++ [.punct .braceClose])

/-- The canonical tokens of a definition. -/
def tokens (definition : Definition) : List Token :=
  descriptionTokens definition.description? ++
    .name definition.keyword :: definition.bodyTokens

end Definition

/-- The canonical tokens of a document. -/
def documentTokens (definitions : List Definition) : List Token :=
  (definitions.map Definition.tokens).flatten

end EntityMapping.Document
