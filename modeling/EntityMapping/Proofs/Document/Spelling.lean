import EntityMapping.Proofs.Document.Canonical
import EntityMapping.Proofs.Document.Placement
import Mathlib.Computability.Language

/-!
# How definitions are spelled

A definition is spelled by its canonical tokens, with these liberties: a separator
may stand in front of the first of several names, a string may be a block string,
brackets may stand around nothing, and a schema may have a description, which its
definition does not keep.  The span of every part covers just the lexemes that
spell the part.
-/

namespace EntityMapping.Document

open EntityMapping.Source

/-! ## Building blocks -/

/-- A single lexeme with a given token. -/
def single (token : Token) : Language Lexeme :=
  {used | ∃ span, used = [⟨token, span⟩]}

/-- A given word. -/
def word (name : String) : Language Lexeme :=
  single (.name name)

/-- A given punctuator. -/
def mark (punctuator : Punctuator) : Language Lexeme :=
  single (.punct punctuator)

/-- A string of either kind. -/
def quotation (text : String) : Language Lexeme :=
  single (.string text) + single (.blockString text)

/-- A description, if there is one. -/
def describing : Option String → Language Lexeme
  | none => 1
  | some about => quotation about

/-- Any description, or none. -/
def describingAnything : Language Lexeme :=
  {used | ∃ about, used ∈ describing about}

/-- The span of the lexeme read last, when the given ones are read behind one with the
given span. -/
def lastSpan (before : Span) (used : List Lexeme) : Span :=
  used.foldl (fun _ lexeme => lexeme.span) before

/-- The smallest span that covers lexemes that follow each other. -/
def coverage : List Lexeme → Span
  | [] => ⟨0, 0⟩
  | first :: rest => first.span.merge (lastSpan first.span rest)

/-- The sequences of a language that cover the given span. -/
def covering (span : Span) (language : Language Lexeme) : Language Lexeme :=
  {used | used ∈ language ∧ coverage used = span}

/-- Items one after another. -/
def sequenced {α : Type} (spelling : α → Language Lexeme) (items : List α) :
    Language Lexeme :=
  (items.map spelling).prod

/-- Items between brackets.  Without any, the brackets may be left out. -/
def bracketed {α : Type} (opening close : Punctuator) (spelling : α → Language Lexeme)
    (items : List α) : Language Lexeme :=
  (if items.isEmpty then 1 else 0) +
    mark opening * (sequenced spelling items * mark close)

/-- Further names, each behind a separator. -/
def furtherNames (separator : Punctuator) (names : List String) : Language Lexeme :=
  sequenced (fun name => mark separator * word name) names

/-- At least one name, with separators between them and possibly one in front. -/
def listing (separator : Punctuator) : List String → Language Lexeme
  | [] => 0
  | first :: others =>
      (1 + mark separator) * (word first * furtherNames separator others)

/-! ## Values and types -/

mutual

/-- The spellings of a value. -/
def Value.spelling : Value → Language Lexeme
  | .null => word "null"
  | .boolean true => word "true"
  | .boolean false => word "false"
  | .int value => single (.int value)
  | .float value => single (.float value)
  | .string value => quotation value
  | .enum name => if Cursor.isReserved name then 0 else word name
  | .list items => mark .bracketOpen * (Value.itemsSpelling items * mark .bracketClose)
  | .object fields => mark .braceOpen * (Value.fieldsSpelling fields * mark .braceClose)

/-- The spellings of the items of a list. -/
def Value.itemsSpelling : List Value → Language Lexeme
  | [] => 1
  | item :: rest => Value.spelling item * Value.itemsSpelling rest

/-- The spellings of the fields of an object. -/
def Value.fieldsSpelling : List (String × Value) → Language Lexeme
  | [] => 1
  | (key, value) :: rest =>
      (word key * (mark .colon * Value.spelling value)) * Value.fieldsSpelling rest

end

/-- The spellings of a field of an object value. -/
def Value.entrySpelling (entry : String × Value) : Language Lexeme :=
  word entry.1 * (mark .colon * entry.2.spelling)

/-- The spellings of a type reference. -/
def TypeRef.spelling : TypeRef → Language Lexeme
  | named name => word name
  | list item => mark .bracketOpen * (item.spelling * mark .bracketClose)
  | nonNull inner => if inner.isNonNull then 0 else inner.spelling * mark .bang

/-! ## Directives -/

/-- The spellings of an argument. -/
def Argument.spelling (argument : Argument) : Language Lexeme :=
  covering argument.span
    (word argument.name * (mark .colon * argument.value.spelling))

/-- The spellings of a directive behind its sign. -/
def Directive.body (directive : Directive) : Language Lexeme :=
  word directive.name *
    bracketed .parenOpen .parenClose Argument.spelling directive.arguments

/-- The spellings of a directive. -/
def Directive.spelling (directive : Directive) : Language Lexeme :=
  covering directive.span (mark .atSign * directive.body)

/-- The spellings of directives one after another. -/
def annotations (directives : List Directive) : Language Lexeme :=
  sequenced Directive.spelling directives

/-! ## Parts of definitions -/

/-- The spellings of a default value, if there is one. -/
def defaulting : Option Value → Language Lexeme
  | none => 1
  | some value => mark .equals * value.spelling

/-- The spellings of an argument of a definition, or field of an input type. -/
def InputValue.spelling (input : InputValue) : Language Lexeme :=
  covering input.span
    (describing input.description * (word input.name * (mark .colon *
      (input.type.spelling * (defaulting input.default * annotations input.directives)))))

/-- The spellings of the arguments of a definition. -/
def parameterList (arguments : List InputValue) : Language Lexeme :=
  bracketed .parenOpen .parenClose InputValue.spelling arguments

/-- The spellings of a field. -/
def Field.spelling (field : Field) : Language Lexeme :=
  covering field.span
    (describing field.description * (word field.name * (parameterList field.arguments *
      (mark .colon * (field.type.spelling * annotations field.directives)))))

/-- The spellings of the interfaces of an object type. -/
def implementing : List String → Language Lexeme
  | [] => 1
  | names@(_ :: _) => word "implements" * listing .ampersand names

/-- The spellings of the members of a union. -/
def uniting : List String → Language Lexeme
  | [] => 1
  | names@(_ :: _) => mark .equals * listing .pipe names

/-- The spellings of an enumeration value. -/
def EnumValue.spelling (value : EnumValue) : Language Lexeme :=
  covering value.span
    (describing value.description *
      ((if Cursor.isReserved value.name then 0 else word value.name) *
        annotations value.directives))

/-- The spellings of an operation of a schema. -/
def operating (operation : String × String) : Language Lexeme :=
  word operation.1 * (mark .colon * word operation.2)

/-! ## Definitions -/

/-- The spellings of an object type behind its keyword. -/
def ObjectType.body (type : ObjectType) : Language Lexeme :=
  word type.name * (implementing type.interfaces * (annotations type.directives *
    bracketed .braceOpen .braceClose Field.spelling type.fields))

/-- The spellings of an input type behind its keyword. -/
def InputType.body (type : InputType) : Language Lexeme :=
  word type.name * (annotations type.directives *
    bracketed .braceOpen .braceClose InputValue.spelling type.fields)

/-- The spellings of an enumeration behind its keyword. -/
def EnumType.body (type : EnumType) : Language Lexeme :=
  word type.name * (annotations type.directives *
    bracketed .braceOpen .braceClose EnumValue.spelling type.values)

/-- The spellings of a scalar type behind its keyword. -/
def ScalarType.body (type : ScalarType) : Language Lexeme :=
  word type.name * annotations type.directives

/-- The spellings of a union behind its keyword. -/
def UnionType.body (type : UnionType) : Language Lexeme :=
  word type.name * (annotations type.directives * uniting type.members)

/-- The spellings of a directive definition behind its keyword. -/
def DirectiveType.body (type : DirectiveType) : Language Lexeme :=
  mark .atSign * (word type.name * (parameterList type.arguments *
    ((if type.repeatable then word "repeatable" else 1) *
      (word "on" * listing .pipe type.locations))))

/-- The spellings of a schema behind its keyword. -/
def SchemaRoots.body (roots : SchemaRoots) : Language Lexeme :=
  annotations roots.directives *
    (mark .braceOpen * (sequenced operating roots.operations * mark .braceClose))

namespace Definition

/-- The spellings of what stands in front of the keyword.  An extension has no
description, and a schema any. -/
def about : Definition → Language Lexeme
  | extension type => if type.description.isSome then 0 else 1
  | schema _ => describingAnything
  | definition => describing definition.description?

/-- The spellings of a definition behind its keyword. -/
def body : Definition → Language Lexeme
  | object type => type.body
  | extension type => word "type" * type.body
  | interface type => type.body
  | input type => type.body
  | enum type => type.body
  | scalar type => type.body
  | union type => type.body
  | directive type => type.body
  | schema roots => roots.body

/-- The spellings of a definition. -/
def spelling (definition : Definition) : Language Lexeme :=
  covering definition.span
    (definition.about * (word definition.keyword * definition.body))

end Definition

/-- The spellings of a document. -/
def documentSpelling (definitions : List Definition) : Language Lexeme :=
  sequenced Definition.spelling definitions

end EntityMapping.Document
