import EntityMapping.Document.Token
import EntityMapping.Source.Excerpt

/-!
# Syntax errors

Why a text is not a mapping file, where, and how that is worded.
-/

namespace EntityMapping.Document

open EntityMapping.Source

/-- What the grammar asks for at a place. -/
inductive Expectation where
  | name
  | punct (punctuator : Punctuator)
  /-- The colon between a field and its type. -/
  | fieldType (field : String)
  /-- The colon between an argument of a directive and its value. -/
  | argumentValue (directive argument : String)
  /-- The word before the locations of a directive definition. -/
  | locations (directive : String)
deriving DecidableEq

namespace Expectation

/-- The expectation as it is shown to a reader. -/
def text : Expectation → String
  | name => "a name"
  | punct punctuator => "'" ++ punctuator.text ++ "'"
  | fieldType _ => "':'"
  | argumentValue _ _ => "':'"
  | locations _ => "`on`"

/-- Advice for a reader who did not meet the expectation. -/
def hint? : Expectation → Option String
  | name => none
  | punct _ => none
  | fieldType field =>
      some ("field `" ++ field ++ "` needs a type, e.g. `" ++ field ++ ": String`")
  | argumentValue directive argument =>
      some ("directive arguments are named, e.g. `@" ++ directive ++ "(" ++ argument ++
        ": ...)`")
  | locations directive =>
      some ("directive definitions list their locations, e.g. `directive @" ++ directive ++
        " on OBJECT`")

end Expectation

/-- Why a text is not a mapping file. -/
inductive SyntaxCause where
  /-- Characters that are no token. -/
  | noToken (text : String)
  /-- Something else, or nothing, where the grammar asks for something. -/
  | unexpected (wanted : Expectation) (found : Option Token)
  /-- The text ends where a value must stand. -/
  | noValue
  /-- A token that no value begins with. -/
  | notValue (found : Token)
  /-- A variable where a constant must stand. -/
  | notConstant
  /-- A description in front of an extension. -/
  | describedExtension
  /-- An extension of something that cannot be extended. -/
  | unsupportedExtension (what : String)
  /-- A word that begins no definition. -/
  | unknownDefinition (word : String)
  /-- An enumeration value with the name of another constant. -/
  | reservedEnumValue (name : String)
deriving DecidableEq

namespace SyntaxCause

/-- The message of a cause. -/
def message : SyntaxCause → String
  | noToken text => "unexpected character sequence `" ++ text ++ "`"
  | unexpected wanted found =>
      "expected " ++ wanted.text ++ ", found " ++
        match found with
        | some token => token.description
        | none => "end of input"
  | noValue => "unexpected end of input"
  | notValue found => "expected a value, found " ++ found.description
  | notConstant => "variables are not allowed in mapping files"
  | describedExtension => "extensions cannot have a description"
  | unsupportedExtension what => "unsupported extension `extend " ++ what ++ "`"
  | unknownDefinition word => "expected a type system definition, found `" ++ word ++ "`"
  | reservedEnumValue name => "`" ++ name ++ "` cannot be used as an enum value"

/-- Advice that goes with a cause. -/
def hint? : SyntaxCause → Option String
  | noToken text =>
      if text.toList.head? = some '"' then
        some "string literals must be closed and use valid escapes"
      else none
  | unexpected wanted _ => wanted.hint?
  | notConstant => some "directive arguments must be constant values"
  | unsupportedExtension _ => some "only `extend type` is supported in mapping files"
  | unknownDefinition _ =>
      some ("mapping files contain `type`, `interface`, `input`, `enum`, `scalar`, `union`, " ++
        "`directive` or `schema` definitions")
  | _ => none

end SyntaxCause

/-- A cause and the place it was found at. -/
structure SyntaxError where
  cause : SyntaxCause
  span : Span
deriving DecidableEq

namespace SyntaxError

/-- What is shown to the reader. -/
def complaint (error : SyntaxError) : Complaint :=
  ⟨error.cause.message, error.span, error.cause.hint?⟩

/-- The error rendered against the text it was found in. -/
def render (source : String) (error : SyntaxError) : String :=
  error.complaint.render source

end SyntaxError

end EntityMapping.Document
