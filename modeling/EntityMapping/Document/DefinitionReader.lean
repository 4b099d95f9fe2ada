import EntityMapping.Document.ValueReader

/-!
# Readers of definitions

Each form of definition is read behind its keyword.  Its span runs from the
description, or else the keyword, to the last lexeme of the definition.
-/

namespace EntityMapping.Document.Cursor

open EntityMapping.Source

/-- A default value, if an equals sign comes next. -/
def defaultValue (cursor : Cursor) : Passes (Option Value) cursor :=
  match cursor.punct? .equals with
  | none => .ok (.stay none cursor)
  | some sign => do
      let content ← value sign.next
      return ⟨some content.value, content.next,
        Nat.le_of_lt (Nat.lt_trans content.shorter sign.shorter)⟩

/-- An argument of a field or directive definition, or a field of an input type. -/
def inputValue (cursor : Cursor) : Reads InputValue cursor := do
  let about := cursor.description
  let name ← name about.next
  let colon ← punct .colon (.punct .colon) name.next
  let type ← typeRef colon.next
  let default ← defaultValue type.next
  let directives ← directives default.next
  return {
    value :=
      { description := about.value
        name := name.value
        type := type.value
        default := default.value
        directives := directives.value
        span := directives.next.spanSince cursor.span }
    next := directives.next
    shorter := by
      have := about.notLonger
      have := name.shorter
      have := colon.shorter
      have := type.shorter
      have := default.notLonger
      have := directives.notLonger
      omega
  }

/-- Arguments in a definition, if there are any. -/
def parameters (cursor : Cursor) : Passes (List InputValue) cursor :=
  enclosed .parenOpen .parenClose inputValue cursor

/-- A field of an object type. -/
def field (cursor : Cursor) : Reads Field cursor := do
  let about := cursor.description
  let name ← name about.next
  let arguments ← parameters name.next
  let colon ← punct .colon (.fieldType name.value) arguments.next
  let type ← typeRef colon.next
  let directives ← directives type.next
  return {
    value :=
      { description := about.value
        name := name.value
        arguments := arguments.value
        type := type.value
        directives := directives.value
        span := directives.next.spanSince cursor.span }
    next := directives.next
    shorter := by
      have := about.notLonger
      have := name.shorter
      have := arguments.notLonger
      have := colon.shorter
      have := type.shorter
      have := directives.notLonger
      omega
  }

/-- The names of implemented interfaces, if there are any. -/
def interfaces (cursor : Cursor) : Passes (List String) cursor :=
  match cursor.word? "implements" with
  | none => .ok (.stay [] cursor)
  | some word => do
      let names ← separatedNames .ampersand word.next
      return ⟨names.value, names.next, Nat.le_of_lt (Nat.lt_trans names.shorter word.shorter)⟩

/-- An object type behind its keyword. -/
def objectType (about : Option String) (start : Span) (cursor : Cursor) :
    Reads ObjectType cursor := do
  let name ← name cursor
  let interfaces ← interfaces name.next
  let directives ← directives interfaces.next
  let fields ← enclosed .braceOpen .braceClose field directives.next
  return {
    value :=
      { description := about
        name := name.value
        interfaces := interfaces.value
        directives := directives.value
        fields := fields.value
        span := fields.next.spanSince start }
    next := fields.next
    shorter := by
      have := name.shorter
      have := interfaces.notLonger
      have := directives.notLonger
      have := fields.notLonger
      omega
  }

/-- An input type behind its keyword. -/
def inputType (about : Option String) (start : Span) (cursor : Cursor) :
    Reads InputType cursor := do
  let name ← name cursor
  let directives ← directives name.next
  let fields ← enclosed .braceOpen .braceClose inputValue directives.next
  return {
    value :=
      { description := about
        name := name.value
        directives := directives.value
        fields := fields.value
        span := fields.next.spanSince start }
    next := fields.next
    shorter := by
      have := name.shorter
      have := directives.notLonger
      have := fields.notLonger
      omega
  }

/-- Whether a word denotes a constant of its own and so no enumeration value. -/
def isReserved (word : String) : Bool :=
  word = "true" || word = "false" || word = "null"

/-- A value of an enumeration. -/
def enumValue (cursor : Cursor) : Reads EnumValue cursor := do
  let about := cursor.description
  let name ← name about.next
  if isReserved name.value then
    .error ⟨.reservedEnumValue name.value, name.next.last⟩
  else
    let directives ← directives name.next
    return {
      value :=
        { description := about.value
          name := name.value
          directives := directives.value
          span := directives.next.spanSince cursor.span }
      next := directives.next
      shorter := by
        have := about.notLonger
        have := name.shorter
        have := directives.notLonger
        omega
    }

/-- An enumeration behind its keyword. -/
def enumType (about : Option String) (start : Span) (cursor : Cursor) :
    Reads EnumType cursor := do
  let name ← name cursor
  let directives ← directives name.next
  let values ← enclosed .braceOpen .braceClose enumValue directives.next
  return {
    value :=
      { description := about
        name := name.value
        directives := directives.value
        values := values.value
        span := values.next.spanSince start }
    next := values.next
    shorter := by
      have := name.shorter
      have := directives.notLonger
      have := values.notLonger
      omega
  }

/-- A scalar type behind its keyword. -/
def scalarType (about : Option String) (start : Span) (cursor : Cursor) :
    Reads ScalarType cursor := do
  let name ← name cursor
  let directives ← directives name.next
  return {
    value :=
      { description := about
        name := name.value
        directives := directives.value
        span := directives.next.spanSince start }
    next := directives.next
    shorter := Nat.lt_of_le_of_lt directives.notLonger name.shorter
  }

/-- The members of a union, if there are any. -/
def members (cursor : Cursor) : Passes (List String) cursor :=
  match cursor.punct? .equals with
  | none => .ok (.stay [] cursor)
  | some sign => do
      let names ← separatedNames .pipe sign.next
      return ⟨names.value, names.next, Nat.le_of_lt (Nat.lt_trans names.shorter sign.shorter)⟩

/-- A union behind its keyword. -/
def unionType (about : Option String) (start : Span) (cursor : Cursor) :
    Reads UnionType cursor := do
  let name ← name cursor
  let directives ← directives name.next
  let members ← members directives.next
  return {
    value :=
      { description := about
        name := name.value
        directives := directives.value
        members := members.value
        span := members.next.spanSince start }
    next := members.next
    shorter := by
      have := name.shorter
      have := directives.notLonger
      have := members.notLonger
      omega
  }

/-- The word in front of the locations of a directive definition. -/
def locationsWord (directive : String) (cursor : Cursor) : Reads Unit cursor :=
  match cursor.word? "on" with
  | some word => .ok word
  | none => .error (cursor.wants (.locations directive))

/-- A directive definition behind its keyword. -/
def directiveType (about : Option String) (start : Span) (cursor : Cursor) :
    Reads DirectiveType cursor := do
  let sign ← punct .atSign (.punct .atSign) cursor
  let name ← name sign.next
  let arguments ← parameters name.next
  let repeatable := arguments.next.skipWord "repeatable"
  let word ← locationsWord name.value repeatable.next
  let locations ← separatedNames .pipe word.next
  return {
    value :=
      { description := about
        name := name.value
        arguments := arguments.value
        repeatable := repeatable.value
        locations := locations.value
        span := locations.next.spanSince start }
    next := locations.next
    shorter := by
      have := sign.shorter
      have := name.shorter
      have := arguments.notLonger
      have := repeatable.notLonger
      have := word.shorter
      have := locations.shorter
      omega
  }

/-- An operation of a schema and its root type. -/
def operation (cursor : Cursor) : Reads (String × String) cursor := do
  let kind ← name cursor
  let colon ← punct .colon (.punct .colon) kind.next
  let root ← name colon.next
  return ⟨(kind.value, root.value), root.next,
    Nat.lt_trans root.shorter (Nat.lt_trans colon.shorter kind.shorter)⟩

/-- A schema behind its keyword. -/
def schemaRoots (start : Span) (cursor : Cursor) : Reads SchemaRoots cursor := do
  let directives ← directives cursor
  let opening ← punct .braceOpen (.punct .braceOpen) directives.next
  let operations ← many .braceClose operation opening.next
  return {
    value :=
      { directives := directives.value
        operations := operations.value
        span := operations.next.spanSince start }
    next := operations.next
    shorter := by
      have := directives.notLonger
      have := opening.shorter
      have := operations.shorter
      omega
  }

/-- An extension behind its keyword.  Only object types can be extended, and an
extension has no description. -/
def extension (about : Option String) (start : Span) (cursor : Cursor) :
    Reads ObjectType cursor :=
  if about.isSome then .error ⟨.describedExtension, start⟩
  else do
    let what ← name cursor
    if what.value = "type" then
      let type ← objectType none start what.next
      return ⟨type.value, type.next, Nat.lt_trans type.shorter what.shorter⟩
    else
      .error ⟨.unsupportedExtension what.value, what.next.last⟩

/-- A definition behind its keyword. -/
def definitionBehind (keyword : String) (about : Option String) (start : Span)
    (cursor : Cursor) : Reads Definition cursor :=
  match keyword with
  | "type" => (objectType about start cursor).map (·.map .object)
  | "interface" => (objectType about start cursor).map (·.map .interface)
  | "input" => (inputType about start cursor).map (·.map .input)
  | "enum" => (enumType about start cursor).map (·.map .enum)
  | "scalar" => (scalarType about start cursor).map (·.map .scalar)
  | "union" => (unionType about start cursor).map (·.map .union)
  | "directive" => (directiveType about start cursor).map (·.map .directive)
  | "schema" => (schemaRoots start cursor).map (·.map .schema)
  | "extend" => (extension about start cursor).map (·.map .extension)
  | word => .error ⟨.unknownDefinition word, cursor.last⟩

/-- A definition. -/
def definition (cursor : Cursor) : Reads Definition cursor := do
  let about := cursor.description
  let keyword ← name about.next
  let definition ← definitionBehind keyword.value about.value cursor.span keyword.next
  return ⟨definition.value, definition.next,
    Nat.lt_trans definition.shorter (Nat.lt_of_lt_of_le keyword.shorter about.notLonger)⟩

/-- All definitions up to the end. -/
def definitions (cursor : Cursor) : Except SyntaxError (List Definition) :=
  match _rest : cursor.rest with
  | [] => .ok []
  | _ :: _ => do
      let first ← definition cursor
      let others ← definitions first.next
      return first.value :: others
termination_by cursor.rest.length
decreasing_by exact first.shorter

end EntityMapping.Document.Cursor
