import EntityMapping.Document.Reader

/-!
# Readers as programs

The readers of mapping files once more, as programs that hold a position in a list of lexemes.
A program looks at the lexeme at its position, moves on by one, enters functions and runs
loops.  Nothing keeps a program from running on forever: that its loops end is a matter of
what their rounds do, and is to be proved.
-/

namespace EntityMapping.Document

open EntityMapping.Source

/-- The functions that call themselves. -/
inductive Routine where
  | typeRef
  | value

/-- What a routine reads. -/
abbrev Routine.Result : Routine → Type
  | typeRef => TypeRef
  | value => Value

/-- What is left to do of a program. -/
inductive Program : Type → Type 1 where
  | done {α : Type} (value : α) : Program α
  | fail {α : Type} (error : SyntaxError) : Program α
  /-- Look at the lexeme at the position; behind the last one there is none. -/
  | peek {α : Type} (next : Option Lexeme → Program α) : Program α
  /-- Look up where the lexeme stands that was passed last. -/
  | lookBack {α : Type} (next : Span → Program α) : Program α
  /-- Move behind the lexeme at the position, if there is one. -/
  | advance {α : Type} (next : Program α) : Program α
  /-- Enter a function that does not call itself. -/
  | enter {α : Type} (next : Program α) : Program α
  /-- Enter a function that calls itself. -/
  | call {α : Type} (routine : Routine) (next : routine.Result → Program α) : Program α
  /-- Run rounds that come to an item each, until one comes to none. -/
  | iterate {α β : Type} (round : Program (Option β)) (next : List β → Program α) : Program α

namespace Program

variable {α β : Type}

/-- Do one program, and with its value another. -/
def bind {α β : Type} : Program α → (α → Program β) → Program β
  | .done value, rest => rest value
  | .fail error, _ => .fail error
  | .peek next, rest => .peek fun lexeme => (next lexeme).bind rest
  | .lookBack next, rest => .lookBack fun last => (next last).bind rest
  | .advance next, rest => .advance (next.bind rest)
  | .enter next, rest => .enter (next.bind rest)
  | .call routine next, rest => .call routine fun value => (next value).bind rest
  | .iterate round next, rest => .iterate round fun items => (next items).bind rest

instance : Monad Program where
  pure := .done
  bind := bind

theorem bind_done (program : Program α) : program.bind .done = program := by
  induction program with
  | done value => rfl
  | fail error => rfl
  | peek next ih => exact congrArg peek (funext ih)
  | lookBack next ih => exact congrArg lookBack (funext ih)
  | advance next ih => exact congrArg advance ih
  | enter next ih => exact congrArg enter ih
  | call routine next ih => exact congrArg (call routine) (funext ih)
  | iterate round next _ ih => exact congrArg (iterate round) (funext ih)

theorem bind_bind {γ : Type} (program : Program α) (rest : α → Program β)
    (others : β → Program γ) :
    (program.bind rest).bind others = program.bind fun value => (rest value).bind others := by
  induction program with
  | done value => rfl
  | fail error => rfl
  | peek next ih => exact congrArg peek (funext fun lexeme => ih lexeme rest)
  | lookBack next ih => exact congrArg lookBack (funext fun last => ih last rest)
  | advance next ih => exact congrArg advance (ih rest)
  | enter next ih => exact congrArg enter (ih rest)
  | call routine next ih => exact congrArg (call routine) (funext fun value => ih value rest)
  | iterate round next _ ih => exact congrArg (iterate round) (funext fun items => ih items rest)

/-! ## Single lexemes -/

/-- Where the next lexeme stands, or the place behind the last one. -/
def here : Program Span :=
  enter (peek fun
    | some lexeme => done lexeme.span
    | none => lookBack fun last => done last.endPoint)

/-- From a place up to the lexeme passed last. -/
def since (start : Span) : Program Span :=
  lookBack fun last => done (start.merge last)

/-- Complain where the lexeme stands that was passed last. -/
def complain (cause : SyntaxCause) : Program α :=
  lookBack fun last => fail ⟨cause, last⟩

/-- Complain that something else is wanted at the position. -/
def unexpected (wanted : Expectation) : Program α :=
  enter (peek fun
    | some lexeme => fail ⟨.unexpected wanted (some lexeme.token), lexeme.span⟩
    | none => lookBack fun last => fail ⟨.unexpected wanted none, last.endPoint⟩)

/-- Any lexeme. -/
def anyLexeme : Program Lexeme :=
  enter (peek fun
    | some lexeme => advance (done lexeme)
    | none => lookBack fun last => fail ⟨.noValue, last.endPoint⟩)

/-- Whether a token comes next. -/
def sees (token : Token) : Program Bool :=
  peek fun
    | some lexeme => done (decide (lexeme.token = token))
    | none => done false

/-- Whether a token comes next; if so it is passed. -/
def eat (token : Token) : Program Bool :=
  enter (peek fun
    | some lexeme => if lexeme.token = token then advance (done true) else done false
    | none => done false)

/-- A given punctuator; the expectation is what a complaint asks for. -/
def expect (wanted : Punctuator) (expectation : Expectation) : Program Unit :=
  enter (peek fun
    | some lexeme =>
        if lexeme.token = .punct wanted then do
          let _ ← anyLexeme
          return ()
        else unexpected expectation
    | none => unexpected expectation)

/-- A name. -/
def name : Program String :=
  enter (peek fun
    | some ⟨.name word, _⟩ => do
        let _ ← anyLexeme
        return word
    | _ => unexpected .name)

/-- A description: a string of either kind. -/
def description : Program (Option String) :=
  enter (peek fun
    | some ⟨.string text, _⟩ => advance (done (some text))
    | some ⟨.blockString text, _⟩ => advance (done (some text))
    | _ => done none)

/-! ## Loops -/

/-- Items as long as a test comes out true. -/
def repeatWhile (test : Program Bool) (item : Program β) : Program (List β) :=
  iterate (do if ← test then return some (← item) else return none) done

/-- A part behind a token, or else something that does not begin with the token. -/
def optional (token : Token) (behind otherwise : Program α) : Program α := do
  if ← eat token then behind else otherwise

/-- Items up to a closing punctuator. -/
def itemsUntil (close : Punctuator) (item : Program β) : Program (List β) :=
  repeatWhile (do return !(← eat (.punct close))) item

/-- Items between two punctuators, if the opening one comes next. -/
def enclosed (opening close : Punctuator) (item : Program β) : Program (List β) :=
  optional (.punct opening) (itemsUntil close item) (return [])

/-- Further names, each behind a separator. -/
def namesBehind (separator : Punctuator) : Program (List String) :=
  repeatWhile (eat (.punct separator)) name

/-- Names with separators between them, and possibly one in front. -/
def separatedNames (separator : Punctuator) : Program (List String) := do
  let _ ← eat (.punct separator)
  let first ← name
  let others ← namesBehind separator
  return first :: others

/-! ## Types and values -/

/-- A type reference. -/
def typeRef : Program TypeRef :=
  call .typeRef done

/-- A constant value. -/
def value : Program Value :=
  call .value done

/-- A type reference up to where its mark would stand. -/
def bareTypeRef : Program TypeRef :=
  optional (.punct .bracketOpen)
    (do
      let item ← typeRef
      let _ ← expect .bracketClose (.punct .bracketClose)
      return .list item)
    (do return .named (← name))

/-- What reading a type reference does. -/
def typeRefBody : Program TypeRef := do
  let inner ← bareTypeRef
  let isMarked ← eat (.punct .bang)
  return if isMarked then .nonNull inner else inner

/-- A field of an object value. -/
def entry : Program (String × Value) := do
  let key ← name
  let _ ← expect .colon (.punct .colon)
  let content ← value
  return (key, content)

/-- What reading a value does behind its first lexeme. -/
def valueBehind : Lexeme → Program Value
  | ⟨.int number, _⟩ => return .int number
  | ⟨.float number, _⟩ => return .float number
  | ⟨.string text, _⟩ => return .string text
  | ⟨.blockString text, _⟩ => return .string text
  | ⟨.name word, _⟩ => return Cursor.wordValue word
  | ⟨.punct .bracketOpen, _⟩ => do return .list (← itemsUntil .bracketClose value)
  | ⟨.punct .braceOpen, _⟩ => do return .object (← itemsUntil .braceClose entry)
  | ⟨.punct .dollar, span⟩ => fail ⟨.notConstant, span⟩
  | ⟨.punct other, span⟩ => fail ⟨.notValue (.punct other), span⟩

/-- What reading a value does. -/
def valueBody : Program Value :=
  anyLexeme >>= valueBehind

/-! ## Directives -/

/-- An argument of the directive of the given name. -/
def argument (directive : String) : Program Argument := do
  let start ← here
  let name ← name
  let _ ← expect .colon (.argumentValue directive name)
  let value ← value
  return ⟨name, value, ← since start⟩

/-- The name and arguments of a directive behind its sign. -/
def directiveBehind (start : Span) : Program Directive := do
  let name ← name
  let arguments ← enclosed .parenOpen .parenClose (argument name)
  return ⟨name, arguments, ← since start⟩

/-- A directive at whose sign the position is. -/
def directive : Program Directive := do
  let start ← here
  advance (directiveBehind start)

/-- All directives that come next. -/
def directives : Program (List Directive) :=
  enter (repeatWhile (sees (.punct .atSign)) directive)

/-! ## Parts of definitions -/

/-- A default value, if an equals sign comes next. -/
def defaultValue : Program (Option Value) :=
  optional (.punct .equals) (do return some (← value)) (return none)

/-- An argument of a field or directive definition, or a field of an input type. -/
def inputValue : Program InputValue := enter do
  let start ← here
  let about ← description
  let name ← name
  let _ ← expect .colon (.punct .colon)
  let type ← typeRef
  let default ← defaultValue
  let directives ← directives
  return ⟨about, name, type, default, directives, ← since start⟩

/-- Arguments in a definition, if there are any. -/
def parameters : Program (List InputValue) :=
  enclosed .parenOpen .parenClose inputValue

/-- A field of an object type. -/
def field : Program Field := enter do
  let start ← here
  let about ← description
  let name ← name
  let arguments ← parameters
  let _ ← expect .colon (.fieldType name)
  let type ← typeRef
  let directives ← directives
  return ⟨about, name, arguments, type, directives, ← since start⟩

/-- The names of implemented interfaces, if there are any. -/
def interfaces : Program (List String) :=
  optional (.name "implements") (separatedNames .ampersand) (return [])

/-- The members of a union, if there are any. -/
def members : Program (List String) :=
  optional (.punct .equals) (separatedNames .pipe) (return [])

/-- A value of an enumeration. -/
def enumValue : Program EnumValue := do
  let start ← here
  let about ← description
  let name ← name
  if Cursor.isReserved name then complain (.reservedEnumValue name)
  else do
    let directives ← directives
    return ⟨about, name, directives, ← since start⟩

/-- The word in front of the locations of a directive definition. -/
def locationsWord (directive : String) : Program Unit :=
  optional (.name "on") (return ()) (unexpected (.locations directive))

/-- An operation of a schema and its root type. -/
def operation : Program (String × String) := do
  let kind ← name
  let _ ← expect .colon (.punct .colon)
  let root ← name
  return (kind, root)

/-! ## Definitions -/

/-- An object type behind its keyword. -/
def objectType (about : Option String) (start : Span) : Program ObjectType := enter do
  let name ← name
  let interfaces ← interfaces
  let directives ← directives
  let fields ← enclosed .braceOpen .braceClose field
  return ⟨about, name, interfaces, directives, fields, ← since start⟩

/-- An input type behind its keyword. -/
def inputType (about : Option String) (start : Span) : Program InputType := enter do
  let name ← name
  let directives ← directives
  let fields ← enclosed .braceOpen .braceClose inputValue
  return ⟨about, name, directives, fields, ← since start⟩

/-- An enumeration behind its keyword. -/
def enumType (about : Option String) (start : Span) : Program EnumType := enter do
  let name ← name
  let directives ← directives
  let values ← enclosed .braceOpen .braceClose enumValue
  return ⟨about, name, directives, values, ← since start⟩

/-- A scalar type behind its keyword. -/
def scalarType (about : Option String) (start : Span) : Program ScalarType := do
  let name ← name
  let directives ← directives
  return ⟨about, name, directives, ← since start⟩

/-- A union behind its keyword. -/
def unionType (about : Option String) (start : Span) : Program UnionType := enter do
  let name ← name
  let directives ← directives
  let members ← members
  return ⟨about, name, directives, members, ← since start⟩

/-- A directive definition behind its keyword. -/
def directiveType (about : Option String) (start : Span) : Program DirectiveType := enter do
  let _ ← expect .atSign (.punct .atSign)
  let name ← name
  let arguments ← parameters
  let repeatable ← eat (.name "repeatable")
  let _ ← locationsWord name
  let locations ← separatedNames .pipe
  return ⟨about, name, arguments, repeatable, locations, ← since start⟩

/-- A schema behind its keyword. -/
def schemaRoots (start : Span) : Program SchemaRoots := enter do
  let directives ← directives
  let _ ← expect .braceOpen (.punct .braceOpen)
  let operations ← itemsUntil .braceClose operation
  return ⟨directives, operations, ← since start⟩

/-- An extension behind its keyword. -/
def extension (about : Option String) (start : Span) : Program ObjectType :=
  if about.isSome then fail ⟨.describedExtension, start⟩
  else do
    let what ← name
    if what = "type" then objectType none start
    else complain (.unsupportedExtension what)

/-- A definition behind its keyword. -/
def definitionBehind (keyword : String) (about : Option String) (start : Span) :
    Program Definition :=
  match keyword with
  | "type" => do return .object (← objectType about start)
  | "interface" => do return .interface (← objectType about start)
  | "input" => do return .input (← inputType about start)
  | "enum" => do return .enum (← enumType about start)
  | "scalar" => do return .scalar (← scalarType about start)
  | "union" => do return .union (← unionType about start)
  | "directive" => do return .directive (← directiveType about start)
  | "schema" => do return .schema (← schemaRoots start)
  | "extend" => do return .extension (← extension about start)
  | word => complain (.unknownDefinition word)

/-- A definition. -/
def definition : Program Definition := enter do
  let start ← here
  let about ← description
  let keyword ← name
  definitionBehind keyword about start

/-- Whether there is another lexeme. -/
def more : Program Bool :=
  peek fun lexeme => done lexeme.isSome

/-- All definitions up to the end. -/
def document : Program (List Definition) :=
  enter (repeatWhile more definition)

end Program

/-- What calling a routine does. -/
def Routine.body : (routine : Routine) → Program routine.Result
  | typeRef => Program.typeRefBody
  | value => Program.valueBody

end EntityMapping.Document
