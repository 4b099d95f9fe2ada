import EntityMapping.Proofs.Document.Advance

/-!
# The liberties of spelling

Every spelling of a definition has its canonical tokens, but for a few liberties that
can be told without knowing the definition.
-/

namespace EntityMapping.Document

open EntityMapping.Source

/-- A token behind which names are listed, and the separator between them. -/
inductive Lists : Token → Punctuator → Prop where
  | interfaces : Lists (.name "implements") .ampersand
  | members : Lists (.punct .equals) .pipe
  | locations : Lists (.name "on") .pipe

/-- Brackets that may be left out when nothing stands between them. -/
inductive Omissible : Punctuator → Punctuator → Prop where
  | parens : Omissible .parenOpen .parenClose
  | braces : Omissible .braceOpen .braceClose

/-- Canonical tokens, and tokens that differ from them in the liberties of spelling only:
a block string may stand for a string, a separator in front of the first name of a list,
optional brackets around nothing, and a description in front of a schema. -/
inductive Varies : List Token → List Token → Prop where
  | nil : Varies [] []
  | same {canonical written : List Token} (token : Token) (rest : Varies canonical written) :
      Varies (token :: canonical) (token :: written)
  | blockString {canonical written : List Token} (text : String)
      (rest : Varies canonical written) :
      Varies (.string text :: canonical) (.blockString text :: written)
  | separator {canonical written : List Token} {opener : Token} {separator : Punctuator}
      (lists : Lists opener separator) (rest : Varies canonical written) :
      Varies (opener :: canonical) (opener :: .punct separator :: written)
  | brackets {canonical written : List Token} {opening close : Punctuator}
      (omissible : Omissible opening close) (rest : Varies canonical written) :
      Varies canonical (.punct opening :: .punct close :: written)
  | description {canonical written : List Token} {quotation : Token}
      (quotes : quotation.stringValue? ≠ none) (rest : Varies canonical written) :
      Varies (.name "schema" :: canonical) (quotation :: .name "schema" :: written)

theorem Varies.append {left right written more : List Token} (front : Varies left written)
    (back : Varies right more) : Varies (left ++ right) (written ++ more) := by
  induction front with
  | nil => exact back
  | same token rest ih => exact .same token ih
  | blockString text rest ih => exact .blockString text ih
  | separator lists rest ih => exact .separator lists ih
  | brackets omissible rest ih => exact .brackets omissible ih
  | description quotes rest ih => exact .description quotes ih

/-! ## Tokens of a language -/

/-- A language all of whose sequences have the given tokens, but for the liberties. -/
def Loose (canonical : List Token) (language : Language Lexeme) : Prop :=
  ∀ used ∈ language, Varies canonical (used.map Lexeme.token)

section Languages

variable {canonical front back : List Token} {left right : Language Lexeme}

theorem loose_one : Loose [] 1 := by
  intro used member
  rw [(Language.mem_one used).mp member]
  exact .nil

theorem loose_zero : Loose canonical 0 :=
  fun used member => absurd member (Language.notMem_zero used)

theorem loose_single (token : Token) : Loose [token] (single token) := by
  rintro used ⟨span, rfl⟩
  exact .same token .nil

theorem loose_quotation (text : String) : Loose [.string text] (quotation text) := by
  intro used member
  rcases (Language.mem_add _ _ used).mp member with plain | block
  · exact loose_single _ used plain
  · obtain ⟨span, rfl⟩ := block
    exact .blockString text .nil

theorem Loose.mul (inLeft : Loose front left) (inRight : Loose back right) :
    Loose (front ++ back) (left * right) := by
  intro used member
  obtain ⟨first, inFirst, second, inSecond, rfl⟩ := Language.mem_mul.mp member
  rw [List.map_append]
  exact (inLeft first inFirst).append (inRight second inSecond)

theorem Loose.covering (loose : Loose canonical left) (span : Span) :
    Loose canonical (covering span left) :=
  fun used member => loose used member.1

theorem loose_sequenced {α : Type} {tokens : α → List Token} {spelling : α → Language Lexeme}
    (each : ∀ item, Loose (tokens item) (spelling item)) (items : List α) :
    Loose (items.map tokens).flatten (sequenced spelling items) := by
  induction items with
  | nil => exact loose_one
  | cons item rest ih =>
      rw [sequenced_cons]
      exact (each item).mul ih

theorem loose_bracketed {α : Type} {tokens : α → List Token} {spelling : α → Language Lexeme}
    {opening close : Punctuator} (omissible : Omissible opening close)
    (each : ∀ item, Loose (tokens item) (spelling item)) (items : List α) :
    Loose (enclosedTokens opening close (items.map tokens))
      (bracketed opening close spelling items) := by
  have full := (loose_single (.punct opening)).mul
    ((loose_sequenced each items).mul (loose_single (.punct close)))
  cases items with
  | nil =>
      intro used member
      rcases (Language.mem_add _ _ used).mp member with absent | present
      · exact loose_one used absent
      · obtain ⟨first, ⟨opened, rfl⟩, rest, inRest, rfl⟩ := Language.mem_mul.mp present
        obtain ⟨none, isNone, last, ⟨closed, rfl⟩, rfl⟩ := Language.mem_mul.mp inRest
        rw [(Language.mem_one none).mp isNone]
        exact .brackets omissible .nil
  | cons item rest =>
      intro used member
      rcases (Language.mem_add _ _ used).mp member with absent | present
      · exact absurd absent (Language.notMem_zero used)
      · exact full used present

theorem loose_listing {opener : Token} {separator : Punctuator} (lists : Lists opener separator)
    (names : List String) :
    Loose (opener :: separatedTokens separator names)
      (single opener * listing separator names) := by
  cases names with
  | nil =>
      intro used member
      obtain ⟨head, -, rest, inRest, -⟩ := Language.mem_mul.mp member
      exact absurd inRest (Language.notMem_zero rest)
  | cons first others =>
      have further := loose_sequenced
        (fun name => (loose_single (.punct separator)).mul (loose_single (.name name))) others
      have named := (loose_single (.name first)).mul further
      intro used member
      obtain ⟨head, ⟨span, rfl⟩, rest, inRest, rfl⟩ := Language.mem_mul.mp member
      obtain ⟨leading, isLeading, behind, inBehind, rfl⟩ := Language.mem_mul.mp inRest
      rcases (Language.mem_add _ _ leading).mp isLeading with absent | ⟨place, rfl⟩
      · rw [(Language.mem_one leading).mp absent]
        exact .same opener (named behind inBehind)
      · exact .separator lists (named behind inBehind)

end Languages

/-! ## Values and types -/

mutual

theorem Value.loose (value : Value) : Loose value.tokens value.spelling := by
  cases value with
  | null => exact loose_single _
  | boolean value => cases value <;> exact loose_single _
  | int value => exact loose_single _
  | float value => exact loose_single _
  | string value => exact loose_quotation value
  | enum name =>
      rw [Value.spelling]
      split
      · exact loose_zero
      · exact loose_single _
  | list items => exact (loose_single _).mul ((loose_items items).mul (loose_single _))
  | object fields => exact (loose_single _).mul ((loose_fields fields).mul (loose_single _))

theorem loose_items (items : List Value) :
    Loose (Value.itemsTokens items) (Value.itemsSpelling items) := by
  cases items with
  | nil => exact loose_one
  | cons item rest => exact item.loose.mul (loose_items rest)

theorem loose_fields (fields : List (String × Value)) :
    Loose (Value.fieldsTokens fields) (Value.fieldsSpelling fields) := by
  cases fields with
  | nil => exact loose_one
  | cons field rest =>
      obtain ⟨key, value⟩ := field
      exact ((loose_single _).mul ((loose_single _).mul value.loose)).mul (loose_fields rest)

end

theorem TypeRef.loose (type : TypeRef) : Loose type.tokens type.spelling := by
  induction type with
  | named name => exact loose_single _
  | list item ih => exact (loose_single _).mul (ih.mul (loose_single _))
  | nonNull inner ih =>
      rw [TypeRef.spelling]
      split
      · exact loose_zero
      · exact ih.mul (loose_single _)

/-! ## Parts of definitions -/

theorem loose_describing (about : Option String) :
    Loose (descriptionTokens about) (describing about) := by
  cases about with
  | none => exact loose_one
  | some text => exact loose_quotation text

theorem loose_defaulting (default : Option Value) :
    Loose (defaultTokens default) (defaulting default) := by
  cases default with
  | none => exact loose_one
  | some value => exact (loose_single _).mul value.loose

theorem loose_implementing (names : List String) :
    Loose (interfacesTokens names) (implementing names) := by
  cases names with
  | nil => exact loose_one
  | cons first others => exact loose_listing .interfaces (first :: others)

theorem loose_uniting (names : List String) : Loose (membersTokens names) (uniting names) := by
  cases names with
  | nil => exact loose_one
  | cons first others => exact loose_listing .members (first :: others)

theorem loose_operating (operation : String × String) :
    Loose (operationTokens operation) (operating operation) :=
  (loose_single _).mul ((loose_single _).mul (loose_single _))

theorem Argument.loose (argument : Argument) : Loose argument.tokens argument.spelling :=
  ((loose_single _).mul ((loose_single _).mul argument.value.loose)).covering argument.span

theorem Directive.loose (directive : Directive) : Loose directive.tokens directive.spelling :=
  ((loose_single _).mul ((loose_single _).mul
    (loose_bracketed .parens Argument.loose directive.arguments))).covering directive.span

theorem loose_annotations (directives : List Directive) :
    Loose (directivesTokens directives) (annotations directives) :=
  loose_sequenced Directive.loose directives

theorem InputValue.loose (input : InputValue) : Loose input.tokens input.spelling :=
  ((loose_describing input.description).mul ((loose_single _).mul ((loose_single _).mul
    (input.type.loose.mul ((loose_defaulting input.default).mul
      (loose_annotations input.directives)))))).covering input.span

theorem loose_parameterList (arguments : List InputValue) :
    Loose (parametersTokens arguments) (parameterList arguments) :=
  loose_bracketed .parens InputValue.loose arguments

theorem Field.loose (field : Field) : Loose field.tokens field.spelling :=
  ((loose_describing field.description).mul ((loose_single _).mul
    ((loose_parameterList field.arguments).mul ((loose_single _).mul
      (field.type.loose.mul (loose_annotations field.directives)))))).covering field.span

theorem EnumValue.loose (value : EnumValue) : Loose value.tokens value.spelling := by
  have name : Loose [.name value.name]
      (if Cursor.isReserved value.name then 0 else word value.name) := by
    split
    · exact loose_zero
    · exact loose_single _
  exact ((loose_describing value.description).mul
    (name.mul (loose_annotations value.directives))).covering value.span

/-! ## Definitions -/

theorem ObjectType.loose (type : ObjectType) : Loose type.tokens type.body :=
  (loose_single _).mul ((loose_implementing type.interfaces).mul
    ((loose_annotations type.directives).mul (loose_bracketed .braces Field.loose type.fields)))

theorem DirectiveType.loose (type : DirectiveType) :
    Loose (Definition.directive type).bodyTokens type.body := by
  have repeatable : Loose (if type.repeatable then [.name "repeatable"] else [])
      (if type.repeatable then word "repeatable" else 1) := by
    split
    · exact loose_single _
    · exact loose_one
  exact (loose_single _).mul ((loose_single _).mul ((loose_parameterList type.arguments).mul
    (repeatable.mul (loose_listing .locations type.locations))))

namespace Definition

theorem loose_body (definition : Definition) : Loose definition.bodyTokens definition.body := by
  cases definition with
  | object type => exact type.loose
  | interface type => exact type.loose
  | extension type => exact (loose_single _).mul type.loose
  | input type =>
      exact (loose_single _).mul ((loose_annotations type.directives).mul
        (loose_bracketed .braces InputValue.loose type.fields))
  | enum type =>
      exact (loose_single _).mul ((loose_annotations type.directives).mul
        (loose_bracketed .braces EnumValue.loose type.values))
  | scalar type => exact (loose_single _).mul (loose_annotations type.directives)
  | union type =>
      exact (loose_single _).mul ((loose_annotations type.directives).mul
        (loose_uniting type.members))
  | directive type => exact type.loose
  | schema roots =>
      exact (loose_annotations roots.directives).mul ((loose_single _).mul
        ((loose_sequenced loose_operating roots.operations).mul (loose_single _)))

/-- Behind a description that a schema does not keep stands its keyword. -/
theorem loose_heading (definition : Definition) :
    Loose (descriptionTokens definition.description? ++ [.name definition.keyword])
      (definition.about * word definition.keyword) := by
  have kept := (loose_describing definition.description?).mul
    (loose_single (.name definition.keyword))
  cases definition with
  | extension type =>
      rw [about]
      split
      · rw [zero_mul]
        exact loose_zero
      · rename_i undescribed
        rw [description?, Option.not_isSome_iff_eq_none.mp undescribed]
        exact loose_one.mul (loose_single _)
  | schema roots =>
      intro used member
      obtain ⟨about, ⟨text, described⟩, keyword, ⟨span, rfl⟩, rfl⟩ := Language.mem_mul.mp member
      cases text with
      | none =>
          rw [(Language.mem_one about).mp described]
          exact .same _ .nil
      | some text =>
          rcases (Language.mem_add _ _ about).mp described with ⟨place, rfl⟩ | ⟨place, rfl⟩
          · exact .description (Option.some_ne_none text) .nil
          · exact .description (Option.some_ne_none text) .nil
  | object type => exact kept
  | interface type => exact kept
  | input type => exact kept
  | enum type => exact kept
  | scalar type => exact kept
  | union type => exact kept
  | directive type => exact kept

theorem loose (definition : Definition) : Loose definition.tokens definition.spelling := by
  have whole := (definition.loose_heading.mul definition.loose_body).covering definition.span
  rw [mul_assoc, List.append_assoc] at whole
  exact whole

end Definition

/-- The spellings of a document have its canonical tokens, but for the liberties. -/
theorem loose_document (definitions : List Definition) :
    Loose (documentTokens definitions) (documentSpelling definitions) :=
  loose_sequenced Definition.loose definitions

end EntityMapping.Document
