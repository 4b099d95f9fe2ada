import EntityMapping.Proofs.Document.DocumentReader

/-!
# Spellings at another place

The lexemes that spell a definition spell the same definition at another place
when all of them are moved there.
-/

namespace EntityMapping.Document

open EntityMapping.Source

variable {place : Span → Span}

/-- Moving the sequences of one language leads into another. -/
def Moves (place : Span → Span) (left right : Language Lexeme) : Prop :=
  ∀ used ∈ left, used.map (Lexeme.relocate place) ∈ right

section Languages

variable {left right movedLeft movedRight : Language Lexeme}

theorem moves_one : Moves place 1 1 := by
  intro used member
  rw [(Language.mem_one used).mp member]
  exact Language.nil_mem_one

theorem moves_zero : Moves place 0 right :=
  fun used member => absurd member (Language.notMem_zero used)

theorem moves_single (token : Token) : Moves place (single token) (single token) := by
  rintro used ⟨span, rfl⟩
  exact ⟨place span, rfl⟩

theorem moves_add (first : Moves place left movedLeft) (second : Moves place right movedRight) :
    Moves place (left + right) (movedLeft + movedRight) := by
  intro used member
  rcases (Language.mem_add left right used).mp member with member | member
  · exact (Language.mem_add _ _ _).mpr (Or.inl (first used member))
  · exact (Language.mem_add _ _ _).mpr (Or.inr (second used member))

theorem moves_mul (first : Moves place left movedLeft) (second : Moves place right movedRight) :
    Moves place (left * right) (movedLeft * movedRight) := by
  intro used member
  obtain ⟨front, inLeft, back, inRight, rfl⟩ := Language.mem_mul.mp member
  rw [List.map_append]
  exact Language.append_mem_mul (first front inLeft) (second back inRight)

theorem lastSpan_map (place : Span → Span) (before : Span) (used : List Lexeme) :
    lastSpan (place before) (used.map (Lexeme.relocate place)) =
      place (lastSpan before used) := by
  induction used generalizing before with
  | nil => rfl
  | cons lexeme rest ih => exact ih lexeme.span

theorem coverage_map (uniform : Span.Uniform place) {used : List Lexeme} (nonempty : used ≠ []) :
    coverage (used.map (Lexeme.relocate place)) = place (coverage used) := by
  cases used with
  | nil => exact absurd rfl nonempty
  | cons first rest =>
      rw [coverage, uniform, ← lastSpan_map place]
      rfl

theorem moves_covering (uniform : Span.Uniform place) {span : Span}
    (begins : Begins [] (covering span left)) (moves : Moves place left movedLeft) :
    Moves place (covering span left) (covering (place span) movedLeft) := by
  rintro used ⟨member, rfl⟩
  exact ⟨moves used member, coverage_map uniform (begins used ⟨member, rfl⟩).1⟩

section Items

variable {α β : Type} {spelling : α → Language Lexeme} {movedSpelling : β → Language Lexeme}
  {relocate : α → β}

theorem moves_sequenced (each : ∀ item, Moves place (spelling item) (movedSpelling (relocate item)))
    (items : List α) :
    Moves place (sequenced spelling items) (sequenced movedSpelling (items.map relocate)) := by
  induction items with
  | nil => exact moves_one
  | cons item rest ih =>
      rw [List.map_cons, sequenced_cons, sequenced_cons]
      exact moves_mul (each item) ih

theorem moves_sequenced_self {spelling : α → Language Lexeme}
    (each : ∀ item, Moves place (spelling item) (spelling item)) (items : List α) :
    Moves place (sequenced spelling items) (sequenced spelling items) := by
  have moved := @moves_sequenced place α α spelling spelling id each items
  rw [List.map_id] at moved
  exact moved

theorem moves_bracketed {opening close : Punctuator}
    (each : ∀ item, Moves place (spelling item) (movedSpelling (relocate item))) (items : List α) :
    Moves place (bracketed opening close spelling items)
      (bracketed opening close movedSpelling (items.map relocate)) := by
  apply moves_add
  · rw [List.isEmpty_map]
    split
    · exact moves_one
    · exact moves_zero
  · exact moves_mul (moves_single _) (moves_mul (moves_sequenced each items) (moves_single _))

end Items

end Languages

/-! ## Values and types -/

theorem moves_quotation (text : String) : Moves place (quotation text) (quotation text) :=
  moves_add (moves_single _) (moves_single _)

mutual

theorem Value.moves (value : Value) : Moves place value.spelling value.spelling := by
  cases value with
  | null => exact moves_single _
  | boolean value => cases value <;> exact moves_single _
  | int value => exact moves_single _
  | float value => exact moves_single _
  | string value => exact moves_quotation value
  | enum name =>
      rw [Value.spelling]
      split
      · exact moves_zero
      · exact moves_single _
  | list items => exact moves_mul (moves_single _) (moves_mul (moves_items items) (moves_single _))
  | object fields =>
      exact moves_mul (moves_single _) (moves_mul (moves_fields fields) (moves_single _))

theorem moves_items (items : List Value) :
    Moves place (Value.itemsSpelling items) (Value.itemsSpelling items) := by
  cases items with
  | nil => exact moves_one
  | cons item rest => exact moves_mul item.moves (moves_items rest)

theorem moves_fields (fields : List (String × Value)) :
    Moves place (Value.fieldsSpelling fields) (Value.fieldsSpelling fields) := by
  cases fields with
  | nil => exact moves_one
  | cons field rest =>
      obtain ⟨key, value⟩ := field
      exact moves_mul (moves_mul (moves_single _) (moves_mul (moves_single _) value.moves))
        (moves_fields rest)

end

theorem TypeRef.moves (type : TypeRef) : Moves place type.spelling type.spelling := by
  induction type with
  | named name => exact moves_single _
  | list item ih => exact moves_mul (moves_single _) (moves_mul ih (moves_single _))
  | nonNull inner ih =>
      rw [TypeRef.spelling]
      split
      · exact moves_zero
      · exact moves_mul ih (moves_single _)

/-! ## Parts of definitions -/

theorem moves_describing (about : Option String) :
    Moves place (describing about) (describing about) := by
  cases about with
  | none => exact moves_one
  | some text => exact moves_quotation text

theorem moves_listing (separator : Punctuator) (names : List String) :
    Moves place (listing separator names) (listing separator names) := by
  cases names with
  | nil => exact moves_zero
  | cons first others =>
      exact moves_mul (moves_add moves_one (moves_single _)) (moves_mul (moves_single _)
        (moves_sequenced_self (fun _ => moves_mul (moves_single _) (moves_single _)) others))

theorem moves_implementing (names : List String) :
    Moves place (implementing names) (implementing names) := by
  cases names with
  | nil => exact moves_one
  | cons first others => exact moves_mul (moves_single _) (moves_listing _ _)

theorem moves_uniting (names : List String) : Moves place (uniting names) (uniting names) := by
  cases names with
  | nil => exact moves_one
  | cons first others => exact moves_mul (moves_single _) (moves_listing _ _)

theorem moves_defaulting (default : Option Value) :
    Moves place (defaulting default) (defaulting default) := by
  cases default with
  | none => exact moves_one
  | some value => exact moves_mul (moves_single _) value.moves

theorem moves_operating (operation : String × String) :
    Moves place (operating operation) (operating operation) :=
  moves_mul (moves_single _) (moves_mul (moves_single _) (moves_single _))

section Parts

variable (uniform : Span.Uniform place)
include uniform

theorem Argument.moves (argument : Argument) :
    Moves place argument.spelling (argument.relocate place).spelling :=
  moves_covering uniform (Cursor.begins_argument [] (by simp) argument)
    (moves_mul (moves_single _) (moves_mul (moves_single _) argument.value.moves))

theorem Directive.moves (directive : Directive) :
    Moves place directive.spelling (directive.relocate place).spelling :=
  moves_covering uniform (Cursor.begins_directive [] (by simp) directive)
    (moves_mul (moves_single _)
      (moves_mul (moves_single _) (moves_bracketed (Argument.moves uniform) _)))

theorem moves_annotations (directives : List Directive) :
    Moves place (annotations directives)
      (annotations (directives.map (Directive.relocate place))) :=
  moves_sequenced (Directive.moves uniform) directives

theorem InputValue.moves (input : InputValue) :
    Moves place input.spelling (input.relocate place).spelling :=
  moves_covering uniform (Cursor.begins_inputValue (by simp) (by simp) input)
    (moves_mul (moves_describing _) (moves_mul (moves_single _) (moves_mul (moves_single _)
      (moves_mul input.type.moves
        (moves_mul (moves_defaulting _) (moves_annotations uniform _))))))

theorem moves_parameterList (arguments : List InputValue) :
    Moves place (parameterList arguments)
      (parameterList (arguments.map (InputValue.relocate place))) :=
  moves_bracketed (InputValue.moves uniform) arguments

theorem Field.moves (field : Field) :
    Moves place field.spelling (field.relocate place).spelling :=
  moves_covering uniform (Cursor.begins_field (by simp) (by simp) field)
    (moves_mul (moves_describing _) (moves_mul (moves_single _)
      (moves_mul (moves_parameterList uniform _) (moves_mul (moves_single _)
        (moves_mul field.type.moves (moves_annotations uniform _))))))

theorem EnumValue.moves (value : EnumValue) :
    Moves place value.spelling (value.relocate place).spelling := by
  refine moves_covering uniform (Cursor.begins_enumValue (by simp) (by simp) value)
    (moves_mul (moves_describing _) (moves_mul ?_ (moves_annotations uniform _)))
  rw [EnumValue.relocate]
  split
  · exact moves_zero
  · exact moves_single _

/-! ## Definitions -/

theorem ObjectType.moves (type : ObjectType) :
    Moves place type.body (type.relocate place).body :=
  moves_mul (moves_single _) (moves_mul (moves_implementing _)
    (moves_mul (moves_annotations uniform _) (moves_bracketed (Field.moves uniform) _)))

theorem InputType.moves (type : InputType) :
    Moves place type.body (type.relocate place).body :=
  moves_mul (moves_single _) (moves_mul (moves_annotations uniform _)
    (moves_bracketed (InputValue.moves uniform) _))

theorem EnumType.moves (type : EnumType) :
    Moves place type.body (type.relocate place).body :=
  moves_mul (moves_single _) (moves_mul (moves_annotations uniform _)
    (moves_bracketed (EnumValue.moves uniform) _))

theorem ScalarType.moves (type : ScalarType) :
    Moves place type.body (type.relocate place).body :=
  moves_mul (moves_single _) (moves_annotations uniform _)

theorem UnionType.moves (type : UnionType) :
    Moves place type.body (type.relocate place).body :=
  moves_mul (moves_single _) (moves_mul (moves_annotations uniform _) (moves_uniting _))

theorem DirectiveType.moves (type : DirectiveType) :
    Moves place type.body (type.relocate place).body := by
  refine moves_mul (moves_single _) (moves_mul (moves_single _)
    (moves_mul (moves_parameterList uniform _)
      (moves_mul ?_ (moves_mul (moves_single _) (moves_listing _ _)))))
  rw [DirectiveType.relocate]
  split
  · exact moves_single _
  · exact moves_one

theorem SchemaRoots.moves (roots : SchemaRoots) :
    Moves place roots.body (roots.relocate place).body :=
  moves_mul (moves_annotations uniform _) (moves_mul (moves_single _)
    (moves_mul (moves_sequenced_self moves_operating _) (moves_single _)))

namespace Definition

omit uniform in
theorem moves_about (definition : Definition) :
    Moves place definition.about (definition.relocate place).about := by
  cases definition with
  | extension type =>
      rw [relocate, about, about, ObjectType.relocate]
      split
      · exact moves_zero
      · exact moves_one
  | schema roots =>
      rintro used ⟨about, member⟩
      exact ⟨about, moves_describing about used member⟩
  | object type => exact moves_describing _
  | interface type => exact moves_describing _
  | input type => exact moves_describing _
  | enum type => exact moves_describing _
  | scalar type => exact moves_describing _
  | union type => exact moves_describing _
  | directive type => exact moves_describing _

theorem moves_body (definition : Definition) :
    Moves place definition.body (definition.relocate place).body := by
  cases definition with
  | object type => exact type.moves uniform
  | interface type => exact type.moves uniform
  | extension type => exact moves_mul (moves_single _) (type.moves uniform)
  | input type => exact type.moves uniform
  | enum type => exact type.moves uniform
  | scalar type => exact type.moves uniform
  | union type => exact type.moves uniform
  | directive type => exact type.moves uniform
  | schema roots => exact roots.moves uniform

omit uniform in
theorem keyword_relocate (definition : Definition) :
    (definition.relocate place).keyword = definition.keyword := by
  cases definition <;> rfl

theorem moves (definition : Definition) :
    Moves place definition.spelling (definition.relocate place).spelling := by
  rw [spelling, spelling, span_relocate, keyword_relocate]
  exact moves_covering uniform
    ((Cursor.begins_definition definition).mono (List.nil_subset _))
    (moves_mul definition.moves_about
      (moves_mul (moves_single _) (definition.moves_body uniform)))

end Definition

theorem moves_document (definitions : List Definition) :
    Moves place (documentSpelling definitions)
      (documentSpelling (definitions.map (Definition.relocate place))) :=
  moves_sequenced (Definition.moves uniform) definitions

end Parts

end EntityMapping.Document
