import EntityMapping.Proofs.Document.Advance

/-!
# Canonical tokens are a spelling

Lexemes with the canonical tokens of a well-formed definition spell it up to its
spans.  The tokens alone determine the values inside a definition; the spans come
from where the lexemes stand.
-/

namespace EntityMapping.Document

open EntityMapping.Source

/-! ## Tokens of a language -/

/-- All lexemes with the given tokens belong to a language. -/
def Spells (tokens : List Token) (language : Language Lexeme) : Prop :=
  ∀ used : List Lexeme, used.map Lexeme.token = tokens → used ∈ language

/-- All lexemes with the given tokens spell an item that looks like the given one. -/
def SpellsLike {α β : Type} (view : α → β) (tokens : List Token)
    (spelling : α → Language Lexeme) (item : α) : Prop :=
  ∀ used : List Lexeme, used.map Lexeme.token = tokens →
    ∃ found, view found = view item ∧ used ∈ spelling found

section Tokens

variable {left right tokens : List Token} {first second language : Language Lexeme}
  {α β γ δ : Type} {view : α → β} {otherView : γ → δ} {spelling : α → Language Lexeme}
  {otherSpelling : γ → Language Lexeme} {item : α} {other : γ}

theorem spells_single (token : Token) : Spells [token] (single token) := by
  intro used same
  obtain ⟨lexeme, rfl, rfl⟩ := List.map_eq_singleton_iff.mp same
  exact ⟨lexeme.span, rfl⟩

theorem spells_one : Spells [] 1 := by
  intro used same
  rw [List.map_eq_nil_iff.mp same]
  exact Language.nil_mem_one

theorem Spells.mul (inFirst : Spells left first) (inSecond : Spells right second) :
    Spells (left ++ right) (first * second) := by
  intro used same
  obtain ⟨front, back, rfl, sameFront, sameBack⟩ := List.map_eq_append_iff.mp same
  exact Language.append_mem_mul (inFirst front sameFront) (inSecond back sameBack)

theorem Spells.add_left (inFirst : Spells tokens first) : Spells tokens (first + second) :=
  fun used same => (Language.mem_add first second used).mpr (Or.inl (inFirst used same))

theorem Spells.mulLike (inFirst : Spells left first)
    (like : SpellsLike view right spelling item) :
    SpellsLike view (left ++ right) (fun found => first * spelling found) item := by
  intro used same
  obtain ⟨front, back, rfl, sameFront, sameBack⟩ := List.map_eq_append_iff.mp same
  obtain ⟨found, alike, member⟩ := like back sameBack
  exact ⟨found, alike, Language.append_mem_mul (inFirst front sameFront) member⟩

theorem SpellsLike.mul (like : SpellsLike view left spelling item)
    (inSecond : Spells right second) :
    SpellsLike view (left ++ right) (fun found => spelling found * second) item := by
  intro used same
  obtain ⟨front, back, rfl, sameFront, sameBack⟩ := List.map_eq_append_iff.mp same
  obtain ⟨found, alike, member⟩ := like front sameFront
  exact ⟨found, alike, Language.append_mem_mul member (inSecond back sameBack)⟩

theorem SpellsLike.mulLike (like : SpellsLike view left spelling item)
    (otherLike : SpellsLike otherView right otherSpelling other) :
    SpellsLike (Prod.map view otherView) (left ++ right)
      (fun found => spelling found.1 * otherSpelling found.2) (item, other) := by
  intro used same
  obtain ⟨front, back, rfl, sameFront, sameBack⟩ := List.map_eq_append_iff.mp same
  obtain ⟨found, alike, member⟩ := like front sameFront
  obtain ⟨otherFound, otherAlike, otherMember⟩ := otherLike back sameBack
  exact ⟨(found, otherFound), Prod.ext alike otherAlike,
    Language.append_mem_mul member otherMember⟩

theorem spells_sequenced {tokensOf : α → List Token} (items : List α)
    (each : ∀ item ∈ items, Spells (tokensOf item) (spelling item)) :
    Spells (items.map tokensOf).flatten (sequenced spelling items) := by
  induction items with
  | nil => exact spells_one
  | cons item rest ih =>
      obtain ⟨ofItem, ofRest⟩ := List.forall_mem_cons.mp each
      rw [sequenced_cons]
      exact ofItem.mul (ih ofRest)

theorem spellsLike_sequenced {tokensOf : α → List Token} {items : List α}
    (each : ∀ item ∈ items, SpellsLike view (tokensOf item) spelling item) :
    SpellsLike (List.map view) (items.map tokensOf).flatten (sequenced spelling) items := by
  induction items with
  | nil => exact fun used same => ⟨[], rfl, spells_one used same⟩
  | cons item rest ih =>
      obtain ⟨ofItem, ofRest⟩ := List.forall_mem_cons.mp each
      intro used same
      obtain ⟨⟨found, others⟩, alike, member⟩ := ofItem.mulLike (ih ofRest) used same
      obtain ⟨alikeFound, alikeOthers⟩ := Prod.ext_iff.mp alike
      refine ⟨found :: others, List.cons_eq_cons.mpr ⟨alikeFound, alikeOthers⟩, ?_⟩
      rw [sequenced_cons]
      exact member

theorem spellsLike_bracketed (opening close : Punctuator) {tokensOf : α → List Token}
    {items : List α} (each : ∀ item ∈ items, SpellsLike view (tokensOf item) spelling item) :
    SpellsLike (List.map view) (enclosedTokens opening close (items.map tokensOf))
      (bracketed opening close spelling) items := by
  cases items with
  | nil =>
      exact fun used same => ⟨[], rfl, (spells_one.add_left) used same⟩
  | cons item rest =>
      intro used same
      obtain ⟨found, alike, member⟩ :=
        (spells_single (.punct opening)).mulLike
          ((spellsLike_sequenced each).mul (spells_single (.punct close))) used same
      exact ⟨found, alike, (Language.mem_add _ _ used).mpr (Or.inr member)⟩

end Tokens

/-! ## Values and types -/

theorem spells_quotation (text : String) : Spells [.string text] (quotation text) :=
  (spells_single _).add_left

theorem spells_items {items : List Value}
    (each : ∀ item ∈ items, Spells item.tokens item.spelling) :
    Spells (Value.itemsTokens items) (Value.itemsSpelling items) := by
  induction items with
  | nil => exact spells_one
  | cons item rest ih =>
      obtain ⟨ofItem, ofRest⟩ := List.forall_mem_cons.mp each
      exact ofItem.mul (ih ofRest)

theorem spells_fields {fields : List (String × Value)}
    (each : ∀ field ∈ fields, Spells field.2.tokens field.2.spelling) :
    Spells (Value.fieldsTokens fields) (Value.fieldsSpelling fields) := by
  induction fields with
  | nil => exact spells_one
  | cons field rest ih =>
      obtain ⟨ofField, ofRest⟩ := List.forall_mem_cons.mp each
      exact ((spells_single _).mul ((spells_single _).mul ofField)).mul (ih ofRest)

theorem Value.WellFormed.spells {value : Value} (wellFormed : value.WellFormed) :
    Spells value.tokens value.spelling := by
  induction wellFormed with
  | null => exact spells_single _
  | boolean value => cases value <;> exact spells_single _
  | int value => exact spells_single _
  | float value => exact spells_single _
  | string value => exact spells_quotation value
  | enum free =>
      rw [Value.spelling, free]
      exact spells_single _
  | list each ih =>
      exact (spells_single _).mul ((spells_items ih).mul (spells_single _))
  | object each ih =>
      exact (spells_single _).mul ((spells_fields ih).mul (spells_single _))

theorem TypeRef.WellFormed.spells {type : TypeRef} (wellFormed : type.WellFormed) :
    Spells type.tokens type.spelling := by
  induction type with
  | named name => exact spells_single _
  | list item ih => exact (spells_single _).mul ((ih wellFormed).mul (spells_single _))
  | nonNull inner ih =>
      obtain ⟨nullable, innerWellFormed⟩ := wellFormed
      rw [TypeRef.spelling, nullable]
      exact (ih innerWellFormed).mul (spells_single _)

/-! ## Parts of definitions -/

theorem spells_describing (about : Option String) :
    Spells (descriptionTokens about) (describing about) := by
  cases about with
  | none => exact spells_one
  | some text => exact spells_quotation text

theorem spells_listing {separator : Punctuator} {names : List String} (some : names ≠ []) :
    Spells (separatedTokens separator names) (listing separator names) := by
  cases names with
  | nil => exact absurd rfl some
  | cons first others =>
      have further := spells_sequenced others
        (fun other _ => (spells_single (.punct separator)).mul (spells_single (.name other)))
      exact spells_one.add_left.mul ((spells_single (.name first)).mul further)

theorem spells_implementing (names : List String) :
    Spells (interfacesTokens names) (implementing names) := by
  cases names with
  | nil => exact spells_one
  | cons first others => exact (spells_single _).mul (spells_listing (List.cons_ne_nil _ _))

theorem spells_uniting (names : List String) :
    Spells (membersTokens names) (uniting names) := by
  cases names with
  | nil => exact spells_one
  | cons first others => exact (spells_single _).mul (spells_listing (List.cons_ne_nil _ _))

theorem spells_operating (operation : String × String) :
    Spells (operationTokens operation) (operating operation) :=
  (spells_single _).mul ((spells_single _).mul (spells_single _))

theorem spells_defaulting {default : Option Value}
    (wellFormed : ∀ value ∈ default, value.WellFormed) :
    Spells (defaultTokens default) (defaulting default) := by
  cases default with
  | none => exact spells_one
  | some value => exact (spells_single _).mul (wellFormed value rfl).spells

theorem Argument.spellsLike {argument : Argument} (wellFormed : argument.value.WellFormed) :
    SpellsLike (relocate Span.nowhere) argument.tokens spelling argument := by
  intro used same
  have member := (spells_single (.name argument.name)).mul
    ((spells_single (.punct .colon)).mul wellFormed.spells) used same
  exact ⟨{ argument with span := coverage used }, rfl, member, rfl⟩

theorem Directive.WellFormed.spellsLike {directive : Directive}
    (wellFormed : directive.WellFormed) :
    SpellsLike (relocate Span.nowhere) directive.tokens spelling directive := by
  have arguments := spellsLike_bracketed .parenOpen .parenClose
    (fun argument member => Argument.spellsLike (wellFormed argument member))
  intro used same
  obtain ⟨found, alike, member⟩ := (spells_single (.punct .atSign)).mulLike
    ((spells_single (.name directive.name)).mulLike arguments) used same
  refine ⟨{ directive with arguments := found, span := coverage used }, ?_, member, rfl⟩
  exact congrArg (Directive.mk directive.name · (Span.nowhere directive.span)) alike

theorem spellsLike_annotations {directives : List Directive}
    (wellFormed : ∀ directive ∈ directives, directive.WellFormed) :
    SpellsLike (List.map (Directive.relocate Span.nowhere)) (directivesTokens directives)
      annotations directives :=
  spellsLike_sequenced fun directive member => (wellFormed directive member).spellsLike

theorem InputValue.WellFormed.spellsLike {input : InputValue} (wellFormed : input.WellFormed) :
    SpellsLike (relocate Span.nowhere) input.tokens spelling input := by
  intro used same
  obtain ⟨found, alike, member⟩ := (spells_describing input.description).mulLike
    ((spells_single (.name input.name)).mulLike
      ((spells_single (.punct .colon)).mulLike
        (wellFormed.type.spells.mulLike
          ((spells_defaulting wellFormed.default).mulLike
            (spellsLike_annotations wellFormed.directives))))) used same
  refine ⟨{ input with directives := found, span := coverage used }, ?_, member, rfl⟩
  simp only [relocate, alike, Span.nowhere]

theorem spellsLike_parameterList {arguments : List InputValue}
    (wellFormed : ∀ argument ∈ arguments, argument.WellFormed) :
    SpellsLike (List.map (InputValue.relocate Span.nowhere)) (parametersTokens arguments)
      parameterList arguments :=
  spellsLike_bracketed _ _ fun argument member => (wellFormed argument member).spellsLike

theorem Field.WellFormed.spellsLike {field : Field} (wellFormed : field.WellFormed) :
    SpellsLike (relocate Span.nowhere) field.tokens spelling field := by
  intro used same
  obtain ⟨⟨arguments, directives⟩, alike, member⟩ :=
    (spells_describing field.description).mulLike
      ((spells_single (.name field.name)).mulLike
        ((spellsLike_parameterList wellFormed.arguments).mulLike
          ((spells_single (.punct .colon)).mulLike
            (wellFormed.type.spells.mulLike
              (spellsLike_annotations wellFormed.directives))))) used same
  obtain ⟨alikeArguments, alikeDirectives⟩ := Prod.mk.inj alike
  refine ⟨{ field with
    arguments := arguments
    directives := directives
    span := coverage used }, ?_, member, rfl⟩
  rw [relocate, relocate, alikeArguments, alikeDirectives]
  rfl

theorem EnumValue.WellFormed.spellsLike {value : EnumValue} (wellFormed : value.WellFormed) :
    SpellsLike (relocate Span.nowhere) value.tokens spelling value := by
  intro used same
  have name : Spells [.name value.name]
      (if Cursor.isReserved value.name then 0 else word value.name) := by
    rw [wellFormed.name]
    exact spells_single _
  obtain ⟨found, alike, member⟩ := (spells_describing value.description).mulLike
    (name.mulLike (spellsLike_annotations wellFormed.directives)) used same
  refine ⟨{ value with directives := found, span := coverage used }, ?_, member, rfl⟩
  simp only [relocate, alike, Span.nowhere]

/-! ## Definitions -/

/-- Directives, and parts between braces. -/
theorem spellsLike_annotated {α β : Type} {view : α → β} {spelling : α → Language Lexeme}
    {tokensOf : α → List Token} {directives : List Directive} {items : List α}
    (wellFormed : ∀ directive ∈ directives, directive.WellFormed)
    (each : ∀ item ∈ items, SpellsLike view (tokensOf item) spelling item) :
    SpellsLike (Prod.map (List.map (Directive.relocate Span.nowhere)) (List.map view))
      (directivesTokens directives ++ enclosedTokens .braceOpen .braceClose (items.map tokensOf))
      (fun found => annotations found.1 * bracketed .braceOpen .braceClose spelling found.2)
      (directives, items) :=
  (spellsLike_annotations wellFormed).mulLike (spellsLike_bracketed .braceOpen .braceClose each)

theorem ObjectType.WellFormed.spellsLike {type : ObjectType} (wellFormed : type.WellFormed) :
    SpellsLike (relocate Span.nowhere) type.tokens body type := by
  intro used same
  obtain ⟨⟨directives, fields⟩, alike, member⟩ := (spells_single (.name type.name)).mulLike
    ((spells_implementing type.interfaces).mulLike
      (spellsLike_annotated wellFormed.directives
        fun field member => (wellFormed.fields field member).spellsLike)) used same
  obtain ⟨alikeDirectives, alikeFields⟩ := Prod.mk.inj alike
  refine ⟨{ type with directives := directives, fields := fields }, ?_, member⟩
  rw [relocate, relocate, alikeDirectives, alikeFields]

theorem InputType.WellFormed.spellsLike {type : InputType} (wellFormed : type.WellFormed) :
    SpellsLike (relocate Span.nowhere) (Definition.input type).bodyTokens body type := by
  intro used same
  obtain ⟨⟨directives, fields⟩, alike, member⟩ := (spells_single (.name type.name)).mulLike
    (spellsLike_annotated wellFormed.directives
      fun field member => (wellFormed.fields field member).spellsLike) used same
  obtain ⟨alikeDirectives, alikeFields⟩ := Prod.mk.inj alike
  refine ⟨{ type with directives := directives, fields := fields }, ?_, member⟩
  rw [relocate, relocate, alikeDirectives, alikeFields]

theorem EnumType.WellFormed.spellsLike {type : EnumType} (wellFormed : type.WellFormed) :
    SpellsLike (relocate Span.nowhere) (Definition.enum type).bodyTokens body type := by
  intro used same
  obtain ⟨⟨directives, values⟩, alike, member⟩ := (spells_single (.name type.name)).mulLike
    (spellsLike_annotated wellFormed.directives
      fun value member => (wellFormed.values value member).spellsLike) used same
  obtain ⟨alikeDirectives, alikeValues⟩ := Prod.mk.inj alike
  refine ⟨{ type with directives := directives, values := values }, ?_, member⟩
  rw [relocate, relocate, alikeDirectives, alikeValues]

theorem ScalarType.spellsLike {type : ScalarType}
    (wellFormed : ∀ directive ∈ type.directives, directive.WellFormed) :
    SpellsLike (relocate Span.nowhere) (Definition.scalar type).bodyTokens body type := by
  intro used same
  obtain ⟨directives, alike, member⟩ := (spells_single (.name type.name)).mulLike
    (spellsLike_annotations wellFormed) used same
  refine ⟨{ type with directives := directives }, ?_, member⟩
  simp only [relocate, alike]

theorem UnionType.spellsLike {type : UnionType}
    (wellFormed : ∀ directive ∈ type.directives, directive.WellFormed) :
    SpellsLike (relocate Span.nowhere) (Definition.union type).bodyTokens body type := by
  intro used same
  obtain ⟨directives, alike, member⟩ := (spells_single (.name type.name)).mulLike
    ((spellsLike_annotations wellFormed).mul (spells_uniting type.members))
    used same
  refine ⟨{ type with directives := directives }, ?_, member⟩
  simp only [relocate, alike]

theorem DirectiveType.WellFormed.spellsLike {type : DirectiveType}
    (wellFormed : type.WellFormed) :
    SpellsLike (relocate Span.nowhere) (Definition.directive type).bodyTokens body type := by
  intro used same
  have repeatable : Spells (if type.repeatable then [.name "repeatable"] else [])
      (if type.repeatable then word "repeatable" else 1) := by
    split
    · exact spells_single _
    · exact spells_one
  obtain ⟨arguments, alike, member⟩ := (spells_single (.punct .atSign)).mulLike
    ((spells_single (.name type.name)).mulLike
      ((spellsLike_parameterList wellFormed.arguments).mul
        (repeatable.mul
          ((spells_single (.name "on")).mul (spells_listing wellFormed.locations)))))
    used same
  refine ⟨{ type with arguments := arguments }, ?_, member⟩
  simp only [relocate, alike]

theorem SchemaRoots.spellsLike {roots : SchemaRoots}
    (wellFormed : ∀ directive ∈ roots.directives, directive.WellFormed) :
    SpellsLike (relocate Span.nowhere) (Definition.schema roots).bodyTokens body roots := by
  intro used same
  have operations := spells_sequenced roots.operations
    (fun operation _ => spells_operating operation)
  obtain ⟨directives, alike, member⟩ := (spellsLike_annotations wellFormed).mul
    ((spells_single (.punct .braceOpen)).mul
      (operations.mul (spells_single (.punct .braceClose)))) used same
  refine ⟨{ roots with directives := directives }, ?_, member⟩
  simp only [relocate, alike]

namespace Definition

/-- The same definition with another span of its own. -/
def covers (span : Span) : Definition → Definition
  | object type => .object { type with span }
  | extension type => .extension { type with span }
  | interface type => .interface { type with span }
  | input type => .input { type with span }
  | enum type => .enum { type with span }
  | scalar type => .scalar { type with span }
  | union type => .union { type with span }
  | directive type => .directive { type with span }
  | schema roots => .schema { roots with span }

theorem unplaced_covers (span : Span) (definition : Definition) :
    (definition.covers span).unplaced = definition.unplaced := by
  cases definition <;> rfl

theorem spelling_covers (span : Span) (definition : Definition) :
    (definition.covers span).spelling =
      covering span (definition.about * (word definition.keyword * definition.body)) := by
  cases definition <;> rfl

/-- The form and the description of a definition do not depend on its spans. -/
theorem heading_eq {left right : Definition} (same : left.unplaced = right.unplaced) :
    left.keyword = right.keyword ∧ left.about = right.about := by
  have heading : ∀ definition : Definition,
      definition.unplaced.keyword = definition.keyword ∧
        definition.unplaced.about = definition.about := by
    intro definition
    cases definition <;> exact ⟨rfl, rfl⟩
  exact ⟨(heading left).1.symm.trans (same ▸ (heading right).1),
    (heading left).2.symm.trans (same ▸ (heading right).2)⟩

theorem spells_about {definition : Definition} (wellFormed : definition.WellFormed) :
    Spells (descriptionTokens definition.description?) definition.about := by
  cases definition with
  | extension type =>
      rw [description?, about, wellFormed.1]
      exact spells_one
  | schema roots => exact fun used same => ⟨none, spells_one used same⟩
  | object type => exact spells_describing _
  | interface type => exact spells_describing _
  | input type => exact spells_describing _
  | enum type => exact spells_describing _
  | scalar type => exact spells_describing _
  | union type => exact spells_describing _
  | directive type => exact spells_describing _

/-- What spells a part spells the definition that has the part. -/
theorem spellsLike_form {α : Type} {form : α → Definition} {view : α → α} {tokens : List Token}
    {body : α → Language Lexeme} {value : α} (like : SpellsLike view tokens body value)
    (unplaced_form : ∀ value, (form value).unplaced = form (view value))
    (body_form : ∀ value, (form value).body = body value) :
    SpellsLike unplaced tokens Definition.body (form value) := by
  intro used same
  obtain ⟨found, alike, member⟩ := like used same
  refine ⟨form found, ?_, ?_⟩
  · rw [unplaced_form, unplaced_form, alike]
  · rw [body_form]
    exact member

theorem WellFormed.spellsLike_body {definition : Definition}
    (wellFormed : definition.WellFormed) :
    SpellsLike unplaced definition.bodyTokens body definition := by
  cases definition with
  | object type =>
      exact spellsLike_form (ObjectType.WellFormed.spellsLike wellFormed) (fun _ => rfl)
        (fun _ => rfl)
  | interface type =>
      exact spellsLike_form (ObjectType.WellFormed.spellsLike wellFormed) (fun _ => rfl)
        (fun _ => rfl)
  | extension type =>
      exact spellsLike_form
        ((spells_single (.name "type")).mulLike (ObjectType.WellFormed.spellsLike wellFormed.2))
        (fun _ => rfl) (fun _ => rfl)
  | input type =>
      exact spellsLike_form (InputType.WellFormed.spellsLike wellFormed) (fun _ => rfl)
        (fun _ => rfl)
  | enum type =>
      exact spellsLike_form (EnumType.WellFormed.spellsLike wellFormed) (fun _ => rfl)
        (fun _ => rfl)
  | scalar type =>
      exact spellsLike_form (ScalarType.spellsLike wellFormed) (fun _ => rfl) (fun _ => rfl)
  | union type =>
      exact spellsLike_form (UnionType.spellsLike wellFormed) (fun _ => rfl) (fun _ => rfl)
  | directive type =>
      exact spellsLike_form (DirectiveType.WellFormed.spellsLike wellFormed) (fun _ => rfl)
        (fun _ => rfl)
  | schema roots =>
      exact spellsLike_form (SchemaRoots.spellsLike wellFormed) (fun _ => rfl) (fun _ => rfl)

theorem WellFormed.spellsLike {definition : Definition} (wellFormed : definition.WellFormed) :
    SpellsLike unplaced definition.tokens spelling definition := by
  intro used same
  obtain ⟨found, alike, member⟩ := (spells_about wellFormed).mulLike
    ((spells_single (.name definition.keyword)).mulLike wellFormed.spellsLike_body) used same
  obtain ⟨sameKeyword, sameAbout⟩ := heading_eq alike
  refine ⟨found.covers (coverage used), (unplaced_covers _ found).trans alike, ?_⟩
  rw [spelling_covers, sameKeyword, sameAbout]
  exact ⟨member, rfl⟩

end Definition

theorem spellsLike_document {definitions : List Definition}
    (wellFormed : ∀ definition ∈ definitions, definition.WellFormed) :
    SpellsLike (List.map Definition.unplaced) (documentTokens definitions) documentSpelling
      definitions :=
  spellsLike_sequenced fun definition member => (wellFormed definition member).spellsLike

end EntityMapping.Document
