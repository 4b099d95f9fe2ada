import EntityMapping.Proofs.Document.Advance

/-!
# What can be spelled

Only well-formed definitions have a spelling.
-/

namespace EntityMapping.Document

open EntityMapping.Source

/-- A language with at least one sequence. -/
def Spellable (language : Language Lexeme) : Prop :=
  ∃ used, used ∈ language

section Languages

variable {left right language : Language Lexeme} {α : Type} {spelling : α → Language Lexeme}
  {items : List α}

theorem spellable_mul (spellable : Spellable (left * right)) :
    Spellable left ∧ Spellable right := by
  obtain ⟨used, member⟩ := spellable
  obtain ⟨front, inLeft, back, inRight, -⟩ := Language.mem_mul.mp member
  exact ⟨⟨front, inLeft⟩, ⟨back, inRight⟩⟩

theorem not_spellable_zero : ¬ Spellable 0 := by
  rintro ⟨used, member⟩
  exact Language.notMem_zero used member

theorem spellable_covering {span : Span} (spellable : Spellable (covering span language)) :
    Spellable language := by
  obtain ⟨used, member, -⟩ := spellable
  exact ⟨used, member⟩

theorem spellable_sequenced (spellable : Spellable (sequenced spelling items)) :
    ∀ item ∈ items, Spellable (spelling item) := by
  induction items with
  | nil => exact fun item member => absurd member List.not_mem_nil
  | cons first rest ih =>
      rw [sequenced_cons] at spellable
      obtain ⟨inFirst, inRest⟩ := spellable_mul spellable
      exact List.forall_mem_cons.mpr ⟨inFirst, ih inRest⟩

theorem spellable_bracketed {opening close : Punctuator}
    (spellable : Spellable (bracketed opening close spelling items)) :
    ∀ item ∈ items, Spellable (spelling item) := by
  obtain ⟨used, member⟩ := spellable
  rcases (Language.mem_add _ _ used).mp member with absent | present
  · split at absent
    · rename_i none
      rw [List.isEmpty_iff.mp none]
      exact fun item member => absurd member List.not_mem_nil
    · exact absurd absent (Language.notMem_zero used)
  · exact spellable_sequenced (spellable_mul (spellable_mul ⟨used, present⟩).2).1

end Languages

/-! ## Values and types -/

mutual

theorem Value.wellFormed_of_spellable (value : Value) (spellable : Spellable value.spelling) :
    value.WellFormed := by
  cases value with
  | null => exact .null
  | boolean value => exact .boolean value
  | int value => exact .int value
  | float value => exact .float value
  | string value => exact .string value
  | enum word =>
      rw [Value.spelling] at spellable
      split at spellable
      · exact absurd spellable not_spellable_zero
      · rename_i free
        exact .enum (Bool.not_eq_true _ ▸ free)
  | list items =>
      rw [Value.spelling] at spellable
      exact .list (items_wellFormed_of_spellable items (spellable_mul (spellable_mul spellable).2).1)
  | object fields =>
      rw [Value.spelling] at spellable
      exact .object
        (fields_wellFormed_of_spellable fields (spellable_mul (spellable_mul spellable).2).1)

theorem items_wellFormed_of_spellable (items : List Value)
    (spellable : Spellable (Value.itemsSpelling items)) : ∀ item ∈ items, item.WellFormed := by
  cases items with
  | nil => exact fun item member => absurd member List.not_mem_nil
  | cons first rest =>
      rw [Value.itemsSpelling] at spellable
      obtain ⟨inFirst, inRest⟩ := spellable_mul spellable
      exact List.forall_mem_cons.mpr
        ⟨Value.wellFormed_of_spellable first inFirst, items_wellFormed_of_spellable rest inRest⟩

theorem fields_wellFormed_of_spellable (fields : List (String × Value))
    (spellable : Spellable (Value.fieldsSpelling fields)) :
    ∀ field ∈ fields, field.2.WellFormed := by
  cases fields with
  | nil => exact fun field member => absurd member List.not_mem_nil
  | cons first rest =>
      obtain ⟨key, value⟩ := first
      rw [Value.fieldsSpelling] at spellable
      obtain ⟨inFirst, inRest⟩ := spellable_mul spellable
      have inValue := (spellable_mul (spellable_mul inFirst).2).2
      exact List.forall_mem_cons.mpr
        ⟨Value.wellFormed_of_spellable value inValue, fields_wellFormed_of_spellable rest inRest⟩

end

theorem TypeRef.wellFormed_of_spellable {type : TypeRef} (spellable : Spellable type.spelling) :
    type.WellFormed := by
  induction type with
  | named name => exact trivial
  | list item ih => exact ih (spellable_mul (spellable_mul spellable).2).1
  | nonNull inner ih =>
      rw [TypeRef.spelling] at spellable
      split at spellable
      · exact absurd spellable not_spellable_zero
      · rename_i nullable
        exact ⟨Bool.not_eq_true _ ▸ nullable, ih (spellable_mul spellable).1⟩

/-! ## Parts of definitions -/

theorem Directive.wellFormed_of_spellable {directive : Directive}
    (spellable : Spellable directive.spelling) : directive.WellFormed := by
  have body := (spellable_mul (spellable_covering spellable)).2
  intro argument member
  have written := spellable_bracketed (spellable_mul body).2 argument member
  exact argument.value.wellFormed_of_spellable
    (spellable_mul (spellable_mul (spellable_covering written)).2).2

theorem annotations_wellFormed {directives : List Directive}
    (spellable : Spellable (annotations directives)) :
    ∀ directive ∈ directives, directive.WellFormed :=
  fun directive member =>
    Directive.wellFormed_of_spellable (spellable_sequenced spellable directive member)

theorem defaulting_wellFormed {default : Option Value}
    (spellable : Spellable (defaulting default)) : ∀ value ∈ default, value.WellFormed := by
  rintro value rfl
  exact value.wellFormed_of_spellable (spellable_mul spellable).2

theorem InputValue.wellFormed_of_spellable {input : InputValue}
    (spellable : Spellable input.spelling) : input.WellFormed := by
  obtain ⟨-, behindAbout⟩ := spellable_mul (spellable_covering spellable)
  obtain ⟨-, behindName⟩ := spellable_mul behindAbout
  obtain ⟨-, behindColon⟩ := spellable_mul behindName
  obtain ⟨type, behindType⟩ := spellable_mul behindColon
  obtain ⟨default, directives⟩ := spellable_mul behindType
  exact
    { type := TypeRef.wellFormed_of_spellable type
      default := defaulting_wellFormed default
      directives := annotations_wellFormed directives }

theorem parameterList_wellFormed {arguments : List InputValue}
    (spellable : Spellable (parameterList arguments)) :
    ∀ argument ∈ arguments, argument.WellFormed :=
  fun argument member =>
    InputValue.wellFormed_of_spellable (spellable_bracketed spellable argument member)

theorem Field.wellFormed_of_spellable {field : Field} (spellable : Spellable field.spelling) :
    field.WellFormed := by
  obtain ⟨-, behindAbout⟩ := spellable_mul (spellable_covering spellable)
  obtain ⟨-, behindName⟩ := spellable_mul behindAbout
  obtain ⟨arguments, behindArguments⟩ := spellable_mul behindName
  obtain ⟨-, behindColon⟩ := spellable_mul behindArguments
  obtain ⟨type, directives⟩ := spellable_mul behindColon
  exact
    { arguments := parameterList_wellFormed arguments
      type := TypeRef.wellFormed_of_spellable type
      directives := annotations_wellFormed directives }

theorem EnumValue.wellFormed_of_spellable {value : EnumValue}
    (spellable : Spellable value.spelling) : value.WellFormed := by
  obtain ⟨-, behindAbout⟩ := spellable_mul (spellable_covering spellable)
  obtain ⟨name, directives⟩ := spellable_mul behindAbout
  refine { name := ?_, directives := annotations_wellFormed directives }
  split at name
  · exact absurd name not_spellable_zero
  · rename_i free
    exact Bool.not_eq_true _ ▸ free

/-! ## Definitions -/

theorem ObjectType.wellFormed_of_spellable {type : ObjectType} (spellable : Spellable type.body) :
    type.WellFormed := by
  obtain ⟨-, behindName⟩ := spellable_mul spellable
  obtain ⟨-, behindInterfaces⟩ := spellable_mul behindName
  obtain ⟨directives, fields⟩ := spellable_mul behindInterfaces
  exact
    { directives := annotations_wellFormed directives
      fields := fun field member =>
        Field.wellFormed_of_spellable (spellable_bracketed fields field member) }

theorem InputType.wellFormed_of_spellable {type : InputType} (spellable : Spellable type.body) :
    type.WellFormed := by
  obtain ⟨-, behindName⟩ := spellable_mul spellable
  obtain ⟨directives, fields⟩ := spellable_mul behindName
  exact
    { directives := annotations_wellFormed directives
      fields := fun field member =>
        InputValue.wellFormed_of_spellable (spellable_bracketed fields field member) }

theorem EnumType.wellFormed_of_spellable {type : EnumType} (spellable : Spellable type.body) :
    type.WellFormed := by
  obtain ⟨-, behindName⟩ := spellable_mul spellable
  obtain ⟨directives, values⟩ := spellable_mul behindName
  exact
    { directives := annotations_wellFormed directives
      values := fun value member =>
        EnumValue.wellFormed_of_spellable (spellable_bracketed values value member) }

theorem DirectiveType.wellFormed_of_spellable {type : DirectiveType}
    (spellable : Spellable type.body) : type.WellFormed := by
  obtain ⟨-, behindSign⟩ := spellable_mul spellable
  obtain ⟨-, behindName⟩ := spellable_mul behindSign
  obtain ⟨arguments, behindArguments⟩ := spellable_mul behindName
  obtain ⟨-, locations⟩ := spellable_mul (spellable_mul behindArguments).2
  refine { arguments := parameterList_wellFormed arguments, locations := ?_ }
  intro none
  rw [none] at locations
  exact not_spellable_zero locations

theorem Definition.wellFormed_of_spellable {definition : Definition}
    (spellable : Spellable definition.spelling) : definition.WellFormed := by
  obtain ⟨about, behindAbout⟩ := spellable_mul (spellable_covering spellable)
  obtain ⟨-, body⟩ := spellable_mul behindAbout
  cases definition with
  | object type => exact ObjectType.wellFormed_of_spellable body
  | interface type => exact ObjectType.wellFormed_of_spellable body
  | input type => exact InputType.wellFormed_of_spellable body
  | enum type => exact EnumType.wellFormed_of_spellable body
  | scalar type => exact annotations_wellFormed (spellable_mul body).2
  | union type => exact annotations_wellFormed (spellable_mul (spellable_mul body).2).1
  | directive type => exact DirectiveType.wellFormed_of_spellable body
  | schema roots => exact annotations_wellFormed (spellable_mul body).1
  | extension type =>
      refine ⟨?_, ObjectType.wellFormed_of_spellable (spellable_mul body).2⟩
      rw [Definition.about] at about
      split at about
      · exact absurd about not_spellable_zero
      · rename_i undescribed
        exact Option.not_isSome_iff_eq_none.mp undescribed

theorem wellFormed_of_documentSpelling {definitions : List Definition} {used : List Lexeme}
    (member : used ∈ documentSpelling definitions) :
    ∀ definition ∈ definitions, definition.WellFormed :=
  fun definition among =>
    Definition.wellFormed_of_spellable (spellable_sequenced ⟨used, member⟩ definition among)

end EntityMapping.Document
