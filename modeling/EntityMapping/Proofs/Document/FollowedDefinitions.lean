import EntityMapping.Proofs.Document.DocumentReader
import EntityMapping.Proofs.Document.FollowedReaders

/-!
# The programs of definitions follow their readers

Each form of definition is followed by its program, and so is the reader of whole documents.
-/

namespace EntityMapping.Document

open EntityMapping.Source

variable {α : Type}

namespace Cursor

/-- A reader with another value. -/
theorem reading_map {β : Type} (read : (cursor : Cursor) → Reads α cursor) (f : α → β) :
    reading (fun cursor => (read cursor).map (·.map f)) = do return f (← reading read) := by
  funext cursor
  rw [reading_bind]
  simp only [reading]
  cases read cursor with
  | error error => rfl
  | ok found => rfl

theorem nameWhere_eq (accepted : String → Bool) (complaint : String → SyntaxCause) :
    nameWhere accepted complaint = (do
      let found ← reading name
      if accepted found then return found else complaining (complaint found)) := by
  funext cursor
  rw [reading_bind]
  simp only [nameWhere]
  refine congrArg (name cursor >>= ·) (funext fun found => ?_)
  cases accepted found.value with
  | true => rfl
  | false => rfl

theorem locationsWord_branches (directive : String) :
    Branches (.name "on") (reading (locationsWord directive)) (fun _ => pure ())
      (wanting (.locations directive)) where
  present span rest last := by
    simp only [reading, locationsWord, word?, if_pos]
    rfl
  absent cursor clear := by
    simp only [reading, locationsWord, word?_eq_none clear]
    rfl

theorem reading_definition_eq :
    reading definition = (do
      let start ← here
      let about ← passing fun cursor => .ok cursor.description
      let keyword ← reading name
      reading (definitionBehind keyword about start)) := by
  funext cursor
  simp only [here_bind, reading_bind, passing_bind]
  simp only [reading, definition, map_bind]
  rfl

/-- Whether there is another lexeme. -/
def more : Steps Bool :=
  fun cursor => .ok (!cursor.rest.isEmpty, cursor)

/-- All definitions up to the end, and where that is. -/
def allDefinitions : Steps (List Definition) :=
  fun cursor => (definitions cursor).map fun found =>
    (found, ⟨[], lastSpan cursor.last cursor.rest⟩)

/-- All definitions are read when nothing is left. -/
theorem definitions_eq_ok_of_allDefinitions {cursor atEnd : Cursor} {found : List Definition}
    (read : allDefinitions cursor = .ok (found, atEnd)) :
    definitions cursor = .ok found ∧ atEnd.rest = [] := by
  obtain ⟨others, isRead, same⟩ := map_eq_ok_iff.mp read
  cases same
  exact ⟨isRead, rfl⟩

theorem allDefinitions_unrolls :
    allDefinitions = do
      if ← more then do
        let first ← reading definition
        let others ← allDefinitions
        return first :: others
      else return [] := by
  funext cursor
  obtain ⟨rest, last⟩ := cursor
  cases rest with
  | nil =>
      simp only [allDefinitions, definitions_eq_nil]
      rfl
  | cons lexeme rest =>
      have another : definitions ⟨lexeme :: rest, last⟩ = _ := definitions_eq_cons (by simp)
      have isMore : more ⟨lexeme :: rest, last⟩ = .ok (true, ⟨lexeme :: rest, last⟩) := rfl
      rw [steps_bind_ok isMore, allDefinitions, another]
      simp only [if_true, reading_bind, map_bind]
      cases isFirst : definition ⟨lexeme :: rest, last⟩ with
      | error error => rfl
      | ok first =>
          obtain ⟨used, -, front, lastUsed⟩ := definition_sound isFirst
          simp only at front lastUsed
          simp only [ok_bind, front, lastSpan_append, ← lastUsed]
          simp only [Bind.bind, StateT.bind, allDefinitions]
          cases definitions first.next with
          | error error => rfl
          | ok others => rfl

end Cursor

namespace Program

variable {left : Nat}

/-! ## Parts of definitions -/

theorem follows_defaultValue :
    Follows left 2 0 defaultValue (Cursor.passing Cursor.defaultValue) :=
  .optional Cursor.defaultValue_branches
    (follows_value.bind (by decide) fun content => .pure _ (by decide))
    (.pure _ (by decide))

theorem follows_inputValue :
    Follows left (40 - stepsPerLexeme) 12 inputValue (Cursor.reading Cursor.inputValue) := by
  rw [Cursor.reading_inputValue]
  exact .enter <| follows_here.bind (by decide) fun start =>
    follows_description.bind (by decide) fun about =>
    follows_name.bind (by decide) fun name =>
    (follows_expect .colon (.punct .colon)).bind (by decide) fun _ =>
    follows_typeRef.bind (by decide) fun type =>
    follows_defaultValue.bind (by decide) fun default =>
    follows_directives.bind (by decide) fun directives =>
    (follows_since start).bind (by decide) fun span => .pure _ (by decide)

theorem follows_parameters :
    Follows left 2 0 parameters (Cursor.passing Cursor.parameters) :=
  follows_enclosed follows_inputValue (by decide) (by decide) (by decide)

theorem follows_field :
    Follows left (40 - stepsPerLexeme) 12 field (Cursor.reading Cursor.field) := by
  rw [Cursor.reading_field]
  exact .enter <| follows_here.bind (by decide) fun start =>
    follows_description.bind (by decide) fun about =>
    follows_name.bind (by decide) fun name =>
    follows_parameters.bind (by decide) fun arguments =>
    (follows_expect .colon (.fieldType name)).bind (by decide) fun _ =>
    follows_typeRef.bind (by decide) fun type =>
    follows_directives.bind (by decide) fun directives =>
    (follows_since start).bind (by decide) fun span => .pure _ (by decide)

theorem follows_interfaces :
    Follows left 2 0 interfaces (Cursor.passing Cursor.interfaces) :=
  .optional Cursor.interfaces_branches
    ((follows_separatedNames .ampersand).allow (by decide) (by decide)) (.pure _ (by decide))

theorem follows_members :
    Follows left 2 0 members (Cursor.passing Cursor.members) :=
  .optional Cursor.members_branches
    ((follows_separatedNames .pipe).allow (by decide) (by decide)) (.pure _ (by decide))

theorem follows_enumValue :
    Follows left (20 - stepsPerLexeme) 11 enumValue (Cursor.reading Cursor.enumValue) := by
  rw [Cursor.reading_enumValue, Cursor.nameWhere_eq]
  simp only [bind_assoc]
  refine follows_here.bind (by decide) fun start =>
    follows_description.bind (by decide) fun about =>
    follows_name.bind (by decide) fun name => ?_
  cases Cursor.isReserved name with
  | true => exact follows_complain (.reservedEnumValue name) (by decide)
  | false =>
      exact follows_directives.bind (by decide) fun directives =>
        (follows_since start).bind (by decide) fun span => .pure _ (by decide)

theorem follows_locationsWord (directive : String) :
    Follows left (3 - stepsPerLexeme) 5 (locationsWord directive)
      (Cursor.reading (Cursor.locationsWord directive)) :=
  .optional (Cursor.locationsWord_branches directive) (.pure _ (by decide))
    (follows_unexpected _ (by decide))

theorem follows_operation :
    Follows left (15 - stepsPerLexeme) 5 operation (Cursor.reading Cursor.operation) := by
  rw [Cursor.reading_operation]
  exact follows_name.bind (by decide) fun kind =>
    (follows_expect .colon (.punct .colon)).bind (by decide) fun _ =>
    follows_name.bind (by decide) fun root => .pure _ (by decide)

/-! ## Definitions -/

section Definitions

variable (about : Option String) (start : Span)

theorem follows_objectType :
    Follows left (14 - stepsPerLexeme) 6 (objectType about start)
      (Cursor.reading (Cursor.objectType about start)) := by
  rw [Cursor.reading_objectType]
  exact .enter <| follows_name.bind (by decide) fun name =>
    follows_interfaces.bind (by decide) fun interfaces =>
    follows_directives.bind (by decide) fun directives =>
    (follows_enclosed follows_field (by decide) (by decide) (by decide)).bind (by decide)
      fun fields =>
    (follows_since start).bind (by decide) fun span => .pure _ (by decide)

theorem follows_inputType :
    Follows left (14 - stepsPerLexeme) 6 (inputType about start)
      (Cursor.reading (Cursor.inputType about start)) := by
  rw [Cursor.reading_inputType]
  exact .enter <| follows_name.bind (by decide) fun name =>
    follows_directives.bind (by decide) fun directives =>
    (follows_enclosed follows_inputValue (by decide) (by decide) (by decide)).bind (by decide)
      fun fields =>
    (follows_since start).bind (by decide) fun span => .pure _ (by decide)

theorem follows_enumType :
    Follows left (14 - stepsPerLexeme) 6 (enumType about start)
      (Cursor.reading (Cursor.enumType about start)) := by
  rw [Cursor.reading_enumType]
  exact .enter <| follows_name.bind (by decide) fun name =>
    follows_directives.bind (by decide) fun directives =>
    (follows_enclosed follows_enumValue (by decide) (by decide) (by decide)).bind (by decide)
      fun values =>
    (follows_since start).bind (by decide) fun span => .pure _ (by decide)

theorem follows_scalarType :
    Follows left (14 - stepsPerLexeme) 6 (scalarType about start)
      (Cursor.reading (Cursor.scalarType about start)) := by
  rw [Cursor.reading_scalarType]
  exact follows_name.bind (by decide) fun name =>
    follows_directives.bind (by decide) fun directives =>
    (follows_since start).bind (by decide) fun span => .pure _ (by decide)

theorem follows_unionType :
    Follows left (14 - stepsPerLexeme) 6 (unionType about start)
      (Cursor.reading (Cursor.unionType about start)) := by
  rw [Cursor.reading_unionType]
  exact .enter <| follows_name.bind (by decide) fun name =>
    follows_directives.bind (by decide) fun directives =>
    follows_members.bind (by decide) fun members =>
    (follows_since start).bind (by decide) fun span => .pure _ (by decide)

theorem follows_directiveType :
    Follows left (14 - stepsPerLexeme) 6 (directiveType about start)
      (Cursor.reading (Cursor.directiveType about start)) := by
  rw [Cursor.reading_directiveType]
  exact .enter <| (follows_expect .atSign (.punct .atSign)).bind (by decide) fun _ =>
    follows_name.bind (by decide) fun name =>
    follows_parameters.bind (by decide) fun arguments =>
    (follows_skipWord "repeatable").bind (by decide) fun repeatable =>
    (follows_locationsWord name).bind (by decide) fun _ =>
    (follows_separatedNames .pipe).bind (by decide) fun locations =>
    (follows_since start).bind (by decide) fun span => .pure _ (by decide)

theorem follows_schemaRoots :
    Follows left (14 - stepsPerLexeme) 13 (schemaRoots start)
      (Cursor.reading (Cursor.schemaRoots start)) := by
  rw [Cursor.reading_schemaRoots]
  exact .enter <| follows_directives.bind (by decide) fun directives =>
    (follows_expect .braceOpen (.punct .braceOpen)).bind (by decide) fun _ =>
    (follows_itemsUntil follows_operation (by decide) (by decide)).bind (by decide)
      fun operations =>
    (follows_since start).bind (by decide) fun span => .pure _ (by decide)

theorem follows_extension :
    Follows left (14 - stepsPerLexeme) 6 (extension about start)
      (Cursor.reading (Cursor.extension about start)) := by
  cases about with
  | some text => exact fun _ _ _ _ _ => .failsNow (by decide) rfl
  | none =>
      rw [Cursor.reading_extension, Cursor.nameWhere_eq]
      simp only [bind_assoc]
      refine follows_name.bind (by decide) fun what => ?_
      by_cases isType : what = "type"
      · simp only [isType]
        exact (follows_objectType none start).allow (by decide) (by decide)
      · simp only [isType]
        exact follows_complain (.unsupportedExtension what) (by decide)

/-- What follows the reader of a form of definitions follows it as one of definitions. -/
theorem Follows.asDefinition {written : Type} {ifDone ifFailed : Int} {program : Program written}
    {read : (cursor : Cursor) → Reads written cursor}
    (follows : Follows left ifDone ifFailed program (Cursor.reading read))
    (within : ifFailed ≤ 13) (form : written → Definition) :
    Follows left ifDone 13 (do return form (← program))
      (Cursor.reading fun cursor => (read cursor).map (·.map form)) := by
  rw [Cursor.reading_map]
  exact follows.bind within fun value => .pure _ (by omega)

theorem follows_definitionBehind (keyword : String) :
    Follows left (14 - stepsPerLexeme) 13 (definitionBehind keyword about start)
      (Cursor.reading (Cursor.definitionBehind keyword about start)) := by
  unfold definitionBehind
  split
  case h_1 => exact (follows_objectType about start).asDefinition (by decide) .object
  case h_2 => exact (follows_objectType about start).asDefinition (by decide) .interface
  case h_3 => exact (follows_inputType about start).asDefinition (by decide) .input
  case h_4 => exact (follows_enumType about start).asDefinition (by decide) .enum
  case h_5 => exact (follows_scalarType about start).asDefinition (by decide) .scalar
  case h_6 => exact (follows_unionType about start).asDefinition (by decide) .union
  case h_7 => exact (follows_directiveType about start).asDefinition (by decide) .directive
  case h_8 => exact (follows_schemaRoots start).asDefinition (by decide) .schema
  case h_9 => exact (follows_extension about start).asDefinition (by decide) .extension
  case h_10 =>
      have other : Cursor.isKeyword keyword = false := by
        simp_all [Cursor.isKeyword]
      have unknown : Cursor.reading (Cursor.definitionBehind keyword about start) =
          Cursor.complaining (.unknownDefinition keyword) :=
        funext fun cursor => congrArg (Except.map Reading.outcome)
          (Cursor.definitionBehind_of_not_isKeyword other about start cursor)
      rw [unknown]
      exact follows_complain (.unknownDefinition keyword) (by decide)

theorem follows_definition :
    Follows left (30 - stepsPerLexeme) 12 definition (Cursor.reading Cursor.definition) := by
  rw [Cursor.reading_definition_eq]
  exact .enter <| follows_here.bind (by decide) fun start =>
    follows_description.bind (by decide) fun about =>
    follows_name.bind (by decide) fun keyword =>
    (follows_definitionBehind about start keyword).allow (by decide) (by decide)

theorem follows_more : Follows left 1 0 more Cursor.more := by
  intro lexemes pos last inside close
  cases front : lexemes[pos]? with
  | none =>
      refine .peek front (.now (by decide) ?_)
      simp [Cursor.more, drop_of_none front]
  | some lexeme =>
      refine .peek front (.now (by decide) ?_)
      simp [Cursor.more, drop_of_some front]

theorem follows_document : Follows left 3 16 document Cursor.allDefinitions :=
  (follows_more.repeatWhile follows_definition (by decide) (by decide) (by decide) (by decide)
    (by decide) Cursor.allDefinitions_unrolls).enter

end Definitions

end Program

end EntityMapping.Document
