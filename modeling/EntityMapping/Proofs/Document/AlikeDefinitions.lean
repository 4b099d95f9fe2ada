import EntityMapping.Proofs.Document.AlikeReaders
import EntityMapping.Proofs.Document.DocumentReader

/-!
# Definitions depend on tokens only

Lexemes with the same tokens are read as the same definitions but for their spans, or are
refused for the same cause.
-/

namespace EntityMapping.Document

open EntityMapping.Source

/-- Parts that are the same but for spans make definitions that are. -/
theorem Agree.form {α : Type} {strip : α → α} {form : α → Definition} {before beforeOther : Cursor}
    {left : Reads α before} {right : Reads α beforeOther}
    (agree : Agree (Reading.Alike strip) left right)
    (unplaced : ∀ value, (form value).unplaced = form (strip value)) :
    Agree (Reading.Alike Definition.unplaced) (left.map (·.map form)) (right.map (·.map form)) := by
  refine agree.map ?_
  rintro leftPart rightPart ⟨samePart, alike⟩
  refine ⟨?_, alike⟩
  change (form leftPart.value).unplaced = (form rightPart.value).unplaced
  rw [unplaced, unplaced, samePart]

namespace Cursor

variable {left right : Cursor}

/-! ## Parts of definitions -/

theorem defaultValue_alike : PassesAlike defaultValue id := by
  intro left right alike
  unfold defaultValue
  rcases punct?_alike .equals alike with
    ⟨leftNone, rightNone⟩ | ⟨leftMark, rightMark, leftFound, rightFound, behind⟩
  · rw [leftNone, rightNone]
    exact .ok ⟨rfl, alike⟩
  · rw [leftFound, rightFound]
    refine (value_alike behind).bind ?_
    rintro ⟨content, leftNext, _⟩ ⟨_, rightNext, _⟩ ⟨⟨⟩, alike⟩
    exact .ok ⟨rfl, alike⟩

theorem inputValue_alike : ReadsAlike inputValue (InputValue.relocate Span.nowhere) := by
  intro left right alike
  obtain ⟨sameAbout, alike⟩ := description_alike alike
  refine (name_alike alike).bind ?_
  rintro ⟨name, leftNext, _⟩ ⟨_, rightNext, _⟩ ⟨⟨⟩, alike⟩
  refine (punct_alike .colon _ alike).bind ?_
  rintro leftColon rightColon ⟨-, alike⟩
  refine (typeRef_alike alike).bind ?_
  rintro ⟨type, leftNext, _⟩ ⟨_, rightNext, _⟩ ⟨⟨⟩, alike⟩
  refine (defaultValue_alike alike).bind ?_
  rintro ⟨default, leftNext, _⟩ ⟨_, rightNext, _⟩ ⟨⟨⟩, alike⟩
  refine (directives_alike alike).bind ?_
  rintro leftDirectives rightDirectives ⟨sameDirectives, alike⟩
  refine .ok ⟨?_, alike⟩
  rw [id, id] at sameAbout
  simp only [InputValue.relocate, Span.nowhere, sameAbout, sameDirectives]

theorem parameters_alike :
    PassesAlike parameters (List.map (InputValue.relocate Span.nowhere)) :=
  enclosed_alike .parenOpen .parenClose inputValue_alike

theorem field_alike : ReadsAlike field (Field.relocate Span.nowhere) := by
  intro left right alike
  obtain ⟨sameAbout, alike⟩ := description_alike alike
  refine (name_alike alike).bind ?_
  rintro ⟨name, leftNext, _⟩ ⟨_, rightNext, _⟩ ⟨⟨⟩, alike⟩
  refine (parameters_alike alike).bind ?_
  rintro leftArguments rightArguments ⟨sameArguments, alike⟩
  refine (punct_alike .colon _ alike).bind ?_
  rintro leftColon rightColon ⟨-, alike⟩
  refine (typeRef_alike alike).bind ?_
  rintro ⟨type, leftNext, _⟩ ⟨_, rightNext, _⟩ ⟨⟨⟩, alike⟩
  refine (directives_alike alike).bind ?_
  rintro leftDirectives rightDirectives ⟨sameDirectives, alike⟩
  refine .ok ⟨?_, alike⟩
  rw [id, id] at sameAbout
  simp only [Field.relocate, Span.nowhere, sameAbout, sameArguments, sameDirectives]

theorem interfaces_alike : PassesAlike interfaces id := by
  intro left right alike
  unfold interfaces
  rcases word?_alike "implements" alike with
    ⟨leftNone, rightNone⟩ | ⟨leftWord, rightWord, leftFound, rightFound, behind⟩
  · rw [leftNone, rightNone]
    exact .ok ⟨rfl, alike⟩
  · rw [leftFound, rightFound]
    refine (separatedNames_alike .ampersand behind).bind ?_
    rintro leftNames rightNames ⟨sameNames, alike⟩
    exact .ok ⟨sameNames, alike⟩

theorem enumValue_alike : ReadsAlike enumValue (EnumValue.relocate Span.nowhere) := by
  intro left right alike
  obtain ⟨sameAbout, alike⟩ := description_alike alike
  refine (name_alike alike).bind ?_
  rintro ⟨name, leftNext, _⟩ ⟨_, rightNext, _⟩ ⟨⟨⟩, alike⟩
  by_cases reserved : isReserved name
  · simp only [if_pos reserved]
    exact .error rfl
  · simp only [if_neg reserved]
    refine (directives_alike alike).bind ?_
    rintro leftDirectives rightDirectives ⟨sameDirectives, alike⟩
    refine .ok ⟨?_, alike⟩
    rw [id, id] at sameAbout
    simp only [EnumValue.relocate, Span.nowhere, sameAbout, sameDirectives]

theorem members_alike : PassesAlike members id := by
  intro left right alike
  unfold members
  rcases punct?_alike .equals alike with
    ⟨leftNone, rightNone⟩ | ⟨leftMark, rightMark, leftFound, rightFound, behind⟩
  · rw [leftNone, rightNone]
    exact .ok ⟨rfl, alike⟩
  · rw [leftFound, rightFound]
    refine (separatedNames_alike .pipe behind).bind ?_
    rintro leftNames rightNames ⟨sameNames, alike⟩
    exact .ok ⟨sameNames, alike⟩

theorem locationsWord_alike (directive : String) : ReadsAlike (locationsWord directive) id := by
  intro left right alike
  unfold locationsWord
  rcases word?_alike "on" alike with
    ⟨leftNone, rightNone⟩ | ⟨leftWord, rightWord, leftFound, rightFound, behind⟩
  · rw [leftNone, rightNone]
    exact .error (alike.wants _)
  · rw [leftFound, rightFound]
    exact .ok ⟨rfl, behind⟩

theorem operation_alike : ReadsAlike operation id := by
  intro left right alike
  refine (name_alike alike).bind ?_
  rintro ⟨kind, leftNext, _⟩ ⟨_, rightNext, _⟩ ⟨⟨⟩, alike⟩
  refine (punct_alike .colon _ alike).bind ?_
  rintro leftColon rightColon ⟨-, alike⟩
  refine (name_alike alike).bind ?_
  rintro ⟨root, leftNext, _⟩ ⟨_, rightNext, _⟩ ⟨⟨⟩, alike⟩
  exact .ok ⟨rfl, alike⟩

/-! ## Forms of definitions -/

section Forms

variable (about : Option String) (leftStart rightStart : Span) (alike : left.Alike right)
include alike

theorem objectType_alike :
    Agree (Reading.Alike (ObjectType.relocate Span.nowhere)) (objectType about leftStart left)
      (objectType about rightStart right) := by
  refine (name_alike alike).bind ?_
  rintro ⟨name, leftNext, _⟩ ⟨_, rightNext, _⟩ ⟨⟨⟩, alike⟩
  refine (interfaces_alike alike).bind ?_
  rintro ⟨interfaces, leftNext, _⟩ ⟨_, rightNext, _⟩ ⟨⟨⟩, alike⟩
  refine (directives_alike alike).bind ?_
  rintro leftDirectives rightDirectives ⟨sameDirectives, alike⟩
  refine (enclosed_alike .braceOpen .braceClose field_alike alike).bind ?_
  rintro leftFields rightFields ⟨sameFields, alike⟩
  refine .ok ⟨?_, alike⟩
  simp only [ObjectType.relocate, Span.nowhere, sameDirectives, sameFields]

theorem inputType_alike :
    Agree (Reading.Alike (InputType.relocate Span.nowhere)) (inputType about leftStart left)
      (inputType about rightStart right) := by
  refine (name_alike alike).bind ?_
  rintro ⟨name, leftNext, _⟩ ⟨_, rightNext, _⟩ ⟨⟨⟩, alike⟩
  refine (directives_alike alike).bind ?_
  rintro leftDirectives rightDirectives ⟨sameDirectives, alike⟩
  refine (enclosed_alike .braceOpen .braceClose inputValue_alike alike).bind ?_
  rintro leftFields rightFields ⟨sameFields, alike⟩
  refine .ok ⟨?_, alike⟩
  simp only [InputType.relocate, Span.nowhere, sameDirectives, sameFields]

theorem enumType_alike :
    Agree (Reading.Alike (EnumType.relocate Span.nowhere)) (enumType about leftStart left)
      (enumType about rightStart right) := by
  refine (name_alike alike).bind ?_
  rintro ⟨name, leftNext, _⟩ ⟨_, rightNext, _⟩ ⟨⟨⟩, alike⟩
  refine (directives_alike alike).bind ?_
  rintro leftDirectives rightDirectives ⟨sameDirectives, alike⟩
  refine (enclosed_alike .braceOpen .braceClose enumValue_alike alike).bind ?_
  rintro leftValues rightValues ⟨sameValues, alike⟩
  refine .ok ⟨?_, alike⟩
  simp only [EnumType.relocate, Span.nowhere, sameDirectives, sameValues]

theorem scalarType_alike :
    Agree (Reading.Alike (ScalarType.relocate Span.nowhere)) (scalarType about leftStart left)
      (scalarType about rightStart right) := by
  refine (name_alike alike).bind ?_
  rintro ⟨name, leftNext, _⟩ ⟨_, rightNext, _⟩ ⟨⟨⟩, alike⟩
  refine (directives_alike alike).bind ?_
  rintro leftDirectives rightDirectives ⟨sameDirectives, alike⟩
  refine .ok ⟨?_, alike⟩
  simp only [ScalarType.relocate, Span.nowhere, sameDirectives]

theorem unionType_alike :
    Agree (Reading.Alike (UnionType.relocate Span.nowhere)) (unionType about leftStart left)
      (unionType about rightStart right) := by
  refine (name_alike alike).bind ?_
  rintro ⟨name, leftNext, _⟩ ⟨_, rightNext, _⟩ ⟨⟨⟩, alike⟩
  refine (directives_alike alike).bind ?_
  rintro leftDirectives rightDirectives ⟨sameDirectives, alike⟩
  refine (members_alike alike).bind ?_
  rintro ⟨members, leftNext, _⟩ ⟨_, rightNext, _⟩ ⟨⟨⟩, alike⟩
  refine .ok ⟨?_, alike⟩
  simp only [UnionType.relocate, Span.nowhere, sameDirectives]

theorem directiveType_alike :
    Agree (Reading.Alike (DirectiveType.relocate Span.nowhere))
      (directiveType about leftStart left) (directiveType about rightStart right) := by
  refine (punct_alike .atSign _ alike).bind ?_
  rintro leftSign rightSign ⟨-, alike⟩
  refine (name_alike alike).bind ?_
  rintro ⟨name, leftNext, _⟩ ⟨_, rightNext, _⟩ ⟨⟨⟩, alike⟩
  refine (parameters_alike alike).bind ?_
  rintro leftArguments rightArguments ⟨sameArguments, alike⟩
  obtain ⟨sameRepeatable, alike⟩ := skipWord_alike "repeatable" alike
  refine (locationsWord_alike name alike).bind ?_
  rintro leftWord rightWord ⟨-, alike⟩
  refine (separatedNames_alike .pipe alike).bind ?_
  rintro ⟨locations, leftNext, _⟩ ⟨_, rightNext, _⟩ ⟨⟨⟩, alike⟩
  refine .ok ⟨?_, alike⟩
  rw [id, id] at sameRepeatable
  simp only [DirectiveType.relocate, Span.nowhere, sameArguments, sameRepeatable]

omit about in
theorem schemaRoots_alike :
    Agree (Reading.Alike (SchemaRoots.relocate Span.nowhere)) (schemaRoots leftStart left)
      (schemaRoots rightStart right) := by
  refine (directives_alike alike).bind ?_
  rintro leftDirectives rightDirectives ⟨sameDirectives, alike⟩
  refine (punct_alike .braceOpen _ alike).bind ?_
  rintro leftOpening rightOpening ⟨-, alike⟩
  refine (many_alike .braceClose operation_alike alike).bind ?_
  rintro leftOperations rightOperations ⟨sameOperations, alike⟩
  refine .ok ⟨?_, alike⟩
  rw [List.map_id, List.map_id] at sameOperations
  simp only [SchemaRoots.relocate, Span.nowhere, sameDirectives, sameOperations]

theorem extension_alike :
    Agree (Reading.Alike (ObjectType.relocate Span.nowhere)) (extension about leftStart left)
      (extension about rightStart right) := by
  unfold extension
  split
  · exact .error rfl
  · refine (name_alike alike).bind ?_
    rintro ⟨what, leftNext, _⟩ ⟨_, rightNext, _⟩ ⟨⟨⟩, alike⟩
    by_cases isType : what = "type"
    · simp only [if_pos isType]
      refine (objectType_alike none leftStart rightStart alike).bind ?_
      rintro leftType rightType ⟨sameType, alike⟩
      exact .ok ⟨sameType, alike⟩
    · simp only [if_neg isType]
      exact .error rfl

end Forms

/-! ## Whole documents -/

theorem definitionBehind_alike (keyword : String) (about : Option String)
    (leftStart rightStart : Span) (alike : left.Alike right) :
    Agree (Reading.Alike Definition.unplaced) (definitionBehind keyword about leftStart left)
      (definitionBehind keyword about rightStart right) := by
  unfold definitionBehind
  split
  · exact (objectType_alike about leftStart rightStart alike).form fun _ => rfl
  · exact (objectType_alike about leftStart rightStart alike).form fun _ => rfl
  · exact (inputType_alike about leftStart rightStart alike).form fun _ => rfl
  · exact (enumType_alike about leftStart rightStart alike).form fun _ => rfl
  · exact (scalarType_alike about leftStart rightStart alike).form fun _ => rfl
  · exact (unionType_alike about leftStart rightStart alike).form fun _ => rfl
  · exact (directiveType_alike about leftStart rightStart alike).form fun _ => rfl
  · exact (schemaRoots_alike leftStart rightStart alike).form fun _ => rfl
  · exact (extension_alike about leftStart rightStart alike).form fun _ => rfl
  · exact .error rfl

theorem definition_alike : ReadsAlike definition Definition.unplaced := by
  intro left right alike
  obtain ⟨sameAbout, behindAbout⟩ := description_alike alike
  rw [id, id] at sameAbout
  refine (name_alike behindAbout).bind ?_
  rintro ⟨keyword, leftNext, _⟩ ⟨_, rightNext, _⟩ ⟨⟨⟩, alike⟩
  rw [sameAbout]
  refine (definitionBehind_alike keyword _ _ _ alike).bind ?_
  rintro leftDefinition rightDefinition ⟨sameDefinition, alike⟩
  exact .ok ⟨sameDefinition, alike⟩

theorem definitions_alike (alike : left.Alike right) :
    Agree (fun lefts rights => lefts.map Definition.unplaced = rights.map Definition.unplaced)
      left.definitions right.definitions := by
  induction left using definitions.induct generalizing right with
  | case1 left leftEnd =>
      obtain ⟨leftRest, leftLast⟩ := left
      obtain ⟨rightRest, rightLast⟩ := right
      subst leftEnd
      cases alike with
      | nil =>
          rw [definitions_eq_nil rfl, definitions_eq_nil rfl]
          exact .ok rfl
  | case2 left lexeme leftRest leftMore ih =>
      have rightMore : right.rest ≠ [] := by
        intro rightEnd
        rw [Alike, leftMore, rightEnd] at alike
        cases alike
      rw [definitions_eq_cons (by simp [leftMore]), definitions_eq_cons rightMore]
      refine (definition_alike alike).bind ?_
      rintro leftFirst rightFirst ⟨sameFirst, alike⟩
      refine (ih leftFirst alike).bind ?_
      intro leftOthers rightOthers sameOthers
      exact .ok (congrArg₂ List.cons sameFirst sameOthers)

end Cursor

/-- Lexemes with the same tokens are read alike. -/
theorem ofLexemes_alike {lefts rights : List Lexeme}
    (same : lefts.map Lexeme.token = rights.map Lexeme.token) :
    Agree (fun left right => left.map Definition.unplaced = right.map Definition.unplaced)
      (ofLexemes lefts) (ofLexemes rights) :=
  Cursor.definitions_alike (sameTokens_of_map_eq same)

end EntityMapping.Document
