import EntityMapping.Proofs.Document.DefinitionReaders

/-!
# Readers of the forms of definitions

Each form of definition is read behind its keyword, given the description in front
of the keyword and the place where the definition starts.
-/

namespace EntityMapping.Document.Cursor

open EntityMapping.Source

/-! ## Behind the keyword -/

/-- The tokens with which a definition could go on. -/
def definitionStops : List Token :=
  [.name "implements", .punct .ampersand, .punct .pipe, .punct .equals, .punct .atSign,
    .punct .parenOpen, .punct .braceOpen]

/-- A reader of a form of definition only advances over its spellings, and keeps the
description and the place it is given. -/
def SoundForm {α : Type} (form : α → Definition)
    (read : Option String → Span → (cursor : Cursor) → Reads α cursor) : Prop :=
  ∀ {about : Option String} {start : Span} {cursor : Cursor} {reading : Reading α cursor},
    read about start cursor = .ok reading →
      cursor.Advances (form reading.value).body reading.next ∧
        (form reading.value).description? = about ∧
        reading.next.spanSince start = (form reading.value).span

/-- A reader of a form of definition returns every definition of the form over whose
spelling the cursor can advance. -/
def CompleteForm {α : Type} (form : α → Definition)
    (read : Option String → Span → (cursor : Cursor) → Reads α cursor) : Prop :=
  ∀ {start : Span} {cursor next : Cursor} {value : α},
    cursor.Advances (form value).body next → Clear definitionStops next.rest →
      next.spanSince start = (form value).span →
        ∃ shorter, read (form value).description? start cursor = .ok ⟨value, next, shorter⟩

/-- Directives in front of parts between braces end where the braces begin. -/
theorem directives_complete_before_braces {α : Type} {spelling : α → Language Lexeme}
    {items : List α} {cursor middle next : Cursor} {written : List Directive}
    (annotated : cursor.Advances (annotations written) middle)
    (moved : middle.Advances (bracketed .braceOpen .braceClose spelling items) next)
    (clear : Clear definitionStops next.rest) :
    ∃ notLonger, directives cursor = .ok ⟨written, middle, notLonger⟩ :=
  directives_complete annotated
    (moved.clear (fresh_bracketed (by simp)) (clear.mono (by simp [definitionStops])))

theorem objectType_sound : SoundForm .object objectType := by
  intro about start cursor reading read
  simp only [objectType] at read
  obtain ⟨name, readName, read⟩ := bind_eq_ok_iff.mp read
  obtain ⟨interfaces, readInterfaces, read⟩ := bind_eq_ok_iff.mp read
  obtain ⟨directives, readDirectives, read⟩ := bind_eq_ok_iff.mp read
  obtain ⟨fields, readFields, read⟩ := bind_eq_ok_iff.mp read
  cases read
  refine ⟨?_, rfl, rfl⟩
  refine advances_mul.mpr ⟨_, name_sound readName, ?_⟩
  refine advances_mul.mpr ⟨_, interfaces_sound readInterfaces, ?_⟩
  exact advances_mul.mpr ⟨_, directives_sound readDirectives,
    enclosed_sound field_sound readFields⟩

theorem objectType_complete : CompleteForm .object objectType := by
  intro start cursor next type moved clear covers
  obtain ⟨behindName, named, moved⟩ := advances_mul.mp moved
  obtain ⟨behindInterfaces, implemented, moved⟩ := advances_mul.mp moved
  obtain ⟨behindDirectives, annotated, bodied⟩ := advances_mul.mp moved
  have clearInterfaces : Clear [.name "implements", .punct .ampersand] behindInterfaces.rest :=
    moved.clear (fresh_mul (fresh_annotations (by simp) _) (fresh_bracketed (by simp)))
      (clear.mono (by simp [definitionStops]))
  obtain ⟨shorterName, readName⟩ := name_complete named
  obtain ⟨notLongerInterfaces, readInterfaces⟩ :=
    interfaces_complete implemented clearInterfaces
  obtain ⟨notLongerDirectives, readDirectives⟩ :=
    directives_complete_before_braces annotated bodied clear
  obtain ⟨notLonger, readFields⟩ := enclosed_complete field_complete
    (begins_field (by simp [partStops, Token.stringValue?]) (by simp [partStops]))
    (by simp [partStops]) bodied (clear.mono (by simp [definitionStops]))
  change next.spanSince start = type.span at covers
  simp only [objectType, readName, ok_bind, readInterfaces, readDirectives, readFields, covers]
  exact ⟨by omega, rfl⟩

theorem interfaceType_sound : SoundForm .interface objectType :=
  objectType_sound

theorem interfaceType_complete : CompleteForm .interface objectType :=
  objectType_complete

theorem inputType_sound : SoundForm .input inputType := by
  intro about start cursor reading read
  simp only [inputType] at read
  obtain ⟨name, readName, read⟩ := bind_eq_ok_iff.mp read
  obtain ⟨directives, readDirectives, read⟩ := bind_eq_ok_iff.mp read
  obtain ⟨fields, readFields, read⟩ := bind_eq_ok_iff.mp read
  cases read
  refine ⟨?_, rfl, rfl⟩
  refine advances_mul.mpr ⟨_, name_sound readName, ?_⟩
  exact advances_mul.mpr ⟨_, directives_sound readDirectives,
    enclosed_sound inputValue_sound readFields⟩

theorem inputType_complete : CompleteForm .input inputType := by
  intro start cursor next type moved clear covers
  obtain ⟨behindName, named, moved⟩ := advances_mul.mp moved
  obtain ⟨behindDirectives, annotated, bodied⟩ := advances_mul.mp moved
  obtain ⟨shorterName, readName⟩ := name_complete named
  obtain ⟨notLongerDirectives, readDirectives⟩ :=
    directives_complete_before_braces annotated bodied clear
  obtain ⟨notLonger, readFields⟩ := enclosed_complete inputValue_complete
    (begins_inputValue (by simp [partStops, Token.stringValue?]) (by simp [partStops]))
    (by simp [partStops]) bodied (clear.mono (by simp [definitionStops]))
  change next.spanSince start = type.span at covers
  simp only [inputType, readName, ok_bind, readDirectives, readFields, covers]
  exact ⟨by omega, rfl⟩

theorem enumType_sound : SoundForm .enum enumType := by
  intro about start cursor reading read
  simp only [enumType] at read
  obtain ⟨name, readName, read⟩ := bind_eq_ok_iff.mp read
  obtain ⟨directives, readDirectives, read⟩ := bind_eq_ok_iff.mp read
  obtain ⟨values, readValues, read⟩ := bind_eq_ok_iff.mp read
  cases read
  refine ⟨?_, rfl, rfl⟩
  refine advances_mul.mpr ⟨_, name_sound readName, ?_⟩
  exact advances_mul.mpr ⟨_, directives_sound readDirectives,
    enclosed_sound enumValue_sound readValues⟩

theorem enumType_complete : CompleteForm .enum enumType := by
  intro start cursor next type moved clear covers
  obtain ⟨behindName, named, moved⟩ := advances_mul.mp moved
  obtain ⟨behindDirectives, annotated, bodied⟩ := advances_mul.mp moved
  obtain ⟨shorterName, readName⟩ := name_complete named
  obtain ⟨notLongerDirectives, readDirectives⟩ :=
    directives_complete_before_braces annotated bodied clear
  obtain ⟨notLonger, readValues⟩ := enclosed_complete enumValue_complete
    (begins_enumValue (by simp [partStops, Token.stringValue?]) (by simp [partStops]))
    (by simp [partStops]) bodied (clear.mono (by simp [definitionStops]))
  change next.spanSince start = type.span at covers
  simp only [enumType, readName, ok_bind, readDirectives, readValues, covers]
  exact ⟨by omega, rfl⟩

theorem scalarType_sound : SoundForm .scalar scalarType := by
  intro about start cursor reading read
  simp only [scalarType] at read
  obtain ⟨name, readName, read⟩ := bind_eq_ok_iff.mp read
  obtain ⟨directives, readDirectives, read⟩ := bind_eq_ok_iff.mp read
  cases read
  exact ⟨advances_mul.mpr ⟨_, name_sound readName, directives_sound readDirectives⟩, rfl, rfl⟩

theorem scalarType_complete : CompleteForm .scalar scalarType := by
  intro start cursor next type moved clear covers
  obtain ⟨behindName, named, annotated⟩ := advances_mul.mp moved
  obtain ⟨shorterName, readName⟩ := name_complete named
  obtain ⟨notLonger, readDirectives⟩ :=
    directives_complete annotated (clear.mono (by simp [definitionStops]))
  change next.spanSince start = type.span at covers
  simp only [scalarType, readName, ok_bind, readDirectives, covers]
  exact ⟨by omega, rfl⟩

theorem fresh_uniting {stops : List Token} (other : .punct .equals ∉ stops)
    (names : List String) : Fresh stops (uniting names) := by
  cases names with
  | nil => exact fresh_one
  | cons first others => exact (begins_mul (begins_single other)).fresh

theorem unionType_sound : SoundForm .union unionType := by
  intro about start cursor reading read
  simp only [unionType] at read
  obtain ⟨name, readName, read⟩ := bind_eq_ok_iff.mp read
  obtain ⟨directives, readDirectives, read⟩ := bind_eq_ok_iff.mp read
  obtain ⟨members, readMembers, read⟩ := bind_eq_ok_iff.mp read
  cases read
  refine ⟨?_, rfl, rfl⟩
  refine advances_mul.mpr ⟨_, name_sound readName, ?_⟩
  exact advances_mul.mpr ⟨_, directives_sound readDirectives, members_sound readMembers⟩

theorem unionType_complete : CompleteForm .union unionType := by
  intro start cursor next type moved clear covers
  obtain ⟨behindName, named, moved⟩ := advances_mul.mp moved
  obtain ⟨behindDirectives, annotated, united⟩ := advances_mul.mp moved
  have clearDirectives : Clear [.punct .atSign, .punct .parenOpen] behindDirectives.rest :=
    united.clear (fresh_uniting (by simp) _) (clear.mono (by simp [definitionStops]))
  obtain ⟨shorterName, readName⟩ := name_complete named
  obtain ⟨notLongerDirectives, readDirectives⟩ :=
    directives_complete annotated clearDirectives
  obtain ⟨notLonger, readMembers⟩ :=
    members_complete united (clear.mono (by simp [definitionStops]))
  change next.spanSince start = type.span at covers
  simp only [unionType, readName, ok_bind, readDirectives, readMembers, covers]
  exact ⟨by omega, rfl⟩

theorem locationsWord_sound {directive : String} {cursor : Cursor}
    {reading : Reading Unit cursor} (read : locationsWord directive cursor = .ok reading) :
    cursor.Advances (word "on") reading.next := by
  unfold locationsWord at read
  split at read
  · rename_i found
    cases read
    exact word?_sound found
  · cases read

theorem locationsWord_complete {cursor next : Cursor}
    (moved : cursor.Advances (word "on") next) (directive : String) :
    ∃ shorter, locationsWord directive cursor = .ok ⟨(), next, shorter⟩ := by
  obtain ⟨shorter, found⟩ := word?_complete moved
  exact ⟨shorter, by rw [locationsWord, found]⟩

theorem directiveType_sound : SoundForm .directive directiveType := by
  intro about start cursor reading read
  simp only [directiveType] at read
  obtain ⟨sign, readSign, read⟩ := bind_eq_ok_iff.mp read
  obtain ⟨name, readName, read⟩ := bind_eq_ok_iff.mp read
  obtain ⟨arguments, readArguments, read⟩ := bind_eq_ok_iff.mp read
  obtain ⟨on, readOn, read⟩ := bind_eq_ok_iff.mp read
  obtain ⟨locations, readLocations, read⟩ := bind_eq_ok_iff.mp read
  cases read
  refine ⟨?_, rfl, rfl⟩
  refine advances_mul.mpr ⟨_, punct_sound readSign, ?_⟩
  refine advances_mul.mpr ⟨_, name_sound readName, ?_⟩
  refine advances_mul.mpr ⟨_, parameters_sound readArguments, ?_⟩
  refine advances_mul.mpr ⟨_, skipWord_sound "repeatable" arguments.next, ?_⟩
  exact advances_mul.mpr ⟨_, locationsWord_sound readOn,
    separatedNames_sound .pipe readLocations⟩

theorem directiveType_complete : CompleteForm .directive directiveType := by
  intro start cursor next type moved clear covers
  obtain ⟨behindSign, sign, moved⟩ := advances_mul.mp moved
  obtain ⟨behindName, named, moved⟩ := advances_mul.mp moved
  obtain ⟨behindArguments, parameterized, moved⟩ := advances_mul.mp moved
  obtain ⟨behindRepeatable, repeated, located⟩ := advances_mul.mp moved
  obtain ⟨behindOn, on, listed⟩ := advances_mul.mp located
  have clearRepeatable : Clear [.name "repeatable"] behindRepeatable.rest :=
    on.clear_of_begins (begins_single (by simp))
  have clearArguments : Clear [.punct .parenOpen] behindArguments.rest := by
    have begins : Begins [.punct .parenOpen] (word "on") := begins_single (by simp)
    refine repeated.clear ?_ (on.clear_of_begins begins)
    split
    · exact (begins_single (by simp)).fresh
    · exact fresh_one
  obtain ⟨shorterSign, readSign⟩ := punct_complete sign (.punct .atSign)
  obtain ⟨shorterName, readName⟩ := name_complete named
  obtain ⟨notLongerArguments, readArguments⟩ := parameters_complete parameterized clearArguments
  obtain ⟨isRepeatable, rfl⟩ := skipWord_complete repeated clearRepeatable
  have notLongerRepeatable := (behindArguments.skipWord "repeatable").notLonger
  obtain ⟨shorterOn, readOn⟩ := locationsWord_complete on type.name
  obtain ⟨shorter, readLocations⟩ :=
    separatedNames_complete .pipe listed (clear.mono (by simp [definitionStops]))
  change next.spanSince start = type.span at covers
  simp only [directiveType, readSign, ok_bind, readName, readArguments, readOn, readLocations,
    isRepeatable, covers]
  exact ⟨by omega, rfl⟩

theorem schemaRoots_sound {start : Span} {cursor : Cursor} {reading : Reading SchemaRoots cursor}
    (read : schemaRoots start cursor = .ok reading) :
    cursor.Advances reading.value.body reading.next ∧
      reading.next.spanSince start = reading.value.span := by
  simp only [schemaRoots] at read
  obtain ⟨directives, readDirectives, read⟩ := bind_eq_ok_iff.mp read
  obtain ⟨opening, readOpening, read⟩ := bind_eq_ok_iff.mp read
  obtain ⟨operations, readOperations, read⟩ := bind_eq_ok_iff.mp read
  cases read
  refine ⟨?_, rfl⟩
  refine advances_mul.mpr ⟨_, directives_sound readDirectives, ?_⟩
  exact advances_mul.mpr ⟨_, punct_sound readOpening, many_sound operation_sound readOperations⟩

theorem schemaRoots_complete {start : Span} {cursor next : Cursor} {roots : SchemaRoots}
    (moved : cursor.Advances roots.body next) (covers : next.spanSince start = roots.span) :
    ∃ shorter, schemaRoots start cursor = .ok ⟨roots, next, shorter⟩ := by
  obtain ⟨behindDirectives, annotated, moved⟩ := advances_mul.mp moved
  obtain ⟨behindOpening, opening, operated⟩ := advances_mul.mp moved
  have clear : Clear [.punct .atSign, .punct .parenOpen] behindDirectives.rest :=
    opening.clear_of_begins (begins_single (by simp))
  obtain ⟨notLonger, readDirectives⟩ := directives_complete annotated clear
  obtain ⟨shorterOpening, readOpening⟩ := punct_complete opening (.punct .braceOpen)
  obtain ⟨shorter, readOperations⟩ := many_complete operation_complete
    (fun _ => begins_mul (begins_single (by simp))) (by simp) operated
  simp only [schemaRoots, readDirectives, ok_bind, readOpening, readOperations, covers]
  exact ⟨by omega, rfl⟩

theorem extension_sound : SoundForm .extension extension := by
  intro about start cursor reading read
  unfold extension at read
  split at read
  · cases read
  · rename_i absent
    obtain ⟨what, readWhat, read⟩ := bind_eq_ok_iff.mp read
    split at read
    · rename_i isType
      obtain ⟨type, readType, read⟩ := bind_eq_ok_iff.mp read
      cases read
      obtain ⟨moved, described, covers⟩ := objectType_sound readType
      have named : cursor.Advances (word "type") what.next := isType ▸ name_sound readWhat
      refine ⟨advances_mul.mpr ⟨what.next, named, moved⟩, ?_, covers⟩
      rw [Option.not_isSome_iff_eq_none.mp absent]
      exact described
    · cases read

theorem extension_undescribed {about : Option String} {start : Span} {cursor : Cursor}
    {reading : Reading ObjectType cursor} (read : extension about start cursor = .ok reading) :
    about = none := by
  unfold extension at read
  split at read
  · cases read
  · rename_i absent
    exact Option.not_isSome_iff_eq_none.mp absent

theorem extension_complete {start : Span} {cursor next : Cursor} {type : ObjectType}
    (moved : cursor.Advances (Definition.extension type).body next)
    (clear : Clear definitionStops next.rest) (covers : next.spanSince start = type.span)
    (undescribed : type.description = none) :
    ∃ shorter, extension none start cursor = .ok ⟨type, next, shorter⟩ := by
  obtain ⟨middle, named, moved⟩ := advances_mul.mp moved
  obtain ⟨shorterWord, readWhat⟩ := name_complete named
  obtain ⟨shorter, readType⟩ := objectType_complete moved clear covers
  change objectType type.description start middle = _ at readType
  rw [undescribed] at readType
  simp only [extension, Option.isSome_none, Bool.false_eq_true, if_false, readWhat, ok_bind,
    if_true, readType]
  exact ⟨Nat.lt_trans shorter shorterWord, rfl⟩

end EntityMapping.Document.Cursor
