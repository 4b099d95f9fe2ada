import EntityMapping.Proofs.Document.ValueReaders

/-!
# Readers of the parts of definitions

Fields, arguments, enumeration values, operations and lists of names: their readers
are sound and complete for the spellings of what they return.
-/

namespace EntityMapping.Document.Cursor

open EntityMapping.Source

/-! ## Parts of definitions -/

/-- The tokens with which a field, or another part between brackets, could go on. -/
def partStops : List Token :=
  [.punct .bang, .punct .equals, .punct .atSign, .punct .parenOpen]

theorem begins_described {stops : List Token}
    (noString : ∀ token ∈ stops, token.stringValue? = none)
    (noName : ∀ name, .name name ∉ stops) (about : Option String) (name : String)
    (language : Language Lexeme) :
    Begins stops (describing about * (word name * language)) :=
  begins_mul_of_fresh (fresh_describing noString about) (begins_mul (begins_single (noName name)))

theorem defaultValue_sound {cursor : Cursor} {passing : Passing (Option Value) cursor}
    (read : defaultValue cursor = .ok passing) :
    cursor.Advances (defaulting passing.value) passing.next := by
  unfold defaultValue at read
  split at read
  · cases read
    exact advances_one.mpr rfl
  · rename_i sign found
    obtain ⟨content, readContent, read⟩ := bind_eq_ok_iff.mp read
    cases read
    exact advances_mul.mpr ⟨sign.next, punct?_sound found, value_sound readContent⟩

theorem defaultValue_complete {cursor next : Cursor} {default : Option Value}
    (moved : cursor.Advances (defaulting default) next)
    (clear : Clear [.punct .equals] next.rest) :
    ∃ notLonger, defaultValue cursor = .ok ⟨default, next, notLonger⟩ := by
  cases default with
  | none =>
      rw [advances_one.mp moved] at clear ⊢
      rw [defaultValue, punct?_eq_none clear]
      exact ⟨Nat.le_refl _, rfl⟩
  | some content =>
      obtain ⟨middle, sign, moved⟩ := advances_mul.mp moved
      obtain ⟨shorterSign, found⟩ := punct?_complete sign
      obtain ⟨shorter, readContent⟩ := value_complete moved (by simp [Clear])
      rw [defaultValue, found]
      simp only [readContent, ok_bind]
      exact ⟨Nat.le_of_lt (Nat.lt_trans shorter shorterSign), rfl⟩

theorem fresh_defaulting {stops : List Token} (other : .punct .equals ∉ stops)
    (default : Option Value) : Fresh stops (defaulting default) := by
  cases default with
  | none => exact fresh_one
  | some content => exact (begins_mul (begins_single other)).fresh

theorem inputValue_sound : Sound inputValue InputValue.spelling := by
  intro cursor reading read
  have shorter := reading.shorter
  simp only [inputValue] at read
  obtain ⟨name, readName, read⟩ := bind_eq_ok_iff.mp read
  obtain ⟨colon, readColon, read⟩ := bind_eq_ok_iff.mp read
  obtain ⟨type, readType, read⟩ := bind_eq_ok_iff.mp read
  obtain ⟨default, readDefault, read⟩ := bind_eq_ok_iff.mp read
  obtain ⟨directives, readDirectives, read⟩ := bind_eq_ok_iff.mp read
  cases read
  refine (advances_covering shorter).mpr ⟨?_, rfl⟩
  refine advances_mul.mpr ⟨_, description_sound cursor, ?_⟩
  refine advances_mul.mpr ⟨_, name_sound readName, ?_⟩
  refine advances_mul.mpr ⟨_, punct_sound readColon, ?_⟩
  refine advances_mul.mpr ⟨_, typeRef_sound readType, ?_⟩
  exact advances_mul.mpr ⟨_, defaultValue_sound readDefault, directives_sound readDirectives⟩

theorem begins_inputValue {stops : List Token}
    (noString : ∀ token ∈ stops, token.stringValue? = none)
    (noName : ∀ name, .name name ∉ stops) (input : InputValue) :
    Begins stops input.spelling :=
  begins_covering _ (begins_described noString noName _ _ _)

theorem inputValue_complete : Complete inputValue InputValue.spelling partStops := by
  intro cursor next input moved clear
  have shorter := moved.length_lt (begins_inputValue (by simp) (by simp) input)
  obtain ⟨moved, covers⟩ := (advances_covering shorter).mp moved
  obtain ⟨behindAbout, about, moved⟩ := advances_mul.mp moved
  obtain ⟨behindName, named, moved⟩ := advances_mul.mp moved
  obtain ⟨behindColon, colon, moved⟩ := advances_mul.mp moved
  obtain ⟨behindType, typed, moved⟩ := advances_mul.mp moved
  obtain ⟨behindDefault, defaulted, annotated⟩ := advances_mul.mp moved
  have clearDefault : Clear [.punct .bang, .punct .equals] behindDefault.rest :=
    annotated.clear (fresh_annotations (by simp) _) (clear.mono (by simp [partStops]))
  have clearType : Clear [.punct .bang] behindType.rest :=
    defaulted.clear (fresh_defaulting (by simp) _) (clearDefault.mono (by simp))
  obtain ⟨isAbout, rfl⟩ := description_complete about named
  obtain ⟨_, readName⟩ := name_complete named
  obtain ⟨_, readColon⟩ := punct_complete colon (.punct .colon)
  obtain ⟨_, readType⟩ := typeRef_complete typed clearType
  obtain ⟨_, readDefault⟩ := defaultValue_complete defaulted (clearDefault.mono (by simp))
  obtain ⟨_, readDirectives⟩ :=
    directives_complete annotated (clear.mono (by simp [partStops]))
  simp only [inputValue, readName, ok_bind, readColon, readType, readDefault,
    readDirectives, isAbout, covers]
  exact ⟨shorter, rfl⟩

theorem parameters_sound {cursor : Cursor} {passing : Passing (List InputValue) cursor}
    (read : parameters cursor = .ok passing) :
    cursor.Advances (parameterList passing.value) passing.next :=
  enclosed_sound inputValue_sound read

theorem parameters_complete {cursor next : Cursor} {arguments : List InputValue}
    (moved : cursor.Advances (parameterList arguments) next)
    (clear : Clear [.punct .parenOpen] next.rest) :
    ∃ notLonger, parameters cursor = .ok ⟨arguments, next, notLonger⟩ :=
  enclosed_complete inputValue_complete
    (begins_inputValue (by simp [partStops, Token.stringValue?]) (by simp [partStops]))
    (by simp [partStops]) moved clear

theorem field_sound : Sound field Field.spelling := by
  intro cursor reading read
  have shorter := reading.shorter
  simp only [field] at read
  obtain ⟨name, readName, read⟩ := bind_eq_ok_iff.mp read
  obtain ⟨arguments, readArguments, read⟩ := bind_eq_ok_iff.mp read
  obtain ⟨colon, readColon, read⟩ := bind_eq_ok_iff.mp read
  obtain ⟨type, readType, read⟩ := bind_eq_ok_iff.mp read
  obtain ⟨directives, readDirectives, read⟩ := bind_eq_ok_iff.mp read
  cases read
  refine (advances_covering shorter).mpr ⟨?_, rfl⟩
  refine advances_mul.mpr ⟨_, description_sound cursor, ?_⟩
  refine advances_mul.mpr ⟨_, name_sound readName, ?_⟩
  refine advances_mul.mpr ⟨_, parameters_sound readArguments, ?_⟩
  refine advances_mul.mpr ⟨_, punct_sound readColon, ?_⟩
  exact advances_mul.mpr ⟨_, typeRef_sound readType, directives_sound readDirectives⟩

theorem begins_field {stops : List Token}
    (noString : ∀ token ∈ stops, token.stringValue? = none)
    (noName : ∀ name, .name name ∉ stops) (field : Field) : Begins stops field.spelling :=
  begins_covering _ (begins_described noString noName _ _ _)

theorem field_complete : Complete field Field.spelling partStops := by
  intro cursor next written moved clear
  have shorter := moved.length_lt (begins_field (by simp) (by simp) written)
  obtain ⟨moved, covers⟩ := (advances_covering shorter).mp moved
  obtain ⟨behindAbout, about, moved⟩ := advances_mul.mp moved
  obtain ⟨behindName, named, moved⟩ := advances_mul.mp moved
  obtain ⟨behindArguments, parameterized, moved⟩ := advances_mul.mp moved
  obtain ⟨behindColon, colon, moved⟩ := advances_mul.mp moved
  obtain ⟨behindType, typed, annotated⟩ := advances_mul.mp moved
  have clearType : Clear [.punct .bang] behindType.rest :=
    annotated.clear (fresh_annotations (by simp) _) (clear.mono (by simp [partStops]))
  have clearArguments : Clear [.punct .parenOpen] behindArguments.rest :=
    colon.clear_of_begins (begins_single (by simp))
  obtain ⟨isAbout, rfl⟩ := description_complete about named
  obtain ⟨_, readName⟩ := name_complete named
  obtain ⟨_, readArguments⟩ := parameters_complete parameterized clearArguments
  obtain ⟨_, readColon⟩ := punct_complete colon (.fieldType written.name)
  obtain ⟨_, readType⟩ := typeRef_complete typed clearType
  obtain ⟨_, readDirectives⟩ :=
    directives_complete annotated (clear.mono (by simp [partStops]))
  simp only [field, readName, ok_bind, readArguments, readColon, readType,
    readDirectives, isAbout, covers]
  exact ⟨shorter, rfl⟩

theorem enumValue_sound : Sound enumValue EnumValue.spelling := by
  intro cursor reading read
  have shorter := reading.shorter
  simp only [enumValue] at read
  obtain ⟨name, readName, read⟩ := bind_eq_ok_iff.mp read
  split at read
  · cases read
  · rename_i free
    obtain ⟨directives, readDirectives, read⟩ := bind_eq_ok_iff.mp read
    cases read
    refine (advances_covering shorter).mpr ⟨?_, rfl⟩
    refine advances_mul.mpr ⟨_, description_sound cursor, ?_⟩
    refine advances_mul.mpr ⟨name.next, ?_, directives_sound readDirectives⟩
    rw [if_neg free]
    exact name_sound readName

theorem begins_enumValue {stops : List Token}
    (noString : ∀ token ∈ stops, token.stringValue? = none)
    (noName : ∀ name, .name name ∉ stops) (value : EnumValue) :
    Begins stops value.spelling := by
  apply begins_covering
  apply begins_mul_of_fresh (fresh_describing noString _)
  apply begins_mul
  split
  · exact begins_zero
  · exact begins_single (noName _)

theorem enumValue_complete : Complete enumValue EnumValue.spelling partStops := by
  intro cursor next written moved clear
  have shorter := moved.length_lt (begins_enumValue (by simp) (by simp) written)
  obtain ⟨moved, covers⟩ := (advances_covering shorter).mp moved
  obtain ⟨behindAbout, about, moved⟩ := advances_mul.mp moved
  obtain ⟨behindName, named, annotated⟩ := advances_mul.mp moved
  split at named
  · exact absurd named not_advances_zero
  · rename_i free
    obtain ⟨isAbout, rfl⟩ := description_complete about named
    obtain ⟨_, readName⟩ := name_complete named
    obtain ⟨_, readDirectives⟩ :=
      directives_complete annotated (clear.mono (by simp [partStops]))
    simp only [enumValue, readName, ok_bind, free, readDirectives, isAbout, covers]
    exact ⟨shorter, rfl⟩

theorem operation_sound : Sound operation operating := by
  intro cursor reading read
  simp only [operation] at read
  obtain ⟨kind, readKind, read⟩ := bind_eq_ok_iff.mp read
  obtain ⟨colon, readColon, read⟩ := bind_eq_ok_iff.mp read
  obtain ⟨root, readRoot, read⟩ := bind_eq_ok_iff.mp read
  cases read
  exact advances_mul.mpr ⟨kind.next, name_sound readKind,
    advances_mul.mpr ⟨colon.next, punct_sound readColon, name_sound readRoot⟩⟩

theorem operation_complete : Complete operation operating [] := by
  intro cursor next written moved _
  obtain ⟨behindKind, kind, moved⟩ := advances_mul.mp moved
  obtain ⟨behindColon, colon, root⟩ := advances_mul.mp moved
  obtain ⟨shorterKind, readKind⟩ := name_complete kind
  obtain ⟨shorterColon, readColon⟩ := punct_complete colon (.punct .colon)
  obtain ⟨shorterRoot, readRoot⟩ := name_complete root
  simp only [operation, readKind, ok_bind, readColon, readRoot]
  exact ⟨Nat.lt_trans shorterRoot (Nat.lt_trans shorterColon shorterKind), rfl⟩

theorem interfaces_sound {cursor : Cursor} {passing : Passing (List String) cursor}
    (read : interfaces cursor = .ok passing) :
    cursor.Advances (implementing passing.value) passing.next := by
  unfold interfaces at read
  split at read
  · cases read
    exact advances_one.mpr rfl
  · rename_i keyword found
    obtain ⟨names, readNames, read⟩ := bind_eq_ok_iff.mp read
    cases read
    have listed := separatedNames_sound .ampersand readNames
    cases present : names.value with
    | nil =>
        rw [present] at listed
        exact absurd listed not_advances_zero
    | cons first others =>
        rw [present] at listed
        exact advances_mul.mpr ⟨keyword.next, word?_sound found, listed⟩

theorem interfaces_complete {cursor next : Cursor} {names : List String}
    (moved : cursor.Advances (implementing names) next)
    (clear : Clear [.name "implements", .punct .ampersand] next.rest) :
    ∃ notLonger, interfaces cursor = .ok ⟨names, next, notLonger⟩ := by
  cases names with
  | nil =>
      rw [advances_one.mp moved] at clear ⊢
      rw [interfaces, word?_eq_none (clear.mono (by simp))]
      exact ⟨Nat.le_refl _, rfl⟩
  | cons first others =>
      obtain ⟨middle, keyword, listed⟩ := advances_mul.mp moved
      obtain ⟨shorterWord, found⟩ := word?_complete keyword
      obtain ⟨shorter, readNames⟩ :=
        separatedNames_complete .ampersand listed (clear.mono (by simp))
      rw [interfaces, found]
      simp only [readNames, ok_bind]
      exact ⟨Nat.le_of_lt (Nat.lt_trans shorter shorterWord), rfl⟩

theorem members_sound {cursor : Cursor} {passing : Passing (List String) cursor}
    (read : members cursor = .ok passing) :
    cursor.Advances (uniting passing.value) passing.next := by
  unfold members at read
  split at read
  · cases read
    exact advances_one.mpr rfl
  · rename_i sign found
    obtain ⟨names, readNames, read⟩ := bind_eq_ok_iff.mp read
    cases read
    have listed := separatedNames_sound .pipe readNames
    cases present : names.value with
    | nil =>
        rw [present] at listed
        exact absurd listed not_advances_zero
    | cons first others =>
        rw [present] at listed
        exact advances_mul.mpr ⟨sign.next, punct?_sound found, listed⟩

theorem members_complete {cursor next : Cursor} {names : List String}
    (moved : cursor.Advances (uniting names) next)
    (clear : Clear [.punct .equals, .punct .pipe] next.rest) :
    ∃ notLonger, members cursor = .ok ⟨names, next, notLonger⟩ := by
  cases names with
  | nil =>
      rw [advances_one.mp moved] at clear ⊢
      rw [members, punct?_eq_none (clear.mono (by simp))]
      exact ⟨Nat.le_refl _, rfl⟩
  | cons first others =>
      obtain ⟨middle, sign, listed⟩ := advances_mul.mp moved
      obtain ⟨shorterSign, found⟩ := punct?_complete sign
      obtain ⟨shorter, readNames⟩ :=
        separatedNames_complete .pipe listed (clear.mono (by simp))
      rw [members, found]
      simp only [readNames, ok_bind]
      exact ⟨Nat.le_of_lt (Nat.lt_trans shorter shorterSign), rfl⟩

end EntityMapping.Document.Cursor
