import EntityMapping.Document.Reader
import EntityMapping.Proofs.Document.DefinitionForms

/-!
# Reading documents

Main statement: lexemes are read as given definitions if and only if they spell
them.
-/

namespace EntityMapping.Document

open EntityMapping.Source

namespace Cursor

/-! ## Single definitions -/

/-- The spellings of a given description, seen as what stands before a keyword. -/
theorem describing_le_about {definition : Definition} {about : Option String}
    (described : definition.description? = about)
    (undescribed : ∀ type, definition = .extension type → about = none) {used : List Lexeme}
    (member : used ∈ describing about) : used ∈ definition.about := by
  subst described
  cases definition with
  | extension type =>
      have absent : type.description = none := undescribed type rfl
      change used ∈ describing type.description at member
      rw [absent] at member
      simp only [Definition.about, absent, Option.isSome_none, Bool.false_eq_true, if_false]
      exact member
  | schema roots => exact ⟨none, member⟩
  | object type => exact member
  | interface type => exact member
  | input type => exact member
  | enum type => exact member
  | scalar type => exact member
  | union type => exact member
  | directive type => exact member

section Forms

variable {α : Type} {form : α → Definition}
  {reader : Option String → Span → (cursor : Cursor) → Reads α cursor}

/-- What a reader of a form returns, seen as a definition. -/
theorem SoundForm.behind (sound : SoundForm form reader) {about : Option String} {start : Span}
    {cursor : Cursor} {reading : Reading Definition cursor}
    (undescribed : ∀ value type, form value = .extension type → about = none)
    (read : (reader about start cursor).map (·.map form) = .ok reading) :
    (∃ value, reading.value = form value) ∧ cursor.Advances reading.value.body reading.next ∧
      reading.next.spanSince start = reading.value.span ∧
      ∀ used ∈ describing about, used ∈ reading.value.about := by
  obtain ⟨inner, readInner, rfl⟩ := map_eq_ok_iff.mp read
  obtain ⟨moved, described, covers⟩ := sound readInner
  exact ⟨⟨inner.value, rfl⟩, moved, covers,
    fun used member => describing_le_about described (undescribed inner.value) member⟩

/-- A definition of a form is read behind its keyword. -/
theorem CompleteForm.behind (complete : CompleteForm form reader) {value : α} {start : Span}
    {cursor next : Cursor} (moved : cursor.Advances (form value).body next)
    (clear : Clear definitionStops next.rest)
    (covers : next.spanSince start = (form value).span) :
    ∃ shorter, (reader (form value).description? start cursor).map (·.map form) =
      .ok ⟨form value, next, shorter⟩ := by
  obtain ⟨shorter, read⟩ := complete moved clear covers
  exact ⟨shorter, congrArg (Except.map (Reading.map form)) read⟩

end Forms

theorem definitionBehind_sound {keyword : String} {about : Option String} {start : Span}
    {cursor : Cursor} {reading : Reading Definition cursor}
    (read : definitionBehind keyword about start cursor = .ok reading) :
    keyword = reading.value.keyword ∧ cursor.Advances reading.value.body reading.next ∧
      reading.next.spanSince start = reading.value.span ∧
      ∀ used ∈ describing about, used ∈ reading.value.about := by
  unfold definitionBehind at read
  split at read
  · obtain ⟨⟨type, same⟩, spelled⟩ := objectType_sound.behind nofun read
    exact ⟨by rw [same]; rfl, spelled⟩
  · obtain ⟨⟨type, same⟩, spelled⟩ := interfaceType_sound.behind nofun read
    exact ⟨by rw [same]; rfl, spelled⟩
  · obtain ⟨⟨type, same⟩, spelled⟩ := inputType_sound.behind nofun read
    exact ⟨by rw [same]; rfl, spelled⟩
  · obtain ⟨⟨type, same⟩, spelled⟩ := enumType_sound.behind nofun read
    exact ⟨by rw [same]; rfl, spelled⟩
  · obtain ⟨⟨type, same⟩, spelled⟩ := scalarType_sound.behind nofun read
    exact ⟨by rw [same]; rfl, spelled⟩
  · obtain ⟨⟨type, same⟩, spelled⟩ := unionType_sound.behind nofun read
    exact ⟨by rw [same]; rfl, spelled⟩
  · obtain ⟨⟨type, same⟩, spelled⟩ := directiveType_sound.behind nofun read
    exact ⟨by rw [same]; rfl, spelled⟩
  · obtain ⟨roots, readRoots, rfl⟩ := map_eq_ok_iff.mp read
    obtain ⟨moved, covers⟩ := schemaRoots_sound readRoots
    exact ⟨rfl, moved, covers, fun used member => ⟨about, member⟩⟩
  · obtain ⟨type, readType, -⟩ := map_eq_ok_iff.mp read
    have undescribed := extension_undescribed readType
    obtain ⟨⟨type, same⟩, spelled⟩ := extension_sound.behind (fun _ _ _ => undescribed) read
    exact ⟨by rw [same]; rfl, spelled⟩
  · cases read

/-- Behind its keyword a definition is read with the description that stands before. -/
theorem definitionBehind_complete {definition : Definition} {front middle : Cursor}
    (described : front.Advances definition.about middle) :
    ∃ about, front.Advances (describing about) middle ∧
      ∀ {start : Span} {cursor next : Cursor}, cursor.Advances definition.body next →
        Clear definitionStops next.rest → next.spanSince start = definition.span →
          ∃ shorter, definitionBehind definition.keyword about start cursor =
            .ok ⟨definition, next, shorter⟩ := by
  cases definition with
  | object type => exact ⟨type.description, described, objectType_complete.behind⟩
  | interface type => exact ⟨type.description, described, interfaceType_complete.behind⟩
  | input type => exact ⟨type.description, described, inputType_complete.behind⟩
  | enum type => exact ⟨type.description, described, enumType_complete.behind⟩
  | scalar type => exact ⟨type.description, described, scalarType_complete.behind⟩
  | union type => exact ⟨type.description, described, unionType_complete.behind⟩
  | directive type => exact ⟨type.description, described, directiveType_complete.behind⟩
  | extension type =>
      rw [Definition.about] at described
      split at described
      · exact absurd described not_advances_zero
      · rename_i undescribed
        refine ⟨none, described, fun moved clear covers => ?_⟩
        obtain ⟨shorter, read⟩ := extension_complete moved clear covers
          (Option.not_isSome_iff_eq_none.mp undescribed)
        exact ⟨shorter, congrArg (Except.map (Reading.map Definition.extension)) read⟩
  | schema roots =>
      obtain ⟨used, ⟨about, member⟩, front⟩ := described
      refine ⟨about, ⟨used, member, front⟩, fun moved _ covers => ?_⟩
      obtain ⟨shorter, read⟩ := schemaRoots_complete moved covers
      exact ⟨shorter, congrArg (Except.map (Reading.map Definition.schema)) read⟩

theorem fresh_describingAnything {stops : List Token}
    (noString : ∀ token ∈ stops, token.stringValue? = none) :
    Fresh stops describingAnything := by
  rintro used ⟨about, member⟩
  exact fresh_describing noString about used member

/-- A definition begins with a description or with its keyword. -/
theorem begins_definition (definition : Definition) :
    Begins definitionStops definition.spelling := by
  have noString : ∀ token ∈ definitionStops, token.stringValue? = none := by
    simp [definitionStops, Token.stringValue?]
  have about : Fresh definitionStops definition.about := by
    cases definition with
    | extension type =>
        rw [Definition.about]
        split
        · exact fresh_zero
        · exact fresh_one
    | schema roots => exact fresh_describingAnything noString
    | object type => exact fresh_describing noString _
    | interface type => exact fresh_describing noString _
    | input type => exact fresh_describing noString _
    | enum type => exact fresh_describing noString _
    | scalar type => exact fresh_describing noString _
    | union type => exact fresh_describing noString _
    | directive type => exact fresh_describing noString _
  apply begins_covering
  apply begins_mul_of_fresh about
  apply begins_mul
  apply begins_single
  cases definition <;> simp [definitionStops, Definition.keyword]

theorem definition_sound : Sound definition Definition.spelling := by
  intro cursor reading read
  have shorter := reading.shorter
  simp only [definition] at read
  obtain ⟨keyword, readKeyword, read⟩ := bind_eq_ok_iff.mp read
  obtain ⟨inner, readInner, read⟩ := bind_eq_ok_iff.mp read
  cases read
  obtain ⟨isKeyword, moved, covers, about⟩ := definitionBehind_sound readInner
  obtain ⟨used, member, front⟩ := description_sound cursor
  have named : cursor.description.next.Advances (word inner.value.keyword) keyword.next :=
    isKeyword ▸ name_sound readKeyword
  refine (advances_covering shorter).mpr ⟨?_, covers⟩
  exact advances_mul.mpr ⟨_, ⟨used, about used member, front⟩,
    advances_mul.mpr ⟨keyword.next, named, moved⟩⟩

theorem definition_complete : Complete definition Definition.spelling definitionStops := by
  intro cursor next written moved clear
  have shorter := moved.length_lt ((begins_definition written).mono (List.nil_subset _))
  obtain ⟨moved, covers⟩ := (advances_covering shorter).mp moved
  obtain ⟨behindAbout, described, moved⟩ := advances_mul.mp moved
  obtain ⟨behindKeyword, named, body⟩ := advances_mul.mp moved
  obtain ⟨about, described, complete⟩ := definitionBehind_complete described
  obtain ⟨isAbout, rfl⟩ := description_complete described named
  obtain ⟨_, readKeyword⟩ := name_complete named
  obtain ⟨_, readInner⟩ := complete body clear covers
  simp only [definition, readKeyword, ok_bind, isAbout, readInner]
  exact ⟨shorter, rfl⟩

/-! ## Documents -/

theorem definitions_eq_nil {cursor : Cursor} (atEnd : cursor.rest = []) :
    definitions cursor = .ok [] := by
  rw [definitions]
  split
  · rfl
  · rename_i lexeme rest more
    rw [atEnd] at more
    cases more

theorem definitions_eq_cons {cursor : Cursor} (more : cursor.rest ≠ []) :
    definitions cursor = (do
      let first ← definition cursor
      let others ← definitions first.next
      return first.value :: others) := by
  rw [definitions]
  split
  · rename_i atEnd
    exact absurd atEnd more
  · rfl

theorem definitions_sound {cursor : Cursor} {found : List Definition}
    (read : definitions cursor = .ok found) : cursor.rest ∈ documentSpelling found := by
  induction cursor using definitions.induct generalizing found with
  | case1 cursor atEnd =>
      rw [definitions_eq_nil atEnd] at read
      cases read
      rw [atEnd]
      exact Language.nil_mem_one
  | case2 cursor lexeme rest more ih =>
      rw [definitions_eq_cons (by simp [more])] at read
      obtain ⟨first, readFirst, read⟩ := bind_eq_ok_iff.mp read
      obtain ⟨others, readOthers, read⟩ := bind_eq_ok_iff.mp read
      cases read
      obtain ⟨used, member, front, -⟩ := definition_sound readFirst
      rw [documentSpelling, sequenced_cons, front]
      exact Language.append_mem_mul member (ih first readOthers)

theorem definitions_complete {cursor : Cursor} {written : List Definition}
    (member : cursor.rest ∈ documentSpelling written) :
    definitions cursor = .ok written := by
  induction written generalizing cursor with
  | nil => exact definitions_eq_nil ((Language.mem_one _).mp member)
  | cons first others ih =>
      rw [documentSpelling, sequenced_cons] at member
      obtain ⟨used, spells, rest, restSpells, front⟩ := Language.mem_mul.mp member
      have clear : Clear definitionStops rest :=
        fresh_sequenced (fun definition => (begins_definition definition).fresh) rest restSpells
      have moved : cursor.Advances first.spelling ⟨rest, lastSpan cursor.last used⟩ :=
        ⟨used, spells, front.symm, rfl⟩
      obtain ⟨shorter, readFirst⟩ := definition_complete moved clear
      have more : cursor.rest ≠ [] := by
        intro atEnd
        rw [atEnd] at shorter
        exact Nat.not_lt_zero _ shorter
      rw [definitions_eq_cons more]
      simp only [readFirst, ok_bind]
      rw [@ih ⟨rest, _⟩ restSpells]
      rfl

end Cursor

/-- Lexemes are read as given definitions if and only if they spell them. -/
theorem ofLexemes_eq_ok_iff {lexemes : List Lexeme} {definitions : List Definition} :
    ofLexemes lexemes = .ok definitions ↔ lexemes ∈ documentSpelling definitions :=
  ⟨Cursor.definitions_sound, @Cursor.definitions_complete (Cursor.ofLexemes lexemes) _⟩

end EntityMapping.Document
