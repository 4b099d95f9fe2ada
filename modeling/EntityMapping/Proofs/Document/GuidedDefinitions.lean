import EntityMapping.Proofs.Document.GuidedReaders
import EntityMapping.Proofs.Document.DocumentReader

/-!
# Readers of definitions find mistakes at once

Main statement: a complaint about a document blames the first lexeme with which no document
goes on, or else the end of the input.
-/

namespace EntityMapping.Document

open EntityMapping.Source
open scoped Computability

namespace Cursor

variable {α : Type} {expected language : Language Lexeme} {cursor : Cursor}

/-! ## Parts of definitions -/

theorem guided_about :
    Guided (anyOf describing * language) (passing fun cursor => .ok cursor.description)
      (fun _ => language) cursor :=
  guided_description fun about _ isAbout _ member =>
    Language.append_mem_mul ⟨about, isAbout⟩ member

instance completable_describing : Completable (anyOf describing) :=
  completable_one.mono (le_anyOf describing none)

instance completable_annotations : Completable (anyOf annotations) :=
  completable_one.mono (le_anyOf annotations [])

instance completable_defaulting : Completable (anyOf defaulting) :=
  completable_one.mono (le_anyOf defaulting none)

instance completable_bracketed {opening close : Punctuator} {spelling : α → Language Lexeme} :
    Completable (anyOf (bracketed opening close spelling)) :=
  Completable.mono (le_self_add.trans bracketed_le)

instance completable_listing (separator : Punctuator) : Completable (anyOf (listing separator)) :=
  Completable.mono (listing_le separator)

theorem guides_bracketed {opening close : Punctuator} {spelling : α → Language Lexeme}
    {item : (cursor : Cursor) → Reads α cursor} [Completable (anyOf spelling)]
    (guides : ∀ inner : Cursor, Guides (anyOf spelling) (reading item) inner) :
    Guides (anyOf (bracketed opening close spelling))
      (passing (enclosed opening close item)) cursor :=
  (guides_enclosed guides).mono bracketed_le

theorem guides_defaultValue : Guides (anyOf defaulting) (passing defaultValue) cursor := by
  have guided : Guides (1 + mark .equals * anyOf Value.spelling) (passing defaultValue) cursor :=
    guided_branches defaultValue_branches
      (fun _ _ _ => guides_value.bind fun content _ _ => .stop) fun _ => .stop
  refine guided.mono (sup_le (le_anyOf defaulting none) ?_)
  rw [mul_anyOf]
  rintro used ⟨content, member⟩
  exact ⟨some content, member⟩

theorem inputValue_le :
    anyOf describing * (anyOf word * (mark .colon * (anyOf TypeRef.spelling *
      (anyOf defaulting * anyOf annotations)))) ≤ anyOf InputValue.spelling := by
  rw [anyOf_mul_anyOf, anyOf_mul_anyOf, mul_anyOf, anyOf_mul_anyOf, anyOf_mul_anyOf]
  rintro used ⟨⟨about, name, type, default, directives⟩, member⟩
  exact ⟨⟨about, name, type, default, directives, coverage used⟩, member, rfl⟩

instance completable_inputValue : Completable (anyOf InputValue.spelling) :=
  Completable.mono inputValue_le

theorem guides_inputValue : Guides (anyOf InputValue.spelling) (reading inputValue) cursor := by
  refine Guided.mono ?_ inputValue_le
  rw [reading_inputValue]
  refine Guided.bind_here ?_
  refine guided_about.bind fun about _ _ => ?_
  refine guides_name.frame.bind fun name _ _ => ?_
  refine (guides_punct .colon _).frame.bind fun _ _ _ => ?_
  refine guides_typeRef.frame.bind fun type _ _ => ?_
  refine guides_defaultValue.frame.bind fun default _ _ => ?_
  exact guides_directives.bind fun directives _ _ => .pure_since

theorem guides_parameters : Guides (anyOf parameterList) (passing parameters) cursor :=
  guides_bracketed fun _ => guides_inputValue

instance completable_parameterList : Completable (anyOf parameterList) :=
  completable_bracketed

theorem field_le :
    anyOf describing * (anyOf word * (anyOf parameterList * (mark .colon *
      (anyOf TypeRef.spelling * anyOf annotations)))) ≤ anyOf Field.spelling := by
  rw [anyOf_mul_anyOf, mul_anyOf, anyOf_mul_anyOf, anyOf_mul_anyOf, anyOf_mul_anyOf]
  rintro used ⟨⟨about, name, arguments, type, directives⟩, member⟩
  exact ⟨⟨about, name, arguments, type, directives, coverage used⟩, member, rfl⟩

instance completable_field : Completable (anyOf Field.spelling) :=
  Completable.mono field_le

theorem guides_field : Guides (anyOf Field.spelling) (reading field) cursor := by
  refine Guided.mono ?_ field_le
  rw [reading_field]
  refine Guided.bind_here ?_
  refine guided_about.bind fun about _ _ => ?_
  refine guides_name.frame.bind fun name _ _ => ?_
  refine guides_parameters.frame.bind fun arguments _ _ => ?_
  refine (guides_punct .colon _).frame.bind fun _ _ _ => ?_
  refine guides_typeRef.frame.bind fun type _ _ => ?_
  exact guides_directives.bind fun directives _ _ => .pure_since

/-- The spellings of the names of enumeration values. -/
def freeWord (name : String) : Language Lexeme :=
  if isReserved name then 0 else word name

instance completable_freeWord : Completable (anyOf freeWord) :=
  (completable_single writable_type).mono (le_anyOf freeWord "type")

theorem guides_freeWord :
    Guides (anyOf freeWord) (nameWhere (fun name => !isReserved name) .reservedEnumValue)
      cursor := by
  refine guided_nameWhere (fun _ => id) (fun _ => rfl) fun name free span more nothing => ?_
  rw [(Language.mem_one more).mp nothing]
  have notReserved : isReserved name = false := by simpa using free
  exact ⟨name, by rw [freeWord, notReserved]; exact mem_single _ span⟩

theorem enumValue_le :
    anyOf describing * (anyOf freeWord * anyOf annotations) ≤ anyOf EnumValue.spelling := by
  rw [anyOf_mul_anyOf, anyOf_mul_anyOf]
  rintro used ⟨⟨about, name, directives⟩, member⟩
  exact ⟨⟨about, name, directives, coverage used⟩, member, rfl⟩

instance completable_enumValue : Completable (anyOf EnumValue.spelling) :=
  Completable.mono enumValue_le

theorem guides_enumValue : Guides (anyOf EnumValue.spelling) (reading enumValue) cursor := by
  refine Guided.mono ?_ enumValue_le
  rw [reading_enumValue]
  refine Guided.bind_here ?_
  refine guided_about.bind fun about _ _ => ?_
  refine guides_freeWord.frame.bind fun name _ _ => ?_
  exact guides_directives.bind fun directives _ _ => .pure_since

theorem operating_le : anyOf word * (mark .colon * anyOf word) ≤ anyOf operating := by
  rw [mul_anyOf, anyOf_mul_anyOf]
  exact le_rfl

instance completable_operating : Completable (anyOf operating) :=
  Completable.mono operating_le

theorem guides_operation : Guides (anyOf operating) (reading operation) cursor := by
  refine Guided.mono ?_ operating_le
  rw [reading_operation]
  refine guides_name.frame.bind fun kind _ _ => ?_
  refine (guides_punct .colon _).frame.bind fun _ _ _ => ?_
  exact guides_name.bind fun root _ _ => .stop

/-- Names behind a token that need not be there. -/
theorem optionalListing_le {token : Token} {separator : Punctuator}
    {spelling : List String → Language Lexeme} (absent : spelling [] = 1)
    (present : ∀ first others,
      spelling (first :: others) = single token * listing separator (first :: others)) :
    1 + single token * anyOf (listing separator) ≤ anyOf spelling := by
  refine sup_le (absent ▸ le_anyOf spelling []) ?_
  rw [mul_anyOf]
  rintro used ⟨names, member⟩
  cases names with
  | nil =>
      change used ∈ single token * 0 at member
      rw [mul_zero] at member
      exact absurd member (Language.notMem_zero used)
  | cons first others => exact ⟨first :: others, present first others ▸ member⟩

instance completable_implementing : Completable (anyOf implementing) :=
  completable_one.mono (le_anyOf implementing [])

theorem guides_interfaces : Guides (anyOf implementing) (passing interfaces) cursor :=
  (guided_branches interfaces_branches (fun _ _ _ => guides_separatedNames .ampersand)
    fun _ => .stop).mono (optionalListing_le rfl fun _ _ => rfl)

theorem guides_members : Guides (anyOf uniting) (passing members) cursor :=
  (guided_branches members_branches (fun _ _ _ => guides_separatedNames .pipe)
    fun _ => .stop).mono (optionalListing_le rfl fun _ _ => rfl)

/-! ## Forms of definitions -/

theorem objectType_le :
    anyOf word * (anyOf implementing * (anyOf annotations *
      anyOf (bracketed .braceOpen .braceClose Field.spelling))) ≤ anyOf ObjectType.body := by
  rw [anyOf_mul_anyOf, anyOf_mul_anyOf, anyOf_mul_anyOf]
  rintro used ⟨⟨name, interfaces, directives, fields⟩, member⟩
  exact ⟨⟨none, name, interfaces, directives, fields, ⟨0, 0⟩⟩, member⟩

instance completable_objectType : Completable (anyOf ObjectType.body) :=
  Completable.mono objectType_le

theorem guides_objectType (about : Option String) (start : Span) :
    Guides (anyOf ObjectType.body) (reading (objectType about start)) cursor := by
  refine Guided.mono ?_ objectType_le
  rw [reading_objectType]
  refine guides_name.frame.bind fun name _ _ => ?_
  refine guides_interfaces.frame.bind fun interfaces _ _ => ?_
  refine guides_directives.frame.bind fun directives _ _ => ?_
  exact (guides_bracketed fun _ => guides_field).bind fun fields _ _ => .pure_since

theorem inputType_le :
    anyOf word * (anyOf annotations *
      anyOf (bracketed .braceOpen .braceClose InputValue.spelling)) ≤ anyOf InputType.body := by
  rw [anyOf_mul_anyOf, anyOf_mul_anyOf]
  rintro used ⟨⟨name, directives, fields⟩, member⟩
  exact ⟨⟨none, name, directives, fields, ⟨0, 0⟩⟩, member⟩

theorem guides_inputType (about : Option String) (start : Span) :
    Guides (anyOf InputType.body) (reading (inputType about start)) cursor := by
  refine Guided.mono ?_ inputType_le
  rw [reading_inputType]
  refine guides_name.frame.bind fun name _ _ => ?_
  refine guides_directives.frame.bind fun directives _ _ => ?_
  exact (guides_bracketed fun _ => guides_inputValue).bind fun fields _ _ => .pure_since

theorem enumType_le :
    anyOf word * (anyOf annotations *
      anyOf (bracketed .braceOpen .braceClose EnumValue.spelling)) ≤ anyOf EnumType.body := by
  rw [anyOf_mul_anyOf, anyOf_mul_anyOf]
  rintro used ⟨⟨name, directives, values⟩, member⟩
  exact ⟨⟨none, name, directives, values, ⟨0, 0⟩⟩, member⟩

theorem guides_enumType (about : Option String) (start : Span) :
    Guides (anyOf EnumType.body) (reading (enumType about start)) cursor := by
  refine Guided.mono ?_ enumType_le
  rw [reading_enumType]
  refine guides_name.frame.bind fun name _ _ => ?_
  refine guides_directives.frame.bind fun directives _ _ => ?_
  exact (guides_bracketed fun _ => guides_enumValue).bind fun values _ _ => .pure_since

theorem scalarType_le : anyOf word * anyOf annotations ≤ anyOf ScalarType.body := by
  rw [anyOf_mul_anyOf]
  rintro used ⟨⟨name, directives⟩, member⟩
  exact ⟨⟨none, name, directives, ⟨0, 0⟩⟩, member⟩

theorem guides_scalarType (about : Option String) (start : Span) :
    Guides (anyOf ScalarType.body) (reading (scalarType about start)) cursor := by
  refine Guided.mono ?_ scalarType_le
  rw [reading_scalarType]
  refine guides_name.frame.bind fun name _ _ => ?_
  exact guides_directives.bind fun directives _ _ => .pure_since

theorem unionType_le :
    anyOf word * (anyOf annotations * anyOf uniting) ≤ anyOf UnionType.body := by
  rw [anyOf_mul_anyOf, anyOf_mul_anyOf]
  rintro used ⟨⟨name, directives, members⟩, member⟩
  exact ⟨⟨none, name, directives, members, ⟨0, 0⟩⟩, member⟩

instance completable_uniting : Completable (anyOf uniting) :=
  completable_one.mono (le_anyOf uniting [])

theorem guides_unionType (about : Option String) (start : Span) :
    Guides (anyOf UnionType.body) (reading (unionType about start)) cursor := by
  refine Guided.mono ?_ unionType_le
  rw [reading_unionType]
  refine guides_name.frame.bind fun name _ _ => ?_
  refine guides_directives.frame.bind fun directives _ _ => ?_
  exact guides_members.bind fun members _ _ => .pure_since

theorem directiveType_le :
    mark .atSign * (anyOf word * (anyOf parameterList * ((1 + word "repeatable") *
      (word "on" * anyOf (listing .pipe))))) ≤ anyOf DirectiveType.body := by
  have repeated : 1 + word "repeatable" ≤
      anyOf fun present : Bool => if present then word "repeatable" else 1 :=
    sup_le (fun _ member => ⟨false, member⟩) fun _ member => ⟨true, member⟩
  refine (mul_le_mul_right (mul_le_mul_right (mul_le_mul_right
    (mul_le_mul_left repeated _) _) _) _).trans ?_
  rw [mul_anyOf, anyOf_mul_anyOf, anyOf_mul_anyOf, anyOf_mul_anyOf, mul_anyOf]
  rintro used ⟨⟨name, arguments, repeatable, locations⟩, member⟩
  exact ⟨⟨none, name, arguments, repeatable, locations, ⟨0, 0⟩⟩, member⟩

instance completable_on : Completable (word "on") :=
  completable_single writable_on

theorem guides_skipWord (wanted : String) :
    Guides (1 + word wanted) (passing fun cursor => .ok (cursor.skipWord wanted)) cursor := by
  have guided : Guides (1 + word wanted * 1)
      (passing fun cursor => .ok (cursor.skipWord wanted)) cursor :=
    guided_branches (skipWord_branches wanted) (fun _ _ _ => .stop) fun _ => .stop
  rwa [mul_one] at guided

theorem guides_locationsWord (directive : String) :
    Guides (word "on") (reading (locationsWord directive)) cursor := by
  have completable : Completable (single (.name "on")) := completable_on
  refine guides_wanted (.locations directive) (fun _ _ _ => rfl) fun other clear => ?_
  rw [reading, locationsWord, word?_eq_none clear]
  rfl

theorem guides_directiveType (about : Option String) (start : Span) :
    Guides (anyOf DirectiveType.body) (reading (directiveType about start)) cursor := by
  refine Guided.mono ?_ directiveType_le
  rw [reading_directiveType]
  refine (guides_punct .atSign _).frame.bind fun _ _ _ => ?_
  refine guides_name.frame.bind fun name _ _ => ?_
  refine guides_parameters.frame.bind fun arguments _ _ => ?_
  refine (guides_skipWord "repeatable").frame.bind fun repeatable _ _ => ?_
  refine (guides_locationsWord name).frame.bind fun _ _ _ => ?_
  exact (guides_separatedNames .pipe).bind fun locations _ _ => .pure_since

theorem schemaRoots_le :
    anyOf annotations * (mark .braceOpen * ((anyOf operating)∗ * mark .braceClose)) ≤
      anyOf SchemaRoots.body := by
  refine (mul_le_mul_right (mul_le_mul_right many_le _) _).trans ?_
  rw [mul_anyOf, anyOf_mul_anyOf]
  rintro used ⟨⟨directives, operations⟩, member⟩
  exact ⟨⟨directives, operations, ⟨0, 0⟩⟩, member⟩

theorem guides_schemaRoots (start : Span) :
    Guides (anyOf SchemaRoots.body) (reading (schemaRoots start)) cursor := by
  refine Guided.mono ?_ schemaRoots_le
  rw [reading_schemaRoots]
  refine guides_directives.frame.bind fun directives _ _ => ?_
  refine (guides_punct .braceOpen _).frame.bind fun _ _ _ => ?_
  exact (guides_many fun _ _ => guides_operation).bind fun operations _ _ => .pure_since

instance completable_type : Completable (word "type") :=
  completable_single writable_type

theorem guides_extension (start : Span) :
    Guides (word "type" * anyOf ObjectType.body) (reading (extension none start)) cursor := by
  have isType : Guides (word "type")
      (nameWhere (fun word => word = "type") .unsupportedExtension) cursor := by
    refine guided_nameWhere (fun _ => id) (fun _ => rfl) fun name isType span more nothing => ?_
    obtain rfl : name = "type" := by simpa using isType
    rw [(Language.mem_one more).mp nothing]
    exact mem_single _ span
  rw [reading_extension]
  exact isType.frame.bind fun _ _ _ => guides_objectType none start

/-! ## Definitions -/

/-- What can stand behind a description in a definition. -/
def behindDescription (about : Option String) : Language Lexeme :=
  {more | ∀ used ∈ describing about, used ++ more ∈ anyOf Definition.spelling}

/-- What can stand behind a description and a keyword in a definition. -/
def behindKeyword (about : Option String) (keyword : String) : Language Lexeme :=
  {more | ∀ span, ⟨.name keyword, span⟩ :: more ∈ behindDescription about}

section Forms

variable {about : Option String} {keyword : String} {body : α → Language Lexeme}

/-- A form of definition puts what its keyword and its body say together with any description
and any place. -/
structure Forms (about : Option String) (keyword : String) (body : α → Language Lexeme)
    (written : α → Span → Definition) : Prop where
  span : ∀ value span, (written value span).span = span := by exact fun _ _ => rfl
  keyword : ∀ value span, (written value span).keyword = keyword := by exact fun _ _ => rfl
  about : ∀ value span, describing about ≤ (written value span).about := by
    exact fun _ _ => le_rfl
  body : ∀ value span, body value ≤ (written value span).body := by exact fun _ _ => le_rfl

theorem Forms.body_le {written : α → Span → Definition} (forms : Forms about keyword body written) :
    anyOf body ≤ behindKeyword about keyword := by
  rintro more ⟨value, isBody⟩ span used isAbout
  let covered := coverage (used ++ ⟨.name keyword, span⟩ :: more)
  refine ⟨written value covered, ?_, (forms.span value covered).symm⟩
  rw [forms.keyword]
  exact Language.append_mem_mul (forms.about value covered isAbout)
    (Language.append_mem_mul (mem_single _ span) (forms.body value covered isBody))

theorem objectType_forms (about : Option String) :
    Forms about "type" ObjectType.body fun type span =>
      .object { type with description := about, span := span } where

/-- The readers of the forms of definitions differ in what they make of what they read. -/
theorem guides_form {form : α → Definition} {read : (cursor : Cursor) → Reads α cursor}
    (written : α → Span → Definition) (forms : Forms about keyword body written)
    (guides : Guides (anyOf body) (reading read) cursor) :
    Guides (behindKeyword about keyword)
      (reading fun cursor => (read cursor).map (·.map form)) cursor := by
  have steps : (reading fun cursor => (read cursor).map (·.map form)) =
      (do return form (← reading read)) := by
    funext cursor
    rw [reading_bind, reading]
    cases read cursor with
    | error error => rfl
    | ok found => rfl
  rw [steps]
  exact (guides.mono forms.body_le).bind fun _ _ _ => .stop

end Forms

theorem guides_definitionBehind {keyword : String} {about : Option String} {start : Span}
    (isWord : isKeyword keyword = true) (undescribed : keyword = "extend" → about = none) :
    Guides (behindKeyword about keyword) (reading (definitionBehind keyword about start))
      cursor := by
  have known : keyword = "type" ∨ keyword = "interface" ∨ keyword = "input" ∨ keyword = "enum" ∨
      keyword = "scalar" ∨ keyword = "union" ∨ keyword = "directive" ∨ keyword = "schema" ∨
      keyword = "extend" := by
    simpa [isKeyword] using isWord
  rcases known with rfl | rfl | rfl | rfl | rfl | rfl | rfl | rfl | rfl
  · exact guides_form _ (objectType_forms about) (guides_objectType about start)
  · exact guides_form
      (fun type span => .interface { type with description := about, span := span }) {}
      (guides_objectType about start)
  · exact guides_form
      (fun type span => .input { type with description := about, span := span }) {}
      (guides_inputType about start)
  · exact guides_form
      (fun type span => .enum { type with description := about, span := span }) {}
      (guides_enumType about start)
  · exact guides_form
      (fun type span => .scalar { type with description := about, span := span }) {}
      (guides_scalarType about start)
  · exact guides_form
      (fun type span => .union { type with description := about, span := span }) {}
      (guides_unionType about start)
  · exact guides_form
      (fun type span => .directive { type with description := about, span := span }) {}
      (guides_directiveType about start)
  · exact guides_form
      (fun roots span => .schema { roots with span := span })
      { about := fun _ _ used member => ⟨about, member⟩ }
      (guides_schemaRoots start)
  · rw [undescribed rfl]
    have guides : Guides (word "type" * anyOf ObjectType.body) (reading (extension none start))
        cursor := guides_extension start
    rw [mul_anyOf] at guides
    exact guides_form
      (fun type span => .extension { type with description := none, span := span }) {} guides

theorem nameWhere_sound {accepted : String → Bool} {complaint : String → SyntaxCause}
    {name : String} {next : Cursor}
    (found : nameWhere accepted complaint cursor = .ok (name, next)) :
    accepted name = true ∧ cursor.rest = ⟨.name name, next.last⟩ :: next.rest := by
  obtain ⟨reading, isRead, chosen⟩ := bind_eq_ok_iff.mp found
  split at chosen
  · rename_i isAccepted
    cases chosen
    exact ⟨isAccepted, advances_single.mp (name_sound isRead)⟩
  · cases chosen

/-- A description that was read is a single lexeme. -/
theorem description_sound_some {text : String} {next : Cursor}
    (stepped : passing (fun cursor => .ok cursor.description) cursor = .ok (some text, next)) :
    ∃ first, [first] ∈ describing (some text) ∧ cursor.rest = first :: next.rest := by
  have same : (cursor.description.value, cursor.description.next) = (some text, next) :=
    Except.ok.inj stepped
  obtain ⟨isText, rfl⟩ := Prod.mk.inj same
  have moved := description_sound cursor
  rw [isText] at moved
  rcases advances_add.mp moved with isString | isBlock
  · exact ⟨_, Or.inl (mem_single _ _), advances_single.mp isString⟩
  · exact ⟨_, Or.inr (mem_single _ _), advances_single.mp isBlock⟩

theorem completable_behindDescription (about : Option String) :
    Completable (behindDescription about) := by
  have subset : word "type" * anyOf ObjectType.body ≤ behindDescription about := by
    intro used member
    obtain ⟨front, ⟨span, rfl⟩, more, isBody, rfl⟩ := Language.mem_mul.mp member
    exact (objectType_forms about).body_le isBody span
  exact Completable.mono subset

/-- A description in front of an extension is complained about when the keyword is seen. -/
theorem guides_describedExtension {first : Lexeme} {about : String} {span : Span}
    {rest : List Lexeme} (isAbout : [first] ∈ describing (some about))
    (isRest : cursor.rest = first :: ⟨.name "extend", span⟩ :: rest) :
    Guides (anyOf Definition.spelling) (reading definition) cursor := by
  obtain ⟨all, last⟩ := cursor
  obtain rfl : all = _ := isRest
  have fails : ∀ more, reading definition ⟨first :: ⟨.name "extend", span⟩ :: more, last⟩ =
      .error ⟨.describedExtension, first.span⟩ := by
    intro more
    rcases (Language.mem_add _ _ _).mp isAbout with ⟨place, isString⟩ | ⟨place, isBlock⟩
    · cases isString
      rfl
    · cases isBlock
      rfl
  constructor
  · intro value next stepped
    cases (fails rest).symm.trans stepped
  · intro error failed
    cases (fails rest).symm.trans failed
    refine .within nofun [] first [⟨.name "extend", span⟩] rest rfl rfl rfl ?_ fails
    obtain ⟨more, written, member⟩ := (completable_behindDescription about).nil_mem_begun
    exact ⟨more, written, member _ isAbout⟩

theorem guides_definition : Guides (anyOf Definition.spelling) (reading definition) cursor := by
  by_cases described : ∃ first about span rest, [first] ∈ describing (some about) ∧
      cursor.rest = first :: ⟨.name "extend", span⟩ :: rest
  · obtain ⟨first, about, span, rest, isAbout, isRest⟩ := described
    exact guides_describedExtension isAbout isRest
  · rw [reading_definition]
    refine Guided.bind_here ?_
    have isDescription : Guided (anyOf Definition.spelling)
        (passing fun cursor => .ok cursor.description) behindDescription cursor :=
      guided_description fun about used isAbout more member => member used isAbout
    refine isDescription.bind fun about middle stepped => ?_
    have completable := completable_behindDescription about
    have isName : Guided (behindDescription about) (nameWhere isKeyword .unknownDefinition)
        (behindKeyword about) middle :=
      guided_nameWhere (fun _ => id) (fun _ => rfl) fun keyword _ span more member => member span
    refine isName.bind fun keyword behind found => ?_
    obtain ⟨isWord, front⟩ := nameWhere_sound found
    refine guides_definitionBehind isWord fun isExtend => ?_
    cases about with
    | none => rfl
    | some text =>
        obtain ⟨first, isAbout, isFirst⟩ := description_sound_some stepped
        rw [front, isExtend] at isFirst
        exact absurd ⟨first, text, _, _, isAbout, isFirst⟩ described

/-! ## Documents -/

theorem definitions_error_of_reading {error : SyntaxError} (more : cursor.rest ≠ [])
    (failed : reading definition cursor = .error error) : definitions cursor = .error error := by
  rw [definitions_eq_cons more]
  cases isFirst : definition cursor with
  | error fault =>
      rw [reading, isFirst] at failed
      cases failed
      rfl
  | ok first =>
      rw [reading, isFirst] at failed
      cases failed

theorem definitions_error_behind {first : Definition} {next : Cursor} {error : SyntaxError}
    (more : cursor.rest ≠ []) (stepped : reading definition cursor = .ok (first, next))
    (failed : definitions next = .error error) : definitions cursor = .error error := by
  obtain ⟨found, isFound, same⟩ := map_eq_ok_iff.mp stepped
  cases same
  rw [definitions_eq_cons more, isFound, ok_bind, failed]
  rfl

theorem ne_nil_of_head? {tail rest : List Lexeme} (same : tail.head? = rest.head?)
    (more : rest ≠ []) : tail ≠ [] := by
  rintro rfl
  exact more (List.head?_eq_none_iff.mp same.symm)

/-- A definition in front of a document makes a document. -/
theorem append_mem_anyDocument {used more : List Lexeme}
    (isDefinition : used ∈ anyOf Definition.spelling) (isDocument : more ∈ anyOf documentSpelling) :
    used ++ more ∈ anyOf documentSpelling := by
  obtain ⟨first, spelled⟩ := isDefinition
  obtain ⟨others, spelledOthers⟩ := isDocument
  refine ⟨first :: others, ?_⟩
  rw [documentSpelling, sequenced_cons]
  exact Language.append_mem_mul spelled spelledOthers

theorem definition_le_document : anyOf Definition.spelling ≤ anyOf documentSpelling := by
  intro used isDefinition
  rw [← List.append_nil used]
  exact append_mem_anyDocument isDefinition ⟨[], Language.nil_mem_one⟩

/-- A complaint about a document blames the first lexeme with which no document goes on, or
else the end of the input. -/
theorem definitions_blames {error : SyntaxError} (failed : definitions cursor = .error error) :
    Blames (anyOf documentSpelling) definitions cursor error := by
  induction cursor using definitions.induct with
  | case1 cursor atEnd =>
      rw [definitions_eq_nil atEnd] at failed
      cases failed
  | case2 cursor lexeme rest isRest ih =>
      have more : cursor.rest ≠ [] := by simp [isRest]
      cases isFirst : reading definition cursor with
      | error fault =>
          cases (definitions_error_of_reading more isFirst).symm.trans failed
          refine (guides_definition.blamed error isFirst).behind [] rfl rfl
            (fun used member => definition_le_document member) ?_
          exact fun tail same fails =>
            definitions_error_of_reading (ne_nil_of_head? same more) fails
      | ok found =>
          obtain ⟨first, next⟩ := found
          obtain ⟨reading, isFound, same⟩ := map_eq_ok_iff.mp isFirst
          cases same
          rw [definitions_eq_cons more, isFound, ok_bind] at failed
          rcases bind_eq_error_iff.mp failed with failed | ⟨others, -, made⟩
          · obtain ⟨used, split, last, fits, stable⟩ := guides_definition.taken _ _ isFirst
            have isDefinition := fits [] Language.nil_mem_one
            rw [List.append_nil] at isDefinition
            have nonempty : used ≠ [] := by
              rintro rfl
              have shorter := length_lt_of_reading isFirst
              rw [split] at shorter
              exact Nat.lt_irrefl _ shorter
            refine (ih reading failed).behind used split last
              (fun more member => append_mem_anyDocument isDefinition member) ?_
            intro tail same fails
            exact definitions_error_behind (by simp [nonempty]) (stable tail same) fails
          · cases made

end Cursor

end EntityMapping.Document
