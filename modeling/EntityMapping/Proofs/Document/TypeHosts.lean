import EntityMapping.Proofs.Document.Insertion
import EntityMapping.Proofs.Document.Nesting
import EntityMapping.Proofs.Document.SpelledDefinitions
import EntityMapping.Proofs.Document.TypeTexts

/-!
# Types in other definitions

A type reference of a document can be shown as a text and put into another document.  Main
statement: behind the colon of a field, however the type definition around it is written, the text
is read as the same reference.
-/

namespace EntityMapping.Document

open EntityMapping.Source
open EntityMapping.Text

/-! ## Type references of a document -/

/-- The type references of a document: the types of its fields, of arguments and of the fields of
input types, and what these list or mark. -/
inductive TypeOf (definitions : List Definition) : TypeRef → Prop where
  | field {field : Field} (part : NodeOf definitions (.field field)) :
      TypeOf definitions field.type
  | input {input : InputValue} (part : NodeOf definitions (.input input)) :
      TypeOf definitions input.type
  | item {item : TypeRef} (outer : TypeOf definitions (.list item)) : TypeOf definitions item
  | inner {inner : TypeRef} (outer : TypeOf definitions (.nonNull inner)) :
      TypeOf definitions inner

/-- Every sequence of a language holds one of another. -/
def Holds (inner language : Language Lexeme) : Prop :=
  ∀ used ∈ language, ∃ own ∈ inner, own <:+: used

section Holding

variable {inner middle language : Language Lexeme}

theorem Holds.refl (language : Language Lexeme) : Holds language language :=
  fun used member => ⟨used, member, List.infix_rfl⟩

theorem Holds.trans (first : Holds inner middle) (second : Holds middle language) :
    Holds inner language := by
  intro used member
  obtain ⟨outer, isMiddle, outerPart⟩ := second used member
  obtain ⟨own, isOwn, part⟩ := first outer isMiddle
  exact ⟨own, isOwn, part.trans outerPart⟩

theorem Holds.mul_left (holds : Holds inner language) (left : Language Lexeme) :
    Holds inner (left * language) := by
  intro used member
  obtain ⟨front, -, back, inRight, rfl⟩ := Language.mem_mul.mp member
  obtain ⟨own, isOwn, part⟩ := holds back inRight
  exact ⟨own, isOwn, part.trans (List.suffix_append front back).isInfix⟩

theorem Holds.mul_right (holds : Holds inner language) (right : Language Lexeme) :
    Holds inner (language * right) := by
  intro used member
  obtain ⟨front, inLeft, back, -, rfl⟩ := Language.mem_mul.mp member
  obtain ⟨own, isOwn, part⟩ := holds front inLeft
  exact ⟨own, isOwn, part.trans (List.prefix_append front back).isInfix⟩

theorem Holds.covering (holds : Holds inner language) (span : Span) :
    Holds inner (covering span language) :=
  fun used member => holds used member.1

end Holding

theorem Field.holds_type (field : Field) : Holds field.type.spelling field.spelling :=
  (((((Holds.refl _).mul_right _).mul_left _).mul_left _).mul_left _).mul_left _ |>.covering _

theorem InputValue.holds_type (input : InputValue) : Holds input.type.spelling input.spelling :=
  ((((Holds.refl _).mul_right _).mul_left _).mul_left _).mul_left _ |>.covering _

theorem TypeRef.holds_item (item : TypeRef) :
    Holds item.spelling (TypeRef.list item).spelling :=
  ((Holds.refl _).mul_right _).mul_left _

theorem TypeRef.holds_inner (inner : TypeRef) :
    Holds inner.spelling (TypeRef.nonNull inner).spelling := by
  intro used member
  rw [TypeRef.spelling] at member
  split at member
  · exact absurd member (Language.notMem_zero used)
  · exact (Holds.refl _).mul_right _ used member

theorem TypeRef.holds_baseName (type : TypeRef) : Holds (word type.baseName) type.spelling := by
  induction type with
  | named name => exact Holds.refl _
  | list item ih => exact ih.trans item.holds_item
  | nonNull inner ih => exact ih.trans inner.holds_inner

section Document

variable {definitions : List Definition} {type : TypeRef} {used : List Lexeme}

/-- Every type reference is spelled by lexemes of its document that follow each other. -/
theorem TypeOf.exists_spelled (isType : TypeOf definitions type)
    (spelled : used ∈ documentSpelling definitions) : ∃ own ∈ type.spelling, own <:+: used := by
  induction isType with
  | @field field part =>
      obtain ⟨outer, outerPart, isOuter⟩ := part.spelledIn spelled
      obtain ⟨own, isOwn, ownPart⟩ := field.holds_type outer isOuter
      exact ⟨own, isOwn, ownPart.trans outerPart⟩
  | @input input part =>
      obtain ⟨outer, outerPart, isOuter⟩ := part.spelledIn spelled
      obtain ⟨own, isOwn, ownPart⟩ := input.holds_type outer isOuter
      exact ⟨own, isOwn, ownPart.trans outerPart⟩
  | @item item outer ih =>
      obtain ⟨around, isAround, aroundPart⟩ := ih
      obtain ⟨own, isOwn, ownPart⟩ := item.holds_item around isAround
      exact ⟨own, isOwn, ownPart.trans aroundPart⟩
  | @inner inner outer ih =>
      obtain ⟨around, isAround, aroundPart⟩ := ih
      obtain ⟨own, isOwn, ownPart⟩ := inner.holds_inner around isAround
      exact ⟨own, isOwn, ownPart.trans aroundPart⟩

/-- No reference that the reader builds has a mark behind another, and the name inside it has been
a token. -/
theorem TypeOf.wellFormed_and_named {source : String} (isType : TypeOf definitions type)
    (isRead : read source = .ok definitions) : type.WellFormed ∧ type.Named := by
  obtain ⟨used, cuts, spelled⟩ := read_eq_ok_iff.mp isRead
  obtain ⟨own, isOwn, ownPart⟩ := isType.exists_spelled spelled
  obtain ⟨_, ⟨span, rfl⟩, namePart⟩ := type.holds_baseName own isOwn
  have isLexeme : ⟨.name type.baseName, span⟩ ∈ used :=
    (namePart.trans ownPart).subset List.mem_cons_self
  exact ⟨TypeRef.wellFormed_of_spellable ⟨own, isOwn⟩, cuts.name_mem isLexeme⟩

end Document

/-! ## Type definitions around a type -/

/-- The forms of definition that have fields. -/
inductive FieldsForm where
  | object
  | extension
  | interface

namespace FieldsForm

def definition : FieldsForm → ObjectType → Definition
  | object => .object
  | extension => .extension
  | interface => .interface

/-- The spellings of a definition up to the name of the type. -/
def heading (form : FieldsForm) (description : Option String) : Language Lexeme :=
  match form with
  | object => describing description * word "type"
  | extension => (if description.isSome then 0 else 1) * (word "extend" * word "type")
  | interface => describing description * word "interface"

theorem spelling_definition (form : FieldsForm) (type : ObjectType) :
    (form.definition type).spelling =
      covering type.span (form.heading type.description * type.body) := by
  cases form <;> simp only [definition, heading, Definition.spelling, Definition.about,
    Definition.description?, Definition.keyword, Definition.body, Definition.span, mul_assoc]

theorem unplaced_definition (form : FieldsForm) (type : ObjectType) :
    (form.definition type).unplaced = form.definition (type.relocate Span.nowhere) := by
  cases form <;> rfl

end FieldsForm

/-- A type definition in which the type of a field is to be filled in; the fields of the header
and the type of the field do not count. -/
structure TypeHost where
  form : FieldsForm
  header : ObjectType
  ahead : List Field
  field : Field
  behind : List Field

namespace TypeHost

/-- The type definition with the type filled in. -/
def hosting (host : TypeHost) (type : TypeRef) : Definition :=
  host.form.definition
    { host.header with fields := host.ahead ++ { host.field with type := type } :: host.behind }

/-- The spellings of the definition up to the field. -/
def outerOpening (host : TypeHost) : Language Lexeme :=
  host.form.heading host.header.description * (word host.header.name *
    (implementing host.header.interfaces * (annotations host.header.directives *
      (mark .braceOpen * sequenced Field.spelling host.ahead))))

/-- The spellings of the field up to its colon. -/
def fieldOpening (host : TypeHost) : Language Lexeme :=
  describing host.field.description * (word host.field.name * parameterList host.field.arguments)

/-- The spellings of the definition behind the field. -/
def outerClosing (host : TypeHost) : Language Lexeme :=
  sequenced Field.spelling host.behind * mark .braceClose

/-- The spellings of the definition up to the colon of the field. -/
def opening (host : TypeHost) : Language Lexeme :=
  host.outerOpening * (host.fieldOpening * mark .colon)

/-- The spellings of the definition from behind the type of the field on. -/
def closing (host : TypeHost) : Language Lexeme :=
  annotations host.field.directives * host.outerClosing

section Hosting

variable {host : TypeHost} {type : TypeRef} {front own back : List Lexeme}

theorem spells_field (type : TypeRef) (span : Span) :
    Field.spelling { host.field with type := type, span := span } =
      covering span (host.fieldOpening * mark .colon *
        (type.spelling * annotations host.field.directives)) := by
  simp only [Field.spelling, fieldOpening, mul_assoc]

theorem spells_definition (field : Field) (span : Span) :
    (host.form.definition { host.header with
      fields := host.ahead ++ field :: host.behind, span := span }).spelling =
      covering span (host.outerOpening * (field.spelling * host.outerClosing)) := by
  have between : bracketed .braceOpen .braceClose Field.spelling
      (host.ahead ++ field :: host.behind) = mark .braceOpen *
        (sequenced Field.spelling host.ahead * (field.spelling * host.outerClosing)) := by
    simp [bracketed, outerClosing, sequenced_append, sequenced_cons, mul_assoc]
  simp only [FieldsForm.spelling_definition, ObjectType.body, between, outerOpening, mul_assoc]

/-- Around a type the two parts spell the definition with this type, with spans of its own. -/
theorem spells_hosting (inOpening : front ∈ host.opening) (isType : own ∈ type.spelling)
    (inClosing : back ∈ host.closing) :
    ∃ found : Definition, found.unplaced = (host.hosting type).unplaced ∧
      front ++ (own ++ back) ∈ found.spelling := by
  obtain ⟨outer, inOuter, inner, inField, rfl⟩ := Language.mem_mul.mp inOpening
  obtain ⟨annotated, areDirectives, behind, inBehind, rfl⟩ := Language.mem_mul.mp inClosing
  let field : Field :=
    { host.field with type := type, span := coverage (inner ++ (own ++ annotated)) }
  have isField : inner ++ (own ++ annotated) ∈ field.spelling := by
    rw [spells_field]
    exact ⟨Language.append_mem_mul inField (Language.append_mem_mul isType areDirectives), rfl⟩
  have whole : outer ++ inner ++ (own ++ (annotated ++ behind)) =
      outer ++ ((inner ++ (own ++ annotated)) ++ behind) := by
    simp
  refine ⟨host.form.definition { host.header with
    fields := host.ahead ++ field :: host.behind
    span := coverage (outer ++ ((inner ++ (own ++ annotated)) ++ behind)) }, ?_, ?_⟩
  · simp [FieldsForm.unplaced_definition, ObjectType.relocate, Field.relocate, field, hosting,
      Span.nowhere]
  · rw [whole, spells_definition]
    exact ⟨Language.append_mem_mul inOuter (Language.append_mem_mul isField inBehind), rfl⟩

end Hosting

end TypeHost

/-! ## Texts around a type -/

/-- Two texts are what stands around a type: the first is the definition up to the colon, which
it ends with, and the second the definition from behind the type on. -/
structure TypeHost.Written (host : TypeHost) (front back : String) : Prop where
  opening : ∃ ahead, lexemes front = .ok ahead ∧ ahead ∈ host.opening ∧
    (lastSpan ⟨0, 0⟩ ahead).stop = front.utf8ByteSize
  closing : ∃ behind, lexemes back = .ok behind ∧ behind ∈ host.closing

section Reading

variable {host : TypeHost} {front between back : String} {type : TypeRef}

/-- Behind the colon that the first text ends with any text may follow. -/
theorem TypeHost.Written.exists_append (written : host.Written front back) :
    ∃ ahead ∈ host.opening, ∀ more others, Cuts front.utf8ByteSize more others →
      Cuts 0 (front.toList ++ more) (ahead ++ others) := by
  obtain ⟨ahead, isFront, inOpening, ends⟩ := written.opening
  obtain ⟨outer, inOuter, inner, inField, rfl⟩ := Language.mem_mul.mp inOpening
  obtain ⟨field, isField, _, ⟨span, rfl⟩, rfl⟩ := Language.mem_mul.mp inField
  have cuts := lexemes_eq_ok_iff.mp isFront
  rw [← List.append_assoc] at cuts ends
  have stops : span.stop = 0 + byteWidth front.toList := by
    rw [byteWidth_toList, Nat.zero_add, ← ends]
    simp [lastSpan]
  refine ⟨_, inOpening, fun more others further => ?_⟩
  rw [← byteWidth_toList, ← Nat.zero_add (byteWidth front.toList)] at further
  have joined := cuts.appendBehindPunct rfl (by decide) stops further
  simpa using joined

/-- The tokens of the text of a reference stand between those of the texts around it. -/
theorem TypeHost.Written.exists_lexemes (written : host.Written front back)
    (ignorable : between.toList ∈ gapText) (apart : Apart type.text.toList back.toList)
    (named : type.Named) :
    ∃ ahead own behind moved, ahead ∈ host.opening ∧ own.map Lexeme.token = type.tokens ∧
      behind ∈ host.closing ∧ moved.map Lexeme.token = behind.map Lexeme.token ∧
      lexemes (front ++ between ++ type.text ++ back) = .ok (ahead ++ (own ++ moved)) := by
  obtain ⟨ahead, inOpening, append⟩ := written.exists_append
  obtain ⟨behind, isBack, inClosing⟩ := written.closing
  obtain ⟨moved, sameTokens, cutsBack⟩ : ∃ moved,
      moved.map Lexeme.token = behind.map Lexeme.token ∧
      Cuts (front.utf8ByteSize + byteWidth between.toList + byteWidth type.text.toList)
        back.toList moved := by
    have shifted := (lexemes_eq_ok_iff.mp isBack).shift
      (front.utf8ByteSize + byteWidth between.toList + byteWidth type.text.toList)
    rw [Nat.zero_add] at shifted
    exact ⟨_, map_token_relocate _ behind, shifted⟩
  obtain ⟨own, areTokens, cuts⟩ := TypeRef.cuts_text named apart cutsBack
  have joined := append _ _ (Cuts.behindGapText ignorable cuts)
  refine ⟨ahead, own, behind, moved, inOpening, areTokens, inClosing, sameTokens, ?_⟩
  rw [lexemes_eq_ok_iff, String.toList_append, String.toList_append, String.toList_append,
    List.append_assoc, List.append_assoc]
  exact joined

/-- A type definition in which the text of a reference is filled in is read with this type. -/
theorem TypeHost.Written.read (written : host.Written front back)
    (ignorable : between.toList ∈ gapText) (apart : Apart type.text.toList back.toList)
    (wellFormed : type.WellFormed) (named : type.Named) :
    ∃ found, read (front ++ between ++ type.text ++ back) = .ok [found] ∧
      found.unplaced = (host.hosting type).unplaced := by
  obtain ⟨ahead, own, behind, moved, inOpening, areTokens, inClosing, sameTokens, isCut⟩ :=
    written.exists_lexemes ignorable apart named
  obtain ⟨spelled, alike, member⟩ :=
    TypeHost.spells_hosting inOpening (wellFormed.spells own areTokens) inClosing
  rw [← documentSpelling_singleton] at member
  have isRead := ofLexemes_eq_ok_iff.mpr member
  have same : (ahead ++ (own ++ moved)).map Lexeme.token =
      (ahead ++ (own ++ behind)).map Lexeme.token := by
    simp only [List.map_append, sameTokens]
  have agree := ofLexemes_alike same
  rw [isRead] at agree
  rw [Document.read, isCut]
  change ∃ found, ofLexemes (ahead ++ (own ++ moved)) = _ ∧ _
  generalize ofLexemes (ahead ++ (own ++ moved)) = result at agree ⊢
  cases agree with
  | @ok definitions _ sameDefinitions =>
      obtain ⟨found, rfl, sameDefinition⟩ := List.map_eq_singleton_iff.mp sameDefinitions
      exact ⟨found, rfl, sameDefinition.trans alike⟩

end Reading

/-- Every type reference of a document survives being shown: behind the colon of a field, in
whatever definition with fields, its text is read as the reference unless a name at its end goes
on; read on its own, nothing is left of the text.  It ends with a mark just if the reference is
never null, begins with a bracket just if it is a list, and without brackets and marks it is the
name inside. -/
theorem types_survive_printing {source : String} {definitions : List Definition}
    (isRead : read source = .ok definitions) {type : TypeRef} (isType : TypeOf definitions type) :
    (∀ (host : TypeHost) (front between back : String), host.Written front back →
      between.toList ∈ gapText → Apart type.text.toList back.toList →
        ∃ found, read (front ++ between ++ type.text ++ back) = .ok [found] ∧
          found.unplaced = (host.hosting type).unplaced) ∧
    (∃ used, lexemes type.text = .ok used ∧ ∀ last, ∃ reading,
      Cursor.typeRef ⟨used, last⟩ = .ok reading ∧ reading.value = type ∧ reading.next.rest = []) ∧
    (type.isNonNull = true ↔ type.text.toList.getLast? = some '!') ∧
    (type.isList = true ↔ type.text.toList.head? = some '[') ∧
    type.baseName.toList = type.text.toList.filter fun c => c ∉ ['[', ']', '!'] := by
  obtain ⟨wellFormed, named⟩ := isType.wellFormed_and_named isRead
  refine ⟨?_, TypeRef.read_text wellFormed named, TypeRef.isNonNull_iff named,
    TypeRef.isList_iff named, TypeRef.toList_baseName named⟩
  intro host front between back written ignorable apart
  exact written.read ignorable apart wellFormed named

/-- A list of lists that is never null, as the items of its items. -/
def nestedList : TypeRef :=
  .nonNull (.list (.list (.nonNull (.named "B"))))

/-- The definition in the text `input I { f: [[B!]]! }`. -/
def nestedListInput : Definition :=
  .input ⟨none, "I", [], [⟨none, "f", nestedList, none, [], ⟨10, 20⟩⟩], ⟨0, 22⟩⟩

/-- An extension with a single field. -/
def extensionHost : TypeHost :=
  ⟨.extension, ⟨none, "H", [], [], [], ⟨0, 0⟩⟩, [], ⟨none, "f", [], .named "T", [], ⟨0, 0⟩⟩, []⟩

theorem extensionHost_written : extensionHost.Written "extend type H\x7bf:" "\x7d" where
  opening := by
    have heading : Spells _ (extensionHost.form.heading none) :=
      spells_one.mul ((spells_single _).mul (spells_single _))
    have spells : Spells _ extensionHost.opening :=
      (heading.mul ((spells_single _).mul (spells_one.mul
        (spells_one.mul ((spells_single _).mul spells_one))))).mul
        ((spells_one.mul ((spells_single _).mul spells_one.add_left)).mul (spells_single _))
    exact ⟨[⟨.name "extend", ⟨0, 6⟩⟩, ⟨.name "type", ⟨7, 11⟩⟩, ⟨.name "H", ⟨12, 13⟩⟩,
      ⟨.punct .braceOpen, ⟨13, 14⟩⟩, ⟨.name "f", ⟨14, 15⟩⟩, ⟨.punct .colon, ⟨15, 16⟩⟩],
      by cbv, spells _ rfl, by cbv⟩
  closing := by
    have spells : Spells _ extensionHost.closing :=
      spells_one.mul (spells_one.mul (spells_single _))
    exact ⟨[⟨.punct .braceClose, ⟨0, 1⟩⟩], by cbv, spells _ rfl⟩

theorem nestedList_printed :
    read "input I \x7b f: [[B!]]! \x7d" = .ok [nestedListInput] ∧
      TypeOf [nestedListInput] nestedList ∧
      ∃ found, read ("extend type H\x7bf:" ++ "" ++ "[[B!]]!" ++ "\x7d") = .ok [found] ∧
        found.unplaced = (extensionHost.hosting nestedList).unplaced := by
  have isRead : read "input I \x7b f: [[B!]]! \x7d" = .ok [nestedListInput] := by
    cbv
  have isPart : NodeOf [nestedListInput]
      (.input ⟨none, "f", nestedList, none, [], ⟨10, 20⟩⟩) :=
    .child (.definition List.mem_cons_self) List.mem_cons_self
  have isType : TypeOf [nestedListInput] nestedList := .input isPart
  have hosted := (types_survive_printing isRead isType).1 extensionHost _ "" _
    extensionHost_written nil_mem_gapText (apart_cons (by decide) _ [])
  exact ⟨isRead, isType, hosted⟩

end EntityMapping.Document
