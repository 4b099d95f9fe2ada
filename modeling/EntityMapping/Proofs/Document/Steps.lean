import EntityMapping.Document.Reader
import EntityMapping.Proofs.Document.Readers

/-!
# Readers as steps

A reader returns the proof that it consumed something, and so its type depends on the cursor.
Without the proof a reader is a step of a computation whose state is the cursor, and every
reader that is put together from others is a sequence of their steps.
-/

namespace EntityMapping.Document

open EntityMapping.Source

/-- A step of reading: it moves a cursor and comes to a value, or it fails. -/
abbrev Steps (α : Type) : Type :=
  StateT Cursor (Except SyntaxError) α

namespace Cursor

variable {α β : Type}

/-- A reader without the proof that something was read. -/
def reading (read : (cursor : Cursor) → Reads α cursor) : Steps α :=
  fun cursor => (read cursor).map Reading.outcome

/-- An optional reader without the proof that nothing was given back. -/
def passing (pass : (cursor : Cursor) → Passes α cursor) : Steps α :=
  fun cursor => (pass cursor).map Passing.outcome

/-- Where the cursor stands. -/
def here : Steps Span :=
  fun cursor => .ok (cursor.span, cursor)

/-- The span from a place up to what was read last. -/
def since (start : Span) : Steps Span :=
  fun cursor => .ok (cursor.spanSince start, cursor)

/-- A name of some kind; other names are complained about where they stand. -/
def nameWhere (accepted : String → Bool) (complaint : String → SyntaxCause) : Steps String :=
  fun cursor => do
    let found ← name cursor
    if accepted found.value then .ok found.outcome
    else .error ⟨complaint found.value, found.next.last⟩

/-! ## Sequences of steps -/

theorem steps_bind_ok {first : Steps α} {next : α → Steps β} {cursor behind : Cursor} {value : α}
    (stepped : first cursor = .ok (value, behind)) :
    (first >>= next) cursor = next value behind := by
  simp only [bind, StateT.bind, stepped, Except.bind]

theorem steps_bind_error {first : Steps α} {next : α → Steps β} {cursor : Cursor}
    {error : SyntaxError} (failed : first cursor = .error error) :
    (first >>= next) cursor = .error error := by
  simp only [bind, StateT.bind, failed, Except.bind]

theorem reading_bind (read : (cursor : Cursor) → Reads α cursor) (next : α → Steps β)
    (cursor : Cursor) :
    (reading read >>= next) cursor =
      read cursor >>= fun found => next found.value found.next := by
  cases isRead : read cursor with
  | error error => exact steps_bind_error (congrArg (Except.map Reading.outcome) isRead)
  | ok found => exact steps_bind_ok (congrArg (Except.map Reading.outcome) isRead)

theorem passing_bind (pass : (cursor : Cursor) → Passes α cursor) (next : α → Steps β)
    (cursor : Cursor) :
    (passing pass >>= next) cursor =
      pass cursor >>= fun found => next found.value found.next := by
  cases isRead : pass cursor with
  | error error => exact steps_bind_error (congrArg (Except.map Passing.outcome) isRead)
  | ok found => exact steps_bind_ok (congrArg (Except.map Passing.outcome) isRead)

theorem here_bind (next : Span → Steps β) (cursor : Cursor) :
    (here >>= next) cursor = next cursor.span cursor := rfl

theorem since_bind (start : Span) (next : Span → Steps β) (cursor : Cursor) :
    (since start >>= next) cursor = next (cursor.spanSince start) cursor := rfl

theorem nameWhere_bind (accepted : String → Bool) (complaint : String → SyntaxCause)
    (next : String → Steps β) (cursor : Cursor) :
    (nameWhere accepted complaint >>= next) cursor =
      name cursor >>= fun found =>
        if accepted found.value then next found.value found.next
        else .error ⟨complaint found.value, found.next.last⟩ := by
  simp only [bind, StateT.bind, nameWhere]
  cases name cursor with
  | error error => rfl
  | ok found =>
      cases isAccepted : accepted found.value with
      | false => simp [Except.bind, isAccepted]
      | true => simp [Except.bind, isAccepted, Reading.outcome]

theorem map_bind {ε γ : Type} (first : Except ε α) (next : α → Except ε β) (f : β → γ) :
    (first >>= next).map f = first >>= fun value => (next value).map f := by
  cases first with
  | error fault => rfl
  | ok value => rfl

/-- A reader consumes something. -/
theorem length_lt_of_reading {read : (cursor : Cursor) → Reads α cursor} {cursor next : Cursor}
    {value : α} (stepped : reading read cursor = .ok (value, next)) :
    next.rest.length < cursor.rest.length := by
  obtain ⟨found, -, same⟩ := map_eq_ok_iff.mp stepped
  cases same
  exact found.shorter

/-! ## Steps that look ahead -/

/-- Steps that read a token if it comes next and go on behind it, and otherwise go another
way. -/
structure Branches (token : Token) (steps : Steps α) (behind : Span → Steps α)
    (otherwise : Steps α) : Prop where
  present : ∀ span rest last, steps ⟨⟨token, span⟩ :: rest, last⟩ = behind span ⟨rest, span⟩
  absent : ∀ cursor : Cursor, Clear [token] cursor.rest → steps cursor = otherwise cursor

theorem skipPunct_branches (wanted : Punctuator) :
    Branches (.punct wanted) (passing fun cursor => .ok (cursor.skipPunct wanted))
      (fun _ => pure true) (pure false) where
  present span rest last := by
    simp only [passing, skipPunct, punct?, if_pos]
    rfl
  absent cursor clear := by
    simp only [passing, skipPunct, punct?_eq_none clear]
    rfl

theorem skipWord_branches (wanted : String) :
    Branches (.name wanted) (passing fun cursor => .ok (cursor.skipWord wanted))
      (fun _ => pure true) (pure false) where
  present span rest last := by
    simp only [passing, skipWord, word?, if_pos]
    rfl
  absent cursor clear := by
    simp only [passing, skipWord, word?_eq_none clear]
    rfl

section Items

variable {close : Punctuator} {item : (cursor : Cursor) → Reads α cursor}

/-- Items are read in the same way whatever bound they are read under. -/
theorem itemsUntil_congr {front other : Cursor} {cursor : Cursor}
    (inside : cursor.rest.length ≤ front.rest.length)
    (insideOther : cursor.rest.length ≤ other.rest.length) :
    itemsUntil close front (fun inner _ => item inner) cursor inside =
      itemsUntil close other (fun inner _ => item inner) cursor insideOther := by
  induction cursor, inside using @itemsUntil.induct α close front with
  | case1 cursor inside closing found => rw [itemsUntil, itemsUntil, found]
  | case2 cursor inside notClosed ih =>
      rw [itemsUntil, itemsUntil, notClosed]
      refine congrArg (item cursor >>= ·) (funext fun first => ?_)
      rw [ih first]

theorem itemsUntil_eq_many {front : Cursor} (cursor : Cursor)
    (inside : cursor.rest.length ≤ front.rest.length) :
    itemsUntil close front (fun inner _ => item inner) cursor inside = many close item cursor :=
  itemsUntil_congr inside (Nat.le_refl _)

theorem many_branches :
    Branches (.punct close) (reading (many close item)) (fun _ => pure [])
      (do
        let first ← reading item
        let others ← reading (many close item)
        return first :: others) where
  present span rest last := by
    rw [reading, many, itemsUntil]
    simp only [punct?, if_pos]
    rfl
  absent cursor clear := by
    rw [reading, many, itemsUntil, punct?_eq_none clear]
    simp only [reading_bind, map_bind, itemsUntil_eq_many]
    rfl

theorem enclosed_branches {opening : Punctuator} :
    Branches (.punct opening) (passing (enclosed opening close item))
      (fun _ => reading (many close item)) (pure []) where
  present span rest last := by
    simp only [passing, enclosed, punct?, if_pos, Reading.single, reading]
    cases many close item ⟨rest, span⟩ with
    | error error => rfl
    | ok items => rfl
  absent cursor clear := by
    simp only [passing, enclosed, punct?_eq_none clear]
    rfl

end Items

/-! ## Names -/

theorem namesBehind_branches (separator : Punctuator) :
    Branches (.punct separator) (passing (namesBehind separator))
      (fun _ => do
        let first ← reading name
        let others ← passing (namesBehind separator)
        return first :: others)
      (pure []) where
  present span rest last := by
    rw [passing, namesBehind]
    simp only [punct?, if_pos, Reading.single, reading_bind, passing_bind, map_bind]
    rfl
  absent cursor clear := by
    rw [passing, namesBehind, punct?_eq_none clear]
    rfl

theorem reading_separatedNames (separator : Punctuator) :
    reading (separatedNames separator) = do
      let _ ← passing fun cursor => .ok (cursor.skipPunct separator)
      let first ← reading name
      let others ← passing (namesBehind separator)
      return first :: others := by
  funext cursor
  simp only [passing_bind, reading_bind, ok_bind]
  simp only [reading, separatedNames, map_bind]
  rfl

/-! ## Values and types -/

/-- A field of an object value. -/
def entryReader (cursor : Cursor) : Reads (String × Value) cursor :=
  entry cursor (fun inner _ => value inner) cursor Nat.le.refl

theorem reading_entryReader :
    reading entryReader = do
      let key ← reading name
      let _ ← reading (punct .colon (.punct .colon))
      let content ← reading value
      return (key, content) := by
  funext cursor
  simp only [reading_bind]
  simp only [reading, entryReader, entry, map_bind]
  rfl

theorem reading_value_list (span last : Span) (rest : List Lexeme) :
    reading value ⟨⟨.punct .bracketOpen, span⟩ :: rest, last⟩ =
      (do return .list (← reading (many .bracketClose value)) : Steps Value) ⟨rest, span⟩ := by
  rw [reading, value]
  simp only [itemsUntil_eq_many, reading_bind, map_bind]
  rfl

theorem reading_value_object (span last : Span) (rest : List Lexeme) :
    reading value ⟨⟨.punct .braceOpen, span⟩ :: rest, last⟩ =
      (do return .object (← reading (many .braceClose entryReader)) : Steps Value)
        ⟨rest, span⟩ := by
  rw [reading, value]
  have entries : itemsUntil .braceClose ⟨rest, span⟩ (entry ⟨rest, span⟩ fun inner _ => value inner)
      ⟨rest, span⟩ (Nat.le_refl _) = many .braceClose entryReader ⟨rest, span⟩ := by
    rw [← itemsUntil_eq_many _ (Nat.le_refl _)]
    rfl
  simp only [entries, reading_bind, map_bind]
  rfl

/-- A type reference up to where its mark would stand. -/
def bareTypeRef : Steps TypeRef :=
  fun cursor =>
    match cursor.punct? .bracketOpen with
    | none => (do return .named (← reading name) : Steps TypeRef) cursor
    | some opening =>
        (do
          let item ← reading typeRef
          let _ ← reading (punct .bracketClose (.punct .bracketClose))
          return .list item : Steps TypeRef) opening.next

theorem bareTypeRef_branches :
    Branches (.punct .bracketOpen) bareTypeRef
      (fun _ => do
        let item ← reading typeRef
        let _ ← reading (punct .bracketClose (.punct .bracketClose))
        return .list item)
      (do return .named (← reading name)) where
  present span rest last := by
    simp only [bareTypeRef, punct?, if_pos]
    rfl
  absent cursor clear := by
    simp only [bareTypeRef, punct?_eq_none clear]

theorem outcome_marked {before : Cursor} (inner : Reading TypeRef before) :
    (.ok (marked inner).outcome : Except SyntaxError (TypeRef × Cursor)) =
      (do
        let isMarked ← passing fun cursor => .ok (cursor.skipPunct .bang)
        return if isMarked then .nonNull inner.value else inner.value : Steps TypeRef)
        inner.next := by
  simp only [passing_bind, ok_bind, skipPunct, marked]
  cases inner.next.punct? .bang with
  | none => rfl
  | some mark => rfl

theorem reading_typeRef :
    reading typeRef = do
      let inner ← bareTypeRef
      let isMarked ← passing fun cursor => .ok (cursor.skipPunct .bang)
      return if isMarked then .nonNull inner else inner := by
  funext cursor
  have marking : ∀ {before : Cursor} (inner : Reading TypeRef before),
      (passing (fun cursor => .ok (cursor.skipPunct .bang)) >>= fun isMarked =>
        (pure (if isMarked then .nonNull inner.value else inner.value) : Steps TypeRef))
          inner.next = .ok (marked inner).outcome :=
    fun inner => (outcome_marked inner).symm
  rw [reading, typeRef]
  cases opened : cursor.punct? .bracketOpen with
  | none =>
      cases named : name cursor with
      | error error =>
          refine Eq.symm (steps_bind_error ?_)
          simp only [bareTypeRef, opened, reading_bind, named]
          rfl
      | ok base =>
          refine Eq.trans (marking (base.map .named)).symm (Eq.symm (steps_bind_ok ?_))
          simp only [bareTypeRef, opened, reading_bind, named]
          rfl
  | some opening =>
      have bare : bareTypeRef cursor =
          (typeRef opening.next >>= fun item =>
            punct .bracketClose (.punct .bracketClose) item.next >>= fun closing =>
              .ok (.list item.value, closing.next)) := by
        simp only [bareTypeRef, opened, reading_bind]
        rfl
      simp only
      cases isItem : typeRef opening.next with
      | error error =>
          rw [isItem] at bare
          exact (steps_bind_error bare).symm
      | ok item =>
          rw [isItem, ok_bind] at bare
          rw [ok_bind]
          cases isClosed : punct .bracketClose (.punct .bracketClose) item.next with
          | error error =>
              rw [isClosed] at bare
              exact (steps_bind_error bare).symm
          | ok closing =>
              rw [isClosed, ok_bind] at bare
              rw [steps_bind_ok bare]
              exact (marking _).symm

/-! ## Directives -/

theorem reading_argument (directive : String) :
    reading (argument directive) = do
      let start ← here
      let name ← reading name
      let _ ← reading (punct .colon (.argumentValue directive name))
      let value ← reading value
      return ⟨name, value, ← since start⟩ := by
  funext cursor
  simp only [here_bind, reading_bind, since_bind]
  simp only [reading, argument, map_bind]
  rfl

theorem reading_directiveBehind (start : Span) :
    reading (directiveBehind start) = do
      let name ← reading name
      let arguments ← passing (enclosed .parenOpen .parenClose (argument name))
      return ⟨name, arguments, ← since start⟩ := by
  funext cursor
  simp only [reading_bind, passing_bind, since_bind]
  simp only [reading, directiveBehind, map_bind]
  rfl

theorem directives_branches :
    Branches (.punct .atSign) (passing directives)
      (fun start => do
        let first ← reading (directiveBehind start)
        let others ← passing directives
        return first :: others)
      (pure []) where
  present span rest last := by
    rw [passing, directives]
    simp only [punct?, if_pos, Reading.single, reading_bind, passing_bind, map_bind]
    rfl
  absent cursor clear := by
    rw [passing, directives, punct?_eq_none clear]
    rfl

/-! ## Parts of definitions -/

theorem defaultValue_branches :
    Branches (.punct .equals) (passing defaultValue)
      (fun _ => do return some (← reading value)) (pure none) where
  present span rest last := by
    simp only [passing, defaultValue, punct?, if_pos, Reading.single, reading_bind, map_bind]
    rfl
  absent cursor clear := by
    simp only [passing, defaultValue, punct?_eq_none clear]
    rfl

theorem reading_inputValue :
    reading inputValue = do
      let start ← here
      let about ← passing fun cursor => .ok cursor.description
      let name ← reading name
      let _ ← reading (punct .colon (.punct .colon))
      let type ← reading typeRef
      let default ← passing defaultValue
      let directives ← passing directives
      return ⟨about, name, type, default, directives, ← since start⟩ := by
  funext cursor
  simp only [here_bind, reading_bind, passing_bind, since_bind]
  simp only [reading, inputValue, map_bind]
  rfl

theorem reading_field :
    reading field = do
      let start ← here
      let about ← passing fun cursor => .ok cursor.description
      let name ← reading name
      let arguments ← passing parameters
      let _ ← reading (punct .colon (.fieldType name))
      let type ← reading typeRef
      let directives ← passing directives
      return ⟨about, name, arguments, type, directives, ← since start⟩ := by
  funext cursor
  simp only [here_bind, reading_bind, passing_bind, since_bind]
  simp only [reading, field, map_bind]
  rfl

theorem interfaces_branches :
    Branches (.name "implements") (passing interfaces)
      (fun _ => reading (separatedNames .ampersand)) (pure []) where
  present span rest last := by
    simp only [passing, interfaces, word?, if_pos, Reading.single, reading]
    cases separatedNames .ampersand ⟨rest, span⟩ with
    | error error => rfl
    | ok names => rfl
  absent cursor clear := by
    simp only [passing, interfaces, word?_eq_none clear]
    rfl

theorem members_branches :
    Branches (.punct .equals) (passing members)
      (fun _ => reading (separatedNames .pipe)) (pure []) where
  present span rest last := by
    simp only [passing, members, punct?, if_pos, Reading.single, reading]
    cases separatedNames .pipe ⟨rest, span⟩ with
    | error error => rfl
    | ok names => rfl
  absent cursor clear := by
    simp only [passing, members, punct?_eq_none clear]
    rfl

theorem reading_enumValue :
    reading enumValue = do
      let start ← here
      let about ← passing fun cursor => .ok cursor.description
      let name ← nameWhere (fun word => !isReserved word) .reservedEnumValue
      let directives ← passing directives
      return ⟨about, name, directives, ← since start⟩ := by
  funext cursor
  simp only [here_bind, nameWhere_bind, passing_bind, since_bind]
  simp only [reading, enumValue, map_bind, ok_bind]
  refine congrArg (cursor.description.next.name >>= ·) (funext fun found => ?_)
  cases reserved : isReserved found.value with
  | true => rfl
  | false =>
      simp only [Bool.false_eq_true, if_false, map_bind]
      rfl

theorem reading_operation :
    reading operation = do
      let kind ← reading name
      let _ ← reading (punct .colon (.punct .colon))
      let root ← reading name
      return (kind, root) := by
  funext cursor
  simp only [reading_bind]
  simp only [reading, operation, map_bind]
  rfl

/-! ## Definitions -/

theorem reading_objectType (about : Option String) (start : Span) :
    reading (objectType about start) = do
      let name ← reading name
      let interfaces ← passing interfaces
      let directives ← passing directives
      let fields ← passing (enclosed .braceOpen .braceClose field)
      return ⟨about, name, interfaces, directives, fields, ← since start⟩ := by
  funext cursor
  simp only [reading_bind, passing_bind, since_bind]
  simp only [reading, objectType, map_bind]
  rfl

theorem reading_inputType (about : Option String) (start : Span) :
    reading (inputType about start) = do
      let name ← reading name
      let directives ← passing directives
      let fields ← passing (enclosed .braceOpen .braceClose inputValue)
      return ⟨about, name, directives, fields, ← since start⟩ := by
  funext cursor
  simp only [reading_bind, passing_bind, since_bind]
  simp only [reading, inputType, map_bind]
  rfl

theorem reading_enumType (about : Option String) (start : Span) :
    reading (enumType about start) = do
      let name ← reading name
      let directives ← passing directives
      let values ← passing (enclosed .braceOpen .braceClose enumValue)
      return ⟨about, name, directives, values, ← since start⟩ := by
  funext cursor
  simp only [reading_bind, passing_bind, since_bind]
  simp only [reading, enumType, map_bind]
  rfl

theorem reading_scalarType (about : Option String) (start : Span) :
    reading (scalarType about start) = do
      let name ← reading name
      let directives ← passing directives
      return ⟨about, name, directives, ← since start⟩ := by
  funext cursor
  simp only [reading_bind, passing_bind, since_bind]
  simp only [reading, scalarType, map_bind]
  rfl

theorem reading_unionType (about : Option String) (start : Span) :
    reading (unionType about start) = do
      let name ← reading name
      let directives ← passing directives
      let members ← passing members
      return ⟨about, name, directives, members, ← since start⟩ := by
  funext cursor
  simp only [reading_bind, passing_bind, since_bind]
  simp only [reading, unionType, map_bind]
  rfl

theorem reading_directiveType (about : Option String) (start : Span) :
    reading (directiveType about start) = do
      let _ ← reading (punct .atSign (.punct .atSign))
      let name ← reading name
      let arguments ← passing parameters
      let repeatable ← passing fun cursor => .ok (cursor.skipWord "repeatable")
      let _ ← reading (locationsWord name)
      let locations ← reading (separatedNames .pipe)
      return ⟨about, name, arguments, repeatable, locations, ← since start⟩ := by
  funext cursor
  simp only [reading_bind, passing_bind, since_bind]
  simp only [reading, directiveType, map_bind]
  rfl

theorem reading_schemaRoots (start : Span) :
    reading (schemaRoots start) = do
      let directives ← passing directives
      let _ ← reading (punct .braceOpen (.punct .braceOpen))
      let operations ← reading (many .braceClose operation)
      return ⟨directives, operations, ← since start⟩ := by
  funext cursor
  simp only [reading_bind, passing_bind, since_bind]
  simp only [reading, schemaRoots, map_bind]
  rfl

theorem reading_extension (start : Span) :
    reading (extension none start) = (do
      let _ ← nameWhere (fun word => word = "type") .unsupportedExtension
      reading (objectType none start)) := by
  funext cursor
  simp only [nameWhere_bind]
  simp only [reading, extension, Option.isSome_none, Bool.false_eq_true, if_false, map_bind,
    decide_eq_true_eq]
  refine congrArg (name cursor >>= ·) (funext fun what => ?_)
  split
  · cases objectType none start what.next with
    | error error => rfl
    | ok type => rfl
  · rfl

/-- Whether a word begins a definition. -/
def isKeyword (word : String) : Bool :=
  ["type", "interface", "input", "enum", "scalar", "union", "directive", "schema",
    "extend"].contains word

theorem definitionBehind_of_not_isKeyword {word : String} (other : isKeyword word = false)
    (about : Option String) (start : Span) (cursor : Cursor) :
    definitionBehind word about start cursor = .error ⟨.unknownDefinition word, cursor.last⟩ := by
  unfold definitionBehind
  split
  case h_10 => rfl
  all_goals cases other

theorem reading_definition :
    reading definition = (do
      let start ← here
      let about ← passing fun cursor => .ok cursor.description
      let keyword ← nameWhere isKeyword .unknownDefinition
      reading (definitionBehind keyword about start)) := by
  funext cursor
  simp only [here_bind, nameWhere_bind, passing_bind]
  simp only [reading, definition, map_bind, ok_bind]
  refine congrArg (cursor.description.next.name >>= ·) (funext fun found => ?_)
  cases isWord : isKeyword found.value with
  | true =>
      simp only [if_true]
      cases definitionBehind found.value cursor.description.value cursor.span found.next with
      | error error => rfl
      | ok written => rfl
  | false =>
      rw [definitionBehind_of_not_isKeyword isWord]
      rfl

end Cursor

end EntityMapping.Document
