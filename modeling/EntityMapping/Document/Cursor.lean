import EntityMapping.Document.Lexeme

/-!
# Reading lexemes

A reader takes lexemes off the front of what is left of a text.  Its result
carries the proof that it consumed something, or at least gave nothing back, so
that every repetition ends.
-/

namespace EntityMapping.Document

open EntityMapping.Source

/-- What is left to read, and the span of the lexeme read last. -/
structure Cursor where
  rest : List Lexeme
  last : Span

/-- What a reader found, and the cursor behind it; at least one lexeme was read. -/
structure Reading (α : Type) (before : Cursor) where
  value : α
  next : Cursor
  shorter : next.rest.length < before.rest.length

/-- What an optional reader found, and the cursor behind it. -/
structure Passing (α : Type) (before : Cursor) where
  value : α
  next : Cursor
  notLonger : next.rest.length ≤ before.rest.length

/-- The result of a reader. -/
abbrev Reads (α : Type) (before : Cursor) : Type :=
  Except SyntaxError (Reading α before)

/-- The result of an optional reader. -/
abbrev Passes (α : Type) (before : Cursor) : Type :=
  Except SyntaxError (Passing α before)

namespace Reading

/-- The reading of a single lexeme. -/
def single {α : Type} {token : Token} {last : Span} (value : α) (rest : List Lexeme)
    (span : Span) : Reading α ⟨⟨token, span⟩ :: rest, last⟩ :=
  ⟨value, ⟨rest, span⟩, Nat.lt_succ_self _⟩

/-- The reading with another value. -/
def map {α β : Type} {before : Cursor} (f : α → β) (reading : Reading α before) :
    Reading β before :=
  ⟨f reading.value, reading.next, reading.shorter⟩

/-- A reading as the value and what is left. -/
def outcome {α : Type} {before : Cursor} (reading : Reading α before) : α × Cursor :=
  (reading.value, reading.next)

end Reading

namespace Passing

/-- The passing that reads nothing. -/
def stay {α : Type} (value : α) (cursor : Cursor) : Passing α cursor :=
  ⟨value, cursor, Nat.le_refl _⟩

/-- A passing as the value and what is left. -/
def outcome {α : Type} {before : Cursor} (passing : Passing α before) : α × Cursor :=
  (passing.value, passing.next)

end Passing

namespace Cursor

/-- The span of the next lexeme, or the place behind the last one. -/
def span (cursor : Cursor) : Span :=
  match cursor.rest with
  | [] => cursor.last.endPoint
  | lexeme :: _ => lexeme.span

/-- The next token. -/
def next? (cursor : Cursor) : Option Token :=
  cursor.rest.head?.map (·.token)

/-- From the given span up to the lexeme read last. -/
def spanSince (cursor : Cursor) (start : Span) : Span :=
  start.merge cursor.last

/-- The error that something else is wanted at the cursor. -/
def wants (cursor : Cursor) (wanted : Expectation) : SyntaxError :=
  ⟨.unexpected wanted cursor.next?, cursor.span⟩

/-- A name. -/
def name : (cursor : Cursor) → Reads String cursor
  | ⟨⟨.name value, span⟩ :: rest, _⟩ => .ok (.single value rest span)
  | cursor => .error (cursor.wants .name)

/-- A given punctuator; the expectation is what a complaint asks for. -/
def punct (wanted : Punctuator) (expectation : Expectation) :
    (cursor : Cursor) → Reads Unit cursor
  | ⟨⟨.punct found, span⟩ :: rest, last⟩ =>
      if found = wanted then .ok (.single () rest span)
      else .error (Cursor.wants ⟨⟨.punct found, span⟩ :: rest, last⟩ expectation)
  | cursor => .error (cursor.wants expectation)

/-- A given punctuator, if it comes next. -/
def punct? (wanted : Punctuator) : (cursor : Cursor) → Option (Reading Unit cursor)
  | ⟨⟨.punct found, span⟩ :: rest, _⟩ =>
      if found = wanted then some (.single () rest span) else none
  | _ => none

/-- A given word, if it comes next. -/
def word? (wanted : String) : (cursor : Cursor) → Option (Reading Unit cursor)
  | ⟨⟨.name found, span⟩ :: rest, _⟩ =>
      if found = wanted then some (.single () rest span) else none
  | _ => none

/-- A punctuator, read if it comes next. -/
def skipPunct (wanted : Punctuator) (cursor : Cursor) : Passing Bool cursor :=
  match cursor.punct? wanted with
  | some reading => ⟨true, reading.next, Nat.le_of_lt reading.shorter⟩
  | none => .stay false cursor

/-- A word, read if it comes next. -/
def skipWord (wanted : String) (cursor : Cursor) : Passing Bool cursor :=
  match cursor.word? wanted with
  | some reading => ⟨true, reading.next, Nat.le_of_lt reading.shorter⟩
  | none => .stay false cursor

/-- A description: a string of either kind. -/
def description : (cursor : Cursor) → Passing (Option String) cursor
  | ⟨⟨.string value, span⟩ :: rest, _⟩ => ⟨some value, ⟨rest, span⟩, Nat.le_succ _⟩
  | ⟨⟨.blockString value, span⟩ :: rest, _⟩ => ⟨some value, ⟨rest, span⟩, Nat.le_succ _⟩
  | cursor => .stay none cursor

/-- Items up to a closing punctuator.  The item reader only meets cursors that are
no longer than `front`, which lets a reader call itself for its items. -/
def itemsUntil {α : Type} (close : Punctuator) (front : Cursor)
    (item : (cursor : Cursor) → cursor.rest.length ≤ front.rest.length → Reads α cursor)
    (cursor : Cursor) (inside : cursor.rest.length ≤ front.rest.length) :
    Reads (List α) cursor :=
  match cursor.punct? close with
  | some closing => .ok ⟨[], closing.next, closing.shorter⟩
  | none => do
      let first ← item cursor inside
      let others ← itemsUntil close front item first.next
        (Nat.le_trans (Nat.le_of_lt first.shorter) inside)
      return ⟨first.value :: others.value, others.next,
        Nat.lt_trans others.shorter first.shorter⟩
termination_by cursor.rest.length
decreasing_by exact first.shorter

/-- Items up to a closing punctuator. -/
def many {α : Type} (close : Punctuator) (item : (cursor : Cursor) → Reads α cursor)
    (cursor : Cursor) : Reads (List α) cursor :=
  itemsUntil close cursor (fun cursor _ => item cursor) cursor (Nat.le_refl _)

/-- Items between two punctuators, if the opening one comes next. -/
def enclosed {α : Type} (opening close : Punctuator)
    (item : (cursor : Cursor) → Reads α cursor) (cursor : Cursor) :
    Passes (List α) cursor :=
  match cursor.punct? opening with
  | none => .ok (.stay [] cursor)
  | some inner => do
      let items ← many close item inner.next
      return ⟨items.value, items.next,
        Nat.le_of_lt (Nat.lt_trans items.shorter inner.shorter)⟩

/-- Further names, each behind a separator. -/
def namesBehind (separator : Punctuator) (cursor : Cursor) : Passes (List String) cursor :=
  match cursor.punct? separator with
  | none => .ok (.stay [] cursor)
  | some mark => do
      let first ← name mark.next
      let others ← namesBehind separator first.next
      return ⟨first.value :: others.value, others.next,
        Nat.le_trans others.notLonger
          (Nat.le_of_lt (Nat.lt_trans first.shorter mark.shorter))⟩
termination_by cursor.rest.length
decreasing_by exact Nat.lt_trans first.shorter mark.shorter

/-- Names with separators between them, and possibly one in front. -/
def separatedNames (separator : Punctuator) (cursor : Cursor) : Reads (List String) cursor := do
  let lead := cursor.skipPunct separator
  let first ← name lead.next
  let others ← namesBehind separator first.next
  return ⟨first.value :: others.value, others.next,
    Nat.lt_of_le_of_lt others.notLonger (Nat.lt_of_lt_of_le first.shorter lead.notLonger)⟩

end Cursor

end EntityMapping.Document
