import EntityMapping.Document.Cursor
import EntityMapping.Document.Definition

/-!
# Readers of values, types and directives

Constant values are read from their first lexeme on; only lists and objects need
to look further.
-/

namespace EntityMapping.Document.Cursor

open EntityMapping.Source

/-- The value of a word: three words are constants of their own. -/
def wordValue (word : String) : Value :=
  if word = "true" then .boolean true
  else if word = "false" then .boolean false
  else if word = "null" then .null
  else .enum word

/-- A field of an object value, for a given reader of values. -/
def entry (front : Cursor)
    (value : (cursor : Cursor) → cursor.rest.length ≤ front.rest.length → Reads Value cursor)
    (cursor : Cursor) (inside : cursor.rest.length ≤ front.rest.length) :
    Reads (String × Value) cursor := do
  let key ← name cursor
  let colon ← punct .colon (.punct .colon) key.next
  let behind := Nat.lt_trans colon.shorter key.shorter
  let content ← value colon.next (Nat.le_trans (Nat.le_of_lt behind) inside)
  return ⟨(key.value, content.value), content.next, Nat.lt_trans content.shorter behind⟩

/-- A constant value. -/
def value (cursor : Cursor) : Reads Value cursor :=
  match cursor with
  | ⟨[], last⟩ => .error ⟨.noValue, last.endPoint⟩
  | ⟨⟨.int number, span⟩ :: rest, _⟩ => .ok (.single (.int number) rest span)
  | ⟨⟨.float number, span⟩ :: rest, _⟩ => .ok (.single (.float number) rest span)
  | ⟨⟨.string text, span⟩ :: rest, _⟩ => .ok (.single (.string text) rest span)
  | ⟨⟨.blockString text, span⟩ :: rest, _⟩ => .ok (.single (.string text) rest span)
  | ⟨⟨.name word, span⟩ :: rest, _⟩ => .ok (.single (wordValue word) rest span)
  | ⟨⟨.punct .bracketOpen, span⟩ :: rest, _⟩ => do
      let items ← itemsUntil .bracketClose ⟨rest, span⟩ (fun inner _ => value inner)
        ⟨rest, span⟩ (Nat.le_refl _)
      return ⟨.list items.value, items.next, Nat.lt_succ_of_lt items.shorter⟩
  | ⟨⟨.punct .braceOpen, span⟩ :: rest, _⟩ => do
      let fields ← itemsUntil .braceClose ⟨rest, span⟩
        (entry ⟨rest, span⟩ fun inner _ => value inner) ⟨rest, span⟩ (Nat.le_refl _)
      return ⟨.object fields.value, fields.next, Nat.lt_succ_of_lt fields.shorter⟩
  | ⟨⟨.punct .dollar, span⟩ :: _, _⟩ => .error ⟨.notConstant, span⟩
  | ⟨⟨.punct other, span⟩ :: _, _⟩ => .error ⟨.notValue (.punct other), span⟩
termination_by cursor.rest.length
decreasing_by all_goals exact Nat.lt_succ_of_le ‹_›

/-- An exclamation mark behind a type. -/
def marked {before : Cursor} (inner : Reading TypeRef before) : Reading TypeRef before :=
  match inner.next.punct? .bang with
  | none => inner
  | some mark =>
      ⟨.nonNull inner.value, mark.next, Nat.lt_trans mark.shorter inner.shorter⟩

/-- A type reference. -/
def typeRef (cursor : Cursor) : Reads TypeRef cursor :=
  match cursor.punct? .bracketOpen with
  | none => (name cursor).map fun base => marked (base.map .named)
  | some opening => do
      let item ← typeRef opening.next
      let closing ← punct .bracketClose (.punct .bracketClose) item.next
      return marked ⟨.list item.value, closing.next,
        Nat.lt_trans closing.shorter (Nat.lt_trans item.shorter opening.shorter)⟩
termination_by cursor.rest.length
decreasing_by exact opening.shorter

/-- An argument of the directive of the given name. -/
def argument (directive : String) (cursor : Cursor) : Reads Argument cursor := do
  let name ← name cursor
  let colon ← punct .colon (.argumentValue directive name.value) name.next
  let value ← value colon.next
  return ⟨⟨name.value, value.value, value.next.spanSince cursor.span⟩, value.next,
    Nat.lt_trans value.shorter (Nat.lt_trans colon.shorter name.shorter)⟩

/-- The name and arguments of a directive whose sign, at the given span, has been
read. -/
def directiveBehind (start : Span) (cursor : Cursor) : Reads Directive cursor := do
  let name ← name cursor
  let arguments ← enclosed .parenOpen .parenClose (argument name.value) name.next
  return ⟨⟨name.value, arguments.value, arguments.next.spanSince start⟩, arguments.next,
    Nat.lt_of_le_of_lt arguments.notLonger name.shorter⟩

/-- All directives that come next. -/
def directives (cursor : Cursor) : Passes (List Directive) cursor :=
  match cursor.punct? .atSign with
  | none => .ok (.stay [] cursor)
  | some sign => do
      let first ← directiveBehind cursor.span sign.next
      let others ← directives first.next
      return ⟨first.value :: others.value, others.next,
        Nat.le_trans others.notLonger
          (Nat.le_of_lt (Nat.lt_trans first.shorter sign.shorter))⟩
termination_by cursor.rest.length
decreasing_by exact Nat.lt_trans first.shorter sign.shorter

end EntityMapping.Document.Cursor
