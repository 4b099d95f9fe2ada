import EntityMapping.Text.Width

/-!
# Lines and columns

The position of a byte offset, counted from one.  Columns count characters,
and only a line feed starts a new line.
-/

namespace EntityMapping.Source

open EntityMapping.Text

/-- A line and a column, both counted from one. -/
structure Position where
  line : Nat
  column : Nat
deriving DecidableEq, Repr

namespace Position

/-- The position of the first character. -/
def origin : Position := ⟨1, 1⟩

/-- The position behind a character that stands at the given position. -/
def after (position : Position) (c : Char) : Position :=
  if c = '\n' then ⟨position.line + 1, 1⟩ else ⟨position.line, position.column + 1⟩

/-- The position behind a whole text that starts at the origin. -/
def behind (text : List Char) : Position :=
  text.foldl after origin

/-- The position of a byte offset.  An offset inside a character counts as the
next boundary, and one beyond the text as its end. -/
def ofOffset (source : List Char) (offset : Nat) : Position :=
  behind (charsBefore offset source)

theorem behind_append_singleton (text : List Char) (c : Char) :
    behind (text ++ [c]) = (behind text).after c := by
  simp [behind]

/-- At a boundary only the text before the offset counts. -/
theorem ofOffset_byteWidth (left right : List Char) :
    ofOffset (left ++ right) (byteWidth left) = behind left := by
  simp [ofOffset, charsBefore_byteWidth]

end Position

end EntityMapping.Source
