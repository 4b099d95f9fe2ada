import EntityMapping.Document.Ignored
import EntityMapping.Document.Piece
import EntityMapping.Document.SyntaxError
import EntityMapping.Text.Width

/-!
# Lexemes

A text is a sequence of pieces with ignorable text around them.  If every piece
is a token, the tokens with their spans are the lexemes of the text.
-/

namespace EntityMapping.Document

open EntityMapping.Source
open EntityMapping.Text

/-- A token and where it stands. -/
structure Lexeme where
  token : Token
  span : Span
deriving DecidableEq

/-- A piece of a text: a lexeme, or characters that are no token. -/
inductive Item where
  | lexeme (content : Lexeme)
  | stray (text : String) (span : Span)
deriving DecidableEq

namespace Item

/-- The item of a piece at the given span. -/
def ofPiece (piece : Piece) (span : Span) : Item :=
  match piece.token with
  | some token => .lexeme ⟨token, span⟩
  | none => .stray (String.ofList piece.text) span

/-- Where an item stands. -/
def span : Item → Span
  | lexeme content => content.span
  | stray _ span => span

/-- The error of characters that are no token. -/
def strayError (text : String) (span : Span) : SyntaxError :=
  ⟨.noToken text, span⟩

end Item

/-- The items of a text that begins at the given offset. -/
def itemsFrom (offset : Nat) (text : List Char) : List Item :=
  match _split : splitIgnored false text with
  | (_, []) => []
  | (gap, c :: rest) =>
      let piece := Piece.first c rest
      let start := offset + byteWidth gap
      let stop := start + byteWidth piece.text
      Item.ofPiece piece ⟨start, stop⟩ :: itemsFrom stop piece.rest
termination_by text.length
decreasing_by
  have shorter := Piece.length_first_rest_lt c rest
  have notLonger := length_splitIgnored_le false text
  rw [_split] at notLonger
  exact Nat.lt_of_lt_of_le shorter notLonger

/-- The items of a source text. -/
def items (source : String) : List Item :=
  itemsFrom 0 source.toList

/-- The lexemes of a list of items, or the error of the first that is none. -/
def lexemesOf : List Item → Except SyntaxError (List Lexeme)
  | [] => .ok []
  | .lexeme content :: rest => (lexemesOf rest).map (content :: ·)
  | .stray text span :: _ => .error (Item.strayError text span)

/-- The lexemes of a source text. -/
def lexemes (source : String) : Except SyntaxError (List Lexeme) :=
  lexemesOf (items source)

end EntityMapping.Document
