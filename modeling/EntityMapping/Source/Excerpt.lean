import EntityMapping.Source.Span
import EntityMapping.Source.Position
import EntityMapping.Text.Lines

/-!
# Excerpts

A complaint about a place in a source text, shown with the line it is about
and a marker under the characters it covers.
-/

namespace EntityMapping.Source

open EntityMapping.Text

/-- What is shown to the reader: a message, a place and possibly advice. -/
structure Complaint where
  message : String
  span : Span
  hint : Option String

namespace Complaint

/-- A number, filled up with spaces on the left to three characters. -/
def lineLabel (line : Nat) : String :=
  let digits := toString line
  String.ofList (List.replicate (3 - digits.length) ' ') ++ digits

/-- How many marker characters stand under a line: one for each byte of the
span, at least one, and none beyond the end of the line. -/
def markerWidth (span : Span) (line : List Char) (column : Nat) : Nat :=
  min (max 1 span.length) (max 1 (line.length - (column - 1)))

/-- The marker: spaces up to the column, a caret and tildes. -/
def marker (span : Span) (line : List Char) (column : Nat) : String :=
  String.ofList (List.replicate (column - 1) ' ') ++ "^" ++
    String.ofList (List.replicate (markerWidth span line column - 1) '~')

/-- The three rows that quote the line a position is on, if there is such a line. -/
def snippet (source : List Char) (span : Span) : List String :=
  let position := Position.ofOffset source span.start
  match (lines source)[position.line - 1]? with
  | none => []
  | some line =>
      ["   |",
       lineLabel position.line ++ "| " ++ String.ofList line,
       "   | " ++ marker span line position.column]

/-- All rows of the rendered complaint. -/
def rows (source : List Char) (complaint : Complaint) : List String :=
  let position := Position.ofOffset source complaint.span.start
  ["error: " ++ complaint.message,
   "  --> line " ++ toString position.line ++ ":" ++ toString position.column] ++
  snippet source complaint.span ++
  (complaint.hint.map ("   = hint: " ++ ·)).toList

/-- The rendered complaint; every row ends with a line feed. -/
def render (source : String) (complaint : Complaint) : String :=
  String.join ((complaint.rows source.toList).map (· ++ "\n"))

end Complaint

end EntityMapping.Source
