import EntityMapping.Proofs.Source.Place

/-!
# Underlined spans

The marker below a quoted line begins under the first character of the span, and is cut off at
the end of the line.  Its length is counted in bytes of the span, but its place in characters
of the line.  Main statement: the marker covers every character of the span on this line, and
no others just if each character of the span takes a single byte, or the span reaches the end
of the line anyway.
-/

namespace EntityMapping.Text

/-- The characters of a text in front of its first line ending. -/
def firstLine : List Char → List Char
  | [] => []
  | '\n' :: _ => []
  | '\r' :: '\n' :: _ => []
  | c :: rest => c :: firstLine rest

/-- A character in front of a text belongs to its first line. -/
theorem firstLine_cons {c : Char} {rest : List Char} (notFeed : c ≠ '\n')
    (apart : c = '\r' → rest.head? ≠ some '\n') : firstLine (c :: rest) = c :: firstLine rest := by
  rw [firstLine]
  · exact notFeed
  · rintro others rfl rfl
    exact apart rfl rfl

theorem firstLine_append {front rest : List Char} (feedless : '\n' ∉ front)
    (apart : front.getLast? = some '\r' → rest.head? ≠ some '\n') :
    firstLine (front ++ rest) = front ++ firstLine rest := by
  induction front with
  | nil => rfl
  | cons c front ih =>
      have notFeed : c ≠ '\n' := (List.ne_of_not_mem_cons feedless).symm
      have feedlessFront := List.not_mem_of_not_mem_cons feedless
      cases front with
      | nil => exact firstLine_cons notFeed fun same => apart (congrArg some same)
      | cons second front =>
          have isFront := ih feedlessFront (by simpa using apart)
          have apartFront : c = '\r' → (second :: front ++ rest).head? ≠ some '\n' := by
            intro _ same
            cases same
            exact feedlessFront List.mem_cons_self
          rw [List.cons_append, firstLine_cons notFeed apartFront, isFront]
          rfl

theorem length_le_byteWidth (text : List Char) : text.length ≤ byteWidth text := by
  induction text with
  | nil => exact Nat.le_refl 0
  | cons c rest ih =>
      have := c.utf8Size_pos
      rw [List.length_cons, byteWidth]
      omega

end EntityMapping.Text

namespace EntityMapping.Source

open EntityMapping.Text

/-- The characters of a part of a text that stand on the line on which it begins, when the
given text follows it. -/
def onFirstLine (part behind : List Char) : List Char :=
  part.take (firstLine (part ++ behind)).length

theorem EndsLine.apart {left right below : List Char} (ends : EndsLine (left ++ right) below) :
    right.getLast? = some '\r' → below.head? ≠ some '\n' := by
  intro isReturn
  cases ends with
  | atEnd => simp
  | feed noReturn more =>
      refine absurd ?_ noReturn
      rw [List.getLast?_append, isReturn, Option.some_or]
  | returnFeed more => simp

theorem EndsLine.firstLine_eq_nil {line below : List Char} (ends : EndsLine line below) :
    firstLine below = [] := by
  cases ends with
  | atEnd => rfl
  | feed noReturn more => rfl
  | returnFeed more => rfl

/-- What is to the right of a place is the first line of the text behind it. -/
theorem Place.firstLine_back (place : Place) : firstLine place.back = place.right := by
  have feedless : '\n' ∉ place.right := fun member =>
    place.feedless (List.mem_append_right _ member)
  rw [back, firstLine_append feedless place.ends.apart, place.ends.firstLine_eq_nil,
    List.append_nil]

namespace Complaint

/-- From a place on its line, the marker has a character for each byte of the span, up to the
end of the line. -/
theorem markerWidth_at {span : Span} (place : Place) (nonempty : 1 ≤ span.length)
    (onLine : place.right ≠ []) :
    markerWidth span (place.left ++ place.right) (place.left.length + 1) =
      min span.length place.right.length := by
  have visible := List.length_pos_iff.mpr onLine
  rw [markerWidth, List.length_append]
  omega

/-- A row with a marker below the given column: spaces in front of it, then a caret and as
many tildes as make up the given width. -/
def markerRow (column width : Nat) : String :=
  "   | " ++ (String.ofList (List.replicate (column - 1) ' ') ++ "^" ++
    String.ofList (List.replicate (width - 1) '~'))

/-- The fifth row of a complaint about a place is that of its marker. -/
theorem render_marker {source : String} {complaint : Complaint} (place : Place)
    (isText : source.toList = place.front ++ place.back)
    (starts : complaint.span.start = byteWidth place.front)
    (nonempty : 1 ≤ complaint.span.length) (onLine : place.right ≠ []) :
    ∃ above below, above.length = 4 ∧
      complaint.render source =
        String.join ((above ++ [markerRow (place.left.length + 1)
          (min complaint.span.length place.right.length)] ++ below).map (· ++ "\n")) := by
  have visible : place.left ++ place.right ≠ [] := by simp [onLine]
  refine ⟨["error: " ++ complaint.message,
    "  --> line " ++ toString place.line ++ ":" ++ toString (place.left.length + 1), "   |",
    gutter place.line ++ String.ofList (place.left ++ place.right)],
    (complaint.hint.map ("   = hint: " ++ ·)).toList, rfl, ?_⟩
  rw [render, isText, rows_at place visible starts, ← markerWidth_at place nonempty onLine]
  rfl

/-- How far the marker of a part of a text reaches: as many characters as the part takes bytes,
but not beyond the line on which it begins. -/
def reach (part behind : List Char) : Nat :=
  min (byteWidth part) (firstLine (part ++ behind)).length

theorem length_onFirstLine (part behind : List Char) :
    (onFirstLine part behind).length = min part.length (firstLine (part ++ behind)).length := by
  rw [onFirstLine, List.length_take, Nat.min_comm]

/-- The marker of a span that begins with a visible character is below this character, and is
one row of the rendered complaint. It has a character for each byte of the span up to the end
of the line, so it covers all characters of the span there; and it covers just these if all
characters of the span take one byte, or the span reaches the end of the line, and otherwise
more. -/
theorem marker_covers {source : String} {complaint : Complaint} {before tail behind : List Char}
    {c : Char} (isText : source.toList = before ++ (c :: tail ++ behind))
    (isSpan : complaint.span = ⟨byteWidth before, byteWidth (before ++ c :: tail)⟩)
    (notFeed : c ≠ '\n') (notReturn : c = '\r' → (tail ++ behind).head? ≠ some '\n') :
    (∃ above below, above.length = 4 ∧
      complaint.render source = String.join ((above ++
        [markerRow (Position.ofOffset source.toList complaint.span.start).column
          (reach (c :: tail) behind)] ++ below).map (· ++ "\n"))) ∧
    1 ≤ (onFirstLine (c :: tail) behind).length ∧
    (onFirstLine (c :: tail) behind).length ≤ reach (c :: tail) behind ∧
    (reach (c :: tail) behind = (onFirstLine (c :: tail) behind).length ↔
      byteWidth (c :: tail) = (c :: tail).length ∨
        (firstLine (c :: tail ++ behind)).length ≤ (c :: tail).length) := by
  obtain ⟨place, rfl, isBack⟩ : ∃ place : Place, place.front = before ∧
      place.back = c :: tail ++ behind :=
    exists_place fun _ same => notFeed (Option.some.inj same)
  have isRight : firstLine (c :: tail ++ behind) = place.right := by
    rw [← isBack, place.firstLine_back]
  have onLine : 1 ≤ (firstLine (c :: tail ++ behind)).length := by
    rw [List.cons_append, firstLine_cons notFeed notReturn]
    exact Nat.le_add_left 1 _
  have wide := length_le_byteWidth (c :: tail)
  have some : 1 ≤ (c :: tail).length := Nat.le_add_left 1 _
  have isLength : complaint.span.length = byteWidth (c :: tail) := by
    rw [isSpan, Span.length, byteWidth_append, Nat.add_sub_cancel_left]
  have isColumn : (Position.ofOffset source.toList complaint.span.start).column =
      place.left.length + 1 := by
    rw [isText, isSpan, Position.ofOffset_byteWidth, place.behind_front]
  refine ⟨?_, ?_, ?_, ?_⟩
  · rw [isColumn, reach, isRight, ← isLength]
    refine render_marker place (isBack ▸ isText) (congrArg Span.start isSpan) ?_ ?_
    · omega
    · rw [← isRight]
      exact List.length_pos_iff.mp onLine
  · rw [length_onFirstLine]
    omega
  · rw [length_onFirstLine, reach]
    omega
  · rw [length_onFirstLine, reach]
    omega

/-- A span over the end of a line, behind a character of two bytes and beginning with one of
three: the line ends before its bytes do. -/
theorem marker_over_lines : ∃ above below, above.length = 4 ∧
    render "é€ß\r\nb" ⟨"unknown", ⟨2, 10⟩, none⟩ =
      String.join ((above ++ ["   |  ^~"] ++ below).map (· ++ "\n")) ∧
    onFirstLine ['€', 'ß', '\r', '\n', 'b'] [] = ['€', 'ß'] := by
  have isText : "é€ß\r\nb".toList = ['é'] ++ ('€' :: ['ß', '\r', '\n', 'b'] ++ []) := by
    decide
  have covers := @marker_covers _ ⟨"unknown", ⟨2, 10⟩, none⟩ _ _ _ _ isText (by decide)
    (by decide) (by decide)
  obtain ⟨⟨above, below, four, rendered⟩, -, -, -⟩ := covers
  have isColumn : (Position.ofOffset "é€ß\r\nb".toList 2).column = 2 := by decide
  have isReach : reach ['€', 'ß', '\r', '\n', 'b'] [] = 2 := by decide
  rw [isColumn, isReach] at rendered
  exact ⟨above, below, four, rendered, by decide⟩

/-- One character of two bytes is underlined together with the character behind it. -/
theorem marker_beyond_span :
    render "é b" ⟨"unknown", ⟨0, 2⟩, none⟩ =
      "error: unknown\n  --> line 1:1\n   |\n  1| é b\n   | ^~\n" ∧
    onFirstLine ['é'] [' ', 'b'] = ['é'] := by
  decide

end Complaint

end EntityMapping.Source
