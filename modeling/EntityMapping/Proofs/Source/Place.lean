import EntityMapping.Source.Excerpt

/-!
# Places in a text

A place in a text is on a line of it, behind whole lines.  Main statements: counting line
feeds and cutting the text into lines agree about which line this is, whatever the line
endings are, and a complaint about the place quotes this line.
-/

namespace EntityMapping.Source

open EntityMapping.Text

/-- What can stand behind a line: nothing, or a line feed with the carriage return that
belongs to it. -/
inductive EndsLine : List Char → List Char → Prop where
  | atEnd (line : List Char) : EndsLine line []
  | feed {line : List Char} (noReturn : line.getLast? ≠ some '\r') (more : List Char) :
      EndsLine line ('\n' :: more)
  | returnFeed (line more : List Char) : EndsLine line ('\r' :: '\n' :: more)

/-- Whole lines, given without their line feeds. -/
def wholeLines (rows : List (List Char)) : List Char :=
  rows.flatMap (· ++ ['\n'])

/-- A place in a text: the lines above, the line of the place in front of it and from it
on, and what stands behind the line. -/
structure Place where
  above : List (List Char)
  left : List Char
  right : List Char
  below : List Char
  feedless_above : ∀ row ∈ above, '\n' ∉ row
  feedless : '\n' ∉ left ++ right
  ends : EndsLine (left ++ right) below

namespace Place

/-- The text in front of a place. -/
def front (place : Place) : List Char :=
  wholeLines place.above ++ place.left

/-- The text from a place on. -/
def back (place : Place) : List Char :=
  place.right ++ place.below

/-- The number of the line of a place, counted from one. -/
def line (place : Place) : Nat :=
  place.above.length + 1

end Place

/-! ## Lines -/

/-- A character in front of a text belongs to its first line. -/
theorem lines_cons {c : Char} {text line : List Char} {more : List (List Char)}
    (notFeed : c ≠ '\n') (apart : c = '\r' → text.head? ≠ some '\n')
    (isText : lines text = line :: more) : lines (c :: text) = (c :: line) :: more := by
  rw [lines, isText]
  · exact notFeed
  · rintro rest rfl rfl
    exact apart rfl rfl

theorem lines_append {front text line : List Char} {more : List (List Char)}
    (feedless : '\n' ∉ front) (apart : front.getLast? = some '\r' → text.head? ≠ some '\n')
    (isText : lines text = line :: more) : lines (front ++ text) = (front ++ line) :: more := by
  induction front with
  | nil => exact isText
  | cons c front ih =>
      have notFeed : c ≠ '\n' := (List.ne_of_not_mem_cons feedless).symm
      have feedlessFront := List.not_mem_of_not_mem_cons feedless
      cases front with
      | nil => exact lines_cons notFeed (fun same => apart (congrArg some same)) isText
      | cons second front =>
          have isFront := ih feedlessFront (by simpa using apart)
          refine lines_cons notFeed (fun _ same => ?_) isFront
          cases same
          exact feedlessFront List.mem_cons_self

/-- A text without line feeds is a single line. -/
theorem lines_of_feedless {text : List Char} (feedless : '\n' ∉ text) (visible : text ≠ []) :
    lines text = [text] := by
  induction text with
  | nil => exact absurd rfl visible
  | cons c rest ih =>
      have notFeed : c ≠ '\n' := (List.ne_of_not_mem_cons feedless).symm
      cases rest with
      | nil =>
          rw [lines]
          · rfl
          · exact notFeed
          · intro rest _ same
            cases same
      | cons second rest =>
          have feedlessRest := List.not_mem_of_not_mem_cons feedless
          refine lines_cons notFeed (fun _ same => ?_) (ih feedlessRest (List.cons_ne_nil _ _))
          cases same
          exact feedlessRest List.mem_cons_self

/-- A line is cut off together with its ending. -/
theorem exists_lines {line below : List Char} (feedless : '\n' ∉ line)
    (ends : EndsLine line below) (visible : line ++ below ≠ []) :
    ∃ more, lines (line ++ below) = line :: more := by
  cases ends with
  | atEnd =>
      rw [List.append_nil] at visible ⊢
      exact ⟨[], lines_of_feedless feedless visible⟩
  | feed noReturn more =>
      have isBelow : lines ('\n' :: more) = [] :: lines more := rfl
      have isLine := lines_append feedless (fun isReturn => absurd isReturn noReturn) isBelow
      rw [List.append_nil] at isLine
      exact ⟨_, isLine⟩
  | returnFeed more =>
      have isBelow : lines ('\r' :: '\n' :: more) = [] :: lines more := rfl
      have noFeed : ('\r' :: '\n' :: more).head? ≠ some '\n' := by simp
      have isLine := lines_append feedless (fun _ => noFeed) isBelow
      rw [List.append_nil] at isLine
      exact ⟨_, isLine⟩

/-- A whole line without the carriage return that belongs to its line feed. -/
def withoutReturn (row : List Char) : List Char :=
  if row.getLast? = some '\r' then row.dropLast else row

/-- A whole line is one line, whatever its ending. -/
theorem lines_row {row : List Char} (feedless : '\n' ∉ row) (text : List Char) :
    lines (row ++ '\n' :: text) = withoutReturn row :: lines text := by
  by_cases isReturn : row.getLast? = some '\r'
  · rw [withoutReturn, if_pos isReturn]
    obtain ⟨line, rfl⟩ := List.getLast?_eq_some_iff.mp isReturn
    have feedlessLine : '\n' ∉ line := fun member => feedless (List.mem_append_left _ member)
    have isBelow : lines ('\r' :: '\n' :: text) = [] :: lines text := rfl
    have noFeed : ('\r' :: '\n' :: text).head? ≠ some '\n' := by simp
    have isLine := lines_append feedlessLine (fun _ => noFeed) isBelow
    rw [List.append_assoc, List.singleton_append, isLine, List.append_nil, List.dropLast_concat]
  · rw [withoutReturn, if_neg isReturn]
    have isBelow : lines ('\n' :: text) = [] :: lines text := rfl
    have isLine := lines_append feedless (fun same => absurd same isReturn) isBelow
    rw [isLine, List.append_nil]

/-- Whole lines are cut off one by one. -/
theorem lines_wholeLines_append {rows : List (List Char)} (feedless : ∀ row ∈ rows, '\n' ∉ row)
    (text : List Char) :
    lines (wholeLines rows ++ text) = rows.map withoutReturn ++ lines text := by
  induction rows with
  | nil => rfl
  | cons row rows ih =>
      obtain ⟨feedlessRow, feedlessRows⟩ := List.forall_mem_cons.mp feedless
      have apart : wholeLines (row :: rows) ++ text = row ++ '\n' :: (wholeLines rows ++ text) := by
        simp [wholeLines]
      rw [apart, lines_row feedlessRow, ih feedlessRows, List.map_cons, List.cons_append]

/-! ## Positions -/

namespace Position

theorem foldl_after_feedless {line : List Char} (feedless : '\n' ∉ line) (position : Position) :
    line.foldl after position = ⟨position.line, position.column + line.length⟩ := by
  induction line generalizing position with
  | nil => rfl
  | cons c line ih =>
      have notFeed : c ≠ '\n' := (List.ne_of_not_mem_cons feedless).symm
      rw [List.foldl_cons, ih (List.not_mem_of_not_mem_cons feedless), after, if_neg notFeed,
        List.length_cons, Nat.add_assoc, Nat.add_comm 1]

theorem foldl_after_wholeLines {rows : List (List Char)} (feedless : ∀ row ∈ rows, '\n' ∉ row)
    (number : Nat) :
    (wholeLines rows).foldl after ⟨number, 1⟩ = ⟨number + rows.length, 1⟩ := by
  induction rows generalizing number with
  | nil => rfl
  | cons row rows ih =>
      obtain ⟨feedlessRow, feedlessRows⟩ := List.forall_mem_cons.mp feedless
      have apart : wholeLines (row :: rows) = row ++ '\n' :: wholeLines rows := by
        simp [wholeLines]
      rw [apart, List.foldl_append, foldl_after_feedless feedlessRow, List.foldl_cons, after,
        if_pos rfl, ih feedlessRows, List.length_cons, Nat.add_assoc, Nat.add_comm rows.length]

end Position

namespace Place

/-- Behind the text in front of a place one is on its line, behind what stands to its
left. -/
theorem behind_front (place : Place) :
    Position.behind place.front = ⟨place.line, place.left.length + 1⟩ := by
  have feedlessLeft : '\n' ∉ place.left := fun member =>
    place.feedless (List.mem_append_left _ member)
  rw [Position.behind, front, List.foldl_append, Position.origin,
    Position.foldl_after_wholeLines place.feedless_above,
    Position.foldl_after_feedless feedlessLeft, line, Nat.add_comm 1, Nat.add_comm 1]

/-- The line of a place is the one that its number counts, unless nothing is on it. -/
theorem getElem?_lines (place : Place) (visible : place.left ++ place.right ≠ []) :
    (lines (place.front ++ place.back))[place.line - 1]? = some (place.left ++ place.right) := by
  have whole : place.front ++ place.back =
      wholeLines place.above ++ (place.left ++ place.right ++ place.below) := by
    simp [front, back]
  have visibleLine : place.left ++ place.right ++ place.below ≠ [] := by
    simp only [ne_eq, List.append_eq_nil_iff] at visible ⊢
    exact fun empty => visible empty.1
  obtain ⟨more, isLine⟩ := exists_lines place.feedless place.ends visibleLine
  have isNumber : place.line - 1 = (place.above.map withoutReturn).length := by
    rw [List.length_map, line, Nat.add_sub_cancel]
  rw [whole, lines_wholeLines_append place.feedless_above, isLine, isNumber,
    List.getElem?_append_right (Nat.le_refl _), Nat.sub_self, List.getElem?_cons_zero]

end Place

/-! ## Finding a place -/

theorem exists_wholeLines (text : List Char) :
    ∃ rows left, (∀ row ∈ rows, '\n' ∉ row) ∧ '\n' ∉ left ∧ text = wholeLines rows ++ left := by
  induction text with
  | nil => exact ⟨[], [], List.forall_mem_nil _, List.not_mem_nil, rfl⟩
  | cons c text ih =>
      obtain ⟨rows, left, feedlessRows, feedlessLeft, rfl⟩ := ih
      by_cases isFeed : c = '\n'
      · subst isFeed
        exact ⟨[] :: rows, left, List.forall_mem_cons.mpr ⟨List.not_mem_nil, feedlessRows⟩,
          feedlessLeft, rfl⟩
      · have longer : ∀ line : List Char, '\n' ∉ line → '\n' ∉ c :: line :=
          fun line feedless => List.not_mem_cons_of_ne_of_not_mem (Ne.symm isFeed) feedless
        cases rows with
        | nil => exact ⟨[], c :: left, feedlessRows, longer left feedlessLeft, rfl⟩
        | cons row rows =>
            obtain ⟨feedlessRow, feedlessRows⟩ := List.forall_mem_cons.mp feedlessRows
            exact ⟨(c :: row) :: rows, left,
              List.forall_mem_cons.mpr ⟨longer row feedlessRow, feedlessRows⟩, feedlessLeft, rfl⟩

/-- A line goes on up to the next ending. -/
theorem exists_right {left : List Char} (text : List Char) (feedless : '\n' ∉ left)
    (apart : left.getLast? = some '\r' → text.head? ≠ some '\n') :
    ∃ right below, text = right ++ below ∧ '\n' ∉ left ++ right ∧
      EndsLine (left ++ right) below := by
  induction text generalizing left with
  | nil =>
      refine ⟨[], [], rfl, ?_, .atEnd _⟩
      rw [List.append_nil]
      exact feedless
  | cons c text ih =>
      by_cases isFeed : c = '\n'
      · subst isFeed
        refine ⟨[], '\n' :: text, rfl, ?_, .feed ?_ text⟩
        · rw [List.append_nil]
          exact feedless
        · rw [List.append_nil]
          exact fun isReturn => apart isReturn rfl
      · by_cases isEnding : c = '\r' ∧ text.head? = some '\n'
        · obtain ⟨rfl, begins⟩ := isEnding
          obtain ⟨more, rfl⟩ := List.head?_eq_some_iff.mp begins
          refine ⟨[], '\r' :: '\n' :: more, rfl, ?_, .returnFeed _ more⟩
          rw [List.append_nil]
          exact feedless
        · have feedlessLonger : '\n' ∉ left ++ [c] := by
            simpa [feedless] using Ne.symm isFeed
          have apartLonger : (left ++ [c]).getLast? = some '\r' → text.head? ≠ some '\n' := by
            rw [List.getLast?_concat]
            exact fun same begins => isEnding ⟨Option.some.inj same, begins⟩
          obtain ⟨right, below, rfl, feedlessLine, ends⟩ := ih feedlessLonger apartLonger
          rw [List.append_assoc, List.singleton_append] at feedlessLine ends
          exact ⟨c :: right, below, rfl, feedlessLine, ends⟩

/-- A character that belongs to no line ending stands on the line of the place in front of
it. -/
theorem Place.right_ne_nil {place : Place} {c : Char} {text : List Char}
    (isBack : place.back = c :: text) (notFeed : c ≠ '\n') (notReturn : c ≠ '\r') :
    place.right ≠ [] := by
  intro atEnding
  have isBelow : place.below = c :: text := by
    rw [back, atEnding, List.nil_append] at isBack
    exact isBack
  have ends := place.ends
  rw [isBelow] at ends
  cases ends with
  | feed noReturn more => exact notFeed rfl
  | returnFeed more => exact notReturn rfl

theorem getLast?_wholeLines (rows : List (List Char)) :
    ∀ last ∈ (wholeLines rows).getLast?, last = '\n' := by
  intro last isLast
  rcases List.eq_nil_or_concat rows with rfl | ⟨front, row, rfl⟩
  · cases isLast
  · have ending : wholeLines (front.concat row) = wholeLines front ++ row ++ ['\n'] := by
      simp [wholeLines]
    rw [ending, List.getLast?_concat] at isLast
    exact (Option.some.inj isLast).symm

/-- A character other than a line feed stands on the line of the place behind it. -/
theorem Place.left_ne_nil {place : Place} {text : List Char} {last : Char}
    (isFront : place.front = text ++ [last]) (notFeed : last ≠ '\n') : place.left ≠ [] := by
  intro atStart
  rw [front, atStart, List.append_nil] at isFront
  refine notFeed (getLast?_wholeLines place.above last ?_)
  rw [isFront]
  exact List.getLast?_concat

/-- Everywhere in a text is a place, but between a carriage return and its line feed. -/
theorem exists_place {before behind : List Char}
    (apart : before.getLast? = some '\r' → behind.head? ≠ some '\n') :
    ∃ place : Place, place.front = before ∧ place.back = behind := by
  obtain ⟨rows, left, feedlessRows, feedlessLeft, rfl⟩ := exists_wholeLines before
  have apartLeft : left.getLast? = some '\r' → behind.head? ≠ some '\n' := by
    intro isReturn
    refine apart ?_
    rw [List.getLast?_append, isReturn, Option.some_or]
  obtain ⟨right, below, rfl, feedless, ends⟩ := exists_right behind feedlessLeft apartLeft
  exact ⟨⟨rows, left, right, below, feedlessRows, feedless, ends⟩, rfl, rfl⟩

/-! ## Quoting the line of a place -/

namespace Complaint

/-- What stands in front of a quoted line. -/
def gutter (line : Nat) : String :=
  lineLabel line ++ "| "

/-- How many characters of a row stand in front of its first caret. -/
def caretIndex (row : String) : Nat :=
  row.toList.idxOf '^'

/-- Line numbers of up to three digits are filled up to the same width. -/
theorem length_gutter_eq_iff (line : Nat) : (gutter line).length = 5 ↔ line < 1000 := by
  have digits : (toString line).length ≤ 3 ↔ line < 10 ^ 3 := by
    have isDecimal : (toString line).toList = Nat.toDigits 10 line := Nat.toList_repr
    rw [← String.length_toList, isDecimal]
    exact Nat.length_toDigits_le_iff (by decide) (by decide)
  have width : (gutter line).length =
      3 - (toString line).length + (toString line).length + "| ".length := by
    simp [gutter, lineLabel, Nat.add_assoc]
  have margin : "| ".length = 2 := rfl
  omega

theorem caretIndex_marker (span : Span) (line : List Char) (left : Nat) :
    caretIndex ("   | " ++ marker span line (left + 1)) = 5 + left := by
  have spaces : '^' ∉ "   | ".toList ++ List.replicate left ' ' := by
    simp [List.mem_replicate]
  have apart : ("   | " ++ marker span line (left + 1)).toList =
      ("   | ".toList ++ List.replicate left ' ') ++
        '^' :: List.replicate (markerWidth span line (left + 1) - 1) '~' := by
    simp [marker]
  rw [caretIndex, apart, List.idxOf_append, if_neg spaces, List.idxOf_cons_self,
    List.length_append, List.length_replicate, Nat.zero_add]
  rfl

/-- The rows that quote the line of a place. -/
theorem snippet_at {span : Span} (place : Place) (visible : place.left ++ place.right ≠ [])
    (starts : span.start = byteWidth place.front) :
    snippet (place.front ++ place.back) span =
      ["   |", gutter place.line ++ String.ofList (place.left ++ place.right),
        "   | " ++ marker span (place.left ++ place.right) (place.left.length + 1)] := by
  have position : Position.ofOffset (place.front ++ place.back) span.start =
      ⟨place.line, place.left.length + 1⟩ := by
    rw [starts, Position.ofOffset_byteWidth, place.behind_front]
  rw [snippet, position, place.getElem?_lines visible]
  rfl

/-- All rows of a complaint about a place. -/
theorem rows_at {complaint : Complaint} (place : Place)
    (visible : place.left ++ place.right ≠ [])
    (starts : complaint.span.start = byteWidth place.front) :
    complaint.rows (place.front ++ place.back) =
      ["error: " ++ complaint.message,
       "  --> line " ++ toString place.line ++ ":" ++ toString (place.left.length + 1)] ++
      ["   |", gutter place.line ++ String.ofList (place.left ++ place.right),
        "   | " ++ marker complaint.span (place.left ++ place.right) (place.left.length + 1)] ++
      (complaint.hint.map ("   = hint: " ++ ·)).toList := by
  rw [rows, snippet_at place visible starts, starts, Position.ofOffset_byteWidth,
    place.behind_front]

/-- Rows in the middle of a text of rows. -/
theorem join_rows (front back : List String) (first second third : String) :
    String.join ((front ++ [first, second, third] ++ back).map (· ++ "\n")) =
      String.join (front.map (· ++ "\n")) ++ first ++ "\n" ++ second ++ "\n" ++ third ++ "\n" ++
        String.join (back.map (· ++ "\n")) := by
  simp [String.append_assoc]

/-- A rendered text quotes the line of a place, and in the row below so many characters
stand in front of the caret. -/
def Quotes (rendered : String) (place : Place) (caret : Nat) : Prop :=
  ∃ opening marked closing, rendered =
      opening ++ "   |" ++ "\n" ++
        (gutter place.line ++ String.ofList (place.left ++ place.right)) ++ "\n" ++
        marked ++ "\n" ++ closing ∧
    caretIndex marked = caret

/-- How many characters of the quoted row stand in front of a place. -/
def quotedIndex (place : Place) : Nat :=
  (gutter place.line).length + place.left.length

/-- A complaint about a place quotes its line, with the caret behind five characters and as
many as stand on the line in front of the place. -/
theorem render_quotes {source : String} {complaint : Complaint} (place : Place)
    (visible : place.left ++ place.right ≠ []) (isText : source.toList = place.front ++ place.back)
    (starts : complaint.span.start = byteWidth place.front) :
    Quotes (complaint.render source) place (5 + place.left.length) := by
  let quoted := gutter place.line ++ String.ofList (place.left ++ place.right)
  let marked := "   | " ++
    marker complaint.span (place.left ++ place.right) (place.left.length + 1)
  obtain ⟨front, back, areRows⟩ : ∃ front back,
      complaint.rows (place.front ++ place.back) = front ++ ["   |", quoted, marked] ++ back :=
    ⟨_, _, rows_at place visible starts⟩
  refine ⟨String.join (front.map (· ++ "\n")), marked, String.join (back.map (· ++ "\n")), ?_,
    caretIndex_marker _ _ _⟩
  rw [render, isText, areRows, join_rows]

/-- The caret stands under the place as long as the number of the line fits its margin. -/
theorem caret_eq_quotedIndex_iff (place : Place) :
    5 + place.left.length = quotedIndex place ↔ place.line < 1000 := by
  rw [← length_gutter_eq_iff, quotedIndex]
  omega

end Complaint

end EntityMapping.Source
