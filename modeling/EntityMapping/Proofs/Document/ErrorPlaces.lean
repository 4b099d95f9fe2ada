import Mathlib
import EntityMapping.Proofs.Document.GuidedDefinitions
import EntityMapping.Proofs.Document.TokenEnds
import EntityMapping.Proofs.Source.Place

/-!
# Errors shown in their text

A text is refused at one of its items or at the end of its last lexeme.  Either way there is
a line to show, with a character of it at the place or directly in front of it.
-/

namespace EntityMapping.Document

open EntityMapping.Source
open EntityMapping.Text

/-! ## Places of errors -/

theorem exists_item_of_lexemesOf_error {items : List Item} {error : SyntaxError}
    (failed : lexemesOf items = .error error) : ∃ item ∈ items, item.span = error.span := by
  induction items with
  | nil => cases failed
  | cons item items ih =>
      cases item with
      | stray text span =>
          cases failed
          exact ⟨.stray text span, List.mem_cons_self, rfl⟩
      | lexeme content =>
          rw [lexemesOf] at failed
          cases isBehind : lexemesOf items with
          | ok found =>
              rw [isBehind] at failed
              cases failed
          | error fault =>
              rw [isBehind] at failed
              cases failed
              obtain ⟨item, member, same⟩ := ih isBehind
              exact ⟨item, List.mem_cons_of_mem _ member, same⟩

theorem mem_of_lexemesOf {items : List Item} {found : List Lexeme}
    (cut : lexemesOf items = .ok found) : ∀ lexeme ∈ found, Item.lexeme lexeme ∈ items := by
  induction items generalizing found with
  | nil =>
      cases cut
      exact List.forall_mem_nil _
  | cons item items ih =>
      cases item with
      | stray text span => cases cut
      | lexeme content =>
          obtain ⟨others, isBehind, rfl⟩ := map_eq_ok_iff.mp cut
          refine List.forall_mem_cons.mpr ⟨List.mem_cons_self, fun lexeme member => ?_⟩
          exact List.mem_cons_of_mem _ (ih isBehind lexeme member)

/-- A text is refused at one of its items, or at the end of its last lexeme. -/
theorem refused_at_item_or_end {source : String} {error : SyntaxError}
    (failed : read source = .error error) :
    (∃ item ∈ items source, item.span = error.span) ∨
      ∃ found lexeme, lexemes source = .ok (found ++ [lexeme]) ∧
        error.span = lexeme.span.endPoint := by
  rcases bind_eq_error_iff.mp failed with failed | ⟨found, cut, failed⟩
  · exact Or.inl (exists_item_of_lexemesOf_error failed)
  · cases Cursor.definitions_blames failed with
    | atEnd ends begins place =>
        rcases List.eq_nil_or_concat found with rfl | ⟨others, lexeme, rfl⟩
        · rw [ofLexemes, Cursor.definitions_eq_nil rfl] at failed
          cases failed
        · rw [List.concat_eq_append] at cut place
          refine Or.inr ⟨others, lexeme, cut, ?_⟩
          rw [place]
          exact congrArg Span.endPoint (by simp [lastSpan, Cursor.ofLexemes])
    | within inside kept first others behind split place reach begins same =>
        have member : first ∈ found := by
          have isFound : found = kept ++ first :: (others ++ behind) := split
          simp [isFound]
        exact Or.inl ⟨.lexeme first, mem_of_lexemesOf cut first member, place.symm⟩

/-- An item starts at a place of its text, with a character of the line. -/
theorem exists_place_of_item {source : String} {item : Item} (member : item ∈ items source) :
    ∃ (place : Place) (part behind : List Char),
      source.toList = place.front ++ place.back ∧ place.back = part ++ behind ∧
      place.right ≠ [] ∧
      item.span = ⟨byteWidth place.front, byteWidth (place.front ++ part)⟩ := by
  obtain ⟨before, c, tail, behind, isText, notGap, isSpan⟩ :=
    exists_head_of_mem_itemsFrom item member
  have notFeed : c ≠ '\n' := fun same => by rw [same] at notGap; cases notGap
  have notReturn : c ≠ '\r' := fun same => by rw [same] at notGap; cases notGap
  obtain ⟨place, rfl, isBack⟩ : ∃ place : Place, place.front = before ∧
      place.back = c :: tail ++ behind :=
    exists_place fun _ same => notFeed (Option.some.inj same)
  refine ⟨place, c :: tail, behind, isBack ▸ isText, isBack,
    Place.right_ne_nil isBack notFeed notReturn, ?_⟩
  rw [isSpan, Nat.zero_add, Nat.zero_add]

/-- The last lexeme ends at a place of its text, behind a character of the line. -/
theorem exists_place_of_end {source : String} {found : List Lexeme} {lexeme : Lexeme}
    (cut : lexemes source = .ok (found ++ [lexeme])) :
    ∃ place : Place, source.toList = place.front ++ place.back ∧ place.left ≠ [] ∧
      lexeme.span.stop = byteWidth place.front := by
  obtain ⟨before, last, behind, isText, notGap, stops⟩ := (lexemes_eq_ok_iff.mp cut).exists_last
  have notFeed : last ≠ '\n' := fun same => by rw [same] at notGap; cases notGap
  have notReturn : last ≠ '\r' := fun same => by rw [same] at notGap; cases notGap
  obtain ⟨place, isFront, rfl⟩ : ∃ place : Place, place.front = before ++ [last] ∧
      place.back = behind :=
    exists_place fun same _ => notReturn (Option.some.inj (List.getLast?_concat.symm.trans same))
  refine ⟨place, isFront ▸ isText, Place.left_ne_nil isFront notFeed, ?_⟩
  rw [stops, isFront, Nat.zero_add]

/-! ## Showing errors -/

/-- Every error is shown in its text.  Its span covers whole characters of the text, and is
that of an item or the end of the last lexeme; the rendered error quotes the line on which
the span starts, with the caret under the first character of the item or directly behind
the last lexeme, unless the number of the line has more than three digits. -/
theorem error_shown_in_text {source : String} {error : SyntaxError}
    (failed : read source = .error error) :
    ∃ (place : Place) (part behind : List Char),
      source.toList = place.front ++ place.back ∧ place.back = part ++ behind ∧
      error.span = ⟨byteWidth place.front, byteWidth (place.front ++ part)⟩ ∧
      ((place.right ≠ [] ∧ ∃ item ∈ items source, item.span = error.span) ∨
        (place.left ≠ [] ∧ ∃ found lexeme, lexemes source = .ok (found ++ [lexeme]) ∧
          error.span = lexeme.span.endPoint)) ∧
      Complaint.Quotes (error.render source) place (5 + place.left.length) ∧
      (5 + place.left.length = Complaint.quotedIndex place ↔ place.line < 1000) := by
  rcases refused_at_item_or_end failed with ⟨item, member, isSpan⟩ | ⟨found, lexeme, cut, isSpan⟩
  · obtain ⟨place, part, behind, isText, isBack, onLine, itemSpan⟩ := exists_place_of_item member
    have span := isSpan.symm.trans itemSpan
    have visible : place.left ++ place.right ≠ [] := by simp [onLine]
    exact ⟨place, part, behind, isText, isBack, span, Or.inl ⟨onLine, item, member, isSpan⟩,
      Complaint.render_quotes place visible isText (congrArg Span.start span),
      Complaint.caret_eq_quotedIndex_iff place⟩
  · obtain ⟨place, isText, onLine, stops⟩ := exists_place_of_end cut
    have span : error.span = ⟨byteWidth place.front, byteWidth (place.front ++ [])⟩ := by
      rw [isSpan, Span.endPoint, stops, List.append_nil]
    have visible : place.left ++ place.right ≠ [] := by simp [onLine]
    exact ⟨place, [], place.back, isText, rfl, span, Or.inr ⟨onLine, found, lexeme, cut, isSpan⟩,
      Complaint.render_quotes place visible isText (congrArg Span.start span),
      Complaint.caret_eq_quotedIndex_iff place⟩

/-- A block string over two lines, at the end of a text that lacks a name behind it. -/
theorem openBody_shown :
    ∃ (error : SyntaxError) (place : Place) (part behind : List Char),
      read "type A \x7b\r\n  \"\"\"é\r\nü\"\"\"" = .error error ∧
      error.span = ⟨24, 24⟩ ∧
      "type A \x7b\r\n  \"\"\"é\r\nü\"\"\"".toList = place.front ++ place.back ∧
      place.back = part ++ behind ∧
      error.span = ⟨byteWidth place.front, byteWidth (place.front ++ part)⟩ ∧
      ((place.right ≠ [] ∧ ∃ item ∈ items "type A \x7b\r\n  \"\"\"é\r\nü\"\"\"",
          item.span = error.span) ∨
        (place.left ≠ [] ∧ ∃ found lexeme,
          lexemes "type A \x7b\r\n  \"\"\"é\r\nü\"\"\"" = .ok (found ++ [lexeme]) ∧
          error.span = lexeme.span.endPoint)) ∧
      Complaint.Quotes (error.render "type A \x7b\r\n  \"\"\"é\r\nü\"\"\"") place
        (5 + place.left.length) ∧
      (5 + place.left.length = Complaint.quotedIndex place ↔ place.line < 1000) := by
  have failed : read "type A \x7b\r\n  \"\"\"é\r\nü\"\"\"" =
      .error ⟨.unexpected .name none, ⟨24, 24⟩⟩ := by
    cbv
  obtain ⟨place, part, behind, shown⟩ := error_shown_in_text failed
  exact ⟨_, place, part, behind, failed, rfl, shown⟩

/-! ## Lines beyond the margin -/

/-- A mark that is no token, on a line behind many empty ones. -/
def deepMark (above : Nat) : String :=
  String.ofList (List.replicate above '\n' ++ ['?'])

theorem feeds_mem_gapText (count : Nat) : List.replicate count '\n' ∈ gapText := by
  induction count with
  | zero => exact nil_mem_gapText
  | succ count ih => exact append_mem_gapText (ignored_mem_gapText rfl) ih

theorem wholeLines_replicate (count : Nat) :
    wholeLines (List.replicate count []) = List.replicate count '\n' := by
  induction count with
  | zero => rfl
  | succ count ih => exact congrArg ('\n' :: ·) ih

theorem byteWidth_feeds (count : Nat) : byteWidth (List.replicate count '\n') = count :=
  (byteWidth_replicate count '\n').trans (Nat.mul_one count)

/-- What it is refused for. -/
def deepError (above : Nat) : SyntaxError :=
  ⟨.noToken "?", ⟨above, above + 1⟩⟩

theorem read_deepMark (above : Nat) : read (deepMark above) = .error (deepError above) := by
  have split : splitIgnored false (List.replicate above '\n' ++ ['?']) =
      (List.replicate above '\n', ['?']) := by
    rw [splitIgnored_gapText (feeds_mem_gapText above)]
    exact Prod.ext (List.append_nil _) rfl
  have cut : lexemes (deepMark above) = .error (deepError above) := by
    rw [lexemes, items, deepMark, String.toList_ofList, itemsFrom_eq_cons split, byteWidth_feeds,
      Nat.zero_add]
    rfl
  rw [read, cut]
  rfl

/-- The place of the mark. -/
def deepPlace (above : Nat) : Place where
  above := List.replicate above []
  left := []
  right := ['?']
  below := []
  feedless_above := fun row member => by
    rw [List.eq_of_mem_replicate member]
    exact List.not_mem_nil
  feedless := by decide
  ends := .atEnd _

theorem rows_deepMark (above : Nat) :
    (deepError above).complaint.rows (deepMark above).toList =
      ["error: unexpected character sequence `?`",
       "  --> line " ++ toString (above + 1) ++ ":" ++ "1",
       "   |", Complaint.gutter (above + 1) ++ "?", "   | ^"] := by
  have front : (deepPlace above).front = List.replicate above '\n' :=
    (List.append_nil _).trans (wholeLines_replicate above)
  have isText : (deepMark above).toList = (deepPlace above).front ++ (deepPlace above).back := by
    rw [front, deepMark, String.toList_ofList]
    rfl
  have line : (deepPlace above).line = above + 1 :=
    congrArg (· + 1) List.length_replicate
  have starts : (deepError above).complaint.span.start = byteWidth (deepPlace above).front := by
    rw [front, byteWidth_feeds]
    rfl
  have visible : (deepPlace above).left ++ (deepPlace above).right ≠ [] := List.cons_ne_nil '?' []
  have isMarker : Complaint.marker (deepError above).complaint.span ['?'] 1 = "^" := by
    have single : (deepError above).complaint.span.length = 1 := Nat.add_sub_cancel_left above 1
    rw [Complaint.marker, Complaint.markerWidth, single]
    rfl
  have areRows := Complaint.rows_at (deepPlace above) visible starts
  rw [← isText, line] at areRows
  rw [areRows]
  simp only [deepPlace, List.nil_append, List.length_nil, Nat.zero_add, isMarker]
  rfl

/-- The number of the thousandth line does not fit the margin, so the caret stands one
character to the left of the one it should point to. -/
theorem caret_beside_deepMark :
    read (deepMark 999) = .error ⟨.noToken "?", ⟨999, 1000⟩⟩ ∧
    SyntaxError.render (deepMark 999) ⟨.noToken "?", ⟨999, 1000⟩⟩ =
      "error: unexpected character sequence `?`\n  --> line 1000:1\n   |\n1000| ?\n   | ^\n" ∧
    Complaint.caretIndex "   | ^" = 5 ∧ "1000| ?".toList.idxOf '?' = 6 := by
  refine ⟨read_deepMark 999, ?_, by decide, by decide⟩
  have areRows := rows_deepMark 999
  rw [deepError] at areRows
  rw [SyntaxError.render, Complaint.render, areRows]
  decide

end EntityMapping.Document
