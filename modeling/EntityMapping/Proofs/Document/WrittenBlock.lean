import EntityMapping.Proofs.Document.Cutting
import EntityMapping.Proofs.Document.Indentation

/-!
# Ways to write a block string

A text can be written on lines of its own, each behind the same margin, with a backslash in
front of three quotes.  Scanning for the closing quotes and taking the backslashes away both
undo the same escapes, since no three quotes are left without one; what is then left is cut
into lines again, the margin is what they have in common, and only the empty first line is
blank at an end.  Main statement: the block string is the single token of the text, whatever
the margin.
-/

namespace EntityMapping.Document

open EntityMapping.Source
open EntityMapping.Text

namespace BlockString

/-! ## Writing lines -/

/-- The text in which three quotes, from left to right, carry a backslash. -/
def escape : List Char → List Char
  | [] => []
  | '"' :: '"' :: '"' :: rest => '\\' :: '"' :: '"' :: '"' :: escape rest
  | c :: rest => c :: escape rest

/-- The lines of a text behind a margin. -/
def indent (margin text : List Char) : List Char :=
  joinLines ((text.splitOn '\n').map (margin ++ ·))

/-- Lines of which neither the first nor the last is blank, and one with something visible on
it begins with no indentation. -/
structure IsFlush (rows : List (List Char)) : Prop where
  first : ∀ row ∈ rows.head?, allBlank row = false
  last : ∀ row ∈ rows.getLast?, allBlank row = false
  flush : ∃ row ∈ rows, allBlank row = false ∧ ∀ c ∈ row.head?, isIndent c = false

/-! ## Quotes -/

section Quotes

variable {text more behind : List Char}

/-- Where an escaped text begins with a quote, so does the text, but not with three. -/
theorem exists_of_escape_eq (apart : more.head? ≠ some '"')
    (begins : escape text ++ more = '"' :: behind) :
    ∃ rest, text = '"' :: rest ∧ escape rest ++ more = behind ∧ ¬ ['"', '"'] <+: rest := by
  unfold escape at begins
  split at begins
  · rw [List.nil_append] at begins
    exact absurd (congrArg List.head? begins) apart
  · exact absurd (List.cons.inj begins).1 (by decide)
  · rename_i c rest notThree
    obtain ⟨rfl, behindQuote⟩ := List.cons.inj begins
    refine ⟨rest, rfl, behindQuote, ?_⟩
    rintro ⟨others, rfl⟩
    exact notThree others rfl rfl

theorem two_quotes_of_escape_eq (apart : more.head? ≠ some '"')
    (begins : escape text ++ more = '"' :: '"' :: behind) : ['"', '"'] <+: text := by
  obtain ⟨rest, rfl, second, -⟩ := exists_of_escape_eq apart begins
  obtain ⟨others, rfl, -, -⟩ := exists_of_escape_eq apart second
  exact ⟨others, rfl⟩

theorem escape_ne_three_quotes (apart : more.head? ≠ some '"') :
    escape text ++ more ≠ '"' :: '"' :: '"' :: behind := by
  intro begins
  obtain ⟨rest, rfl, second, notTwo⟩ := exists_of_escape_eq apart begins
  exact notTwo (two_quotes_of_escape_eq apart second)

/-- An escaped text does not close its block string. -/
theorem extent?_escape (text : List Char) (apart : more.head? ≠ some '"') :
    extent? (escape text ++ more) =
      (extent? more).map fun (raw, after) => (escape text ++ raw, after) := by
  induction text using escape.induct with
  | case1 => simp [escape]
  | case2 rest ih =>
      simp only [escape, List.cons_append]
      rw [extent?, ih, Option.map_map]
      rfl
  | case3 c rest notThree ih =>
      rw [escape, List.cons_append, extent?, ih, Option.map_map]
      · rfl
      · exact fun others _ begins => escape_ne_three_quotes apart begins
      · intro others isQuote begins
        obtain ⟨last, isRest⟩ := two_quotes_of_escape_eq apart begins
        exact notThree last isQuote isRest.symm
      · exact notThree

theorem unescape_escape (text : List Char) (apart : more.head? ≠ some '"') :
    unescape (escape text ++ more) = text ++ unescape more := by
  induction text using escape.induct with
  | case1 => rfl
  | case2 rest ih =>
      simp only [escape, List.cons_append]
      rw [unescape, ih]
  | case3 c rest notThree ih =>
      rw [escape, List.cons_append, unescape, ih, List.cons_append]
      · exact fun others _ begins => escape_ne_three_quotes apart begins
      · exact notThree

end Quotes

/-! ## Lines -/

section Lines

variable {rows : List (List Char)}

/-- Lines without carriage returns are cut where they have been put together. -/
theorem lines_wholeLines (feedless : ∀ row ∈ rows, '\n' ∉ row)
    (noReturn : ∀ row ∈ rows, '\r' ∉ row) : lines (wholeLines rows) = rows := by
  have areLines := lines_wholeLines_append feedless []
  have unchanged : ∀ row ∈ rows, withoutReturn row = row := fun row member =>
    if_neg fun isReturn => noReturn row member (List.mem_of_getLast? isReturn)
  rw [List.append_nil, List.map_congr_left unchanged, List.map_id', lines, List.append_nil]
    at areLines
  exact areLines

theorem joinLines_concat (rows : List (List Char)) (last : List Char) :
    joinLines (rows ++ [last]) = wholeLines rows ++ last := by
  induction rows with
  | nil => exact List.intercalate_singleton
  | cons row rows ih =>
      have others : rows ++ [last] ≠ [] := by simp
      rw [joinLines] at ih ⊢
      rw [List.cons_append, List.intercalate_cons_of_ne_nil others, ih]
      simp [wholeLines]

theorem joinLines_feed (some : rows ≠ []) : joinLines rows ++ ['\n'] = wholeLines rows := by
  rcases List.eq_nil_or_concat rows with rfl | ⟨front, last, rfl⟩
  · exact absurd rfl some
  · rw [List.concat_eq_append, joinLines_concat]
    simp [wholeLines]

/-- The pieces between line feeds hold none. -/
theorem feedless_splitOn (text : List Char) : ∀ row ∈ text.splitOn '\n', '\n' ∉ row := by
  obtain ⟨rows, left, feedless, feedlessLeft, rfl⟩ := exists_wholeLines text
  have feedlessAll : ∀ row ∈ rows ++ [left], '\n' ∉ row := by
    intro row member
    rcases List.mem_append.mp member with inRows | isLeft
    · exact feedless row inRows
    · rw [List.mem_singleton.mp isLeft]
      exact feedlessLeft
  have isJoined := List.splitOn_intercalate '\n' feedlessAll (by simp)
  change (joinLines _).splitOn '\n' = _ at isJoined
  rw [joinLines_concat] at isJoined
  rw [isJoined]
  exact feedlessAll

theorem joinLines_splitOn (text : List Char) : joinLines (text.splitOn '\n') = text :=
  List.intercalate_splitOn '\n'

theorem noReturn_splitOn {text : List Char} (noReturn : '\r' ∉ text) :
    ∀ row ∈ text.splitOn '\n', '\r' ∉ row := by
  intro row member inRow
  have inLines : '\r' ∈ wholeLines (text.splitOn '\n') :=
    List.mem_flatMap.mpr ⟨row, member, List.mem_append_left _ inRow⟩
  rw [← joinLines_feed (List.splitOn_ne_nil '\n' text), joinLines_splitOn] at inLines
  rcases List.mem_append.mp inLines with inText | isFeed
  · exact noReturn inText
  · exact absurd (List.mem_singleton.mp isFeed) (by decide)

end Lines

/-! ## Margins -/

section Margin

variable {margin : List Char} {rows : List (List Char)}

theorem dedent_margin (isMargin : ∀ c ∈ margin, isIndent c = true) (isFlush : IsFlush rows) :
    dedent ([] :: rows.map (margin ++ ·)) = [] :: rows := by
  rw [dedent, commonIndentation_margin isMargin isFlush.flush, List.map_map]
  congr 1
  exact List.map_id'' (dropIndentation_margin isMargin) rows

/-- Only the empty line in front of them is taken away from lines that are not blank at the
ends. -/
theorem trimLines_of_isFlush (isFlush : IsFlush rows) : trimLines ([] :: rows) = rows := by
  have keepsAll : ∀ {lines : List (List Char)}, (∀ row ∈ lines.head?, allBlank row = false) →
      lines.dropWhile allBlank = lines := by
    intro lines visible
    cases lines with
    | nil => rfl
    | cons row lines => rw [List.dropWhile_cons_of_neg (by simp [visible row rfl])]
  have visibleLast : ∀ row ∈ rows.reverse.head?, allBlank row = false := by
    rw [List.head?_reverse]
    exact isFlush.last
  rw [trimLines, List.dropWhile_cons_of_pos allBlank_nil, keepsAll isFlush.first,
    keepsAll visibleLast, List.reverse_reverse]

end Margin

/-! ## The value -/

section Value

variable {margin text : List Char}

/-- The value of lines behind a margin is the text that they have been made from. -/
theorem value_indent (isMargin : ∀ c ∈ margin, isIndent c = true) (noReturn : '\r' ∉ text)
    (isFlush : IsFlush (text.splitOn '\n')) :
    value ('\n' :: (indent margin text ++ ['\n'])) = text := by
  have someRows : (text.splitOn '\n').map (margin ++ ·) ≠ [] :=
    fun none => List.splitOn_ne_nil '\n' text (List.map_eq_nil_iff.mp none)
  have areLines : lines (wholeLines ((text.splitOn '\n').map (margin ++ ·))) =
      (text.splitOn '\n').map (margin ++ ·) :=
    lines_wholeLines (not_mem_margin_row isMargin (by decide) (feedless_splitOn text))
      (not_mem_margin_row isMargin (by decide) (noReturn_splitOn noReturn))
  rw [indent, joinLines_feed someRows, value, lines, areLines, dedent_margin isMargin isFlush,
    trimLines_of_isFlush isFlush, joinLines_splitOn]

/-- What stands between the quotes of a text that is written as a block string: its lines
behind a margin, on lines of their own. -/
def written (margin text : List Char) : List Char :=
  '\n' :: (escape (indent margin text) ++ ['\n'])

theorem extent?_written (margin text : List Char) :
    extent? (written margin text ++ ['"', '"', '"']) = some (written margin text, []) := by
  have closes : (written margin text ++ ['"', '"', '"']) =
      '\n' :: (escape (indent margin text) ++ ['\n', '"', '"', '"']) := by
    simp [written]
  have isLast : extent? ['\n', '"', '"', '"'] = some (['\n'], []) := rfl
  rw [closes, extent?, extent?_escape _ (by decide), isLast]
  · rfl
  · exact fun _ isBackslash => absurd isBackslash (by decide)
  · exact fun _ isQuote => absurd isQuote (by decide)

theorem unescape_written (margin text : List Char) :
    unescape (written margin text) = '\n' :: (indent margin text ++ ['\n']) := by
  rw [written, unescape, unescape_escape _ (by decide)]
  · rfl
  · exact fun _ isBackslash => absurd isBackslash (by decide)

end Value

end BlockString

/-! ## The token -/

/-- The text as a block string, with its lines behind a margin. -/
def blockText (margin : List Char) (text : String) : String :=
  String.ofList (['"', '"', '"'] ++ BlockString.written margin text.toList ++ ['"', '"', '"'])

/-- A text is read back from its block string, whatever the margin, if neither its first nor
its last line is blank and a line of it begins with no indentation; it is all that the block
string holds. -/
theorem lexemes_blockText {margin : List Char} {text : String}
    (isMargin : ∀ c ∈ margin, BlockString.isIndent c = true) (noReturn : '\r' ∉ text.toList)
    (isFlush : BlockString.IsFlush (text.toList.splitOn '\n')) :
    lexemes (blockText margin text) =
      .ok [⟨.blockString text, ⟨0, (blockText margin text).utf8ByteSize⟩⟩] := by
  let tail := '"' :: '"' :: (BlockString.written margin text.toList ++ ['"', '"', '"'])
  have isFirst : Piece.first '"' (tail ++ []) = ⟨some (.blockString text), '"' :: tail, []⟩ := by
    have isQuoted : Piece.first '"' (tail ++ []) = Piece.blockString
        (BlockString.written margin text.toList ++ ['"', '"', '"']) := by
      rw [List.append_nil]
      rfl
    rw [isQuoted, Piece.blockString, BlockString.extent?_written]
    simp only [BlockString.unescape_written,
      BlockString.value_indent isMargin noReturn isFlush, String.ofList_toList]
    rfl
  have noGap : splitIgnored false ('"' :: tail) = ([], '"' :: (tail ++ [])) := by
    rw [List.append_nil]
    rfl
  have isText : (blockText margin text).toList = '"' :: tail := by
    rw [blockText, String.toList_ofList]
    rfl
  rw [lexemes_eq_ok_iff, ← byteWidth_toList, isText]
  exact .cons noGap isFirst rfl (Nat.zero_add _).symm (.nil rfl)

/-- Four quotes in a row, quotes behind a backslash, an empty line, and an indented first
line. -/
def quotedLines : String :=
  " \"\"\"\"\n\n\\\"\"\" é\""

theorem quotedLines_isFlush : BlockString.IsFlush (quotedLines.toList.splitOn '\n') where
  first := by decide
  last := by decide
  flush := by
    refine ⟨['\\', '"', '"', '"', ' ', 'é', '"'], by decide, by decide, ?_⟩
    intro c isFirst
    cases isFirst
    decide

theorem lexemes_quotedLines :
    lexemes "\"\"\"\n\t  \\\"\"\"\"\n\t \n\t \\\\\"\"\" é\"\n\"\"\"" =
      .ok [⟨.blockString quotedLines, ⟨0, 31⟩⟩] := by
  have text : blockText ['\t', ' '] quotedLines =
      "\"\"\"\n\t  \\\"\"\"\"\n\t \n\t \\\\\"\"\" é\"\n\"\"\"" := by decide
  have isMargin : ∀ c ∈ ['\t', ' '], BlockString.isIndent c = true :=
    List.all_eq_true.mp (by decide)
  have read := lexemes_blockText isMargin (by decide) quotedLines_isFlush
  rw [text] at read
  exact read

end EntityMapping.Document
