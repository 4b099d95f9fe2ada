import EntityMapping.Document.Token
import EntityMapping.Document.NumberLiteral
import EntityMapping.Document.StringLiteral
import EntityMapping.Document.BlockString

/-!
# The first piece of a text

What stands at the front of a text that does not begin with something
ignorable: the longest token, or a piece that is no token.  Main statement: the
characters of the piece and the rest are the text, so nothing is lost.
-/

namespace EntityMapping.Document

/-- Whether a name can begin with a character. -/
def isNameStart (c : Char) : Bool :=
  c = '_' || ('A' ≤ c && c ≤ 'Z') || ('a' ≤ c && c ≤ 'z')

/-- Whether a name can go on with a character. -/
def isNameChar (c : Char) : Bool :=
  isNameStart c || isDigit c

/-- The first characters of a text, with the token that they are, if any, and the
rest of the text. -/
structure Piece where
  token : Option Token
  text : List Char
  rest : List Char

namespace Piece

/-- A single character that no token begins with. -/
def stray (c : Char) (rest : List Char) : Piece :=
  ⟨none, [c], rest⟩

/-- A name. -/
def name (c : Char) (rest : List Char) : Piece :=
  let text := c :: rest.takeWhile isNameChar
  ⟨some (.name (String.ofList text)), text, rest.dropWhile isNameChar⟩

/-- A number, or a minus sign on its own. -/
def number (c : Char) (rest : List Char) : Piece :=
  match NumberLiteral.integer? (c :: rest) with
  | none => stray c rest
  | some (literal, after) =>
      match NumberLiteral.floatSuffix? after with
      | none => ⟨(NumberLiteral.intValue? literal).map .int, literal, after⟩
      | some (suffix, after) =>
          let text := literal ++ suffix
          ⟨some (.float (NumberLiteral.floatValue text)), text, after⟩

/-- A quoted string; one that is not closed is no token. -/
def string (rest : List Char) : Piece :=
  let extent := StringLiteral.extent rest
  let token :=
    match extent.closed with
    | true => (StringLiteral.decode? extent.body).map fun value => .string (String.ofList value)
    | false => none
  ⟨token, '"' :: extent.text, extent.rest⟩

/-- A block string; without closing quotes, its opening quotes are no token. -/
def blockString (rest : List Char) : Piece :=
  match BlockString.extent? rest with
  | none => ⟨none, ['"', '"', '"'], rest⟩
  | some (raw, after) =>
      ⟨some (.blockString (String.ofList (BlockString.value (BlockString.unescape raw)))),
       ['"', '"', '"'] ++ raw ++ ['"', '"', '"'], after⟩

/-- Three points, or a point on its own. -/
def points : List Char → Piece
  | '.' :: '.' :: rest => ⟨some (.punct .spread), ['.', '.', '.'], rest⟩
  | rest => stray '.' rest

/-- Either kind of string. -/
def quoted : List Char → Piece
  | '"' :: '"' :: rest => blockString rest
  | rest => string rest

/-- A punctuator of one character. -/
def punctuation (c : Char) (rest : List Char) : Piece :=
  ⟨(Punctuator.ofChar? c).map .punct, [c], rest⟩

/-- The first piece of a text with the given first character. -/
def first (c : Char) (rest : List Char) : Piece :=
  if isNameStart c then name c rest
  else if isDigit c || c = '-' then number c rest
  else if c = '"' then quoted rest
  else if c = '.' then points rest
  else punctuation c rest

theorem name_append (c : Char) (rest : List Char) :
    (name c rest).text ++ (name c rest).rest = c :: rest := by
  simp [name]

theorem number_append (c : Char) (rest : List Char) :
    (number c rest).text ++ (number c rest).rest = c :: rest := by
  unfold number
  split
  · rfl
  · rename_i literal after isInteger
    have whole := (NumberLiteral.append_of_integer? isInteger).1
    split
    · exact whole
    · rename_i suffix last isSuffix
      have tail := NumberLiteral.append_of_floatSuffix? isSuffix
      simp only [List.append_assoc, tail, whole]

theorem string_append (rest : List Char) :
    (string rest).text ++ (string rest).rest = '"' :: rest := by
  simp [string, StringLiteral.text_append_rest]

theorem blockString_append (rest : List Char) :
    (blockString rest).text ++ (blockString rest).rest = '"' :: '"' :: '"' :: rest := by
  unfold blockString
  split
  · rfl
  · rename_i raw after found
    simpa using BlockString.append_of_extent? found

theorem points_append (rest : List Char) :
    (points rest).text ++ (points rest).rest = '.' :: rest := by
  unfold points
  split <;> rfl

theorem quoted_append (rest : List Char) :
    (quoted rest).text ++ (quoted rest).rest = '"' :: rest := by
  unfold quoted
  split
  · exact blockString_append _
  · exact string_append _

/-- The first piece and the rest are the text. -/
theorem first_append (c : Char) (rest : List Char) :
    (first c rest).text ++ (first c rest).rest = c :: rest := by
  unfold first
  split
  · exact name_append c rest
  · split
    · exact number_append c rest
    · split
      · rename_i isQuote
        subst isQuote
        exact quoted_append rest
      · split
        · rename_i isPoint
          subst isPoint
          exact points_append rest
        · rfl

theorem number_text_ne_nil (c : Char) (rest : List Char) : (number c rest).text ≠ [] := by
  unfold number
  split
  · simp [stray]
  · rename_i literal after isInteger
    have nonempty := (NumberLiteral.append_of_integer? isInteger).2
    split
    · exact nonempty
    · simp [nonempty]

/-- The first piece is not empty. -/
theorem first_text_ne_nil (c : Char) (rest : List Char) : (first c rest).text ≠ [] := by
  unfold first
  split
  · simp [name]
  · split
    · exact number_text_ne_nil c rest
    · split
      · unfold quoted
        split
        · unfold blockString
          split <;> simp
        · simp [string]
      · split
        · unfold points
          split <;> simp [stray]
        · simp [punctuation]

theorem length_first_rest_lt (c : Char) (rest : List Char) :
    (first c rest).rest.length < (c :: rest).length := by
  have whole := congrArg List.length (first_append c rest)
  have nonempty := List.length_pos_iff.mpr (first_text_ne_nil c rest)
  simp only [List.length_append] at whole
  omega

end Piece

end EntityMapping.Document
