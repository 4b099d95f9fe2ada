import EntityMapping.Text.Lines
import EntityMapping.Text.Blank

/-!
# Block strings

A block string runs from three quotes to the next three that no backslash
precedes.  Its value drops the indentation that all lines but the first have in
common, and the blank lines at both ends.
-/

namespace EntityMapping.Document.BlockString

open EntityMapping.Text

/-- The raw text up to the closing quotes, and what follows them. -/
def extent? : List Char → Option (List Char × List Char)
  | [] => none
  | '\\' :: '"' :: '"' :: '"' :: rest =>
      (extent? rest).map fun (raw, after) => ('\\' :: '"' :: '"' :: '"' :: raw, after)
  | '"' :: '"' :: '"' :: rest => some ([], rest)
  | c :: rest => (extent? rest).map fun (raw, after) => (c :: raw, after)

/-- The text in which three quotes no longer carry a backslash. -/
def unescape : List Char → List Char
  | [] => []
  | '\\' :: '"' :: '"' :: '"' :: rest => '"' :: '"' :: '"' :: unescape rest
  | c :: rest => c :: unescape rest

/-- Whether a character can indent a line. -/
def isIndent (c : Char) : Bool :=
  c = ' ' || c = '\t'

/-- How far a line is indented. -/
def indentation (line : List Char) : Nat :=
  (line.takeWhile isIndent).length

/-- The least indentation of the lines that are not blank. -/
def commonIndentation (lines : List (List Char)) : Nat :=
  (((lines.filter fun line => !allBlank line).map indentation).min?).getD 0

/-- A line without at most `width` indenting characters. -/
def dropIndentation (width : Nat) (line : List Char) : List Char :=
  line.drop ((line.take width).takeWhile isIndent).length

/-- The lines without their common indentation; the first line has none. -/
def dedent : List (List Char) → List (List Char)
  | [] => []
  | first :: rest => first :: rest.map (dropIndentation (commonIndentation rest))

/-- The lines from the first to the last that is not blank. -/
def trimLines (lines : List (List Char)) : List (List Char) :=
  ((lines.dropWhile allBlank).reverse.dropWhile allBlank).reverse

/-- The lines with a line feed between each two. -/
def joinLines (lines : List (List Char)) : List Char :=
  ['\n'].intercalate lines

/-- The value of a raw text. -/
def value (raw : List Char) : List Char :=
  joinLines (trimLines (dedent (lines raw)))

theorem append_of_extent? {text raw after : List Char}
    (found : extent? text = some (raw, after)) : raw ++ '"' :: '"' :: '"' :: after = text := by
  induction text using extent?.induct generalizing raw after with
  | case1 => simp [extent?] at found
  | case2 rest ih =>
      simp only [extent?, Option.map_eq_some_iff, Prod.mk.injEq] at found
      obtain ⟨⟨inner, last⟩, within, rfl, rfl⟩ := found
      simp [ih within]
  | case3 rest =>
      simp only [extent?, Option.some.injEq, Prod.mk.injEq] at found
      obtain ⟨rfl, rfl⟩ := found
      rfl
  | case4 c rest notEscape notClosing ih =>
      rw [extent?] at found
      · simp only [Option.map_eq_some_iff, Prod.mk.injEq] at found
        obtain ⟨⟨inner, last⟩, within, rfl, rfl⟩ := found
        simp [ih within]
      · exact notEscape
      · exact notClosing

end EntityMapping.Document.BlockString
