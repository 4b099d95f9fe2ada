/-!
# Ignorable text

Between tokens there may be spaces, line endings, commas, byte order marks and
comments.  A comment runs up to the end of its line.
-/

namespace EntityMapping.Document

/-- Whether a character is ignorable outside comments. -/
def isIgnored (c : Char) : Bool :=
  c = ' ' || c = '\t' || c = '\r' || c = '\n' || c = '\x0c' || c = ',' || c = '\ufeff'

/-- Whether a character ends a comment. -/
def endsLine (c : Char) : Bool :=
  c = '\r' || c = '\n'

/-- The ignorable characters at the front of a text, and the rest.  The flag says
whether the text begins inside a comment. -/
def splitIgnored : Bool → List Char → List Char × List Char
  | _, [] => ([], [])
  | true, c :: rest =>
      let (gap, after) := splitIgnored (!endsLine c) rest
      (c :: gap, after)
  | false, c :: rest =>
      if isIgnored c || c = '#' then
        let (gap, after) := splitIgnored (c = '#') rest
        (c :: gap, after)
      else ([], c :: rest)

/-- The ignorable characters and the rest are the text. -/
theorem splitIgnored_append (comment : Bool) (text : List Char) :
    (splitIgnored comment text).1 ++ (splitIgnored comment text).2 = text := by
  induction text generalizing comment with
  | nil => cases comment <;> rfl
  | cons c rest ih =>
      cases comment with
      | true => simp [splitIgnored, ih]
      | false =>
          simp only [splitIgnored]
          split
          · simp [ih]
          · rfl

theorem length_splitIgnored_le (comment : Bool) (text : List Char) :
    (splitIgnored comment text).2.length ≤ text.length := by
  have whole := congrArg List.length (splitIgnored_append comment text)
  simp only [List.length_append] at whole
  omega

end EntityMapping.Document
