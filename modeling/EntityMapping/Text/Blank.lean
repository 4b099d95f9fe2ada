import EntityMapping.Text.Ranges

/-!
# Blank characters

The characters with the Unicode property `White_Space`, and trimming by
them.
-/

namespace EntityMapping.Text

/-- Ranges of the white space code points. -/
def blankRanges : List (Nat × Nat) :=
  [(0x09, 0x0d), (0x20, 0x20), (0x85, 0x85), (0xa0, 0xa0), (0x1680, 0x1680),
   (0x2000, 0x200a), (0x2028, 0x2029), (0x202f, 0x202f), (0x205f, 0x205f),
   (0x3000, 0x3000)]

/-- Whether a character is white space. -/
def isBlank (c : Char) : Bool :=
  inRanges blankRanges c.toNat

/-- Whether a text has no visible character. -/
def allBlank (text : List Char) : Bool :=
  text.all isBlank

/-- The text without the white space at its end. -/
def trimEnd (text : List Char) : List Char :=
  (text.reverse.dropWhile isBlank).reverse

theorem allBlank_nil : allBlank [] = true := rfl

end EntityMapping.Text
