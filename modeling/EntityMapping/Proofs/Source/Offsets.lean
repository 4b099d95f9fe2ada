import EntityMapping.Source.Position
import Mathlib.Data.List.DropRight
import Mathlib.Order.Bounds.Basic

/-!
# Positions of offsets

A position is found by walking over the characters that begin before an offset.  Main
statement: at the boundaries of characters positions increase with their offsets, each counts
the line feeds in front of it and the characters behind the last of these, and any other
offset has the position of the boundary behind it.
-/

namespace EntityMapping.Text

/-- A byte offset between two characters of a text, or at one of its ends. -/
def IsBoundary (source : String) (offset : Nat) : Prop :=
  (⟨offset⟩ : String.Pos.Raw).IsValid source

theorem isBoundary_iff {source : String} {offset : Nat} :
    IsBoundary source offset ↔
      ∃ before behind, source.toList = before ++ behind ∧ offset = byteWidth before := by
  rw [IsBoundary, String.Pos.Raw.isValid_iff_exists_append]
  constructor
  · rintro ⟨before, behind, rfl, isEnd⟩
    refine ⟨before.toList, behind.toList, String.toList_append, ?_⟩
    rw [byteWidth_toList]
    exact congrArg String.Pos.Raw.byteIdx isEnd
  · rintro ⟨before, behind, isText, rfl⟩
    refine ⟨String.ofList before, String.ofList behind, ?_, ?_⟩
    · rw [← String.ofList_append, ← isText, String.ofList_toList]
    · rw [← utf8ByteSize_ofList]
      rfl

/-! ## The characters before an offset -/

theorem charsBefore_prefix (offset : Nat) (text : List Char) : charsBefore offset text <+: text := by
  induction text generalizing offset with
  | nil => exact List.prefix_rfl
  | cons c rest ih =>
      rw [charsBefore]
      split
      · exact List.nil_prefix
      · exact (List.prefix_cons_inj c).mpr (ih _)

/-- What begins before an offset reaches up to it, if the text does. -/
theorem le_byteWidth_charsBefore {offset : Nat} {text : List Char}
    (inside : offset ≤ byteWidth text) : offset ≤ byteWidth (charsBefore offset text) := by
  induction text generalizing offset with
  | nil => exact inside
  | cons c rest ih =>
      rw [byteWidth] at inside
      rw [charsBefore]
      split
      · rename_i atStart
        exact Nat.le_of_eq atStart
      · have behind := @ih (offset - c.utf8Size) (by omega)
        rw [byteWidth]
        omega

/-- Nothing behind a text that reaches up to an offset begins before it. -/
theorem charsBefore_append {offset : Nat} {before : List Char} (inside : offset ≤ byteWidth before)
    (behind : List Char) : charsBefore offset (before ++ behind) = charsBefore offset before := by
  induction before generalizing offset with
  | nil =>
      rw [Nat.le_zero.mp inside, charsBefore_zero, charsBefore_zero]
  | cons c rest ih =>
      rw [byteWidth] at inside
      rw [List.cons_append, charsBefore, charsBefore, ih (by omega)]

/-- All of a text begins before an offset behind it. -/
theorem charsBefore_of_le {offset : Nat} {text : List Char} (beyond : byteWidth text ≤ offset) :
    charsBefore offset text = text := by
  induction text generalizing offset with
  | nil => rfl
  | cons c rest ih =>
      have wide := c.utf8Size_pos
      rw [byteWidth] at beyond
      rw [charsBefore, if_neg (by omega), ih (by omega)]

/-- The characters before an offset end at the next boundary. -/
theorem isLeast_charsBefore {source : String} {offset : Nat} (inside : offset ≤ source.utf8ByteSize) :
    IsLeast {boundary | IsBoundary source boundary ∧ offset ≤ boundary}
      (byteWidth (charsBefore offset source.toList)) := by
  rw [← byteWidth_toList] at inside
  constructor
  · obtain ⟨behind, whole⟩ := charsBefore_prefix offset source.toList
    exact ⟨isBoundary_iff.mpr ⟨_, behind, whole.symm, rfl⟩, le_byteWidth_charsBefore inside⟩
  · rintro boundary ⟨isBoundary, notBefore⟩
    obtain ⟨before, behind, isText, rfl⟩ := isBoundary_iff.mp isBoundary
    obtain ⟨more, whole⟩ := charsBefore_prefix offset before
    have width := congrArg byteWidth whole
    rw [byteWidth_append] at width
    rw [isText, charsBefore_append notBefore]
    omega

end EntityMapping.Text

namespace EntityMapping.Source

open EntityMapping.Text

namespace Position

/-! ## Positions in order -/

/-- One position stands before another: on an earlier line, or further left on the same
line. -/
def Precedes (earlier later : Position) : Prop :=
  earlier.line < later.line ∨ earlier.line = later.line ∧ earlier.column < later.column

theorem Precedes.trans {first second third : Position} (earlier : first.Precedes second)
    (later : second.Precedes third) : first.Precedes third := by
  unfold Precedes at *
  omega

theorem precedes_after (position : Position) (c : Char) : position.Precedes (position.after c) := by
  unfold after
  split
  · exact Or.inl (Nat.lt_succ_self _)
  · exact Or.inr ⟨rfl, Nat.lt_succ_self _⟩

/-- A text leads on from every position. -/
theorem precedes_foldl_after (position : Position) (c : Char) (text : List Char) :
    position.Precedes ((c :: text).foldl after position) := by
  induction text generalizing position c with
  | nil => exact position.precedes_after c
  | cons second text ih =>
      exact (position.precedes_after c).trans (ih (position.after c) second)

theorem behind_append (text more : List Char) :
    behind (text ++ more) = more.foldl after (behind text) := by
  rw [behind, List.foldl_append, behind]

/-- What stands behind a text counts its line feeds and the characters behind the last. -/
theorem behind_eq (text : List Char) :
    behind text = ⟨text.count '\n' + 1, (text.rtakeWhile (· ≠ '\n')).length + 1⟩ := by
  induction text using List.reverseRecOn with
  | nil => rfl
  | append_singleton text c ih =>
      rw [behind_append_singleton, ih, after, List.count_append]
      by_cases isFeed : c = '\n'
      · subst isFeed
        rw [if_pos rfl, List.rtakeWhile_concat_neg _ _ _ (by decide)]
        rfl
      · rw [if_neg isFeed, List.rtakeWhile_concat_pos _ _ _ (by simpa using isFeed),
          List.count_singleton, List.length_append]
        simp [isFeed]

/-! ## Offsets -/

/-- An offset has the position of the boundary that the characters before it end at. -/
theorem ofOffset_byteWidth_charsBefore (text : List Char) (offset : Nat) :
    ofOffset text (byteWidth (charsBefore offset text)) = ofOffset text offset := by
  obtain ⟨rest, whole⟩ := charsBefore_prefix offset text
  have atBoundary := ofOffset_byteWidth (charsBefore offset text) rest
  rw [whole] at atBoundary
  exact atBoundary

/-- Positions at boundaries increase with their offsets.  Each is the number of line feeds
before it and of the characters behind the last of them, both counted from one.  An offset
that is no boundary has the position of the next one, and beyond the end all have that of
the end. -/
theorem boundary_positions (source : String) :
    (∀ left right, IsBoundary source left → IsBoundary source right → left < right →
      (ofOffset source.toList left).Precedes (ofOffset source.toList right)) ∧
    (∀ before behind : String, source = before ++ behind →
      ofOffset source.toList before.utf8ByteSize =
        ⟨before.toList.count '\n' + 1, (before.toList.rtakeWhile (· ≠ '\n')).length + 1⟩) ∧
    (∀ offset ≤ source.utf8ByteSize, ∃ next,
      IsLeast {boundary | IsBoundary source boundary ∧ offset ≤ boundary} next ∧
        ofOffset source.toList offset = ofOffset source.toList next) ∧
    ∀ offset, source.utf8ByteSize ≤ offset →
      ofOffset source.toList offset = ofOffset source.toList source.utf8ByteSize := by
  refine ⟨?_, ?_, ?_, ?_⟩
  · intro left right isLeft isRight ordered
    obtain ⟨before, behind, isText, rfl⟩ := isBoundary_iff.mp isLeft
    obtain ⟨longer, rest, sameText, rfl⟩ := isBoundary_iff.mp isRight
    have same : before ++ behind = longer ++ rest := isText.symm.trans sameText
    obtain ⟨between, rfl, rfl⟩ := append_of_byteWidth_le same (Nat.le_of_lt ordered)
    cases between with
    | nil =>
        rw [List.append_nil] at ordered
        exact absurd ordered (Nat.lt_irrefl _)
    | cons c between =>
        rw [sameText, ofOffset_byteWidth, List.append_assoc, ofOffset_byteWidth, behind_append]
        exact precedes_foldl_after (Position.behind before) c between
  · rintro before behind rfl
    rw [String.toList_append, ← byteWidth_toList, ofOffset_byteWidth, behind_eq]
  · intro offset inside
    refine ⟨_, isLeast_charsBefore inside, ?_⟩
    exact (ofOffset_byteWidth_charsBefore source.toList offset).symm
  · intro offset beyond
    rw [← byteWidth_toList] at beyond ⊢
    rw [ofOffset, ofOffset, charsBefore_of_le beyond, charsBefore_of_le (Nat.le_refl _)]

/-- The second byte of a character of two bytes, behind a line feed. -/
theorem position_inside_character : ∃ next,
    IsLeast {boundary | IsBoundary "a\né" boundary ∧ 3 ≤ boundary} next ∧
      ofOffset "a\né".toList 3 = ofOffset "a\né".toList next ∧
      ofOffset "a\né".toList next = ⟨2, 2⟩ := by
  obtain ⟨next, isNext, same⟩ := (boundary_positions "a\né").2.2.1 3 (by decide)
  have isPosition : ofOffset "a\né".toList 3 = ⟨2, 2⟩ := by decide
  exact ⟨next, isNext, same, same.symm.trans isPosition⟩

end Position

end EntityMapping.Source
