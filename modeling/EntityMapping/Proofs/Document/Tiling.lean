import EntityMapping.Proofs.Document.Gaps

/-!
# Items tile their text

The items of a text stand one behind the other, each on characters of its own, and
what they leave is ignorable.  Main statement: whatever the text is, and however many
of its pieces are no tokens, nothing else is lost and nothing is taken twice.
-/

namespace EntityMapping.Source.Span

/-- The span covers the byte at an offset. -/
def Covers (span : Span) (place : Nat) : Prop :=
  span.start ≤ place ∧ place < span.stop

end EntityMapping.Source.Span

namespace EntityMapping.Document

open EntityMapping.Source
open EntityMapping.Text

/-- Items that make up a text from the given offset on, together with the ignorable
text in front of each of them and behind the last. -/
inductive Tiles : Nat → List Char → List Item → Prop where
  | nil {offset : Nat} {text : List Char} (ignorable : text ∈ lastGapText) :
      Tiles offset text []
  | cons {offset : Nat} {between piece rest : List Char} {item : Item} {items : List Item}
      (ignorable : between ∈ gapText) (nonempty : piece ≠ [])
      (isSpan : item.span =
        ⟨offset + byteWidth between, offset + byteWidth between + byteWidth piece⟩)
      (behind : Tiles (offset + byteWidth between + byteWidth piece) rest items) :
      Tiles offset (between ++ (piece ++ rest)) (item :: items)

/-- The byte at a place stands in ignorable text that no item reaches into. -/
def LeftOut (offset : Nat) (text : List Char) (items : List Item) (place : Nat) : Prop :=
  ∃ before between behind, text = before ++ between ++ behind ∧ between ∈ lastGapText ∧
    Span.Covers ⟨offset + byteWidth before, offset + byteWidth before + byteWidth between⟩ place ∧
    ∀ item ∈ items, item.span.stop ≤ offset + byteWidth before ∨
      offset + byteWidth before + byteWidth between ≤ item.span.start

/-- What an item covers is not left out. -/
theorem not_leftOut_of_covers {offset : Nat} {text : List Char} {items : List Item} {item : Item}
    {place : Nat} (member : item ∈ items) (covers : item.span.Covers place) :
    ¬ LeftOut offset text items place := by
  rintro ⟨before, between, behind, -, -, inGap, apart⟩
  rcases apart item member with ahead | behindGap
  · exact absurd (Nat.lt_of_lt_of_le covers.2 ahead) (Nat.not_lt.mpr inGap.1)
  · exact absurd (Nat.lt_of_lt_of_le inGap.2 behindGap) (Nat.not_lt.mpr covers.1)

theorem Item.span_ofPiece (piece : Piece) (span : Span) : (Item.ofPiece piece span).span = span := by
  unfold Item.ofPiece
  split <;> rfl

theorem tiles_itemsFrom (offset : Nat) (text : List Char) :
    Tiles offset text (itemsFrom offset text) := by
  induction offset, text using itemsFrom.induct with
  | case1 offset text between split =>
      have whole : (splitIgnored false text).2 = [] := congrArg Prod.snd split
      rw [itemsFrom_eq_nil whole]
      exact .nil (mem_lastGapText_of_splitIgnored whole)
  | case2 offset text between c rest split piece start stop =>
      rename_i ih
      rw [itemsFrom_eq_cons split, text_eq_of_first split, ← Piece.first_append c rest]
      exact .cons (mem_gapTextFrom_of_splitIgnored split) (Piece.first_text_ne_nil c rest)
        (Item.span_ofPiece piece _) ih

namespace Tiles

variable {offset : Nat} {text : List Char} {items : List Item}

/-- No more items than characters. -/
theorem length_le (tiles : Tiles offset text items) : items.length ≤ text.length := by
  induction tiles with
  | nil ignorable => exact Nat.zero_le _
  | cons ignorable nonempty isSpan behind ih =>
      have positive := List.length_pos_iff.mpr nonempty
      simp only [List.length_cons, List.length_append]
      omega

/-- Every item stands on characters of the text. -/
theorem exists_piece (tiles : Tiles offset text items) :
    ∀ item ∈ items, ∃ before piece behind, text = before ++ piece ++ behind ∧ piece ≠ [] ∧
      item.span = ⟨offset + byteWidth before, offset + byteWidth (before ++ piece)⟩ := by
  induction tiles with
  | nil ignorable => exact List.forall_mem_nil _
  | @cons offset between piece rest item items ignorable nonempty isSpan behind ih =>
      intro other member
      rcases List.mem_cons.mp member with rfl | later
      · refine ⟨between, piece, rest, (List.append_assoc _ _ _).symm, nonempty, ?_⟩
        rw [isSpan, byteWidth_append, Nat.add_assoc]
      · obtain ⟨before, inner, after, rfl, innerNonempty, innerSpan⟩ := ih other later
        refine ⟨between ++ piece ++ before, inner, after, by simp, innerNonempty, ?_⟩
        rw [innerSpan]
        simp only [byteWidth_append, Nat.add_assoc]

/-- No item stands outside of the text. -/
theorem within (tiles : Tiles offset text items) :
    ∀ item ∈ items, offset ≤ item.span.start ∧ item.span.stop ≤ offset + byteWidth text := by
  intro item member
  obtain ⟨before, piece, behind, rfl, -, isSpan⟩ := tiles.exists_piece item member
  have width := byteWidth_append (before ++ piece) behind
  simp only [isSpan]
  omega

/-- Each item ends before the next one starts. -/
theorem ordered (tiles : Tiles offset text items) :
    items.Pairwise fun earlier later => earlier.span.stop ≤ later.span.start := by
  induction tiles with
  | nil ignorable => exact .nil
  | cons ignorable nonempty isSpan behind ih =>
      refine List.pairwise_cons.mpr ⟨fun later member => ?_, ih⟩
      rw [isSpan]
      exact (behind.within later member).1

/-- No byte is covered by two items. -/
theorem covers_unique (tiles : Tiles offset text items) {place : Nat} :
    ∀ ⦃left⦄, left ∈ items → ∀ ⦃right⦄, right ∈ items → left.span.Covers place →
      right.span.Covers place → left = right := by
  refine List.Pairwise.forall_of_forall_of_flip
    (R := fun left right : Item => left.span.Covers place → right.span.Covers place → left = right)
    (fun _ _ _ _ => rfl) (tiles.ordered.imp ?_) (tiles.ordered.imp ?_)
  · intro left right apart coversLeft coversRight
    exact absurd (Nat.lt_of_lt_of_le coversLeft.2 apart) (Nat.not_lt.mpr coversRight.1)
  · intro left right apart coversRight coversLeft
    exact absurd (Nat.lt_of_lt_of_le coversLeft.2 apart) (Nat.not_lt.mpr coversRight.1)

theorem leftOut_behind {between piece rest : List Char} {item : Item} {place : Nat}
    (isSpan : item.span.stop = offset + byteWidth between + byteWidth piece)
    (leftOut : LeftOut (offset + byteWidth between + byteWidth piece) rest items place) :
    LeftOut offset (between ++ (piece ++ rest)) (item :: items) place := by
  obtain ⟨before, inner, after, rfl, ignorable, covers, apart⟩ := leftOut
  have same : offset + byteWidth (between ++ piece ++ before) =
      offset + byteWidth between + byteWidth piece + byteWidth before := by
    simp only [byteWidth_append, Nat.add_assoc]
  refine ⟨between ++ piece ++ before, inner, after, by simp, ignorable, ?_, ?_⟩
  · rw [same]
    exact covers
  · rw [same]
    refine List.forall_mem_cons.mpr ⟨Or.inl ?_, apart⟩
    rw [isSpan]
    exact Nat.le_add_right _ _

/-- Every byte is covered by an item or left out. -/
theorem covers_or_leftOut (tiles : Tiles offset text items) {place : Nat}
    (notBefore : offset ≤ place) (inside : place < offset + byteWidth text) :
    (∃ item ∈ items, item.span.Covers place) ∨ LeftOut offset text items place := by
  induction tiles with
  | @nil offset text ignorable =>
      exact Or.inr ⟨[], text, [], (List.append_nil _).symm, ignorable, ⟨notBefore, inside⟩,
        List.forall_mem_nil _⟩
  | @cons offset between piece rest item items ignorable nonempty isSpan behind ih =>
      by_cases inBetween : place < offset + byteWidth between
      · refine Or.inr ⟨[], between, piece ++ rest, rfl, mem_lastGapText_of_mem ignorable,
          ⟨notBefore, inBetween⟩, List.forall_mem_cons.mpr ⟨Or.inr ?_, ?_⟩⟩
        · rw [isSpan]
          exact Nat.le_refl _
        · intro later member
          have ordered := (behind.within later member).1
          exact Or.inr (Nat.le_trans (Nat.le_add_right _ _) ordered)
      · by_cases inPiece : place < offset + byteWidth between + byteWidth piece
        · refine Or.inl ⟨item, List.mem_cons_self, ?_⟩
          rw [isSpan]
          exact ⟨Nat.le_of_not_lt inBetween, inPiece⟩
        · simp only [byteWidth_append, ← Nat.add_assoc] at inside
          rcases ih (Nat.le_of_not_lt inPiece) inside with ⟨other, member, covers⟩ | leftOut
          · exact Or.inl ⟨other, List.mem_cons_of_mem item member, covers⟩
          · exact Or.inr (leftOut_behind (by rw [isSpan]) leftOut)

end Tiles

/-- Whatever a text is, its items and the ignorable text between them make it up: there
are finitely many, each stands on characters of its own, they stand in order, and every
byte belongs to just one of them or is left out as ignorable. -/
theorem items_tile (source : String) :
    Tiles 0 source.toList (items source) ∧ (items source).length ≤ source.length ∧
    (∀ item ∈ items source, ∃ before piece behind : String,
      source = before ++ piece ++ behind ∧ piece ≠ "" ∧
      item.span = ⟨before.utf8ByteSize, (before ++ piece).utf8ByteSize⟩) ∧
    ((items source).Pairwise fun earlier later => earlier.span.stop ≤ later.span.start) ∧
    ∀ place < source.utf8ByteSize, (∃! item, item ∈ items source ∧ item.span.Covers place) ∨
      LeftOut 0 source.toList (items source) place := by
  have tiles := tiles_itemsFrom 0 source.toList
  refine ⟨tiles, ?_, ?_, tiles.ordered, ?_⟩
  · rw [← String.length_toList]
    exact tiles.length_le
  · intro item member
    obtain ⟨before, piece, behind, isSource, nonempty, isSpan⟩ := tiles.exists_piece item member
    refine ⟨String.ofList before, String.ofList piece, String.ofList behind, ?_, ?_, ?_⟩
    · rw [← String.ofList_append, ← String.ofList_append, ← isSource, String.ofList_toList]
    · simpa using nonempty
    · rw [isSpan, ← String.ofList_append, utf8ByteSize_ofList, utf8ByteSize_ofList, Nat.zero_add,
        Nat.zero_add]
  · intro place inside
    rw [← byteWidth_toList, ← Nat.zero_add (byteWidth _)] at inside
    rcases tiles.covers_or_leftOut (Nat.zero_le place) inside with ⟨item, member, covers⟩ | leftOut
    · exact Or.inl ⟨item, ⟨member, covers⟩, fun other ⟨among, alsoCovers⟩ =>
        tiles.covers_unique among member alsoCovers covers⟩
    · exact Or.inr leftOut

end EntityMapping.Document
