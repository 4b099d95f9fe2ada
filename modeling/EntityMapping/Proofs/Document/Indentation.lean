import EntityMapping.Document.BlockString
import EntityMapping.Proofs.Source.Place
import Mathlib.Data.List.TakeWhile
import Mathlib.Order.Bounds.Basic

/-!
# Indentation of block strings

The lines of a block string lose the indentation that they have in common, and the blank lines
at both ends.  Main statement: how far the lines are indented altogether does not matter, and
what is left is a run of the raw lines, each shorter by the common indentation or by its own if
that is less.
-/

namespace EntityMapping.Document.BlockString

open EntityMapping.Source
open EntityMapping.Text

/-! ## Margins -/

section Margin

variable {margin : List Char}

theorem isBlank_of_isIndent {c : Char} (isMargin : isIndent c = true) : isBlank c = true := by
  rw [isIndent, Bool.or_eq_true, decide_eq_true_eq, decide_eq_true_eq] at isMargin
  rcases isMargin with rfl | rfl
  · decide
  · decide

theorem not_mem_margin (isMargin : ∀ c ∈ margin, isIndent c = true) {c : Char}
    (visible : isIndent c = false) : c ∉ margin :=
  fun member => absurd (isMargin c member) (Bool.eq_false_iff.mp visible)

theorem not_mem_margin_row (isMargin : ∀ c ∈ margin, isIndent c = true) {c : Char}
    (visible : isIndent c = false) {rows : List (List Char)} (absent : ∀ row ∈ rows, c ∉ row) :
    ∀ row ∈ rows.map (margin ++ ·), c ∉ row := by
  intro line member inLine
  obtain ⟨row, inRows, rfl⟩ := List.mem_map.mp member
  rcases List.mem_append.mp inLine with inMargin | inRow
  · exact not_mem_margin isMargin visible inMargin
  · exact absent row inRows inRow

theorem allBlank_margin (isMargin : ∀ c ∈ margin, isIndent c = true) (row : List Char) :
    allBlank (margin ++ row) = allBlank row := by
  rw [allBlank, List.all_append]
  have blank : margin.all isBlank = true :=
    List.all_eq_true.mpr fun c member => isBlank_of_isIndent (isMargin c member)
  rw [blank, Bool.true_and, allBlank]

theorem indentation_margin (isMargin : ∀ c ∈ margin, isIndent c = true) (row : List Char) :
    indentation (margin ++ row) = margin.length + indentation row := by
  rw [indentation, List.takeWhile_append_of_pos isMargin, List.length_append, indentation]

/-- Behind a margin a line loses the margin and what it loses without it. -/
theorem dropIndentation_add (isMargin : ∀ c ∈ margin, isIndent c = true) (width : Nat)
    (row : List Char) :
    dropIndentation (margin.length + width) (margin ++ row) = dropIndentation width row := by
  rw [dropIndentation, List.take_length_add_append, List.takeWhile_append_of_pos isMargin,
    List.length_append, List.drop_length_add_append, dropIndentation]

theorem dropIndentation_margin (isMargin : ∀ c ∈ margin, isIndent c = true) (row : List Char) :
    dropIndentation margin.length (margin ++ row) = row :=
  dropIndentation_add isMargin 0 row

/-- A line loses the given number of indenting characters, or all that it has. -/
theorem dropIndentation_eq (width : Nat) (row : List Char) :
    dropIndentation width row = row.drop (min width (indentation row)) := by
  induction row generalizing width with
  | nil => cases width <;> rfl
  | cons c row ih =>
      cases width with
      | zero => simp [dropIndentation]
      | succ width =>
          cases indents : isIndent c with
          | false => simp [dropIndentation, indentation, indents]
          | true =>
              have others := ih width
              rw [dropIndentation, indentation] at others
              simpa [dropIndentation, indentation, indents, Nat.add_min_add_right] using others

theorem allBlank_dropIndentation (width : Nat) (row : List Char) :
    allBlank (dropIndentation width row) = allBlank row := by
  have isMargin : ∀ c ∈ (row.take width).takeWhile isIndent, isIndent c = true :=
    List.all_eq_true.mp List.all_takeWhile
  have isFront : (row.take width).takeWhile isIndent <+: row :=
    (List.takeWhile_prefix isIndent).trans (List.take_prefix width row)
  have whole : (row.take width).takeWhile isIndent ++ dropIndentation width row = row :=
    List.prefix_iff_eq_append.mp isFront
  rw [← allBlank_margin isMargin (dropIndentation width row), whole]

end Margin

/-! ## Common indentation -/

section Common

variable {rows : List (List Char)} {width : Nat}

/-- The least indentation of the lines that are not blank, or none if all are. -/
def IsCommonIndentation (rows : List (List Char)) (width : Nat) : Prop :=
  IsLeast {width | ∃ row ∈ rows, allBlank row = false ∧ indentation row = width} width ∨
    (∀ row ∈ rows, allBlank row = true) ∧ width = 0

theorem mem_indentations : width ∈ (rows.filter fun line => !allBlank line).map indentation ↔
    ∃ row ∈ rows, allBlank row = false ∧ indentation row = width := by
  simp [and_assoc]

theorem IsCommonIndentation.eq (isCommon : IsCommonIndentation rows width) :
    commonIndentation rows = width := by
  rcases isCommon with ⟨attained, least⟩ | ⟨blank, rfl⟩
  · have isLeast : ((rows.filter fun line => !allBlank line).map indentation).min? = some width :=
      List.min?_eq_some_iff.mpr ⟨mem_indentations.mpr attained,
        fun other member => least (mem_indentations.mp member)⟩
    rw [commonIndentation, isLeast, Option.getD_some]
  · have noneVisible : (rows.filter fun line => !allBlank line) = [] := by
      simpa using blank
    rw [commonIndentation, noneVisible]
    rfl

theorem isCommonIndentation (rows : List (List Char)) :
    IsCommonIndentation rows (commonIndentation rows) := by
  cases isMin : ((rows.filter fun line => !allBlank line).map indentation).min? with
  | none =>
      have blank : ∀ row ∈ rows, allBlank row = true := by simpa using isMin
      have isZero : commonIndentation rows = 0 := IsCommonIndentation.eq (Or.inr ⟨blank, rfl⟩)
      exact Or.inr ⟨blank, isZero⟩
  | some width =>
      obtain ⟨attained, least⟩ := List.min?_eq_some_iff.mp isMin
      rw [commonIndentation, isMin, Option.getD_some]
      exact Or.inl ⟨mem_indentations.mp attained,
        fun other member => least other (mem_indentations.mpr member)⟩

/-- Blank lines do not count. -/
theorem commonIndentation_append_blank {last : List (List Char)}
    (blank : ∀ row ∈ last, allBlank row = true) :
    commonIndentation (rows ++ last) = commonIndentation rows := by
  have noneVisible : (last.filter fun line => !allBlank line) = [] := by
    simpa using blank
  rw [commonIndentation, List.filter_append, noneVisible, List.append_nil, commonIndentation]

/-- Behind a margin lines have this in common as well. -/
theorem commonIndentation_add {margin : List Char} (isMargin : ∀ c ∈ margin, isIndent c = true)
    (visible : ∃ row ∈ rows, allBlank row = false) :
    commonIndentation (rows.map (margin ++ ·)) = margin.length + commonIndentation rows := by
  rcases isCommonIndentation rows with ⟨⟨row, member, isVisible, isWidth⟩, least⟩ | ⟨blank, -⟩
  · refine IsCommonIndentation.eq (Or.inl ⟨⟨margin ++ row, ?_, ?_, ?_⟩, ?_⟩)
    · exact List.mem_map_of_mem member
    · rw [allBlank_margin isMargin, isVisible]
    · rw [indentation_margin isMargin, isWidth]
    · rintro _ ⟨line, among, isVisible, rfl⟩
      obtain ⟨other, inRows, rfl⟩ := List.mem_map.mp among
      rw [allBlank_margin isMargin] at isVisible
      rw [indentation_margin isMargin]
      exact Nat.add_le_add_left (least ⟨other, inRows, isVisible, rfl⟩) _
  · obtain ⟨row, member, isVisible⟩ := visible
    cases isVisible.symm.trans (blank row member)

/-- Lines behind a margin have just this margin in common if one of them is flush with it. -/
theorem commonIndentation_margin {margin : List Char}
    (isMargin : ∀ c ∈ margin, isIndent c = true)
    (flush : ∃ row ∈ rows, allBlank row = false ∧ ∀ c ∈ row.head?, isIndent c = false) :
    commonIndentation (rows.map (margin ++ ·)) = margin.length := by
  obtain ⟨row, member, visible, begins⟩ := flush
  have noIndentation : indentation row = 0 := by
    cases row with
    | nil => rfl
    | cons c row => simp [indentation, begins c rfl]
  have isCommon : IsCommonIndentation rows 0 :=
    Or.inl ⟨⟨row, member, visible, noIndentation⟩, fun _ _ => Nat.zero_le _⟩
  rw [commonIndentation_add isMargin ⟨row, member, visible⟩, isCommon.eq, Nat.add_zero]

end Common

/-! ## Blank lines at the ends -/

section Trimming

variable {rows : List (List Char)}

theorem trimLines_append_blank {last : List (List Char)}
    (blank : ∀ row ∈ last, allBlank row = true) : trimLines (rows ++ last) = trimLines rows := by
  rw [trimLines, trimLines, List.dropWhile_append]
  split
  · rename_i noneVisible
    rw [List.isEmpty_iff.mp noneVisible, List.dropWhile_eq_nil_iff.mpr blank]
  · rw [List.reverse_append, List.dropWhile_append_of_pos]
    simpa using blank

theorem allBlank_of_head?_dropWhile :
    ∀ row ∈ (rows.dropWhile allBlank).head?, allBlank row = false := by
  intro row isFirst
  have notBlank := List.head?_dropWhile_not allBlank rows
  rw [isFirst] at notBlank
  exact notBlank

/-- Only blank lines are taken away, and none is left at an end. -/
theorem exists_trimLines (rows : List (List Char)) : ∃ above below,
    rows = above ++ trimLines rows ++ below ∧ (∀ row ∈ above ++ below, allBlank row = true) ∧
      (∀ row ∈ (trimLines rows).head?, allBlank row = false) ∧
      ∀ row ∈ (trimLines rows).getLast?, allBlank row = false := by
  have whole : rows.dropWhile allBlank = trimLines rows ++
      ((rows.dropWhile allBlank).reverse.takeWhile allBlank).reverse := by
    rw [trimLines, ← List.reverse_append, List.takeWhile_append_dropWhile, List.reverse_reverse]
  refine ⟨rows.takeWhile allBlank, ((rows.dropWhile allBlank).reverse.takeWhile allBlank).reverse,
    ?_, ?_, ?_, ?_⟩
  · rw [List.append_assoc, ← whole, List.takeWhile_append_dropWhile]
  · refine List.forall_mem_append.mpr ⟨List.all_eq_true.mp List.all_takeWhile, ?_⟩
    intro row member
    exact List.all_eq_true.mp List.all_takeWhile row (List.mem_reverse.mp member)
  · intro row isFirst
    have isFront : row ∈ (rows.dropWhile allBlank).head? := by
      rw [whole, List.head?_append, isFirst, Option.some_or]
      exact rfl
    exact allBlank_of_head?_dropWhile row isFront
  · intro row isLast
    rw [trimLines, List.getLast?_reverse] at isLast
    exact allBlank_of_head?_dropWhile row isLast

end Trimming

/-! ## Raw texts behind margins -/

/-- A text with a margin behind each of its line feeds. -/
def reindent (margin text : List Char) : List Char :=
  text.flatMap fun c => if c = '\n' then c :: margin else [c]

section Reindenting

variable {margin text : List Char}

theorem reindent_of_feedless (margin : List Char) (feedless : '\n' ∉ text) :
    reindent margin text = text := by
  induction text with
  | nil => rfl
  | cons c text ih =>
      have notFeed : c ≠ '\n' := (List.ne_of_not_mem_cons feedless).symm
      have others := ih (List.not_mem_of_not_mem_cons feedless)
      rw [reindent] at others ⊢
      rw [List.flatMap_cons, if_neg notFeed, others]
      rfl

theorem reindent_row {row : List Char} (margin : List Char) (feedless : '\n' ∉ row)
    (text : List Char) :
    reindent margin (row ++ '\n' :: text) = row ++ '\n' :: (margin ++ reindent margin text) := by
  have isRow := reindent_of_feedless margin feedless
  rw [reindent] at isRow
  rw [reindent, List.flatMap_append, isRow, List.flatMap_cons, if_pos rfl, List.cons_append,
    reindent]

/-- All lines but the first stand behind the margin. -/
theorem reindent_wholeLines {rows : List (List Char)} {left : List Char} (margin : List Char)
    (feedless : ∀ row ∈ rows, '\n' ∉ row) (feedlessLeft : '\n' ∉ left) :
    margin ++ reindent margin (wholeLines rows ++ left) =
      wholeLines (rows.map (margin ++ ·)) ++ (margin ++ left) := by
  induction rows with
  | nil =>
      rw [wholeLines, List.flatMap_nil, List.nil_append, reindent_of_feedless margin feedlessLeft]
      rfl
  | cons row rows ih =>
      obtain ⟨feedlessRow, feedlessRows⟩ := List.forall_mem_cons.mp feedless
      have apart : wholeLines (row :: rows) ++ left = row ++ '\n' :: (wholeLines rows ++ left) := by
        simp [wholeLines]
      rw [apart, reindent_row margin feedlessRow, ih feedlessRows]
      simp [wholeLines]

theorem withoutReturn_margin (isMargin : ∀ c ∈ margin, isIndent c = true) (row : List Char) :
    withoutReturn (margin ++ row) = margin ++ withoutReturn row := by
  cases row with
  | nil =>
      have noReturn : margin.getLast? ≠ some '\r' := fun isReturn =>
        not_mem_margin isMargin (by decide) (List.mem_of_getLast? isReturn)
      rw [List.append_nil, withoutReturn, if_neg noReturn]
      exact (List.append_nil margin).symm
  | cons c row =>
      have sameLast : (margin ++ c :: row).getLast? = (c :: row).getLast? := by
        rw [List.getLast?_append, List.getLast?_cons, Option.some_or]
      rw [withoutReturn, withoutReturn, sameLast, apply_ite (margin ++ ·),
        List.dropLast_append_of_ne_nil (List.cons_ne_nil c row)]

/-- A last line behind the margin is a line of its own even if nothing else is on it. -/
theorem lines_margin (isMargin : ∀ c ∈ margin, isIndent c = true) {left : List Char}
    (feedless : '\n' ∉ left) : ∃ last, (∀ row ∈ last, allBlank row = true) ∧
      lines (margin ++ left) = (lines left).map (margin ++ ·) ++ last := by
  have feedlessLine : '\n' ∉ margin ++ left := by
    simpa [feedless] using not_mem_margin isMargin (by decide)
  cases left with
  | nil =>
      refine ⟨lines margin, ?_, ?_⟩
      · intro row member
        rw [List.append_nil] at feedlessLine
        have visible : margin ≠ [] := by
          rintro rfl
          cases member
        rw [lines_of_feedless feedlessLine visible] at member
        rw [List.mem_singleton.mp member, ← List.append_nil margin, allBlank_margin isMargin,
          allBlank_nil]
      · rw [List.append_nil, lines, List.map_nil, List.nil_append]
  | cons c left =>
      have isLine := lines_of_feedless feedlessLine (by simp)
      have isLeft := lines_of_feedless feedless (List.cons_ne_nil c left)
      refine ⟨[], List.forall_mem_nil _, ?_⟩
      rw [isLine, isLeft, List.append_nil, List.map_singleton]

/-- The lines of a text behind margins: all but the first stand behind the margin, and the
margin behind a line feed at the end can be one more line. -/
theorem lines_reindent (isMargin : ∀ c ∈ margin, isIndent c = true) {first : List Char}
    {rest : List (List Char)} (areLines : lines text = first :: rest) :
    ∃ last, (∀ row ∈ last, allBlank row = true) ∧
      lines (reindent margin text) = first :: (rest.map (margin ++ ·) ++ last) := by
  obtain ⟨rows, left, feedless, feedlessLeft, rfl⟩ := exists_wholeLines text
  cases rows with
  | nil =>
      have isText : wholeLines [] ++ left = left := rfl
      have visible : left ≠ [] := by
        rintro rfl
        cases areLines
      rw [isText, lines_of_feedless feedlessLeft visible] at areLines
      obtain ⟨rfl, rfl⟩ := List.cons.inj areLines
      refine ⟨[], List.forall_mem_nil _, ?_⟩
      rw [isText, reindent_of_feedless margin feedlessLeft, lines_of_feedless feedlessLeft visible]
      rfl
  | cons row rows =>
      obtain ⟨feedlessRow, feedlessRows⟩ := List.forall_mem_cons.mp feedless
      obtain ⟨last, blank, areLast⟩ := lines_margin isMargin feedlessLeft
      have apart : wholeLines (row :: rows) ++ left = row ++ '\n' :: (wholeLines rows ++ left) := by
        simp [wholeLines]
      rw [apart, lines_row feedlessRow, lines_wholeLines_append feedlessRows] at areLines
      obtain ⟨rfl, rfl⟩ := List.cons.inj areLines
      have feedlessMargins : ∀ line ∈ rows.map (margin ++ ·), '\n' ∉ line :=
        not_mem_margin_row isMargin (by decide) feedlessRows
      have sameRows : (rows.map (margin ++ ·)).map withoutReturn =
          (rows.map withoutReturn).map (margin ++ ·) := by
        rw [List.map_map, List.map_map]
        exact List.map_congr_left fun row _ => withoutReturn_margin isMargin row
      refine ⟨last, blank, ?_⟩
      rw [apart, reindent_row margin feedlessRow, lines_row feedlessRow,
        reindent_wholeLines margin feedlessRows feedlessLeft,
        lines_wholeLines_append feedlessMargins, areLast, sameRows, List.map_append,
        List.append_assoc]

/-- The margin is part of the common indentation, and what has none but the margin is blank. -/
theorem trimLines_dedent_margin (isMargin : ∀ c ∈ margin, isIndent c = true)
    {last : List (List Char)} (blank : ∀ row ∈ last, allBlank row = true) (first : List Char)
    (rest : List (List Char)) :
    trimLines (dedent (first :: (rest.map (margin ++ ·) ++ last))) =
      trimLines (dedent (first :: rest)) := by
  have stayBlank : ∀ {width : Nat} {rows : List (List Char)}, (∀ row ∈ rows, allBlank row = true) →
      ∀ row ∈ rows.map (dropIndentation width), allBlank row = true := by
    intro width rows areBlank line member
    obtain ⟨row, inRows, rfl⟩ := List.mem_map.mp member
    rw [allBlank_dropIndentation, areBlank row inRows]
  rw [dedent, dedent, commonIndentation_append_blank blank, List.map_append, ← List.cons_append,
    trimLines_append_blank (stayBlank blank)]
  by_cases visible : ∃ row ∈ rest, allBlank row = false
  · have sameRows : (rest.map (margin ++ ·)).map
        (dropIndentation (margin.length + commonIndentation rest)) =
        rest.map (dropIndentation (commonIndentation rest)) := by
      rw [List.map_map]
      exact List.map_congr_left fun row _ => dropIndentation_add isMargin _ row
    rw [commonIndentation_add isMargin visible, sameRows]
  · have allRest : ∀ row ∈ rest, allBlank row = true := by simpa using visible
    have allBehind : ∀ row ∈ rest.map (margin ++ ·), allBlank row = true := by
      intro line member
      obtain ⟨row, inRest, rfl⟩ := List.mem_map.mp member
      rw [allBlank_margin isMargin, allRest row inRest]
    have onlyFirst : ∀ {others : List (List Char)}, (∀ row ∈ others, allBlank row = true) →
        trimLines (first :: others) = trimLines [first] := by
      intro others areBlank
      rw [← List.singleton_append, trimLines_append_blank areBlank]
    rw [onlyFirst (stayBlank allBehind), onlyFirst (stayBlank allRest)]

theorem value_reindent (isMargin : ∀ c ∈ margin, isIndent c = true) (text : List Char) :
    value (reindent margin text) = value text := by
  cases areLines : lines text with
  | nil =>
      obtain rfl := (lines_eq_nil_iff text).mp areLines
      rfl
  | cons first rest =>
      obtain ⟨last, blank, areOthers⟩ := lines_reindent isMargin areLines
      rw [value, value, areLines, areOthers, trimLines_dedent_margin isMargin blank]

end Reindenting

/-! ## The lines of a value -/

section Shape

variable {rows shown : List (List Char)}

/-- A line of a raw text without the common indentation, or its own if that is less; the
first line stays as it is. -/
def unindented (common index : Nat) (row : List Char) : List Char :=
  if index = 0 then row else row.drop (min common (indentation row))

/-- The lines that are shown of raw lines: a run of them without their common indentation,
of which only blank lines are missing and neither end is blank. -/
structure Shows (rows shown : List (List Char)) : Prop where
  run : ∃ common above inner below, IsCommonIndentation rows.tail common ∧
    rows = above ++ inner ++ below ∧ (∀ row ∈ above ++ below, allBlank row = true) ∧
    shown = inner.mapIdx fun index => unindented common (index + above.length)
  first : ∀ row ∈ shown.head?, allBlank row = false
  last : ∀ row ∈ shown.getLast?, allBlank row = false

theorem allBlank_unindented (common index : Nat) (row : List Char) :
    allBlank (unindented common index row) = allBlank row := by
  rw [unindented]
  split
  · rfl
  · rw [← dropIndentation_eq, allBlank_dropIndentation]

theorem mem_of_mem_unindented {common index : Nat} {row : List Char} {c : Char}
    (member : c ∈ unindented common index row) : c ∈ row := by
  rw [unindented] at member
  split at member
  · exact member
  · exact List.mem_of_mem_drop member

/-- Lines are blank if they are so without their indentation. -/
theorem allBlank_of_mapIdx {common : Nat} {number : Nat → Nat}
    (blank : ∀ row ∈ rows.mapIdx fun index => unindented common (number index),
      allBlank row = true) : ∀ row ∈ rows, allBlank row = true := by
  intro row member
  obtain ⟨index, bound, rfl⟩ := List.mem_iff_getElem.mp member
  have isBlank := blank _ (List.mem_mapIdx.mpr ⟨index, bound, rfl⟩)
  rw [allBlank_unindented] at isBlank
  exact isBlank

theorem dedent_eq_mapIdx (rows : List (List Char)) :
    dedent rows = rows.mapIdx (unindented (commonIndentation rows.tail)) := by
  cases rows with
  | nil => rfl
  | cons first rest =>
      have areOthers : rest.mapIdx (fun index => unindented (commonIndentation rest) (index + 1)) =
          rest.map (dropIndentation (commonIndentation rest)) := by
        refine List.mapIdx_eq_iff.mpr fun index => ?_
        rw [List.getElem?_map]
        refine Option.map_congr fun row _ => ?_
        rw [unindented, if_neg (Nat.succ_ne_zero index), dropIndentation_eq]
      rw [dedent, List.mapIdx_cons, List.tail_cons, areOthers]
      rfl

theorem shows_trimLines_dedent (rows : List (List Char)) : Shows rows (trimLines (dedent rows)) := by
  obtain ⟨above, below, whole, blank, first, last⟩ := exists_trimLines (dedent rows)
  obtain ⟨blankAbove, blankBelow⟩ := List.forall_mem_append.mp blank
  constructor
  · rw [dedent_eq_mapIdx] at whole
    obtain ⟨front, behind, rfl, isFront, rfl⟩ := List.mapIdx_eq_append_iff.mp whole
    obtain ⟨outer, inner, rfl, rfl, isInner⟩ := List.mapIdx_eq_append_iff.mp isFront
    refine ⟨_, outer, inner, behind, isCommonIndentation _, rfl, ?_, ?_⟩
    · exact List.forall_mem_append.mpr
        ⟨@allBlank_of_mapIdx _ _ id blankAbove, allBlank_of_mapIdx blankBelow⟩
    · rw [isInner, dedent_eq_mapIdx]
  · exact first
  · exact last

/-- No line of a value holds a line feed, since no raw line does. -/
theorem feedless_trimLines_dedent (feedless : ∀ row ∈ rows, '\n' ∉ row) :
    ∀ row ∈ trimLines (dedent rows), '\n' ∉ row := by
  intro row member inRow
  obtain ⟨above, below, whole, -⟩ := exists_trimLines (dedent rows)
  have inDedent : row ∈ dedent rows := by
    rw [whole]
    exact List.mem_append_left _ (List.mem_append_right _ member)
  rw [dedent_eq_mapIdx] at inDedent
  obtain ⟨index, bound, rfl⟩ := List.mem_mapIdx.mp inDedent
  exact feedless _ (List.getElem_mem bound) (mem_of_mem_unindented inRow)

/-- Whatever margin is put behind each line feed of a raw text, the value is the same, and
its lines are a run of the raw lines: each of them but the first raw line is shorter by the
common indentation or by its own if that is less, and only blank lines are missing. -/
theorem value_dedented (raw : List Char) :
    (∀ margin : List Char, (∀ c ∈ margin, isIndent c = true) →
      value (reindent margin raw) = value raw) ∧
    ∃ shown, value raw = joinLines shown ∧ (∀ row ∈ shown, '\n' ∉ row) ∧
      Shows (lines raw) shown := by
  constructor
  · exact fun margin isMargin => value_reindent isMargin raw
  · exact ⟨trimLines (dedent (lines raw)), rfl,
      feedless_trimLines_dedent fun _ => line_feed_not_mem_of_mem_lines, shows_trimLines_dedent _⟩

/-- A tab more in front of all lines, one with a carriage return and one that only a wide space
is on. -/
theorem value_behind_tab :
    (∀ c ∈ ['\t'], isIndent c = true) ∧
      value (reindent ['\t'] "\n\t  b\r\n c\n \u00a0".toList) = "  b\nc".toList := by
  have isMargin : ∀ c ∈ ['\t'], isIndent c = true := List.all_eq_true.mp (by decide)
  have unmoved : value "\n\t  b\r\n c\n \u00a0".toList = "  b\nc".toList := by decide
  exact ⟨isMargin, ((value_dedented _).1 _ isMargin).trans unmoved⟩

end Shape

end EntityMapping.Document.BlockString
