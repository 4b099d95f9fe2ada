import Mathlib
import EntityMapping.Proofs.Document.Cutting
import EntityMapping.Proofs.Document.MovedSpelling

/-!
# Documents in larger documents

Two documents can be joined by a line feed, and a definition can be taken out of its
document: its span is just the text that it is read from.
-/

namespace EntityMapping.Document

open EntityMapping.Source
open EntityMapping.Text

/-- A text is read as definitions if it is cut into lexemes that spell them. -/
theorem read_eq_ok_iff {source : String} {definitions : List Definition} :
    read source = .ok definitions ↔
      ∃ used, Cuts 0 source.toList used ∧ used ∈ documentSpelling definitions := by
  rw [read, bind_eq_ok_iff]
  constructor
  · rintro ⟨used, cut, spelled⟩
    exact ⟨used, lexemes_eq_ok_iff.mp cut, ofLexemes_eq_ok_iff.mp spelled⟩
  · rintro ⟨used, cut, spelled⟩
    exact ⟨used, lexemes_eq_ok_iff.mpr cut, ofLexemes_eq_ok_iff.mpr spelled⟩

theorem documentSpelling_singleton (definition : Definition) :
    documentSpelling [definition] = definition.spelling := by
  rw [documentSpelling, sequenced_cons]
  exact mul_one definition.spelling

/-- Lexemes spell at most one definition. -/
theorem spelling_unique {used : List Lexeme} {left right : Definition}
    (inLeft : used ∈ left.spelling) (inRight : used ∈ right.spelling) : left = right := by
  rw [← documentSpelling_singleton] at inLeft inRight
  have read := ofLexemes_eq_ok_iff.mpr inLeft
  rw [ofLexemes_eq_ok_iff.mpr inRight] at read
  exact (List.cons.inj (Except.ok.inj read)).1.symm

/-! ## Joining documents -/

/-- The definitions of two texts with a line feed between them are those of the first,
and behind them those of the second, moved by the bytes that stand before it. -/
theorem read_join {first second : String} {definitions others : List Definition}
    (readFirst : read first = .ok definitions) (readSecond : read second = .ok others) :
    read (first ++ "\n" ++ second) =
      .ok (definitions ++ others.map (Definition.shift (first.utf8ByteSize + 1))) := by
  obtain ⟨used, cutsFirst, spellsFirst⟩ := read_eq_ok_iff.mp readFirst
  obtain ⟨further, cutsSecond, spellsSecond⟩ := read_eq_ok_iff.mp readSecond
  have joined := cutsFirst.join (by
    rw [byteWidth_toList, Nat.add_assoc]
    exact cutsSecond.shift (first.utf8ByteSize + 1))
  have spellsMoved := moves_document (Span.uniform_shift (first.utf8ByteSize + 1)) others
    further spellsSecond
  refine read_eq_ok_iff.mpr ⟨used ++ further.map
    (Lexeme.relocate (Span.shift (first.utf8ByteSize + 1))), ?_, ?_⟩
  · rw [String.toList_append, String.toList_append, List.append_assoc]
    exact joined
  · rw [documentSpelling, sequenced_append]
    exact Language.append_mem_mul spellsFirst spellsMoved

/-- The comment at the end of the first text does not swallow the second. -/
theorem read_type_and_enum :
    read ("type A @D #" ++ "\n" ++ "\"e\" enum E") =
      .ok [.object ⟨none, "A", [], [⟨"D", [], ⟨7, 9⟩⟩], [], ⟨0, 9⟩⟩,
        .enum ⟨some "e", "E", [], [], ⟨12, 22⟩⟩] := by
  have readType : read "type A @D #" =
      .ok [.object ⟨none, "A", [], [⟨"D", [], ⟨7, 9⟩⟩], [], ⟨0, 9⟩⟩] := by
    cbv
  have readEnum : read "\"e\" enum E" = .ok [.enum ⟨some "e", "E", [], [], ⟨0, 10⟩⟩] := by
    cbv
  exact read_join readType readEnum

/-! ## Taking a definition out of its document -/

theorem relocate_shift_unshift {distance : Nat} {used : List Lexeme}
    (behind : ∀ lexeme ∈ used, distance ≤ lexeme.span.start ∧ distance ≤ lexeme.span.stop) :
    (used.map (Lexeme.relocate (Span.unshift distance))).map
      (Lexeme.relocate (Span.shift distance)) = used := by
  rw [List.map_map]
  refine (List.map_congr_left fun lexeme member => ?_).trans (List.map_id used)
  obtain ⟨start, stop⟩ := behind lexeme member
  obtain ⟨token, span⟩ := lexeme
  simp only [Function.comp_apply, Lexeme.relocate, Span.unshift, Span.shift, id_eq,
    Nat.sub_add_cancel start, Nat.sub_add_cancel stop]

/-- The span of a definition is the text that it is read from, and this text alone is
read as the definition. -/
theorem span_eq_text {source : String} {definitions : List Definition}
    {definition : Definition} (readSource : read source = .ok definitions)
    (member : definition ∈ definitions) :
    ∃ before part behind : String, source = before ++ part ++ behind ∧
      definition.span = ⟨before.utf8ByteSize, (before ++ part).utf8ByteSize⟩ ∧
      ∃ alone, read part = .ok [alone] ∧
        alone.shift definition.span.start = definition := by
  obtain ⟨used, cuts, spelled⟩ := read_eq_ok_iff.mp readSource
  obtain ⟨earlier, later, rfl⟩ := List.append_of_mem member
  rw [documentSpelling, sequenced_append, sequenced_cons] at spelled
  obtain ⟨front, -, behindFront, rest, rfl⟩ := Language.mem_mul.mp spelled
  obtain ⟨lexemes, spells, back, -, rfl⟩ := Language.mem_mul.mp rest
  have nonempty := (Cursor.begins_definition definition lexemes spells).1
  obtain ⟨before, part, behind, isSource, inPart, covers⟩ := cuts.part nonempty
  rw [Nat.zero_add] at inPart
  rw [Nat.zero_add, Nat.zero_add, spells.2] at covers
  have start : definition.span.start = byteWidth before := congrArg Span.start covers
  refine ⟨String.ofList before, String.ofList part, String.ofList behind, ?_, ?_,
    definition.relocate (Span.unshift (byteWidth before)), ?_, ?_⟩
  · rw [← String.ofList_append, ← String.ofList_append, ← isSource, String.ofList_toList]
  · rw [← String.ofList_append, utf8ByteSize_ofList, utf8ByteSize_ofList]
    exact covers
  · have cutsAlone := inPart.unshift (Nat.le_refl (byteWidth before))
    have spellsAlone := definition.moves (Span.uniform_unshift (byteWidth before)) lexemes spells
    rw [Nat.sub_self] at cutsAlone
    rw [← documentSpelling_singleton] at spellsAlone
    refine read_eq_ok_iff.mpr ⟨_, ?_, spellsAlone⟩
    rw [String.toList_ofList]
    exact cutsAlone
  · have spellsAlone := definition.moves (Span.uniform_unshift (byteWidth before)) lexemes spells
    have spellsBack := Definition.moves (Span.uniform_shift (byteWidth before)) _ _ spellsAlone
    rw [relocate_shift_unshift] at spellsBack
    · rw [start]
      exact spelling_unique spellsBack spells
    · intro lexeme among
      obtain ⟨notBefore, ordered, -⟩ := inPart.within lexeme among
      exact ⟨notBefore, Nat.le_trans notBefore ordered⟩

/-- The text of the second definition of `type A @D #`, a line feed and `"e" enum E`. -/
theorem span_of_enum_eq_text :
    ∃ before part behind : String,
      "type A @D #\n\"e\" enum E" = before ++ part ++ behind ∧
      (⟨12, 22⟩ : Span) = ⟨before.utf8ByteSize, (before ++ part).utf8ByteSize⟩ ∧
      ∃ alone, read part = .ok [alone] ∧
        alone.shift 12 = .enum ⟨some "e", "E", [], [], ⟨12, 22⟩⟩ := by
  have readSource : read "type A @D #\n\"e\" enum E" =
      .ok [.object ⟨none, "A", [], [⟨"D", [], ⟨7, 9⟩⟩], [], ⟨0, 9⟩⟩,
        .enum ⟨some "e", "E", [], [], ⟨12, 22⟩⟩] := by
    cbv
  exact span_eq_text readSource (List.mem_cons_of_mem _ List.mem_cons_self)

end EntityMapping.Document
