import Mathlib
import EntityMapping.Proofs.Document.AlikeDefinitions
import EntityMapping.Proofs.Document.Gaps

/-!
# Ignorable text between tokens

Ignorable text may be put in front of any token of a text and behind any: the tokens
stay what they are, and the text is read as before but for places.
-/

namespace EntityMapping.Document

open EntityMapping.Source
open EntityMapping.Text

/-- Ignorable text is empty or begins with a character that ignorable text begins with. -/
theorem beginsGap_of_gapText {c : Char} {between : List Char}
    (ignorable : c :: between ∈ gapText) : beginsGap c = true := by
  have whole := splitIgnored_gapText ignorable []
  rw [List.append_nil] at whole
  by_contra kept
  have stays : splitIgnored false (c :: between) = ([], c :: between) := if_neg kept
  rw [stays] at whole
  cases whole

/-- A text may go on with ignorable text in front of what stood there. -/
theorem trims_gapText {between : List Char} (ignorable : between ∈ gapText) (rest : List Char) :
    Trims rest (between ++ rest) := by
  cases between with
  | nil => simpa using trims_front rest []
  | cons c between =>
      exact .stop rest (interrupts_of_beginsGap (beginsGap_of_gapText ignorable)) (between ++ rest)

/-- Ignorable text may stand in front of a text. -/
theorem Cuts.behindGapText {offset : Nat} {between text : List Char} {lexemes : List Lexeme}
    (ignorable : between ∈ gapText) (cuts : Cuts (offset + byteWidth between) text lexemes) :
    Cuts offset (between ++ text) lexemes := by
  have joined := splitIgnored_gapText ignorable text
  cases cuts with
  | nil whole =>
      refine .nil ?_
      rw [joined]
      exact whole
  | cons split first isStart isStop behind =>
      rw [split] at joined
      refine .cons joined first ?_ isStop behind
      rw [isStart, byteWidth_append, Nat.add_assoc]

/-- Behind a punctuator that a text ends with, whatever text may follow. -/
theorem Cuts.appendBehindPunct {offset : Nat} {text more : List Char} {last : Lexeme}
    {lexemes others : List Lexeme} {punctuator : Punctuator}
    (cuts : Cuts offset text (lexemes ++ [last])) (isPunct : last.token = .punct punctuator)
    (single : punctuator ≠ .spread) (ends : last.span.stop = offset + byteWidth text)
    (further : Cuts (offset + byteWidth text) more others) :
    Cuts offset (text ++ more) (lexemes ++ last :: others) := by
  obtain ⟨front, behind, rfl, inFront, frontEnds, inBehind⟩ := cuts.split
  cases inBehind with
  | @cons _ start stop _ gap tail rest c token _ split first isStart isStop nothing =>
      obtain rfl := text_eq_of_first split
      obtain rfl : token = .punct punctuator := isPunct
      obtain ⟨known, same⟩ := Piece.eq_of_first_punct single first
      obtain rfl : tail = [] := (List.cons.inj same).2
      have width : offset + byteWidth (front ++ (gap ++ c :: ([] ++ rest))) =
          stop + byteWidth rest := by
        rw [isStop, isStart, byteWidth_append, byteWidth_append, ← List.cons_append,
          byteWidth_append]
        omega
      rw [width] at ends further
      obtain rfl : rest = [] := eq_nil_of_byteWidth_eq_zero (Nat.left_eq_add.mp ends)
      have stops : ∀ d ∈ (gap ++ c :: more).head?, interrupts d = true := by
        have inGap : gap ∈ gapText := mem_gapTextFrom_of_splitIgnored split
        intro d isHead
        cases gap with
        | nil =>
            cases isHead
            exact interrupts_of_ofChar? known
        | cons e gap =>
            cases isHead
            exact interrupts_of_beginsGap (beginsGap_of_gapText inGap)
      have apart : front ++ (gap ++ c :: ([] ++ [])) ++ more = front ++ (gap ++ c :: more) := by
        simp
      rw [apart]
      refine inFront.append rfl (frontEnds ⟨0, offset⟩ rfl) stops ?_
      exact .cons (splitIgnored_gap split more).1 (Piece.first_of_ofChar? known more) isStart isStop
        further

theorem map_token_relocate (place : Span → Span) (lexemes : List Lexeme) :
    (lexemes.map (Lexeme.relocate place)).map Lexeme.token = lexemes.map Lexeme.token := by
  rw [List.map_map]
  rfl

section Inserting

variable {offset : Nat} {before behind between : List Char} {lexeme : Lexeme}
  {lexemes : List Lexeme} (ignorable : between ∈ gapText)
include ignorable

/-- Ignorable text may be put in where the first token of a text starts. -/
theorem Cuts.insertAtStart (cuts : Cuts offset (before ++ behind) (lexeme :: lexemes))
    (starts : lexeme.span.start = offset + byteWidth before) :
    ∃ moved, Cuts offset (before ++ (between ++ behind)) moved ∧
      moved.map Lexeme.token = (lexeme :: lexemes).map Lexeme.token := by
  generalize isText : before ++ behind = text at cuts
  cases cuts with
  | @cons offset start stop text gap tail rest c token lexemes split first isStart isStop cuts =>
      have whole : gap ++ c :: (tail ++ rest) = before ++ behind := by
        rw [isText, text_eq_of_first split]
      have sameWidth : byteWidth gap = byteWidth before := by
        simp only at starts
        omega
      obtain ⟨rfl, rfl⟩ := append_inj_of_byteWidth_eq whole sameWidth
      have alone := (splitIgnored_gap split (tail ++ rest)).2
      have fromStart : Cuts (offset + byteWidth before) (c :: (tail ++ rest))
          (⟨token, ⟨start, stop⟩⟩ :: lexemes) := .cons alone first isStart isStop cuts
      exact ⟨_, .behindGapText (mem_gapTextFrom_of_splitIgnored split)
        (.behindGapText ignorable (fromStart.shift (byteWidth between))), map_token_relocate _ _⟩

/-- If the text in front of a place reaches behind the first token, that token does not
depend on what stands behind the place. -/
theorem Cuts.insertBehind (cuts : Cuts offset (before ++ behind) (lexeme :: lexemes))
    (reaches : lexeme.span.stop ≤ offset + byteWidth before) :
    ∃ more, lexeme.span.stop + byteWidth more = offset + byteWidth before ∧
      Cuts lexeme.span.stop (more ++ behind) lexemes ∧
      ∀ moved, Cuts lexeme.span.stop (more ++ (between ++ behind)) moved →
        Cuts offset (before ++ (between ++ behind)) (lexeme :: moved) := by
  generalize isText : before ++ behind = text at cuts
  cases cuts with
  | @cons offset start stop text gap tail rest c token lexemes split first isStart isStop cuts =>
      have whole : (gap ++ c :: tail) ++ rest = before ++ behind := by
        rw [isText, text_eq_of_first split, List.append_assoc, List.cons_append]
      have width : stop = offset + byteWidth (gap ++ c :: tail) := by
        rw [byteWidth_append, isStop, isStart, Nat.add_assoc]
      simp only at reaches
      obtain ⟨more, rfl, rfl⟩ := append_of_byteWidth_le whole (by omega)
      refine ⟨more, ?_, cuts, fun moved cutsMoved => ?_⟩
      · rw [byteWidth_append]
        simp only
        omega
      · have trims := (trims_gapText ignorable behind).append more
        have sameFirst := Piece.first_eq_of_trims first trims
        have apart : gap ++ c :: tail ++ more ++ (between ++ behind) =
            gap ++ c :: (tail ++ (more ++ (between ++ behind))) := by
          simp
        rw [apart]
        exact .cons (splitIgnored_gap split _).1 sameFirst isStart isStop cutsMoved

/-- The tokens of a text stay the same when ignorable text is put in where one of them
starts or stops. -/
theorem Cuts.insert (cuts : Cuts offset (before ++ behind) lexemes)
    (boundary : ∃ lexeme ∈ lexemes, lexeme.span.start = offset + byteWidth before ∨
      lexeme.span.stop = offset + byteWidth before) :
    ∃ moved, Cuts offset (before ++ (between ++ behind)) moved ∧
      moved.map Lexeme.token = lexemes.map Lexeme.token := by
  obtain ⟨lexeme, member, place⟩ := boundary
  induction lexemes generalizing offset before with
  | nil => cases member
  | cons first lexemes ih =>
      by_cases starts : first.span.start = offset + byteWidth before
      · exact cuts.insertAtStart ignorable starts
      · have reaches : first.span.stop ≤ offset + byteWidth before := by
          rcases List.mem_cons.mp member with rfl | later
          · exact Nat.le_of_eq (place.resolve_left starts)
          · have follows := (List.pairwise_cons.mp cuts.ordered).1 lexeme later
            have notEmpty := (cuts.within lexeme member).2.1
            omega
        obtain ⟨more, isMore, behindFirst, joined⟩ := cuts.insertBehind ignorable reaches
        rw [← isMore] at place
        rcases List.mem_cons.mp member with rfl | later
        · -- the place is where the first token stops, so nothing stands between
          obtain rfl : more = [] := eq_nil_of_byteWidth_eq_zero (by omega)
          have cutsMoved : Cuts lexeme.span.stop (between ++ behind)
              (lexemes.map (Lexeme.relocate (Span.shift (byteWidth between)))) :=
            .behindGapText ignorable (behindFirst.shift (byteWidth between))
          exact ⟨_, joined _ cutsMoved,
            congrArg (lexeme.token :: ·) (map_token_relocate _ lexemes)⟩
        · obtain ⟨moved, cutsMoved, same⟩ := ih behindFirst later place
          exact ⟨first :: moved, joined moved cutsMoved, congrArg (first.token :: ·) same⟩

end Inserting

/-- What reading a text results in, apart from places: the definitions without their
spans, or the message and the hint of the error. -/
def spanless : Except SyntaxError (List Definition) →
    Except (String × Option String) (List Definition)
  | .ok definitions => .ok (definitions.map Definition.unplaced)
  | .error error => .error (error.cause.message, error.cause.hint?)

theorem spanless_eq_of_agree {left right : Except SyntaxError (List Definition)}
    (agree : Agree (fun left right =>
      left.map Definition.unplaced = right.map Definition.unplaced) left right) :
    spanless left = spanless right := by
  cases agree with
  | ok same => exact congrArg Except.ok same
  | error sameCause => simp only [spanless, sameCause]

/-- Ignorable text that is put in where a token starts or stops changes neither the
tokens of a text nor, apart from places, what it is read as or why it is refused. -/
theorem insert_gapText {before between behind : String} {found : List Lexeme}
    (cut : lexemes (before ++ behind) = .ok found)
    (boundary : ∃ lexeme ∈ found, lexeme.span.start = before.utf8ByteSize ∨
      lexeme.span.stop = before.utf8ByteSize)
    (ignorable : between.toList ∈ gapText) :
    ∃ moved, lexemes (before ++ between ++ behind) = .ok moved ∧
      moved.map Lexeme.token = found.map Lexeme.token ∧
      spanless (read (before ++ between ++ behind)) = spanless (read (before ++ behind)) := by
  have cuts := lexemes_eq_ok_iff.mp cut
  rw [String.toList_append] at cuts
  obtain ⟨moved, cutsMoved, sameTokens⟩ := cuts.insert ignorable (by
    simpa only [Nat.zero_add, byteWidth_toList] using boundary)
  have cutMoved : lexemes (before ++ between ++ behind) = .ok moved := by
    rw [lexemes_eq_ok_iff, String.toList_append, String.toList_append, List.append_assoc]
    exact cutsMoved
  refine ⟨moved, cutMoved, sameTokens, ?_⟩
  rw [read, read, cut, cutMoved]
  exact spanless_eq_of_agree (ofLexemes_alike sameTokens)

/-- A closed comment between the name of a type and its directive. -/
theorem insert_comment_behind_name :
    ∃ moved, lexemes ("type A" ++ ",#@\n" ++ "@D") = .ok moved ∧
      moved.map Lexeme.token = [.name "type", .name "A", .punct .atSign, .name "D"] ∧
      spanless (read ("type A" ++ ",#@\n" ++ "@D")) = spanless (read ("type A" ++ "@D")) := by
  have cut : lexemes ("type A" ++ "@D") =
      .ok [⟨.name "type", ⟨0, 4⟩⟩, ⟨.name "A", ⟨5, 6⟩⟩, ⟨.punct .atSign, ⟨6, 7⟩⟩,
        ⟨.name "D", ⟨7, 8⟩⟩] := by
    cbv
  have closed : ['#', '@', '\n'] ∈ gapText :=
    cons_mem_gapText (cons_mem_gapTextFrom (cons_mem_gapTextFrom nil_mem_gapText))
  have ignorable : ",#@\n".toList ∈ gapText :=
    append_mem_gapText (ignored_mem_gapText rfl) closed
  exact insert_gapText cut ⟨⟨.name "A", ⟨5, 6⟩⟩, by simp, Or.inr rfl⟩ ignorable

end EntityMapping.Document
