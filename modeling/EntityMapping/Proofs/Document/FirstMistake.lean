import Mathlib
import EntityMapping.Proofs.Document.AlikeDefinitions
import EntityMapping.Proofs.Document.Cutting
import EntityMapping.Proofs.Document.GuidedDefinitions

/-!
# The first mistake of a text

A text that is cut into lexemes but not read as a mapping file is refused at the first
lexeme with which no mapping file goes on.  The lexemes in front of that place begin a text
that can be read, and whatever follows the lexemes that have to be looked at, the complaint
is the same.
-/

namespace EntityMapping.Document

open EntityMapping.Source
open EntityMapping.Text

/-- The lexemes that stop at a place or in front of it. -/
def stoppedBy (place : Nat) (found : List Lexeme) : List Lexeme :=
  found.filter fun lexeme => lexeme.span.stop ≤ place

section Places

variable {offset : Nat} {text : List Char} {found kept behind : List Lexeme} {first : Lexeme}

/-- What stops where a lexeme starts, or before, stands in front of this lexeme. -/
theorem Cuts.stoppedBy_start (cuts : Cuts offset text (kept ++ first :: behind)) :
    stoppedBy first.span.start (kept ++ first :: behind) = kept := by
  obtain ⟨-, fromFirst, inFront⟩ := List.pairwise_append.mp cuts.ordered
  have earlier : ∀ lexeme ∈ kept, lexeme.span.stop ≤ first.span.start :=
    fun lexeme member => inFront lexeme member first List.mem_cons_self
  have notEarlier : ∀ lexeme ∈ first :: behind, ¬ lexeme.span.stop ≤ first.span.start := by
    have firstWide := cuts.start_lt_stop first (by simp)
    intro lexeme member
    have wide := cuts.start_lt_stop lexeme (List.mem_append_right kept member)
    rcases List.mem_cons.mp member with rfl | later
    · omega
    · have follows := (List.pairwise_cons.mp fromFirst).1 lexeme later
      omega
  rw [stoppedBy, List.filter_append, List.filter_eq_self.mpr (by simpa using earlier),
    List.filter_eq_nil_iff.mpr (by simpa using notEarlier), List.append_nil]

/-- All lexemes of a text stop where the last of them does, or before. -/
theorem Cuts.stoppedBy_end (cuts : Cuts 0 text found) :
    stoppedBy (lastSpan ⟨0, 0⟩ found).stop found = found := by
  rw [← List.append_nil found] at cuts
  obtain ⟨front, behind, -, inFront, ends⟩ := cuts.take
  refine List.filter_eq_self.mpr fun lexeme member => ?_
  rw [ends ⟨0, 0⟩ rfl]
  exact decide_eq_true (inFront.within lexeme member).2.2

end Places

/-! ## Completing a text -/

/-- Tokens that can be written can be written behind a text. -/
theorem Cuts.extend {offset : Nat} {text : List Char} {found more : List Lexeme}
    (cuts : Cuts offset text found) (written : ∀ lexeme ∈ more, Writable lexeme.token) :
    ∃ added placed, Cuts offset (text ++ added) (found ++ placed) ∧
      placed.map Lexeme.token = more.map Lexeme.token := by
  induction more generalizing text found with
  | nil => exact ⟨[], [], by simpa using cuts, rfl⟩
  | cons lexeme more ih =>
      obtain ⟨⟨source, span, cut⟩, writtenMore⟩ := List.forall_mem_cons.mp written
      have alone := (lexemes_eq_ok_iff.mp cut).shift (offset + byteWidth text + 1)
      rw [Nat.zero_add] at alone
      obtain ⟨added, placed, extended, same⟩ := ih (cuts.join alone) writtenMore
      rw [List.append_assoc, List.append_assoc] at extended
      exact ⟨'\n' :: source.toList ++ added, _, extended, congrArg (lexeme.token :: ·) same⟩

theorem exists_ok_of_sameTokens {lefts rights : List Lexeme} {definitions : List Definition}
    (same : lefts.map Lexeme.token = rights.map Lexeme.token)
    (isRead : ofLexemes rights = .ok definitions) : ∃ others, ofLexemes lefts = .ok others := by
  have agree := ofLexemes_alike same
  rw [isRead] at agree
  generalize ofLexemes lefts = result at agree
  cases agree with
  | ok alike => exact ⟨_, rfl⟩

/-- Lexemes at the front of a text that begin a document are those at the front of a text
that can be read. -/
theorem Cuts.complete {text : List Char} {kept behind : List Lexeme}
    (cuts : Cuts 0 text (kept ++ behind)) (begins : kept ∈ begun (anyOf documentSpelling)) :
    ∃ other more definitions, lexemes other = .ok (kept ++ more) ∧
      read other = .ok definitions := by
  obtain ⟨front, -, -, inFront, -⟩ := cuts.take
  obtain ⟨more, written, definitions, spelled⟩ := begins
  obtain ⟨added, placed, extended, same⟩ := inFront.extend written
  have cut : lexemes (String.ofList (front ++ added)) = .ok (kept ++ placed) := by
    rw [lexemes_eq_ok_iff, String.toList_ofList]
    exact extended
  have sameTokens : (kept ++ placed).map Lexeme.token = (kept ++ more).map Lexeme.token := by
    rw [List.map_append, List.map_append, same]
  obtain ⟨others, isRead⟩ :=
    exists_ok_of_sameTokens sameTokens (ofLexemes_eq_ok_iff.mpr spelled)
  refine ⟨String.ofList (front ++ added), placed, others, cut, ?_⟩
  rw [read, cut, ok_bind, isRead]

theorem exists_ofLexemes_of_begun {front : List Lexeme}
    (begins : front ∈ begun (anyOf documentSpelling)) :
    ∃ more definitions, ofLexemes (front ++ more) = .ok definitions := by
  obtain ⟨more, -, definitions, spelled⟩ := begins
  exact ⟨more, definitions, ofLexemes_eq_ok_iff.mpr spelled⟩

/-! ## Where a text is refused -/

/-- A text is refused at its first mistake.  The lexemes that stop where the error starts,
or before, begin a text that can be read.  If the input ended too early, these are all
lexemes, and the place is the end of the last one.  Otherwise the error stands at the lexeme
behind them, and the same error is found whatever stands behind the lexemes that have been
looked at; the last of these had to be looked at, as without it the text could still go
on. -/
theorem first_mistake {source : String} {found : List Lexeme} {error : SyntaxError}
    (cut : lexemes source = .ok found) (failed : read source = .error error) :
    (∃ other more definitions,
      lexemes other = .ok (stoppedBy error.span.start found ++ more) ∧
        read other = .ok definitions) ∧
    (error.cause.AtEnd → stoppedBy error.span.start found = found ∧
      error.span = (lastSpan ⟨0, 0⟩ found).endPoint) ∧
    (¬ error.cause.AtEnd → ∃ looked unread,
      found = stoppedBy error.span.start found ++ (looked ++ unread) ∧
        looked.head?.map Lexeme.span = some error.span ∧
        (∀ more, ofLexemes (stoppedBy error.span.start found ++ (looked ++ more)) =
          .error error) ∧
        ∃ more definitions,
          ofLexemes (stoppedBy error.span.start found ++ looked.dropLast ++ more) =
            .ok definitions) := by
  have cuts := lexemes_eq_ok_iff.mp cut
  rw [read, cut, ok_bind] at failed
  cases Cursor.definitions_blames failed with
  | atEnd ends begins place =>
      have all : stoppedBy error.span.start found = found := by
        rw [place]
        exact cuts.stoppedBy_end
      rw [all]
      rw [← List.append_nil found] at cuts
      exact ⟨cuts.complete begins, fun _ => ⟨rfl, place⟩, fun inside => absurd ends inside⟩
  | within inside kept first others unread split place reach begins same =>
      have isFound : found = kept ++ (first :: others ++ unread) := split
      have front : stoppedBy error.span.start found = kept := by
        rw [isFound] at cuts ⊢
        rw [place]
        exact cuts.stoppedBy_start
      have decided : first :: others = (first :: others).dropLast ++
          [(first :: others).getLast (List.cons_ne_nil first others)] :=
        (List.dropLast_concat_getLast _).symm
      rw [isFound, decided, List.append_assoc, ← List.append_assoc kept] at cuts
      obtain ⟨other, more, definitions, cutOther, readOther⟩ := cuts.complete begins
      rw [List.append_assoc] at cutOther
      rw [front]
      refine ⟨⟨other, _, definitions, cutOther, readOther⟩, fun ends => absurd ends inside,
        fun _ => ⟨first :: others, unread, isFound, congrArg some place.symm, same, ?_⟩⟩
      exact exists_ofLexemes_of_begun begins

/-- A description in front of an extension is complained about as soon as the keyword has
been looked at, whatever is extended. -/
theorem describedExtension_refused :
    ∃ found, lexemes "type A \"about\" extend type B" = .ok found ∧
      read "type A \"about\" extend type B" = .error ⟨.describedExtension, ⟨7, 14⟩⟩ ∧
      stoppedBy 7 found = [⟨.name "type", ⟨0, 4⟩⟩, ⟨.name "A", ⟨5, 6⟩⟩] ∧
      (∃ other more definitions, lexemes other = .ok (stoppedBy 7 found ++ more) ∧
        read other = .ok definitions) ∧
      ∃ looked unread, found = stoppedBy 7 found ++ (looked ++ unread) ∧
        looked.head?.map Lexeme.span = some ⟨7, 14⟩ ∧
        (∀ more, ofLexemes (stoppedBy 7 found ++ (looked ++ more)) =
          .error ⟨.describedExtension, ⟨7, 14⟩⟩) ∧
        ∃ more definitions,
          ofLexemes (stoppedBy 7 found ++ looked.dropLast ++ more) = .ok definitions := by
  have cut : lexemes "type A \"about\" extend type B" =
      .ok [⟨.name "type", ⟨0, 4⟩⟩, ⟨.name "A", ⟨5, 6⟩⟩, ⟨.string "about", ⟨7, 14⟩⟩,
        ⟨.name "extend", ⟨15, 21⟩⟩, ⟨.name "type", ⟨22, 26⟩⟩, ⟨.name "B", ⟨27, 28⟩⟩] := by
    cbv
  have failed : read "type A \"about\" extend type B" =
      .error ⟨.describedExtension, ⟨7, 14⟩⟩ := by
    cbv
  obtain ⟨completed, -, refused⟩ := first_mistake cut failed
  exact ⟨_, cut, failed, rfl, completed, refused fun atEnd => atEnd⟩

end EntityMapping.Document
