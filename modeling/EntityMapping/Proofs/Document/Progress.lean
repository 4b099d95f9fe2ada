import EntityMapping.Proofs.Document.FollowedDefinitions

/-!
# Progress of the parser

Main statement: on every list of lexemes the program of a document ends, after a number of
steps that is linear in the number of lexemes, with the outcome of reading the lexemes; on the
way its position never goes back and never passes the end, and every round of a loop and every
call of a function that calls itself fails or gets ahead.
-/

namespace EntityMapping.Document.Program

open EntityMapping.Source

/-- The program of a document in front of the first lexeme. -/
def beginning : Configuration (List Definition) :=
  ⟨document, 0, ⟨0, 0⟩⟩

/-- Everything that can be reached from the beginning lies on an orderly run to where nothing is
left to do. -/
theorem OrderlyRun.progresses {lexemes : List Lexeme} {total count : Nat}
    {final here : Configuration (List Definition)}
    (run : OrderlyRun lexemes total beginning final) (halted : step lexemes final = none)
    (orderly : Orderly lexemes final) (reaches : Reaches lexemes count beginning here) :
    here.pos ≤ lexemes.length ∧
      (∀ next, step lexemes here = some next → here.pos ≤ next.pos) ∧ Orderly lexemes here :=
  ⟨reaches.pos_le_length (Nat.zero_le _), fun _ stepped => pos_le_of_step stepped,
    run.orderly_of_reaches halted orderly reaches⟩

/-- On every list of lexemes: whatever is reached from the beginning stands inside of the list,
steps nowhere back and is orderly.  The run ends within 64 steps for each lexeme and 64 more, where
every call of a function is a step of its own: behind the last lexeme with the definitions that
are read, or with the error of reading. -/
theorem document_progresses (lexemes : List Lexeme) :
    (∀ count here, Reaches lexemes count beginning here →
      here.pos ≤ lexemes.length ∧
      (∀ next, step lexemes here = some next → here.pos ≤ next.pos) ∧
      Orderly lexemes here) ∧
    ∃ count final, count ≤ 64 * (lexemes.length + 1) ∧ Reaches lexemes count beginning final ∧
      ((∃ definitions, ofLexemes lexemes = .ok definitions ∧
          final.program = .done definitions ∧ final.pos = lexemes.length) ∨
        ∃ error, ofLexemes lexemes = .error error ∧ final.program = .fail error) := by
  have follows : Follows (lexemes.length + 1) 3 16 document Cursor.allDefinitions :=
    follows_document
  have comes := follows lexemes 0 ⟨0, 0⟩ (Nat.zero_le _) (by omega)
  generalize isOutcome : Cursor.allDefinitions ⟨lexemes.drop 0, ⟨0, 0⟩⟩ = outcome at comes
  rw [List.drop_zero] at isOutcome
  cases comes with
  | @done count behind definitions last run paid =>
      obtain ⟨isRead, nothingLeft⟩ := Cursor.definitions_eq_ok_of_allDefinitions isOutcome
      have inside : behind ≤ lexemes.length := run.reaches.pos_le_length (Nat.zero_le _)
      have atEnd : lexemes.length ≤ behind := List.drop_eq_nil_iff.mp nothingLeft
      refine ⟨fun _ _ => run.progresses rfl trivial, count, _, ?_, run.reaches, .inl ?_⟩
      · simp only [stepsPerLexeme] at paid
        omega
      · exact ⟨definitions, isRead, rfl, Nat.le_antisymm inside atEnd⟩
  | @failed count behind error last run paid =>
      have inside : behind ≤ lexemes.length := run.reaches.pos_le_length (Nat.zero_le _)
      refine ⟨fun _ _ => run.progresses rfl trivial, count, _, ?_, run.reaches, .inr ?_⟩
      · simp only [stepsPerLexeme] at paid
        omega
      · exact ⟨error, map_eq_error_iff.mp isOutcome, rfl⟩

/-- The loop over the definitions of a document that has one, of two lexemes. -/
theorem scalarDefinition_progresses :
    let lexemes : List Lexeme := [⟨.name "scalar", ⟨0, 6⟩⟩, ⟨.name "Date", ⟨7, 11⟩⟩]
    let loop : Configuration (List Definition) := ⟨repeatWhile more definition, 0, ⟨0, 0⟩⟩
    Reaches lexemes 1 beginning loop ∧ Orderly lexemes loop ∧
      ∃ count final, count ≤ 192 ∧ Reaches lexemes count beginning final ∧
        final.program = .done [.scalar ⟨none, "Date", [], ⟨0, 11⟩⟩] ∧ final.pos = 2 := by
  intro lexemes loop
  have isRead : ofLexemes lexemes = .ok [.scalar ⟨none, "Date", [], ⟨0, 11⟩⟩] := by
    cbv
  have reachesLoop : Reaches lexemes 1 beginning loop := .head rfl (.refl _)
  obtain ⟨always, count, final, bounded, reaches, outcome⟩ := document_progresses lexemes
  refine ⟨reachesLoop, (always 1 loop reachesLoop).2.2, count, final, bounded, reaches, ?_⟩
  obtain ⟨definitions, read, isDone, atEnd⟩ | ⟨error, failed, -⟩ := outcome
  · rw [isRead] at read
    cases read
    exact ⟨isDone, atEnd⟩
  · rw [isRead] at failed
    cases failed

end EntityMapping.Document.Program
