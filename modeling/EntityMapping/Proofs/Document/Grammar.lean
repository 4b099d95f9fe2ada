import EntityMapping.Proofs.Document.CanonicalSpelling
import EntityMapping.Proofs.Document.DocumentReader
import EntityMapping.Proofs.Document.Liberties
import EntityMapping.Proofs.Document.SpelledDefinitions

/-!
# The grammar of documents

The reader accepts the spellings of well-formed documents and nothing else, and
builds the definitions that are spelled.
-/

namespace EntityMapping.Document

open EntityMapping.Source

/-- Canonical tokens of well-formed definitions are read as these definitions up to
spans.  Lexemes are read as given definitions just if these are well formed and the
lexemes spell them, and then they have the canonical tokens but for the liberties. -/
theorem reads_exactly_grammar (definitions : List Definition) (lexemes : List Lexeme) :
    ((∀ definition ∈ definitions, definition.WellFormed) →
      lexemes.map Lexeme.token = documentTokens definitions →
        ∃ found, ofLexemes lexemes = .ok found ∧
          found.map Definition.unplaced = definitions.map Definition.unplaced) ∧
    (ofLexemes lexemes = .ok definitions ↔
      (∀ definition ∈ definitions, definition.WellFormed) ∧
        lexemes ∈ documentSpelling definitions) ∧
    (ofLexemes lexemes = .ok definitions →
      Varies (documentTokens definitions) (lexemes.map Lexeme.token)) := by
  refine ⟨?_, ?_, ?_⟩
  · intro wellFormed same
    obtain ⟨found, alike, member⟩ := spellsLike_document wellFormed lexemes same
    exact ⟨found, ofLexemes_eq_ok_iff.mpr member, alike⟩
  · constructor
    · intro read
      have member := ofLexemes_eq_ok_iff.mp read
      exact ⟨wellFormed_of_documentSpelling member, member⟩
    · rintro ⟨-, member⟩
      exact ofLexemes_eq_ok_iff.mpr member
  · intro read
    exact loose_document definitions lexemes (ofLexemes_eq_ok_iff.mp read)

/-- The lexemes of `extend type A @D(k: ROOT)`. -/
def annotatedExtension : List Lexeme :=
  [⟨.name "extend", ⟨0, 6⟩⟩, ⟨.name "type", ⟨7, 11⟩⟩, ⟨.name "A", ⟨12, 13⟩⟩,
    ⟨.punct .atSign, ⟨14, 15⟩⟩, ⟨.name "D", ⟨15, 16⟩⟩, ⟨.punct .parenOpen, ⟨16, 17⟩⟩,
    ⟨.name "k", ⟨17, 18⟩⟩, ⟨.punct .colon, ⟨18, 19⟩⟩, ⟨.name "ROOT", ⟨20, 24⟩⟩,
    ⟨.punct .parenClose, ⟨24, 25⟩⟩]

/-- The type that `annotatedExtension` extends, without spans. -/
def annotatedType : ObjectType :=
  ⟨none, "A", [], [⟨"D", [⟨"k", .enum "ROOT", ⟨0, 0⟩⟩], ⟨0, 0⟩⟩], [], ⟨0, 0⟩⟩

theorem annotatedExtension_read :
    ∃ found, ofLexemes annotatedExtension = .ok found ∧
      found.map Definition.unplaced = [.extension annotatedType] := by
  have argument : (Value.enum "ROOT").WellFormed := .enum (by decide)
  refine (reads_exactly_grammar [.extension annotatedType] annotatedExtension).1 ?_ rfl
  intro definition member
  rw [List.mem_singleton.mp member]
  exact ⟨rfl, by simp [annotatedType, Directive.WellFormed, argument], by simp [annotatedType]⟩

/-! ## Descriptions of schemas -/

/-- The spellings of a definition, whatever it spans, in which only the description
stands that the definition keeps. -/
def Definition.keptSpelling (definition : Definition) : Language Lexeme :=
  describing definition.description? * (word definition.keyword * definition.body)

/-- The lexemes of `"d" schema { query: Q }`. -/
def describedSchema : List Lexeme :=
  [⟨.string "d", ⟨0, 3⟩⟩, ⟨.name "schema", ⟨4, 10⟩⟩, ⟨.punct .braceOpen, ⟨11, 12⟩⟩,
    ⟨.name "query", ⟨13, 18⟩⟩, ⟨.punct .colon, ⟨18, 19⟩⟩, ⟨.name "Q", ⟨20, 21⟩⟩,
    ⟨.punct .braceClose, ⟨22, 23⟩⟩]

/-- A schema is read behind a description, which is then in no part of it. -/
theorem schema_read_behind_description :
    ∃ roots, ofLexemes describedSchema = .ok [.schema roots] ∧
      describedSchema ∉ sequenced Definition.keptSpelling [.schema roots] := by
  refine ⟨⟨[], [("query", "Q")], ⟨0, 23⟩⟩, by cbv, ?_⟩
  rw [sequenced_cons]
  rintro ⟨used, spelled, rest, -, same⟩
  obtain ⟨about, noAbout, behindAbout, ⟨keyword, ⟨span, rfl⟩, body, -, rfl⟩, rfl⟩ := spelled
  rw [(Language.mem_one about).mp noAbout] at same
  cases same

end EntityMapping.Document
