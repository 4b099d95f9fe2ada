import EntityMapping.Document.DefinitionReader

/-!
# Reading mapping files

A text is cut into lexemes, and the lexemes are read as definitions.
-/

namespace EntityMapping.Document

/-- The cursor in front of the given lexemes. -/
def Cursor.ofLexemes (lexemes : List Lexeme) : Cursor :=
  ⟨lexemes, ⟨0, 0⟩⟩

/-- The definitions that lexemes spell. -/
def ofLexemes (lexemes : List Lexeme) : Except SyntaxError (List Definition) :=
  (Cursor.ofLexemes lexemes).definitions

/-- The definitions of a source text. -/
def read (source : String) : Except SyntaxError (List Definition) :=
  lexemes source >>= ofLexemes

end EntityMapping.Document
