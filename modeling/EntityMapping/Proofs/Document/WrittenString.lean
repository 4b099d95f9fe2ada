import EntityMapping.Proofs.Document.Cutting

/-!
# Ways to write a string

Each character of a string can be written as it stands, by a short escape, or by its code in
hexadecimal digits of either case.  Scanning for the closing quote and decoding the body both
go over what is written character by character, and agree on where each one ends.  Main
statement: a string in quotes, with each character written in any of these ways, is the single
token of that string.
-/

namespace EntityMapping.Document

open EntityMapping.Source
open EntityMapping.Text

/-! ## Writing characters -/

/-- Characters that cannot stand for themselves inside quotes. -/
def escapedChars : List Char :=
  ['"', '\\', '\r', '\n']

/-- The letters of short escapes and the characters that they stand for. -/
def shortEscapes : List (Char × Char) :=
  [('n', '\n'), ('r', '\r'), ('t', '\t'), ('b', '\x08'), ('f', '\x0c'), ('/', '/'), ('\\', '\\'),
    ('"', '"')]

/-- The hexadecimal digits of either case with their values. -/
def hexDigits : List (Char × Nat) :=
  ['0', '1', '2', '3', '4', '5', '6', '7', '8', '9', 'a', 'b', 'c', 'd', 'e', 'f'].zipIdx ++
    ['A', 'B', 'C', 'D', 'E', 'F'].zipIdx 10

/-- The ways to write a character of a string. -/
inductive Writes : Char → List Char → Prop where
  | plain {c : Char} (allowed : c ∉ escapedChars) : Writes c [c]
  | short {letter c : Char} (listed : (letter, c) ∈ shortEscapes) : Writes c ['\\', letter]
  | code {c first second third fourth : Char} {high upper lower low : Nat}
      (ofFirst : (first, high) ∈ hexDigits) (ofSecond : (second, upper) ∈ hexDigits)
      (ofThird : (third, lower) ∈ hexDigits) (ofFourth : (fourth, low) ∈ hexDigits)
      (isCode : c.toNat = 4096 * high + 256 * upper + 16 * lower + low) :
      Writes c ['\\', 'u', first, second, third, fourth]

/-- The text in quotes with the given ways to write its characters. -/
def quotedText (pieces : List (List Char)) : String :=
  String.ofList ('"' :: (pieces.flatten ++ ['"']))

theorem hexDigits_values :
    ∀ entry ∈ hexDigits, StringLiteral.hexValue? entry.1 = some entry.2 := by
  decide

theorem hexDigits_plain : ∀ entry ∈ hexDigits, entry.1 ∉ escapedChars ∧ entry.1 ≠ '+' := by
  decide

theorem shortEscapes_values :
    ∀ entry ∈ shortEscapes, StringLiteral.shortEscape? entry.1 = some entry.2 := by
  decide

theorem shortEscapes_letters : ∀ entry ∈ shortEscapes, entry.1 ≠ '\n' ∧ entry.1 ≠ 'u' := by
  decide

/-- What a character is written as is not empty, and does not begin with a quote. -/
theorem Writes.exists_head {c : Char} {piece : List Char} (written : Writes c piece) :
    ∃ first others, piece = first :: others ∧ first ≠ '"' := by
  cases written with
  | plain allowed =>
      refine ⟨c, [], rfl, fun isQuote => allowed ?_⟩
      rw [isQuote]
      exact List.mem_cons_self
  | short listed => exact ⟨'\\', _, rfl, by decide⟩
  | code ofFirst ofSecond ofThird ofFourth isCode => exact ⟨'\\', _, rfl, by decide⟩

namespace StringLiteral

/-! ## Finding the closing quote -/

theorem Extent.after_after (front middle : List Char) (extent : Extent) :
    (extent.after middle).after front = extent.after (front ++ middle) := by
  simp [after]

theorem extent_plain {c : Char} (allowed : c ∉ escapedChars) (rest : List Char) :
    extent (c :: rest) = (extent rest).after [c] := by
  simp only [escapedChars, List.mem_cons, List.not_mem_nil, or_false, not_or] at allowed
  obtain ⟨notQuote, notBackslash, notReturn, notFeed⟩ := allowed
  rw [extent]
  · simp [notBackslash, notReturn, notFeed]
  · exact notQuote
  · exact fun _ _ isBackslash => absurd isBackslash notBackslash

/-- What a character is written as does not close the string. -/
theorem extent_written {c : Char} {piece : List Char} (written : Writes c piece)
    (rest : List Char) : extent (piece ++ rest) = (extent rest).after piece := by
  cases written with
  | plain allowed => exact extent_plain allowed rest
  | short listed =>
      rw [List.cons_append, List.cons_append, List.nil_append, extent,
        if_neg (shortEscapes_letters _ listed).1]
  | code ofFirst ofSecond ofThird ofFourth isCode =>
      simp only [List.cons_append, List.nil_append]
      rw [extent, if_neg (by decide), extent_plain (hexDigits_plain _ ofFirst).1,
        extent_plain (hexDigits_plain _ ofSecond).1, extent_plain (hexDigits_plain _ ofThird).1,
        extent_plain (hexDigits_plain _ ofFourth).1]
      simp only [Extent.after_after, List.cons_append, List.nil_append]

/-! ## Decoding -/

theorem decode?_plain {c : Char} (notBackslash : c ≠ '\\') (rest : List Char) :
    decode? (c :: rest) = (decode? rest).map (c :: ·) := by
  rw [decode?]
  · exact fun _ _ _ _ _ isBackslash => absurd isBackslash notBackslash
  · exact fun _ _ isBackslash => absurd isBackslash notBackslash
  · exact fun isBackslash => absurd isBackslash notBackslash

theorem decode?_short {letter c : Char} (listed : (letter, c) ∈ shortEscapes) (rest : List Char) :
    decode? ('\\' :: letter :: rest) = (decode? rest).map (c :: ·) := by
  have isShort := shortEscapes_values _ listed
  have notCode := (shortEscapes_letters _ listed).2
  rw [decode?]
  · rw [isShort]
    rfl
  · exact fun _ _ _ _ _ isCode => absurd isCode notCode

theorem codeChar?_digits {c first second third fourth : Char} {high upper lower low : Nat}
    (ofFirst : (first, high) ∈ hexDigits) (ofSecond : (second, upper) ∈ hexDigits)
    (ofThird : (third, lower) ∈ hexDigits) (ofFourth : (fourth, low) ∈ hexDigits)
    (isCode : c.toNat = 4096 * high + 256 * upper + 16 * lower + low) :
    codeChar? first [second, third, fourth] = some c := by
  have number : hexNumber? [first, second, third, fourth] = some c.toNat := by
    have isFirst := hexDigits_values _ ofFirst
    have isSecond := hexDigits_values _ ofSecond
    have isThird := hexDigits_values _ ofThird
    have isFourth := hexDigits_values _ ofFourth
    simp only at isFirst isSecond isThird isFourth
    simp only [hexNumber?, List.foldlM_cons, List.foldlM_nil, isFirst, isSecond, isThird, isFourth,
      Option.map_some, Option.bind_eq_bind, Option.bind_some, Option.pure_def]
    rw [isCode]
    congr 1
    omega
  have noSurrogate : ¬ (0xd800 ≤ c.toNat ∧ c.toNat ≤ 0xdfff) := by
    rintro ⟨notBelow, notAbove⟩
    rcases c.valid with below | ⟨above, -⟩
    · exact absurd (Nat.lt_of_le_of_lt notBelow below) (Nat.lt_irrefl _)
    · exact absurd (Nat.lt_of_lt_of_le above notAbove) (Nat.lt_irrefl _)
  rw [codeChar?, if_neg (hexDigits_plain _ ofFirst).2, number]
  change (if _ then _ else _) = _
  rw [if_neg noSurrogate, Char.ofNat_toNat]

/-- Whatever a character is written as stands for it. -/
theorem decode?_written {c : Char} {piece : List Char} (written : Writes c piece)
    (rest : List Char) : decode? (piece ++ rest) = (decode? rest).map (c :: ·) := by
  cases written with
  | plain allowed =>
      refine decode?_plain (fun isBackslash => allowed ?_) rest
      rw [isBackslash]
      decide
  | short listed => exact decode?_short listed rest
  | code ofFirst ofSecond ofThird ofFourth isCode =>
      simp only [List.cons_append, List.nil_append]
      rw [decode?, codeChar?_digits ofFirst ofSecond ofThird ofFourth isCode]
      rfl

variable {chars : List Char} {pieces : List (List Char)}

/-- The string runs to the quote behind what its characters are written as. -/
theorem extent_pieces (written : List.Forall₂ Writes chars pieces) (rest : List Char) :
    extent (pieces.flatten ++ '"' :: rest) = ⟨pieces.flatten, rest, true⟩ := by
  induction written with
  | nil => rfl
  | cons ofFirst ofOthers ih =>
      rw [List.flatten_cons, List.append_assoc, extent_written ofFirst, ih]
      rfl

theorem decode?_pieces (written : List.Forall₂ Writes chars pieces) :
    decode? pieces.flatten = some chars := by
  induction written with
  | nil => rfl
  | cons ofFirst ofOthers ih =>
      rw [List.flatten_cons, decode?_written ofFirst, ih, Option.map_some]

end StringLiteral

/-! ## The token -/

section Token

variable {chars : List Char} {pieces : List (List Char)}

/-- Two quotes only follow each other at once where there are no characters, and then no third
one comes behind them. -/
theorem Piece.quoted_pieces (written : List.Forall₂ Writes chars pieces) :
    Piece.quoted (pieces.flatten ++ ['"']) = Piece.string (pieces.flatten ++ ['"']) := by
  cases written with
  | nil => rfl
  | cons ofFirst ofOthers =>
      obtain ⟨first, others, rfl, notQuote⟩ := ofFirst.exists_head
      rw [List.flatten_cons, List.cons_append, List.cons_append, Piece.quoted]
      intro _ startsWithQuotes
      exact absurd (List.cons.inj startsWithQuotes).1 notQuote

theorem Piece.first_pieces (written : List.Forall₂ Writes chars pieces) :
    Piece.first '"' (pieces.flatten ++ ['"']) =
      ⟨some (.string (String.ofList chars)), '"' :: (pieces.flatten ++ ['"']), []⟩ := by
  have isQuoted : Piece.first '"' (pieces.flatten ++ ['"']) =
      Piece.quoted (pieces.flatten ++ ['"']) := rfl
  rw [isQuoted, Piece.quoted_pieces written, Piece.string, StringLiteral.extent_pieces written]
  simp only [StringLiteral.decode?_pieces written, Option.map_some, StringLiteral.Extent.text]

/-- A string in quotes is read back from whatever its characters are written as, and is all that
the text holds. -/
theorem lexemes_quotedText {value : String} (written : List.Forall₂ Writes value.toList pieces) :
    lexemes (quotedText pieces) =
      .ok [⟨.string value, ⟨0, (quotedText pieces).utf8ByteSize⟩⟩] := by
  have isFirst : Piece.first '"' (pieces.flatten ++ ['"'] ++ []) =
      ⟨some (.string value), '"' :: (pieces.flatten ++ ['"']), []⟩ := by
    rw [List.append_nil, Piece.first_pieces written, String.ofList_toList]
  have noGap : splitIgnored false ('"' :: (pieces.flatten ++ ['"'])) =
      ([], '"' :: (pieces.flatten ++ ['"'] ++ [])) := by
    rw [List.append_nil]
    rfl
  rw [lexemes_eq_ok_iff, quotedText, String.toList_ofList, utf8ByteSize_ofList]
  exact .cons noGap isFirst rfl (Nat.zero_add _).symm (.nil rfl)

end Token

/-- A letter as it stands, codes with digits of either case, and short escapes. -/
def mixedPieces : List (List Char) :=
  [['n'], ['\\', 'u', '0', '0', 'e', '9'], ['\\', 'u', '2', '0', 'A', 'c'], ['\\', '"'],
    ['\\', 'n']]

theorem writes_mixedPieces : List.Forall₂ Writes "né€\"\n".toList mixedPieces := by
  have letter : Writes 'n' ['n'] := .plain (by decide)
  have accented : Writes 'é' ['\\', 'u', '0', '0', 'e', '9'] :=
    .code (by decide : ('0', 0) ∈ hexDigits) (by decide : ('0', 0) ∈ hexDigits)
      (by decide : ('e', 14) ∈ hexDigits) (by decide : ('9', 9) ∈ hexDigits) (by decide)
  have sign : Writes '€' ['\\', 'u', '2', '0', 'A', 'c'] :=
    .code (by decide : ('2', 2) ∈ hexDigits) (by decide : ('0', 0) ∈ hexDigits)
      (by decide : ('A', 10) ∈ hexDigits) (by decide : ('c', 12) ∈ hexDigits) (by decide)
  have quote : Writes '"' ['\\', '"'] := .short (by decide)
  have feed : Writes '\n' ['\\', 'n'] := .short (by decide)
  exact .cons letter (.cons accented (.cons sign (.cons quote (.cons feed .nil))))

theorem lexemes_mixedPieces : lexemes "\"n\\u00e9\\u20Ac\\\"\\n\"" =
    .ok [⟨.string "né€\"\n", ⟨0, 19⟩⟩] := by
  have text : quotedText mixedPieces = "\"n\\u00e9\\u20Ac\\\"\\n\"" := by decide
  have read := lexemes_quotedText writes_mixedPieces
  rw [text] at read
  exact read

end EntityMapping.Document
