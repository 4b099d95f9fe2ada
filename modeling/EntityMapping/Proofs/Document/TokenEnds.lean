import EntityMapping.Proofs.Document.Tiling

/-!
# The ends of tokens

A piece of a text begins with a character that no ignorable text begins with, and a token
ends with one.  So neither end of a token, nor the start of any other piece, stands between
the two characters of a line ending.
-/

namespace EntityMapping.Document

open EntityMapping.Source
open EntityMapping.Text

/-! ## Numbers -/

namespace NumberLiteral

/-- A scanner that finds no character that ignorable text begins with. -/
def Gapless (scan : List Char → Option (List Char × List Char)) : Prop :=
  ∀ text literal after, scan text = some (literal, after) → ∀ c ∈ literal, beginsGap c = false

theorem gapless_branch {key : Char} {inner base : List Char → Option (List Char × List Char)}
    (notGap : beginsGap key = false) (gaplessInner : Gapless inner) (gaplessBase : Gapless base) :
    Gapless (branch key inner base) := by
  intro text literal after found
  rcases branch_cases found with ⟨rest, digits, rfl, rfl, within⟩ | ⟨-, before⟩
  · exact List.forall_mem_cons.mpr ⟨notGap, gaplessInner rest digits after within⟩
  · exact gaplessBase text literal after before

theorem gapless_nothing : Gapless fun _ => none :=
  nofun

theorem digits?_gapless : Gapless digits? := by
  intro text literal after found
  cases text with
  | nil => cases found
  | cons c rest =>
      rw [digits?] at found
      split at found
      · rename_i digit
        cases found
        have run : ∀ c ∈ rest.takeWhile isDigit, isDigit c = true :=
          List.all_eq_true.mp List.all_takeWhile
        exact List.forall_mem_cons.mpr ⟨beginsGap_of_isDigit digit,
          fun c member => beginsGap_of_isDigit (run c member)⟩
      · cases found

theorem natural?_gapless : Gapless natural? := by
  have zero : Gapless fun rest => some ([], rest) := by
    intro text literal after found
    cases found
    exact List.forall_mem_nil _
  rw [natural?_eq]
  exact gapless_branch (by decide) zero digits?_gapless

theorem integer?_gapless : Gapless integer? := by
  rw [integer?_eq]
  exact gapless_branch (by decide) natural?_gapless natural?_gapless

theorem signedDigits?_gapless : Gapless signedDigits? := by
  rw [signedDigits?_eq]
  exact gapless_branch (by decide) digits?_gapless
    (gapless_branch (by decide) digits?_gapless digits?_gapless)

theorem fraction?_gapless : Gapless fraction? := by
  rw [fraction?_eq]
  exact gapless_branch (by decide) digits?_gapless gapless_nothing

theorem exponent?_gapless : Gapless exponent? := by
  rw [exponent?_eq]
  exact gapless_branch (by decide) signedDigits?_gapless
    (gapless_branch (by decide) signedDigits?_gapless gapless_nothing)

theorem floatSuffix?_gapless : Gapless floatSuffix? := by
  intro text literal after found
  unfold floatSuffix? at found
  split at found
  · exact exponent?_gapless text literal after found
  · rename_i fraction middle isFraction
    have inFraction := fraction?_gapless text fraction middle isFraction
    split at found
    · cases found
      exact inFraction
    · rename_i exponent last isExponent
      cases found
      have inExponent := exponent?_gapless middle exponent after isExponent
      exact List.forall_mem_append.mpr ⟨inFraction, inExponent⟩

end NumberLiteral

/-! ## Pieces -/

namespace Piece

/-- The last character of a token begins no ignorable text. -/
def Ends (piece : Piece) : Prop :=
  ∀ last ∈ piece.text.getLast?, beginsGap last = false

theorem ends_of_gapless {piece : Piece} (gapless : ∀ c ∈ piece.text, beginsGap c = false) :
    piece.Ends :=
  fun last isLast => gapless last (List.mem_of_getLast? isLast)

theorem name_ends {c : Char} (isName : isNameStart c = true) (rest : List Char) :
    (name c rest).Ends := by
  have run : ∀ c ∈ rest.takeWhile isNameChar, isNameChar c = true :=
    List.all_eq_true.mp List.all_takeWhile
  have goesOn : isNameChar c = true := by rw [isNameChar, isName, Bool.true_or]
  exact ends_of_gapless (List.forall_mem_cons.mpr ⟨beginsGap_of_isNameChar goesOn,
    fun c member => beginsGap_of_isNameChar (run c member)⟩)

theorem number_ends {c : Char} {rest : List Char} (isToken : (number c rest).token ≠ none) :
    (number c rest).Ends := by
  unfold number at isToken ⊢
  split at isToken
  · exact absurd rfl isToken
  · rename_i literal after isInteger
    have inInteger := NumberLiteral.integer?_gapless _ _ _ isInteger
    cases isSuffix : NumberLiteral.floatSuffix? after with
    | none => exact ends_of_gapless inInteger
    | some found =>
        obtain ⟨suffix, last⟩ := found
        have inSuffix := NumberLiteral.floatSuffix?_gapless _ _ _ isSuffix
        exact ends_of_gapless (List.forall_mem_append.mpr ⟨inInteger, inSuffix⟩)

theorem ends_of_concat {piece : Piece} {front : List Char} {last : Char}
    (isText : piece.text = front ++ [last]) (notGap : beginsGap last = false) : piece.Ends := by
  intro other isLast
  rw [isText, List.getLast?_concat] at isLast
  cases isLast
  exact notGap

theorem string_ends {rest : List Char} (isToken : (string rest).token ≠ none) :
    (string rest).Ends := by
  have isText : (string rest).text = '"' :: (StringLiteral.extent rest).body ++ ['"'] := by
    simp [string, StringLiteral.Extent.text, closed_of_string_token isToken]
  exact ends_of_concat isText (by decide)

theorem blockString_ends {rest : List Char} (isToken : (blockString rest).token ≠ none) :
    (blockString rest).Ends := by
  unfold blockString at isToken ⊢
  split at isToken
  · exact absurd rfl isToken
  · rename_i raw after found
    have isText : ['"', '"', '"'] ++ raw ++ ['"', '"', '"'] =
        (['"', '"', '"'] ++ raw ++ ['"', '"']) ++ ['"'] := by
      simp
    exact ends_of_concat isText (by decide)

theorem quoted_ends {rest : List Char} : (quoted rest).token ≠ none → (quoted rest).Ends := by
  unfold quoted
  split
  · exact blockString_ends
  · exact string_ends

theorem points_ends (rest : List Char) : (points rest).Ends := by
  have point : beginsGap '.' = false := by decide
  unfold points
  split
  · exact ends_of_gapless (by simpa using point)
  · exact ends_of_gapless (by simpa [stray] using point)

theorem punctuation_ends {c : Char} {rest : List Char}
    (isToken : (punctuation c rest).token ≠ none) : (punctuation c rest).Ends := by
  cases known : Punctuator.ofChar? c with
  | none =>
      refine absurd ?_ isToken
      rw [punctuation, known, Option.map_none]
  | some punctuator =>
      exact ends_of_gapless (List.forall_mem_singleton.mpr (beginsGap_of_ofChar? known))

/-- A token at the front of a text ends with a character that no ignorable text begins
with. -/
theorem first_ends {c : Char} {rest : List Char} :
    (first c rest).token ≠ none → (first c rest).Ends := by
  unfold first
  split
  · rename_i isName
    exact fun _ => name_ends isName rest
  · split
    · exact number_ends
    · split
      · exact quoted_ends
      · split
        · exact fun _ => points_ends rest
        · exact punctuation_ends

end Piece

/-! ## Places of pieces -/

/-- What follows a gap begins no gap. -/
theorem beginsGap_of_splitIgnored {comment : Bool} {text gap rest : List Char} {c : Char}
    (split : splitIgnored comment text = (gap, c :: rest)) : beginsGap c = false := by
  have stays := (splitIgnored_gap split []).2
  rw [Bool.eq_false_iff]
  intro begins
  unfold beginsGap at begins
  rw [splitIgnored, if_pos begins] at stays
  cases stays

/-- Every item of a text is the first piece of what stands behind some characters and gaps. -/
theorem exists_first_of_mem_itemsFrom {offset : Nat} {text : List Char} :
    ∀ item ∈ itemsFrom offset text, ∃ before c rest,
      text = before ++ c :: rest ∧ beginsGap c = false ∧
      item = Item.ofPiece (Piece.first c rest) ⟨offset + byteWidth before,
        offset + byteWidth before + byteWidth (Piece.first c rest).text⟩ := by
  induction offset, text using itemsFrom.induct with
  | case1 offset text gap split =>
      have whole : (splitIgnored false text).2 = [] := congrArg Prod.snd split
      rw [itemsFrom_eq_nil whole]
      exact List.forall_mem_nil _
  | case2 offset text gap c rest split piece start stop ih =>
      rw [itemsFrom_eq_cons split, text_eq_of_first split]
      refine List.forall_mem_cons.mpr ⟨?_, fun item member => ?_⟩
      · exact ⟨gap, c, rest, rfl, beginsGap_of_splitIgnored split, rfl⟩
      · obtain ⟨before, d, behind, isBehind, notGap, isItem⟩ := ih item member
        refine ⟨gap ++ piece.text ++ before, d, behind, ?_, notGap, ?_⟩
        · rw [List.append_assoc, List.append_assoc, ← isBehind, Piece.first_append]
        · rw [isItem]
          simp only [start, stop, byteWidth_append, Nat.add_assoc]

/-- Every item of a text begins with a character that no ignorable text begins with. -/
theorem exists_head_of_mem_itemsFrom {offset : Nat} {text : List Char} :
    ∀ item ∈ itemsFrom offset text, ∃ before c tail behind,
      text = before ++ (c :: tail ++ behind) ∧ beginsGap c = false ∧
      item.span = ⟨offset + byteWidth before, offset + byteWidth (before ++ c :: tail)⟩ := by
  intro item member
  obtain ⟨before, c, rest, rfl, notGap, rfl⟩ := exists_first_of_mem_itemsFrom item member
  obtain ⟨first, tail, isText⟩ := List.exists_cons_of_ne_nil (Piece.first_text_ne_nil c rest)
  have whole := Piece.first_append c rest
  rw [isText] at whole
  obtain rfl : first = c := (List.cons.inj whole).1
  refine ⟨before, first, tail, (Piece.first first rest).rest, ?_, notGap, ?_⟩
  · rw [whole]
  · rw [Item.span_ofPiece, isText, byteWidth_append, Nat.add_assoc]

/-- The last token of a text ends with a character that no ignorable text begins with. -/
theorem Cuts.exists_last {offset : Nat} {text : List Char} {others : List Lexeme}
    {lexeme : Lexeme} (cuts : Cuts offset text (others ++ [lexeme])) :
    ∃ before last behind, text = before ++ [last] ++ behind ∧ beginsGap last = false ∧
      lexeme.span.stop = offset + byteWidth (before ++ [last]) := by
  obtain ⟨front, back, rfl, inBack⟩ := cuts.drop
  cases inBack with
  | @cons offset start stop text gap tail rest c token lexemes split first isStart isStop behind =>
      have isToken : (Piece.first c (tail ++ rest)).token ≠ none := by
        rw [first]
        exact Option.some_ne_none token
      have ends := Piece.first_ends isToken
      rw [first] at ends
      obtain ⟨inner, last, isText⟩ : ∃ inner last, c :: tail = inner ++ [last] :=
        ⟨_, _, (List.dropLast_concat_getLast (List.cons_ne_nil c tail)).symm⟩
      have notGap : beginsGap last = false := by
        refine ends last ?_
        rw [isText]
        exact List.getLast?_concat
      refine ⟨front ++ gap ++ inner, last, rest, ?_, notGap, ?_⟩
      · rw [text_eq_of_first split, ← List.cons_append, isText]
        simp only [List.append_assoc]
      · rw [isStop, isStart, isText]
        simp only [byteWidth_append, Nat.add_assoc]

end EntityMapping.Document
