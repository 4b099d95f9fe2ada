import EntityMapping.Proofs.Document.TokenEnds
import EntityMapping.Proofs.Document.TokenPatterns

/-!
# The longest token is taken

Where an item of a text begins, several patterns may match, and some of them only in part of
what looks like a token at first.  Main statement: whatever the text is, each item is made of the
longest match of any pattern: it is the token of that match, or the match is refused as a whole.
Only where no pattern matches at all other characters are an error.
-/

namespace EntityMapping.Document

open EntityMapping.Source
open EntityMapping.Text

/-! ## Block strings -/

namespace BlockString

/-- A text goes on, by quotes that a backslash precedes and by other characters, up to three
quotes that close it. -/
inductive RunsTo : List Char → List Char → List Char → Prop where
  | closing (after : List Char) : RunsTo ('"' :: '"' :: '"' :: after) [] after
  | escaped {rest raw after : List Char} (others : RunsTo rest raw after) :
      RunsTo ('\\' :: '"' :: '"' :: '"' :: rest) ('\\' :: '"' :: '"' :: '"' :: raw) after
  | plain {c : Char} {rest raw after : List Char}
      (notClosing : ¬ ['"', '"', '"'] <+: c :: rest)
      (notEscaped : ¬ ['\\', '"', '"', '"'] <+: c :: rest) (others : RunsTo rest raw after) :
      RunsTo (c :: rest) (c :: raw) after

theorem extent?_eq_some_iff {text raw after : List Char} :
    extent? text = some (raw, after) ↔ RunsTo text raw after := by
  constructor
  · intro found
    induction text using extent?.induct generalizing raw after with
    | case1 => cases found
    | case2 rest ih =>
        rw [extent?, Option.map_eq_some_iff] at found
        obtain ⟨⟨inner, last⟩, within, pair⟩ := found
        cases pair
        exact .escaped (ih within)
    | case3 rest =>
        cases found
        exact .closing _
    | case4 c rest notEscaped notClosing ih =>
        rw [extent?, Option.map_eq_some_iff] at found
        · obtain ⟨⟨inner, last⟩, within, pair⟩ := found
          cases pair
          refine .plain ?_ ?_ (ih within)
          · rintro ⟨more, same⟩
            obtain ⟨isQuote, isRest⟩ := List.cons.inj same
            exact notClosing more isQuote.symm isRest.symm
          · rintro ⟨more, same⟩
            obtain ⟨isBackslash, isRest⟩ := List.cons.inj same
            exact notEscaped more isBackslash.symm isRest.symm
        · exact notEscaped
        · exact notClosing
  · intro runs
    induction runs with
    | closing after => rfl
    | escaped others ih =>
        rw [extent?, ih]
        rfl
    | plain notClosing notEscaped others ih =>
        rw [extent?, ih]
        · rfl
        · rintro more rfl rfl
          exact notEscaped ⟨more, rfl⟩
        · rintro more rfl rfl
          exact notClosing ⟨more, rfl⟩

end BlockString

/-! ## What is made of a match -/

namespace TokenPattern

/-- A match is accepted as a token, which goes on behind it by further characters only if it is
a block string. -/
inductive Accepts (matched behind : List Char) :
    TokenPattern → Token → (extension : List Char) → Prop where
  | punct (punctuator : Punctuator) :
      Accepts matched behind (.punct punctuator) (.punct punctuator) []
  | name : Accepts matched behind .name (.name (String.ofList matched)) []
  | int {value : Int64} (fits : NumberLiteral.intValue? matched = some value) :
      Accepts matched behind .int (.int value) []
  | float : Accepts matched behind .float (.float (NumberLiteral.floatValue matched)) []
  | string {body value : List Char} (isText : matched = inQuotes body)
      (decoded : StringLiteral.decode? body = some value) :
      Accepts matched behind .string (.string (String.ofList value)) []
  | blockString {raw after : List Char} (runs : BlockString.RunsTo behind raw after) :
      Accepts matched behind .blockOpening
        (.blockString (String.ofList (BlockString.value (BlockString.unescape raw))))
        (raw ++ ['"', '"', '"'])

/-- The item that a match yields at the given start: the token as which it is accepted, or an
error that spans the match if it is not accepted. -/
inductive Yields (start : Nat) (matched behind : List Char) (pattern : TokenPattern) :
    Item → Prop where
  | token {token : Token} {extension : List Char}
      (accepts : pattern.Accepts matched behind token extension) :
      Yields start matched behind pattern
        (.lexeme ⟨token, ⟨start, start + byteWidth (matched ++ extension)⟩⟩)
  | refused (rejects : ∀ token extension, ¬ pattern.Accepts matched behind token extension) :
      Yields start matched behind pattern
        (.stray (String.ofList matched) ⟨start, start + byteWidth matched⟩)

end TokenPattern

/-! ## The first character -/

/-- The families of patterns that can be told apart by the first character. -/
inductive Family where
  | word
  | number
  | quotation
  | points
  | sign
deriving DecidableEq

/-- The family of the patterns that can begin with a character. -/
def Family.ofChar (c : Char) : Family :=
  if isNameStart c then .word
  else if isDigit c || c = '-' then .number
  else if c = '"' then .quotation
  else if c = '.' then .points
  else .sign

/-- The patterns of a family. -/
def Family.patterns : Family → Set TokenPattern
  | word => {.name}
  | number => {.int, .float}
  | quotation => {.string, .blockOpening}
  | points => {.punct .spread}
  | sign => {pattern | ∃ punctuator ≠ .spread, pattern = .punct punctuator}

namespace TokenPattern

theorem ofChar_of_isDigit {c : Char} (digit : isDigit c = true) : Family.ofChar c = .number := by
  have each : (StringLiteral.charsBetween '0' '9').all (Family.ofChar · = .number) = true := by
    decide
  have among := StringLiteral.mem_charsBetween (isDigit_iff.mp digit)
  exact of_decide_eq_true (List.all_eq_true.mp each c among)

/-- A number begins with a digit or a minus sign. -/
theorem ofChar_of_isNumber {c : Char} (isNumber : isDigit c = true ∨ c = '-') :
    Family.ofChar c = .number := by
  rcases isNumber with digit | rfl
  · exact ofChar_of_isDigit digit
  · rfl

theorem begins_family (pattern : TokenPattern) :
    Begins pattern.language fun c => pattern ∈ (Family.ofChar c).patterns := by
  have ofInteger : Begins integer (Family.ofChar · = .number) :=
    begins_integer.mono fun _ => ofChar_of_isNumber
  cases pattern with
  | punct punctuator =>
      rintro _ rfl
      cases punctuator <;>
        first | exact ⟨_, _, rfl, rfl⟩ | exact ⟨_, _, rfl, _, by decide, rfl⟩
  | name =>
      refine Begins.mul (begins_oneOf fun c isStart => ?_) _
      have ofFamily : Family.ofChar c = .word := if_pos (isNameStart_iff.mpr isStart)
      rw [ofFamily]
      rfl
  | int => exact ofInteger.mono fun c isNumber => isNumber ▸ Or.inl rfl
  | float => exact (ofInteger.mono fun c isNumber => isNumber ▸ Or.inr rfl).mul floatSuffix
  | string => exact ((begins_single (Or.inl rfl) []).mul _).mul _
  | blockOpening => exact begins_single (Or.inr rfl) _

/-- A match begins like its text, so its pattern can begin with the first character. -/
theorem exists_tail_of_matches {pattern : TokenPattern} {matched rest : List Char} {c : Char}
    (isMatch : pattern.Matches matched (c :: rest)) :
    pattern ∈ (Family.ofChar c).patterns ∧ ∃ tail, matched = c :: tail ∧ tail <+: rest := by
  obtain ⟨first, tail, rfl, isMember⟩ := pattern.begins_family matched isMatch.1
  obtain ⟨rfl, isPrefix⟩ := List.cons_prefix_cons.mp isMatch.2
  exact ⟨isMember, tail, rfl, isPrefix⟩

/-- A pattern matches, and every match of a pattern is a part of this one, which is smaller if
the pattern is another one. -/
structure Wins (pattern : TokenPattern) (matched text : List Char) : Prop where
  isMatch : pattern.Matches matched text
  covers : ∀ (other : TokenPattern) front, other.Matches front text →
    front <+: matched ∧ (front = matched → other = pattern)

namespace Wins

variable {pattern other : TokenPattern} {matched front text : List Char}

theorem longest (wins : pattern.Wins matched text) : pattern.Longest matched text :=
  ⟨wins.isMatch, fun other front isMatch => (wins.covers other front isMatch).1.length_le⟩

/-- There is no other longest match. -/
theorem unique (wins : pattern.Wins matched text) (longest : other.Longest front text) :
    other = pattern ∧ front = matched := by
  obtain ⟨isPart, whole⟩ := wins.covers other front longest.1
  have same := isPart.eq_of_length_le (longest.2 pattern matched wins.isMatch)
  exact ⟨whole same, same⟩

end Wins

/-- The first piece of a text is what the pattern makes of it that wins, or no pattern matches
and the piece is no token. -/
def Decides (text : List Char) (piece : Piece) : Prop :=
  (∃ (pattern : TokenPattern) (matched behind : List Char), text = matched ++ behind ∧
    pattern.Wins matched text ∧ ∀ start, pattern.Yields start matched behind
      (Item.ofPiece piece ⟨start, start + byteWidth piece.text⟩)) ∨
  (∀ (pattern : TokenPattern) matched, ¬ pattern.Matches matched text) ∧ piece.token = none

/-! ## The first piece -/

section Decides

variable {pattern : TokenPattern} {matched behind text : List Char}

theorem decides_of_accepts {token : Token} (wins : pattern.Wins matched (matched ++ behind))
    (accepts : pattern.Accepts matched behind token []) :
    Decides (matched ++ behind) ⟨some token, matched, behind⟩ := by
  refine Or.inl ⟨pattern, matched, behind, rfl, wins, fun start => ?_⟩
  have whole : pattern.Yields start matched behind _ := .token accepts
  rw [List.append_nil] at whole
  exact whole

theorem decides_of_rejects (wins : pattern.Wins matched (matched ++ behind))
    (rejects : ∀ token extension, ¬ pattern.Accepts matched behind token extension) :
    Decides (matched ++ behind) ⟨none, matched, behind⟩ :=
  Or.inl ⟨pattern, matched, behind, rfl, wins, fun _ => .refused rejects⟩

theorem decides_name {c : Char} (isStart : isNameStart c = true) (rest : List Char) :
    Decides (c :: rest) (Piece.name c rest) := by
  have isRun : ∀ d ∈ rest.takeWhile isNameChar, isNameChar d = true :=
    List.all_eq_true.mp List.all_takeWhile
  have whole := Piece.name_append c rest
  have wins : name.Wins (c :: rest.takeWhile isNameChar) (c :: rest) := by
    refine ⟨⟨cons_mem_nameText_iff.mpr ⟨isStart, isRun⟩, ⟨_, whole⟩⟩, fun other front isMatch => ?_⟩
    obtain ⟨isMember, tail, rfl, more, rfl⟩ := exists_tail_of_matches isMatch
    rw [show Family.ofChar c = .word from if_pos isStart] at isMember
    obtain rfl : other = .name := isMember
    rw [List.takeWhile_append_of_pos (cons_mem_nameText_iff.mp isMatch.1).2]
    exact ⟨List.prefix_append (c :: tail) _, fun _ => rfl⟩
  rw [← whole] at wins ⊢
  exact decides_of_accepts wins .name

/-! ## Numbers -/

/-- An integer ends where a fraction or an exponent begins. -/
theorem integer?_append {number suffix : List Char} (isInteger : number ∈ integer)
    (isSuffix : suffix ∈ floatSuffix) (behind : List Char) :
    NumberLiteral.integer? (number ++ (suffix ++ behind)) = some (number, suffix ++ behind) := by
  obtain ⟨key, others, rfl, isKey⟩ := begins_floatSuffix suffix isSuffix
  refine finds_integer.exact isInteger fun c isHead more isLonger => ?_
  cases isHead
  -- no integer goes on with the key of a suffix
  have allowed := isDigit_of_mem_integer isLonger key (by simp)
  rcases isKey with rfl | rfl | rfl
  · exact absurd allowed (by decide)
  · exact absurd allowed (by decide)
  · exact absurd allowed (by decide)

/-- An integer at the front of a text is a part of the one that is found. -/
theorem prefix_of_int_matches {front literal after : List Char} (isMatch : int.Matches front text)
    (found : NumberLiteral.integer? text = some (literal, after)) : front <+: literal := by
  obtain ⟨isInteger, behind, rfl⟩ := isMatch
  obtain ⟨other, last, foundAlso, isPrefix⟩ := finds_integer.complete isInteger behind
  cases found.symm.trans foundAlso
  exact isPrefix

/-- A number with a fraction or an exponent is the integer that is found, and this behind it. -/
theorem exists_suffix_of_float_matches {front : List Char} (isMatch : float.Matches front text) :
    ∃ literal suffix behind, NumberLiteral.integer? text = some (literal, suffix ++ behind) ∧
      suffix ∈ floatSuffix ∧ front = literal ++ suffix := by
  obtain ⟨⟨literal, isInteger, suffix, isSuffix, rfl⟩, behind, rfl⟩ := isMatch
  refine ⟨literal, suffix, behind, ?_, isSuffix, rfl⟩
  rw [List.append_assoc]
  exact integer?_append isInteger isSuffix behind

theorem wins_int {literal after : List Char}
    (members : ∀ other front, Matches other front text → other = .int ∨ other = .float)
    (found : NumberLiteral.integer? text = some (literal, after))
    (noSuffix : NumberLiteral.floatSuffix? after = none) : int.Wins literal text := by
  obtain ⟨isInteger, whole⟩ := finds_integer.sound found
  refine ⟨⟨isInteger, after, whole⟩, fun other front isMatch => ?_⟩
  rcases members other front isMatch with rfl | rfl
  · exact ⟨prefix_of_int_matches isMatch found, fun _ => rfl⟩
  · obtain ⟨number, suffix, behind, foundAlso, isSuffix, rfl⟩ :=
      exists_suffix_of_float_matches isMatch
    cases found.symm.trans foundAlso
    exact absurd isSuffix (finds_floatSuffix.not_mem_of_none noSuffix)

theorem wins_float {literal suffix after last : List Char}
    (members : ∀ other front, Matches other front text → other = .int ∨ other = .float)
    (found : NumberLiteral.integer? text = some (literal, after))
    (hasSuffix : NumberLiteral.floatSuffix? after = some (suffix, last)) :
    float.Wins (literal ++ suffix) text := by
  obtain ⟨isInteger, whole⟩ := finds_integer.sound found
  obtain ⟨isSuffix, rfl⟩ := finds_floatSuffix.sound hasSuffix
  rw [← List.append_assoc] at whole
  refine ⟨⟨Language.append_mem_mul isInteger isSuffix, last, whole⟩, fun other front isMatch => ?_⟩
  rcases members other front isMatch with rfl | rfl
  · have isPart := prefix_of_int_matches isMatch found
    refine ⟨isPart.trans (List.prefix_append literal suffix), fun same => ?_⟩
    -- the suffix is not empty, so the integer is smaller
    obtain ⟨key, others, rfl, -⟩ := begins_floatSuffix suffix isSuffix
    have shorter := isPart.length_le
    rw [same, List.length_append, List.length_cons] at shorter
    omega
  · obtain ⟨number, otherSuffix, behind, foundAlso, isOther, rfl⟩ :=
      exists_suffix_of_float_matches isMatch
    obtain ⟨rfl, same⟩ := Prod.mk.inj (Option.some.inj (found.symm.trans foundAlso))
    obtain ⟨longer, more, hasLonger, isPrefix⟩ := finds_floatSuffix.complete isOther behind
    rw [← same, hasSuffix] at hasLonger
    cases hasLonger
    exact ⟨(List.prefix_append_right_inj literal).mpr isPrefix, fun _ => rfl⟩

theorem decides_number {c : Char} (ofFamily : Family.ofChar c = .number) (rest : List Char) :
    Decides (c :: rest) (Piece.number c rest) := by
  have members : ∀ other front, Matches other front (c :: rest) →
      other = .int ∨ other = .float := by
    intro other front isMatch
    have isMember := (exists_tail_of_matches isMatch).1
    rwa [ofFamily] at isMember
  unfold Piece.number
  split
  · rename_i absent
    refine Or.inr ⟨fun other front isMatch => ?_, rfl⟩
    rcases members other front isMatch with rfl | rfl
    · obtain ⟨isInteger, behind, whole⟩ := isMatch
      rw [← whole] at absent
      exact finds_integer.not_mem_of_none absent isInteger
    · obtain ⟨literal, suffix, behind, found, -, -⟩ := exists_suffix_of_float_matches isMatch
      cases absent.symm.trans found
  · rename_i literal after found
    have whole := (finds_integer.sound found).2
    split
    · rename_i noSuffix
      have wins := wins_int members found noSuffix
      rw [← whole] at wins ⊢
      cases fits : NumberLiteral.intValue? literal with
      | none =>
          refine decides_of_rejects wins fun token extension accepts => ?_
          cases accepts with
          | int fitsAlso => cases fits.symm.trans fitsAlso
      | some value => exact decides_of_accepts wins (.int fits)
    · rename_i suffix last hasSuffix
      have wins := wins_float members found hasSuffix
      rw [← whole, ← (finds_floatSuffix.sound hasSuffix).2, ← List.append_assoc] at wins ⊢
      exact decides_of_accepts wins .float

/-! ## Strings -/

/-- A quoted string at the front of a text is a body in quotes. -/
theorem exists_body_of_string_matches {front rest : List Char}
    (isMatch : string.Matches front ('"' :: rest)) :
    ∃ body behind, IsBody body ∧ front = inQuotes body ∧ rest = body ++ '"' :: behind := by
  obtain ⟨isString, behind, whole⟩ := isMatch
  obtain ⟨body, isBody, rfl⟩ := mem_string_iff.mp isString
  refine ⟨body, behind, isBody, rfl, ?_⟩
  rw [← (List.cons.inj whole).2, List.append_eq, List.append_assoc]
  rfl

/-- The quotes of an empty string are a part of those that open a block string. -/
theorem wins_blockOpening (more : List Char) :
    blockOpening.Wins ['"', '"', '"'] (['"', '"', '"'] ++ more) := by
  refine ⟨⟨rfl, List.prefix_append _ more⟩, fun other front isMatch => ?_⟩
  rcases (exists_tail_of_matches isMatch).1 with rfl | rfl
  · obtain ⟨body, behind, isBody, rfl, isRest⟩ := exists_body_of_string_matches isMatch
    cases body with
    | nil =>
        refine ⟨by decide, fun same => ?_⟩
        cases same
    | cons c body =>
        obtain ⟨rfl, -⟩ := List.cons.inj isRest
        exact absurd rfl isBody.ne_quote_cons
  · rw [show front = ['"', '"', '"'] from isMatch.1]
    exact ⟨List.prefix_rfl, fun _ => rfl⟩

theorem decides_blockString (more : List Char) :
    Decides ('"' :: '"' :: '"' :: more) (Piece.blockString more) := by
  have wins := wins_blockOpening more
  unfold Piece.blockString
  split
  · rename_i absent
    refine decides_of_rejects wins fun token extension accepts => ?_
    cases accepts with
    | blockString runs => cases absent.symm.trans (BlockString.extent?_eq_some_iff.mpr runs)
  · rename_i raw after found
    refine Or.inl ⟨blockOpening, ['"', '"', '"'], more, rfl, wins, fun start => ?_⟩
    rw [List.append_assoc]
    exact .token (.blockString (BlockString.extent?_eq_some_iff.mp found))

/-- What a closed string holds is a body. -/
theorem isBody_of_closed {text : List Char}
    (closed : (StringLiteral.extent text).closed = true) :
    IsBody (StringLiteral.extent text).body := by
  fun_induction StringLiteral.extent text with
  | case1 => cases closed
  | case2 rest => exact .nil
  | case3 rest => cases closed
  | case4 c rest notFeed ih => exact .escape notFeed (ih closed)
  | case5 c rest notQuote notPair stops => cases closed
  | case6 c rest notQuote notPair goesOn ih =>
      have allowed : c ∉ escapedChars := by
        intro isEscaped
        rcases List.mem_cons.mp isEscaped with isQuote | isOther
        · exact notQuote isQuote
        · exact goesOn (by simpa using isOther)
      exact .plain allowed (ih closed)

theorem inQuotes_injective : Function.Injective inQuotes :=
  fun _ _ same => List.append_cancel_right (List.cons.inj same).2

theorem decides_inQuotes {body : List Char}
    (wins : string.Wins (inQuotes body) (inQuotes body ++ behind)) :
    Decides (inQuotes body ++ behind) (inQuotesPiece body behind) := by
  unfold inQuotesPiece
  cases decoded : StringLiteral.decode? body with
  | none =>
      refine decides_of_rejects wins fun token extension accepts => ?_
      cases accepts with
      | string isText decodedAlso =>
          rw [← inQuotes_injective isText, decoded] at decodedAlso
          cases decodedAlso
  | some value => exact decides_of_accepts wins (.string rfl decoded)

theorem decides_string {rest : List Char} (noBlock : ∀ more, rest ≠ '"' :: '"' :: more) :
    Decides ('"' :: rest) (Piece.string rest) := by
  have isString : ∀ other front, Matches other front ('"' :: rest) → other = .string ∧
      ∃ body behind, front = inQuotes body ∧ StringLiteral.extent rest = ⟨body, behind, true⟩ := by
    intro other front isMatch
    rcases (exists_tail_of_matches isMatch).1 with rfl | rfl
    · obtain ⟨body, behind, isBody, rfl, rfl⟩ := exists_body_of_string_matches isMatch
      exact ⟨rfl, body, behind, rfl, isBody.extent_eq behind⟩
    · obtain ⟨isOpening, more, whole⟩ := isMatch
      obtain rfl : front = ['"', '"', '"'] := isOpening
      exact absurd (List.cons.inj whole).2.symm (noBlock more)
  have whole := StringLiteral.text_append_rest rest
  have isBody : (StringLiteral.extent rest).closed = true →
      IsBody (StringLiteral.extent rest).body := isBody_of_closed
  rcases found : StringLiteral.extent rest with ⟨body, behind, _ | _⟩
  · refine Or.inr ⟨fun other front isMatch => ?_, ?_⟩
    · obtain ⟨-, _, _, -, foundAlso⟩ := isString other front isMatch
      cases found.symm.trans foundAlso
    · rw [Piece.string, found]
  · rw [found] at whole isBody
    have isText : '"' :: rest = inQuotes body ++ behind := congrArg ('"' :: ·) whole.symm
    have wins : string.Wins (inQuotes body) ('"' :: rest) := by
      refine ⟨⟨mem_string_iff.mpr ⟨body, isBody rfl, rfl⟩, behind, isText.symm⟩, ?_⟩
      intro other front isMatch
      obtain ⟨rfl, _, _, rfl, foundAlso⟩ := isString other front isMatch
      cases found.symm.trans foundAlso
      exact ⟨List.prefix_rfl, fun _ => rfl⟩
    rw [Piece.string, found]
    rw [isText] at wins ⊢
    exact decides_inQuotes wins

theorem decides_quoted (rest : List Char) : Decides ('"' :: rest) (Piece.quoted rest) := by
  unfold Piece.quoted
  split
  · exact decides_blockString _
  · rename_i noBlock
    exact decides_string noBlock

/-! ## Punctuators -/

theorem decides_points (rest : List Char) : Decides ('.' :: rest) (Piece.points rest) := by
  have isPoints : ∀ other front, Matches other front ('.' :: rest) →
      other = .punct .spread ∧ front = ['.', '.', '.'] := by
    intro other front isMatch
    obtain rfl : other = .punct .spread := (exists_tail_of_matches isMatch).1
    exact ⟨rfl, isMatch.1⟩
  unfold Piece.points
  split
  · rename_i more
    have wins : (punct .spread).Wins ['.', '.', '.'] (['.', '.', '.'] ++ more) := by
      refine ⟨⟨rfl, List.prefix_append _ more⟩, fun other front isMatch => ?_⟩
      obtain ⟨rfl, rfl⟩ := isPoints other front isMatch
      exact ⟨List.prefix_rfl, fun _ => rfl⟩
    exact decides_of_accepts wins (.punct .spread)
  · rename_i notPoints
    refine Or.inr ⟨fun other front isMatch => ?_, rfl⟩
    obtain ⟨rfl, rfl⟩ := isPoints other front isMatch
    obtain ⟨more, whole⟩ := isMatch.2
    exact notPoints more (List.cons.inj whole).2.symm

theorem exists_char_of_ne_spread {punctuator : Punctuator} (single : punctuator ≠ .spread) :
    ∃ c, punctuator.text.toList = [c] ∧ Punctuator.ofChar? c = some punctuator := by
  cases punctuator <;> first | exact absurd rfl single | exact ⟨_, rfl, rfl⟩

theorem decides_punctuation {c : Char} (ofFamily : Family.ofChar c = .sign) (rest : List Char) :
    Decides (c :: rest) (Piece.punctuation c rest) := by
  have isSign : ∀ other front, Matches other front (c :: rest) → front = [c] ∧
      ∃ punctuator, other = .punct punctuator ∧ Punctuator.ofChar? c = some punctuator := by
    intro other front isMatch
    obtain ⟨isMember, tail, rfl, -⟩ := exists_tail_of_matches isMatch
    rw [ofFamily] at isMember
    obtain ⟨punctuator, single, rfl⟩ := isMember
    obtain ⟨d, isText, known⟩ := exists_char_of_ne_spread single
    obtain ⟨rfl, rfl⟩ := List.cons.inj ((show c :: tail = _ from isMatch.1).trans isText)
    exact ⟨rfl, punctuator, rfl, known⟩
  unfold Piece.punctuation
  cases known : Punctuator.ofChar? c with
  | none =>
      refine Or.inr ⟨fun other front isMatch => ?_, rfl⟩
      obtain ⟨-, punctuator, -, knownAlso⟩ := isSign other front isMatch
      cases known.symm.trans knownAlso
  | some punctuator =>
      have isText : [c] = punctuator.text.toList := by
        rw [Punctuator.ofChar?_eq_some known]
        exact (String.toList_singleton c).symm
      have wins : (punct punctuator).Wins [c] ([c] ++ rest) := by
        refine ⟨⟨isText, List.prefix_append [c] rest⟩, fun other front isMatch => ?_⟩
        obtain ⟨rfl, _, rfl, knownAlso⟩ := isSign other front isMatch
        cases known.symm.trans knownAlso
        exact ⟨List.prefix_rfl, fun _ => rfl⟩
      exact decides_of_accepts wins (.punct punctuator)

/-- The first piece of a text is made of the longest match. -/
theorem decides_first (c : Char) (rest : List Char) :
    Decides (c :: rest) (Piece.first c rest) := by
  unfold Piece.first
  split
  · rename_i isName
    exact decides_name isName rest
  · rename_i notName
    split
    · rename_i isNumber
      refine decides_number ?_ rest
      rw [Family.ofChar, if_neg notName, if_pos isNumber]
    · rename_i notNumber
      split
      · rename_i isQuote
        rw [isQuote]
        exact decides_quoted rest
      · rename_i notQuote
        split
        · rename_i isPoint
          rw [isPoint]
          exact decides_points rest
        · rename_i notPoint
          refine decides_punctuation ?_ rest
          rw [Family.ofChar, if_neg notName, if_neg notNumber, if_neg notQuote, if_neg notPoint]

end Decides

end TokenPattern

/-! ## Items of a text -/

open TokenPattern

/-- The first item of a text: the longest match yields it if any pattern matches, and it is no
token otherwise. -/
structure TakesLongest (text : List Char) (item : Item) : Prop where
  exists_longest : ∀ (pattern : TokenPattern) front, pattern.Matches front text →
    ∃ (other : TokenPattern) (matched : List Char), other.Longest matched text
  yields : ∀ (pattern : TokenPattern) (matched behind : List Char), text = matched ++ behind →
    pattern.Longest matched text → pattern.Yields item.span.start matched behind item
  otherwise : (∀ (pattern : TokenPattern) matched, ¬ pattern.Matches matched text) →
    ∃ refused, item = .stray refused item.span

theorem takesLongest_ofPiece {text : List Char} {piece : Piece} (decides : Decides text piece)
    (start : Nat) :
    TakesLongest text (Item.ofPiece piece ⟨start, start + byteWidth piece.text⟩) := by
  rcases decides with ⟨pattern, matched, behind, rfl, wins, yields⟩ | ⟨noMatch, noToken⟩
  · refine ⟨fun _ _ _ => ⟨pattern, matched, wins.longest⟩, ?_, ?_⟩
    · intro other front rest isText longest
      obtain ⟨rfl, rfl⟩ := wins.unique longest
      obtain rfl := List.append_cancel_left isText
      rw [Item.span_ofPiece]
      exact yields start
    · exact fun noMatch => absurd wins.isMatch (noMatch pattern matched)
  · refine ⟨fun other front isMatch => absurd isMatch (noMatch other front), ?_, fun _ => ?_⟩
    · exact fun other front _ _ longest => absurd longest.1 (noMatch other front)
    · rw [Item.span_ofPiece, Item.ofPiece, noToken]
      exact ⟨String.ofList piece.text, rfl⟩

/-- Whatever the text is, each item begins where nothing ignorable stands, and there it is made
of the longest match of any pattern.  It is this match as a token, which goes on up to the closing
quotes in a block string, or the match is refused as a whole.  Only where no pattern matches, other
characters are refused. -/
theorem longest_match_taken (source : String) : ∀ item ∈ items source,
    ∃ before c tail, source.toList = before ++ c :: tail ∧ beginsGap c = false ∧
      item.span.start = byteWidth before ∧ TakesLongest (c :: tail) item := by
  intro item member
  obtain ⟨before, c, tail, isText, notGap, rfl⟩ := exists_first_of_mem_itemsFrom item member
  refine ⟨before, c, tail, isText, notGap, ?_, takesLongest_ofPiece (decides_first c tail) _⟩
  rw [Item.span_ofPiece, Nat.zero_add]

/-- An exponent without digits is left behind the number. -/
theorem exponent_without_digits_left :
    items "-1e+" = [.lexeme ⟨.int (-1), ⟨0, 2⟩⟩, .lexeme ⟨.name "e", ⟨2, 3⟩⟩, .stray "+" ⟨3, 4⟩] ∧
      TakesLongest ['-', '1', 'e', '+'] (.lexeme ⟨.int (-1), ⟨0, 2⟩⟩) := by
  have run : items "-1e+" =
      [.lexeme ⟨.int (-1), ⟨0, 2⟩⟩, .lexeme ⟨.name "e", ⟨2, 3⟩⟩, .stray "+" ⟨3, 4⟩] := by
    cbv
  have isFirst : .lexeme ⟨.int (-1), ⟨0, 2⟩⟩ ∈ items "-1e+" := by
    rw [run]
    exact List.mem_cons_self
  obtain ⟨before, c, tail, isText, -, isStart, takes⟩ := longest_match_taken "-1e+" _ isFirst
  obtain rfl : before = [] := eq_nil_of_byteWidth_eq_zero isStart.symm
  have isRest : ['-', '1', 'e', '+'] = c :: tail := isText
  rw [← isRest] at takes
  exact ⟨run, takes⟩

end EntityMapping.Document
