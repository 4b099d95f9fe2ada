import Mathlib
import EntityMapping.Proofs.Document.Tiling
import EntityMapping.Proofs.Document.WrittenString

/-!
# Escapes that are read

Between quotes, a backslash takes the next character with it, whatever that is; only then is
it decided whether the two begin an escape.  Decoding goes over the body from left to right,
and each character it finds has been written in one of the known ways, or as a code of three
digits behind a plus sign.  Main statement: just the bodies that are written like this are
strings, and all others are refused with a hint.
-/

namespace EntityMapping.Document

open EntityMapping.Source
open EntityMapping.Text

/-! ## Bodies -/

/-- What can stand between quotes: characters that need no backslash, and backslashes with the
character behind them, which is on the same line. -/
inductive IsBody : List Char → Prop where
  | nil : IsBody []
  | plain {c : Char} {rest : List Char} (allowed : c ∉ escapedChars) (others : IsBody rest) :
      IsBody (c :: rest)
  | escape {c : Char} {rest : List Char} (notFeed : c ≠ '\n') (others : IsBody rest) :
      IsBody ('\\' :: c :: rest)

namespace IsBody

variable {c : Char} {body rest : List Char}

theorem plain_inv (isBody : IsBody (c :: rest)) (notBackslash : c ≠ '\\') :
    c ∉ escapedChars ∧ IsBody rest := by
  cases isBody with
  | plain allowed others => exact ⟨allowed, others⟩
  | escape notFeed others => exact absurd rfl notBackslash

theorem escape_inv (isBody : IsBody ('\\' :: c :: rest)) : IsBody rest := by
  cases isBody with
  | plain allowed others => exact absurd (by decide) allowed
  | escape notFeed others => exact others

theorem behind_plain (allowed : c ∉ escapedChars) (isBody : IsBody (c :: rest)) :
    IsBody rest := by
  refine (isBody.plain_inv fun isBackslash => allowed ?_).2
  rw [isBackslash]
  decide

/-- A body does not begin with the quote that closes it. -/
theorem ne_quote_cons (isBody : IsBody body) : body ≠ '"' :: rest := by
  rintro rfl
  cases isBody with
  | plain allowed others => exact allowed List.mem_cons_self

/-- The string runs to the quote behind its body. -/
theorem extent_eq (isBody : IsBody body) (rest : List Char) :
    StringLiteral.extent (body ++ '"' :: rest) = ⟨body, rest, true⟩ := by
  induction isBody with
  | nil => rfl
  | plain allowed others ih =>
      rw [List.cons_append, StringLiteral.extent_plain allowed, ih]
      rfl
  | escape notFeed others ih =>
      rw [List.cons_append, List.cons_append, StringLiteral.extent, if_neg notFeed, ih]
      rfl

end IsBody

/-! ## Characters that are read -/

/-- The ways to write a character that are read: the proper ones, and a code of three digits
behind a plus sign. -/
inductive Decodes (c : Char) : List Char → Prop where
  | written {piece : List Char} (written : Writes c piece) : Decodes c piece
  | signed {second third fourth : Char} {upper lower low : Nat}
      (ofSecond : (second, upper) ∈ hexDigits) (ofThird : (third, lower) ∈ hexDigits)
      (ofFourth : (fourth, low) ∈ hexDigits)
      (isCode : c.toNat = 256 * upper + 16 * lower + low) :
      Decodes c ['\\', 'u', '+', second, third, fourth]

/-- A body that is written character by character, each in one of the given ways. -/
def SpelledBy (way : Char → List Char → Prop) (chars body : List Char) : Prop :=
  ∃ pieces, List.Forall₂ way chars pieces ∧ pieces.flatten = body

/-- Every backslash of a body, from left to right, begins a short escape, or the code of a
character in four hexadecimal digits. -/
def IsWellEscaped (body : List Char) : Prop :=
  ∃ chars, SpelledBy Writes chars body

theorem spelledBy_nil (way : Char → List Char → Prop) : SpelledBy way [] [] :=
  ⟨[], .nil, rfl⟩

theorem SpelledBy.cons {way : Char → List Char → Prop} {c : Char} {chars piece rest : List Char}
    (ofFirst : way c piece) (ofOthers : SpelledBy way chars rest) :
    SpelledBy way (c :: chars) (piece ++ rest) := by
  obtain ⟨pieces, written, rfl⟩ := ofOthers
  exact ⟨piece :: pieces, .cons ofFirst written, rfl⟩

theorem SpelledBy.mono {way other : Char → List Char → Prop} {chars body : List Char}
    (stronger : ∀ c piece, piece <:+: body → way c piece → other c piece)
    (spelled : SpelledBy way chars body) : SpelledBy other chars body := by
  obtain ⟨pieces, written, rfl⟩ := spelled
  refine ⟨pieces, ?_, rfl⟩
  induction written with
  | nil => exact .nil
  | @cons c piece chars pieces ofFirst ofOthers ih =>
      refine .cons (stronger c piece ⟨[], pieces.flatten, by simp⟩ ofFirst) (ih ?_)
      rintro c inner ⟨front, behind, same⟩
      exact stronger c inner ⟨piece ++ front, behind, by simp [← same]⟩

namespace StringLiteral

/-! ## Codes -/

theorem hexDigits_lt {digit : Char} {value : Nat} (isDigit : (digit, value) ∈ hexDigits) :
    value < 16 := by
  have small : hexDigits.all (·.2 < 16) = true := by decide
  exact of_decide_eq_true (List.all_eq_true.mp small _ isDigit)

/-- The characters between two others. -/
def charsBetween (low high : Char) : List Char :=
  (List.range' low.toNat (high.toNat + 1 - low.toNat)).map Char.ofNat

theorem mem_charsBetween {low high c : Char} (within : low ≤ c ∧ c ≤ high) :
    c ∈ charsBetween low high := by
  have notBelow : low.toNat ≤ c.toNat := within.1
  have notAbove : c.toNat ≤ high.toNat := within.2
  refine List.mem_map.mpr ⟨c.toNat, List.mem_range'_1.mpr ?_, Char.ofNat_toNat c⟩
  omega

theorem mem_hexDigits_of_hexValue? {digit : Char} {value : Nat}
    (read : hexValue? digit = some value) : (digit, value) ∈ hexDigits := by
  have decimal : (charsBetween '0' '9').map (fun c => (c, c.toNat - '0'.toNat)) ⊆
      hexDigits := by decide
  have small : (charsBetween 'a' 'f').map (fun c => (c, c.toNat - 'a'.toNat + 10)) ⊆
      hexDigits := by decide
  have large : (charsBetween 'A' 'F').map (fun c => (c, c.toNat - 'A'.toNat + 10)) ⊆
      hexDigits := by decide
  unfold hexValue? at read
  split at read
  · rename_i within
    cases read
    exact decimal (List.mem_map_of_mem (mem_charsBetween within))
  · split at read
    · rename_i within
      cases read
      exact small (List.mem_map_of_mem (mem_charsBetween within))
    · split at read
      · rename_i within
        cases read
        exact large (List.mem_map_of_mem (mem_charsBetween within))
      · cases read

/-- Digits are read one after another, each sixteen times as much as the next. -/
theorem foldlM_hexValue?_eq_some_iff {digits : List Char} {start number : Nat} :
    digits.foldlM (fun value digit => (hexValue? digit).map (16 * value + ·)) start =
        some number ↔
      ∃ values, List.Forall₂ (fun digit value => (digit, value) ∈ hexDigits) digits values ∧
        number = values.foldl (fun number value => 16 * number + value) start := by
  induction digits generalizing start with
  | nil =>
      rw [List.foldlM_nil]
      constructor
      · intro same
        cases same
        exact ⟨[], .nil, rfl⟩
      · rintro ⟨values, ofDigits, rfl⟩
        cases ofDigits
        rfl
  | cons digit digits ih =>
      rw [List.foldlM_cons, Option.bind_eq_bind, Option.bind_eq_some_iff]
      constructor
      · rintro ⟨next, readFirst, readOthers⟩
        obtain ⟨value, isValue, rfl⟩ := Option.map_eq_some_iff.mp readFirst
        obtain ⟨values, ofDigits, isNumber⟩ := ih.mp readOthers
        exact ⟨value :: values, .cons (mem_hexDigits_of_hexValue? isValue) ofDigits, isNumber⟩
      · rintro ⟨values, ofDigits, isNumber⟩
        cases ofDigits with
        | cons ofFirst ofOthers =>
            refine ⟨_, ?_, ih.mpr ⟨_, ofOthers, isNumber⟩⟩
            rw [hexDigits_values _ ofFirst, Option.map_some]

theorem hexNumber?_four {first second third fourth : Char} {number : Nat} :
    hexNumber? [first, second, third, fourth] = some number ↔
      ∃ high upper lower low, (first, high) ∈ hexDigits ∧ (second, upper) ∈ hexDigits ∧
        (third, lower) ∈ hexDigits ∧ (fourth, low) ∈ hexDigits ∧
        number = 4096 * high + 256 * upper + 16 * lower + low := by
  rw [hexNumber?, foldlM_hexValue?_eq_some_iff]
  constructor
  · rintro ⟨_, _ | ⟨ofFirst, _ | ⟨ofSecond, _ | ⟨ofThird, _ | ⟨ofFourth, ⟨⟩⟩⟩⟩⟩, rfl⟩
    refine ⟨_, _, _, _, ofFirst, ofSecond, ofThird, ofFourth, ?_⟩
    simp only [List.foldl_cons, List.foldl_nil]
    omega
  · rintro ⟨high, upper, lower, low, ofFirst, ofSecond, ofThird, ofFourth, rfl⟩
    refine ⟨_, .cons ofFirst (.cons ofSecond (.cons ofThird (.cons ofFourth .nil))), ?_⟩
    simp only [List.foldl_cons, List.foldl_nil]
    omega

theorem hexNumber?_three {second third fourth : Char} {number : Nat} :
    hexNumber? [second, third, fourth] = some number ↔
      ∃ upper lower low, (second, upper) ∈ hexDigits ∧ (third, lower) ∈ hexDigits ∧
        (fourth, low) ∈ hexDigits ∧ number = 256 * upper + 16 * lower + low := by
  rw [hexNumber?, foldlM_hexValue?_eq_some_iff]
  constructor
  · rintro ⟨_, _ | ⟨ofSecond, _ | ⟨ofThird, _ | ⟨ofFourth, ⟨⟩⟩⟩⟩, rfl⟩
    refine ⟨_, _, _, ofSecond, ofThird, ofFourth, ?_⟩
    simp only [List.foldl_cons, List.foldl_nil]
    omega
  · rintro ⟨upper, lower, low, ofSecond, ofThird, ofFourth, rfl⟩
    refine ⟨_, .cons ofSecond (.cons ofThird (.cons ofFourth .nil)), ?_⟩
    simp only [List.foldl_cons, List.foldl_nil]
    omega

/-- A code of sixteen bits that is no surrogate is that of a character. -/
theorem charOfCode_eq_some_iff {number : Nat} (small : number < 65536) {c : Char} :
    (if 0xd800 ≤ number ∧ number ≤ 0xdfff then none else some (Char.ofNat number)) = some c ↔
      c.toNat = number := by
  constructor
  · intro isChar
    split at isChar
    · cases isChar
    · rename_i noSurrogate
      cases isChar
      have valid : number.isValidChar := by
        unfold Nat.isValidChar
        omega
      rw [Char.ofNat, dif_pos valid]
      rfl
  · rintro rfl
    have noSurrogate : ¬ (0xd800 ≤ c.toNat ∧ c.toNat ≤ 0xdfff) := by
      rcases c.valid with below | ⟨above, -⟩
      · exact fun within => absurd (Nat.lt_of_le_of_lt within.1 below) (Nat.lt_irrefl _)
      · exact fun within => absurd (Nat.lt_of_lt_of_le above within.2) (Nat.lt_irrefl _)
    rw [if_neg noSurrogate, Char.ofNat_toNat]

/-- Four places are the code of a character just if it can be written like that. -/
theorem codeChar?_eq_some_iff {c first second third fourth : Char} :
    codeChar? first [second, third, fourth] = some c ↔
      Decodes c ['\\', 'u', first, second, third, fourth] := by
  constructor
  · intro isChar
    rw [codeChar?, Option.bind_eq_bind, Option.bind_eq_some_iff] at isChar
    obtain ⟨number, isNumber, isChar⟩ := isChar
    split at isNumber
    · rename_i isPlus
      obtain ⟨upper, lower, low, ofSecond, ofThird, ofFourth, rfl⟩ := hexNumber?_three.mp isNumber
      have upperSmall := hexDigits_lt ofSecond
      have lowerSmall := hexDigits_lt ofThird
      have lowSmall := hexDigits_lt ofFourth
      rw [isPlus]
      exact .signed ofSecond ofThird ofFourth ((charOfCode_eq_some_iff (by omega)).mp isChar)
    · obtain ⟨high, upper, lower, low, ofFirst, ofSecond, ofThird, ofFourth, rfl⟩ :=
        hexNumber?_four.mp isNumber
      have highSmall := hexDigits_lt ofFirst
      have upperSmall := hexDigits_lt ofSecond
      have lowerSmall := hexDigits_lt ofThird
      have lowSmall := hexDigits_lt ofFourth
      exact .written (.code ofFirst ofSecond ofThird ofFourth
        ((charOfCode_eq_some_iff (by omega)).mp isChar))
  · intro decodes
    cases decodes with
    | written written =>
        cases written with
        | code ofFirst ofSecond ofThird ofFourth isCode =>
            exact codeChar?_digits ofFirst ofSecond ofThird ofFourth isCode
    | @signed _ _ _ upper lower low ofSecond ofThird ofFourth isCode =>
        have isNumber : hexNumber? [second, third, fourth] = some c.toNat :=
          hexNumber?_three.mpr ⟨upper, lower, low, ofSecond, ofThird, ofFourth, isCode⟩
        have upperSmall := hexDigits_lt ofSecond
        have lowerSmall := hexDigits_lt ofThird
        have lowSmall := hexDigits_lt ofFourth
        rw [codeChar?, if_pos rfl, isNumber]
        exact (charOfCode_eq_some_iff (by omega)).mpr rfl

theorem mem_shortEscapes_of_shortEscape? {letter c : Char} (read : shortEscape? letter = some c) :
    (letter, c) ∈ shortEscapes := by
  unfold shortEscape? at read
  split at read
  all_goals
    cases read
  all_goals decide

/-! ## Bodies that are read -/

/-- Whatever is decoded to a character is followed by a body again. -/
theorem behind_decodes {c : Char} {piece rest : List Char} (decodes : Decodes c piece)
    (isBody : IsBody (piece ++ rest)) : IsBody rest := by
  have behindDigit : ∀ {digit : Char} {value : Nat} {others : List Char},
      (digit, value) ∈ hexDigits → IsBody (digit :: others) → IsBody others :=
    fun isDigit => IsBody.behind_plain (hexDigits_plain _ isDigit).1
  cases decodes with
  | written written =>
      cases written with
      | plain allowed => exact isBody.behind_plain allowed
      | short listed => exact isBody.escape_inv
      | code ofFirst ofSecond ofThird ofFourth isCode =>
          exact behindDigit ofFourth (behindDigit ofThird (behindDigit ofSecond
            (behindDigit ofFirst isBody.escape_inv)))
  | signed ofSecond ofThird ofFourth isCode =>
      exact behindDigit ofFourth (behindDigit ofThird (behindDigit ofSecond
        (IsBody.behind_plain (by decide) isBody.escape_inv)))

theorem decode?_decodes {c : Char} {piece : List Char} (decodes : Decodes c piece)
    (rest : List Char) : decode? (piece ++ rest) = (decode? rest).map (c :: ·) := by
  cases decodes with
  | written written => exact decode?_written written rest
  | signed ofSecond ofThird ofFourth isCode =>
      have isChar := codeChar?_eq_some_iff.mpr (.signed ofSecond ofThird ofFourth isCode)
      simp only [List.cons_append, List.nil_append]
      rw [decode?, isChar]
      rfl

/-- A body stands for a text just if it is written character by character. -/
theorem decode?_eq_some_iff {chars body : List Char} (isBody : IsBody body) :
    decode? body = some chars ↔ SpelledBy Decodes chars body := by
  constructor
  · intro decoded
    induction body using decode?.induct generalizing chars with
    | case1 =>
        cases decoded
        exact spelledBy_nil _
    | case2 first second third fourth rest ih =>
        rw [decode?, Option.bind_eq_bind, Option.bind_eq_some_iff] at decoded
        obtain ⟨c, isChar, decoded⟩ := decoded
        obtain ⟨others, ofRest, rfl⟩ := Option.map_eq_some_iff.mp decoded
        have decodes := codeChar?_eq_some_iff.mp isChar
        exact SpelledBy.cons decodes (ih (behind_decodes decodes isBody) ofRest)
    | case3 letter rest notCode ih =>
        rw [decode?, Option.bind_eq_bind, Option.bind_eq_some_iff] at decoded
        · obtain ⟨c, isChar, decoded⟩ := decoded
          obtain ⟨others, ofRest, rfl⟩ := Option.map_eq_some_iff.mp decoded
          have decodes : Decodes c ['\\', letter] :=
            .written (.short (mem_shortEscapes_of_shortEscape? isChar))
          exact SpelledBy.cons decodes (ih isBody.escape_inv ofRest)
        · exact notCode
    | case4 => cases decoded
    | case5 c rest notCode notEscape notLast ih =>
        have notBackslash : c ≠ '\\' := by
          rintro rfl
          cases rest with
          | nil => exact notLast rfl rfl
          | cons letter rest => exact notEscape letter rest rfl rfl
        obtain ⟨allowed, bodyBehind⟩ := isBody.plain_inv notBackslash
        rw [decode?_plain notBackslash] at decoded
        obtain ⟨others, ofRest, rfl⟩ := Option.map_eq_some_iff.mp decoded
        have decodes : Decodes c [c] := .written (.plain allowed)
        exact SpelledBy.cons decodes (ih bodyBehind ofRest)
  · rintro ⟨pieces, written, rfl⟩
    clear isBody
    induction written with
    | nil => rfl
    | cons ofFirst ofOthers ih =>
        rw [List.flatten_cons, decode?_decodes ofFirst, ih, Option.map_some]

end StringLiteral

/-! ## The item of a body in quotes -/

/-- A body with quotes around it. -/
def inQuotes (body : List Char) : List Char :=
  '"' :: (body ++ ['"'])

/-- What a body in quotes is as a piece of a text. -/
def inQuotesPiece (body rest : List Char) : Piece :=
  ⟨(StringLiteral.decode? body).map fun chars => .string (String.ofList chars), inQuotes body,
    rest⟩

/-- Two quotes that nothing stands between only close each other if there is no third one. -/
theorem Piece.first_inQuotes {body rest : List Char} (isBody : IsBody body)
    (noThird : body = [] → rest.head? ≠ some '"') :
    Piece.first '"' (body ++ '"' :: rest) = inQuotesPiece body rest := by
  have isString : Piece.first '"' (body ++ '"' :: rest) = Piece.string (body ++ '"' :: rest) := by
    change Piece.quoted _ = _
    rw [Piece.quoted]
    intro more begins
    cases body with
    | nil => exact noThird rfl (congrArg List.head? (List.cons.inj begins).2)
    | cons c body => exact isBody.ne_quote_cons (congrArg (· :: body) (List.cons.inj begins).1)
  rw [isString, Piece.string, isBody.extent_eq]
  rfl

theorem itemsFrom_inQuotes {body rest : List Char} (isBody : IsBody body)
    (noThird : body = [] → rest.head? ≠ some '"') (offset : Nat) :
    itemsFrom offset (inQuotes body ++ rest) =
      Item.ofPiece (inQuotesPiece body rest) ⟨offset, offset + byteWidth (inQuotes body)⟩ ::
        itemsFrom (offset + byteWidth (inQuotes body)) rest := by
  have text : inQuotes body ++ rest = '"' :: (body ++ '"' :: rest) := by
    simp [inQuotes]
  have noGap : splitIgnored false ('"' :: (body ++ '"' :: rest)) =
      ([], '"' :: (body ++ '"' :: rest)) := rfl
  rw [text, itemsFrom_eq_cons noGap, Piece.first_inQuotes isBody noThird]
  rfl

theorem Item.ofPiece_eq_lexeme_iff {piece : Piece} {span : Span} {token : Token} :
    Item.ofPiece piece span = .lexeme ⟨token, span⟩ ↔ piece.token = some token := by
  rw [Item.ofPiece]
  cases piece.token with
  | none => simp
  | some other => simp

theorem token_inQuotesPiece_iff {body : List Char} (isBody : IsBody body) (value : String)
    (rest : List Char) :
    (inQuotesPiece body rest).token = some (.string value) ↔
      SpelledBy Decodes value.toList body := by
  rw [← StringLiteral.decode?_eq_some_iff isBody, inQuotesPiece, Option.map_eq_some_iff]
  constructor
  · rintro ⟨chars, decoded, same⟩
    cases same
    rw [decoded, String.toList_ofList]
  · intro decoded
    exact ⟨value.toList, decoded, congrArg Token.string String.ofList_toList⟩

/-- Where no plus sign stands behind `\u`, the bodies that are read are the well escaped
ones. -/
theorem isWellEscaped_iff {body : List Char} (noSign : ¬ ['\\', 'u', '+'] <:+: body) :
    IsWellEscaped body ↔ ∃ chars, SpelledBy Decodes chars body := by
  constructor
  · rintro ⟨chars, spelled⟩
    exact ⟨chars, spelled.mono fun _ _ _ written => .written written⟩
  · rintro ⟨chars, spelled⟩
    refine ⟨chars, spelled.mono fun c piece within decodes => ?_⟩
    cases decodes with
    | written written => exact written
    | @signed second third fourth _ _ _ ofSecond ofThird ofFourth isCode =>
        have signed : ['\\', 'u', '+'] <:+: ['\\', 'u', '+', second, third, fourth] :=
          ⟨[], [second, third, fourth], rfl⟩
        exact absurd (signed.trans within) noSign

/-- Wherever a body in quotes stands, it is one item.  This is a string just if every character
of the text that it stands for is written in one of the known ways, and otherwise it is refused
as a whole, with a hint.  If no plus sign stands behind `\u`, it is a string just if it is well
escaped. -/
theorem string_iff_escapes_known {body rest : List Char} (isBody : IsBody body)
    (noThird : body = [] → rest.head? ≠ some '"') (offset : Nat) :
    ∃ item, itemsFrom offset (inQuotes body ++ rest) =
        item :: itemsFrom (offset + byteWidth (inQuotes body)) rest ∧
      item.span = ⟨offset, offset + byteWidth (inQuotes body)⟩ ∧
      (∀ value : String, item = .lexeme ⟨.string value, item.span⟩ ↔
        SpelledBy Decodes value.toList body) ∧
      ((¬ ∃ chars, SpelledBy Decodes chars body) →
        item = .stray (String.ofList (inQuotes body)) item.span ∧
        (Item.strayError (String.ofList (inQuotes body)) item.span).cause.hint? =
          some "string literals must be closed and use valid escapes") ∧
      (¬ ['\\', 'u', '+'] <:+: body →
        ((∃ value, item = .lexeme ⟨.string value, item.span⟩) ↔ IsWellEscaped body)) := by
  have isString : ∀ value : String,
      Item.ofPiece (inQuotesPiece body rest) ⟨offset, offset + byteWidth (inQuotes body)⟩ =
          .lexeme ⟨.string value, ⟨offset, offset + byteWidth (inQuotes body)⟩⟩ ↔
        SpelledBy Decodes value.toList body := fun value =>
    Item.ofPiece_eq_lexeme_iff.trans (token_inQuotesPiece_iff isBody value rest)
  refine ⟨_, itemsFrom_inQuotes isBody noThird offset, Item.span_ofPiece _ _, ?_, ?_, ?_⟩
  · rw [Item.span_ofPiece]
    exact isString
  · intro unknown
    have undecoded : StringLiteral.decode? body = none :=
      Option.eq_none_iff_forall_ne_some.mpr fun chars isText =>
        unknown ⟨chars, (StringLiteral.decode?_eq_some_iff isBody).mp isText⟩
    rw [inQuotesPiece, undecoded]
    refine ⟨rfl, ?_⟩
    simp [Item.strayError, SyntaxCause.hint?, inQuotes]
  · intro noSign
    rw [Item.span_ofPiece, isWellEscaped_iff noSign]
    constructor
    · rintro ⟨value, same⟩
      exact ⟨value.toList, (isString value).mp same⟩
    · rintro ⟨chars, spelled⟩
      rw [← String.toList_ofList (l := chars)] at spelled
      exact ⟨String.ofList chars, (isString _).mpr spelled⟩

/-- A quote, and half of a surrogate pair, which is no character. -/
def halfPair : List Char :=
  ['\\', '"', '\\', 'u', 'd', '8', '3', 'd']

theorem halfPair_isBody : IsBody halfPair :=
  .escape (by decide) (.escape (by decide) (.plain (by decide) (.plain (by decide)
    (.plain (by decide) (.plain (by decide) .nil)))))

/-- The escaped quote does not end the body, and the brace behind it is read again. -/
theorem halfPair_refused : IsBody halfPair ∧ ¬ IsWellEscaped halfPair ∧
    itemsFrom 0 (inQuotes halfPair ++ ['\x7d']) =
      [.stray "\"\\\"\\ud83d\"" ⟨0, 10⟩, .lexeme ⟨.punct .braceClose, ⟨10, 11⟩⟩] := by
  have run : itemsFrom 0 (inQuotes halfPair ++ ['\x7d']) =
      [.stray "\"\\\"\\ud83d\"" ⟨0, 10⟩, .lexeme ⟨.punct .braceClose, ⟨10, 11⟩⟩] := by
    cbv
  have noThird : halfPair = [] → ['\x7d'].head? ≠ some '"' := by decide
  obtain ⟨item, isFirst, -, -, -, wellEscaped⟩ :=
    string_iff_escapes_known halfPair_isBody noThird 0
  rw [run] at isFirst
  rw [← (List.cons.inj isFirst).1] at wellEscaped
  refine ⟨halfPair_isBody, fun isWell => ?_, run⟩
  obtain ⟨value, same⟩ := (wellEscaped (by decide)).mpr isWell
  cases same

/-- A code with a plus sign in the place of its first digit. -/
def signedCode : List Char :=
  ['\\', 'u', '+', '0', '4', '1']

theorem not_isWellEscaped_signedCode : ¬ IsWellEscaped signedCode := by
  rintro ⟨chars, pieces, written, same⟩
  cases written with
  | nil => cases same
  | cons ofFirst ofOthers =>
      cases ofFirst with
      | plain allowed =>
          have isBackslash := (List.cons.inj same).1
          exact allowed (isBackslash ▸ by decide)
      | short listed =>
          have isCode := (List.cons.inj (List.cons.inj same).2).1
          exact (shortEscapes_letters _ listed).2 isCode
      | code ofFirst ofSecond ofThird ofFourth isCode =>
          have isPlus := (List.cons.inj (List.cons.inj (List.cons.inj same).2).2).1
          exact (hexDigits_plain _ ofFirst).2 isPlus

/-- A code may begin with a plus sign, though that is no digit. -/
theorem signedCode_is_string : IsBody signedCode ∧ ¬ IsWellEscaped signedCode ∧
    lexemes "\"\\u+041\"" = .ok [⟨.string "A", ⟨0, 8⟩⟩] := by
  refine ⟨?_, not_isWellEscaped_signedCode, by cbv⟩
  exact .escape (by decide) (.plain (by decide) (.plain (by decide) (.plain (by decide)
    (.plain (by decide) .nil))))

end EntityMapping.Document
