import EntityMapping.Proofs.Document.LongestMatch
import Mathlib.Data.Nat.Digits.Defs

/-!
# Integer literals

An integer literal can have any number of digits, while the number of a token has sixty-four bits.
Main statement: where a literal stands there is a single token with just its number, or a single
error that spans all of it if its number does not fit, and every number is read back from the
text that shows it.
-/

namespace EntityMapping.Document

open EntityMapping.Source
open EntityMapping.Text
open scoped Computability

namespace NumberLiteral

/-! ## The number of a literal -/

/-- The natural number that decimal digits denote, the last of which counts ones. -/
def decimal (digits : List Char) : Nat :=
  Nat.ofDigits 10 (digits.reverse.map fun digit => digit.toNat - '0'.toNat)

/-- The number that an integer literal denotes. -/
def number : List Char → Int
  | '-' :: digits => -(decimal digits : Int)
  | digits => decimal digits

/-- A number that a token can have. -/
def Fits (number : Int) : Prop :=
  -2 ^ 63 ≤ number ∧ number < 2 ^ 63

theorem digitsValue_concat (digits : List Char) (digit : Char) :
    digitsValue (digits ++ [digit]) = 10 * digitsValue digits + (digit.toNat - '0'.toNat) := by
  simp [digitsValue]

theorem digitsValue_eq_decimal (digits : List Char) : digitsValue digits = decimal digits := by
  induction digits using List.reverseRecOn with
  | nil => rfl
  | append_singleton digits digit ih =>
      rw [decimal] at ih
      rw [digitsValue_concat, ih, decimal, List.reverse_concat, List.map_cons, Nat.ofDigits_cons,
        Nat.add_comm]

theorem number_of_isDigit {digits : List Char}
    (unsigned : ∀ c ∈ digits.head?, isDigit c = true) : number digits = decimal digits := by
  unfold number
  split
  · exact absurd (unsigned '-' rfl) (by decide)
  · rfl

theorem signedValue_of_isDigit {digits : List Char}
    (unsigned : ∀ c ∈ digits.head?, isDigit c = true) :
    signedValue digits = digitsValue digits := by
  have noSign : splitSign digits = (false, digits) := by
    unfold splitSign
    split
    · exact absurd (unsigned '-' rfl) (by decide)
    · exact absurd (unsigned '+' rfl) (by decide)
    · rfl
  rw [signedValue, noSign]
  rfl

section Literal

variable {literal : List Char} {value : Int64}

theorem signedValue_eq_number (isInteger : literal ∈ TokenPattern.integer) :
    signedValue literal = number literal := by
  obtain ⟨sign, isSign, digits, isNatural, rfl⟩ := isInteger
  rcases isSign with rfl | rfl
  · have unsigned : ∀ c ∈ digits.head?, isDigit c = true := fun c isFirst =>
      TokenPattern.isDigit_of_mem_natural isNatural c (List.mem_of_head? isFirst)
    change signedValue digits = number digits
    rw [signedValue_of_isDigit unsigned, number_of_isDigit unsigned, digitsValue_eq_decimal]
  · change -(digitsValue digits : Int) = -(decimal digits : Int)
    rw [digitsValue_eq_decimal]

/-- A literal is taken for the number that it denotes if this fits. -/
theorem intValue?_eq_some (isInteger : literal ∈ TokenPattern.integer)
    (fits : Fits (number literal)) :
    ∃ value : Int64, value.toInt = number literal ∧ intValue? literal = some value := by
  have isNumber := signedValue_eq_number isInteger
  refine ⟨Int64.ofInt (number literal), Int64.toInt_ofInt_of_le fits.1 fits.2, ?_⟩
  have inRange : Int64.minValue.toInt ≤ number literal ∧ number literal ≤ Int64.maxValue.toInt :=
    ⟨fits.1, Int.le_sub_one_of_lt fits.2⟩
  rw [intValue?, isNumber]
  exact if_pos inRange

theorem intValue?_eq_none (isInteger : literal ∈ TokenPattern.integer)
    (notFits : ¬ Fits (number literal)) : intValue? literal = none := by
  have isNumber := signedValue_eq_number isInteger
  have outOfRange :
      ¬ (Int64.minValue.toInt ≤ number literal ∧ number literal ≤ Int64.maxValue.toInt) :=
    fun inRange => notFits ⟨inRange.1, Int.lt_of_le_sub_one inRange.2⟩
  rw [intValue?, isNumber]
  exact if_neg outOfRange

end Literal

/-! ## Numbers that are shown -/

theorem isDigit_digitChar : ∀ digit < 10, isDigit digit.digitChar = true := by
  decide

/-- The digits of a positive number do not begin with a zero, since those of its tenth do not. -/
theorem toDigits_mem_of_pos {value : Nat} (positive : 0 < value) :
    Nat.toDigits 10 value ∈
      TokenPattern.oneOf (Set.Icc '1' '9') * TokenPattern.digit∗ := by
  induction value using Nat.strong_induction_on with
  | h value ih =>
      by_cases single : value < 10
      · have nonzero : ∀ digit < 10, 0 < digit → digit.digitChar ∈ Set.Icc '1' '9' := by
          decide
        have isFirst := TokenPattern.mem_oneOf (nonzero value single positive)
        rw [Nat.toDigits_of_lt_base single, ← List.append_nil [value.digitChar]]
        exact Language.append_mem_mul isFirst (Language.nil_mem_kstar _)
      · have atLeast : 10 ≤ value := Nat.le_of_not_lt single
        obtain ⟨first, isFirst, others, areDigits, isTenth⟩ :=
          ih (value / 10) (by omega) (by omega)
        have isLast : isDigit (value % 10).digitChar = true :=
          isDigit_digitChar _ (Nat.mod_lt value (by decide))
        have areAll : ∀ c ∈ others ++ [(value % 10).digitChar], isDigit c = true :=
          List.forall_mem_append.mpr ⟨TokenPattern.mem_kstar_digit.mp areDigits,
            List.forall_mem_singleton.mpr isLast⟩
        have whole : first ++ others = Nat.toDigits 10 (value / 10) := isTenth
        rw [Nat.toDigits_of_base_le (by decide) atLeast, ← whole, List.append_assoc]
        exact Language.append_mem_mul isFirst (TokenPattern.mem_kstar_digit.mpr areAll)

theorem toDigits_mem_natural (value : Nat) : Nat.toDigits 10 value ∈ TokenPattern.natural := by
  cases value with
  | zero => exact Or.inl rfl
  | succ value => exact Or.inr (toDigits_mem_of_pos (Nat.succ_pos value))

theorem decimal_toDigits (value : Nat) : decimal (Nat.toDigits 10 value) = value := by
  rw [← digitsValue_eq_decimal]
  exact Nat.ofDigitChars_ten_toDigits

theorem toList_toString_ofNat (value : Nat) :
    (toString (Int.ofNat value)).toList = Nat.toDigits 10 value :=
  Nat.toList_repr

theorem toList_toString_negSucc (value : Nat) :
    (toString (Int.negSucc value)).toList = '-' :: Nat.toDigits 10 (value + 1) := by
  change ("-" ++ Nat.repr (value + 1)).toList = _
  rw [String.toList_append, Nat.toList_repr]
  rfl

/-- A number is shown as an integer literal. -/
theorem toString_mem_integer (value : Int) : (toString value).toList ∈ TokenPattern.integer := by
  cases value with
  | ofNat value =>
      rw [toList_toString_ofNat]
      have unsigned : [] ∈ (1 + {['-']} : Language Char) := Or.inl Language.nil_mem_one
      exact Language.append_mem_mul unsigned (toDigits_mem_natural value)
  | negSucc value =>
      rw [toList_toString_negSucc]
      have minus : ['-'] ∈ (1 + {['-']} : Language Char) := Or.inr rfl
      exact Language.append_mem_mul minus (toDigits_mem_natural (value + 1))

/-- This literal denotes the number. -/
theorem number_toString (value : Int) : number (toString value).toList = value := by
  cases value with
  | ofNat value =>
      have unsigned : ∀ c ∈ (Nat.toDigits 10 value).head?, isDigit c = true := fun c isFirst =>
        TokenPattern.isDigit_of_mem_natural (toDigits_mem_natural value) c
          (List.mem_of_head? isFirst)
      rw [toList_toString_ofNat, number_of_isDigit unsigned, decimal_toDigits]
      rfl
  | negSucc value =>
      rw [toList_toString_negSucc, number, decimal_toDigits]
      rfl

end NumberLiteral

/-! ## Literals in a text -/

open NumberLiteral

/-- The numbers that a text can begin with. -/
def numberText : Language Char :=
  TokenPattern.integer + TokenPattern.integer * TokenPattern.floatSuffix

/-- An integer literal stands in a source: no longer number begins where it does, and neither
is its place inside of anything that begins in front of it nor in ignorable text. -/
structure StandsAsInteger (source : String) (before literal behind : List Char) : Prop where
  isText : source.toList = before ++ (literal ++ behind)
  isInteger : literal ∈ TokenPattern.integer
  maximal : ∀ longer ∈ numberText, longer <+: literal ++ behind → longer.length ≤ literal.length
  apart : ∀ item ∈ items source, item.span.Covers (byteWidth before) →
    byteWidth before ≤ item.span.start
  visible : ¬ LeftOut 0 source.toList (items source) (byteWidth before)

/-- An item is made of the whole of an integer literal: it has the number that the literal
denotes, or it is an error if no token can have it. -/
structure IsExact (literal : List Char) (span : Span) (item : Item) : Prop where
  token : Fits (number literal) →
    ∃ value : Int64, value.toInt = number literal ∧ item = .lexeme ⟨.int value, span⟩
  refused : ¬ Fits (number literal) → item = .stray (String.ofList literal) span

theorem IsExact.span_eq {literal : List Char} {span : Span} {item : Item}
    (exact : IsExact literal span item) : item.span = span := by
  by_cases fits : Fits (number literal)
  · obtain ⟨value, -, rfl⟩ := exact.token fits
    rfl
  · rw [exact.refused fits]
    rfl

theorem isExact_of_yields {start : Nat} {literal behind : List Char} {item : Item}
    (isInteger : literal ∈ TokenPattern.integer)
    (yields : TokenPattern.int.Yields start literal behind item) :
    IsExact literal ⟨start, start + byteWidth literal⟩ item := by
  cases yields with
  | token accepts =>
      cases accepts with
      | @int value isValue =>
          constructor
          · intro fits
            obtain ⟨other, isNumber, isOther⟩ := intValue?_eq_some isInteger fits
            cases isValue.symm.trans isOther
            rw [List.append_nil]
            exact ⟨value, isNumber, rfl⟩
          · intro notFits
            cases isValue.symm.trans (intValue?_eq_none isInteger notFits)
  | refused rejects =>
      constructor
      · intro fits
        obtain ⟨value, -, isValue⟩ := intValue?_eq_some isInteger fits
        exact absurd (.int isValue) (rejects _ _)
      · exact fun _ => rfl

section Literals

variable {source : String} {before literal behind : List Char}

namespace StandsAsInteger

/-- No token of any kind goes on behind the literal. -/
theorem longest (stands : StandsAsInteger source before literal behind) :
    TokenPattern.int.Longest literal (literal ++ behind) := by
  have isMatch : TokenPattern.int.Matches literal (literal ++ behind) :=
    ⟨stands.isInteger, List.prefix_append literal behind⟩
  refine ⟨isMatch, fun other longer isOther => stands.maximal longer ?_ isOther.2⟩
  obtain ⟨c, tail, rfl, isNumber⟩ := TokenPattern.begins_integer literal stands.isInteger
  have ofFamily := TokenPattern.ofChar_of_isNumber isNumber
  have isMember := (TokenPattern.exists_tail_of_matches isOther).1
  rw [ofFamily] at isMember
  rcases isMember with rfl | rfl
  · exact Or.inl isOther.1
  · exact Or.inr isOther.1

/-- An item begins where the literal does. -/
theorem exists_item (stands : StandsAsInteger source before literal behind) :
    ∃ item ∈ items source, item.span.start = byteWidth before := by
  have tiles := tiles_itemsFrom 0 source.toList
  have inside : byteWidth before < 0 + byteWidth source.toList := by
    obtain ⟨c, tail, rfl, -⟩ := TokenPattern.begins_integer literal stands.isInteger
    have positive := byteWidth_pos_of_ne_nil (List.cons_ne_nil c (tail ++ behind))
    rw [stands.isText, List.cons_append, byteWidth_append]
    omega
  rcases tiles.covers_or_leftOut (Nat.zero_le _) inside with ⟨item, member, covers⟩ | leftOut
  · exact ⟨item, member, Nat.le_antisymm covers.1 (stands.apart item member covers)⟩
  · exact absurd leftOut stands.visible

/-- This item is made of the literal. -/
theorem isExact (stands : StandsAsInteger source before literal behind) {item : Item}
    (member : item ∈ items source) (starts : item.span.start = byteWidth before) :
    IsExact literal ⟨byteWidth before, byteWidth (before ++ literal)⟩ item := by
  obtain ⟨front, c, rest, isText, -, rfl⟩ := exists_first_of_mem_itemsFrom item member
  rw [Item.span_ofPiece, Nat.zero_add] at starts
  obtain ⟨rfl, isRest⟩ := append_inj_of_byteWidth_eq (isText.symm.trans stands.isText) starts
  have takes := takesLongest_ofPiece (TokenPattern.decides_first c rest) (0 + byteWidth before)
  have longest := stands.longest
  rw [isRest] at longest
  have yields := takes.yields .int literal behind isRest.symm longest
  rw [Item.span_ofPiece, Nat.zero_add] at yields
  rw [Nat.zero_add, byteWidth_append]
  exact isExact_of_yields stands.isInteger yields

end StandsAsInteger

/-- An item that begins where a literal does is enough for it to stand there. -/
theorem StandsAsInteger.of_mem (isText : source.toList = before ++ (literal ++ behind))
    (isInteger : literal ∈ TokenPattern.integer)
    (maximal : ∀ longer ∈ numberText, longer <+: literal ++ behind →
      longer.length ≤ literal.length)
    {item : Item} (member : item ∈ items source) (starts : item.span.start = byteWidth before) :
    StandsAsInteger source before literal behind := by
  have tiles : Tiles 0 source.toList (items source) := tiles_itemsFrom 0 source.toList
  have covers : item.span.Covers (byteWidth before) := by
    obtain ⟨front, piece, back, -, nonempty, isSpan⟩ := tiles.exists_piece item member
    have positive := byteWidth_pos_of_ne_nil nonempty
    rw [← starts, isSpan, byteWidth_append]
    constructor
    · exact Nat.le_refl _
    · exact Nat.add_lt_add_left (Nat.lt_add_of_pos_right positive) 0
  refine ⟨isText, isInteger, maximal, fun other among coversAlso => ?_, ?_⟩
  · rw [tiles.covers_unique among member coversAlso covers, starts]
  · exact not_leftOut_of_covers member covers

/-- Where a literal stands it makes up a single item, which no other one overlaps. -/
theorem StandsAsInteger.items_eq (stands : StandsAsInteger source before literal behind) :
    ∃ front item back, items source = front ++ item :: back ∧
      IsExact literal ⟨byteWidth before, byteWidth (before ++ literal)⟩ item ∧
      (∀ other ∈ front, other.span.stop ≤ byteWidth before) ∧
      ∀ other ∈ back, byteWidth (before ++ literal) ≤ other.span.start := by
  obtain ⟨item, member, starts⟩ := stands.exists_item
  have exact := stands.isExact member starts
  have isSpan := exact.span_eq
  have ordered : (items source).Pairwise _ := (tiles_itemsFrom 0 source.toList).ordered
  obtain ⟨front, back, areItems⟩ := List.append_of_mem member
  rw [areItems] at ordered
  obtain ⟨-, ofItem, ahead⟩ := List.pairwise_append.mp ordered
  refine ⟨front, item, back, areItems, exact, fun other inFront => ?_, fun other inBack => ?_⟩
  · have notBehind := ahead other inFront item List.mem_cons_self
    rwa [isSpan] at notBehind
  · have notAhead := (List.pairwise_cons.mp ofItem).1 other inBack
    rwa [isSpan] at notAhead

/-- A text is refused for the first of its items that is no token. -/
theorem lexemesOf_stray {front back : List Item} {text : String} {span : Span}
    (areLexemes : ∀ item ∈ front, ∃ content, item = .lexeme content) :
    lexemesOf (front ++ .stray text span :: back) = .error (Item.strayError text span) := by
  induction front with
  | nil => rfl
  | cons item front ih =>
      obtain ⟨⟨content, rfl⟩, areOthers⟩ := List.forall_mem_cons.mp areLexemes
      rw [List.cons_append, lexemesOf, ih areOthers]
      rfl

/-! ## Ends of literals -/

theorem numberText_gapless {text : List Char} (isNumber : text ∈ numberText) :
    ∀ c ∈ text, beginsGap c = false := by
  have inInteger : ∀ {text : List Char}, text ∈ TokenPattern.integer →
      ∀ c ∈ text, beginsGap c = false :=
    fun isInteger => integer?_gapless _ _ _ (TokenPattern.finds_integer.whole isInteger)
  rcases isNumber with isInteger | ⟨front, isInteger, suffix, isSuffix, rfl⟩
  · exact inInteger isInteger
  · have found := TokenPattern.finds_floatSuffix.whole isSuffix
    exact List.forall_mem_append.mpr ⟨inInteger isInteger, floatSuffix?_gapless _ _ _ found⟩

/-- No number goes on with ignorable text. -/
theorem length_le_of_beginsGap (ends : ∀ c ∈ behind.head?, beginsGap c = true) :
    ∀ longer ∈ numberText, longer <+: literal ++ behind → longer.length ≤ literal.length := by
  intro longer isNumber isFront
  have isPart := List.prefix_append literal behind
  rcases List.prefix_or_prefix_of_prefix isFront isPart with shorter | ⟨more, rfl⟩
  · exact shorter.length_le
  · obtain ⟨rest, isRest⟩ := (List.prefix_append_right_inj literal).mp isFront
    cases more with
    | nil => rw [List.append_nil]
    | cons c more =>
        have notGap : beginsGap c = false := numberText_gapless isNumber c (by simp)
        have isGap : beginsGap c = true := by
          refine ends c ?_
          rw [← isRest]
          exact rfl
        cases isGap.symm.trans notGap

/-! ## Numbers read back -/

theorem first_of_isInteger {c : Char} {tail : List Char} {value : Int64}
    (isInteger : c :: tail ∈ TokenPattern.integer)
    (isValue : intValue? (c :: tail) = some value) :
    Piece.first c tail = ⟨some (.int value), c :: tail, []⟩ := by
  obtain ⟨_, _, same, isNumber⟩ := TokenPattern.begins_integer _ isInteger
  obtain ⟨rfl, rfl⟩ := List.cons.inj same
  have notName : ¬ isNameStart c = true := by
    intro isName
    have ofFamily := TokenPattern.ofChar_of_isNumber isNumber
    rw [Family.ofChar, if_pos isName] at ofFamily
    cases ofFamily
  have found : integer? (c :: tail) = some (c :: tail, []) :=
    TokenPattern.finds_integer.whole isInteger
  have isSign : (isDigit c || decide (c = '-')) = true := by simpa using isNumber
  rw [Piece.first, if_neg notName, if_pos isSign, Piece.number, found]
  change (⟨(intValue? (c :: tail)).map .int, c :: tail, []⟩ : Piece) = _
  rw [isValue, Option.map_some]

/-- The text that shows a number is a literal of it. -/
theorem lexemes_text (value : Int64) : lexemes (Token.int value).text =
    .ok [⟨.int value, ⟨0, (Token.int value).text.utf8ByteSize⟩⟩] := by
  have isInteger : (Token.int value).text.toList ∈ TokenPattern.integer :=
    toString_mem_integer value.toInt
  have isNumber : number (Token.int value).text.toList = value.toInt :=
    number_toString value.toInt
  have fits : Fits (number (Token.int value).text.toList) := by
    rw [isNumber]
    exact ⟨Int64.le_toInt value, Int64.toInt_lt value⟩
  obtain ⟨other, isOther, isValue⟩ := intValue?_eq_some isInteger fits
  obtain rfl : other = value := Int64.toInt_inj.mp (isOther.trans isNumber)
  obtain ⟨c, tail, isText, starts⟩ := TokenPattern.begins_integer _ isInteger
  rw [isText] at isInteger isValue
  have begins : beginsGap c = false := by
    rcases starts with digit | rfl
    · exact beginsGap_of_isDigit digit
    · decide
  rw [lexemes_eq_ok_iff, ← byteWidth_toList, isText]
  have cuts := Cuts.single begins (first_of_isInteger isInteger isValue) 0
  rwa [Nat.zero_add] at cuts

end Literals

/-- However long an integer literal is, it is a single token with just the number that it
denotes, or a single error if that number does not have sixty-four bits, which is the error of
the text if there is none in front of it; and each number is read back from its text. -/
theorem integers_exact :
    (∀ source before literal behind, StandsAsInteger source before literal behind →
      ∃ front item back, items source = front ++ item :: back ∧
        IsExact literal ⟨byteWidth before, byteWidth (before ++ literal)⟩ item ∧
        (∀ other ∈ front, other.span.stop ≤ byteWidth before) ∧
        (∀ other ∈ back, byteWidth (before ++ literal) ≤ other.span.start) ∧
        (¬ Fits (number literal) → (∀ other ∈ front, ∃ content, other = .lexeme content) →
          lexemes source = .error (Item.strayError (String.ofList literal)
            ⟨byteWidth before, byteWidth (before ++ literal)⟩))) ∧
    ∀ value : Int64, lexemes (Token.int value).text =
      .ok [⟨.int value, ⟨0, (Token.int value).text.utf8ByteSize⟩⟩] := by
  constructor
  · intro source before literal behind stands
    obtain ⟨front, item, back, areItems, exact, ahead, after⟩ := stands.items_eq
    refine ⟨front, item, back, areItems, exact, ahead, after, fun notFits areLexemes => ?_⟩
    rw [lexemes, areItems, exact.refused notFits, lexemesOf_stray areLexemes]
  · exact lexemes_text

/-- The first number beyond the greatest of a token, behind the least one. -/
theorem integer_beyond_limits :
    StandsAsInteger "n:-9223372036854775808 9223372036854775808"
        "n:-9223372036854775808 ".toList "9223372036854775808".toList [] ∧
      .stray "9223372036854775808" ⟨23, 42⟩ ∈
        items "n:-9223372036854775808 9223372036854775808" := by
  have run : items "n:-9223372036854775808 9223372036854775808" =
      [.lexeme ⟨.name "n", ⟨0, 1⟩⟩, .lexeme ⟨.punct .colon, ⟨1, 2⟩⟩,
        .lexeme ⟨.int Int64.minValue, ⟨2, 22⟩⟩, .stray "9223372036854775808" ⟨23, 42⟩] := by
    cbv
  have isNumber : number "9223372036854775808".toList = 9223372036854775808 := by
    cbv
  have isInteger : "9223372036854775808".toList ∈ TokenPattern.integer :=
    toString_mem_integer 9223372036854775808
  have notFits : ¬ Fits (number "9223372036854775808".toList) := by
    rw [isNumber]
    exact fun fits => absurd fits.2 (by decide)
  have atEnd : ∀ c ∈ ([] : List Char).head?, beginsGap c = true :=
    fun _ isHead => absurd isHead (Option.not_mem_none _)
  have member : .stray "9223372036854775808" ⟨23, 42⟩ ∈
      items "n:-9223372036854775808 9223372036854775808" := by
    rw [run]
    simp
  have stands : StandsAsInteger "n:-9223372036854775808 9223372036854775808"
      "n:-9223372036854775808 ".toList "9223372036854775808".toList [] :=
    .of_mem rfl isInteger (length_le_of_beginsGap atEnd) member rfl
  obtain ⟨front, item, back, areItems, exact, -⟩ := integers_exact.1 _ _ _ _ stands
  have isItem := exact.refused notFits
  rw [isItem] at areItems
  rw [areItems]
  exact ⟨stands, List.mem_append_right front List.mem_cons_self⟩

end EntityMapping.Document
