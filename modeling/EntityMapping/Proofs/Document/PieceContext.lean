import EntityMapping.Document.Ignored
import EntityMapping.Document.Piece

/-!
# Pieces and what follows them

The first token of a text stays what it is when the text behind it is cut off, at
whatever place, or goes on with something ignorable or a punctuator from there.
-/

namespace EntityMapping.Document

/-- Whether ignorable text can begin with a character. -/
def beginsGap (c : Char) : Bool :=
  isIgnored c || c = '#'

/-- Whether no token that is still open can go on with a character, because ignorable text
begins there or the character is a punctuator by itself. -/
def interrupts (c : Char) : Bool :=
  beginsGap c || (Punctuator.ofChar? c).isSome

/-- A text that agrees with another up to a place where it ends or goes on with
something ignorable or a punctuator. -/
inductive Trims : List Char → List Char → Prop where
  | nil (rest : List Char) : Trims rest []
  | stop (rest : List Char) {c : Char} (stops : interrupts c = true) (more : List Char) :
      Trims rest (c :: more)
  | cons {rest other : List Char} (c : Char) (trims : Trims rest other) :
      Trims (c :: rest) (c :: other)

theorem trims_front (front behind : List Char) : Trims (front ++ behind) front := by
  induction front with
  | nil => exact .nil behind
  | cons c rest ih => exact .cons c ih

theorem Trims.append {rest other : List Char} (front : List Char) (trims : Trims rest other) :
    Trims (front ++ rest) (front ++ other) := by
  induction front with
  | nil => exact trims
  | cons c front ih => exact .cons c ih

theorem interrupts_of_beginsGap {c : Char} (begins : beginsGap c = true) :
    interrupts c = true := by
  rw [interrupts, begins, Bool.true_or]

theorem trims_append (text : List Char) {more : List Char}
    (stops : ∀ c ∈ more.head?, interrupts c = true) : Trims text (text ++ more) := by
  have stopped : Trims [] more := by
    cases more with
    | nil => exact .nil []
    | cons c more => exact .stop [] (stops c rfl) more
  simpa using stopped.append text

theorem trims_gap (text : List Char) {c : Char} (begins : beginsGap c = true)
    (more : List Char) : Trims text (text ++ c :: more) := by
  refine trims_append text ?_
  rintro _ ⟨⟩
  exact interrupts_of_beginsGap begins

/-- A character that a token can go on with stands in front of a trimmed text only if it
stood there before. -/
theorem Trims.cons_inv {rest other : List Char} {c : Char} (trims : Trims rest (c :: other))
    (goesOn : interrupts c = false) : ∃ inner, rest = c :: inner ∧ Trims inner other := by
  cases trims with
  | stop rest stops more =>
      rw [goesOn] at stops
      cases stops
  | cons c trims => exact ⟨_, rfl, trims⟩

/-- The characters that ignorable text can begin with. -/
theorem mem_of_beginsGap {c : Char} (begins : beginsGap c = true) :
    c ∈ [' ', '\t', '\r', '\n', '\x0c', ',', '\ufeff', '#'] := by
  simpa [beginsGap, isIgnored, or_assoc] using begins

/-- What no character has that ignorable text begins with. -/
theorem beginsGap_eq_false {p : Char → Bool} {c : Char} (holds : p c = true)
    (fails : [' ', '\t', '\r', '\n', '\x0c', ',', '\ufeff', '#'].any p = false) :
    beginsGap c = false := by
  cases begins : beginsGap c with
  | false => rfl
  | true => exact absurd holds (List.any_eq_false.mp fails c (mem_of_beginsGap begins))

theorem beginsGap_of_isDigit {c : Char} (digit : isDigit c = true) : beginsGap c = false :=
  beginsGap_eq_false digit (by decide)

theorem beginsGap_of_isNameChar {c : Char} (goesOn : isNameChar c = true) :
    beginsGap c = false :=
  beginsGap_eq_false goesOn (by decide)

/-- The characters that are punctuators by themselves. -/
def punctuatorChars : List Char :=
  ['!', '$', '&', '(', ')', ':', '=', '@', '[', ']', '\x7b', '|', '\x7d']

theorem mem_punctuatorChars {c : Char} {punctuator : Punctuator}
    (known : Punctuator.ofChar? c = some punctuator) : c ∈ punctuatorChars := by
  unfold Punctuator.ofChar? at known
  split at known <;> first | decide | cases known

theorem beginsGap_of_ofChar? {c : Char} {punctuator : Punctuator}
    (known : Punctuator.ofChar? c = some punctuator) : beginsGap c = false := by
  have none : punctuatorChars.any beginsGap = false := by decide
  exact Bool.eq_false_iff.mpr (List.any_eq_false.mp none c (mem_punctuatorChars known))

theorem interrupts_of_ofChar? {c : Char} {punctuator : Punctuator}
    (known : Punctuator.ofChar? c = some punctuator) : interrupts c = true := by
  rw [interrupts, known, Option.isSome_some, Bool.or_true]

/-- What neither ignorable text begins with nor any punctuator interrupts no token. -/
theorem interrupts_eq_false {p : Char → Bool} {c : Char} (holds : p c = true)
    (notGap : beginsGap c = false) (fails : punctuatorChars.any p = false) :
    interrupts c = false := by
  cases known : Punctuator.ofChar? c with
  | none => rw [interrupts, notGap, known, Bool.false_or, Option.isSome_none]
  | some punctuator =>
      exact absurd holds (List.any_eq_false.mp fails c (mem_punctuatorChars known))

theorem interrupts_of_isDigit {c : Char} (digit : isDigit c = true) : interrupts c = false :=
  interrupts_eq_false digit (beginsGap_of_isDigit digit) (by decide)

theorem interrupts_of_isNameChar {c : Char} (goesOn : isNameChar c = true) :
    interrupts c = false :=
  interrupts_eq_false goesOn (beginsGap_of_isNameChar goesOn) (by decide)

/-! ## Runs of characters -/

section Runs

variable {p : Char → Bool} (stops : ∀ c, p c = true → interrupts c = false)
include stops

/-- No run begins in a trimmed text where none began before. -/
theorem takeWhile_trims {rest other : List Char} (trims : Trims (rest.dropWhile p) other) :
    other.takeWhile p = [] ∧ other.dropWhile p = other := by
  cases other with
  | nil => exact ⟨rfl, rfl⟩
  | cons c more =>
      have ends : ¬ p c = true := by
        intro goesOn
        obtain ⟨inner, same, -⟩ := trims.cons_inv (stops c goesOn)
        have first := List.head?_dropWhile_not p rest
        rw [same] at first
        exact absurd goesOn (Bool.eq_false_iff.mp first)
      exact ⟨List.takeWhile_cons_of_neg ends, List.dropWhile_cons_of_neg ends⟩

theorem run_trims {rest other : List Char} (trims : Trims (rest.dropWhile p) other) :
    (rest.takeWhile p ++ other).takeWhile p = rest.takeWhile p ∧
      (rest.takeWhile p ++ other).dropWhile p = other := by
  have run : ∀ c ∈ rest.takeWhile p, p c = true :=
    List.all_eq_true.mp List.all_takeWhile
  obtain ⟨none, all⟩ := takeWhile_trims stops trims
  constructor
  · rw [List.takeWhile_append_of_pos run, none, List.append_nil]
  · rw [List.dropWhile_append_of_pos run, all]

end Runs

/-! ## Numbers -/

namespace NumberLiteral

/-- A scanner that finds in a trimmed text just what it finds before the place where
the text is trimmed. -/
structure Stable (scan : List Char → Option (List Char × List Char)) : Prop where
  append {text literal after : List Char} (found : scan text = some (literal, after)) :
    literal ++ after = text
  none {text other : List Char} (absent : scan text = none) (trims : Trims text other) :
    scan other = none
  some {text literal after other : List Char} (found : scan text = some (literal, after))
    (trims : Trims after other) : scan (literal ++ other) = some (literal, other)

/-- The scanner that takes a given character and goes on with one scanner, and in front
of any other character is another one. -/
def branch (key : Char) (inner base : List Char → Option (List Char × List Char)) :
    List Char → Option (List Char × List Char)
  | [] => base []
  | c :: rest =>
      if c = key then (inner rest).map fun (literal, after) => (c :: literal, after)
      else base (c :: rest)

section Branching

variable {key : Char} {inner base : List Char → Option (List Char × List Char)}

theorem branch_key (rest : List Char) :
    branch key inner base (key :: rest) =
      (inner rest).map fun (literal, after) => (key :: literal, after) :=
  if_pos rfl

theorem head?_ne {text : List Char} (absent : ∀ rest, text = key :: rest → False) :
    text.head? ≠ some key := by
  intro present
  obtain ⟨rest, same⟩ := List.head?_eq_some_iff.mp present
  exact absent rest same

theorem branch_other {text : List Char} (other : text.head? ≠ some key) :
    branch key inner base text = base text := by
  cases text with
  | nil => rfl
  | cons c rest => exact if_neg fun same => other (congrArg some same)

/-- What the scanner finds begins with the key and was found behind it, or the key does
not stand in front. -/
theorem branch_cases {text literal after : List Char}
    (found : branch key inner base text = some (literal, after)) :
    (∃ rest digits, text = key :: rest ∧ literal = key :: digits ∧
      inner rest = some (digits, after)) ∨
    (text.head? ≠ some key ∧ base text = some (literal, after)) := by
  by_cases present : text.head? = some key
  · obtain ⟨rest, rfl⟩ := List.head?_eq_some_iff.mp present
    rw [branch_key, Option.map_eq_some_iff] at found
    obtain ⟨⟨digits, last⟩, within, pair⟩ := found
    cases pair
    exact Or.inl ⟨rest, digits, rfl, rfl, within⟩
  · rw [branch_other present] at found
    exact Or.inr ⟨present, found⟩

/-- A trimmed text begins with the key only if it did so before. -/
theorem Trims.head?_ne {text other : List Char} (trims : Trims text other)
    (goesOn : interrupts key = false) (absent : text.head? ≠ some key) :
    other.head? ≠ some key := by
  intro present
  cases other with
  | nil => cases present
  | cons c more =>
      cases present
      obtain ⟨rest, rfl, -⟩ := trims.cons_inv goesOn
      exact absent rfl

/-- Where nothing is found behind the key, nothing is found in a trimmed text. -/
theorem branch_none_trims (stableInner : Stable inner) (stableBase : Stable base)
    (goesOn : interrupts key = false) (atEnd : base [] = none) {rest other : List Char}
    (absent : branch key inner base (key :: rest) = none) (trims : Trims (key :: rest) other) :
    branch key inner base other = none := by
  rw [branch_key, Option.map_eq_none_iff] at absent
  cases trims with
  | nil => exact atEnd
  | @stop rest c stops more =>
      have other : (c :: more).head? ≠ some key := by
        rintro same
        cases same
        rw [goesOn] at stops
        cases stops
      rw [branch_other other]
      exact stableBase.none atEnd (.stop [] stops more)
  | cons c trims =>
      rw [branch_key, stableInner.none absent trims]
      rfl

theorem stable_branch (stableInner : Stable inner) (stableBase : Stable base)
    (goesOn : interrupts key = false) (atEnd : base [] = none) :
    Stable (branch key inner base) where
  append := by
    intro text literal after found
    rcases branch_cases found with ⟨rest, digits, rfl, rfl, within⟩ | ⟨-, before⟩
    · exact congrArg (key :: ·) (stableInner.append within)
    · exact stableBase.append before
  none := by
    intro text other absent trims
    by_cases present : text.head? = some key
    · obtain ⟨rest, rfl⟩ := List.head?_eq_some_iff.mp present
      exact branch_none_trims stableInner stableBase goesOn atEnd absent trims
    · rw [branch_other present] at absent
      rw [branch_other (Trims.head?_ne trims goesOn present)]
      exact stableBase.none absent trims
  some := by
    intro text literal after other found trims
    rcases branch_cases found with ⟨rest, digits, rfl, rfl, within⟩ | ⟨absent, before⟩
    · rw [List.cons_append, branch_key, stableInner.some within trims]
      rfl
    · have whole := stableBase.append before
      have front : Trims text (literal ++ other) := whole ▸ trims.append literal
      rw [branch_other (Trims.head?_ne front goesOn absent)]
      exact stableBase.some before trims

end Branching

theorem digits?_stable : Stable digits? where
  append := fun found => (append_of_digits? found).1
  none := by
    intro rest other absent trims
    cases other with
    | nil => rfl
    | cons c more =>
        rw [digits?]
        split
        · rename_i digit
          obtain ⟨inner, rfl, -⟩ := trims.cons_inv (interrupts_of_isDigit digit)
          rw [digits?, if_pos digit] at absent
          cases absent
        · rfl
  some := by
    intro text literal after other found trims
    cases text with
    | nil => cases found
    | cons c rest =>
        rw [digits?] at found
        split at found
        · rename_i digit
          cases found
          obtain ⟨run, behind⟩ := run_trims (fun _ => interrupts_of_isDigit) trims
          rw [List.cons_append, digits?, if_pos digit, run, behind]
        · cases found

theorem natural?_eq : natural? = branch '0' (fun rest => some ([], rest)) digits? := by
  funext text
  unfold natural?
  split
  · rfl
  · rename_i notZero
    exact (branch_other (head?_ne notZero)).symm

theorem integer?_eq : integer? = branch '-' natural? natural? := by
  funext text
  unfold integer?
  split
  · rfl
  · rename_i notMinus
    exact (branch_other (head?_ne notMinus)).symm

theorem signedDigits?_eq :
    signedDigits? = branch '+' digits? (branch '-' digits? digits?) := by
  funext text
  unfold signedDigits?
  split
  · rfl
  · rfl
  · rename_i notPlus notMinus
    rw [branch_other (head?_ne notPlus), branch_other (head?_ne notMinus)]

theorem fraction?_eq : fraction? = branch '.' digits? (fun _ => none) := by
  funext text
  unfold fraction?
  split
  · rfl
  · rename_i notPoint
    rw [branch_other (head?_ne notPoint)]

theorem exponent?_eq :
    exponent? = branch 'e' signedDigits? (branch 'E' signedDigits? (fun _ => none)) := by
  funext text
  unfold exponent?
  split
  · rfl
  · rfl
  · rename_i notSmall notCapital
    rw [branch_other (head?_ne notSmall), branch_other (head?_ne notCapital)]

theorem natural?_stable : Stable natural? := by
  have zero : Stable fun rest => some ([], rest) :=
    { append := fun found => by cases found; rfl
      none := nofun
      some := fun found _ => by cases found; rfl }
  rw [natural?_eq]
  exact stable_branch zero digits?_stable (by decide) rfl

theorem integer?_stable : Stable integer? := by
  rw [integer?_eq]
  exact stable_branch natural?_stable natural?_stable (by decide) rfl

theorem signedDigits?_stable : Stable signedDigits? := by
  rw [signedDigits?_eq]
  refine stable_branch digits?_stable ?_ (by decide) rfl
  exact stable_branch digits?_stable digits?_stable (by decide) rfl

theorem stable_none : Stable fun _ => none where
  append := nofun
  none := fun _ _ => rfl
  some := nofun

theorem fraction?_stable : Stable fraction? := by
  rw [fraction?_eq]
  exact stable_branch digits?_stable stable_none (by decide) rfl

theorem exponent?_stable : Stable exponent? := by
  rw [exponent?_eq]
  refine stable_branch signedDigits?_stable ?_ (by decide) rfl
  exact stable_branch signedDigits?_stable stable_none (by decide) rfl

theorem floatSuffix?_stable : Stable floatSuffix? where
  append := append_of_floatSuffix?
  none := by
    intro text other absent trims
    unfold floatSuffix? at absent
    split at absent
    · rename_i noFraction
      rw [floatSuffix?, fraction?_stable.none noFraction trims]
      exact exponent?_stable.none absent trims
    · split at absent <;> cases absent
  some := by
    intro text literal after other found trims
    unfold floatSuffix? at found
    split at found
    · rename_i noFraction
      have whole := append_of_exponent? found
      have front : Trims text (literal ++ other) := whole ▸ trims.append literal
      rw [floatSuffix?, fraction?_stable.none noFraction front]
      exact exponent?_stable.some found trims
    · rename_i fraction middle isFraction
      split at found
      · rename_i noExponent
        cases found
        rw [floatSuffix?, fraction?_stable.some isFraction trims]
        simp only [exponent?_stable.none noExponent trims]
      · rename_i exponent last isExponent
        cases found
        have whole := append_of_exponent? isExponent
        have front : Trims middle (exponent ++ other) := whole ▸ trims.append exponent
        rw [floatSuffix?, List.append_assoc, fraction?_stable.some isFraction front]
        simp only [exponent?_stable.some isExponent trims]

end NumberLiteral

/-! ## Strings -/

/-- A closed string does not depend on what follows its closing quote. -/
theorem StringLiteral.extent_closed {text : List Char} (closed : (extent text).closed = true)
    (other : List Char) :
    extent ((extent text).text ++ other) = ⟨(extent text).body, other, true⟩ := by
  fun_induction extent text with
  | case1 => cases closed
  | case2 rest => rfl
  | case3 rest => cases closed
  | case4 c rest notFeed ih =>
      rw [Extent.text_after, List.append_assoc, List.cons_append, List.cons_append,
        List.nil_append, extent, if_neg notFeed, ih closed]
      rfl
  | case5 c rest notQuote notPair stops => cases closed
  | case6 c rest notQuote notPair goesOn ih =>
      rw [Extent.text_after, List.append_assoc, List.cons_append, List.nil_append, extent,
        if_neg goesOn, ih closed]
      · rfl
      · exact notQuote
      · exact fun _ _ slash _ => goesOn (Or.inl slash)

namespace BlockString

/-- What a raw text with its closing quotes begins with does not depend on what
follows the quotes. -/
theorem prefix_closing {front raw other : List Char} (short : front.length ≤ 3)
    (begins : front <+: raw ++ '"' :: '"' :: '"' :: other) (last : List Char) :
    front <+: raw ++ '"' :: '"' :: '"' :: last := by
  have closing : ∀ more, raw ++ ['"', '"', '"'] <+: raw ++ '"' :: '"' :: '"' :: more :=
    fun more => ⟨more, by simp⟩
  have within : front <+: raw ++ ['"', '"', '"'] :=
    List.prefix_of_prefix_length_le begins (closing other) (by simp; omega)
  exact within.trans (closing last)

/-- A block string does not depend on what follows its closing quotes. -/
theorem extent?_closed {text raw after : List Char} (found : extent? text = some (raw, after))
    (other : List Char) : extent? (raw ++ '"' :: '"' :: '"' :: other) = some (raw, other) := by
  induction text using extent?.induct generalizing raw after with
  | case1 => cases found
  | case2 rest ih =>
      rw [extent?, Option.map_eq_some_iff] at found
      obtain ⟨⟨inner, last⟩, within, pair⟩ := found
      cases pair
      rw [List.cons_append, List.cons_append, List.cons_append, List.cons_append, extent?,
        ih within]
      rfl
  | case3 rest =>
      cases found
      rfl
  | case4 c rest notEscape notClosing ih =>
      rw [extent?, Option.map_eq_some_iff] at found
      · obtain ⟨⟨inner, last⟩, within, pair⟩ := found
        cases pair
        have whole := append_of_extent? within
        rw [List.cons_append, extent?, ih within]
        · rfl
        · intro more slash begins
          have front : ['"', '"', '"'] <+: inner ++ '"' :: '"' :: '"' :: other :=
            ⟨more, begins.symm⟩
          obtain ⟨behind, same⟩ := prefix_closing (by simp) front after
          exact notEscape behind slash (whole.symm.trans same.symm)
        · intro more quote begins
          have front : ['"', '"'] <+: inner ++ '"' :: '"' :: '"' :: other :=
            ⟨more, begins.symm⟩
          obtain ⟨behind, same⟩ := prefix_closing (by simp) front after
          exact notClosing behind quote (whole.symm.trans same.symm)
      · exact notEscape
      · exact notClosing

end BlockString

/-! ## Pieces -/

namespace Piece

/-- The piece when other text follows it. -/
def followedBy (piece : Piece) (other : List Char) : Piece :=
  { piece with rest := other }

theorem name_trims {c : Char} {rest other : List Char}
    (trims : Trims (name c rest).rest other) :
    name c (rest.takeWhile isNameChar ++ other) = (name c rest).followedBy other := by
  obtain ⟨run, behind⟩ := run_trims (fun _ => interrupts_of_isNameChar) trims
  rw [name, run, behind]
  rfl

/-- A number is the same in front of a text that is trimmed behind it. -/
theorem number_trims {c : Char} {rest other : List Char}
    (isToken : (number c rest).token ≠ none) (trims : Trims (number c rest).rest other) :
    ∃ tail, (number c rest).text = c :: tail ∧
      number c (tail ++ other) = (number c rest).followedBy other := by
  cases isInteger : NumberLiteral.integer? (c :: rest) with
  | none =>
      rw [number, isInteger] at isToken
      exact absurd rfl isToken
  | some found =>
      obtain ⟨literal, after⟩ := found
      obtain ⟨whole, nonempty⟩ := NumberLiteral.append_of_integer? isInteger
      obtain ⟨first, tail, rfl⟩ := List.exists_cons_of_ne_nil nonempty
      obtain ⟨rfl, -⟩ := List.cons.inj whole
      cases isSuffix : NumberLiteral.floatSuffix? after with
      | none =>
          simp only [number, isInteger, isSuffix] at trims ⊢
          have integer := NumberLiteral.integer?_stable.some isInteger trims
          have suffix := NumberLiteral.floatSuffix?_stable.none isSuffix trims
          refine ⟨tail, rfl, ?_⟩
          rw [List.cons_append] at integer
          simp only [integer, suffix]
          rfl
      | some found =>
          obtain ⟨suffix, last⟩ := found
          simp only [number, isInteger, isSuffix] at trims ⊢
          have tailWhole := NumberLiteral.append_of_floatSuffix? isSuffix
          have front : Trims after (suffix ++ other) := tailWhole ▸ trims.append suffix
          have integer := NumberLiteral.integer?_stable.some isInteger front
          have suffixed := NumberLiteral.floatSuffix?_stable.some isSuffix trims
          refine ⟨tail ++ suffix, rfl, ?_⟩
          rw [List.cons_append] at integer
          simp only [List.append_assoc, integer, suffixed]
          rfl

/-- Only a closed string is a token. -/
theorem closed_of_string_token {rest : List Char} (isToken : (string rest).token ≠ none) :
    (StringLiteral.extent rest).closed = true := by
  cases closed : (StringLiteral.extent rest).closed with
  | true => rfl
  | false =>
      rw [string, closed] at isToken
      exact absurd rfl isToken

theorem string_trims {rest other : List Char} (isToken : (string rest).token ≠ none) :
    ∃ tail, (string rest).text = '"' :: tail ∧
      string (tail ++ other) = (string rest).followedBy other := by
  have closed := closed_of_string_token isToken
  refine ⟨_, rfl, ?_⟩
  rw [string, StringLiteral.extent_closed closed other, string, closed]
  simp [followedBy, StringLiteral.Extent.text, closed]

theorem blockString_trims {rest other : List Char} (isToken : (blockString rest).token ≠ none) :
    ∃ tail, (blockString rest).text = '"' :: '"' :: '"' :: tail ∧
      blockString (tail ++ other) = (blockString rest).followedBy other := by
  cases found : BlockString.extent? rest with
  | none =>
      rw [blockString, found] at isToken
      exact absurd rfl isToken
  | some extent =>
      obtain ⟨raw, after⟩ := extent
      have closed := BlockString.extent?_closed found other
      refine ⟨raw ++ ['"', '"', '"'], by simp [blockString, found], ?_⟩
      have whole : raw ++ ['"', '"', '"'] ++ other = raw ++ '"' :: '"' :: '"' :: other := by simp
      simp only [blockString, whole, closed, found]
      rfl

theorem quoted_trims {rest other : List Char} (isToken : (quoted rest).token ≠ none)
    (trims : Trims (quoted rest).rest other) :
    ∃ tail, (quoted rest).text = '"' :: tail ∧
      quoted (tail ++ other) = (quoted rest).followedBy other := by
  unfold quoted at isToken
  split at isToken
  · rename_i inner
    obtain ⟨tail, isText, same⟩ := blockString_trims isToken
    exact ⟨'"' :: '"' :: tail, isText, same⟩
  · rename_i notBlock
    obtain ⟨tail, isText, same⟩ := string_trims isToken
    have isString : quoted rest = string rest := by
      rw [quoted]
      exact notBlock
    rw [isString] at trims
    refine ⟨tail, isString ▸ isText, ?_⟩
    rw [isString, ← same, quoted]
    -- two quotes in front of the trimmed text would have been there before
    intro more begins
    have whole := string_append rest
    rw [isText, List.cons_append] at whole
    have front := trims.append tail
    rw [(List.cons.inj whole).2, begins] at front
    obtain ⟨afterOne, isRest, frontOne⟩ := front.cons_inv (by decide)
    obtain ⟨afterTwo, isAfterOne, -⟩ := frontOne.cons_inv (by decide)
    exact notBlock afterTwo (isAfterOne ▸ isRest)

theorem points_trims {rest : List Char} (isToken : (points rest).token ≠ none)
    (other : List Char) :
    ∃ tail, (points rest).text = '.' :: tail ∧
      points (tail ++ other) = (points rest).followedBy other := by
  unfold points at isToken
  split at isToken
  · exact ⟨['.', '.'], rfl, rfl⟩
  · exact absurd rfl isToken

/-- The first token of a text is the same in front of a text that is trimmed behind it. -/
theorem first_trims {c : Char} {rest other : List Char} (isToken : (first c rest).token ≠ none)
    (trims : Trims (first c rest).rest other) :
    ∃ tail, (first c rest).text = c :: tail ∧
      first c (tail ++ other) = (first c rest).followedBy other := by
  by_cases isName : isNameStart c
  · have same : ∀ behind, first c behind = name c behind := fun _ => if_pos isName
    simp only [same] at isToken trims ⊢
    exact ⟨_, rfl, name_trims trims⟩
  by_cases isNumber : isDigit c || c = '-'
  · have same : ∀ behind, first c behind = number c behind :=
      fun _ => (if_neg isName).trans (if_pos isNumber)
    simp only [same] at isToken trims ⊢
    exact number_trims isToken trims
  by_cases isQuote : c = '"'
  · subst isQuote
    exact quoted_trims isToken trims
  by_cases isPoint : c = '.'
  · subst isPoint
    exact points_trims isToken other
  · have same : ∀ behind, first c behind = punctuation c behind := fun _ =>
      (if_neg isName).trans ((if_neg isNumber).trans ((if_neg isQuote).trans (if_neg isPoint)))
    simp only [same]
    exact ⟨[], rfl, rfl⟩

section Punctuators

variable {punctuator : Punctuator}

/-- A punctuator of one character is a token whatever stands behind it. -/
theorem first_of_ofChar? {c : Char} (known : Punctuator.ofChar? c = some punctuator)
    (rest : List Char) : first c rest = ⟨some (.punct punctuator), [c], rest⟩ := by
  unfold Punctuator.ofChar? at known
  split at known <;> first | (cases known; rfl) | cases known

theorem number_token_ne_punct (c : Char) (rest : List Char) :
    (number c rest).token ≠ some (.punct punctuator) := by
  unfold number
  split
  · exact (Option.some_ne_none _).symm
  · split <;> simp

theorem quoted_token_ne_punct (rest : List Char) :
    (quoted rest).token ≠ some (.punct punctuator) := by
  unfold quoted
  split
  · unfold blockString
    split <;> simp
  · simp only [string]
    split <;> simp

theorem points_token_ne_punct (single : punctuator ≠ .spread) (rest : List Char) :
    (points rest).token ≠ some (.punct punctuator) := by
  unfold points
  split
  · simpa using single.symm
  · exact (Option.some_ne_none _).symm

/-- Only the spread is a punctuator of more than one character. -/
theorem eq_of_first_punct {c : Char} {rest text behind : List Char} (single : punctuator ≠ .spread)
    (isFirst : first c rest = ⟨some (.punct punctuator), text, behind⟩) :
    Punctuator.ofChar? c = some punctuator ∧ text = [c] := by
  unfold first at isFirst
  split at isFirst
  · cases isFirst
  · split at isFirst
    · exact absurd (congrArg Piece.token isFirst) (number_token_ne_punct c rest)
    · split at isFirst
      · exact absurd (congrArg Piece.token isFirst) (quoted_token_ne_punct rest)
      · split at isFirst
        · exact absurd (congrArg Piece.token isFirst) (points_token_ne_punct single rest)
        · have isMark : (Punctuator.ofChar? c).map Token.punct = some (.punct punctuator) :=
            congrArg Piece.token isFirst
          exact ⟨by simpa using isMark, (congrArg Piece.text isFirst).symm⟩

end Punctuators

/-- A text that begins with a token is the token's characters and the rest. -/
theorem first_eq_of_token {c : Char} {rest : List Char} {token : Token}
    (isToken : (first c rest).token = some token) :
    ∃ tail after, rest = tail ++ after ∧ first c rest = ⟨some token, c :: tail, after⟩ := by
  have some : (first c rest).token ≠ none := by
    rw [isToken]
    exact Option.some_ne_none token
  obtain ⟨tail, isText, -⟩ := first_trims some (.nil _)
  have whole := first_append c rest
  rw [isText, List.cons_append] at whole
  refine ⟨tail, (first c rest).rest, (List.cons.inj whole).2.symm, ?_⟩
  rw [← isToken, ← isText]

/-- A token at the front of a text stays there when the text is trimmed behind it. -/
theorem first_eq_of_trims {c : Char} {tail after other : List Char} {token : Token}
    (isFirst : first c (tail ++ after) = ⟨some token, c :: tail, after⟩)
    (trims : Trims after other) :
    first c (tail ++ other) = ⟨some token, c :: tail, other⟩ := by
  have some : (first c (tail ++ after)).token ≠ none := by
    rw [isFirst]
    exact Option.some_ne_none token
  have behind : Trims (first c (tail ++ after)).rest other := by
    rw [isFirst]
    exact trims
  obtain ⟨sameTail, isText, same⟩ := first_trims some behind
  rw [isFirst] at isText same
  cases isText
  exact same

end Piece

end EntityMapping.Document
