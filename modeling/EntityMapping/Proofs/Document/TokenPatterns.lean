import EntityMapping.Proofs.Document.Escapes

/-!
# Patterns of tokens

What a token can look like, as a regular language for each kind of token.  The pattern of a block
string only covers the quotes that it opens with; how far the string extends is found out behind
them.  Main statement: what the scanners of numbers find at the front of a text is the longest
text of their language that stands there.
-/

namespace EntityMapping.Document

open Computability

namespace TokenPattern

/-! ## Languages -/

/-- A single character of a class. -/
def oneOf (allowed : Set Char) : Language Char :=
  {text | ∃ c ∈ allowed, text = [c]}

theorem mem_oneOf {allowed : Set Char} {c : Char} (isAllowed : c ∈ allowed) : [c] ∈ oneOf allowed :=
  ⟨c, isAllowed, rfl⟩

theorem mem_kstar_oneOf {allowed : Set Char} {text : List Char} :
    text ∈ (oneOf allowed)∗ ↔ ∀ c ∈ text, c ∈ allowed := by
  constructor
  · intro isRun
    obtain ⟨parts, rfl, each⟩ := Language.mem_kstar.mp isRun
    intro c member
    obtain ⟨part, among, inPart⟩ := List.mem_flatten.mp member
    obtain ⟨other, isAllowed, rfl⟩ := each part among
    rwa [List.mem_singleton.mp inPart]
  · intro each
    refine Language.mem_kstar.mpr ⟨text.map fun c => [c], ?_, ?_⟩
    · rw [← List.flatMap_def, List.flatMap_singleton']
    · intro part among
      obtain ⟨c, member, rfl⟩ := List.mem_map.mp among
      exact mem_oneOf (each c member)

/-- A decimal digit. -/
def digit : Language Char :=
  oneOf (Set.Icc '0' '9')

/-- One digit or more. -/
def digits : Language Char :=
  digit * digit∗

/-- A number that begins with a zero only if it is one. -/
def natural : Language Char :=
  {['0']} + oneOf (Set.Icc '1' '9') * digit∗

/-- A natural number, or the negative of one. -/
def integer : Language Char :=
  (1 + {['-']}) * natural

/-- A point and digits. -/
def fraction : Language Char :=
  {['.']} * digits

/-- Digits behind an `e`, with a sign or without one. -/
def exponent : Language Char :=
  ({['e']} + {['E']}) * ((1 + {['+']} + {['-']}) * digits)

/-- A fraction, an exponent, or one behind the other. -/
def floatSuffix : Language Char :=
  fraction * (1 + exponent) + exponent

/-- A letter or a low line, and then digits as well. -/
def nameText : Language Char :=
  oneOf ({'_'} ∪ Set.Icc 'A' 'Z' ∪ Set.Icc 'a' 'z') *
    (oneOf ({'_'} ∪ Set.Icc '0' '9' ∪ Set.Icc 'A' 'Z' ∪ Set.Icc 'a' 'z'))∗

/-- A character that needs no backslash, or a backslash and any character of the same line. -/
def stringPart : Language Char :=
  oneOf {c | c ∉ ['"', '\\', '\r', '\n']} + {['\\']} * oneOf {c | c ≠ '\n'}

end TokenPattern

/-- The patterns that are declared for tokens. -/
inductive TokenPattern where
  | punct (punctuator : Punctuator)
  | name
  | int
  | float
  | string
  | blockOpening

namespace TokenPattern

/-- The texts that a pattern matches. -/
def language : TokenPattern → Language Char
  | punct punctuator => {punctuator.text.toList}
  | name => nameText
  | int => integer
  | float => integer * floatSuffix
  | string => {['"']} * stringPart∗ * {['"']}
  | blockOpening => {['"', '"', '"']}

/-- A pattern matches characters at the front of a text. -/
def Matches (pattern : TokenPattern) (matched text : List Char) : Prop :=
  matched ∈ pattern.language ∧ matched <+: text

/-- A pattern matches characters at the front of a text, and no pattern matches more of them. -/
def Longest (pattern : TokenPattern) (matched text : List Char) : Prop :=
  pattern.Matches matched text ∧
    ∀ (other : TokenPattern) longer, other.Matches longer text → longer.length ≤ matched.length

/-! ## Characters -/

theorem isDigit_iff {c : Char} : isDigit c = true ↔ c ∈ Set.Icc '0' '9' := by
  simp [isDigit]

theorem isNameStart_iff {c : Char} :
    isNameStart c = true ↔ c ∈ ({'_'} ∪ Set.Icc 'A' 'Z' ∪ Set.Icc 'a' 'z' : Set Char) := by
  simp [isNameStart]

theorem isNameChar_iff {c : Char} : isNameChar c = true ↔
    c ∈ ({'_'} ∪ Set.Icc '0' '9' ∪ Set.Icc 'A' 'Z' ∪ Set.Icc 'a' 'z' : Set Char) := by
  simp only [isNameChar, isNameStart, isDigit, Bool.or_eq_true, Bool.and_eq_true,
    decide_eq_true_eq, Set.mem_union, Set.mem_singleton_iff, Set.mem_Icc]
  grind

theorem mem_kstar_digit {text : List Char} :
    text ∈ digit∗ ↔ ∀ c ∈ text, isDigit c = true := by
  rw [digit, mem_kstar_oneOf]
  exact forall₂_congr fun c _ => isDigit_iff.symm

theorem mem_digits_iff {text : List Char} :
    text ∈ digits ↔ text ≠ [] ∧ ∀ c ∈ text, isDigit c = true := by
  constructor
  · rintro ⟨_, ⟨c, isFirst, rfl⟩, others, areDigits, rfl⟩
    refine ⟨List.cons_ne_nil c others, List.forall_mem_cons.mpr ⟨isDigit_iff.mpr isFirst, ?_⟩⟩
    exact mem_kstar_digit.mp areDigits
  · rintro ⟨nonempty, areDigits⟩
    obtain ⟨c, others, rfl⟩ := List.exists_cons_of_ne_nil nonempty
    obtain ⟨isFirst, areDigits⟩ := List.forall_mem_cons.mp areDigits
    have isRun := mem_kstar_digit.mpr areDigits
    exact Language.append_mem_mul (mem_oneOf (isDigit_iff.mp isFirst)) isRun

theorem cons_mem_nameText_iff {c : Char} {text : List Char} :
    c :: text ∈ nameText ↔ isNameStart c = true ∧ ∀ d ∈ text, isNameChar d = true := by
  have isRun : text ∈ (oneOf ({'_'} ∪ Set.Icc '0' '9' ∪ Set.Icc 'A' 'Z' ∪ Set.Icc 'a' 'z'))∗ ↔
      ∀ d ∈ text, isNameChar d = true := by
    rw [mem_kstar_oneOf]
    exact forall₂_congr fun d _ => isNameChar_iff.symm
  rw [isNameStart_iff, ← isRun]
  constructor
  · rintro ⟨_, ⟨first, isFirst, rfl⟩, others, areOthers, same⟩
    obtain ⟨rfl, rfl⟩ := List.cons.inj same
    exact ⟨isFirst, areOthers⟩
  · rintro ⟨isFirst, areOthers⟩
    exact Language.append_mem_mul (mem_oneOf isFirst) areOthers

/-- A digit behind zero. -/
theorem mem_Icc_one_iff {c : Char} :
    c ∈ Set.Icc '1' '9' ↔ c ≠ '0' ∧ c ∈ Set.Icc '0' '9' := by
  have isZero : c = '0' ↔ c.toNat = '0'.toNat :=
    ⟨fun same => same ▸ rfl, fun same => by rw [← Char.ofNat_toNat c, same]; rfl⟩
  have notBelow : '1' ≤ c ↔ c ≠ '0' ∧ '0' ≤ c := by
    change '1'.toNat ≤ c.toNat ↔ c ≠ '0' ∧ '0'.toNat ≤ c.toNat
    rw [ne_eq, isZero, show '1'.toNat = 49 from rfl, show '0'.toNat = 48 from rfl]
    omega
  rw [Set.mem_Icc, Set.mem_Icc, notBelow, and_assoc]

/-- Every text of a language begins with a character of a kind. -/
def Begins (language : Language Char) (kind : Char → Prop) : Prop :=
  ∀ text ∈ language, ∃ c rest, text = c :: rest ∧ kind c

section Begins

variable {language other : Language Char} {kind weaker : Char → Prop}

theorem Begins.mono (begins : Begins language kind) (implies : ∀ c, kind c → weaker c) :
    Begins language weaker := by
  intro text isText
  obtain ⟨c, rest, rfl, isKind⟩ := begins text isText
  exact ⟨c, rest, rfl, implies c isKind⟩

theorem Begins.add (begins : Begins language kind) (alsoBegins : Begins other kind) :
    Begins (language + other) kind := by
  rintro text (isText | isOther)
  · exact begins text isText
  · exact alsoBegins text isOther

theorem Begins.mul (begins : Begins language kind) (other : Language Char) :
    Begins (language * other) kind := by
  rintro _ ⟨text, isText, behind, -, rfl⟩
  obtain ⟨c, rest, rfl, isKind⟩ := begins text isText
  exact ⟨c, rest ++ behind, rfl, isKind⟩

/-- What may stand in front changes the first character only if it is there. -/
theorem Begins.optional_mul (begins : Begins language kind) (mayBegin : Begins other kind) :
    Begins ((1 + other) * language) kind := by
  rw [add_mul, one_mul]
  exact begins.add (mayBegin.mul language)

theorem begins_single {c : Char} (isKind : kind c) (rest : List Char) :
    Begins {c :: rest} kind := by
  rintro _ rfl
  exact ⟨c, rest, rfl, isKind⟩

theorem begins_oneOf {allowed : Set Char} (each : ∀ c ∈ allowed, kind c) :
    Begins (oneOf allowed) kind := by
  rintro _ ⟨c, isAllowed, rfl⟩
  exact ⟨c, [], rfl, each c isAllowed⟩

end Begins

theorem begins_digits : Begins digits (isDigit · = true) :=
  (begins_oneOf fun _ isAllowed => isDigit_iff.mpr isAllowed).mul _

theorem begins_natural : Begins natural (isDigit · = true) := by
  refine (begins_single (by decide) []).add (Begins.mul (begins_oneOf fun c isAllowed => ?_) _)
  exact isDigit_iff.mpr (mem_Icc_one_iff.mp isAllowed).2

theorem begins_integer : Begins integer fun c => isDigit c = true ∨ c = '-' :=
  (begins_natural.mono fun _ => Or.inl).optional_mul (begins_single (Or.inr rfl) [])

theorem begins_fraction : Begins fraction (· = '.') := by
  have point : Begins {['.']} (· = '.') := by
    rintro _ rfl
    exact ⟨'.', [], rfl, rfl⟩
  exact point.mul digits

theorem begins_exponent : Begins exponent fun c => c = 'e' ∨ c = 'E' :=
  ((begins_single (Or.inl rfl) []).add (begins_single (Or.inr rfl) [])).mul _

theorem begins_floatSuffix : Begins floatSuffix fun c => c = '.' ∨ c = 'e' ∨ c = 'E' :=
  ((begins_fraction.mono fun _ => Or.inl).mul _).add (begins_exponent.mono fun _ => Or.inr)

theorem ne_of_isDigit {c other : Char} (isDigit : isDigit c = true)
    (notDigit : EntityMapping.Document.isDigit other = false) : c ≠ other := by
  rintro rfl
  cases isDigit.symm.trans notDigit

/-! ## Scanners -/

/-- A scanner finds a text of a language at the front of any text that begins with one, and no
text of the language that stands there reaches beyond it. -/
structure Finds (scan : List Char → Option (List Char × List Char)) (language : Language Char) :
    Prop where
  sound {text literal after : List Char} (found : scan text = some (literal, after)) :
    literal ∈ language ∧ literal ++ after = text
  complete {front : List Char} (isFront : front ∈ language) (behind : List Char) :
    ∃ literal after, scan (front ++ behind) = some (literal, after) ∧ front <+: literal

section Scanners

variable {scan inner base : List Char → Option (List Char × List Char)}
  {language innerLanguage baseLanguage : Language Char} {front : List Char}

theorem Finds.not_mem_of_none (finds : Finds scan language) {behind : List Char}
    (absent : scan (front ++ behind) = none) : front ∉ language := by
  intro isFront
  obtain ⟨literal, after, found, -⟩ := finds.complete isFront behind
  cases absent.symm.trans found

/-- What no text of the language goes beyond is found as it is. -/
theorem Finds.exact (finds : Finds scan language) (isFront : front ∈ language)
    {behind : List Char} (ends : ∀ c ∈ behind.head?, ∀ more, front ++ c :: more ∉ language) :
    scan (front ++ behind) = some (front, behind) := by
  obtain ⟨literal, after, found, rest, rfl⟩ := finds.complete isFront behind
  obtain ⟨isLiteral, whole⟩ := finds.sound found
  rw [List.append_assoc, List.append_cancel_left_eq] at whole
  cases rest with
  | nil => rw [found, List.append_nil, show after = behind from whole]
  | cons c more =>
      rw [← whole] at ends
      exact absurd isLiteral (ends c rfl more)

/-- A text of the language is found as a whole. -/
theorem Finds.whole (finds : Finds scan language) (isText : front ∈ language) :
    scan front = some (front, []) := by
  have atEnd : ∀ c ∈ ([] : List Char).head?, ∀ more, front ++ c :: more ∉ language :=
    fun _ isHead => absurd isHead (Option.not_mem_none _)
  have found := finds.exact isText atEnd
  rwa [List.append_nil] at found

theorem finds_nothing : Finds (fun _ => none) 0 where
  sound := nofun
  complete := nofun

/-- Behind a key one scanner goes on, and another one looks for what does not begin with it. -/
theorem finds_branch {key : Char} (ofInner : Finds inner innerLanguage)
    (ofBase : Finds base baseLanguage)
    (apart : Begins baseLanguage (· ≠ key)) :
    Finds (NumberLiteral.branch key inner base) ({[key]} * innerLanguage + baseLanguage) where
  sound := by
    intro text literal after found
    rcases NumberLiteral.branch_cases found with ⟨rest, inside, rfl, rfl, within⟩ | ⟨-, found⟩
    · obtain ⟨isInside, rfl⟩ := ofInner.sound within
      exact ⟨Or.inl (Language.append_mem_mul (Set.mem_singleton [key]) isInside), rfl⟩
    · obtain ⟨isLiteral, whole⟩ := ofBase.sound found
      exact ⟨Or.inr isLiteral, whole⟩
  complete := by
    rintro front (⟨_, rfl, inside, isInside, rfl⟩ | isFront) behind
    · obtain ⟨literal, after, found, isPrefix⟩ := ofInner.complete isInside behind
      refine ⟨key :: literal, after, ?_, (List.prefix_cons_inj key).mpr isPrefix⟩
      change NumberLiteral.branch key inner base (key :: (inside ++ behind)) = _
      rw [NumberLiteral.branch_key, found]
      rfl
    · obtain ⟨c, rest, rfl, notKey⟩ := apart front isFront
      rw [NumberLiteral.branch_other (by simpa using notKey)]
      exact ofBase.complete isFront behind

end Scanners

/-! ## Numbers -/

open NumberLiteral

theorem finds_digits : Finds digits? digits where
  sound := by
    intro text literal after found
    refine ⟨mem_digits_iff.mpr ⟨(append_of_digits? found).2, ?_⟩, (append_of_digits? found).1⟩
    cases text with
    | nil => cases found
    | cons c rest =>
        rw [digits?] at found
        split at found
        · rename_i isFirst
          cases found
          exact List.forall_mem_cons.mpr ⟨isFirst, List.all_eq_true.mp List.all_takeWhile⟩
        · cases found
  complete := by
    intro front isFront behind
    obtain ⟨nonempty, areDigits⟩ := mem_digits_iff.mp isFront
    obtain ⟨c, rest, rfl⟩ := List.exists_cons_of_ne_nil nonempty
    obtain ⟨isFirst, areDigits⟩ := List.forall_mem_cons.mp areDigits
    refine ⟨c :: (rest ++ behind).takeWhile isDigit, (rest ++ behind).dropWhile isDigit, ?_, ?_⟩
    · rw [List.cons_append, digits?, if_pos isFirst]
    · rw [List.takeWhile_append_of_pos areDigits]
      exact List.prefix_append (c :: rest) _

theorem finds_natural : Finds natural? natural where
  sound := by
    intro text literal after found
    refine ⟨?_, (append_of_natural? found).1⟩
    rw [natural?_eq] at found
    rcases branch_cases found with ⟨rest, inside, rfl, rfl, within⟩ | ⟨notZero, found⟩
    · cases within
      exact Or.inl rfl
    · obtain ⟨isLiteral, rfl⟩ := finds_digits.sound found
      obtain ⟨_, ⟨c, isFirst, rfl⟩, others, areDigits, rfl⟩ := isLiteral
      have nonzero : c ∈ Set.Icc '1' '9' :=
        mem_Icc_one_iff.mpr ⟨fun same => notZero (congrArg some same), isFirst⟩
      exact Or.inr (Language.append_mem_mul (mem_oneOf nonzero) areDigits)
  complete := by
    rintro front (rfl | ⟨_, ⟨c, isFirst, rfl⟩, others, areDigits, rfl⟩) behind
    · exact ⟨['0'], behind, rfl, List.prefix_rfl⟩
    · obtain ⟨notZero, isDigit⟩ := mem_Icc_one_iff.mp isFirst
      have isFront : [c] ++ others ∈ digits :=
        Language.append_mem_mul (mem_oneOf isDigit) areDigits
      rw [natural?_eq, branch_other (by simpa using notZero)]
      exact finds_digits.complete isFront behind

theorem finds_integer : Finds integer? integer := by
  rw [integer?_eq, integer, add_comm, add_mul, one_mul]
  exact finds_branch finds_natural finds_natural
    (begins_natural.mono fun _ isDigit => ne_of_isDigit isDigit (by decide))

theorem finds_fraction : Finds fraction? fraction := by
  rw [fraction?_eq, fraction, ← add_zero ({['.']} * digits)]
  exact finds_branch finds_digits finds_nothing nofun

theorem finds_signedDigits : Finds signedDigits? ((1 + {['+']} + {['-']}) * digits) := by
  have branches : (1 + {['+']} + {['-']}) * digits =
      {['+']} * digits + ({['-']} * digits + digits) := by
    rw [add_mul, add_mul, one_mul]
    abel
  have unsigned : ∀ sign, isDigit sign = false → Begins digits (· ≠ sign) :=
    fun _ notDigit => begins_digits.mono fun _ isDigit => ne_of_isDigit isDigit notDigit
  have noPlus : Begins ({['-']} * digits + digits) (· ≠ '+') :=
    ((begins_single (by decide) []).mul digits).add (unsigned '+' (by decide))
  rw [signedDigits?_eq, branches]
  exact finds_branch finds_digits
    (finds_branch finds_digits finds_digits (unsigned '-' (by decide))) noPlus

theorem finds_exponent : Finds exponent? exponent := by
  have branches : exponent = {['e']} * ((1 + {['+']} + {['-']}) * digits) +
      ({['E']} * ((1 + {['+']} + {['-']}) * digits) + 0) := by
    rw [exponent, add_mul, add_zero]
  have capital : Begins ({['E']} * ((1 + {['+']} + {['-']}) * digits) + 0) (· ≠ 'e') :=
    ((begins_single (by decide) []).mul _).add nofun
  rw [exponent?_eq, branches]
  exact finds_branch finds_signedDigits (finds_branch finds_signedDigits finds_nothing nofun)
    capital

/-! ## Numbers with a fraction or an exponent -/

theorem isDigit_of_mem_fraction {text : List Char} (isFraction : text ∈ fraction) :
    ∀ c ∈ text, c = '.' ∨ isDigit c = true := by
  obtain ⟨_, rfl, run, isRun, rfl⟩ := isFraction
  have areDigits := (mem_digits_iff.mp isRun).2
  exact List.forall_mem_cons.mpr ⟨Or.inl rfl, fun c member => Or.inr (areDigits c member)⟩

theorem isDigit_of_mem_natural {text : List Char} (isNatural : text ∈ natural) :
    ∀ c ∈ text, isDigit c = true := by
  rcases isNatural with rfl | ⟨_, ⟨c, isFirst, rfl⟩, others, areDigits, rfl⟩
  · exact List.forall_mem_singleton.mpr (by decide)
  · exact List.forall_mem_cons.mpr
      ⟨isDigit_iff.mpr (mem_Icc_one_iff.mp isFirst).2, mem_kstar_digit.mp areDigits⟩

theorem isDigit_of_mem_integer {text : List Char} (isInteger : text ∈ integer) :
    ∀ c ∈ text, c = '-' ∨ isDigit c = true := by
  obtain ⟨sign, isSign, number, isNumber, rfl⟩ := isInteger
  have areDigits := isDigit_of_mem_natural isNumber
  have each : ∀ c ∈ number, c = '-' ∨ isDigit c = true :=
    fun c member => Or.inr (areDigits c member)
  rcases isSign with rfl | rfl
  · exact each
  · exact List.forall_mem_cons.mpr ⟨Or.inl rfl, each⟩

theorem finds_floatSuffix : Finds floatSuffix? floatSuffix where
  sound := by
    intro text literal after found
    refine ⟨?_, append_of_floatSuffix? found⟩
    unfold floatSuffix? at found
    split at found
    · exact Or.inr (finds_exponent.sound found).1
    · rename_i inFront middle isFraction
      have isFront := (finds_fraction.sound isFraction).1
      split at found
      · cases found
        have nothing : [] ∈ 1 + exponent := Or.inl Language.nil_mem_one
        have whole := Language.append_mem_mul isFront nothing
        rw [List.append_nil] at whole
        exact Or.inl whole
      · rename_i inExponent last isExponent
        cases found
        have isBehind := (finds_exponent.sound isExponent).1
        exact Or.inl (Language.append_mem_mul isFront (Or.inr isBehind))
  complete := by
    rintro front (isBoth | isExponent) behind
    · obtain ⟨inFront, isFraction, optional, isOptional, rfl⟩ := Language.mem_mul.mp isBoth
      rcases isOptional with rfl | isExponent
      · -- more digits may follow, and an exponent behind them
        obtain ⟨literal, after, found, isPrefix⟩ := finds_fraction.complete isFraction behind
        rw [floatSuffix?, List.append_nil, found]
        dsimp only
        split
        · exact ⟨literal, after, rfl, isPrefix⟩
        · rename_i inExponent last _
          exact ⟨literal ++ inExponent, last, rfl,
            isPrefix.trans (List.prefix_append literal inExponent)⟩
      · obtain ⟨c, rest, rfl, isKey⟩ := begins_exponent optional isExponent
        have found : fraction? (inFront ++ (c :: rest ++ behind)) =
            some (inFront, c :: rest ++ behind) := by
          refine finds_fraction.exact isFraction fun other isHead more isLonger => ?_
          cases isHead
          have allowed := isDigit_of_mem_fraction isLonger c (by simp)
          rcases isKey with rfl | rfl
          · exact absurd allowed (by decide)
          · exact absurd allowed (by decide)
        obtain ⟨literal, after, foundBehind, isPrefix⟩ :=
          finds_exponent.complete isExponent behind
        refine ⟨inFront ++ literal, after, ?_, (List.prefix_append_right_inj inFront).mpr isPrefix⟩
        rw [floatSuffix?, List.append_assoc, found]
        dsimp only
        rw [foundBehind]
    · obtain ⟨c, rest, rfl, isKey⟩ := begins_exponent front isExponent
      have noFraction : fraction? (c :: rest ++ behind) = none := by
        rw [fraction?_eq]
        refine branch_other fun isPoint => ?_
        cases isPoint
        exact absurd isKey (by decide)
      rw [floatSuffix?, noFraction]
      exact finds_exponent.complete isExponent behind

/-! ## Quoted strings -/

theorem append_mem_kstar {language : Language Char} {part text : List Char}
    (isPart : part ∈ language) (isText : text ∈ language∗) : part ++ text ∈ language∗ := by
  rw [← Language.one_add_self_mul_kstar_eq_kstar]
  exact Or.inr (Language.append_mem_mul isPart isText)

theorem mem_kstar_stringPart_iff {body : List Char} : body ∈ stringPart∗ ↔ IsBody body := by
  constructor
  · intro isRun
    obtain ⟨parts, rfl, each⟩ := Language.mem_kstar.mp isRun
    clear isRun
    induction parts with
    | nil => exact .nil
    | cons part parts ih =>
        obtain ⟨isPart, areParts⟩ := List.forall_mem_cons.mp each
        rcases isPart with ⟨c, allowed, rfl⟩ | ⟨_, rfl, _, ⟨c, notFeed, rfl⟩, rfl⟩
        · exact .plain allowed (ih areParts)
        · exact .escape notFeed (ih areParts)
  · intro isBody
    induction isBody with
    | nil => exact Language.nil_mem_kstar stringPart
    | @plain c rest allowed others ih =>
        have isPart : [c] ∈ stringPart := Or.inl (mem_oneOf allowed)
        exact append_mem_kstar isPart ih
    | @escape c rest notFeed others ih =>
        have isPart : ['\\', c] ∈ stringPart :=
          Or.inr (Language.append_mem_mul (Set.mem_singleton ['\\']) (mem_oneOf notFeed))
        exact append_mem_kstar isPart ih

theorem mem_string_iff {text : List Char} :
    text ∈ string.language ↔ ∃ body, IsBody body ∧ text = inQuotes body := by
  constructor
  · rintro ⟨_, ⟨_, rfl, body, isRun, rfl⟩, _, rfl, rfl⟩
    exact ⟨body, mem_kstar_stringPart_iff.mp isRun, rfl⟩
  · rintro ⟨body, isBody, rfl⟩
    have isRun := mem_kstar_stringPart_iff.mpr isBody
    exact Language.append_mem_mul (Language.append_mem_mul (Set.mem_singleton ['"']) isRun)
      (Set.mem_singleton ['"'])

end TokenPattern

end EntityMapping.Document
