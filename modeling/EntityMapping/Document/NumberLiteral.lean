import EntityMapping.Number.Binary64

/-!
# Number literals

An integer literal has an optional minus sign and no superfluous zero in
front.  A fraction, an exponent or both make it a floating point literal.
-/

namespace EntityMapping.Document

open EntityMapping.Number

/-- Whether a character is a decimal digit. -/
def isDigit (c : Char) : Bool :=
  '0' ≤ c && c ≤ '9'

/-- The number that a run of decimal digits denotes. -/
def digitsValue (digits : List Char) : Nat :=
  digits.foldl (fun value digit => 10 * value + (digit.toNat - '0'.toNat)) 0

namespace NumberLiteral

/-- Digits at the front of a text, if there is at least one, and what follows. -/
def digits? : List Char → Option (List Char × List Char)
  | [] => none
  | c :: rest =>
      if isDigit c then some (c :: rest.takeWhile isDigit, rest.dropWhile isDigit) else none

/-- A natural number at the front of a text; a zero stands alone. -/
def natural? : List Char → Option (List Char × List Char)
  | '0' :: rest => some (['0'], rest)
  | text => digits? text

/-- An integer at the front of a text. -/
def integer? : List Char → Option (List Char × List Char)
  | '-' :: rest => (natural? rest).map fun (literal, after) => ('-' :: literal, after)
  | text => natural? text

/-- A point and digits at the front of a text. -/
def fraction? : List Char → Option (List Char × List Char)
  | '.' :: rest => (digits? rest).map fun (literal, after) => ('.' :: literal, after)
  | _ => none

/-- Digits with an optional sign at the front of a text. -/
def signedDigits? : List Char → Option (List Char × List Char)
  | '+' :: rest => (digits? rest).map fun (literal, after) => ('+' :: literal, after)
  | '-' :: rest => (digits? rest).map fun (literal, after) => ('-' :: literal, after)
  | text => digits? text

/-- An exponent at the front of a text. -/
def exponent? : List Char → Option (List Char × List Char)
  | 'e' :: rest => (signedDigits? rest).map fun (literal, after) => ('e' :: literal, after)
  | 'E' :: rest => (signedDigits? rest).map fun (literal, after) => ('E' :: literal, after)
  | _ => none

/-- What makes an integer in front of it a floating point literal. -/
def floatSuffix? (text : List Char) : Option (List Char × List Char) :=
  match fraction? text with
  | none => exponent? text
  | some (fraction, after) =>
      match exponent? after with
      | none => some (fraction, after)
      | some (exponent, after) => some (fraction ++ exponent, after)

/-- The sign of a literal and the rest of it. -/
def splitSign : List Char → Bool × List Char
  | '-' :: rest => (true, rest)
  | '+' :: rest => (false, rest)
  | text => (false, text)

/-- The integer that signed digits denote. -/
def signedValue (literal : List Char) : Int :=
  let (negative, digits) := splitSign literal
  if negative then -(digitsValue digits : Int) else digitsValue digits

/-- The value of an integer literal, if it fits into sixty-four bits. -/
def intValue? (literal : List Char) : Option Int64 :=
  let value := signedValue literal
  if Int64.minValue.toInt ≤ value ∧ value ≤ Int64.maxValue.toInt then some (Int64.ofInt value)
  else none

/-- The value of a floating point literal. -/
def floatValue (literal : List Char) : Binary64 :=
  let (negative, unsigned) := splitSign literal
  let whole := unsigned.takeWhile isDigit
  let afterWhole := unsigned.dropWhile isDigit
  let fraction := (fraction? afterWhole).elim [] fun found => found.1.drop 1
  let exponent := unsigned.dropWhile fun c => c != 'e' && c != 'E'
  Binary64.ofDecimal negative (digitsValue (whole ++ fraction))
    (signedValue (exponent.drop 1) - Int.ofNat fraction.length)

theorem append_of_digits? {text literal after : List Char}
    (found : digits? text = some (literal, after)) :
    literal ++ after = text ∧ literal ≠ [] := by
  cases text with
  | nil => simp [digits?] at found
  | cons c rest =>
      simp only [digits?] at found
      split at found
      · simp only [Option.some.injEq, Prod.mk.injEq] at found
        obtain ⟨rfl, rfl⟩ := found
        simp
      · cases found

theorem append_of_natural? {text literal after : List Char}
    (found : natural? text = some (literal, after)) :
    literal ++ after = text ∧ literal ≠ [] := by
  unfold natural? at found
  split at found
  · simp only [Option.some.injEq, Prod.mk.injEq] at found
    obtain ⟨rfl, rfl⟩ := found
    simp
  · exact append_of_digits? found

theorem append_of_integer? {text literal after : List Char}
    (found : integer? text = some (literal, after)) :
    literal ++ after = text ∧ literal ≠ [] := by
  unfold integer? at found
  split at found
  · simp only [Option.map_eq_some_iff, Prod.mk.injEq] at found
    obtain ⟨⟨inner, _⟩, natural, rfl, rfl⟩ := found
    simp [(append_of_natural? natural).1]
  · exact append_of_natural? found

theorem append_of_fraction? {text literal after : List Char}
    (found : fraction? text = some (literal, after)) : literal ++ after = text := by
  unfold fraction? at found
  split at found
  · simp only [Option.map_eq_some_iff, Prod.mk.injEq] at found
    obtain ⟨⟨inner, _⟩, digits, rfl, rfl⟩ := found
    simp [(append_of_digits? digits).1]
  · cases found

theorem append_of_signedDigits? {text literal after : List Char}
    (found : signedDigits? text = some (literal, after)) : literal ++ after = text := by
  unfold signedDigits? at found
  split at found
  · simp only [Option.map_eq_some_iff, Prod.mk.injEq] at found
    obtain ⟨⟨inner, _⟩, digits, rfl, rfl⟩ := found
    simp [(append_of_digits? digits).1]
  · simp only [Option.map_eq_some_iff, Prod.mk.injEq] at found
    obtain ⟨⟨inner, _⟩, digits, rfl, rfl⟩ := found
    simp [(append_of_digits? digits).1]
  · exact (append_of_digits? found).1

theorem append_of_exponent? {text literal after : List Char}
    (found : exponent? text = some (literal, after)) : literal ++ after = text := by
  unfold exponent? at found
  split at found
  · simp only [Option.map_eq_some_iff, Prod.mk.injEq] at found
    obtain ⟨⟨inner, _⟩, digits, rfl, rfl⟩ := found
    simp [append_of_signedDigits? digits]
  · simp only [Option.map_eq_some_iff, Prod.mk.injEq] at found
    obtain ⟨⟨inner, _⟩, digits, rfl, rfl⟩ := found
    simp [append_of_signedDigits? digits]
  · cases found

theorem append_of_floatSuffix? {text literal after : List Char}
    (found : floatSuffix? text = some (literal, after)) : literal ++ after = text := by
  unfold floatSuffix? at found
  split at found
  · exact append_of_exponent? found
  · rename_i fraction middle isFraction
    split at found
    · simp only [Option.some.injEq, Prod.mk.injEq] at found
      obtain ⟨rfl, rfl⟩ := found
      exact append_of_fraction? isFraction
    · rename_i exponent last isExponent
      simp only [Option.some.injEq, Prod.mk.injEq] at found
      obtain ⟨rfl, rfl⟩ := found
      rw [List.append_assoc, append_of_exponent? isExponent, append_of_fraction? isFraction]

example : intValue? "-9223372036854775808".toList = some Int64.minValue := by decide +kernel
example : intValue? "9223372036854775808".toList = none := by decide +kernel

end NumberLiteral

end EntityMapping.Document
