/-!
# String literals

The body of a quoted string runs to the first quote that no backslash
precedes, and must stay on its line.  Escapes stand for single characters.
-/

namespace EntityMapping.Document.StringLiteral

/-- The body of a string after its opening quote, and what follows the closing
quote, or the place where the body cannot go on. -/
structure Extent where
  body : List Char
  rest : List Char
  closed : Bool
deriving DecidableEq

namespace Extent

/-- The extent when more characters stand in front of the body. -/
def after (front : List Char) (extent : Extent) : Extent :=
  { extent with body := front ++ extent.body }

/-- The characters of the string behind its opening quote. -/
def text (extent : Extent) : List Char :=
  match extent.closed with
  | true => extent.body ++ ['"']
  | false => extent.body

theorem text_after (front : List Char) (extent : Extent) :
    (extent.after front).text = front ++ extent.text := by
  rcases extent with ⟨body, rest, _ | _⟩ <;> simp [after, text]

end Extent

/-- The extent of the string whose opening quote has just been read.  A backslash
takes the next character with it, unless that is a line feed. -/
def extent : List Char → Extent
  | [] => ⟨[], [], false⟩
  | '"' :: rest => ⟨[], rest, true⟩
  | '\\' :: c :: rest =>
      if c = '\n' then ⟨[], '\\' :: c :: rest, false⟩
      else (extent rest).after ['\\', c]
  | c :: rest =>
      if c = '\\' ∨ c = '\r' ∨ c = '\n' then ⟨[], c :: rest, false⟩
      else (extent rest).after [c]

/-- The value of a hexadecimal digit. -/
def hexValue? (c : Char) : Option Nat :=
  if '0' ≤ c ∧ c ≤ '9' then some (c.toNat - '0'.toNat)
  else if 'a' ≤ c ∧ c ≤ 'f' then some (c.toNat - 'a'.toNat + 10)
  else if 'A' ≤ c ∧ c ≤ 'F' then some (c.toNat - 'A'.toNat + 10)
  else none

/-- The number of hexadecimal digits. -/
def hexNumber? (digits : List Char) : Option Nat :=
  digits.foldlM (fun value digit => (hexValue? digit).map (16 * value + ·)) 0

/-- The character of a four-place number; the first place may be a plus sign.
Surrogates are no characters. -/
def codeChar? (first : Char) (others : List Char) : Option Char := do
  let code ← hexNumber? (if first = '+' then others else first :: others)
  if 0xd800 ≤ code ∧ code ≤ 0xdfff then none else some (Char.ofNat code)

/-- The character that a backslash and one letter stand for. -/
def shortEscape? : Char → Option Char
  | 'n' => some '\n'
  | 'r' => some '\r'
  | 't' => some '\t'
  | 'b' => some '\x08'
  | 'f' => some '\x0c'
  | '/' => some '/'
  | '\\' => some '\\'
  | '"' => some '"'
  | _ => none

/-- The text that a body stands for, if all its escapes are known. -/
def decode? : List Char → Option (List Char)
  | [] => some []
  | '\\' :: 'u' :: first :: second :: third :: fourth :: rest => do
      let c ← codeChar? first [second, third, fourth]
      (decode? rest).map (c :: ·)
  | '\\' :: letter :: rest => do
      let c ← shortEscape? letter
      (decode? rest).map (c :: ·)
  | '\\' :: [] => none
  | c :: rest => (decode? rest).map (c :: ·)

/-- The string and what follows it are the text. -/
theorem text_append_rest (text : List Char) :
    (extent text).text ++ (extent text).rest = text := by
  fun_induction extent text with
  | case1 => rfl
  | case2 rest => rfl
  | case3 rest => rfl
  | case4 c rest notFeed ih =>
      rw [Extent.text_after, List.append_assoc]
      exact congrArg (['\\', c] ++ ·) ih
  | case5 c rest notQuote notPair stops => rfl
  | case6 c rest notQuote notPair goesOn ih =>
      rw [Extent.text_after, List.append_assoc]
      exact congrArg ([c] ++ ·) ih

example : decode? "a\\u0041\\n".toList = some ['a', 'A', '\n'] := by decide +kernel

end EntityMapping.Document.StringLiteral
