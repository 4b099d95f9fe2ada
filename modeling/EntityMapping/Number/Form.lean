import EntityMapping.Number.Shortest

/-!
# Written forms of floating point numbers

The digits of a number are the shortest that read back to it.  What else
belongs to a written form is a record: when an exponent is used, whether an
integral number shows a decimal place, and which way ties go.
-/

namespace EntityMapping.Number

/-- The decisions of a written form. -/
structure Form where
  /-- Which of two equally near shortest decimals is written. -/
  tie : Tie
  /-- Whether an integral number written without exponent ends in `.0`. -/
  showsPlace : Bool
  /-- For which places of the decimal point, counted from the first digit, no
  exponent is used. -/
  positional : Int → Bool

namespace Form

/-- The form in which numbers are shown to a reader: never an exponent. -/
def plain : Form := ⟨.awayFromZero, false, fun _ => true⟩

/-- The form of numbers in data: a decimal place or an exponent always tells
them from integers, and an exponent is used from `1e16` up and below `1e-5`. -/
def data : Form := ⟨.toEven, true, fun place => -5 < place && place ≤ 16⟩

def zeros (count : Nat) : List Char := List.replicate count '0'

/-- The digits with the decimal point in its place, zeros filling the gap. -/
def positionalText (form : Form) (digits : List Char) (place : Int) : List Char :=
  if place ≤ 0 then '0' :: '.' :: zeros (-place).toNat ++ digits
  else if digits.length ≤ place.toNat then
    digits ++ zeros (place.toNat - digits.length) ++
      (if form.showsPlace then ['.', '0'] else [])
  else digits.take place.toNat ++ '.' :: digits.drop place.toNat

/-- The first digit, the others behind a point, and the exponent. -/
def exponentText (digits : List Char) (place : Int) : List Char :=
  let mantissa :=
    match digits with
    | [] => []
    | [digit] => [digit]
    | digit :: more => digit :: '.' :: more
  mantissa ++ 'e' :: (toString (place - 1)).toList

/-- A decimal without its sign. -/
def decimalText (form : Form) (decimal : Decimal) : List Char :=
  let digits := Nat.toDigits 10 decimal.digits
  let place := decimal.exponent + digits.length
  if form.positional place then form.positionalText digits place
  else exponentText digits place

/-- The text of a number; an infinite one is written as `inf`. -/
def text (form : Form) (number : Binary64) : String :=
  let sign := if number.isNegative then ['-'] else []
  let digits :=
    if number.isFinite then
      form.decimalText (Decimal.shortest form.tie number.magnitude)
    else ['i', 'n', 'f']
  String.ofList (sign ++ digits)

end Form

end EntityMapping.Number
