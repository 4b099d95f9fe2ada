/-!
# Binary floating point numbers of 64 bits

A number is its bit pattern: a sign, eleven bits of exponent and fifty-two of
fraction.  A decimal is read to the nearest number, and of two that are
equally near to the one with an even fraction.
-/

namespace EntityMapping.Number

/-- A floating point number, given by its bits. -/
structure Binary64 where
  bits : UInt64
deriving DecidableEq, Repr

/-- A finite positive number as `significand * 2 ^ exponent`. -/
structure Magnitude where
  significand : Nat
  exponent : Int
deriving DecidableEq, Repr

/-- The number `base ^ exponent`, or one if the exponent is negative.  A fraction is
multiplied by any power when its numerator takes this one and its denominator the
one of the negated exponent. -/
def power (base : Nat) (exponent : Int) : Nat :=
  Nat.pow base exponent.toNat

namespace Binary64

/-- How many fractions there are: two to the power of fifty-two. -/
def fractions : Nat := 0x10000000000000

/-- The bits of positive infinity, which are also one more than those of the
largest finite number. -/
def infinityBits : Nat := 0x7ff0000000000000

/-- The bit that makes a number negative. -/
def signBit : Nat := 0x8000000000000000

/-- The bits without the sign. -/
def magnitudeBits (number : Binary64) : Nat :=
  number.bits.toNat % signBit

def isNegative (number : Binary64) : Bool :=
  signBit ≤ number.bits.toNat

def isFinite (number : Binary64) : Bool :=
  number.magnitudeBits < infinityBits

/-- The value of a finite number without its sign. -/
def magnitude (number : Binary64) : Magnitude :=
  let fraction := number.magnitudeBits % fractions
  let biased := number.magnitudeBits / fractions
  if biased = 0 then ⟨fraction, -1074⟩
  else ⟨fraction + fractions, Int.ofNat biased - 1075⟩

/-- The number with the given sign and magnitude bits. -/
def ofParts (negative : Bool) (magnitudeBits : Nat) : Binary64 :=
  ⟨UInt64.ofNat (if negative then magnitudeBits + signBit else magnitudeBits)⟩

/-- The quotient rounded to the nearest integer; a half goes to the even one. -/
def roundedQuotient (numerator denominator : Nat) : Nat :=
  let quotient := numerator / denominator
  let twice := 2 * (numerator % denominator)
  if twice < denominator then quotient
  else if denominator < twice then quotient + 1
  else quotient + quotient % 2

/-- The quotient of `numerator` and `denominator * 2 ^ exponent`, rounded. -/
def roundedAt (numerator denominator : Nat) (exponent : Int) : Nat :=
  roundedQuotient (numerator * power 2 (-exponent)) (denominator * power 2 exponent)

/-- The exponent of the last place of the number next to a positive quotient:
the quotient holds that place at least `2 ^ 52` and less than `2 ^ 53` times,
or the place is the smallest one there is. -/
def lastPlace (numerator denominator : Nat) : Int :=
  let estimate : Int := Int.ofNat numerator.log2 - denominator.log2 - 52
  let below := numerator * power 2 (-estimate) < denominator * (fractions * power 2 estimate)
  max (-1074) (if below then estimate - 1 else estimate)

/-- The bits of the magnitude nearest to a positive quotient.  A fraction that
rounds up to `2 ^ 53` carries into the exponent, and one beyond the largest
finite number becomes infinity. -/
def nearestBits (numerator denominator : Nat) : Nat :=
  let exponent := lastPlace numerator denominator
  min infinityBits
    ((exponent + 1074).toNat * fractions + roundedAt numerator denominator exponent)

/-- The bits of the magnitude nearest to `significand * 10 ^ exponent`.  Decimals
far outside the range of finite numbers are settled by their length alone. -/
def decimalBits (significand : Nat) (exponent : Int) : Nat :=
  let length : Int := (Nat.toDigits 10 significand).length
  if significand = 0 then 0
  else if length + exponent > 310 then infinityBits
  else if length + exponent < -330 then 0
  else nearestBits (significand * power 10 exponent) (power 10 (-exponent))

/-- The number nearest to a decimal. -/
def ofDecimal (negative : Bool) (significand : Nat) (exponent : Int) : Binary64 :=
  ofParts negative (decimalBits significand exponent)

example : ofDecimal false 15 (-1) = ⟨0x3ff8000000000000⟩ := by decide
example : ofDecimal true 0 0 = ⟨0x8000000000000000⟩ := by decide
example : (ofDecimal false 1 999).isFinite = false := by decide

end Binary64

end EntityMapping.Number
