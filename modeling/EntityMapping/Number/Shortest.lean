import EntityMapping.Number.Binary64

/-!
# The shortest decimal of a floating point number

Among the decimals that read back to a number, those with the fewest digits
are taken, and of these the one nearest to the number.  All comparisons are
exact: both sides are brought to a common denominator.
-/

namespace EntityMapping.Number

/-- The decimal `digits * 10 ^ exponent`. -/
structure Decimal where
  digits : Nat
  exponent : Int
deriving DecidableEq, Repr

/-- Which of two equally near decimals is taken. -/
inductive Tie where
  | toEven
  | awayFromZero
deriving DecidableEq, Repr

namespace Magnitude

/-- `decimal * 10 ^ grid` and the given number of quarters of the last place,
brought to a common denominator. -/
def scaled (value : Magnitude) (grid : Int) (decimal quarters : Nat) : Nat × Nat :=
  let exponent := value.exponent - 2
  (decimal * power 10 grid * power 2 (-exponent),
   quarters * power 2 exponent * power 10 (-grid))

/-- The lower end of the interval of reals that round to the number, in quarters
of its last place.  Below a power of two the neighbour is only half as far. -/
def lowerQuarters (value : Magnitude) : Nat :=
  if value.significand = Binary64.fractions ∧ value.exponent ≠ -1074 then 4 * value.significand - 1
  else 4 * value.significand - 2

/-- The upper end of that interval. -/
def upperQuarters (value : Magnitude) : Nat :=
  4 * value.significand + 2

/-- Whether `decimal * 10 ^ grid` reads back to the number.  The ends of the
interval belong to it when the significand is even. -/
def readsBack (value : Magnitude) (grid : Int) (decimal : Nat) : Bool :=
  let (left, low) := value.scaled grid decimal value.lowerQuarters
  let (_, high) := value.scaled grid decimal value.upperQuarters
  if value.significand % 2 = 0 then low ≤ left && left ≤ high
  else low < left && left < high

/-- The largest multiple of `10 ^ grid` that does not exceed the number. -/
def floorOn (value : Magnitude) (grid : Int) : Nat :=
  let (unit, number) := value.scaled grid 1 (4 * value.significand)
  number / unit

/-- Of two neighbouring multiples of `10 ^ grid` around the number, the nearer. -/
def nearerOn (value : Magnitude) (tie : Tie) (grid : Int) (below : Nat) : Nat :=
  let (middle, twice) := value.scaled grid (2 * below + 1) (8 * value.significand)
  if twice < middle then below
  else if middle < twice then below + 1
  else
    match tie with
    | .awayFromZero => below + 1
    | .toEven => below + below % 2

/-- The nearest multiple of `10 ^ grid` that reads back, if one does. -/
def onGrid (value : Magnitude) (tie : Tie) (grid : Int) : Option Nat :=
  let below := value.floorOn grid
  match value.readsBack grid below, value.readsBack grid (below + 1) with
  | true, true => some (value.nearerOn tie grid below)
  | true, false => some below
  | false, true => some (below + 1)
  | false, false => none

/-- The exponent of the first decimal digit of a positive number. -/
def leadingExponent (value : Magnitude) : Int :=
  let numerator := value.significand * power 2 value.exponent
  let denominator := power 2 (-value.exponent)
  let estimate : Int :=
    Int.ofNat (Nat.toDigits 10 numerator).length - (Nat.toDigits 10 denominator).length
  if numerator * power 10 (-estimate) < denominator * power 10 estimate then estimate - 1
  else estimate

/-- The first grid, from coarse to fine, with a decimal that reads back. -/
def firstOnGrids (value : Magnitude) (tie : Tie) : List Int → Option Decimal
  | [] => none
  | grid :: finer =>
      match value.onGrid tie grid with
      | some digits => some ⟨digits, grid⟩
      | none => value.firstOnGrids tie finer

/-- The grids on which a positive number has one to seventeen digits. -/
def grids (value : Magnitude) : List Int :=
  (List.range 17).map fun place => value.leadingExponent - Int.ofNat place

end Magnitude

namespace Decimal

/-- The same decimal without trailing zeros, for at most `limit` of them. -/
def stripZeros : Nat → Decimal → Decimal
  | 0, decimal => decimal
  | limit + 1, decimal =>
      if decimal.digits ≠ 0 ∧ decimal.digits % 10 = 0 then
        stripZeros limit ⟨decimal.digits / 10, decimal.exponent + 1⟩
      else decimal

/-- The shortest decimal that reads back to a finite magnitude. -/
def shortest (tie : Tie) (value : Magnitude) : Decimal :=
  if value.significand = 0 then ⟨0, 0⟩
  else
    match value.firstOnGrids tie value.grids with
    | some decimal => stripZeros 17 decimal
    | none => ⟨value.significand, value.exponent⟩

example : shortest .toEven (Binary64.ofDecimal false 1 (-1)).magnitude = ⟨1, -1⟩ := by
  decide
example : shortest .toEven ⟨1, -1074⟩ = ⟨5, -324⟩ := by decide +kernel

end Decimal

end EntityMapping.Number
