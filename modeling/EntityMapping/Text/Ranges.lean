/-!
# Ranges of code points

A property of characters is tabulated as a list of closed ranges.
-/

namespace EntityMapping.Text

/-- Whether a code point lies in one of the closed ranges. -/
def inRanges (ranges : List (Nat × Nat)) (code : Nat) : Bool :=
  ranges.any fun (low, high) => low ≤ code && code ≤ high

end EntityMapping.Text
