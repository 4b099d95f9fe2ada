/-!
# Runs of case pairs

Letters of one script mostly have their other case at a fixed distance, either
throughout a range or at every second code point of it.
-/

namespace EntityMapping.Text

/-- The code points `first`, `first + step`, … up to `last`; the other case of
each lies `distance` away. -/
structure Run where
  first : Nat
  last : Nat
  step : Nat
  distance : Int

namespace Run

/-- Whether a code point belongs to a run. -/
def covers (run : Run) (code : Nat) : Bool :=
  run.first ≤ code && code ≤ run.last && (code - run.first) % run.step == 0

/-- The image of a code point under the first run that covers it; a code point
that no run covers is its own image. -/
def image (runs : List Run) (code : Nat) : Nat :=
  match runs.find? (·.covers code) with
  | some run => ((code : Int) + run.distance).toNat
  | none => code

end Run

end EntityMapping.Text
