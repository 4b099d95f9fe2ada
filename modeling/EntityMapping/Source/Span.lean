/-!
# Spans of source text

A span is a half-open range of byte offsets.
-/

namespace EntityMapping.Source

/-- The bytes from `start` up to, but not including, `stop`. -/
structure Span where
  start : Nat
  stop : Nat
deriving DecidableEq, Repr, Inhabited

namespace Span

/-- The smallest span that covers both. -/
def merge (left right : Span) : Span :=
  ⟨min left.start right.start, max left.stop right.stop⟩

/-- The empty span directly behind a span. -/
def endPoint (span : Span) : Span :=
  ⟨span.stop, span.stop⟩

/-- Number of bytes covered; a span that ends before it starts covers none. -/
def length (span : Span) : Nat :=
  span.stop - span.start

/-- Whether a span covers no byte. -/
def isEmpty (span : Span) : Bool :=
  span.length == 0

/-- The span of the same text when `distance` more bytes stand before it. -/
def shift (distance : Nat) (span : Span) : Span :=
  ⟨span.start + distance, span.stop + distance⟩

theorem merge_shift (distance : Nat) (left right : Span) :
    (left.shift distance).merge (right.shift distance) = (left.merge right).shift distance := by
  simp only [merge, shift, mk.injEq]
  omega

end Span

end EntityMapping.Source
