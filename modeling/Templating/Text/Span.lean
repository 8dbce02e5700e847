/-!
# Sets of code points as evenly spaced runs

Properties of characters come as tables of runs. A run goes from its first to
its last code point in equal strides: stride one is an interval, and stride two
covers the alphabets whose capitals and small letters alternate.
-/
namespace Templating.Text

/-- The code points `first`, `first + stride`, …, `last`. -/
structure Span where
  first : Nat
  last : Nat
  stride : Nat

def Span.contains (r : Span) (n : Nat) : Bool :=
  r.first ≤ n && n ≤ r.last && (n - r.first) % r.stride == 0

/-- A character has the property when some run holds its code point. -/
def inSpans (runs : Array Span) (c : Char) : Bool :=
  runs.any fun r => r.contains c.toNat

end Templating.Text
