/-!
# Doubles as integers times powers of two

Exact work on a double starts from its sign, an integer mantissa below 2^53 and
the exponent of two of the mantissa's unit.
-/
namespace Templating.Decimal

/-- The finite number `± mantissa · 2 ^ exponent`. -/
structure Binary where
  negative : Bool
  mantissa : Nat
  exponent : Int
  deriving DecidableEq, Repr, Inhabited

/-- The parts of a finite double. Zero and the subnormal numbers have the least
exponent and no hidden bit. -/
def Binary.ofFloat (x : Float) : Binary :=
  let bits := x.toBits.toNat
  let fraction := bits % Nat.pow 2 52
  let biased := bits / Nat.pow 2 52 % Nat.pow 2 11
  { negative := bits / Nat.pow 2 63 == 1
    mantissa := if biased = 0 then fraction else fraction + Nat.pow 2 52
    exponent := (max biased 1 : Nat) - 1075 }

def Binary.ratio (b : Binary) : Nat × Nat :=
  if b.exponent < 0 then (b.mantissa, Nat.pow 2 b.exponent.natAbs)
  else (b.mantissa * Nat.pow 2 b.exponent.natAbs, 1)

/-- The double nearest to `± coefficient · 10 ^ exponent`, if it is finite. Sizes
that are out of every double's range are told by the length of the coefficient. -/
def floatOf? (negative : Bool) (coefficient : Nat) (exponent : Int) : Option Float :=
  let size : Int := (Nat.toDigits 10 coefficient).length + exponent
  let x :=
    if coefficient = 0 || size < -330 then 0
    else if size > 310 then 1 / 0
    else Float.ofScientific coefficient (exponent < 0) exponent.natAbs
  if x.isFinite then some (if negative then -x else x) else none

end Templating.Decimal
