import Templating.Decimal.Binary
import Templating.Decimal.Digits

/-!
# The fewest decimal digits that read back

Of a positive double the shortest decimal is sought that rounds to it. The reals
that round to the double form an interval, ends included when the mantissa is
even. On the grid of decimals with one digit, two digits and so on, the grid
points next to the double are tried; the first grid with a point in the interval
gives the answer, the nearer point if both lie in it, and the even one if they
are equally near. Seventeen digits are always enough.
-/
namespace Templating.Decimal

/-- A positive rational interval around a number, over one denominator. -/
structure Rounding where
  low : Nat
  value : Nat
  high : Nat
  denominator : Nat
  closed : Bool

/-- The reals that round to a positive double. Below a power of two the neighbour
is half as far away as above it. -/
def Binary.rounding (b : Binary) : Rounding :=
  let below := if b.mantissa = Nat.pow 2 52 && b.exponent > -1074 then 1 else 2
  let scaled : Binary := { b with mantissa := 1, exponent := b.exponent - 2 }
  let (n, d) := scaled.ratio
  { low := (4 * b.mantissa - below) * n
    value := 4 * b.mantissa * n
    high := (4 * b.mantissa + 2) * n
    denominator := d
    closed := b.mantissa % 2 == 0 }

/-- The same interval measured in units of `10 ^ e`. -/
def Rounding.inUnits (r : Rounding) (e : Int) : Rounding :=
  if e < 0 then
    let s := Nat.pow 10 e.natAbs
    { r with low := r.low * s, value := r.value * s, high := r.high * s }
  else { r with denominator := r.denominator * Nat.pow 10 e.natAbs }

/-- Whether the integer `g` lies in the interval. -/
def Rounding.holds (r : Rounding) (g : Nat) : Bool :=
  let x := g * r.denominator
  if r.closed then r.low ≤ x && x ≤ r.high else r.low < x && x < r.high

/-- The integer next to the value that lies in the interval, the nearer of two. -/
def Rounding.integer? (r : Rounding) : Option Nat :=
  let g := r.value / r.denominator
  match r.holds g, r.holds (g + 1) with
  | true, true => some (divHalfEven r.value r.denominator)
  | true, false => some g
  | false, true => some (g + 1)
  | false, false => none

/-- The exponent of the first decimal digit of a positive rational. -/
def leadingExponent (n d : Nat) : Int :=
  let e : Int := (digits n).length - (digits d).length
  let reaches := if e < 0 then n * Nat.pow 10 e.natAbs ≥ d else n ≥ d * Nat.pow 10 e.natAbs
  if reaches then e else e - 1

/-- A decimal `coefficient · 10 ^ exponent` without trailing zeros. -/
structure Scientific where
  coefficient : Nat
  exponent : Int
  deriving DecidableEq, Repr, Inhabited

/-- The digits of a positive double, tried from `count` digits upwards. -/
def Rounding.shortestFrom (r : Rounding) (leading : Int) : Nat → Nat → Scientific
  | 0, count =>
      let e := leading + 1 - count
      let u := r.inUnits e
      ⟨divHalfEven u.value u.denominator, e⟩
  | more + 1, count =>
      let e := leading + 1 - count
      match (r.inUnits e).integer? with
      | some g => if g = Nat.pow 10 count then ⟨1, e + count⟩ else ⟨g, e⟩
      | none => r.shortestFrom leading more (count + 1)

/-- The shortest decimal that rounds to a positive double. -/
def Binary.shortest (b : Binary) : Scientific :=
  let r := b.rounding
  r.shortestFrom (leadingExponent r.value r.denominator) 16 1

end Templating.Decimal
