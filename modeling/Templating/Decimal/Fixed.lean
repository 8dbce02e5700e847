import Templating.Decimal.Binary
import Templating.Decimal.Digits

/-!
# A fixed number of decimal places

The exact value of a double is rounded to the given number of places, a half to
the even neighbour. The sign is kept, also that of negative zero.
-/
namespace Templating.Decimal

/-- The size of a number with `places` digits after the point. -/
def Binary.fixedSize (b : Binary) (places : Nat) : List Char :=
  let (n, d) := b.ratio
  let ds := padZeros (places + 1) (digits (divHalfEven (n * Nat.pow 10 places) d))
  let whole := ds.take (ds.length - places)
  if places = 0 then whole else whole ++ '.' :: ds.drop (ds.length - places)

/-- A number with `places` digits after the point. -/
def Binary.fixed (b : Binary) (places : Nat) : List Char :=
  if b.negative then '-' :: b.fixedSize places else b.fixedSize places

end Templating.Decimal
