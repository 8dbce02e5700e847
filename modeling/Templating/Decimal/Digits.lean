/-!
# Digits of natural numbers

Writing with a least number of digits, reading of unsigned numbers and of exponents,
and division rounded to the nearest integer.
-/
namespace Templating.Decimal

/-- The decimal digits of a number, without leading zeros. -/
def digits (n : Nat) : List Char := Nat.toDigits 10 n

/-- Digits filled up with leading zeros to a least length. -/
def padZeros (width : Nat) (s : List Char) : List Char :=
  List.replicate (width - s.length) '0' ++ s

theorem length_padZeros (width : Nat) (s : List Char) :
    (padZeros width s).length = max width s.length := by
  simp only [padZeros, List.length_append, List.length_replicate]
  omega

def digitValue (c : Char) : Nat := c.toNat - '0'.toNat

def ofDigits (s : List Char) : Nat :=
  s.foldl (fun n c => 10 * n + digitValue c) 0

def digitRun (s : List Char) : List Char × List Char :=
  (s.takeWhile Char.isDigit, s.dropWhile Char.isDigit)

/-- The exponent of a number: absent, or a mark, a sign that may be missing, and
digits. -/
def exponentOf? : List Char → Option Int
  | [] => some 0
  | e :: s =>
      if e == 'e' || e == 'E' then
        let (negative, ds) := match s with
          | '-' :: r => (true, r)
          | '+' :: r => (false, r)
          | r => (false, r)
        if !ds.isEmpty && ds.all Char.isDigit then
          some (if negative then -(ofDigits ds) else ofDigits ds)
        else none
      else none

def hexValue? (c : Char) : Option Nat :=
  let n := c.toNat
  if c.isDigit then some (n - 0x30)
  else if 0x61 ≤ n && n ≤ 0x66 then some (n - 0x57)
  else if 0x41 ≤ n && n ≤ 0x46 then some (n - 0x37)
  else none

/-- The largest number that the reading of counts, indexes and widths accepts. -/
def maxCount : Nat := Nat.pow 2 64 - 1

/-- A count: decimal digits, leading zeros allowed, after an optional plus sign. -/
def readCount? (s : List Char) : Option Nat :=
  let ds := match s with
    | '+' :: r => r
    | _ => s
  if !ds.isEmpty && ds.all Char.isDigit && ofDigits ds ≤ maxCount then some (ofDigits ds)
  else none

theorem digits_ne_nil (n : Nat) : digits n ≠ [] := Nat.toDigits_ne_nil

theorem isDigit_of_mem_digits {n : Nat} {c : Char} (h : c ∈ digits n) : c.isDigit = true :=
  Nat.isDigit_of_mem_toDigits (by decide) (by decide) h

theorem ofDigits_digits (n : Nat) : ofDigits (digits n) = n :=
  Nat.ofDigitChars_toDigits (by decide) (by decide)

/-- A count that is not too large is read back from its digits. -/
theorem readCount?_digits {n : Nat} (h : n ≤ maxCount) : readCount? (digits n) = some n := by
  have hall : (digits n).all Char.isDigit = true :=
    List.all_eq_true.mpr fun c hc => isDigit_of_mem_digits hc
  have hplus : ∀ r, digits n ≠ '+' :: r := by
    intro r hr
    have := isDigit_of_mem_digits (n := n) (c := '+') (by rw [hr]; exact List.mem_cons_self)
    simp at this
  unfold readCount?
  split
  · rename_i r hr
    exact (hplus r hr).elim
  · simp [digits_ne_nil, hall, ofDigits_digits, h]

/-- The quotient rounded to the nearest integer, a half to the even neighbour. -/
def divHalfEven (n d : Nat) : Nat :=
  let q := n / d
  let r := n % d
  if 2 * r < d then q
  else if 2 * r > d then q + 1
  else if q % 2 = 0 then q
  else q + 1

end Templating.Decimal
