import Mathlib.Data.Nat.Log
import Templating.Decimal.Digits

/-!
# Numerals

An alphabet lists the digits of a base in the order of their values, the zero first, so that a
digit stands for its place in the alphabet and the base is their number. A numeral of a width
has no fewer digits than that, and no more than it needs. What `Nat.toDigits` writes is such a
numeral, whether its letters are small or capital, and filling it up with zeros widens it.
-/
namespace Templating

/-- The number that a text spells in the digits of an alphabet. -/
def spelled (alphabet text : List Char) : Nat :=
  text.foldl (fun n c => alphabet.length * n + alphabet.idxOf c) 0

/-- A numeral of `n` with at least `width` digits. As many digits as `n` has are needed, one
even for zero. -/
structure IsNumeral (alphabet : List Char) (width n : Nat) (text : List Char) : Prop where
  digits : ∀ c ∈ text, c ∈ alphabet
  spells : spelled alphabet text = n
  length : text.length = max width (Nat.log alphabet.length n + 1)

section
variable {alphabet text : List Char} {c : Char} {n width : Nat}

theorem spelled_concat (alphabet text : List Char) (c : Char) :
    spelled alphabet (text ++ [c]) = alphabet.length * spelled alphabet text + alphabet.idxOf c := by
  simp [spelled]

/-- Zeros in front change nothing. -/
theorem spelled_zeros_append (hzero : alphabet.head? = some c) (k : Nat) (text : List Char) :
    spelled alphabet (List.replicate k c ++ text) = spelled alphabet text := by
  have hc : alphabet.idxOf c = 0 := by
    obtain ⟨rest, rfl⟩ := List.head?_eq_some_iff.mp hzero
    exact List.idxOf_cons_self
  induction k with
  | zero => rfl
  | succ k ih =>
      rw [← ih, List.replicate_succ, List.cons_append, spelled, List.foldl_cons, hc]
      rfl

/-- A numeral that is as short as can be takes zeros in front to be as wide as is asked. -/
theorem IsNumeral.padZeros (hzero : alphabet.head? = some '0') (h : IsNumeral alphabet 0 n text)
    (width : Nat) : IsNumeral alphabet width n (Decimal.padZeros width text) where
  digits := by
    intro c hc
    rw [Decimal.padZeros, List.mem_append, List.mem_replicate] at hc
    rcases hc with ⟨-, rfl⟩ | hc
    · exact List.mem_of_head? hzero
    · exact h.digits c hc
  spells := by
    rw [Decimal.padZeros, spelled_zeros_append hzero, h.spells]
  length := by
    rw [Decimal.length_padZeros, h.length, Nat.zero_max]

/-- A numeral grows by the next digit of the number. -/
theorem IsNumeral.concat (hbase : 1 < alphabet.length) (hle : alphabet.length ≤ n)
    (h : IsNumeral alphabet 0 (n / alphabet.length) text)
    (hc : alphabet.idxOf c = n % alphabet.length) : IsNumeral alphabet 0 n (text ++ [c]) where
  digits := by
    intro d hd
    rcases List.mem_append.mp hd with hd | hd
    · exact h.digits d hd
    · rw [List.mem_singleton.mp hd, ← List.idxOf_lt_length_iff, hc]
      exact Nat.mod_lt n (Nat.lt_of_succ_lt hbase)
  spells := by
    rw [spelled_concat, h.spells, hc]
    exact Nat.div_add_mod n alphabet.length
  length := by
    rw [List.length_append, h.length, Nat.log_of_one_lt_of_le hbase hle, Nat.zero_max, Nat.zero_max,
      List.length_singleton]

/-- The digits of a number are a numeral, written with those of the alphabet. -/
theorem isNumeral_toDigits {f : Char → Char} (hbase : 1 < alphabet.length)
    (hf : ∀ d < alphabet.length, alphabet.idxOf (f d.digitChar) = d) (n : Nat) :
    IsNumeral alphabet 0 n ((Nat.toDigits alphabet.length n).map f) := by
  induction n using Nat.strongRecOn with
  | ind n ih =>
      by_cases hn : n < alphabet.length
      · have hmem : f n.digitChar ∈ alphabet := by
          rw [← List.idxOf_lt_length_iff, hf n hn]
          exact hn
        rw [Nat.toDigits_of_lt_base hn]
        exact ⟨by simpa using hmem, by simp [spelled, hf n hn], by simp [Nat.log_of_lt hn]⟩
      · have hle : alphabet.length ≤ n := Nat.not_lt.mp hn
        have hlast := hf (n % alphabet.length) (Nat.mod_lt n (Nat.lt_of_succ_lt hbase))
        rw [Nat.toDigits_of_base_le hbase hle, List.map_append]
        exact (ih (n / alphabet.length) (Nat.div_lt_self (by omega) hbase)).concat hbase hle hlast

end

end Templating
