import Mathlib.Algebra.Group.Int.Defs
import Templating.Format
import Templating.Proofs.Calls
import Templating.Proofs.Numerals

/-!
# Numbers under formats

A format of a number is a letter and a count behind it. The letter asks for places behind the
point, for decimal digits or for hexadecimal ones, and the count says how many there are to be
at least. `Number.format_of_style` says what comes of it: the number does not take the letter,
or the count is beyond what can be written, or the number is written. Integers are written as
numerals (`isNumeral_decimal`, `isNumeral_hexadecimal`), so that none of them loses a digit.
-/
namespace Templating
open Text

/-- What the letter of a format asks of a number. -/
inductive NumberStyle where
  | places
  | decimal
  | hexadecimal (capital : Bool)
  deriving DecidableEq, Repr

def NumberStyle.ofLetter? : Char → Option NumberStyle
  | 'F' | 'f' => some .places
  | 'D' | 'd' => some .decimal
  | 'X' => some (.hexadecimal true)
  | 'x' => some (.hexadecimal false)
  | _ => none

/-- The count behind a letter. Where there is none, two places are written, or all digits. -/
def NumberStyle.count? (style : NumberStyle) (digits : List Char) : Option Nat :=
  if digits.isEmpty then some (if style = .places then 2 else 0) else Decimal.readCount? digits

/-- A number with as many digits or places as are asked for, were there no limit to them;
nothing if it cannot be written in the style. -/
def Number.written? (n : Number) (count : Nat) : NumberStyle → Option (List Char)
  | .places => some ((Decimal.Binary.ofFloat (roundPlaces n.toFloat count)).fixed count)
  | .decimal => n.signed?.map fun i =>
      (if i < 0 then ['-'] else []) ++ Decimal.padZeros count (Decimal.digits i.natAbs)
  | .hexadecimal capital => n.unsigned?.map fun i =>
      Decimal.padZeros count ((Nat.toDigits 16 i).map (if capital then Char.toUpper else id))

/-- A number in a style, if the count is not too great. -/
def Number.inStyle (n : Number) (count : Nat) (style : NumberStyle) :
    Except (Fault FormatError) (Option (List Char)) :=
  match n.written? count style with
  | none => .ok none
  | some s => if count ≤ maxWidth then .ok (some s) else .error .abort

theorem upperHex_padZeros (width : Nat) (s : List Char) :
    upperHex (Decimal.padZeros width s) = Decimal.padZeros width (s.map Char.toUpper) := by
  simp [upperHex, Decimal.padZeros, (by decide : '0'.toUpper = '0')]

namespace Number
variable {n : Number} {letter : Char} {digits : List Char} {count : Nat} {style : NumberStyle}

theorem signed?_of_lt {i : Int} (hlow : -2 ^ 63 ≤ i) (h : i < 2 ^ 63) :
    (Number.int i).signed? = some i := by
  rw [signed?, if_pos]
  simpa using ⟨hlow, h⟩

theorem signed?_of_le {i : Int} (h : 2 ^ 63 ≤ i) : (Number.int i).signed? = none := by
  rw [signed?, if_neg]
  simpa using fun _ => h

theorem unsigned?_of_nonneg {i : Int} (h : 0 ≤ i) :
    (Number.int i).unsigned? = some i.natAbs := by
  rw [unsigned?, if_pos h]
  congr
  omega

theorem unsigned?_of_neg {i : Int} (h : i < 0) : (Number.int i).unsigned? = none :=
  if_neg (Int.not_le.mpr h)

theorem format_of_no_style (hstyle : NumberStyle.ofLetter? letter = none) (n : Number)
    (digits : List Char) : n.format (letter :: digits) = .ok none := by
  unfold NumberStyle.ofLetter? at hstyle
  split at hstyle <;> cases hstyle
  rw [format]
  split
  · rfl
  · simp_all

/-- A number is written in the style of the letter, unless it has no form in it or the count is
too great. -/
theorem format_of_style (hstyle : NumberStyle.ofLetter? letter = some style) (n : Number)
    (digits : List Char) :
    n.format (letter :: digits) = match style.count? digits with
      | none => .ok none
      | some count => n.inStyle count style := by
  have hcount : style.count? digits =
      (if digits.isEmpty then some none else (Decimal.readCount? digits).map some).map
        fun c => c.getD (if style = .places then 2 else 0) := by
    rw [NumberStyle.count?]
    split
    · rfl
    · cases Decimal.readCount? digits <;> rfl
  rw [format, hcount]
  generalize (if digits.isEmpty then some none else (Decimal.readCount? digits).map some) = read
  cases read with
  | none => rfl
  | some count =>
      unfold NumberStyle.ofLetter? at hstyle
      split at hstyle <;> cases hstyle <;> simp only [inStyle, written?]
      case h_1.refl | h_2.refl => simp
      case h_3.refl | h_4.refl =>
        cases n.signed? with
        | none => rfl
        | some i =>
            by_cases hfits : count.getD 0 ≤ maxWidth
            · rw [Nat.min_eq_left hfits]
              by_cases hi : i < 0 <;> simp [hfits, hi]
            · simp [hfits]
      case h_5.refl | h_6.refl =>
        cases n.unsigned? with
        | none => rfl
        | some i =>
            by_cases hfits : count.getD 0 ≤ maxWidth
            · rw [Nat.min_eq_left hfits]
              simp [hfits, upperHex_padZeros]
            · simp [hfits]

theorem inStyle_of_fits (h : count ≤ maxWidth) (n : Number) (style : NumberStyle) :
    n.inStyle count style = .ok (n.written? count style) := by
  rw [inStyle]
  cases n.written? count style with
  | none => rfl
  | some s => simp [h]

theorem inStyle_eq_abort_iff : n.inStyle count style = .error .abort ↔
    maxWidth < count ∧ (n.written? count style).isSome = true := by
  rw [inStyle]
  cases n.written? count style with
  | none => simp
  | some s => by_cases h : count ≤ maxWidth <;> simp [h, Nat.lt_of_not_le]

end Number

/-- The format of a letter and a count. -/
def counted (letter : Char) (count : Nat) : String :=
  String.ofList (letter :: Decimal.digits count)

namespace Formatter
variable {letter : Char} {digits : List Char} {count : Nat} {style : NumberStyle} {format : String}

theorem standardWith_number (words : WordConversion) (h : trim format.toList = letter :: digits)
    (n : Number) :
    Formatter.standardWith words (.number n) (some format) = match n.format (letter :: digits) with
      | .error e => .error e
      | .ok (some s) => .ok (String.ofList s)
      | .ok none => .error (.failure (.unsupported (trimmed format) "number")) := by
  simp only [standardWith, Option.map_some, Option.getD_some, h, trimmed]
  rfl

/-- A format of a letter and a count has no outer blanks. -/
theorem trim_counted (hstyle : NumberStyle.ofLetter? letter = some style) (count : Nat) :
    trim (counted letter count).toList = letter :: Decimal.digits count := by
  rw [counted, String.toList_ofList]
  apply trim_of_not_isBlank
  intro c hc
  rcases List.mem_cons.mp hc with rfl | hc
  · unfold NumberStyle.ofLetter? at hstyle
    split at hstyle <;> cases hstyle <;> decide
  · exact not_isBlank_of_isDigit (Decimal.isDigit_of_mem_digits hc)

/-- The usual formatter writes a number in the style of a letter with a count, if it can. -/
theorem standard_counted (hstyle : NumberStyle.ofLetter? letter = some style)
    (hcount : count ≤ maxWidth) (n : Number) :
    Formatter.standard (.number n) (some (counted letter count)) = match n.written? count style with
      | some s => .ok (String.ofList s)
      | none => .error (.failure (.unsupported (counted letter count) "number")) := by
  have hread : style.count? (Decimal.digits count) = some count := by
    have hmax : count ≤ Decimal.maxCount := Nat.le_trans hcount (by decide)
    rw [NumberStyle.count?, Decimal.readCount?_digits hmax, if_neg]
    simp [Decimal.digits_ne_nil]
  rw [standard, standardWith_number _ (trim_counted hstyle count), Number.format_of_style hstyle,
    hread]
  simp only [Number.inStyle_of_fits hcount]
  cases n.written? count style with
  | some s => rfl
  | none => rw [trimmed, trim_counted hstyle count, counted]

end Formatter

def decimalDigits : List Char := "0123456789".toList

def hexadecimalDigits (capital : Bool) : List Char :=
  if capital then "0123456789ABCDEF".toList else "0123456789abcdef".toList

theorem isNumeral_decimal (width n : Nat) :
    IsNumeral decimalDigits width n (Decimal.padZeros width (Decimal.digits n)) := by
  have hvalue : ∀ d < decimalDigits.length, decimalDigits.idxOf (id d.digitChar) = d := by decide
  have h := isNumeral_toDigits (by decide) hvalue n
  rw [List.map_id] at h
  exact h.padZeros rfl width

theorem isNumeral_hexadecimal (capital : Bool) (width n : Nat) :
    IsNumeral (hexadecimalDigits capital) width n (Decimal.padZeros width
      ((Nat.toDigits 16 n).map (if capital then Char.toUpper else id))) := by
  have hbase : (hexadecimalDigits capital).length = 16 := by cases capital <;> rfl
  have hvalue : ∀ d < (hexadecimalDigits capital).length, (hexadecimalDigits capital).idxOf
      ((if capital then Char.toUpper else id) d.digitChar) = d := by
    cases capital <;> decide
  have h := isNumeral_toDigits (by omega) hvalue n
  rw [hbase] at h
  exact h.padZeros (by cases capital <;> rfl) width

/-- Under a letter for digits and a width, no integer of a model loses anything. With D or d an
integer of a signed word becomes a decimal numeral of its size, as wide as asked for, behind a
minus sign if it is negative; the greater ones are refused. With X or x an integer that is not
negative becomes a hexadecimal numeral in capital or small letters; the negative ones are
refused. -/
theorem Formatter.standard_integer {n : Int} (hlow : -2 ^ 63 ≤ n) {width : Nat}
    (hwidth : width ≤ 65535) :
    (∀ letter, letter = 'D' ∨ letter = 'd' →
      (n < 2 ^ 63 → ∃ s, IsNumeral decimalDigits width n.natAbs s ∧
        Formatter.standard (.number (.int n)) (some (counted letter width)) =
          .ok (String.ofList (if n < 0 then '-' :: s else s))) ∧
      (2 ^ 63 ≤ n → Formatter.standard (.number (.int n)) (some (counted letter width)) =
        .error (.failure (.unsupported (counted letter width) "number")))) ∧
    ∀ letter capital, (letter = if capital then 'X' else 'x') →
      (0 ≤ n → ∃ s, IsNumeral (hexadecimalDigits capital) width n.natAbs s ∧
        Formatter.standard (.number (.int n)) (some (counted letter width)) =
          .ok (String.ofList s)) ∧
      (n < 0 → Formatter.standard (.number (.int n)) (some (counted letter width)) =
        .error (.failure (.unsupported (counted letter width) "number"))) := by
  constructor
  · intro letter hletter
    have hstyle : NumberStyle.ofLetter? letter = some .decimal := by
      rcases hletter with rfl | rfl <;> rfl
    rw [standard_counted hstyle hwidth, Number.written?]
    refine ⟨fun hn => ⟨_, isNumeral_decimal width n.natAbs, ?_⟩, fun hn => ?_⟩
    · rw [Number.signed?_of_lt hlow hn]
      by_cases hneg : n < 0 <;> simp [hneg]
    · rw [Number.signed?_of_le hn]
      rfl
  · intro letter capital hletter
    have hstyle : NumberStyle.ofLetter? letter = some (.hexadecimal capital) := by
      cases capital <;> cases hletter <;> rfl
    rw [standard_counted hstyle hwidth, Number.written?]
    refine ⟨fun hn => ⟨_, isNumeral_hexadecimal capital width n.natAbs, ?_⟩, fun hn => ?_⟩
    · rw [Number.unsigned?_of_nonneg hn]
      rfl
    · rw [Number.unsigned?_of_neg hn]
      rfl

/-- The least integer of a signed word in 21 digits. -/
theorem Formatter.standard_least_integer :
    let n : Int := -9223372036854775808
    (-2 ^ 63 ≤ n ∧ 21 ≤ 65535) ∧
      (∃ s, IsNumeral decimalDigits 21 9223372036854775808 s ∧
        Formatter.standard (.number (.int n)) (some "D21") = .ok (String.ofList ('-' :: s))) ∧
      Formatter.standard (.number (.int n)) (some "x21") =
        .error (.failure (.unsupported "x21" "number")) := by
  intro n
  have hlow : -2 ^ 63 ≤ n := by decide
  have hwidth : 21 ≤ 65535 := by decide
  obtain ⟨hdecimal, hhexadecimal⟩ := Formatter.standard_integer hlow hwidth
  refine ⟨⟨hlow, hwidth⟩, (hdecimal 'D' (.inl rfl)).1 (by decide), ?_⟩
  exact (hhexadecimal 'x' false rfl).2 (by decide)

/-- The first integer behind the signed words has a hexadecimal form and is refused a decimal
one. -/
theorem Formatter.standard_unsigned_integer :
    let n : Int := 9223372036854775808
    (-2 ^ 63 ≤ n ∧ n < 2 ^ 64) ∧
      Formatter.standard (.number (.int n)) (some "X1") = .ok "8000000000000000" ∧
      ¬∃ text, Formatter.standard (.number (.int n)) (some "D1") = .ok text := by
  intro n
  refine ⟨by decide, by decide +kernel, ?_⟩
  rintro ⟨text, htext⟩
  have h : Formatter.standard (.number (.int n)) (some "D1") =
      .error (.failure (.unsupported "D1" "number")) := by decide +kernel
  rw [h] at htext
  cases htext

end Templating
