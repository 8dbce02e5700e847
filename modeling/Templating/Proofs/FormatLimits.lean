import Templating.Proofs.Aborts
import Templating.Proofs.NumberFormats

/-!
# The limit of a format

Digits and places are written up to a limit, and asking for more aborts. The count of a format
is not compared with the limit before it is used, so a format can ask for too much, if the
number has a form under its letter at all. `Formatter.standard_aborts_iff` says that the usual
formatter aborts for nothing else, and that with it only a template aborts in which a field has
such a format. How names are rewritten into the word styles makes no difference to this.
-/
namespace Templating
open Text

/-- The numbers that have a form in a style: all numbers have places, the integers of a signed
word have decimal digits, and those that are not negative have hexadecimal ones. -/
inductive NumberStyle.Suits : NumberStyle → Number → Prop
  | places (n : Number) : Suits .places n
  | decimal {i : Int} : -2 ^ 63 ≤ i → i < 2 ^ 63 → Suits .decimal (.int i)
  | hexadecimal {i : Int} (capital : Bool) : 0 ≤ i → Suits (.hexadecimal capital) (.int i)

/-- A value and a format that asks for more of it than can be written. -/
inductive Excessive : Value → Option String → Prop
  | intro {n : Number} {format : String} {letter : Char} {digits : List Char}
      {style : NumberStyle} {count : Nat} :
      trim format.toList = letter :: digits → NumberStyle.ofLetter? letter = some style →
      Decimal.readCount? digits = some count → 65535 < count → style.Suits n →
      Excessive (.number n) (some format)

namespace Number
variable {n : Number} {letter : Char} {digits : List Char} {count : Nat} {style : NumberStyle}

theorem isSome_signed?_iff {i : Int} :
    (Number.int i).signed?.isSome = true ↔ -2 ^ 63 ≤ i ∧ i < 2 ^ 63 := by
  simp [signed?]

theorem isSome_unsigned?_iff {i : Int} : (Number.int i).unsigned?.isSome = true ↔ 0 ≤ i := by
  simp [unsigned?]

theorem isSome_written?_iff : (n.written? count style).isSome = true ↔ style.Suits n := by
  constructor
  · intro h
    cases style with
    | places => exact .places n
    | decimal =>
        rw [written?, Option.isSome_map] at h
        cases n with
        | int i => exact .decimal (isSome_signed?_iff.mp h).1 (isSome_signed?_iff.mp h).2
        | double x => cases h
    | hexadecimal capital =>
        rw [written?, Option.isSome_map] at h
        cases n with
        | int i => exact .hexadecimal capital (isSome_unsigned?_iff.mp h)
        | double x => cases h
  · intro h
    cases h with
    | places n => rfl
    | decimal hlow hhigh =>
        rw [written?, Option.isSome_map]
        exact isSome_signed?_iff.mpr ⟨hlow, hhigh⟩
    | hexadecimal capital hi =>
        rw [written?, Option.isSome_map]
        exact isSome_unsigned?_iff.mpr hi

/-- A format of a number aborts for the count behind its letter. -/
theorem format_eq_abort_iff : n.format (letter :: digits) = .error .abort ↔
    ∃ style count, NumberStyle.ofLetter? letter = some style ∧
      Decimal.readCount? digits = some count ∧ maxWidth < count ∧ style.Suits n := by
  cases hstyle : NumberStyle.ofLetter? letter with
  | none => simp [format_of_no_style hstyle]
  | some style =>
      rw [format_of_style hstyle, NumberStyle.count?]
      by_cases hdigits : digits.isEmpty = true
      · -- The counts that go without saying are small.
        obtain rfl := List.isEmpty_iff.mp hdigits
        have hsmall : (if style = .places then 2 else 0) ≤ maxWidth := by
          split <;> decide
        simp [inStyle_of_fits hsmall, Decimal.readCount?]
      · rw [if_neg hdigits]
        cases Decimal.readCount? digits with
        | none => simp
        | some count => simp [inStyle_eq_abort_iff, isSome_written?_iff]

end Number

theorem Value.number_of_formatted_abort {words : WordConversion} {v : Value} {format : List Char}
    (h : v.formatted words format = .error .abort) : ∃ n, v = .number n := by
  unfold formatted at h
  cases v with
  | number n => exact ⟨n, rfl⟩
  | null | array _ | object _ => cases h
  | bool b =>
      dsimp only at h
      generalize (cutAt '|' format).map _ = text at h
      cases text <;> cases h
  | string s =>
      dsimp only at h
      generalize (stringFormat? words (String.ofList format)).map _ = text at h
      cases text <;> cases h

namespace Formatter
variable {words : WordConversion}

theorem standardWith_number_eq_abort_iff {n : Number} {format : String} {letter : Char}
    {digits : List Char} (h : trim format.toList = letter :: digits) :
    Formatter.standardWith words (.number n) (some format) = .error .abort ↔
      n.format (letter :: digits) = .error .abort := by
  rw [standardWith_number words h]
  cases n.format (letter :: digits) with
  | error e => simp
  | ok s => cases s <;> simp

/-- The usual formatter aborts only where it writes a number under a format. -/
theorem exists_number_of_abort {v : Value} {format : Option String}
    (h : Formatter.standardWith words v format = .error .abort) :
    ∃ n f letter digits, v = .number n ∧ format = some f ∧ trim f.toList = letter :: digits := by
  cases format with
  | none => cases h
  | some f =>
      cases htrim : trim f.toList with
      | nil => simp [standardWith, htrim] at h
      | cons letter digits =>
          rw [standardWith, Option.map_some, Option.getD_some, htrim] at h
          obtain ⟨n, rfl⟩ := Value.number_of_formatted_abort h
          exact ⟨n, f, letter, digits, rfl, rfl, htrim⟩

theorem standardWith_eq_abort_iff {v : Value} {format : Option String} :
    Formatter.standardWith words v format = .error .abort ↔ Excessive v format := by
  constructor
  · intro h
    obtain ⟨n, f, letter, digits, rfl, rfl, htrim⟩ := exists_number_of_abort h
    obtain ⟨style, count, hstyle, hcount, hlimit, hsuits⟩ :=
      Number.format_eq_abort_iff.mp ((standardWith_number_eq_abort_iff htrim).mp h)
    exact .intro htrim hstyle hcount hlimit hsuits
  · rintro ⟨htrim, hstyle, hcount, hlimit, hsuits⟩
    exact (standardWith_number_eq_abort_iff htrim).mpr
      (Number.format_eq_abort_iff.mpr ⟨_, _, hstyle, hcount, hlimit, hsuits⟩)

end Formatter

theorem ne_abort_iff {E A : Type} {x : Except (Fault E) A} :
    x ≠ .error .abort ↔ (∃ a, x = .ok a) ∨ ∃ cause, x = .error (.failure cause) := by
  cases x with
  | ok a => simp
  | error e => cases e <;> simp

/-- Whatever the word styles make of a text, the usual formatter gives a text or an error exactly
if the format does not ask for too much of the value. So a template that is rendered with it gives
a document or an error, unless one of its fields, or of the fields of the subtemplates below it,
has a format that does. -/
theorem Formatter.standard_aborts_iff (words : WordConversion) (v : Value)
    (format : Option String) (e : Extractor) (t : Template) (model : Value) :
    ((∃ text, Formatter.standardWith words v format = .ok text) ∨
        (∃ cause, Formatter.standardWith words v format = .error (.failure cause)) ↔
          ¬Excessive v format) ∧
      ((∃ document, Interpretation.render ⟨e, .standardWith words⟩ t model = .ok document) ∨
        (∃ cause, Interpretation.render ⟨e, .standardWith words⟩ t model =
          .error (.failure cause)) ∨
        ∃ path w, t.HasField path ∧ Excessive w (fieldFormat? path)) := by
  constructor
  · rw [← ne_abort_iff, ne_eq, standardWith_eq_abort_iff]
  · rw [← or_assoc, ← ne_abort_iff]
    refine Classical.or_iff_not_imp_left.mpr fun h => ?_
    obtain ⟨path, w, hfield, habort⟩ :=
      Interpretation.exists_field_of_abort (Classical.not_not.mp h)
    exact ⟨path, w, hfield, standardWith_eq_abort_iff.mp habort⟩

/-- No number has more than 65535 digits written out. -/
theorem Formatter.standard_too_many_digits :
    ¬((∃ text, Formatter.standard (.number (.int 7)) (some "D65536") = .ok text) ∨
      ∃ cause, Formatter.standard (.number (.int 7)) (some "D65536") = .error (.failure cause)) := by
  have h : Formatter.standard (.number (.int 7)) (some "D65536") = .error .abort := by
    decide +kernel
  simp [h]

end Templating
