import Templating.Decimal.Fixed
import Templating.Fault
import Templating.Json.Writer
import Templating.Text.Blank
import Templating.Text.CaseMap
import Templating.Text.Pieces
import Templating.Text.WordStyle

/-!
# The text of a value

A field inserts its value as text. Without a format, null is empty, strings stand
for themselves and all else is written as JSON. A format chooses a letter case or
word style for a string, one of two texts for a truth value, and places, padding
or hexadecimal digits for a number. Null takes every format.
-/
namespace Templating
open Text

/-- Why a value has no text. -/
inductive FormatError where
  | unsupported (format typeName : String)
  /-- A cause of some other way of formatting. -/
  | unwritable (message : String)
  deriving DecidableEq, Repr

def FormatError.message : FormatError → String
  | .unsupported format typeName =>
      s!"Format '{format}' cannot be applied to a {typeName} value."
  | .unwritable message => s!"Value could not be serialized: {message}"

/-- Turns a value into text, under a format if there is one. -/
abbrev Formatter := Value → Option String → Except (Fault FormatError) String

/-- What a format does to a string. The word styles are left to a conversion, of which nothing
is asked. -/
def stringFormat? (words : WordConversion) : String → Option (List Char → List Char)
  | "upper" => some toCapitals
  | "lower" => some toSmall
  | "snake" => some (words .snake)
  | "camel" => some (words .camel)
  | "pascal" => some (words .pascal)
  | "kebab" => some (words .kebab)
  | "title" => some (words .title)
  | "screaming" => some (words .screaming)
  | _ => none

/-- The greatest number of digits or places that can be asked for; more abort. -/
def maxWidth : Nat := 65535

/-- A power of ten, by squaring: the lowest binary digit of the exponent comes first. -/
def powerOfTen (result base : Float) (n : Nat) : Float :=
  if n = 0 then result
  else powerOfTen (if n % 2 = 1 then result * base else result) (base * base) (n / 2)
termination_by n

/-- A double rounded to decimal places, halves away from zero. Where the shifted
number is too large nothing is rounded. -/
def roundPlaces (x : Float) (places : Nat) : Float :=
  if places < Nat.pow 2 31 then
    let factor := powerOfTen 1 10 places
    let shifted := x * factor
    if shifted.isFinite then shifted.round / factor else x
  else x

/-- The double nearest to a number. -/
def Number.toFloat : Number → Float
  | .double x => x
  | .int n => (Decimal.floatOf? (n < 0) n.natAbs 0).getD 0

/-- The integer of a number, if it was written as one and lies in a signed word. -/
def Number.signed? : Number → Option Int
  | .int n => if -(Nat.pow 2 63) ≤ n && n < Nat.pow 2 63 then some n else none
  | .double _ => none

/-- The integer of a number, if it was written as one and is not negative. -/
def Number.unsigned? : Number → Option Nat
  | .int n => if 0 ≤ n then some n.toNat else none
  | .double _ => none

def upperHex (s : List Char) : List Char := s.map Char.toUpper

/-- A number under a format, a letter and perhaps a count; nothing if the format does
not apply to it. -/
def Number.format (n : Number) (format : List Char) :
    Except (Fault FormatError) (Option (List Char)) :=
  match format with
  | [] => .ok none
  | letter :: digits =>
      match if digits.isEmpty then some none else (Decimal.readCount? digits).map some with
      | none => .ok none
      | some count =>
          let width := count.getD 0
          let limited (s : List Char) : Except (Fault FormatError) (Option (List Char)) :=
            if width ≤ maxWidth then .ok (some s) else .error .abort
          if letter == 'F' || letter == 'f' then
            let places := count.getD 2
            if places ≤ maxWidth then
              .ok (some ((Decimal.Binary.ofFloat (roundPlaces n.toFloat places)).fixed places))
            else .error .abort
          else if letter == 'D' || letter == 'd' then
            match n.signed? with
            | none => .ok none
            | some i =>
                let size := Decimal.padZeros (min width maxWidth) (Decimal.digits i.natAbs)
                limited (if i < 0 then '-' :: size else size)
          else if letter == 'X' || letter == 'x' then
            match n.unsigned? with
            | none => .ok none
            | some i =>
                let size := Decimal.padZeros (min width maxWidth) (Nat.toDigits 16 i)
                limited (if letter == 'X' then upperHex size else size)
          else .ok none

/-- The text of a value without a format. -/
def Value.plainText : Value → String
  | .null => ""
  | .string s => s
  | v => v.json

/-- The text of a value under a format that is neither empty nor has outer blanks. -/
def Value.formatted (words : WordConversion) (v : Value) (format : List Char) :
    Except (Fault FormatError) String :=
  let text : Except (Fault FormatError) (Option (List Char)) :=
    match v with
    | .null => .ok (some [])
    | .string s => .ok ((stringFormat? words (String.ofList format)).map fun f => f s.toList)
    | .bool b => .ok ((cutAt '|' format).map fun p => if b then p.1 else p.2)
    | .number n => n.format format
    | .array _ | .object _ => .ok none
  match text with
  | .error e => .error e
  | .ok (some s) => .ok (String.ofList s)
  | .ok none => .error (.failure (.unsupported (String.ofList format) v.typeName))

/-- The usual formatter, with some conversion for the word styles. A blank format counts as
none. -/
def Formatter.standardWith (words : WordConversion) : Formatter := fun v format =>
  let format := trim ((format.map String.toList).getD [])
  if format.isEmpty then .ok v.plainText else v.formatted words format

/-- The formatter that runs unless there is another one. -/
def Formatter.standard : Formatter := .standardWith WordStyle.convert

end Templating
