import Templating.Model.Value

/-!
# Writing JSON

Compact text without spaces. Doubles have the fewest digits that read back, with
a point or an exponent so that they do not look like integers. Control characters
are escaped and all others stand for themselves.
-/
namespace Templating

/-- How numbers without a fixed number of places are laid out: the least and the
greatest exponent of the first digit that are written without an exponent. -/
structure NumberLayout where
  least : Int
  greatest : Int

/-- Plain notation from `0.00001` to below ten to the sixteenth. -/
def NumberLayout.standard : NumberLayout := ⟨-5, 15⟩

/-- A decimal in the notation that the layout prescribes. In plain notation there is
always a digit after the point; an exponent always has its sign. -/
def NumberLayout.write (l : NumberLayout) (s : Decimal.Scientific) : List Char :=
  let ds := Decimal.digits s.coefficient
  let leading : Int := s.exponent + ds.length - 1
  if l.least ≤ leading && leading ≤ l.greatest then
    if leading < 0 then '0' :: '.' :: (List.replicate (leading.natAbs - 1) '0' ++ ds)
    else
      let whole := leading.natAbs + 1
      let places := ds.drop whole
      ds.take whole ++ List.replicate (whole - ds.length) '0' ++
        '.' :: (if places.isEmpty then ['0'] else places)
  else
    let places := ds.drop 1
    let sign := if leading < 0 then '-' else '+'
    ds.take 1 ++ (if places.isEmpty then [] else '.' :: places) ++
      'e' :: sign :: Decimal.digits leading.natAbs

def Number.text : Number → String
  | .int n => toString n
  | .double x =>
      let b := Decimal.Binary.ofFloat x
      let size :=
        if b.mantissa = 0 then ['0', '.', '0'] else NumberLayout.standard.write b.shortest
      String.ofList (if b.negative then '-' :: size else size)

namespace Json

def hexDigit (n : Nat) : Char :=
  if n < 10 then Char.ofNat (0x30 + n) else Char.ofNat (0x57 + n)

def escape (c : Char) : List Char :=
  match c with
  | '"' => ['\\', '"']
  | '\\' => ['\\', '\\']
  | '\x08' => ['\\', 'b']
  | '\x0c' => ['\\', 'f']
  | '\n' => ['\\', 'n']
  | '\r' => ['\\', 'r']
  | '\t' => ['\\', 't']
  | _ =>
      if c.toNat < 0x20 then ['\\', 'u', '0', '0', hexDigit (c.toNat / 16), hexDigit (c.toNat % 16)]
      else [c]

/-- A string between quotes. -/
def quote (s : String) : String :=
  String.ofList ('"' :: s.toList.flatMap escape ++ ['"'])

/-- Texts with commas between them. -/
def commaSeparated : List String → String
  | [] => ""
  | [s] => s
  | s :: t :: r => s ++ "," ++ commaSeparated (t :: r)

end Json

mutual

def Value.json : Value → String
  | .null => "null"
  | .bool b => if b then "true" else "false"
  | .number n => n.text
  | .string s => Json.quote s
  | .array items => "[" ++ Json.commaSeparated (Value.jsonItems items) ++ "]"
  | .object members => "\x7b" ++ Json.commaSeparated (Value.jsonMembers members) ++ "\x7d"

def Value.jsonItems : List Value → List String
  | [] => []
  | v :: r => v.json :: Value.jsonItems r

def Value.jsonMembers : List (String × Value) → List String
  | [] => []
  | (name, v) :: r => (Json.quote name ++ ":" ++ v.json) :: Value.jsonMembers r

end

end Templating
