import Templating.Model.Value

/-!
# Tokens of JSON text

The text is read one character at a time by a machine whose modes are the kinds
of token under way. Brackets, commas and colons are tokens by themselves; a
word, a number and a string take characters until they end. A word or number is
judged when it ends.
-/
namespace Templating.Json

inductive Token where
  | openArray
  | closeArray
  | openObject
  | closeObject
  | comma
  | colon
  | string (s : String)
  /-- A number, a truth value or null. -/
  | scalar (v : Value)
  deriving Inhabited

/-- What the machine is in the middle of. Characters already taken stand in reverse. -/
inductive Mode where
  | between
  | word (taken : List Char)
  | number (taken : List Char)
  | text (taken : List Char)
  /-- After a backslash. -/
  | escape (taken : List Char)
  /-- Inside the four digits of a code unit; `high` is a first half that waits for
  its second. -/
  | unit (taken : List Char) (high : Option Nat) (count value : Nat)
  /-- After a first half: its second half has to follow, a backslash first. -/
  | half (taken : List Char) (high : Nat)
  | halfEscape (taken : List Char) (high : Nat)
  deriving Inhabited

structure Lexer where
  mode : Mode := .between
  tokens : Array Token := #[]
  deriving Inhabited

def isSpace (c : Char) : Bool := c == ' ' || c == '\n' || c == '\t' || c == '\r'

/-- The number that a text spells. Without a point and an exponent it is an integer
if it fits a word, except that negative zero is a double. -/
def numberOf? (s : List Char) : Option Number :=
  let (negative, s) := match s with
    | '-' :: r => (true, r)
    | r => (false, r)
  let (whole, r) := Decimal.digitRun s
  if whole.isEmpty || (whole.head? == some '0' && whole.length > 1) then none
  else
    let n := Decimal.ofDigits whole
    let signed : Int := if negative then -n else n
    if r.isEmpty && Number.isWord signed && !(negative && n = 0) then some (.int signed)
    else do
      let (places, r) ← match r with
        | '.' :: t =>
            let (places, t) := Decimal.digitRun t
            if places.isEmpty then none else some (places, t)
        | t => some ([], t)
      let e ← Decimal.exponentOf? r
      let x ← Decimal.floatOf? negative (Decimal.ofDigits (whole ++ places)) (e - places.length)
      some (.double x)

def wordOf? (s : List Char) : Option Value :=
  if s = ['n', 'u', 'l', 'l'] then some .null
  else if s = ['t', 'r', 'u', 'e'] then some (.bool true)
  else if s = ['f', 'a', 'l', 's', 'e'] then some (.bool false)
  else none

/-- What a one-letter escape stands for. -/
def escapeOf? (c : Char) : Option Char :=
  match c with
  | '"' | '\\' | '/' => some c
  | 'b' => some '\x08'
  | 'f' => some '\x0c'
  | 'n' => some '\n'
  | 'r' => some '\r'
  | 't' => some '\t'
  | _ => none

/-- A character that ends a word or number and is a token by itself, or a space, or
the quote that begins a string. -/
def Lexer.begin (l : Lexer) (c : Char) : Option Lexer :=
  let emit (t : Token) : Option Lexer := some ⟨.between, l.tokens.push t⟩
  match c with
  | '[' => emit .openArray
  | ']' => emit .closeArray
  | '\x7b' => emit .openObject
  | '\x7d' => emit .closeObject
  | ',' => emit .comma
  | ':' => emit .colon
  | '"' => some { l with mode := .text [] }
  | _ =>
      if isSpace c then some { l with mode := .between }
      else if c.isDigit || c == '-' then some { l with mode := .number [c] }
      else if c.isLower then some { l with mode := .word [c] }
      else none

/-- The machine after the code unit `n`, which may be half of a character. -/
def Lexer.takeUnit (l : Lexer) (taken : List Char) (high : Option Nat) (n : Nat) :
    Option Lexer :=
  let isHigh := 0xD800 ≤ n && n < 0xDC00
  let isLow := 0xDC00 ≤ n && n < 0xE000
  match high with
  | some h =>
      if isLow then
        let c := Char.ofNat (0x10000 + (h - 0xD800) * 0x400 + (n - 0xDC00))
        some { l with mode := .text (c :: taken) }
      else none
  | none =>
      if isHigh then some { l with mode := .half taken n }
      else if isLow then none
      else some { l with mode := .text (Char.ofNat n :: taken) }

def Lexer.step (l : Lexer) (c : Char) : Option Lexer :=
  match l.mode with
  | .between => l.begin c
  | .word taken =>
      if c.isAlpha then some { l with mode := .word (c :: taken) }
      else do
        let v ← wordOf? taken.reverse
        Lexer.begin ⟨.between, l.tokens.push (.scalar v)⟩ c
  | .number taken =>
      if c.isAlphanum || c == '.' || c == '+' || c == '-' then
        some { l with mode := .number (c :: taken) }
      else do
        let n ← numberOf? taken.reverse
        Lexer.begin ⟨.between, l.tokens.push (.scalar (.number n))⟩ c
  | .text taken =>
      if c == '"' then some ⟨.between, l.tokens.push (.string (String.ofList taken.reverse))⟩
      else if c == '\\' then some { l with mode := .escape taken }
      else if c.toNat < 0x20 then none
      else some { l with mode := .text (c :: taken) }
  | .escape taken =>
      if c == 'u' then some { l with mode := .unit taken none 0 0 }
      else (escapeOf? c).map fun e => { l with mode := .text (e :: taken) }
  | .unit taken high count value => do
      let v ← Decimal.hexValue? c
      if count = 3 then l.takeUnit taken high (16 * value + v)
      else some { l with mode := .unit taken high (count + 1) (16 * value + v) }
  | .half taken high =>
      if c == '\\' then some { l with mode := .halfEscape taken high } else none
  | .halfEscape taken high =>
      if c == 'u' then some { l with mode := .unit taken (some high) 0 0 } else none

/-- The tokens of a whole text. A space after its end ends a last word or number. -/
def tokens? (text : String) : Option (List Token) := do
  let l ← text.toList.foldlM Lexer.step {}
  let l ← l.step ' '
  match l.mode with
  | .between => some l.tokens.toList
  | _ => none

end Templating.Json
