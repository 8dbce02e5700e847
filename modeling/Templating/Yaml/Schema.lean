import Templating.Yaml.Node

/-!
# Values of YAML nodes

A plain scalar without a tag is null, a truth value, an integer or a double if it is
spelled like one, and otherwise a string; quoted scalars are strings. The tags of
these four kinds demand their kind, tags of other names leave a string, and tags of
the document's own have no meaning in a model.
-/
namespace Templating.Yaml

def isNullWord (s : String) : Bool := ["null", "Null", "NULL", "~"].contains s

def boolOf? (s : String) : Option Bool :=
  if ["true", "True", "TRUE"].contains s then some true
  else if ["false", "False", "FALSE"].contains s then some false
  else none

/-- Digits after a leading zero are no number. -/
def isZeroLed (s : List Char) : Bool :=
  let ds := match s with
    | '-' :: r | '+' :: r => r
    | _ => s
  match ds with
  | '0' :: r => !r.isEmpty && r.all Char.isDigit
  | _ => false

/-- The number that digits of a base spell, at least one. -/
def naturalOf? (base : Nat) (s : List Char) : Option Nat :=
  if s.isEmpty then none
  else s.foldlM (fun n c => do
    let d ← Decimal.hexValue? c
    if d < base then some (base * n + d) else none) 0

/-- The integer that a text spells: a sign that may be missing, a mark of the base, and
digits. -/
def integerOf? (s : List Char) : Option Int :=
  if isZeroLed s then none
  else
    let (sign, ds) : Int × List Char := match s with
      | '-' :: r => (-1, r)
      | '+' :: r => (1, r)
      | _ => (1, s)
    let n := match ds with
      | '0' :: 'x' :: r => naturalOf? 16 r
      | '0' :: 'o' :: r => naturalOf? 8 r
      | '0' :: 'b' :: r => naturalOf? 2 r
      | _ => naturalOf? 10 ds
    n.map fun n => sign * n

/-- Whether an integer fits a double word, signed or unsigned. -/
def isDoubleWord (n : Int) : Bool := -(Nat.pow 2 127) ≤ n && n < Nat.pow 2 128

/-- What a scalar is if it is read as a number of some kind. -/
inductive Reading (A : Type) where
  | value (a : A)
  /-- A number that no value holds. -/
  | unsupported
  | other

/-- Integers beyond a double word are not read as integers. -/
def readInteger (s : List Char) : Reading Value :=
  match integerOf? s with
  | some n =>
      if Number.isWord n then .value (.number (.int n))
      else if isDoubleWord n then .unsupported
      else .other
  | none => .other

/-- The finite double that a text spells: a sign that may be missing, digits with a point
among or around them, and perhaps an exponent. -/
def finiteOf? (s : List Char) : Option Float :=
  let (negative, s) := match s with
    | '-' :: r => (true, r)
    | '+' :: r => (false, r)
    | _ => (false, s)
  let (whole, r) := Decimal.digitRun s
  let (places, r) := match r with
    | '.' :: t => Decimal.digitRun t
    | _ => ([], r)
  if whole.isEmpty && places.isEmpty then none
  else do
    let e ← Decimal.exponentOf? r
    Decimal.floatOf? negative (Decimal.ofDigits (whole ++ places)) (e - places.length)

/-- Whether a text spells an infinity or what is no number at all. -/
def isNonFinite (s : String) : Bool :=
  [".inf", ".Inf", ".INF", "+.inf", "+.Inf", "+.INF", "-.inf", "-.Inf", "-.INF",
    ".nan", ".NaN", ".NAN"].contains s

/-- Models have no infinities: these are null. -/
def readDouble? (s : String) : Option Value :=
  if isNonFinite s then some .null
  else (finiteOf? s.toList).map fun x => .number (.double x)

/-- The value of a plain scalar without a tag. -/
def plainValue? (s : String) : Option Value :=
  if s.isEmpty || isNullWord s then some .null
  else match boolOf? s with
    | some b => some (.bool b)
    | none => match readInteger s.toList with
        | .value v => some v
        | .unsupported => none
        | .other =>
            if isZeroLed s.toList then some (.string s)
            else (readDouble? s).or (some (.string s))

def scalarValue? (tag : Option String) (plain : Bool) (s : String) : Option Value :=
  match tag with
  | none => if plain then plainValue? s else some (.string s)
  | some "tag:yaml.org,2002:bool" => (boolOf? s).map .bool
  | some "tag:yaml.org,2002:int" =>
      match readInteger s.toList with
      | .value v => some v
      | _ => none
  | some "tag:yaml.org,2002:float" => readDouble? s
  | some "tag:yaml.org,2002:null" => if isNullWord s then some .null else none
  | some t => if t.startsWith "!" then none else some (.string s)

/-- Whether a collection has a tag of the document's own. -/
def isLocal (tag : Option String) : Bool := tag.any fun t => t.startsWith "!"

/-- The text of a scalar as it was written, whatever it would mean. -/
def Node.text? : Node → Option String
  | .scalar _ _ text => some text
  | _ => none

/-- The value of a node whose collections are nested no deeper than a limit. The keys of
mappings are the texts of scalars. -/
def Node.value? : Nat → Node → Option Value
  | _, .scalar tag plain text => scalarValue? tag plain text
  | depth + 1, .sequence tag items =>
      if isLocal tag then none else (items.mapM (Node.value? depth)).map .array
  | depth + 1, .mapping tag members =>
      if isLocal tag then none
      else
        let member (m : Node × Node) : Option (String × Value) := do
          return (← m.1.text?, ← Node.value? depth m.2)
        (members.mapM member).map Value.ofMembers
  | _, _ => none

/-- How deep the collections of a model may be nested. -/
def nestingLimit : Nat := 128

/-- The model that a text spells; a text without a document is null. -/
def readModel? (text : String) : Option Value := do
  match ← readNode? text with
  | some n => n.value? nestingLimit
  | none => some .null

end Templating.Yaml
