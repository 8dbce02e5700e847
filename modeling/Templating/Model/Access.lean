import Templating.Decimal.Digits
import Templating.Model.Value
import Templating.Text.Pieces

/-!
# Reading a value by its path

A path leads from a value to one of its parts, one name at a time. Names select
members of objects, and counts select items of arrays. Arrays and strings have a
length, read as if it were a member. A null met on the way makes the whole path
null, so that what a missing part would have held is missing too.
-/
namespace Templating

/-- Why a path leads nowhere. Each cause tells the names that were followed before
the failing one. -/
inductive AccessError where
  | noMember (name path : String)
  | outOfRange (index length : Nat) (path : String)
  | notAContainer (name typeName path : String)
  | zeroDepth
  /-- A cause of some other kind of model. -/
  | other (message : String)
  deriving DecidableEq, Repr

def AccessError.message : AccessError → String
  | .noMember name path =>
      s!"No member was found in model with name '{name}' (at '{path}')."
  | .outOfRange index length path =>
      s!"Index {index} is out of range for a sequence of {length} item(s) (at '{path}')."
  | .notAContainer name typeName path =>
      s!"Cannot read member '{name}' of a {typeName} value (at '{path}')."
  | .zeroDepth => "Depth must be a positive integer, got 0."
  | .other message => message

/-- The names under which arrays and strings tell their length. -/
def isLengthName (name : String) : Bool := name == "length" || name == "count"

/-- One step of a path, after the names in `walked`. -/
def Value.member (v : Value) (name walked : String) : Except AccessError Value :=
  match v with
  | .object members =>
      match memberOf? name members with
      | some w => .ok w
      | none => .error (.noMember name walked)
  | .array items =>
      if isLengthName name then .ok (.ofNat items.length)
      else match Decimal.readCount? name.toList with
        | none => .error (.notAContainer name v.typeName walked)
        | some i =>
            match items[i]? with
            | some w => .ok w
            | none => .error (.outOfRange i items.length walked)
  | .string s =>
      if isLengthName name then .ok (.ofNat s.length)
      else .error (.notAContainer name v.typeName walked)
  | _ => .error (.notAContainer name v.typeName walked)

/-- The names already followed, with the next one added. -/
def extendPath (walked name : String) : String :=
  if walked.isEmpty then name else walked ++ "." ++ name

/-- Behind a path that is not empty each name is put after a dot. -/
theorem foldl_extendPath {path : String} (h : path ≠ "") (names : List String) :
    names.foldl extendPath path = ".".intercalate (path :: names) := by
  induction names generalizing path with
  | nil => simp
  | cons name names ih =>
      have hpath : extendPath path name = path ++ "." ++ name := if_neg (by simpa using h)
      have hne : path ++ "." ++ name ≠ "" := by simp
      rw [List.foldl_cons, hpath, ih hne, String.intercalate_cons_append,
        String.intercalate_cons_cons]

def Value.walk (v : Value) (walked : String) : List String → Except AccessError Value
  | [] => .ok v
  | name :: names =>
      if v.isNull then .ok .null
      else match v.member name walked with
        | .error e => .error e
        | .ok w => w.walk (extendPath walked name) names

/-- The value at a path; the empty path is the value itself. -/
def Value.at (v : Value) (path : String) : Except AccessError Value :=
  if path.isEmpty then .ok v
  else v.walk "" ((Text.splitAt '.' path.toList).map String.ofList)

end Templating
