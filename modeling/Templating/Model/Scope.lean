import Templating.Model.Discovery
import Templating.ModelPath

/-!
# What a path means inside loops

Paths are written from the root of the model. Inside a loop over a path, that
path and those below it are read from the present item instead. A scope holds
the root and one link for each loop around, and a path belongs to the link with
the longest path that covers it, the innermost of equals.
-/
namespace Templating
open Text

/-- A loop under way: the path it runs over and its present item. -/
structure Link where
  path : String
  item : Value
  deriving Inhabited

/-- The root of a model and the loops under way, innermost first. -/
structure Scope where
  root : Value
  links : List Link := []
  deriving Inhabited

def Scope.enter (s : Scope) (path : String) (item : Value) : Scope :=
  { s with links := ⟨path, item⟩ :: s.links }

/-- Whether a path is the link's own or lies below it, name by name. -/
def Link.covers (l : Link) (path : String) : Bool :=
  match after? l.path.toList path.toList with
  | some [] | some ('.' :: _) => true
  | _ => false

/-- The link a path belongs to, better than the best so far: a longer path wins and
the first of equals stays. -/
def bestLink? (path : String) (best : Option Link) : List Link → Option Link
  | [] => best
  | l :: ls =>
      let longer := match best with
        | some b => b.path.length < l.path.length
        | none => true
      bestLink? path (if l.covers path && longer then some l else best) ls

structure Extractor where
  /-- The value at a path; the empty path is the model itself. -/
  extract : Value → String → Except AccessError Value
  /-- The paths of a model down to a depth. -/
  discover : Value → Nat → Except AccessError (List String)

/-- Parts are found by their names. -/
def Extractor.standard : Extractor := ⟨Value.at, Value.discover⟩

instance : Inhabited Extractor := ⟨Extractor.standard⟩

/-- Reads what is left of a path after its link. The self token is the whole value,
and as a first name it changes nothing. -/
def Extractor.below (x : Extractor) (v : Value) (path : List Char) : Except AccessError Value :=
  if path = ModelPath.selfToken then .ok v
  else match after? (ModelPath.selfToken ++ ['.']) path with
    | some r => x.extract v (String.ofList r)
    | none => x.extract v (String.ofList path)

def Scope.resolve (s : Scope) (x : Extractor) (path : String) : Except AccessError Value :=
  match bestLink? path none s.links with
  | some l =>
      if path = l.path then .ok l.item
      else x.below l.item (path.toList.drop (l.path.length + 1))
  | none =>
      if path.isEmpty then .ok s.root else x.below s.root path.toList

end Templating
