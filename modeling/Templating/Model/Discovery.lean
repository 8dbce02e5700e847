import Templating.Model.Access

/-!
# Which paths a model offers

The paths that can be read from a model, down to a number of names: the members
of objects in order, each followed by the paths below it. An array offers its
length and the members of its items, under the array's own path.
-/
namespace Templating

/-- A path at the end of a list of distinct paths, unless it is there already. -/
def addPath (paths : Array String) (path : String) : Array String :=
  if paths.contains path then paths else paths.push path

mutual

/-- The paths of the members of a value, added to those found before. -/
def Value.paths (start : String) (depth : Nat) (found : Array String) : Value → Array String
  | .object members => Value.memberPaths start depth found members
  | _ => found

/-- The paths below a member that was reached by the path `start`. -/
def Value.pathsBelow (start : String) (depth : Nat) (found : Array String) :
    Value → Array String
  | .object members =>
      if depth > 1 then Value.memberPaths start (depth - 1) found members else found
  | .array items =>
      let found := addPath found (start ++ ".length")
      if depth > 1 then Value.itemPaths start (depth - 1) found items else found
  | _ => found

def Value.memberPaths (start : String) (depth : Nat) (found : Array String) :
    List (String × Value) → Array String
  | [] => found
  | (name, v) :: rest =>
      let path := extendPath start name
      Value.memberPaths start depth (v.pathsBelow path depth (addPath found path)) rest

def Value.itemPaths (start : String) (depth : Nat) (found : Array String) :
    List Value → Array String
  | [] => found
  | v :: rest => Value.itemPaths start depth (v.paths start depth found) rest

end

/-- The distinct paths of a model in the order in which they are met. -/
def Value.discover (v : Value) (depth : Nat) : Except AccessError (List String) :=
  if depth = 0 then .error .zeroDepth else .ok (v.paths "" depth #[]).toList

end Templating
