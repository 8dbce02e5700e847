import Templating.Error
import Templating.Text.Pieces

/-!
# Trees of files

A directory holds entries in the order of their names, and its leaves are files. Paths
are read from a directory name by name: a single dot and nothing stay where they
are, and two dots go back to the directory before. The tree that a program works on
is its whole world, so paths from the root of a file system lead nowhere.
-/
namespace Templating

inductive FileTree (A : Type) where
  | file (content : A)
  | directory (entries : List (String × FileTree A))
  deriving Inhabited

namespace FileTree
variable {A : Type}

/-- The names of a path in order, `.` for those that are empty. -/
def names (path : String) : List String :=
  (Text.splitAt '/' path.toList).map fun n => if n.isEmpty then "." else String.ofList n

/-- The entry that some names lead to from the innermost of the directories passed. -/
def walk (t : FileTree A) (passed : List (FileTree A)) : List String → Except FileError (FileTree A)
  | [] => .ok t
  | n :: rest =>
      match t with
      | .file _ => .error .notADirectory
      | .directory entries =>
          if n = "." then t.walk passed rest
          else if n = ".." then
            match passed with
            | [] => .error .notFound
            | u :: passed => u.walk passed rest
          else match Templating.memberOf? n entries with
            | some u => u.walk (t :: passed) rest
            | none => .error .notFound

def find (t : FileTree A) (path : String) : Except FileError (FileTree A) :=
  if path.startsWith "/" then .error .notFound else t.walk [] (names path)

def read (t : FileTree A) (path : String) : Except FileError A :=
  match t.find path with
  | .ok (.file content) => .ok content
  | .ok (.directory _) => .error .isADirectory
  | .error e => .error e

/-- The tree with a file put where some names lead, and the directories on the way. A file
takes the place of another one, but not of a directory. -/
def put (content : A) : List String → FileTree A → Except FileError (FileTree A)
  | _, .file _ => .error .notADirectory
  | [], .directory _ => .error .isADirectory
  | [n], .directory entries =>
      match Templating.memberOf? n entries with
      | some (.directory _) => .error .isADirectory
      | _ => .ok (.directory (insertMember n (.file content) entries))
  | n :: rest, .directory entries =>
      match put content rest ((Templating.memberOf? n entries).getD (.directory [])) with
      | .ok t => .ok (.directory (insertMember n t entries))
      | .error e => .error e

/-- Names without those that stay in place and those that go back, with the names before
them; none where they go back too far. -/
def straight? : List String → List String → Option (List String)
  | passed, [] => some passed.reverse
  | passed, n :: rest =>
      if n = "." then straight? passed rest
      else if n = ".." then
        match passed with
        | [] => none
        | _ :: passed => straight? passed rest
      else straight? (n :: passed) rest

/-- The tree with a file at a path. A path that ends in a directory's name is no file. -/
def write (t : FileTree A) (path : String) (content : A) : Except FileError (FileTree A) :=
  let ns := names path
  if path.startsWith "/" then .error .notFound
  else if ns.getLast? = some "." || ns.getLast? = some ".." then .error .isADirectory
  else match straight? [] ns with
    | some ns => put content ns t
    | none => .error .notFound

mutual

/-- The files of a tree, depth first, each with its names. -/
def files : FileTree A → List (List String × A)
  | .file content => [([], content)]
  | .directory entries => filesOf entries

def filesOf : List (String × FileTree A) → List (List String × A)
  | [] => []
  | (n, t) :: rest => (t.files.map fun f => (n :: f.1, f.2)) ++ filesOf rest

end

end FileTree
end Templating
