import Templating.Configuration
import Templating.Engine
import Templating.Files.Access
import Templating.Files.Glob

/-!
# Loading from files

Models, dialects, templates and directories of subtemplates. A subtemplate is named
for its path below the directory, without the last extension. Files are taken depth
first in the order of their names, so the result does not depend on the file system.
-/
namespace Templating

abbrev Loading (m : Type → Type) := ExceptT Error m

namespace Loading

def decode (bytes : ByteArray) : Except Error String :=
  match String.fromUTF8? bytes with
  | some s => .ok s
  | none => .error (.file .notText)

/-- A name without its extension. A dot at its start begins no extension. -/
def stem (name : String) : String :=
  match Text.cutAt '.' name.toList.reverse with
  | some (_, before) => if before.isEmpty then name else String.ofList before.reverse
  | none => name

/-- The name of the subtemplate in a file. A single dot that is left of the last name adds
nothing to the directories before it. -/
def subtemplateName (names : List String) : String :=
  let last := (names.getLast?.map stem).toList
  match names.dropLast ++ last with
  | [] => ""
  | n :: rest => "/".intercalate (n :: rest.filter (· ≠ "."))

def pathBelow (directory : String) (names : List String) : String :=
  "/".intercalate (if directory.isEmpty then names else directory :: names)

variable {m : Type → Type} [Monad m]

def ofAccess {A : Type} (r : m (Except FileError A)) : Loading m A := do
  let r ← ExceptT.lift r
  MonadExcept.ofExcept (r.mapError Error.file)

def text (files : FileAccess m) (path : String) : Loading m String := do
  MonadExcept.ofExcept (decode (← ofAccess (files.read path)))

def model (files : FileAccess m) (path : String) : Loading m Value := do
  MonadExcept.ofExcept ((readModel (← text files path)).mapError Error.configuration)

def dialect (files : FileAccess m) (path : String) : Loading m Dialect := do
  MonadExcept.ofExcept ((readDialect (← text files path)).mapError Error.configuration)

def template (files : FileAccess m) (d : Dialect) (path : String) : Loading m Template := do
  MonadExcept.ofExcept ((Template.parse d (← text files path)).mapError Error.template)

def pattern (s : String) : Except Error Glob :=
  (Glob.read s).mapError fun flaw => .configuration (.badPattern s flaw.message)

/-- The templates of all files below a directory whose paths match a pattern. The pattern is
read first, and a name is checked before its file. -/
def subtemplates (files : FileAccess m) (d : Dialect) (directory glob : String) :
    Loading m Registry := do
  let g ← MonadExcept.ofExcept (pattern glob)
  let tree ← ofAccess (files.shape directory)
  let matching := (tree.files.map Prod.fst).filter fun names => g.accepts ("/".intercalate names)
  matching.foldlM (fun r names => do
    let name := subtemplateName names
    if (memberOf? name r).isSome then throw (.duplicateSubtemplate name)
    else
      let t ← template files d (pathBelow directory names)
      return r ++ [(name, t)]) []

end Loading
end Templating
