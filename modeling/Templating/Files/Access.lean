import Templating.Files.Tree

/-!
# Access to files

What templates, models and dialects are loaded through: four operations in any
monad. A tree of files as a state gives an access that is a plain function; the
program itself uses the file system.
-/
namespace Templating

structure FileAccess (m : Type → Type) where
  /-- The content of a file. -/
  read : String → m (Except FileError ByteArray)
  /-- What there is at a path, without the contents of files. -/
  shape : String → m (Except FileError (FileTree Unit))
  /-- Whether there is anything at a path. -/
  occupied : String → m Bool
  /-- Writes a file, with the directories that its path goes through. -/
  write : String → String → m (Except FileError Unit)

namespace FileTree

mutual

/-- A tree without the contents of its files. -/
def shape {A : Type} : FileTree A → FileTree Unit
  | .file _ => .file ()
  | .directory entries => .directory (shapes entries)

/-- The entries of a directory without the contents of files. -/
def shapes {A : Type} : List (String × FileTree A) → List (String × FileTree Unit)
  | [] => []
  | (n, t) :: rest => (n, t.shape) :: shapes rest

end

/-- Access to a tree of files that is kept as a state. -/
def access : FileAccess (StateM (FileTree ByteArray)) where
  read path := return (← get).read path
  shape path := return ((← get).find path).map shape
  occupied path := return ((← get).find path).isOk
  write path content := do
    match (← get).write path content.toUTF8 with
    | .ok t =>
        set t
        return .ok ()
    | .error e => return .error e

end FileTree
end Templating
