import Templating.CommandLine.Run

/-!
# The program

Access to the file system and the standard streams, and the command line on top of
them. Links are not followed below the directory whose files are listed.
-/
namespace Templating.Main

def fileError : IO.Error → FileError
  | .noFileOrDirectory .. | .noSuchThing .. => .notFound
  | .alreadyExists .. => .alreadyExists
  | .inappropriateType _ code details =>
      if code = 20 then .notADirectory
      else if code = 21 then .isADirectory
      else .other details
  | e => .other (toString e)

def attempt {A : Type} (action : IO A) : IO (Except FileError A) := do
  try return .ok (← action)
  catch e => return .error (fileError e)

partial def shapes (entries : Array IO.FS.DirEntry) : IO (List (String × FileTree Unit)) :=
  entries.foldlM (fun found e => do
    match (← e.path.symlinkMetadata).type with
    | .file => return insertMember e.fileName (.file ()) found
    | .dir => return insertMember e.fileName (.directory (← shapes (← e.path.readDir))) found
    | _ => return found) []

def createParents (path : String) : IO Unit :=
  match Text.cutAt '/' path.toList.reverse with
  | some (_, c :: before) => IO.FS.createDirAll (String.ofList (c :: before).reverse)
  | _ => return ()

/-- Access to the file system. -/
def access : FileAccess IO where
  read path := attempt (IO.FS.readBinFile path)
  shape path := attempt do
    let p ← IO.FS.realPath path
    if ← p.isDir then return .directory (← shapes (← p.readDir))
    else return .file ()
  occupied path := return (← attempt (IO.FS.realPath path)).isOk
  write path content := attempt do
    createParents path
    IO.FS.writeFile path content

partial def readAll (stream : IO.FS.Stream) (held : ByteArray := .empty) : IO ByteArray := do
  let more ← stream.read 65536
  if more.isEmpty then return held else readAll stream (held ++ more)

def usage : String :=
  "Usage: templating [OPTIONS] <TEMPLATE>

Renders a template with bracketed commands for a JSON or YAML model.

Arguments:
  <TEMPLATE>             Path to the template file

Options:
  -m, --model <FILE>        JSON or YAML file holding the model
  -s, --stdin               Read the model from the standard input
      --syntax <FILE>       JSON or YAML file overriding tags and keywords
      --subtemplates <DIR>  Directory of subtemplates
      --pattern <GLOB>      Glob selecting subtemplate files [default: *.tpl]
  -o, --output <FILE>       File to write the document to
  -f, --force               Overwrite an existing output file
      --discover <DEPTH>    Print the value paths of the model up to a depth
  -v, --verbose             Report what is written
  -h, --help                Print help
  -V, --version             Print version"

/-- Tells why a command line is not run. -/
def dismiss (d : Arguments.Dismissal) : IO Unit :=
  match d with
  | .help | .missingTemplate => IO.println usage
  | .version => IO.println "templating 1.0.0"
  | _ => IO.eprintln s!"error: {d.message}\n\nFor more information, try '--help'."

end Templating.Main

open Templating in
def main (arguments : List String) : IO UInt32 := do
  match Arguments.read arguments with
  | .error d =>
      Main.dismiss d
      return d.exitCode.toUInt32
  | .ok a =>
      let outcome ← CommandLine.run Main.access (do Main.readAll (← IO.getStdin)) a
      IO.print outcome.output
      if a.verbose then outcome.note.forM fun note => IO.eprintln note
      outcome.report.forM fun line => IO.eprintln line
      return outcome.exitCode.toUInt32
