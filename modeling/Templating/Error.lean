import Templating.Dialect
import Templating.Render

/-!
# Everything that can go wrong

The causes from reading, running and configuring templates, and those of files,
under one roof for callers that do not tell them apart.
-/
namespace Templating

inductive FileError where
  | notFound
  | alreadyExists
  | notADirectory
  | isADirectory
  /-- The content is not text. -/
  | notText
  | other (message : String)
  deriving DecidableEq, Repr

def FileError.message : FileError → String
  | .notFound => "No such file or directory"
  | .alreadyExists => "File exists"
  | .notADirectory => "Not a directory"
  | .isADirectory => "Is a directory"
  | .notText => "stream did not contain valid UTF-8"
  | .other message => message

inductive ConfigurationError where
  /-- A text that is neither JSON nor YAML of the expected form. -/
  | unreadable
  | badPattern (pattern reason : String)
  | outputExists (path : String)
  deriving DecidableEq, Repr

def ConfigurationError.message : ConfigurationError → String
  | .unreadable =>
      "Invalid configuration format: not JSON (unexpected text), not YAML (unexpected text)"
  | .badPattern pattern reason =>
      s!"invalid subtemplate pattern '{pattern}': error parsing glob '{pattern}': {reason}"
  | .outputExists path =>
      s!"output file '{path}' already exists, use --force to overwrite"

inductive Error where
  | template (cause : ParseError)
  | rendering (cause : RenderError)
  | wording (cause : WordingFlaw)
  | duplicateSubtemplate (name : String)
  | access (cause : AccessError)
  | file (cause : FileError)
  | configuration (cause : ConfigurationError)
  deriving DecidableEq, Repr

def Error.message : Error → String
  | .template e => e.message
  | .rendering e => e.message
  | .wording e => s!"Invalid syntax settings: {e.message}."
  | .duplicateSubtemplate name => s!"Subtemplate '{name}' is already registered."
  | .access e => e.message
  | .file e => s!"IO error: {e.message}."
  | .configuration e => s!"Configuration error: {e.message}."

def Error.causes : Error → List String
  | .rendering e => e.causes
  | _ => []

/-- Whether the template text is to blame, and not the model. -/
def Error.isTemplateError : Error → Bool
  | .template _ => true
  | _ => false

end Templating
