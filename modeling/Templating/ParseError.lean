import Templating.Sentence

/-!
# What can be wrong with a template text

One constructor for each cause. Those that concern a command carry the place of
the command the author has to mend; for a block that is continued or closed by
the wrong command that is the place of the command which opened it.
-/
namespace Templating

inductive ParseError where
  /-- A begin tag inside a command. -/
  | strayBeginTag (line : Nat)
  /-- An end tag outside every command. -/
  | strayEndTag (line : Nat)
  /-- The text ends inside the command begun at this line. -/
  | unterminatedCommand (line : Nat)
  | emptyCommand (place : Position)
  | unknownCommand (name command : String) (place : Position)
  /-- `found` counts the arguments that are not blank. -/
  | argumentCount (command : String) (expected found : Nat) (place : Position)
  /-- An else or end command where no block is open. -/
  | noOpenBlock (command : String) (place : Position)
  /-- An else or end command that does not belong to the open block. -/
  | boundaryMismatch (opening found : String) (place : Position)
  /-- An else or end command of the right kind that names another path. -/
  | pathMismatch (opening found : String) (place : Position)
  | unclosedBlock (command : String) (place : Position)
  deriving DecidableEq, Repr

def ParseError.message : ParseError → String
  | .strayBeginTag line =>
      s!"Unexpected command start tag at line {line}. " ++
        "Close previous command before starting a new one."
  | .strayEndTag line =>
      s!"Unexpected command end tag at line {line}. No command was started."
  | .unterminatedCommand line =>
      s!"Command started at line {line} is not terminated before the end of the template."
  | .emptyCommand p => s!"Empty command at line {p.line}, column {p.column}."
  | .unknownCommand name command p =>
      s!"Unrecognized command '{name}' in '{command}' at line {p.line}, column {p.column}."
  | .argumentCount command expected found p =>
      s!"Command '{command}' expects {expected} argument(s), found {found}, " ++
        s!"at line {p.line}, column {p.column}."
  | .noOpenBlock command p =>
      s!"Command '{command}' at line {p.line}, column {p.column} " ++
        "has no open block to continue or close."
  | .boundaryMismatch opening found p =>
      s!"Scope boundary commands do not match: '{found}' cannot follow '{opening}' " ++
        s!"opened at line {p.line}, column {p.column}."
  | .pathMismatch opening found p =>
      s!"Scope boundary commands do not match: '{found}' refers to a different path " ++
        s!"than '{opening}' opened at line {p.line}, column {p.column}."
  | .unclosedBlock command p =>
      s!"Command '{command}' started at line {p.line}, column {p.column} " ++
        "was not closed with an ending command."

end Templating
