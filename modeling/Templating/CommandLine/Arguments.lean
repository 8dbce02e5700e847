import Templating.Decimal.Digits
import Templating.Text.Pieces

/-!
# Command line arguments

The arguments are read from left to right. An option that waits for its value is
settled when the next option, the template or the end is reached; only then is its
value looked at, so an unknown option behind it is reported first.
-/
namespace Templating

structure Arguments where
  template : String
  model : Option String := none
  stdin : Bool := false
  dialect : Option String := none
  subtemplates : Option String := none
  pattern : String := "*.tpl"
  output : Option String := none
  force : Bool := false
  /-- The depth to which the model's paths are listed, instead of a document. -/
  discover : Option Nat := none
  verbose : Bool := false
  deriving DecidableEq, Repr, Inhabited

namespace Arguments

inductive Setting where
  | model
  | dialect
  | subtemplates
  | pattern
  | output
  | discover
  deriving DecidableEq, Repr

/-- The options without a value. -/
inductive Switch where
  | stdin
  | force
  | verbose
  | help
  | version
  deriving DecidableEq, Repr

def Setting.word : Setting → String
  | .model => "model"
  | .dialect => "syntax"
  | .subtemplates => "subtemplates"
  | .pattern => "pattern"
  | .output => "output"
  | .discover => "discover"

def Switch.word : Switch → String
  | .stdin => "stdin"
  | .force => "force"
  | .verbose => "verbose"
  | .help => "help"
  | .version => "version"

def Setting.ofWord? (word : String) : Option Setting :=
  [.model, .dialect, .subtemplates, .pattern, .output, .discover].find? fun s => s.word == word

def Switch.ofWord? (word : String) : Option Switch :=
  [.stdin, .force, .verbose, .help, .version].find? fun w => w.word == word

def Setting.ofLetter? : Char → Option Setting
  | 'm' => some .model
  | 'o' => some .output
  | _ => none

def Switch.ofLetter? : Char → Option Switch
  | 's' => some .stdin
  | 'f' => some .force
  | 'v' => some .verbose
  | 'h' => some .help
  | 'V' => some .version
  | _ => none

/-- Why a command line is not run. -/
inductive Dismissal where
  | help
  | version
  | unknownArgument (argument : String)
  | missingValue (s : Setting)
  | emptyPath
  | badCount (value : String)
  | unwantedValue (w : Switch) (value : String)
  | repeated (word : String)
  /-- The model is to come both from a file and from the standard input. -/
  | twoModels
  | missingTemplate
  deriving DecidableEq, Repr

def Dismissal.message : Dismissal → String
  | .help | .version => ""
  | .unknownArgument a => s!"unexpected argument '{a}' found"
  | .missingValue s => s!"a value is required for '--{s.word}' but none was supplied"
  | .emptyPath => "a path must not be empty"
  | .badCount v => s!"invalid value '{v}' for '--discover'"
  | .unwantedValue w v => s!"unexpected value '{v}' for '--{w.word}' found; no more were expected"
  | .repeated word => s!"the argument '--{word}' cannot be used multiple times"
  | .twoModels => "the argument '--model' cannot be used with '--stdin'"
  | .missingTemplate => "the template was not provided"

/-- Zero where help or the version is asked for, one without a template, else two. -/
def Dismissal.exitCode : Dismissal → Nat
  | .help | .version => 0
  | .missingTemplate => 1
  | _ => 2

/-- What is wrong with the value of an option. Paths are not empty. -/
def Setting.flaw? (s : Setting) (value : String) : Option Dismissal :=
  match s with
  | .pattern => none
  | .discover =>
      if (Decimal.readCount? value.toList).isSome then none else some (.badCount value)
  | _ => if value.isEmpty then some .emptyPath else none

/-- What is read but not looked at yet. -/
inductive Waiting where
  | template (path : String)
  | setting (s : Setting) (value : Option String)
  deriving DecidableEq, Repr

structure Draft where
  template : Option String := none
  settings : List (Setting × String) := []
  switches : List Switch := []
  waiting : Option Waiting := none
  /-- After two hyphens no argument is an option. -/
  plain : Bool := false
  deriving Inhabited

namespace Draft

/-- The value of an option that is settled. -/
def value? (d : Draft) (s : Setting) : Option String :=
  (d.settings.find? fun g => g.1 == s).map Prod.snd

/-- An option with its value, which it may have only once. -/
def give (d : Draft) (s : Setting) (value : String) : Except Dismissal Draft :=
  if (d.value? s).isSome then .error (.repeated s.word)
  else match s.flaw? value with
    | some flaw => .error flaw
    | none => .ok { d with settings := (s, value) :: d.settings, waiting := none }

def settle (d : Draft) : Except Dismissal Draft :=
  match d.waiting with
  | none => .ok d
  | some (.template path) =>
      if path.isEmpty then .error .emptyPath
      else .ok { d with template := some path, waiting := none }
  | some (.setting s none) => .error (.missingValue s)
  | some (.setting s (some value)) => d.give s value

/-- An option without a value. -/
def turn (d : Draft) (w : Switch) : Except Dismissal Draft := do
  let d ← d.settle
  match w with
  | .help => .error .help
  | .version => .error .version
  | _ =>
      if d.switches.contains w then .error (.repeated w.word)
      else .ok { d with switches := w :: d.switches }

/-- An option with a value, which may follow as the next argument. -/
def option (d : Draft) (s : Setting) (attached : Option String) : Except Dismissal Draft := do
  let d ← d.settle
  match attached with
  | some value => d.give s value
  | none => .ok { d with waiting := some (.setting s none) }

/-- An option after two hyphens, perhaps with a value after an equals sign. -/
def long (d : Draft) (text : List Char) : Except Dismissal Draft :=
  let (name, value) := match Text.cutAt '=' text with
    | some (n, v) => (String.ofList n, some (String.ofList v))
    | none => (String.ofList text, none)
  match Setting.ofWord? name, Switch.ofWord? name, value with
  | some s, _, _ => d.option s value
  | none, some w, none => d.turn w
  | none, some w, some value => .error (.unwantedValue w value)
  | none, none, _ => .error (.unknownArgument s!"--{name}")

/-- Options of one letter after a hyphen. The first one with a value takes the letters
behind it, an equals sign aside. -/
def short (d : Draft) : List Char → Except Dismissal Draft
  | [] => .ok d
  | c :: rest =>
      match Setting.ofLetter? c, Switch.ofLetter? c with
      | some s, _ =>
          d.option s (match rest with
            | [] => none
            | '=' :: value => some (String.ofList value)
            | value => some (String.ofList value))
      | none, some w => do (← d.turn w).short rest
      | none, none => .error (.unknownArgument s!"-{c}")

/-- The template, of which there is one. -/
def positional (d : Draft) (path : String) : Except Dismissal Draft :=
  let known := d.template.isSome || match d.waiting with
    | some (.template _) => true
    | _ => false
  if known then .error (.unknownArgument path)
  else do
    let d ← d.settle
    .ok { d with waiting := some (.template path) }

/-- One more argument. A hyphen alone is no option. -/
def read (d : Draft) (argument : String) : Except Dismissal Draft :=
  if d.plain then d.positional argument
  else match argument.toList with
    | ['-', '-'] => .ok { d with plain := true }
    | '-' :: '-' :: text => d.long text
    | '-' :: c :: text => d.short (c :: text)
    | _ => match d.waiting with
        | some (.setting s none) => .ok { d with waiting := some (.setting s (some argument)) }
        | _ => d.positional argument

def finish (d : Draft) : Except Dismissal Arguments := do
  let d ← d.settle
  if (d.value? .model).isSome && d.switches.contains .stdin then .error .twoModels
  else match d.template with
    | none => .error .missingTemplate
    | some template =>
        let standard : Arguments := { template }
        .ok { standard with
          model := d.value? .model
          stdin := d.switches.contains .stdin
          dialect := d.value? .dialect
          subtemplates := d.value? .subtemplates
          pattern := (d.value? .pattern).getD standard.pattern
          output := d.value? .output
          force := d.switches.contains .force
          discover := (d.value? .discover).bind fun v => Decimal.readCount? v.toList
          verbose := d.switches.contains .verbose }

end Draft

/-- The arguments of a command line, or why it is not run. -/
def read (arguments : List String) : Except Dismissal Arguments := do
  (← arguments.foldlM Draft.read {}).finish

end Arguments
end Templating
