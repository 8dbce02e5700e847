import Templating.CommandLine.Arguments
import Templating.Files.Loading

/-!
# What a command line does

The dialect and the model are loaded first. Then either the model's paths are listed,
or the subtemplates and the template are loaded and the document goes to a file or
to the standard output. Nothing is written unless all of this succeeds.
-/
namespace Templating.CommandLine

/-- What a run leaves for its caller: the standard output, a note about a file that was
written, the lines of an error report and the exit code. -/
structure Outcome where
  output : String := ""
  note : Option String := none
  report : List String := []
  exitCode : Nat := 0
  deriving DecidableEq, Repr, Inhabited

/-- An error with its causes, one under the other. -/
def linesOf (e : Error) : List String :=
  e.message :: e.causes.map fun cause => s!"  caused by: {cause}"

/-- The outcome of a run that could not go on. -/
def Outcome.ofFault : Fault Error → Outcome
  | .failure e => { report := linesOf e, exitCode := 1 }
  | .abort => { report := ["Formatting argument out of range"], exitCode := 101 }

variable {m : Type → Type} [Monad m]

abbrev Running (m : Type → Type) := ExceptT (Fault Error) m

def ofLoading {A : Type} (r : Loading m A) : Running m A := r.adapt Fault.failure

/-- The model of a command line, empty where none is given. -/
def loadModel (files : FileAccess m) (input : m ByteArray) (a : Arguments) : Loading m Value :=
  if a.stdin then do
    let text ← MonadExcept.ofExcept (Loading.decode (← ExceptT.lift input))
    MonadExcept.ofExcept ((readModel text).mapError Error.configuration)
  else match a.model with
    | some path => Loading.model files path
    | none => return .object []

def loadEngine (files : FileAccess m) (a : Arguments) (e : Engine) : Loading m Engine :=
  match a.subtemplates with
  | none => return e
  | some directory => do
      match e.shareAll (← Loading.subtemplates files e.dialect directory a.pattern) with
      | (e, none) => return e
      | (_, some cause) => throw cause

/-- Refuses an output file that is there already, unless it may be overwritten. -/
def checkOutput (files : FileAccess m) (a : Arguments) : Loading m Unit :=
  match a.output with
  | none => return ()
  | some path => do
      if (← ExceptT.lift (files.occupied path)) && !a.force then
        throw (.configuration (.outputExists path))

/-- The document goes to the output file, if there is one. -/
def deliver (files : FileAccess m) (a : Arguments) (document : String) : Loading m Outcome :=
  match a.output with
  | none => return { output := document }
  | some path => do
      Loading.ofAccess (files.write path document)
      return { note := some s!"Document written to '{path}'" }

def running (files : FileAccess m) (input : m ByteArray) (a : Arguments) : Running m Outcome := do
  let dialect ← match a.dialect with
    | some path => ofLoading (Loading.dialect files path)
    | none => pure .standard
  let model ← ofLoading (loadModel files input a)
  let engine : Engine := { dialect }
  match a.discover with
  | some depth =>
      let paths ← ofLoading (MonadExcept.ofExcept (engine.discover model depth))
      return { output := String.join (paths.map fun p => p ++ "\n") }
  | none =>
      ofLoading (checkOutput files a)
      let engine ← ofLoading (loadEngine files a engine)
      let template ← ofLoading (Loading.template files dialect a.template)
      let template ← ofLoading (MonadExcept.ofExcept (engine.attach template))
      let document ← MonadExcept.ofExcept (engine.render template model)
      ofLoading (deliver files a document)

/-- Runs a command line, whatever happens. -/
def run (files : FileAccess m) (input : m ByteArray) (a : Arguments) : m Outcome := do
  match ← (running files input a).run with
  | .ok outcome => return outcome
  | .error fault => return .ofFault fault

end Templating.CommandLine
