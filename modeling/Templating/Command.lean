import Templating.Sentence
import Templating.Text.Blank

/-!
# Commands

What a sentence asks for: to copy its text, to insert a field of the model, to
open, continue or close a block, or to insert a subtemplate. Conditional and
existence blocks offer a choice of two branches, loops have one body. An else
or end command either names its kind of block and its path, or is the general
one that fits whichever block is open.
-/
namespace Templating

/-- The two kinds of block that have an else branch. -/
inductive Choice where
  /-- Taken when the value is true. -/
  | truth
  /-- Taken when the value is not null. -/
  | presence
  deriving DecidableEq, Repr, Inhabited

inductive BlockKind where
  | choice (c : Choice)
  | loop
  deriving DecidableEq, Repr, Inhabited

/-- A command without its paths and names. -/
inductive CommandKind where
  | literal
  | field
  | opening (b : BlockKind)
  | otherwise (c : Choice)
  | closing (b : BlockKind)
  | subtemplate
  | anyElse
  | anyEnd
  deriving DecidableEq, Repr, Inhabited

/-- Every kind once, in the order in which listings give them. -/
def CommandKind.all : List CommandKind :=
  [.literal, .field,
   .opening (.choice .truth), .otherwise .truth, .closing (.choice .truth),
   .opening (.choice .presence), .otherwise .presence, .closing (.choice .presence),
   .opening .loop, .closing .loop, .subtemplate, .anyElse, .anyEnd]

theorem CommandKind.mem_all (k : CommandKind) : k ∈ CommandKind.all := by
  rcases k with _ | _ | ⟨⟨_ | _⟩ | _⟩ | ⟨_ | _⟩ | ⟨⟨_ | _⟩ | _⟩ | _ | _ | _ <;> decide

def CommandKind.label : CommandKind → String
  | .literal => "Copy"
  | .field => "BindFromModel"
  | .opening (.choice .truth) => "If"
  | .otherwise .truth => "IfElse"
  | .closing (.choice .truth) => "IfEnd"
  | .opening (.choice .presence) => "IfExists"
  | .otherwise .presence => "IfExistsElse"
  | .closing (.choice .presence) => "IfExistsEnd"
  | .opening .loop => "Loop"
  | .closing .loop => "LoopEnd"
  | .subtemplate => "Subtemplate"
  | .anyElse => "Else"
  | .anyEnd => "End"

/-- What a command does, with the model paths and names it mentions. The path of
a field may end in a colon and a format. -/
inductive Directive where
  | literal
  | field (path : String)
  | opening (b : BlockKind) (path : String)
  | otherwise (c : Choice) (path : String)
  | closing (b : BlockKind) (path : String)
  | subtemplate (name path : String)
  | anyElse
  | anyEnd
  deriving DecidableEq, Repr, Inhabited

def Directive.kind : Directive → CommandKind
  | .literal => .literal
  | .field _ => .field
  | .opening b _ => .opening b
  | .otherwise c _ => .otherwise c
  | .closing b _ => .closing b
  | .subtemplate _ _ => .subtemplate
  | .anyElse => .anyElse
  | .anyEnd => .anyEnd

/-- The model path, for the commands that have one. -/
def Directive.path? : Directive → Option String
  | .field p | .opening _ p | .otherwise _ p | .closing _ p | .subtemplate _ p => some p
  | .literal | .anyElse | .anyEnd => none

def Directive.isElse : Directive → Bool
  | .otherwise _ _ | .anyElse => true
  | _ => false

/-- A directive together with the sentence it was read from. -/
structure Command where
  sentence : Sentence
  directive : Directive
  deriving DecidableEq, Repr, Inhabited

def Command.kind (c : Command) : CommandKind := c.directive.kind

def Command.place (c : Command) : Position := c.sentence.place

/-- The text between the tags without outer blanks, which names the command in
messages. -/
def Command.name (c : Command) : String := Text.trimmed c.sentence.text

def Command.display (c : Command) : String := s!"{c.kind.label}: {c.sentence.text}"

end Templating
