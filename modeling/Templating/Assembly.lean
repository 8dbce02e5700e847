import Templating.Node
import Templating.Recognition

/-!
# Building the tree from a sequence of commands

Open blocks are frames: the command that opened the frame, and the nodes read
since. The else command of a block opens a frame of its own above the block's,
so that closing the block takes one frame away, or two after an else. The
outermost frame has no command and collects the nodes of the whole template.
-/
namespace Templating

structure Frame where
  command? : Option Command := none
  scope : Array Node := #[]
  deriving Inhabited

/-- The frame that receives nodes, and those around it from the inside out. -/
structure Assembly where
  active : Frame := {}
  outer : List Frame := []
  deriving Inhabited

/-- Whether an else command continues the branch opened by the active command. -/
def Directive.fitsElse : Directive → Directive → Bool
  | .opening (.choice c) _, .otherwise c' _ => c == c'
  | .opening (.choice _) _, .anyElse => true
  | _, _ => false

/-- Whether an end command closes the block of the opening command. -/
def Directive.fitsEnd : Directive → Directive → Bool
  | .opening b _, .closing b' _ => b == b'
  | .opening _ _, .anyEnd => true
  | _, _ => false

/-- Paths agree unless both commands have one and they differ. -/
def Directive.samePath (a b : Directive) : Bool :=
  match a.path?, b.path? with
  | some p, some q => p == q
  | _, _ => true

namespace Assembly

/-- The command that opened the innermost block. In an else branch that is the
command of the frame below. -/
def opening? (a : Assembly) : Option Command :=
  match a.active.command? with
  | some c => if c.directive.isElse then a.outer.head?.bind Frame.command? else some c
  | none => none

def add (a : Assembly) (n : Node) : Assembly :=
  { a with active := { a.active with scope := a.active.scope.push n } }

def enter (a : Assembly) (c : Command) : Assembly :=
  ⟨{ command? := some c }, a.active :: a.outer⟩

/-- The innermost frame, and what is around it. -/
def leave (a : Assembly) : Frame × Assembly :=
  match a.outer with
  | f :: fs => (a.active, ⟨f, fs⟩)
  | [] => (a.active, {})

def nodeOf (f : Frame) (alternative : Option (List Node)) : Node :=
  match f.command? with
  | some c => .block c f.scope.toList alternative
  | none => .group f.scope.toList

def closeLoop (a : Assembly) : Assembly :=
  let (f, a) := a.leave
  a.add (nodeOf f none)

/-- Closes a block with branches, the else branch first if it is the active one. -/
def closeChoice (a : Assembly) : Assembly :=
  match a.active.command? with
  | some c =>
      if c.directive.isElse then
        let (e, a) := a.leave
        let (f, a) := a.leave
        a.add (nodeOf f (some e.scope.toList))
      else a.closeLoop
  | none => a.closeLoop

def boundaryError (c : Command) : ParseError := .noOpenBlock c.name c.place

/-- Whether an else command may stand here. -/
def checkElse (a : Assembly) (c : Command) : Except ParseError Unit :=
  match a.active.command?, a.opening? with
  | some active, some opening =>
      if !active.directive.fitsElse c.directive then
        .error (.boundaryMismatch opening.name c.name opening.place)
      else if !active.directive.samePath c.directive then
        .error (.pathMismatch active.name c.name active.place)
      else .ok ()
  | _, _ => .error (boundaryError c)

/-- Whether an end command may stand here. -/
def checkEnd (a : Assembly) (c : Command) : Except ParseError Unit :=
  match a.opening? with
  | some opening =>
      if !opening.directive.fitsEnd c.directive then
        .error (.boundaryMismatch opening.name c.name opening.place)
      else if !opening.directive.samePath c.directive then
        .error (.pathMismatch opening.name c.name opening.place)
      else .ok ()
  | none => .error (boundaryError c)

def close (a : Assembly) : Assembly :=
  match a.opening?.map Command.directive with
  | some (.opening .loop _) => a.closeLoop
  | _ => a.closeChoice

def step (a : Assembly) (c : Command) : Except ParseError Assembly :=
  match c.directive with
  | .literal | .field _ | .subtemplate _ _ => .ok (a.add (.leaf c))
  | .opening _ _ => .ok (a.enter c)
  | .otherwise _ _ | .anyElse => (a.checkElse c).map fun _ => a.enter c
  | .closing _ _ | .anyEnd => (a.checkEnd c).map fun _ => a.close

/-- The finished tree, unless a block is still open. -/
def finish (a : Assembly) : Except ParseError Node :=
  match a.opening? with
  | some c => .error (.unclosedBlock c.name c.place)
  | none => .ok (.group a.active.scope.toList)

/-- Takes in a sequence of commands, up to the first error in it or of it. -/
def run (a : Assembly) : List (Except ParseError Command) → Except ParseError Assembly
  | [] => .ok a
  | .error e :: _ => .error e
  | .ok c :: cs =>
      match a.step c with
      | .error e => .error e
      | .ok b => b.run cs

end Assembly

/-- The tree of a sequence of commands. -/
def assemble (commands : List (Except ParseError Command)) : Except ParseError Node :=
  (Assembly.run {} commands).bind Assembly.finish

/-- The tree of a template text. -/
def Dialect.parse (d : Dialect) (text : String) : Except ParseError Node :=
  assemble (d.commands text)

end Templating
