import Templating.Command

/-!
# Template trees

A parsed template is a tree of commands. Blocks hold the nodes of their body
and, where there is an else branch, those of the alternative. A group holds
nodes without a command of its own; the whole template is one.
-/
namespace Templating

inductive Node where
  | group (scope : List Node)
  | leaf (command : Command)
  | block (command : Command) (body : List Node) (alternative : Option (List Node))
  deriving BEq, Repr, Inhabited

def Node.command? : Node → Option Command
  | .group _ => none
  | .leaf c | .block c _ _ => some c

/-- The nodes of the first branch, of a loop's body or of a group. -/
def Node.body? : Node → Option (List Node)
  | .group s | .block _ s _ => some s
  | .leaf _ => none

def Node.alternative? : Node → Option (List Node)
  | .block _ _ a => a
  | _ => none

end Templating
