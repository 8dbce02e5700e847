import Templating.Format
import Templating.Model.Scope
import Templating.Template

/-!
# Applying a template to a model

The nodes still to be run stand in one list: a branch that is taken is put before
the nodes that follow its block. The document grows at its end and is given out
only as a whole, so that the first command that fails is all that is reported.
Loops run their body once for each item, and a subtemplate is run on its part of
the model as if it stood alone.
-/
namespace Templating

inductive RenderError where
  | notBoolean (path typeName : String)
  | notIterable (path typeName : String)
  | unknownSubtemplate (name : String)
  | unreadable (path : String) (cause : AccessError)
  | unformattable (path : String) (cause : FormatError)
  /-- An else or end command as a node of its own, in a tree that was not parsed. -/
  | strayCommand (command : String)
  deriving DecidableEq, Repr

def RenderError.message : RenderError → String
  | .notBoolean path typeName =>
      s!"Invalid type at path '{path}'. Expected boolean or null, found {typeName}."
  | .notIterable path typeName =>
      s!"Invalid type at path '{path}'. Expected a sequence or null, found {typeName}."
  | .unknownSubtemplate name => s!"Requested subtemplate was not found: '{name}'."
  | .unreadable path _ => s!"Failed to extract value '{path}' from model."
  | .unformattable path _ => s!"Failed to format value '{path}'."
  | .strayCommand command => s!"Command '{command}' cannot be executed on its own."

def RenderError.causes : RenderError → List String
  | .unreadable _ cause => [cause.message]
  | .unformattable _ cause => [cause.message]
  | _ => []

/-- How the parts of a model are found and how they become text. -/
structure Interpretation where
  extractor : Extractor := .standard
  formatter : Formatter := .standard
  deriving Inhabited

def Interpretation.read (i : Interpretation) (s : Scope) (path : String) :
    Except (Fault RenderError) Value :=
  match s.resolve i.extractor path with
  | .ok v => .ok v
  | .error e => .error (.failure (.unreadable path e))

/-- The text of a field, whose path may carry a format. -/
def Interpretation.fieldText (i : Interpretation) (s : Scope) (path : String) :
    Except (Fault RenderError) String :=
  let (valuePath, format) := ModelPath.splitFormat path.toList
  match i.read s (String.ofList valuePath) with
  | .error e => .error e
  | .ok v =>
      match i.formatter v (format.map String.ofList) with
      | .ok text => .ok text
      | .error e => .error (e.map (RenderError.unformattable path))

/-- Which branch a value chooses, if it may decide at all. -/
def Value.truth? : Value → Option Bool
  | .bool b => some b
  | .null => some false
  | _ => none

def entryItem (m : String × Value) : Value :=
  .object [("key", .string m.1), ("value", m.2)]

/-- What a loop over a value runs through: the items of an array, the characters of
a string, the entries of an object, or nothing. -/
def Value.items? : Value → Option (List Value)
  | .null => some []
  | .array items => some items
  | .string s => some (s.toList.map fun c => .string (String.singleton c))
  | .object members => some (members.map entryItem)
  | .bool _ | .number _ => none

mutual

def Node.size : Node → Nat
  | .group scope => 1 + Node.sizes scope
  | .leaf _ => 1
  | .block _ body none => 1 + Node.sizes body
  | .block _ body (some alternative) => 1 + Node.sizes body + Node.sizes alternative

def Node.sizes : List Node → Nat
  | [] => 0
  | n :: ns => n.size + Node.sizes ns

end

theorem Node.sizes_append (a b : List Node) :
    Node.sizes (a ++ b) = Node.sizes a + Node.sizes b := by
  induction a with
  | nil => simp [Node.sizes]
  | cons n a ih => simp only [List.cons_append, Node.sizes, ih, Nat.add_assoc]

/-- The nodes of the first branch; a leaf has none. -/
def Node.body (n : Node) : List Node := n.body?.getD []

def Node.alternative (n : Node) : List Node := n.alternative?.getD []

theorem Node.sizes_body_lt (n : Node) : Node.sizes n.body < n.size := by
  rcases n with s | c | ⟨c, b, _ | a⟩ <;>
    simp only [Node.body, Node.body?, Option.getD, Node.size, Node.sizes] <;> omega

theorem Node.sizes_alternative_lt (n : Node) : Node.sizes n.alternative < n.size := by
  rcases n with s | c | ⟨c, b, _ | a⟩ <;>
    simp only [Node.alternative, Node.alternative?, Option.getD, Node.size, Node.sizes] <;> omega

/-- Runs nodes in a scope and adds their text to the document. -/
def Interpretation.run (i : Interpretation) (registry : Registry) (scope : Scope)
    (document : String) : List Node → Except (Fault RenderError) String
  | [] => .ok document
  | node :: rest =>
      match node.command? with
      | none => i.run registry scope document (node.body ++ rest)
      | some c =>
          match c.directive with
          | .literal => i.run registry scope (document ++ c.sentence.text) rest
          | .field path =>
              match i.fieldText scope path with
              | .error e => .error e
              | .ok text => i.run registry scope (document ++ text) rest
          | .opening (.choice .truth) path =>
              match i.read scope path with
              | .error e => .error e
              | .ok v =>
                  match v.truth? with
                  | some true => i.run registry scope document (node.body ++ rest)
                  | some false => i.run registry scope document (node.alternative ++ rest)
                  | none => .error (.failure (.notBoolean path v.typeName))
          | .opening (.choice .presence) path =>
              match i.read scope path with
              | .error e => .error e
              | .ok v =>
                  if v.isNull then i.run registry scope document (node.alternative ++ rest)
                  else i.run registry scope document (node.body ++ rest)
          | .opening .loop path =>
              match i.read scope path with
              | .error e => .error e
              | .ok v =>
                  match v.items? with
                  | none => .error (.failure (.notIterable path v.typeName))
                  | some items =>
                      match items.foldlM (fun document item =>
                          i.run registry (scope.enter path item) document node.body) document with
                      | .error e => .error e
                      | .ok document => i.run registry scope document rest
          | .subtemplate name path =>
              match i.read scope path with
              | .error e => .error e
              | .ok v =>
                  match _h : memberOf? name registry with
                  | none => .error (.failure (.unknownSubtemplate name))
                  | some t =>
                      match i.run t.registry ⟨v, []⟩ "" t.nodes with
                      | .error e => .error e
                      | .ok text => i.run registry scope (document ++ text) rest
          | .otherwise _ _ | .closing _ _ | .anyElse | .anyEnd =>
              .error (.failure (.strayCommand c.name))
termination_by nodes => (sizeOf registry, Node.sizes nodes)
decreasing_by
  all_goals
    first
      | (apply Prod.Lex.left
         exact Nat.lt_trans t.sizeOf_registry_lt (sizeOf_lt_of_memberOf? _h))
      | (apply Prod.Lex.right
         have hb := node.sizes_body_lt
         have ha := node.sizes_alternative_lt
         simp only [Node.sizes_append, Node.sizes]
         omega)

def Interpretation.render (i : Interpretation) (t : Template) (model : Value) :
    Except (Fault RenderError) String :=
  i.run t.registry ⟨model, []⟩ "" t.nodes

end Templating
