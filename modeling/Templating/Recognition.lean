import Templating.Call
import Templating.Dialect
import Templating.ModelPath

/-!
# Reading commands from sentences

Under a dialect, the text between two tags is a call of one of the keywords, or
else the path of a field. A call has to bring exactly the arguments of its
keyword, none of them blank.
-/
namespace Templating
open Text

/-- The path that a command's argument means under the dialect. -/
def Dialect.path (d : Dialect) (s : List Char) : String :=
  String.ofList (ModelPath.normalize d.wording.selfWord.toList s)

/-- How many arguments a keyword takes. A conditional else may also have none. -/
def CommandKind.arity : CommandKind → Nat
  | .literal | .field | .anyElse | .anyEnd => 0
  | .opening _ | .otherwise _ | .closing _ => 1
  | .subtemplate => 2

/-- The command of a kind with these arguments, if they are as many as it takes. -/
def Dialect.directive? (d : Dialect) : CommandKind → List (List Char) → Option Directive
  | .opening b, [p] => some (.opening b (d.path p))
  | .otherwise .truth, [] => some .anyElse
  | .otherwise c, [p] => some (.otherwise c (d.path p))
  | .closing b, [p] => some (.closing b (d.path p))
  | .subtemplate, [n, p] => some (.subtemplate (String.ofList n) (d.path p))
  | .anyEnd, [] => some .anyEnd
  | _, _ => none

def Dialect.recognize (d : Dialect) (s : Sentence) : Except ParseError Command :=
  if !s.isCommand then .ok ⟨s, .literal⟩
  else
    let text := trim s.text.toList
    if text.isEmpty then .error (.emptyCommand s.place)
    else match Call.read? text with
      | none => .ok ⟨s, .field (d.path text)⟩
      | some call =>
          match d.kind? (String.ofList call.name) with
          | none =>
              .error (.unknownCommand (String.ofList call.name) (String.ofList text) s.place)
          | some kind =>
              let found := call.arguments.filter fun a => !a.isEmpty
              match d.directive? kind call.arguments with
              | some directive =>
                  if found.length = call.arguments.length then .ok ⟨s, directive⟩
                  else .error
                    (.argumentCount (String.ofList text) kind.arity found.length s.place)
              | none =>
                  .error (.argumentCount (String.ofList text) kind.arity found.length s.place)

/-- The commands of a text in order. A sentence that spells none gives its error in
place; an error of the tags ends the list. -/
def Dialect.commands (d : Dialect) (text : String) : List (Except ParseError Command) :=
  (segment d.tags text).map fun s => s.bind d.recognize

end Templating
