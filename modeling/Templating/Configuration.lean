import Templating.Error
import Templating.Json.Reader
import Templating.Yaml.Schema

/-!
# Models and dialects as texts

Both are read as JSON if they can be, and otherwise as YAML. A dialect is written as
the fields of a wording, of which any may be missing; fields of other names are
ignored. What is neither, or is no sound wording, is unreadable.
-/
namespace Templating

def readModel (text : String) : Except ConfigurationError Value :=
  match (Json.readModel? text).or (Yaml.readModel? text) with
  | some v => .ok v
  | none => .error .unreadable

namespace Wording

/-- The fields of a wording by name, each with the change that a text makes to it. -/
def fields : List (String × (String → Wording → Wording)) :=
  [("begin_tag", fun s w => { w with beginTag := s }),
   ("end_tag", fun s w => { w with endTag := s }),
   ("if_keyword", fun s w => { w with ifWord := s }),
   ("else_keyword", fun s w => { w with elseWord := s }),
   ("endif_keyword", fun s w => { w with endIfWord := s }),
   ("ifexists_keyword", fun s w => { w with ifExistsWord := s }),
   ("elseexists_keyword", fun s w => { w with elseExistsWord := s }),
   ("endifexists_keyword", fun s w => { w with endIfExistsWord := s }),
   ("for_keyword", fun s w => { w with forWord := s }),
   ("endfor_keyword", fun s w => { w with endForWord := s }),
   ("template_keyword", fun s w => { w with templateWord := s }),
   ("end_keyword", fun s w => { w with endWord := s }),
   ("self_keyword", fun s w => { w with selfWord := s })]

/-- Changes the fields that are named. The known names have to be told apart, and their
values have to be texts. -/
def ofMembers? (members : List (String × Option String)) : Option Wording :=
  let known := members.filter fun m => (memberOf? m.1 fields).isSome
  if decide (known.map Prod.fst).Nodup then
    known.foldlM (fun w m => do
      let change ← memberOf? m.1 fields
      return change (← m.2) w) {}
  else none

def ofTexts? (texts : List (Option String)) : Option Wording :=
  if texts.length ≤ fields.length then
    (fields.zip texts).foldlM (fun w p => return p.1.2 (← p.2) w) {}
  else none

def textOf? : Value → Option String
  | .string s => some s
  | _ => none

def ofJson? (text : String) : Option Wording := do
  match ← Json.read? Json.nestingLimit Value.object text with
  | .object ms => ofMembers? (ms.map fun m => (m.1, textOf? m.2))
  | .array items => ofTexts? (items.map textOf?)
  | _ => none

/-- A wording written as a YAML mapping, or not at all. Scalars of every kind are texts. -/
def ofYaml? (text : String) : Option Wording := do
  match ← Yaml.readNode? text with
  | none | some (.scalar _ true "") => some {}
  | some (.mapping _ ms) =>
      let named ← ms.mapM fun m : Yaml.Node × Yaml.Node => do return (← m.1.text?, m.2.text?)
      ofMembers? named
  | _ => none

end Wording

def readDialect (text : String) : Except ConfigurationError Dialect :=
  let sound? (w : Wording) : Option Dialect := w.build.toOption
  match ((Wording.ofJson? text).bind sound?).or ((Wording.ofYaml? text).bind sound?) with
  | some d => .ok d
  | none => .error .unreadable

end Templating
