import Templating.Text.Blank
import Templating.Text.Pieces

/-!
# Calls

A command other than a field is written as a call: a name, and arguments with
commas between them in parentheses. The name ends at the first opening
parenthesis and the arguments at the last closing one, which only blanks may
follow, so that an argument may itself hold parentheses.
-/
namespace Templating
open Text

structure Call where
  name : List Char
  arguments : List (List Char)
  deriving DecidableEq, Repr

/-- The name in the text before the parenthesis. Of a text of blanks only the last
blank counts as the name. -/
def Call.nameIn (s : List Char) : List Char :=
  if allBlank s then s.drop (s.length - 1) else trim s

/-- The arguments in the text between the parentheses; a blank text holds none. -/
def Call.argumentsIn (s : List Char) : List (List Char) :=
  if allBlank s then [] else (splitAt ',' s).map trim

/-- The call that a text spells, if it spells one. -/
def Call.read? (text : List Char) : Option Call :=
  match cutAt '(' text with
  | none => none
  | some ([], _) => none
  | some (c :: before, after) =>
      match (trimEnd after).reverse with
      | ')' :: inner => some ⟨Call.nameIn (c :: before), Call.argumentsIn inner.reverse⟩
      | _ => none

end Templating
