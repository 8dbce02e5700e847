import Templating.Text.Blank
import Templating.Text.Pieces

/-!
# Paths into the model as templates write them

A path is a sequence of names with dots between them. A field may add a colon
and a format, which begins at the first colon. A first name equal to the self
keyword of the dialect stands for the whole value of the present scope; it is
replaced by a token that no ordinary name is mistaken for.
-/
namespace Templating.ModelPath
open Text

/-- Stands for the whole value of the present scope. -/
def selfToken : List Char := ['@', 's', 'e', 'l', 'f']

/-- A path with the self keyword, as its first name, replaced by the self token. -/
def rewriteSelf (keyword path : List Char) : List Char :=
  if path = keyword then selfToken
  else match after? keyword path with
    | some ('.' :: r) => selfToken ++ '.' :: r
    | _ => path

/-- The rewriting for a path that may carry a format: the path before the first
colon loses its outer blanks, and the format stays as it is. -/
def normalize (keyword path : List Char) : List Char :=
  match cutAt ':' path with
  | some (value, format) => rewriteSelf keyword (trim value) ++ ':' :: format
  | none => rewriteSelf keyword path

/-- The path without its format, and the format if there is one. -/
def splitFormat (path : List Char) : List Char × Option (List Char) :=
  match cutAt ':' path with
  | some (value, format) => (trim value, some format)
  | none => (trim path, none)

end Templating.ModelPath
