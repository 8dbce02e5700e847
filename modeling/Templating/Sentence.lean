/-!
# Positions and sentences

A template text is read as a sequence of sentences: stretches of literal text,
and the inner texts of command tags. Each remembers where its first character
stands, by line and column, both counted from one and the column in characters.
-/
namespace Templating

/-- A place in a text, counted from line one and column one. -/
structure Position where
  line : Nat := 1
  column : Nat := 1
  deriving DecidableEq, Repr, Inhabited

/-- The place after one character. Only a line feed starts a new line. -/
def Position.step (p : Position) (c : Char) : Position :=
  if c = '\n' then ⟨p.line + 1, 1⟩ else ⟨p.line, p.column + 1⟩

/-- The place after a stretch of text. -/
def Position.pass (p : Position) (s : List Char) : Position :=
  s.foldl Position.step p

/-- A maximal stretch of literal text or of text between two tags. -/
structure Sentence where
  text : String
  isCommand : Bool
  place : Position
  deriving DecidableEq, Repr, Inhabited

def Sentence.display (s : Sentence) : String :=
  s!"[line {s.place.line}:{s.place.column}] {s.text}"

end Templating
