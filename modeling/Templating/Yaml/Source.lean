/-!
# YAML text as characters with places

Indentation decides the structure of YAML, so every character is read together
with its line and column. The line breaks of different systems are made one on
the way in; the two separators of lines and paragraphs stay themselves.
-/
namespace Templating.Yaml

/-- A character and where it stands. Lines and columns are counted from zero, the
index from the start of the text. -/
structure Spot where
  char : Char
  index : Nat
  line : Nat
  column : Nat
  deriving Repr, Inhabited

abbrev Source := List Spot

/-- Line feed, line separator, paragraph separator. -/
def isBreak (c : Char) : Bool := c == '\n' || c == '\u2028' || c == '\u2029'

def isBlank (c : Char) : Bool := c == ' ' || c == '\t'

/-- The characters of which names of anchors, handles and directives consist. -/
def isNameChar (c : Char) : Bool := c.isAlphanum || c == '_' || c == '-'

/-- The control characters that a text may not hold are all but the tab, the line
feed, the carriage return and the next line mark. -/
def isAllowed (c : Char) : Bool :=
  let n := c.toNat
  n == 0x09 || n == 0x0A || n == 0x0D || n == 0x85 || (0x20 ≤ n && n ≤ 0x7E) ||
    (0xA0 ≤ n && n ≤ 0xFFFD) || 0x10000 ≤ n

/-- The places of characters from a given one on. A carriage return before a line
feed is one break with it. -/
def spots (index line column : Nat) : List Char → Source
  | [] => []
  | '\r' :: '\n' :: s => ⟨'\n', index, line, column⟩ :: spots (index + 2) (line + 1) 0 s
  | c :: s =>
      let d := if c == '\r' || c == '\u0085' then '\n' else c
      ⟨d, index, line, column⟩ ::
        if isBreak d then spots (index + 1) (line + 1) 0 s else spots (index + 1) line (column + 1) s

/-- The source of a text, if it has no forbidden character. A byte order mark at the
start is passed over but takes up a column. -/
def source? (text : String) : Option Source :=
  let cs := text.toList
  if !cs.all isAllowed then none
  else match cs with
    | '\uFEFF' :: s => some (spots 1 0 1 s)
    | s => some (spots 0 0 0 s)

def Source.at (s : Source) (c : Char) : Bool := s.head?.any fun p => p.char == c

def Source.atOneOf (s : Source) (cs : List Char) : Bool := s.head?.any fun p => cs.contains p.char

/-- Whether a blank, a line break or the end comes next. -/
def Source.atGap : Source → Bool
  | [] => true
  | p :: _ => isBlank p.char || isBreak p.char

/-- Whether a line begins here with three of the character and a gap. -/
def Source.atMarker (s : Source) (c : Char) : Bool :=
  match s with
  | p :: q :: r :: rest =>
      p.column == 0 && p.char == c && q.char == c && r.char == c && Source.atGap rest
  | _ => false

def Source.atDocumentMarker (s : Source) : Bool := s.atMarker '-' || s.atMarker '.'

/-- The characters up to the first that is not of a class, and the source from there. -/
def Source.span (p : Char → Bool) (s : Source) : List Char × Source :=
  ((s.takeWhile fun x => p x.char).map Spot.char, s.dropWhile fun x => p x.char)

def Source.skip (p : Char → Bool) (s : Source) : Source := s.dropWhile fun x => p x.char

def Source.skipBlanks (s : Source) : Source := s.skip isBlank

/-- Past a comment, if one begins here. -/
def Source.skipComment (s : Source) : Source :=
  if s.at '#' then s.skip fun c => !isBreak c else s

/-- The rest of a line that may hold only blanks and a comment, past its break. -/
def Source.endLine? (s : Source) : Option Source :=
  match s.skipBlanks.skipComment with
  | [] => some []
  | p :: rest => if isBreak p.char then some rest else none

end Templating.Yaml
