import Templating.Decimal.Digits
import Templating.Yaml.Source

/-!
# The three ways to write a scalar

Plain scalars have no quotes and end where structure could begin, quoted ones end
with their quote, and block scalars are the lines below a header that are deep
enough. In all three the lines of a text are folded: one line break between two
words counts as a space, and each further one is kept.
-/
namespace Templating.Yaml

/-- White space after a word, kept until it is known whether another word follows. -/
inductive Gap where
  /-- Blanks on one line, in reverse. -/
  | blanks (taken : List Char)
  /-- A line break and those after it, in reverse. The first is missing if it was
  escaped. -/
  | breaks (first : Option Char) (more : List Char)
  deriving Inhabited

def Gap.none : Gap := .blanks []

def Gap.push : Gap → Char → Gap
  | .blanks taken, c => if isBreak c then .breaks (some c) [] else .blanks (c :: taken)
  | .breaks first more, c => if isBreak c then .breaks first (c :: more) else .breaks first more

/-- What a gap stands for between two words. -/
def Gap.text : Gap → List Char
  | .blanks taken => taken.reverse
  | .breaks (some '\n') [] => [' ']
  | .breaks (some '\n') more => more.reverse
  | .breaks (some c) more => c :: more.reverse
  | .breaks .none more => more.reverse

def Gap.isEmpty : Gap → Bool
  | .blanks taken => taken.isEmpty
  | .breaks _ _ => false

def Gap.isBroken : Gap → Bool
  | .blanks _ => false
  | .breaks _ _ => true

structure Scanned where
  text : String
  /-- Whether its end lies past a line break. -/
  broken : Bool := false
  rest : Source

def flowIndicators : List Char := [',', '[', ']', '\x7b', '\x7d']

/-- Whether a plain scalar ends here, in the middle of a word or before one. -/
def Source.endsPlain (s : Source) (inFlow : Bool) : Bool :=
  (s.at ':' && Source.atGap s.tail) || (inFlow && s.atOneOf flowIndicators)

/-- A plain scalar of which some is taken, in reverse. Between words it may end by the
indentation, a comment or a document marker; a tab may not stand for indentation. -/
def plainFrom (inFlow : Bool) (indent : Nat) (taken : List Char) (gap : Gap) :
    Source → Option Scanned
  | [] => some ⟨String.ofList taken.reverse, gap.isBroken, []⟩
  | p :: s =>
      let ended : Scanned := ⟨String.ofList taken.reverse, gap.isBroken, p :: s⟩
      if isBlank p.char || isBreak p.char then
        if gap.isBroken && p.char == '\t' && p.column < indent then none
        else plainFrom inFlow indent taken (gap.push p.char) s
      else if !gap.isEmpty && ((!inFlow && p.column < indent) || p.char == '#' ||
          Source.atDocumentMarker (p :: s)) then some ended
      else if inFlow && p.char == ':' && Source.atOneOf s ('?' :: flowIndicators) then none
      else if Source.endsPlain (p :: s) inFlow then some ended
      else plainFrom inFlow indent (p.char :: (gap.text.reverse ++ taken)) .none s

/-- A plain scalar in brackets or in a block whose content has the given least column. -/
def plain? (inFlow : Bool) (indent : Nat) (s : Source) : Option Scanned :=
  plainFrom inFlow indent [] .none s

/-- The rest of a scalar in single quotes, in which a quote is written twice. -/
def singleFrom (taken : List Char) (gap : Gap) : Source → Option Scanned
  | [] => none
  | p :: s =>
      if isBlank p.char || isBreak p.char then singleFrom taken (gap.push p.char) s
      else if Source.atDocumentMarker (p :: s) then none
      else
        let taken := gap.text.reverse ++ taken
        if p.char == '\'' then
          match s with
          | q :: r =>
              if q.char == '\'' then singleFrom ('\'' :: taken) .none r
              else some { text := String.ofList taken.reverse, rest := s }
          | [] => some { text := String.ofList taken.reverse, rest := [] }
        else singleFrom (p.char :: taken) .none s

/-- What a one-letter escape stands for. -/
def escapeOf? (c : Char) : Option Char :=
  match c with
  | '0' => some '\x00'
  | 'a' => some '\x07'
  | 'b' => some '\x08'
  | 't' | '\t' => some '\t'
  | 'n' => some '\n'
  | 'v' => some '\x0b'
  | 'f' => some '\x0c'
  | 'r' => some '\r'
  | 'e' => some '\x1b'
  | ' ' | '"' | '/' | '\\' => some c
  | 'N' => some '\u0085'
  | '_' => some '\u00a0'
  | 'L' => some '\u2028'
  | 'P' => some '\u2029'
  | _ => none

/-- How many hexadecimal digits follow the letter of a numeric escape. -/
def escapeDigits? (c : Char) : Option Nat :=
  match c with
  | 'x' => some 2
  | 'u' => some 4
  | 'U' => some 8
  | _ => none

/-- The character with the code point that hexadecimal digits spell. -/
def charOfHex? (digits : List Char) : Option Char := do
  let n ← digits.foldlM (fun n c => (Decimal.hexValue? c).map (16 * n + ·)) 0
  if h : n.isValidChar then some (Char.ofNatAux n h) else none

/-- The rest of a scalar in double quotes. A backslash joins the next line, or begins
an escape. -/
def doubleFrom (taken : List Char) (gap : Gap) : Source → Option Scanned
  | [] => none
  | p :: s =>
      if isBlank p.char || isBreak p.char then doubleFrom taken (gap.push p.char) s
      else if Source.atDocumentMarker (p :: s) then none
      else
        let taken := gap.text.reverse ++ taken
        if p.char == '"' then some { text := String.ofList taken.reverse, rest := s }
        else if p.char == '\\' then
          match s with
          | [] => none
          | q :: r =>
              if isBreak q.char then doubleFrom taken (.breaks .none []) r
              else match escapeDigits? q.char with
                | some n =>
                    if (r.take n).length < n then none
                    else match charOfHex? ((r.take n).map Spot.char) with
                      | some c => doubleFrom (c :: taken) .none (r.drop n)
                      | none => none
                | none => match escapeOf? q.char with
                    | some c => doubleFrom (c :: taken) .none r
                    | none => none
        else doubleFrom (p.char :: taken) .none s
termination_by s => s.length
decreasing_by all_goals simp only [List.length_cons, List.length_drop]; omega

inductive Chomp where
  | strip
  /-- The last line keeps its break. -/
  | clip
  | keep
  deriving DecidableEq, Repr

/-- The header of a block scalar: what follows `|` or `>` on its line. -/
structure Header where
  chomp : Chomp := .clip
  /-- How much deeper than its parent the scalar is, if that is said. -/
  depth : Option Nat := none

/-- The two marks of a header, each at most once, in either order. -/
def header? (s : Source) : Option (Header × Source) :=
  let chomp? (s : Source) : Option (Chomp × Source) :=
    if s.at '-' then some (.strip, s.tail)
    else if s.at '+' then some (.keep, s.tail)
    else none
  let depth? (s : Source) : Option (Nat × Source) :=
    if s.head?.any fun p => p.char.isDigit then
      s.head?.map fun p => (Decimal.digitValue p.char, s.tail)
    else none
  let (header, s) : Header × Source := match chomp? s with
    | some (c, r) => match depth? r with
        | some (n, r) => (⟨c, some n⟩, r)
        | none => (⟨c, none⟩, r)
    | none => match depth? s with
        | some (n, r) => match chomp? r with
            | some (c, r) => (⟨c, some n⟩, r)
            | none => (⟨.clip, some n⟩, r)
        | none => ({}, s)
  if header.depth = some 0 then none
  else s.endLine?.map fun s => (header, s)

/-- Passes over the empty lines at the start of a block scalar whose depth is not known.
Gives the column of its deepest line so far and their breaks in reverse. A tab may not
stand for indentation. -/
def leadingLines (deepest : Nat) (breaks : List Char) : Source → Option (Nat × List Char × Source)
  | [] => some (deepest, breaks, [])
  | p :: s =>
      let deepest := max deepest p.column
      if p.char == ' ' then leadingLines deepest breaks s
      else if p.char == '\t' then none
      else if isBreak p.char then leadingLines deepest (p.char :: breaks) s
      else some (deepest, breaks, p :: s)

/-- The lines of a block scalar that have been read. Everything is kept in reverse. -/
structure Lines where
  taken : List Char := []
  /-- The break of the last line with content. -/
  last : Option Char := none
  /-- The breaks of the empty lines after it. -/
  empty : List Char := []
  /-- Whether the last line with content begins with a blank. -/
  blank : Bool := false

/-- The lines when another begins with this character. Lines that begin with blanks are
not folded. -/
def Lines.begin (l : Lines) (folded : Bool) (c : Char) : Lines :=
  let joined :=
    if folded && l.last == some '\n' && !l.blank && !isBlank c then
      if l.empty.isEmpty then [' '] else l.empty
    else l.empty ++ l.last.toList
  { taken := c :: (joined ++ l.taken), blank := isBlank c }

/-- The text with the breaks at its end as the header wants them. -/
def Lines.text (l : Lines) (chomp : Chomp) : String :=
  let ending := match chomp with
    | .strip => []
    | .clip => l.last.toList
    | .keep => l.empty ++ l.last.toList
  String.ofList (ending ++ l.taken).reverse

/-- The rest of a block scalar at a known column, inside a line or before one. -/
def blockFrom (folded : Bool) (chomp : Chomp) (column : Nat) (inLine : Bool) (l : Lines) :
    Source → Option Scanned
  | [] => some { text := l.text chomp, rest := [] }
  | p :: s =>
      if inLine then
        if isBreak p.char then
          blockFrom folded chomp column false { l with last := some p.char, empty := [] } s
        else blockFrom folded chomp column true { l with taken := p.char :: l.taken } s
      else if isBreak p.char then
        blockFrom folded chomp column false { l with empty := p.char :: l.empty } s
      else if p.column < column then
        if p.char == ' ' then blockFrom folded chomp column false l s
        else if p.char == '\t' then none
        else some { text := l.text chomp, rest := p :: s }
      else blockFrom folded chomp column true (l.begin folded p.char) s

/-- A block scalar from its header on, below a parent whose content has the given least
column. Where the header does not say its depth, that is the depth of the first line. -/
def block? (folded : Bool) (parent : Option Nat) (s : Source) : Option Scanned := do
  let (h, s) ← header? s
  match h.depth with
  | some n => blockFrom folded h.chomp (parent.getD 0 + n) false {} s
  | none =>
      let (deepest, breaks, s) ← leadingLines 0 [] s
      let least := match parent with
        | some n => n + 1
        | none => 1
      blockFrom folded h.chomp (max deepest least) false { empty := breaks } s

end Templating.Yaml
