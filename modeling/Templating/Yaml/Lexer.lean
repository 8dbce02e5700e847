import Templating.Yaml.Scalar
import Templating.Yaml.Token

/-!
# From characters to tokens

Most tokens are told by their first characters. Two things depend on what was read
before. Deeper or shallower columns open and close block collections, so the
columns of the open ones are kept. And a key is known only by the colon after it,
so the place of a possible key is kept for every bracket, and its tokens are put in
there when the colon comes.
-/
namespace Templating.Yaml

/-- A place where a key may have begun: its token, and whether the block cannot go on
unless it turns out to be one. -/
structure KeyPlace where
  token : Nat
  spot : Spot
  required : Bool
  deriving Inhabited

structure Lexer where
  rest : Source
  tokens : Array Token := #[]
  /-- The columns of the open block collections, the innermost first. -/
  columns : List Nat := []
  /-- Whether a key may begin here without a mark. -/
  keyAllowed : Bool := true
  /-- The possible key inside the innermost bracket, or outside of all. -/
  keyPlace : Option KeyPlace := none
  /-- The possible keys outside of each open bracket, the innermost first. -/
  outer : List (Option KeyPlace) := []
  deriving Inhabited

namespace Lexer

def inFlow (l : Lexer) : Bool := !l.outer.isEmpty

def emit (l : Lexer) (t : Token) : Lexer := { l with tokens := l.tokens.push t }

/-- The lexer past `n` characters, with a token for them. -/
def take (l : Lexer) (n : Nat) (t : Token) : Lexer :=
  { l.emit t with rest := l.rest.drop n }

/-- The least column of text that continues the innermost block collection. -/
def leastColumn (l : Lexer) : Nat :=
  match l.columns with
  | [] => 0
  | c :: _ => c + 1

/-- Forgets the possible key of the innermost bracket, unless it is required. -/
def dropKey (l : Lexer) : Option Lexer :=
  match l.keyPlace with
  | some k => if k.required then none else some { l with keyPlace := none }
  | none => some l

/-- Notes that a key may begin at the next token. -/
def markKey (l : Lexer) : Option Lexer :=
  match l.rest with
  | p :: _ =>
      if l.keyAllowed then do
        let required := !l.inFlow && l.columns.head? == some p.column
        let l ← l.dropKey
        some { l with keyPlace := some ⟨l.tokens.size, p, required⟩ }
      else some l
  | [] => some l

/-- A key ends on its line and within 1024 characters. -/
def KeyPlace.isStale (k : KeyPlace) (p : Spot) : Bool :=
  k.spot.line < p.line || k.spot.index + 1024 < p.index

/-- Forgets the possible keys that have become too long for this place. -/
def dropStale (l : Lexer) (p : Spot) : Option Lexer := do
  let check : Option KeyPlace → Option (Option KeyPlace)
    | some k => if KeyPlace.isStale k p then if k.required then none else some none else some (some k)
    | none => some none
  some { l with keyPlace := ← check l.keyPlace, outer := ← l.outer.mapM check }

/-- Closes the block collections that are deeper than a column. -/
def closeDeeper (l : Lexer) (column : Nat) : Lexer :=
  if l.inFlow then l
  else
    let deeper := l.columns.takeWhile (column < ·)
    { l with
      columns := l.columns.dropWhile (column < ·)
      tokens := l.tokens ++ deeper.map fun _ => Token.blockEnd }

def closeAll (l : Lexer) : Lexer :=
  if l.inFlow then l
  else
    { l with columns := [], tokens := l.tokens ++ l.columns.map fun _ => Token.blockEnd }

/-- Opens a block collection at a column, if none is open there or deeper. Its token goes
to the given place among the tokens. -/
def openBlock (l : Lexer) (column place : Nat) (t : Token) : Lexer :=
  if l.inFlow || l.columns.any (column ≤ ·) then l
  else
    { l with columns := column :: l.columns, tokens := l.tokens.insertIdxIfInBounds place t }

/-- Passes over blanks, comments and line breaks. After a line break a key may begin.
Tabs may stand only where they cannot be indentation. -/
def skipSpace (inFlow : Bool) (keyAllowed inComment : Bool) : Source → Source × Bool
  | [] => ([], keyAllowed)
  | p :: s =>
      if isBreak p.char then skipSpace inFlow (keyAllowed || !inFlow) false s
      else if inComment then skipSpace inFlow keyAllowed true s
      else if p.char == ' ' || (p.char == '\t' && (inFlow || !keyAllowed)) then
        skipSpace inFlow keyAllowed false s
      else if p.char == '#' then skipSpace inFlow keyAllowed true s
      else (p :: s, keyAllowed)

/-- A token that stands between documents. -/
def atMargin (l : Lexer) (t : Token) (rest : Source) : Option Lexer := do
  let l ← l.closeAll.dropKey
  some { l.emit t with rest, keyAllowed := false }

def openBracket (l : Lexer) (t : Token) : Option Lexer := do
  let l ← l.markKey
  some { l.take 1 t with keyAllowed := true, keyPlace := none, outer := l.keyPlace :: l.outer }

def closeBracket (l : Lexer) (t : Token) : Option Lexer := do
  let l ← l.dropKey
  some { l.take 1 t with
    keyAllowed := false
    keyPlace := l.outer.head?.getD l.keyPlace
    outer := l.outer.tail }

/-- The mark of an item or an explicit key, which opens a block collection at its
column. -/
def mark (l : Lexer) (p : Spot) (collection t : Token) (keyAllowed : Bool) : Option Lexer := do
  if !l.inFlow && !l.keyAllowed then none
  else
    let l ← (l.openBlock p.column l.tokens.size collection).dropKey
    some { l.take 1 t with keyAllowed }

/-- The colon after a key. If a place for the key is known, the key's tokens are put in
there; otherwise the key was marked, or is missing. -/
def colon (l : Lexer) (p : Spot) : Option Lexer :=
  match l.keyPlace with
  | some k =>
      let l := { l with tokens := l.tokens.insertIdxIfInBounds k.token .key, keyPlace := none }
      some { (l.openBlock k.spot.column k.token .blockMapping).take 1 .value with keyAllowed := false }
  | none =>
      if !l.inFlow && !l.keyAllowed then none
      else
        let l := l.openBlock p.column l.tokens.size .blockMapping
        some { l.take 1 .value with keyAllowed := !l.inFlow }

def anchored (l : Lexer) (make : String → Token) : Option Lexer := do
  let l ← l.markKey
  let (name, rest) ← anchorName? l.rest.tail
  some { l.emit (make name) with rest, keyAllowed := false }

def tagged (l : Lexer) : Option Lexer := do
  let l ← l.markKey
  let (t, rest) ← tag? l.rest
  if rest.atGap || (l.inFlow && rest.at ',') then
    some { l.emit (.tag t) with rest, keyAllowed := false }
  else none

def quoted (l : Lexer) (read : Source → Option Scanned) : Option Lexer := do
  let l ← l.markKey
  let r ← read l.rest.tail
  some { l.emit (.scalar false r.text) with rest := r.rest, keyAllowed := false }

def plain (l : Lexer) : Option Lexer := do
  let l ← l.markKey
  let r ← plain? l.inFlow l.leastColumn l.rest
  some { l.emit (.scalar true r.text) with rest := r.rest, keyAllowed := r.broken }

def block (l : Lexer) (folded : Bool) : Option Lexer := do
  let l ← l.dropKey
  let r ← block? folded l.columns.head? l.rest.tail
  some { l.emit (.scalar false r.text) with rest := r.rest, keyAllowed := true }

/-- Whether a plain scalar can begin here. A mark begins one where it is no mark. -/
def beginsPlain (l : Lexer) (p : Spot) (s : Source) : Bool :=
  let marks := ['-', '?', ':', ',', '[', ']', '\x7b', '\x7d', '#', '&', '*', '!', '|', '>', '\'',
    '"', '%', '@', '\x60']
  !(isBlank p.char || marks.contains p.char) ||
    (p.char == '-' && !s.head?.any fun q => isBlank q.char) ||
    (!l.inFlow && (p.char == '?' || p.char == ':') && !s.atGap)

/-- Reads the token that begins at the first character. -/
def token (l : Lexer) (p : Spot) (s : Source) : Option Lexer :=
  let marked := l.inFlow || s.atGap
  if p.column == 0 && p.char == '%' then do
    let (t, rest) ← directive? s
    l.atMargin t rest
  else if Source.atMarker (p :: s) '-' then l.atMargin .documentStart (s.drop 2)
  else if Source.atMarker (p :: s) '.' then l.atMargin .documentEnd (s.drop 2)
  else match p.char with
    | '[' => l.openBracket .flowSequence
    | '\x7b' => l.openBracket .flowMapping
    | ']' => l.closeBracket .flowSequenceEnd
    | '\x7d' => l.closeBracket .flowMappingEnd
    | ',' => l.dropKey.map fun l => { l.take 1 .comma with keyAllowed := true }
    | '*' => l.anchored .alias
    | '&' => l.anchored .anchor
    | '!' => l.tagged
    | '\'' => l.quoted (singleFrom [] .none)
    | '"' => l.quoted (doubleFrom [] .none)
    | c =>
        if c == '-' && s.atGap then l.mark p .blockSequence .item true
        else if c == '?' && marked then l.mark p .blockMapping .key (!l.inFlow)
        else if c == ':' && marked then l.colon p
        else if (c == '|' || c == '>') && !l.inFlow then l.block (c == '>')
        else if l.beginsPlain p s then l.plain
        else none

/-- Reads tokens until the end of the text. Each turn takes at least one character, so
as many turns as there are characters are enough. -/
def run : Nat → Lexer → Option Lexer
  | 0, _ => none
  | turns + 1, l => do
      let (rest, keyAllowed) := skipSpace l.inFlow l.keyAllowed false l.rest
      let l := { l with rest, keyAllowed }
      match rest with
      | [] => l.closeAll.dropKey
      | p :: s =>
          let l ← l.dropStale p
          let l ← (l.closeDeeper p.column).token p s
          l.run turns

end Lexer

def tokens? (text : String) : Option (List Token) := do
  let s ← source? text
  let l ← Lexer.run (s.length + 1) { rest := s }
  some l.tokens.toList

end Templating.Yaml
