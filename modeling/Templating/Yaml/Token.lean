import Templating.Decimal.Digits
import Templating.Yaml.Source

/-!
# Tokens of YAML text

Brackets, commas and marks are tokens as they are written. Structure that is
written by indentation has tokens too: a block collection begins and ends with
one, and a key has a token of its own before it. This module holds the tokens and
reads those that are names: anchors, tags and directives.
-/
namespace Templating.Yaml

/-- A tag as it is written: a handle that stands for the beginning of a longer name, and
the end of it. A tag without a handle is the whole name. -/
structure Tag where
  handle : String
  suffix : String
  deriving DecidableEq, Repr, Inhabited

inductive Token where
  | version (major minor : Nat)
  /-- What a handle stands for in the tags of the document. -/
  | handle (handle beginning : String)
  | documentStart
  | documentEnd
  | blockSequence
  | blockMapping
  /-- The end of a block collection. -/
  | blockEnd
  | flowSequence
  | flowSequenceEnd
  | flowMapping
  | flowMappingEnd
  /-- The mark of an item of a block sequence. -/
  | item
  | comma
  | key
  | value
  | alias (name : String)
  | anchor (name : String)
  | tag (t : Tag)
  | scalar (plain : Bool) (text : String)
  deriving DecidableEq, Repr, Inhabited

/-- The name of an anchor or alias, after its mark. It is followed by a gap or by a
character that can end it. -/
def anchorName? (s : Source) : Option (String × Source) :=
  let (name, rest) := s.span isNameChar
  if name.isEmpty then none
  else if rest.atGap || rest.atOneOf ['?', ':', ',', ']', '\x7d', '%', '@', '\x60'] then
    some (String.ofList name, rest)
  else none

/-- The characters of tags. Inside angle brackets commas and square brackets are too. -/
def isTagChar (bracketed : Bool) (c : Char) : Bool :=
  isNameChar c || [';', '/', '?', ':', '@', '&', '=', '+', '$', '.', '%', '!', '~', '*', '\'',
    '(', ')'].contains c || (bracketed && [',', '[', ']'].contains c)

/-- How many octets follow the first one of an encoded character. -/
def octetsAfter? (n : Nat) : Option Nat :=
  if n < 0x80 then some 0
  else if 0xC0 ≤ n && n < 0xE0 then some 1
  else if 0xE0 ≤ n && n < 0xF0 then some 2
  else if 0xF0 ≤ n && n < 0xF8 then some 3
  else none

/-- The rest of a tag's name, with what is taken in reverse. An octet may be written by
a percent sign and its two digits; `due` octets are missing from the character under
way. Since tags are compared with plain names only, an octet stands for the character
of its number. -/
def tagNameFrom (bracketed : Bool) (taken : List Char) (due : Nat) :
    Source → Option (List Char × Source)
  | [] => if due = 0 then some (taken.reverse, []) else none
  | p :: s =>
      if p.char == '%' then
        match s with
        | q :: r :: rest => do
            let n := 16 * (← Decimal.hexValue? q.char) + (← Decimal.hexValue? r.char)
            let due ←
              if due = 0 then octetsAfter? n
              else if 0x80 ≤ n && n < 0xC0 then some (due - 1)
              else none
            tagNameFrom bracketed (Char.ofNat n :: taken) due rest
        | _ => none
      else if due ≠ 0 then none
      else if isTagChar bracketed p.char then tagNameFrom bracketed (p.char :: taken) 0 s
      else some (taken.reverse, p :: s)

/-- The name of a tag, which is not empty. -/
def tagName? (bracketed : Bool) (s : Source) : Option (List Char × Source) :=
  match tagNameFrom bracketed [] 0 s with
  | some ([], _) => none
  | r => r

/-- What begins with an exclamation mark: letters, and perhaps another such mark. -/
def handle? (s : Source) : Option (List Char × Source) :=
  if s.at '!' then
    let (name, rest) := Source.span isNameChar s.tail
    some (if rest.at '!' then ('!' :: name ++ ['!'], rest.tail) else ('!' :: name, rest))
  else none

/-- A tag. What looks like a handle without its second mark is the beginning of the
suffix of the shortest handle, and that handle alone is a tag by itself. -/
def tag? (s : Source) : Option (Tag × Source) :=
  if Source.at s.tail '<' then do
    let (name, rest) ← tagName? true s.tail.tail
    if rest.at '>' then some (⟨"", String.ofList name⟩, rest.tail) else none
  else do
    let (handle, rest) ← handle? s
    if handle.length > 1 && handle.getLast? == some '!' then
      let (name, rest) ← tagName? false rest
      some (⟨String.ofList handle, String.ofList name⟩, rest)
    else
      let (name, rest) ← tagNameFrom false handle.tail.reverse 0 rest
      if name.isEmpty then some (⟨"", "!"⟩, rest) else some (⟨"!", String.ofList name⟩, rest)

/-- A part of a version number, of at most nine digits. -/
def versionPart? (s : Source) : Option (Nat × Source) :=
  let (ds, rest) := s.span Char.isDigit
  if ds.isEmpty || ds.length > 9 then none else some (Decimal.ofDigits ds, rest)

/-- A directive after its percent sign, with the line it ends. -/
def directive? (s : Source) : Option (Token × Source) := do
  let (name, rest) := s.span isNameChar
  if !rest.atGap then none
  else if name = "YAML".toList then
    let (major, rest) ← versionPart? rest.skipBlanks
    if !rest.at '.' then none
    else
      let (minor, rest) ← versionPart? rest.tail
      let rest ← rest.endLine?
      some (.version major minor, rest)
  else if name = "TAG".toList then
    let (handle, rest) ← handle? rest.skipBlanks
    if handle.length > 1 && handle.getLast? != some '!' then none
    else if !rest.head?.any fun p => isBlank p.char then none
    else
      let (beginning, rest) ← tagName? true rest.skipBlanks
      if !rest.atGap then none
      else
        let rest ← rest.endLine?
        some (.handle (String.ofList handle) (String.ofList beginning), rest)
  else none

end Templating.Yaml
