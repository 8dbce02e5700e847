import Templating.Command
import Templating.Segmentation
import Templating.Text.Pieces

/-!
# Dialects

A dialect fixes the two tags and the words of the template language. Any choice
of words is a `Wording`; a `Dialect` is a wording without flaws. The tags must
be told apart at every place of a text, and the words must be told apart from
each other and may hold no tag.
-/
namespace Templating
open Text

/-- The tags and words of a template language, checked or not. -/
structure Wording where
  beginTag : String := "[["
  endTag : String := "]]"
  ifWord : String := "if"
  elseWord : String := "else"
  endIfWord : String := "endif"
  ifExistsWord : String := "ifexists"
  elseExistsWord : String := "elseexists"
  endIfExistsWord : String := "endifexists"
  forWord : String := "for"
  endForWord : String := "endfor"
  templateWord : String := "template"
  endWord : String := "end"
  selfWord : String := "this"
  deriving DecidableEq, Repr, Inhabited

/-- Which command each keyword names. The general else shares the keyword of the
conditional one and is told from it by its lack of arguments. -/
def Wording.keywords (w : Wording) : List (String × CommandKind) :=
  [(w.ifWord, .opening (.choice .truth)),
   (w.elseWord, .otherwise .truth),
   (w.endIfWord, .closing (.choice .truth)),
   (w.ifExistsWord, .opening (.choice .presence)),
   (w.elseExistsWord, .otherwise .presence),
   (w.endIfExistsWord, .closing (.choice .presence)),
   (w.forWord, .opening .loop),
   (w.endForWord, .closing .loop),
   (w.templateWord, .subtemplate),
   (w.endWord, .anyEnd)]

/-- Every word that means something: the keywords and the self word. -/
def Wording.words (w : Wording) : List String :=
  w.keywords.map Prod.fst ++ [w.selfWord]

def Wording.tags (w : Wording) : Tags :=
  ⟨w.beginTag.toList, w.endTag.toList⟩

inductive WordingFlaw where
  | emptyTag
  | equalTags (tag : String)
  | nestedTags (beginTag endTag : String)
  | blankKeyword
  | keywordWithTag (keyword : String)
  | repeatedKeyword (keyword : String)
  deriving DecidableEq, Repr

def WordingFlaw.message : WordingFlaw → String
  | .emptyTag => "begin and end tags must not be empty"
  | .equalTags t => s!"begin and end tags are both '{t}'"
  | .nestedTags b e => s!"tags '{b}' and '{e}' must not be prefixes of each other"
  | .blankKeyword => "keywords must not be empty"
  | .keywordWithTag k => s!"keyword '{k}' contains a tag"
  | .repeatedKeyword k => s!"keyword '{k}' is used more than once"

/-- The first flaw of the tags. -/
def Wording.tagFlaw? (w : Wording) : Option WordingFlaw :=
  let b := w.beginTag.toList
  let e := w.endTag.toList
  if b.isEmpty || e.isEmpty then some .emptyTag
  else if b = e then some (.equalTags w.beginTag)
  else if b.isPrefixOf e || e.isPrefixOf b then some (.nestedTags w.beginTag w.endTag)
  else none

/-- The first flaw of a list of words that may hold neither tag. A repeated word is
found at its first occurrence. -/
def wordFlaw? (t : Tags) : List String → Option WordingFlaw
  | [] => none
  | k :: ks =>
      if allBlank k.toList then some .blankKeyword
      else if occurs t.opening k.toList || occurs t.closing k.toList then
        some (.keywordWithTag k)
      else if ks.contains k then some (.repeatedKeyword k)
      else wordFlaw? t ks

/-- The first flaw of a wording, the tags before the words. -/
def Wording.flaw? (w : Wording) : Option WordingFlaw :=
  w.tagFlaw?.or (wordFlaw? w.tags w.words)

/-- A wording that can be used. -/
structure Dialect where
  wording : Wording
  flawless : wording.flaw? = none

/-- The dialect of a wording, or what is wrong with it. -/
def Wording.build (w : Wording) : Except WordingFlaw Dialect :=
  match h : w.flaw? with
  | some flaw => .error flaw
  | none => .ok ⟨w, h⟩

/-- Double square brackets and plain English keywords. -/
def Dialect.standard : Dialect :=
  ⟨{}, by decide +kernel⟩

instance : Inhabited Dialect := ⟨Dialect.standard⟩

def Dialect.tags (d : Dialect) : Tags := d.wording.tags

/-- The command that a name stands for. -/
def Dialect.kind? (d : Dialect) (name : String) : Option CommandKind :=
  (d.wording.keywords.find? fun k => k.1 == name).map Prod.snd

/-- The keyword of a kind of command, for the kinds that have one. -/
def Dialect.keyword? (d : Dialect) (kind : CommandKind) : Option String :=
  (d.wording.keywords.find? fun k => k.2 == kind).map Prod.fst

end Templating
