import Templating.Text.Alphabetic
import Templating.Text.LetterCase
import Templating.Text.Numeric

/-!
# Words run together or apart

Names are rewritten into the styles of identifiers and of titles. Words end at
characters that are neither letters nor numbers, and where capitals and small
letters meet. Only ASCII letters change their case.
-/
namespace Templating.Text

def isAlphanumeric (c : Char) : Bool := isAlphabetic c || isNumeric c

/-- The text without what follows its last letter or number. -/
def dropTail (s : List Char) : List Char :=
  (s.reverse.dropWhile fun c => !isAlphanumeric c).reverse

/-- Words with a separator between them, in capitals or in small letters. -/
structure SeparatedStyle where
  separator : Char
  capitals : Bool

def SeparatedStyle.snake : SeparatedStyle := ⟨'_', false⟩
def SeparatedStyle.kebab : SeparatedStyle := ⟨'-', false⟩
def SeparatedStyle.screaming : SeparatedStyle := ⟨'_', true⟩

/-- Whether the character with this number is a small letter; beyond the end of the
text there is none. -/
def smallAt (text : Array Char) (n : Nat) : Bool := (text[n]?.map isLowercase).getD false

/-- The characters from the byte offset `offset` on. A capital, or any character
without an ASCII small form of its own, starts a word if a small letter stands
next to it; its neighbours are those of the character whose number is the byte
offset. `fresh` says that no letter of the present word has been written. -/
def SeparatedStyle.write (style : SeparatedStyle) (text : Array Char) (offset : Nat)
    (fresh : Bool) : List Char → List Char
  | [] => []
  | c :: s =>
      let offset' := offset + c.utf8Size
      if !isAlphanumeric c then
        if fresh then style.write text offset' true s
        else style.separator :: style.write text offset' true s
      else
        let boundary := !fresh && c == c.toUpper &&
          (smallAt text (offset + 1) || smallAt text (offset - 1))
        let written := if style.capitals then c.toUpper else c.toLower
        let rest := written :: style.write text offset' false s
        if boundary then style.separator :: rest else rest

def SeparatedStyle.apply (style : SeparatedStyle) (s : List Char) : List Char :=
  style.write s.toArray 0 true (dropTail s)

/-- Words that begin with a capital, run together or with spaces between them. -/
structure CapitalizedStyle where
  /-- Whether the first word begins with a capital as well. -/
  firstCapital : Bool
  spaced : Bool
  /-- Whether a number ends the word that it stands in. -/
  numbersEndWords : Bool

def CapitalizedStyle.camel : CapitalizedStyle := ⟨false, false, true⟩
def CapitalizedStyle.pascal : CapitalizedStyle := ⟨true, false, true⟩
def CapitalizedStyle.title : CapitalizedStyle := ⟨true, true, false⟩

/-- What is known of the text so far: whether the next letter begins a word, whether
the first word is still to come, the last letter that was made small, and whether
there was any letter or number. -/
structure WordState where
  newWord : Bool
  firstWord : Bool
  last : Char := ' '
  found : Bool := false

def CapitalizedStyle.write (style : CapitalizedStyle) (st : WordState) :
    List Char → List Char
  | [] => []
  | c :: s =>
      if !isAlphanumeric c then
        style.write (if st.found then { st with newWord := true } else st) s
      else if isNumeric c && style.numbersEndWords then
        c :: style.write { st with found := true, newWord := true } s
      else if st.newWord || (isLowercase st.last && isUppercase c && st.last != ' ') then
        let rest := c.toUpper ::
          style.write { st with found := true, newWord := false, firstWord := false } s
        if style.spaced && !st.firstWord then ' ' :: rest else rest
      else c.toLower :: style.write { st with found := true, last := c } s

def CapitalizedStyle.apply (style : CapitalizedStyle) (s : List Char) : List Char :=
  style.write ⟨style.firstCapital, style.spaced, ' ', false⟩ (dropTail s)

/-- The styles of names that a text can be rewritten into. -/
inductive WordStyle where
  | snake | camel | pascal | kebab | title | screaming
  deriving DecidableEq, Repr

/-- A way to rewrite texts into each of the styles. -/
abbrev WordConversion := WordStyle → List Char → List Char

def WordStyle.convert : WordConversion
  | .snake => SeparatedStyle.snake.apply
  | .camel => CapitalizedStyle.camel.apply
  | .pascal => CapitalizedStyle.pascal.apply
  | .kebab => SeparatedStyle.kebab.apply
  | .title => CapitalizedStyle.title.apply
  | .screaming => SeparatedStyle.screaming.apply

end Templating.Text
