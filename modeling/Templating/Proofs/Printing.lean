import Templating.Proofs.CallSyntax
import Templating.Proofs.Parsing

/-!
# Writing templates and reading them back

A document is what the author of a template has in mind: literal texts, fields,
blocks and subtemplates. Printing writes it in the tags and words of a wording,
and at every block the else and end commands are written with the block's path or
in general form, as the document says.

`parse_print` says that parsing the text gives the document back: one node for
each piece, with the same branches, texts, names and paths. Only the self keyword
is replaced by the token that stands for it. The texts, names and paths must be
such that neither the tags nor the punctuation of calls can be mistaken in them.
-/
namespace Templating
open Text

/-- How the else or end command of a block is written: with its path, or for
whatever block is open. -/
inductive Form where
  | named
  | general
  deriving DecidableEq, Repr

/-- A piece of a document. -/
inductive Piece where
  | literal (text : String)
  | field (path : String) (format : Option String)
  | choice (kind : Choice) (path : String) (body : List Piece) (ending : Form)
  | branches (kind : Choice) (path : String) (body alternative : List Piece)
      (parting ending : Form)
  | loop (path : String) (body : List Piece) (ending : Form)
  | subtemplate (name path : String)

def Stretch.call (word : String) (arguments : List String) : Stretch :=
  ⟨true, Call.write word.toList (arguments.map String.toList)⟩

/-- The text of stretches in a row, with the tags around commands. -/
def Tags.write (t : Tags) : List Stretch → List Char
  | [] => []
  | c :: cs => (if c.isCommand then t.opening ++ c.text ++ t.closing else c.text) ++ t.write cs

namespace Wording
variable (w : Wording)

def openingWord : BlockKind → String
  | .choice .truth => w.ifWord
  | .choice .presence => w.ifExistsWord
  | .loop => w.forWord

def partingWord : Choice → String
  | .truth => w.elseWord
  | .presence => w.elseExistsWord

def endingWord : BlockKind → String
  | .choice .truth => w.endIfWord
  | .choice .presence => w.endIfExistsWord
  | .loop => w.endForWord

def opening (b : BlockKind) (path : String) : Stretch := .call (w.openingWord b) [path]

def parting (k : Choice) (path : String) : Form → Stretch
  | .named => .call (w.partingWord k) [path]
  | .general => .call w.elseWord []

def ending (b : BlockKind) (path : String) : Form → Stretch
  | .named => .call (w.endingWord b) [path]
  | .general => .call w.endWord []

end Wording

mutual

/-- The stretches of a piece. -/
def Piece.stretches (w : Wording) : Piece → List Stretch
  | .literal text => [⟨false, text.toList⟩]
  | .field path none => [⟨true, path.toList⟩]
  | .field path (some format) => [⟨true, path.toList ++ ':' :: format.toList⟩]
  | .choice k path body e =>
      w.opening (.choice k) path :: (Piece.stretchesAll w body ++ [w.ending (.choice k) path e])
  | .branches k path body alternative d e =>
      w.opening (.choice k) path :: (Piece.stretchesAll w body ++ w.parting k path d ::
        (Piece.stretchesAll w alternative ++ [w.ending (.choice k) path e]))
  | .loop path body e =>
      w.opening .loop path :: (Piece.stretchesAll w body ++ [w.ending .loop path e])
  | .subtemplate name path => [.call w.templateWord [name, path]]

def Piece.stretchesAll (w : Wording) : List Piece → List Stretch
  | [] => []
  | p :: ps => p.stretches w ++ Piece.stretchesAll w ps

end

/-- The text of a document under a wording. -/
def Wording.print (w : Wording) (document : List Piece) : String :=
  String.ofList (w.tags.write (Piece.stretchesAll w document))

/-- A path or the name of a subtemplate that stands out from calls, formats and tags. -/
structure Tags.IsName (t : Tags) (s : String) : Prop where
  ne_nil : s.toList ≠ []
  plain : ∀ c ∈ s.toList, isBlank c = false ∧ c ≠ '(' ∧ c ≠ ',' ∧ c ≠ ':'
  spared : t.Spares s.toList

/-- A keyword that a call can begin with, or a format that a field can end with. -/
structure Tags.IsWord (t : Tags) (s : String) : Prop where
  no_parenthesis : '(' ∉ s.toList
  trimmed : trim s.toList = s.toList
  spared : t.Spares s.toList

instance (t : Tags) (s : List Char) : Decidable (t.Spares s) := List.decidableBAll _ s

instance (t : Tags) (s : String) : Decidable (t.IsName s) :=
  -- the characters of the name are looked at, not all there are
  have : Decidable (∀ c ∈ s.toList, isBlank c = false ∧ c ≠ '(' ∧ c ≠ ',' ∧ c ≠ ':') :=
    List.decidableBAll _ s.toList
  decidable_of_iff (_ ∧ _ ∧ _) ⟨fun ⟨hn, hp, hs⟩ => ⟨hn, hp, hs⟩, fun ⟨hn, hp, hs⟩ => ⟨hn, hp, hs⟩⟩

instance (t : Tags) (s : String) : Decidable (t.IsWord s) :=
  decidable_of_iff (_ ∧ _ ∧ _) ⟨fun ⟨hp, ht, hs⟩ => ⟨hp, ht, hs⟩, fun ⟨hp, ht, hs⟩ => ⟨hp, ht, hs⟩⟩

/-- Keywords and punctuation that stand out from the tags. -/
structure Wording.Printable (w : Wording) : Prop where
  keywords : ∀ k ∈ w.keywords, w.tags.IsWord k.1
  punctuation : w.tags.Spares ['(', ')', ',', ':']

instance (w : Wording) : Decidable w.Printable :=
  decidable_of_iff (_ ∧ _) ⟨fun ⟨hk, hp⟩ => ⟨hk, hp⟩, fun ⟨hk, hp⟩ => ⟨hk, hp⟩⟩

/-- Documents whose text can be read back. Literal texts are not empty, and those of
one scope are not adjacent. -/
inductive Piece.Printable (t : Tags) : List Piece → Prop
  | nil : Printable t []
  | literal {s : String} {rest : List Piece} : s.toList ≠ [] → t.Spares s.toList →
      (∀ s', rest.head? ≠ some (.literal s')) → Printable t rest →
      Printable t (.literal s :: rest)
  | field {p : String} {format : Option String} {rest : List Piece} : t.IsName p →
      (∀ f ∈ format, t.IsWord f) → Printable t rest → Printable t (.field p format :: rest)
  | choice {k : Choice} {p : String} {body rest : List Piece} {e : Form} : t.IsName p →
      Printable t body → Printable t rest → Printable t (.choice k p body e :: rest)
  | branches {k : Choice} {p : String} {body alternative rest : List Piece} {d e : Form} :
      t.IsName p → Printable t body → Printable t alternative → Printable t rest →
      Printable t (.branches k p body alternative d e :: rest)
  | loop {p : String} {body rest : List Piece} {e : Form} : t.IsName p →
      Printable t body → Printable t rest → Printable t (.loop p body e :: rest)
  | subtemplate {n p : String} {rest : List Piece} : t.IsName n → t.IsName p →
      Printable t rest → Printable t (.subtemplate n p :: rest)

/-- A path with the self word, as its first name, replaced by the token for it. -/
inductive SelfRewritten (word : String) : String → String → Prop
  | whole : SelfRewritten word word "@self"
  | below (rest : String) : SelfRewritten word (word ++ "." ++ rest) ("@self." ++ rest)
  | other {path : String} : path ≠ word → (∀ rest, path ≠ word ++ "." ++ rest) →
      SelfRewritten word path path

/-- The nodes that stand for the pieces of a document, up to the sentences from which
their commands were read. -/
inductive Piece.Becomes (w : Wording) : List Piece → Forest → Prop
  | nil : Becomes w [] []
  | literal (s : String) (place : Position) {ps : List Piece} {ns : Forest} :
      Becomes w ps ns →
      Becomes w (.literal s :: ps) (.leaf ⟨⟨s, false, place⟩, .literal⟩ :: ns)
  | field (s : Sentence) {p q : String} {ps : List Piece} {ns : Forest} :
      SelfRewritten w.selfWord p q → Becomes w ps ns →
      Becomes w (.field p none :: ps) (.leaf ⟨s, .field q⟩ :: ns)
  | formatted (s : Sentence) {p q f : String} {ps : List Piece} {ns : Forest} :
      SelfRewritten w.selfWord p q → Becomes w ps ns →
      Becomes w (.field p (some f) :: ps) (.leaf ⟨s, .field (q ++ ":" ++ f)⟩ :: ns)
  | choice (s : Sentence) {k : Choice} {p q : String} {body ps : List Piece} {e : Form}
      {bs ns : Forest} :
      SelfRewritten w.selfWord p q → Becomes w body bs → Becomes w ps ns →
      Becomes w (.choice k p body e :: ps)
        (.block ⟨s, .opening (.choice k) q⟩ bs none :: ns)
  | branches (s : Sentence) {k : Choice} {p q : String} {body alternative ps : List Piece}
      {d e : Form} {bs as ns : Forest} :
      SelfRewritten w.selfWord p q → Becomes w body bs → Becomes w alternative as →
      Becomes w ps ns →
      Becomes w (.branches k p body alternative d e :: ps)
        (.block ⟨s, .opening (.choice k) q⟩ bs (some as) :: ns)
  | loop (s : Sentence) {p q : String} {body ps : List Piece} {e : Form} {bs ns : Forest} :
      SelfRewritten w.selfWord p q → Becomes w body bs → Becomes w ps ns →
      Becomes w (.loop p body e :: ps) (.block ⟨s, .opening .loop q⟩ bs none :: ns)
  | subtemplate (s : Sentence) {n p q : String} {ps : List Piece} {ns : Forest} :
      SelfRewritten w.selfWord p q → Becomes w ps ns →
      Becomes w (.subtemplate n p :: ps) (.leaf ⟨s, .subtemplate n q⟩ :: ns)

/-- Stretches that cutting their text gives back: none is empty or holds a character
of a tag, and no two literal ones are adjacent. -/
inductive Tags.Cuttable (t : Tags) : List Stretch → Prop
  | nil : Cuttable t []
  | command {s : List Char} {rest : List Stretch} : s ≠ [] → t.Spares s → Cuttable t rest →
      Cuttable t (⟨true, s⟩ :: rest)
  | literal {s : List Char} {rest : List Stretch} : s ≠ [] → t.Spares s →
      (∀ c ∈ rest.head?, c.isCommand = true) → Cuttable t rest →
      Cuttable t (⟨false, s⟩ :: rest)

namespace Tags
variable {t : Tags}

theorem marks_write_command (hs : t.Sound) {s : List Char} (h : t.Spares s)
    (rest : List Stretch) :
    t.marks 0 (t.write (⟨true, s⟩ :: rest)) =
      .opening :: (s.map .letter ++ .closing :: t.marks 0 (t.write rest)) := by
  rw [write, if_pos rfl, List.append_assoc, List.append_assoc, hs.marks_opening,
    marks_letters hs h, hs.marks_closing]

theorem marks_write_literal (hs : t.Sound) {s : List Char} (h : t.Spares s)
    (rest : List Stretch) :
    t.marks 0 (t.write (⟨false, s⟩ :: rest)) = s.map .letter ++ t.marks 0 (t.write rest) := by
  rw [write, if_neg (by simp), marks_letters hs h]

theorem head?_marks_write (hs : t.Sound) {cs : List Stretch} (h : t.Cuttable cs)
    (hc : ∀ c ∈ cs.head?, c.isCommand = true) (x : Char) :
    (t.marks 0 (t.write cs)).head? ≠ some (.letter x) := by
  cases h with
  | nil => simp [write]
  | command hne hsp _ =>
      rw [marks_write_command hs hsp]
      simp
  | literal => simp at hc

/-- Cutting the text of stretches gives them back. -/
theorem stretches_write (hs : t.Sound) {cs : List Stretch} (h : t.Cuttable cs) :
    Mark.stretches [] false (t.marks 0 (t.write cs)) = some cs := by
  induction h with
  | nil => rfl
  | @command s rest hne hsp _ ih =>
      rw [marks_write_command hs hsp, Mark.stretches, Mark.stretches_letters, Mark.stretches, ih]
      simp [Stretch.ofHeld_of_ne_nil hne]
  | @literal s rest hne hsp hnext hrest ih =>
      rw [marks_write_literal hs hsp, Mark.stretches_letters,
        Mark.stretches_flush _ (head?_marks_write hs hrest hnext), ih]
      simp [Stretch.ofHeld_of_ne_nil hne]

end Tags

namespace Wording
variable (w : Wording)

theorem openingWord_mem (b : BlockKind) : (w.openingWord b, .opening b) ∈ w.keywords := by
  rcases b with (_ | _) | _ <;> simp [keywords, openingWord]

theorem partingWord_mem (k : Choice) : (w.partingWord k, .otherwise k) ∈ w.keywords := by
  cases k <;> simp [keywords, partingWord]

theorem endingWord_mem (b : BlockKind) : (w.endingWord b, .closing b) ∈ w.keywords := by
  rcases b with (_ | _) | _ <;> simp [keywords, endingWord]

theorem elseWord_mem : (w.elseWord, .otherwise .truth) ∈ w.keywords := w.partingWord_mem .truth

theorem isCommand_ending (b : BlockKind) (p : String) (e : Form) :
    (w.ending b p e).isCommand = true := by
  cases e <;> rfl

theorem isCommand_parting (k : Choice) (p : String) (d : Form) :
    (w.parting k p d).isCommand = true := by
  cases d <;> rfl

theorem endWord_mem : (w.endWord, .anyEnd) ∈ w.keywords := by simp [keywords]

theorem templateWord_mem : (w.templateWord, .subtemplate) ∈ w.keywords := by simp [keywords]

end Wording

namespace Tags
variable {t : Tags}

theorem spares_append {a b : List Char} : t.Spares (a ++ b) ↔ t.Spares a ∧ t.Spares b :=
  List.forall_mem_append

theorem spares_cons {c : Char} {s : List Char} : t.Spares (c :: s) ↔ t.Spares [c] ∧ t.Spares s :=
  spares_append (a := [c])

theorem spares_joinWith {c : Char} (hc : t.Spares [c]) {ps : List (List Char)}
    (h : ∀ p ∈ ps, t.Spares p) : t.Spares (joinWith c ps) := by
  induction ps with
  | nil => simp [joinWith, Spares]
  | cons p ps ih =>
      obtain ⟨hp, hps⟩ := List.forall_mem_cons.mp h
      cases ps with
      | nil => exact hp
      | cons q ps => exact spares_append.mpr ⟨hp, spares_cons.mpr ⟨hc, ih hps⟩⟩

theorem IsName.trimmed {p : String} (h : t.IsName p) : trim p.toList = p.toList :=
  trim_of_not_isBlank fun c hc => (h.plain c hc).1

theorem IsName.not_mem {p : String} (h : t.IsName p) :
    '(' ∉ p.toList ∧ ',' ∉ p.toList ∧ ':' ∉ p.toList :=
  ⟨fun hm => (h.plain _ hm).2.1 rfl, fun hm => (h.plain _ hm).2.2.1 rfl,
    fun hm => (h.plain _ hm).2.2.2 rfl⟩

theorem IsName.arguments {names : List String} (h : ∀ a ∈ names, t.IsName a) :
    ∀ a ∈ names.map String.toList, a ≠ [] ∧ ',' ∉ a ∧ trim a = a ∧ t.Spares a := by
  intro a ha
  obtain ⟨n, hn, rfl⟩ := List.mem_map.mp ha
  exact ⟨(h n hn).ne_nil, (h n hn).not_mem.2.1, (h n hn).trimmed, (h n hn).spared⟩

end Tags

theorem Piece.head?_stretchesAll {w : Wording} {ps : List Piece} {rest : List Stretch}
    (hps : ∀ s, ps.head? ≠ some (.literal s)) (hr : ∀ c ∈ rest.head?, c.isCommand = true) :
    ∀ c ∈ (Piece.stretchesAll w ps ++ rest).head?, c.isCommand = true := by
  cases ps with
  | nil => exact hr
  | cons p ps =>
      rw [Piece.stretchesAll]
      cases p with
      | literal s => exact (hps s rfl).elim
      | field path format => cases format <;> simp [Piece.stretches]
      | choice => simp [Piece.stretches, Wording.opening, Stretch.call]
      | branches => simp [Piece.stretches, Wording.opening, Stretch.call]
      | loop => simp [Piece.stretches, Wording.opening, Stretch.call]
      | subtemplate => simp [Piece.stretches, Stretch.call]

section
open Tags
variable {w : Wording} (hw : w.Printable)
include hw

theorem Tags.Cuttable.call {k : String} {kind : CommandKind} (hk : (k, kind) ∈ w.keywords)
    {names : List String} (hn : ∀ a ∈ names, w.tags.IsName a) {rest : List Stretch}
    (h : w.tags.Cuttable rest) : w.tags.Cuttable (.call k names :: rest) := by
  have hp := hw.punctuation
  have hparen : w.tags.Spares ['('] := fun c hc => hp c (by simp_all)
  have hclose : w.tags.Spares [')'] := fun c hc => hp c (by simp_all)
  have hcomma : w.tags.Spares [','] := fun c hc => hp c (by simp_all)
  have hargs := spares_joinWith hcomma fun a ha => (IsName.arguments hn a ha).2.2.2
  refine .command (by simp [Call.write]) ?_ h
  exact spares_append.mpr ⟨(hw.keywords _ hk).spared,
    spares_cons.mpr ⟨hparen, spares_append.mpr ⟨hargs, hclose⟩⟩⟩

theorem Tags.Cuttable.ending {p : String} (hp : w.tags.IsName p) (b : BlockKind) (e : Form)
    {rest : List Stretch} (h : w.tags.Cuttable rest) :
    w.tags.Cuttable (w.ending b p e :: rest) := by
  cases e with
  | named => exact .call hw (w.endingWord_mem b) (by simpa using hp) h
  | general => exact .call hw w.endWord_mem (by simp) h

theorem Tags.Cuttable.parting {p : String} (hp : w.tags.IsName p) (k : Choice) (d : Form)
    {rest : List Stretch} (h : w.tags.Cuttable rest) :
    w.tags.Cuttable (w.parting k p d :: rest) := by
  cases d with
  | named => exact .call hw (w.partingWord_mem k) (by simpa using hp) h
  | general => exact .call hw w.elseWord_mem (by simp) h

/-- The text of a document can be cut again, before what can be cut and does not begin
with literal text. -/
theorem Piece.Printable.cuttable {ps : List Piece} (hps : Piece.Printable w.tags ps)
    {rest : List Stretch} (h : w.tags.Cuttable rest)
    (hr : ∀ c ∈ rest.head?, c.isCommand = true) :
    w.tags.Cuttable (Piece.stretchesAll w ps ++ rest) := by
  induction hps generalizing rest with
  | nil => exact h
  | literal hne hsp hnext _ ih =>
      exact .literal hne hsp (Piece.head?_stretchesAll hnext hr) (ih h hr)
  | @field p format ps hp hf _ ih =>
      cases format with
      | none => exact .command hp.ne_nil hp.spared (ih h hr)
      | some f =>
          have hcolon : w.tags.Spares [':'] := fun c hc => hw.punctuation c (by simp_all)
          refine .command (by simp) ?_ (ih h hr)
          exact spares_append.mpr ⟨hp.spared, spares_cons.mpr ⟨hcolon, (hf f rfl).spared⟩⟩
  | @choice k p body ps e hp _ _ ihb ih =>
      have hend := Cuttable.ending hw hp (.choice k) e (ih h hr)
      simp only [Piece.stretchesAll, Piece.stretches, List.cons_append, List.append_assoc]
      refine .call hw (w.openingWord_mem _) (by simpa using hp) (ihb hend ?_)
      simp [w.isCommand_ending]
  | @branches k p body alternative ps d e hp _ _ _ ihb iha ih =>
      have hend := Cuttable.ending hw hp (.choice k) e (ih h hr)
      have hpart := Cuttable.parting hw hp k d (iha hend (by simp [w.isCommand_ending]))
      simp only [Piece.stretchesAll, Piece.stretches, List.cons_append, List.append_assoc]
      refine .call hw (w.openingWord_mem _) (by simpa using hp) (ihb hpart ?_)
      simp [w.isCommand_parting]
  | @loop p body ps e hp _ _ ihb ih =>
      have hend := Cuttable.ending hw hp .loop e (ih h hr)
      simp only [Piece.stretchesAll, Piece.stretches, List.cons_append, List.append_assoc]
      refine .call hw (w.openingWord_mem _) (by simpa using hp) (ihb hend ?_)
      simp [w.isCommand_ending]
  | subtemplate hn hp _ ih =>
      exact .call hw w.templateWord_mem (by simpa using ⟨hn, hp⟩) (ih h hr)

end

/-- The rewriting of paths replaces the self word as the first name. -/
theorem ModelPath.selfRewritten (word path : String) :
    SelfRewritten word path (String.ofList (rewriteSelf word.toList path.toList)) := by
  unfold rewriteSelf
  split
  · rename_i h
    obtain rfl := String.toList_injective h
    exact .whole
  · rename_i hne
    have hpath : path ≠ word := fun h => hne (by rw [h])
    split
    · rename_i r hr
      have h : path = word ++ "." ++ String.ofList r := by
        apply String.toList_injective
        simpa using after?_eq_some_iff.mp hr
      have hq : String.ofList (selfToken ++ '.' :: r) = "@self." ++ String.ofList r := by
        apply String.toList_injective
        simp [selfToken]
      rw [hq, h]
      exact .below _
    · rename_i hr
      rw [String.ofList_toList]
      refine .other hpath ?_
      rintro r rfl
      refine hr r.toList (after?_eq_some_iff.mpr ?_)
      simp

theorem ModelPath.normalize_of_colon (keyword : List Char) {front : List Char} (h : ':' ∉ front)
    (format : List Char) :
    normalize keyword (front ++ ':' :: format) =
      rewriteSelf keyword (trim front) ++ ':' :: format := by
  rw [normalize, cutAt_append h]

theorem ModelPath.normalize_of_no_colon (keyword : List Char) {text : List Char} (h : ':' ∉ text) :
    normalize keyword text = rewriteSelf keyword text := by
  rw [normalize, cutAt_eq_none.mpr h]

namespace Dialect
variable (d : Dialect)

theorem selfRewritten_path_of_isName {p : String} (hp : d.tags.IsName p) :
    SelfRewritten d.wording.selfWord p (d.path p.toList) := by
  rw [path, ModelPath.normalize_of_no_colon _ hp.not_mem.2.2]
  exact ModelPath.selfRewritten d.wording.selfWord p

theorem path_of_format {s : List Char} (h : ':' ∉ s) (ht : trim s = s) (format : List Char) :
    d.path (s ++ ':' :: format) = d.path s ++ ":" ++ String.ofList format := by
  apply String.toList_injective
  simp [path, ModelPath.normalize_of_colon _ h, ModelPath.normalize_of_no_colon _ h, ht]

/-- A text between tags that is no call is a field. -/
theorem reads_field {text : List Char} (hne : text ≠ []) (ht : trim text = text)
    (hp : '(' ∉ text) : d.Reads ⟨true, text⟩ (.field (d.path text)) := by
  intro s hs
  have hc : s.isCommand = true := congrArg Stretch.isCommand hs
  have htext : s.text.toList = text := congrArg Stretch.text hs
  have hr : Call.read? text = none := by simp [Call.read?, cutAt_eq_none.mpr hp]
  refine (d.recognize_command_iff hc).mpr (.inl ⟨?_, ?_, ?_⟩) <;> rw [htext, ht]
  · exact hne
  · exact hr

theorem exists_reads_field {p : String} (hp : d.tags.IsName p) :
    ∃ q, SelfRewritten d.wording.selfWord p q ∧ d.Reads ⟨true, p.toList⟩ (.field q) :=
  ⟨_, d.selfRewritten_path_of_isName hp, d.reads_field hp.ne_nil hp.trimmed hp.not_mem.1⟩

theorem exists_reads_formatted {p f : String} (hp : d.tags.IsName p) (hf : d.tags.IsWord f) :
    ∃ q, SelfRewritten d.wording.selfWord p q ∧
      d.Reads ⟨true, p.toList ++ ':' :: f.toList⟩ (.field (q ++ ":" ++ f)) := by
  refine ⟨_, d.selfRewritten_path_of_isName hp, ?_⟩
  have hpath := d.path_of_format hp.not_mem.2.2 hp.trimmed f.toList
  rw [String.ofList_toList] at hpath
  rw [← hpath]
  refine d.reads_field (by simp) ?_ ?_
  · -- the path begins with no blank, and the format or the colon ends with none
    have hptrim := (trim_eq_self_iff.mp hp.trimmed).1
    have hftrim := (trim_eq_self_iff.mp hf.trimmed).2
    rw [trim_eq_self_iff]
    constructor
    · intro c hc
      refine hptrim c ?_
      rw [List.head?_append, List.head?_eq_some_head hp.ne_nil] at hc
      rwa [List.head?_eq_some_head hp.ne_nil]
    · intro c hc
      rw [List.getLast?_append, List.getLast?_cons] at hc
      cases hlast : f.toList.getLast? with
      | none =>
          obtain rfl : ':' = c := by simpa [hlast] using hc
          decide
      | some x =>
          obtain rfl : x = c := by simpa [hlast] using hc
          exact hftrim x hlast
  · simp [hp.not_mem.1, hf.no_parenthesis]

variable {d} (hw : d.wording.Printable)
include hw

/-- A call of a keyword with the arguments it takes is that command. -/
theorem reads_call {k : String} {kind : CommandKind} {names : List String}
    {directive : Directive} (hk : (k, kind) ∈ d.wording.keywords)
    (hn : ∀ a ∈ names, d.tags.IsName a)
    (hd : d.directive? kind (names.map String.toList) = some directive) :
    d.Reads (.call k names) directive := by
  intro s hs
  have hc : s.isCommand = true := congrArg Stretch.isCommand hs
  have htext : s.text.toList = Call.write k.toList (names.map String.toList) :=
    congrArg Stretch.text hs
  have hkey := hw.keywords _ hk
  have hne : k.toList ≠ [] := by
    intro h
    have hb := d.keyword_not_blank hk
    simp [h, allBlank] at hb
  have hargs := Tags.IsName.arguments hn
  have hread := Call.read?_write hne hkey.trimmed hkey.no_parenthesis
    (fun h => (hargs [] (by simp [h])).1 rfl) (fun a ha => (hargs a ha).2.1)
    fun a ha => (hargs a ha).2.2.1
  have htrim := Call.trim_write hne hkey.trimmed (names.map String.toList)
  refine (d.recognize_command_iff hc).mpr (.inr ⟨⟨k.toList, names.map String.toList⟩, kind, ?_, ?_,
    fun a ha => (hargs a ha).1, hd⟩)
  · rw [htext, htrim, hread]
  · rw [String.ofList_toList, d.kind?_of_mem hk]

theorem reads_opening {p : String} (hp : d.tags.IsName p) (b : BlockKind) :
    d.Reads (d.wording.opening b p) (.opening b (d.path p.toList)) :=
  reads_call hw (d.wording.openingWord_mem b) (by simpa using hp) rfl

theorem exists_reads_parting {p : String} (hp : d.tags.IsName p) (k : Choice) (e : Form) :
    ∃ directive, (Directive.opening (.choice k) (d.path p.toList)).Continues directive ∧
      d.Reads (d.wording.parting k p e) directive := by
  cases e with
  | named =>
      refine ⟨_, .named k _, reads_call hw (d.wording.partingWord_mem k) (by simpa using hp) ?_⟩
      cases k <;> rfl
  | general => exact ⟨_, .general k _, reads_call hw d.wording.elseWord_mem (by simp) rfl⟩

theorem exists_reads_ending {p : String} (hp : d.tags.IsName p) (b : BlockKind) (e : Form) :
    ∃ directive, (Directive.opening b (d.path p.toList)).Ends directive ∧
      d.Reads (d.wording.ending b p e) directive := by
  cases e with
  | named =>
      exact ⟨_, .named b _, reads_call hw (d.wording.endingWord_mem b) (by simpa using hp) rfl⟩
  | general => exact ⟨_, .general b _, reads_call hw d.wording.endWord_mem (by simp) rfl⟩

theorem reads_subtemplate {n p : String} (hn : d.tags.IsName n) (hp : d.tags.IsName p) :
    d.Reads (.call d.wording.templateWord [n, p]) (.subtemplate n (d.path p.toList)) := by
  refine reads_call hw d.wording.templateWord_mem (by simpa using ⟨hn, hp⟩) ?_
  simp [directive?]

/-- The sentences of a document yield the nodes that stand for it. -/
theorem yields_of_stretches {ps : List Piece} (hps : Piece.Printable d.tags ps)
    {ss : List Sentence} (hss : ss.map Sentence.stretch = Piece.stretchesAll d.wording ps) :
    ∃ ns : Forest, d.Yields ss ns ∧ Piece.Becomes d.wording ps ns := by
  induction hps generalizing ss with
  | nil =>
      obtain rfl : ss = [] := by simpa [Piece.stretchesAll] using hss
      exact ⟨[], .nil, .nil⟩
  | @literal text ps _ _ _ _ ih =>
      obtain ⟨s, ss, rfl, hs, hrest⟩ := List.map_eq_cons_iff.mp hss
      obtain ⟨ns, hy, hb⟩ := ih hrest
      have hlit : s.isCommand = false := congrArg Stretch.isCommand hs
      have hsent : s = ⟨text, false, s.place⟩ := by
        obtain ⟨t, b, place⟩ := s
        simpa [Sentence.stretch, and_comm, String.toList_inj] using hs
      refine ⟨.leaf ⟨s, .literal⟩ :: ns, hy.leaf (recognize_of_literal hlit) rfl, ?_⟩
      rw [hsent]
      exact .literal text s.place hb
  | @field p format ps hp hf _ ih =>
      cases format with
      | none =>
          obtain ⟨s, ss, rfl, hs, hrest⟩ := List.map_eq_cons_iff.mp hss
          obtain ⟨ns, hy, hb⟩ := ih hrest
          obtain ⟨q, hq, hfield⟩ := d.exists_reads_field hp
          exact ⟨_, hy.leaf (hfield s hs) rfl, .field s hq hb⟩
      | some f =>
          obtain ⟨s, ss, rfl, hs, hrest⟩ := List.map_eq_cons_iff.mp hss
          obtain ⟨ns, hy, hb⟩ := ih hrest
          obtain ⟨q, hq, hfield⟩ := d.exists_reads_formatted hp (hf f rfl)
          exact ⟨_, hy.leaf (hfield s hs) rfl, .formatted s hq hb⟩
  | @choice k p body ps e hp _ _ ihb ih =>
      simp only [Piece.stretchesAll, Piece.stretches, List.cons_append, List.append_assoc,
        List.map_eq_cons_iff, List.map_eq_append_iff, List.nil_append] at hss
      obtain ⟨s, -, rfl, hs, bs, -, rfl, hbody, s', ss, rfl, hs', hrest⟩ := hss
      obtain ⟨bns, hby, hbb⟩ := ihb hbody
      obtain ⟨ns, hy, hb⟩ := ih hrest
      have hopen := reads_opening hw hp (.choice k) s hs
      obtain ⟨e', hends, hend⟩ := exists_reads_ending hw hp (.choice k) e
      exact ⟨_, .block hopen (hend s' hs') hends hby hy,
        .choice s (d.selfRewritten_path_of_isName hp) hbb hb⟩
  | @branches k p body alternative ps e' e hp _ _ _ ihb iha ih =>
      simp only [Piece.stretchesAll, Piece.stretches, List.cons_append, List.append_assoc,
        List.map_eq_cons_iff, List.map_eq_append_iff, List.nil_append] at hss
      obtain ⟨s, -, rfl, hs, bs, -, rfl, hbody, t, -, rfl, ht, as, -, rfl, halt, s', ss, rfl,
        hs', hrest⟩ := hss
      obtain ⟨bns, hby, hbb⟩ := ihb hbody
      obtain ⟨ans, hay, hab⟩ := iha halt
      obtain ⟨ns, hy, hb⟩ := ih hrest
      have hopen := reads_opening hw hp (.choice k) s hs
      obtain ⟨part, hcont, hpart⟩ := exists_reads_parting hw hp k e'
      obtain ⟨ending, hends, hend⟩ := exists_reads_ending hw hp (.choice k) e
      exact ⟨_, .branches hopen (hpart t ht) hcont (hend s' hs') hends hby hay hy,
        .branches s (d.selfRewritten_path_of_isName hp) hbb hab hb⟩
  | @loop p body ps e hp _ _ ihb ih =>
      simp only [Piece.stretchesAll, Piece.stretches, List.cons_append, List.append_assoc,
        List.map_eq_cons_iff, List.map_eq_append_iff, List.nil_append] at hss
      obtain ⟨s, -, rfl, hs, bs, -, rfl, hbody, s', ss, rfl, hs', hrest⟩ := hss
      obtain ⟨bns, hby, hbb⟩ := ihb hbody
      obtain ⟨ns, hy, hb⟩ := ih hrest
      have hopen := reads_opening hw hp .loop s hs
      obtain ⟨e', hends, hend⟩ := exists_reads_ending hw hp .loop e
      exact ⟨_, .block hopen (hend s' hs') hends hby hy,
        .loop s (d.selfRewritten_path_of_isName hp) hbb hb⟩
  | @subtemplate n p ps hn hp _ ih =>
      obtain ⟨s, ss, rfl, hs, hrest⟩ := List.map_eq_cons_iff.mp hss
      obtain ⟨ns, hy, hb⟩ := ih hrest
      exact ⟨_, hy.leaf (reads_subtemplate hw hn hp s hs) rfl,
        .subtemplate s (d.selfRewritten_path_of_isName hp) hb⟩

end Dialect

/-- Parsing the text of a document gives the document back, whichever tags and words
it is printed with. -/
theorem Dialect.parse_print (d : Dialect) (hd : d.wording.Printable) {document : List Piece}
    (hp : Piece.Printable d.tags document) :
    ∃ ns : Forest, d.parse (d.wording.print document) = .ok (.group ns) ∧
      Piece.Becomes d.wording document ns := by
  have hcut : d.tags.Cuttable (Piece.stretchesAll d.wording document) := by
    have h := hp.cuttable hd .nil (by simp)
    rwa [List.append_nil] at h
  have hmarks : Mark.stretches [] false (d.tags.marks 0 (d.wording.print document).toList) =
      some (Piece.stretchesAll d.wording document) := by
    rw [Wording.print, String.toList_ofList]
    exact Tags.stretches_write d.tags_sound hcut
  obtain ⟨ss, hsegment, hss⟩ := (segment_eq_ok_iff d.tags_sound _ _).mpr hmarks
  obtain ⟨ns, hy, hb⟩ := Dialect.yields_of_stretches hd hp hss
  exact ⟨ns, Dialect.parse_eq_ok_iff.mpr ⟨ss, ns, hsegment, hy, rfl⟩, hb⟩

/-- A branch with a loop in it, parted and ended in general form and by name. -/
theorem Dialect.parse_letter :
    let letter : List Piece := [.literal "Dear ", .field "this.name" (some "upper"),
      .branches .truth "member" [.loop "orders" [.subtemplate "row" "this"] .general]
        [.literal "!"] .general .named]
    standard.wording.print letter =
      "Dear [[this.name:upper]][[if(member)]][[for(orders)]][[template(row,this)]][[end()]]" ++
        "[[else()]]![[endif(member)]]" ∧
    ∃ ns : Forest, standard.parse (standard.wording.print letter) = .ok (.group ns) ∧
      Piece.Becomes standard.wording letter ns := by
  refine ⟨by decide +kernel, standard.parse_print (by decide +kernel) ?_⟩
  have hloop : Piece.Printable standard.tags [.loop "orders" [.subtemplate "row" "this"]
      .general] :=
    .loop (by decide +kernel) (.subtemplate (by decide +kernel) (by decide +kernel) .nil) .nil
  have hmark : Piece.Printable standard.tags [.literal "!"] :=
    .literal (by decide +kernel) (by decide +kernel) (by simp) .nil
  refine .literal (by decide +kernel) (by decide +kernel) (by simp) ?_
  refine .field (by decide +kernel) ?_ (.branches (by decide +kernel) hloop hmark .nil)
  rintro f ⟨⟩
  decide +kernel

end Templating
