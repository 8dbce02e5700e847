import Templating.Proofs.Offsets

/-!
# Tags in turn

Reading from left to right finds the tags of a text, and between them stretches without
a tag. The tags have to open and close commands in turn. As long as they do, the
sentences are the stretches that are not empty, those after a begin tag being commands;
the first tag out of turn ends them with its error, and so does the end of the text
after a begin tag. `segment_eq_of_row` says so for all tags that can be told apart.
-/
namespace Templating

/-- A tag with the stretch of text up to the next tag. -/
structure Tagged where
  tag : Tag
  inner : List Char
  deriving DecidableEq, Repr

/-- A text in pieces: what stands before the first tag, and the tags with what follows
them. -/
structure Row where
  lead : List Char
  tagged : List Tagged := []
  deriving DecidableEq, Repr

def Tag.mark : Tag → Mark
  | .opening => .opening
  | .closing => .closing

/-- The marks of tags with what follows them. -/
def Tagged.marks (tagged : List Tagged) : List Mark :=
  tagged.flatMap fun p => p.tag.mark :: p.inner.map .letter

theorem Tagged.marks_cons (p : Tagged) (ps : List Tagged) :
    marks (p :: ps) = p.tag.mark :: (p.inner.map .letter ++ marks ps) := by
  simp [marks]

/-- Marks in pieces, the tags being where the text is parted. -/
def Mark.row : List Mark → Row
  | [] => ⟨[], []⟩
  | .letter c :: ms => ⟨c :: (Mark.row ms).lead, (Mark.row ms).tagged⟩
  | .opening :: ms => ⟨[], ⟨.opening, (Mark.row ms).lead⟩ :: (Mark.row ms).tagged⟩
  | .closing :: ms => ⟨[], ⟨.closing, (Mark.row ms).lead⟩ :: (Mark.row ms).tagged⟩

theorem Mark.eq_row (ms : List Mark) :
    ms = (row ms).lead.map .letter ++ Tagged.marks (row ms).tagged := by
  induction ms with
  | nil => rfl
  | cons m ms ih =>
      cases m with
      | letter c => exact congrArg (.letter c :: ·) ih
      | opening => exact congrArg (.opening :: ·) ih
      | closing => exact congrArg (.closing :: ·) ih

/-- The pieces of a text, its tags found from left to right. -/
def Tags.row (t : Tags) (text : List Char) : Row := Mark.row (t.marks 0 text)

/-- What a mark stands for in the text. -/
def Tags.spell (t : Tags) : Mark → List Char
  | .opening => t.opening
  | .closing => t.closing
  | .letter c => [c]

theorem append_drop_of_isPrefixOf {p s : List Char} {c : Char} (hp : p ≠ [])
    (h : p.isPrefixOf (c :: s) = true) : p ++ s.drop (p.length - 1) = c :: s := by
  obtain ⟨a, q, rfl⟩ := List.exists_cons_of_ne_nil hp
  calc a :: q ++ s.drop ((a :: q).length - 1)
      = a :: q ++ (c :: s).drop (a :: q).length := by simp
    _ = c :: s := (List.prefix_iff_eq_append.mp (List.isPrefixOf_iff_prefix.mp h))

/-- No character of the text is lost in its marks. -/
theorem Tags.Sound.flatMap_spell_marks {t : Tags} (hs : t.Sound) (skip : Nat) (s : List Char) :
    (t.marks skip s).flatMap t.spell = s.drop skip := by
  induction s generalizing skip with
  | nil => simp
  | cons c s ih =>
      cases skip with
      | succ n => exact ih n
      | zero =>
          cases ho : t.opening.isPrefixOf (c :: s) with
          | true =>
              rw [marks_of_opening ho, List.flatMap_cons, ih]
              exact append_drop_of_isPrefixOf hs.opening_ne_nil ho
          | false =>
              cases hc : t.closing.isPrefixOf (c :: s) with
              | true =>
                  rw [marks_of_closing ho hc, List.flatMap_cons, ih]
                  exact append_drop_of_isPrefixOf hs.closing_ne_nil hc
              | false =>
                  rw [marks_of_letter (by simp [begins, ho, hc]), List.flatMap_cons, ih]
                  rfl

/-- A command opened and closed this many times. -/
def turns (n : Nat) : List Tag := (List.replicate n [Tag.opening, Tag.closing]).flatten

theorem turns_succ (n : Nat) : turns (n + 1) = .opening :: .closing :: turns n := rfl

namespace Row

def tags (row : Row) : List Tag := row.tagged.map Tagged.tag

def append (row : Row) (tagged : List Tagged) : Row := ⟨row.lead, row.tagged ++ tagged⟩

theorem append_nil (row : Row) : row.append [] = row := by
  rw [append, List.append_nil]

/-- The text that tags with their stretches make. -/
def textOf (t : Tags) (tagged : List Tagged) : List Char :=
  tagged.flatMap fun p => t.spelling p.tag ++ p.inner

def text (t : Tags) (row : Row) : List Char := row.lead ++ textOf t row.tagged

/-- The sentences of the stretches after tags, when this text stands before them. -/
def sentencesAfter (t : Tags) (before : List Char) : List Tagged → List Sentence
  | [] => []
  | p :: ps =>
      Sentence.ofStretch (before ++ t.spelling p.tag) (p.tag = .opening) p.inner ++
        sentencesAfter t (before ++ t.spelling p.tag ++ p.inner) ps

/-- The sentences of all stretches, those after a begin tag being commands. -/
def sentences (t : Tags) (row : Row) : List Sentence :=
  Sentence.ofStretch [] false row.lead ++ sentencesAfter t row.lead row.tagged

theorem sentencesAfter_append (t : Tags) (before : List Char) (ps qs : List Tagged) :
    sentencesAfter t before (ps ++ qs) =
      sentencesAfter t before ps ++ sentencesAfter t (before ++ textOf t ps) qs := by
  induction ps generalizing before with
  | nil => simp [sentencesAfter, textOf]
  | cons p ps ih => simp [sentencesAfter, textOf, ih]

end Row

namespace Tags
variable {t : Tags}

theorem flatMap_spell_letters (t : Tags) (w : List Char) :
    (w.map Mark.letter).flatMap t.spell = w := by
  simp [List.flatMap_map, spell]

theorem flatMap_spell_tagged (t : Tags) (ps : List Tagged) :
    (Tagged.marks ps).flatMap t.spell = Row.textOf t ps := by
  simp only [Tagged.marks, Row.textOf, List.flatMap_assoc, List.flatMap_cons]
  congr 1
  funext p
  rw [flatMap_spell_letters]
  cases p.tag <;> rfl

/-- The pieces of a text make the text. -/
theorem Sound.text_row (hs : t.Sound) (text : List Char) : (t.row text).text t = text := by
  have h := congrArg (List.flatMap t.spell) (Mark.eq_row (t.marks 0 text))
  rw [List.flatMap_append, flatMap_spell_letters, flatMap_spell_tagged,
    hs.flatMap_spell_marks] at h
  exact h.symm

/-- Inside or outside a command, with nothing held, where this text stands before. -/
def cursorAfter (before : List Char) (command : Option Nat) : Cursor :=
  ⟨Position.after before, [], command⟩

variable (before w : List Char) (command : Option Nat) {ms : List Mark}

/-- A stretch that is read up to its end becomes a sentence. -/
theorem read_stretch (h : ∀ c, ms.head? ≠ some (.letter c)) :
    t.read (cursorAfter before command) (w.map .letter ++ ms) =
      (Sentence.ofStretch before command.isSome w).map .ok ++
        t.read (cursorAfter (before ++ w) command) ms := by
  rw [read_letters, read_flush _ _ h]
  simp [cursorAfter, Cursor.sentences, Cursor.place, Sentence.ofStretch, Position.pass_after]

theorem read_opening (t : Tags) (before : List Char) (ms : List Mark) :
    t.read (cursorAfter before none) (.opening :: ms) =
      t.read (cursorAfter (before ++ t.opening) (some (Position.after before).line)) ms := by
  simp [read, cursorAfter, Cursor.sentences, Cursor.past, Cursor.place, Position.pass,
    ← Position.pass_after]

theorem read_closing (t : Tags) (before : List Char) (line : Nat) (ms : List Mark) :
    t.read (cursorAfter before (some line)) (.closing :: ms) =
      t.read (cursorAfter (before ++ t.closing) none) ms := by
  simp [read, cursorAfter, Cursor.sentences, Cursor.past, Cursor.place, Position.pass,
    ← Position.pass_after]

theorem read_end_in_command (t : Tags) (before : List Char) (line : Nat) :
    t.read (cursorAfter before (some line)) [] = [.error (.unterminatedCommand line)] := rfl

theorem read_opening_in_command (t : Tags) (before : List Char) (line : Nat) (ms : List Mark) :
    t.read (cursorAfter before (some line)) (.opening :: ms) =
      [.error (.strayBeginTag (Position.after before).line)] := rfl

theorem read_closing_in_text (t : Tags) (before : List Char) (ms : List Mark) :
    t.read (cursorAfter before none) (.closing :: ms) =
      [.error (.strayEndTag (Position.after before).line)] := rfl

/-- Commands that are opened and closed in turn leave no command open. -/
theorem read_turns (n : Nat) {ps : List Tagged} (hps : ps.map Tagged.tag = turns n)
    (before lead : List Char) (h : ∀ c, ms.head? ≠ some (.letter c)) :
    t.read (cursorAfter before none) (lead.map .letter ++ (Tagged.marks ps ++ ms)) =
      (Sentence.ofStretch before false lead ++
        Row.sentencesAfter t (before ++ lead) ps).map .ok ++
        t.read (cursorAfter (before ++ lead ++ Row.textOf t ps) none) ms := by
  induction n generalizing ps before lead with
  | zero =>
      obtain rfl : ps = [] := by simpa [turns] using hps
      simpa [Tagged.marks, Row.sentencesAfter, Row.textOf] using
        read_stretch before lead none h
  | succ n ih =>
      rw [turns_succ] at hps
      obtain ⟨⟨_, w⟩, qs, rfl, rfl, hqs⟩ := List.map_eq_cons_iff.mp hps
      obtain ⟨⟨_, w'⟩, rs, rfl, rfl, hrs⟩ := List.map_eq_cons_iff.mp hqs
      have hm : Tagged.marks (⟨.opening, w⟩ :: ⟨.closing, w'⟩ :: rs) ++ ms =
          .opening :: (w.map .letter ++
            .closing :: (w'.map .letter ++ (Tagged.marks rs ++ ms))) := by
        simp [Tagged.marks_cons, Tag.mark]
      rw [hm, read_stretch _ _ _ (by simp), read_opening, read_stretch _ _ _ (by simp),
        read_closing, ih hrs]
      simp [Row.sentencesAfter, Row.textOf, spelling]

end Tags

/-- The tags of any list come in turn up to a first one that does not. -/
theorem exists_turns (ps : List Tagged) : ∃ (qs rest : List Tagged) (n : Nat),
    ps = qs ++ rest ∧ qs.map Tagged.tag = turns n ∧
      (rest = [] ∨ (∃ w, rest = [⟨.opening, w⟩]) ∨
        (∃ w later, rest = ⟨.closing, w⟩ :: later) ∨
        ∃ w w' later, rest = ⟨.opening, w⟩ :: ⟨.opening, w'⟩ :: later) :=
  match ps with
  | [] => ⟨[], [], 0, rfl, rfl, .inl rfl⟩
  | ⟨.closing, w⟩ :: later => ⟨[], _, 0, rfl, rfl, .inr (.inr (.inl ⟨w, later, rfl⟩))⟩
  | [⟨.opening, w⟩] => ⟨[], _, 0, rfl, rfl, .inr (.inl ⟨w, rfl⟩)⟩
  | ⟨.opening, w⟩ :: ⟨.opening, w'⟩ :: later =>
      ⟨[], _, 0, rfl, rfl, .inr (.inr (.inr ⟨w, w', later, rfl⟩))⟩
  | ⟨.opening, w⟩ :: ⟨.closing, w'⟩ :: later => by
      obtain ⟨qs, rest, n, rfl, hqs, hrest⟩ := exists_turns later
      refine ⟨⟨.opening, w⟩ :: ⟨.closing, w'⟩ :: qs, rest, n + 1, rfl, ?_, hrest⟩
      rw [List.map_cons, List.map_cons, hqs, turns_succ]

namespace Row
variable {t : Tags} (row : Row) (w : List Char)

theorem sentences_append_opening :
    (row.append [⟨.opening, w⟩]).sentences t =
      row.sentences t ++ Sentence.ofStretch (row.text t ++ t.opening) true w := by
  simp [sentences, append, text, sentencesAfter_append, sentencesAfter, Tags.spelling]

theorem text_append_opening :
    (row.append [⟨.opening, w⟩]).text t = row.text t ++ t.opening ++ w := by
  simp [text, append, textOf, Tags.spelling]

/-- After tags in turn the rest of a text is read as if it stood alone, but at its place. -/
theorem segment_eq_append_read (hs : t.Sound) {s : String} {rest : List Tagged} {n : Nat}
    (hn : row.tags = turns n) (h : t.row s.toList = row.append rest) :
    segment t s = (row.sentences t).map .ok ++
      t.read (Tags.cursorAfter (row.text t) none) (Tagged.marks rest) := by
  have hm : t.marks 0 s.toList =
      row.lead.map .letter ++ (Tagged.marks row.tagged ++ Tagged.marks rest) := by
    rw [Mark.eq_row (t.marks 0 s.toList), ← Tags.row, h]
    simp [append, Tagged.marks]
  have hr : ∀ c, (Tagged.marks rest).head? ≠ some (.letter c) := by
    intro c
    rcases rest with _ | ⟨⟨_ | _, _⟩, _⟩ <;> simp [Tagged.marks, Tag.mark]
  calc segment t s
      = t.read (Tags.cursorAfter [] none)
          (row.lead.map .letter ++ (Tagged.marks row.tagged ++ Tagged.marks rest)) := by
        rw [segment_eq_read hs, hm]
        rfl
    _ = _ := Tags.read_turns n hn [] row.lead hr

end Row

/-- Cutting a text gives the stretches between its tags, found from left to right, as
long as the tags come in turn. After `row` either the text ends, or one more begin tag
has no other tag after it, or an end tag comes that closes nothing, or a begin tag with
another one right after it. -/
theorem segment_eq_of_row {t : Tags} (hs : t.Sound) (text : String) :
    (t.row text.toList).text t = text.toList ∧
    (∀ (row : Row) (n : Nat), row.tags = turns n →
      (t.row text.toList = row → segment t text = (row.sentences t).map .ok) ∧
      (∀ w, t.row text.toList = row.append [⟨.opening, w⟩] →
        segment t text = ((row.append [⟨.opening, w⟩]).sentences t).map .ok ++
          [.error (.unterminatedCommand (Position.after (row.text t)).line)]) ∧
      (∀ w later, t.row text.toList = row.append (⟨.closing, w⟩ :: later) →
        segment t text = (row.sentences t).map .ok ++
          [.error (.strayEndTag (Position.after (row.text t)).line)]) ∧
      ∀ w w' later, t.row text.toList = row.append (⟨.opening, w⟩ :: ⟨.opening, w'⟩ :: later) →
        segment t text = ((row.append [⟨.opening, w⟩]).sentences t).map .ok ++
          [.error (.strayBeginTag
            (Position.after ((row.append [⟨.opening, w⟩]).text t)).line)]) ∧
    ∃ (row : Row) (rest : List Tagged) (n : Nat),
      t.row text.toList = row.append rest ∧ row.tags = turns n ∧
      (rest = [] ∨ (∃ w, rest = [⟨.opening, w⟩]) ∨
        (∃ w later, rest = ⟨.closing, w⟩ :: later) ∨
        ∃ w w' later, rest = ⟨.opening, w⟩ :: ⟨.opening, w'⟩ :: later) := by
  refine ⟨hs.text_row text.toList, fun row n hn => ?_, ?_⟩
  · refine ⟨fun h => ?_, fun w h => ?_, fun w later h => ?_, fun w w' later h => ?_⟩
    · have h' : t.row text.toList = row.append [] := by rw [h, row.append_nil]
      rw [row.segment_eq_append_read hs hn h']
      exact List.append_nil _
    · have hm : Tagged.marks [⟨.opening, w⟩] = .opening :: (w.map .letter ++ []) :=
        Tagged.marks_cons _ _
      rw [row.segment_eq_append_read hs hn h, row.sentences_append_opening, hm,
        Tags.read_opening, Tags.read_stretch _ _ _ (by simp), Tags.read_end_in_command,
        List.map_append, List.append_assoc (List.map _ _)]
      rfl
    · rw [row.segment_eq_append_read hs hn h, Tagged.marks_cons]
      exact congrArg _ (t.read_closing_in_text _ _)
    · have hm : Tagged.marks (⟨.opening, w⟩ :: ⟨.opening, w'⟩ :: later) =
          .opening :: (w.map .letter ++ .opening :: (w'.map .letter ++ Tagged.marks later)) := by
        rw [Tagged.marks_cons, Tagged.marks_cons]
        rfl
      rw [row.segment_eq_append_read hs hn h, row.sentences_append_opening,
        row.text_append_opening, hm, Tags.read_opening, Tags.read_stretch _ _ _ (by simp),
        Tags.read_opening_in_command, List.map_append, List.append_assoc (List.map _ _)]
      rfl
  · obtain ⟨qs, rest, n, hrow, hqs, hrest⟩ := exists_turns (t.row text.toList).tagged
    refine ⟨⟨(t.row text.toList).lead, qs⟩, rest, n, ?_, hqs, hrest⟩
    rw [Row.append, ← hrow]

/-- Tags that overlap: of `ababa` the first three letters are a begin tag, the fourth is an
end tag, and the last `a` begins no tag. -/
theorem segment_overlapping_tags :
    let t : Tags := ⟨"aba".toList, "b".toList⟩
    t.Sound ∧ segment t "cababab" =
      [.ok ⟨"c", false, ⟨1, 1⟩⟩, .ok ⟨"a", false, ⟨1, 6⟩⟩, .error (.strayEndTag 1)] := by
  intro t
  have hs : t.Sound := ⟨by decide, by decide, by decide, by decide⟩
  let row : Row := ⟨['c'], [⟨.opening, []⟩, ⟨.closing, ['a']⟩]⟩
  have hrow : t.row "cababab".toList = row.append [⟨.closing, []⟩] := by decide
  obtain ⟨-, hcut, -⟩ := segment_eq_of_row hs "cababab"
  obtain ⟨-, -, hstray, -⟩ := hcut row 1 rfl
  refine ⟨hs, ?_⟩
  rw [hstray [] [] hrow]
  rfl

end Templating
