import Templating.Dialect

/-!
# Tags and letters

A text as a row of marks: from left to right a tag is taken wherever one begins,
and any other character is a letter. The sentences of the text are read off the
marks alone: letters are held until a tag or the end comes, and the tags have to
open and close commands in turn.

For tags of which neither is empty or begins the other, `segment_eq_read` says that
cutting a text into sentences is reading its marks. What the marks of a text put
together from others are is then a matter of lists.
-/
namespace Templating

inductive Mark where
  | opening
  | closing
  | letter (c : Char)
  deriving DecidableEq, Repr

namespace Tags

/-- Tags that can be told apart at every place of a text. -/
structure Sound (t : Tags) : Prop where
  opening_ne_nil : t.opening ≠ []
  closing_ne_nil : t.closing ≠ []
  opening_not_prefix : ¬ t.opening <+: t.closing
  closing_not_prefix : ¬ t.closing <+: t.opening

/-- The marks of a text whose first `skip` characters belong to a tag taken before. -/
def marks (t : Tags) (skip : Nat) : List Char → List Mark
  | [] => []
  | c :: s =>
      match skip with
      | n + 1 => t.marks n s
      | 0 =>
          if t.opening.isPrefixOf (c :: s) then .opening :: t.marks (t.opening.length - 1) s
          else if t.closing.isPrefixOf (c :: s) then .closing :: t.marks (t.closing.length - 1) s
          else .letter c :: t.marks 0 s

variable {t : Tags}

@[simp] theorem marks_nil (t : Tags) (skip : Nat) : t.marks skip [] = [] := rfl

theorem marks_skip (t : Tags) (skip : Nat) (s : List Char) :
    t.marks skip s = t.marks 0 (s.drop skip) := by
  induction s generalizing skip with
  | nil => simp
  | cons c s ih =>
      cases skip with
      | zero => rfl
      | succ n => exact ih n

theorem marks_of_opening {c : Char} {s : List Char} (h : t.opening.isPrefixOf (c :: s) = true) :
    t.marks 0 (c :: s) = .opening :: t.marks (t.opening.length - 1) s := by
  simp only [marks, h, if_true]

theorem marks_of_closing {c : Char} {s : List Char}
    (ho : t.opening.isPrefixOf (c :: s) = false) (h : t.closing.isPrefixOf (c :: s) = true) :
    t.marks 0 (c :: s) = .closing :: t.marks (t.closing.length - 1) s := by
  simp [marks, ho, h]

theorem marks_of_letter {c : Char} {s : List Char} (h : t.begins (c :: s) = false) :
    t.marks 0 (c :: s) = .letter c :: t.marks 0 s := by
  rw [begins, Bool.or_eq_false_iff] at h
  simp [marks, h.1, h.2]

namespace Sound

/-- Where the closing tag stands the opening one does not. -/
theorem not_opening (h : t.Sound) (s : List Char) :
    t.opening.isPrefixOf (t.closing ++ s) = false := by
  rw [Bool.eq_false_iff]
  intro hp
  rw [List.isPrefixOf_iff_prefix] at hp
  rcases List.prefix_or_prefix_of_prefix hp (List.prefix_append t.closing s) with hoc | hco
  · exact h.opening_not_prefix hoc
  · exact h.closing_not_prefix hco

theorem marks_opening (h : t.Sound) (s : List Char) :
    t.marks 0 (t.opening ++ s) = .opening :: t.marks 0 s := by
  obtain ⟨c, tag, ho⟩ := List.exists_cons_of_ne_nil h.opening_ne_nil
  have hp : t.opening.isPrefixOf (t.opening ++ s) = true :=
    List.isPrefixOf_iff_prefix.mpr (List.prefix_append _ _)
  rw [ho, List.cons_append] at hp ⊢
  rw [← ho] at hp
  rw [marks_of_opening hp, marks_skip, ho]
  simp

theorem marks_closing (h : t.Sound) (s : List Char) :
    t.marks 0 (t.closing ++ s) = .closing :: t.marks 0 s := by
  obtain ⟨c, tag, hc⟩ := List.exists_cons_of_ne_nil h.closing_ne_nil
  have hn := h.not_opening s
  have hp : t.closing.isPrefixOf (t.closing ++ s) = true :=
    List.isPrefixOf_iff_prefix.mpr (List.prefix_append _ _)
  rw [hc, List.cons_append] at hp hn ⊢
  rw [← hc] at hp
  rw [marks_of_closing hn hp, marks_skip, hc]
  simp

end Sound

/-- A text that shares no character with the tags. -/
def Spares (t : Tags) (s : List Char) : Prop :=
  ∀ c ∈ s, c ∉ t.opening ∧ c ∉ t.closing

theorem marks_letters {w : List Char} (hs : t.Sound) (hw : t.Spares w) (s : List Char) :
    t.marks 0 (w ++ s) = w.map .letter ++ t.marks 0 s := by
  induction w with
  | nil => rfl
  | cons c w ih =>
      obtain ⟨hc, hw⟩ := List.forall_mem_cons.mp hw
      have hb : t.begins (c :: (w ++ s)) = false := by
        obtain ⟨a, p, ho⟩ := List.exists_cons_of_ne_nil hs.opening_ne_nil
        obtain ⟨b, q, he⟩ := List.exists_cons_of_ne_nil hs.closing_ne_nil
        rw [ho, he] at hc
        simp only [List.mem_cons, not_or] at hc
        simp [begins, ho, he, List.isPrefixOf_cons_cons, Ne.symm hc.1.1, Ne.symm hc.2.1]
      rw [List.cons_append, marks_of_letter hb, ih hw]
      rfl

theorem marks_cut (t : Tags) (s : List Char) :
    t.marks 0 s = (t.cut s).1.map .letter ++ t.marks 0 (t.cut s).2 := by
  induction s with
  | nil => rfl
  | cons c s ih =>
      unfold cut
      split
      · rfl
      · rename_i hb
        rw [marks_of_letter (by simpa using hb), ih]
        rfl

/-- What is cut off ends the text or begins with a tag. -/
theorem cut_snd (t : Tags) (s : List Char) :
    (t.cut s).2 = [] ∨ t.begins (t.cut s).2 = true := by
  induction s with
  | nil => exact .inl rfl
  | cons c s ih =>
      unfold cut
      split
      · rename_i hb
        exact .inr hb
      · exact ih

end Tags

/-- The state between two marks: the letters held since the last tag, where they began,
and the line of the tag that opened the present command, if one is open. -/
structure Cursor where
  start : Position := {}
  held : List Char := []
  command : Option Nat := none

namespace Cursor

/-- The place of the next mark. -/
def place (c : Cursor) : Position := c.start.pass c.held

/-- The letters held, as a sentence if there are any. -/
def sentences (c : Cursor) : List Sentence :=
  if c.held.isEmpty then [] else [⟨String.ofList c.held, c.command.isSome, c.start⟩]

/-- Past a tag that opens or closes a command. -/
def past (c : Cursor) (tag : List Char) (command : Option Nat) : Cursor :=
  ⟨c.place.pass tag, [], command⟩

end Cursor

/-- The sentences of a row of marks, up to the first tag out of turn. -/
def Tags.read (t : Tags) (c : Cursor) : List Mark → List (Except ParseError Sentence)
  | [] =>
      c.sentences.map .ok ++
        match c.command with
        | some line => [.error (.unterminatedCommand line)]
        | none => []
  | .letter x :: ms => t.read { c with held := c.held ++ [x] } ms
  | .opening :: ms =>
      c.sentences.map .ok ++
        match c.command with
        | some _ => [.error (.strayBeginTag c.place.line)]
        | none => t.read (c.past t.opening (some c.place.line)) ms
  | .closing :: ms =>
      c.sentences.map .ok ++
        match c.command with
        | some _ => t.read (c.past t.closing none) ms
        | none => [.error (.strayEndTag c.place.line)]

namespace Tags

theorem read_letters (t : Tags) (c : Cursor) (w : List Char) (ms : List Mark) :
    t.read c (w.map .letter ++ ms) = t.read { c with held := c.held ++ w } ms := by
  induction w generalizing c with
  | nil => simp
  | cons x w ih =>
      rw [List.map_cons, List.cons_append, read, ih]
      simp

/-- At a tag or at the end the letters held become a sentence. -/
theorem read_flush (t : Tags) (c : Cursor) {ms : List Mark}
    (h : ∀ x, ms.head? ≠ some (.letter x)) :
    t.read c ms = c.sentences.map .ok ++ t.read ⟨c.place, [], c.command⟩ ms := by
  cases ms with
  | nil => rfl
  | cons m ms =>
      cases m with
      | opening => rfl
      | closing => rfl
      | letter x => exact (h x rfl).elim

theorem head?_marks_of_begins {t : Tags} {s : List Char} (h : s = [] ∨ t.begins s = true)
    (x : Char) : (t.marks 0 s).head? ≠ some (.letter x) := by
  cases s with
  | nil => simp
  | cons c s =>
      have hb : t.begins (c :: s) = true := by simpa using h
      cases ho : t.opening.isPrefixOf (c :: s) with
      | true => simp [marks_of_opening ho]
      | false =>
          have hc : t.closing.isPrefixOf (c :: s) = true := by simpa [begins, ho] using hb
          simp [marks_of_closing ho hc]

end Tags

namespace Reading
variable {t : Tags}

/-- The state of a pass under way, with no letters held. -/
def cursor (r : Reading) : Cursor :=
  ⟨r.place, [], if r.inCommand then some r.commandLine else none⟩

theorem read_cursor_opening (t : Tags) (r : Reading) (hc : r.inCommand = false)
    {rest : List Char} (hr : r.rest = t.opening ++ rest) (ms : List Mark) :
    t.read r.cursor (.opening :: ms) =
      t.read { r.advance t.opening.length with
        inCommand := true, commandLine := r.place.line }.cursor ms := by
  simp [Tags.read, cursor, Cursor.sentences, Cursor.past, Cursor.place, Position.pass, advance,
    hc, hr]

theorem read_cursor_closing (t : Tags) (r : Reading) (hc : r.inCommand = true)
    {rest : List Char} (hr : r.rest = t.closing ++ rest) (ms : List Mark) :
    t.read r.cursor (.closing :: ms) =
      t.read { r.advance t.closing.length with inCommand := false }.cursor ms := by
  simp [Tags.read, cursor, Cursor.sentences, Cursor.past, Cursor.place, Position.pass, advance,
    hc, hr]

theorem read_cursor_letters (t : Tags) (r : Reading) {w rest : List Char} (hw : w ≠ [])
    (hr : r.rest = w ++ rest) (hb : rest = [] ∨ t.begins rest = true) :
    t.read r.cursor (w.map .letter ++ t.marks 0 rest) =
      .ok ⟨String.ofList w, r.inCommand, r.place⟩ ::
        t.read (r.advance w.length).cursor (t.marks 0 rest) := by
  rw [Tags.read_letters, Tags.read_flush _ _ (Tags.head?_marks_of_begins hb)]
  cases hc : r.inCommand <;>
    simp [cursor, Cursor.sentences, Cursor.place, advance, hw, hc, hr]

/-- What the next turns of a pass yield is what its marks say. -/
theorem next_read (hs : t.Sound) (r : Reading) (hf : r.failed = false) :
    match r.next t with
    | (none, _) => t.read r.cursor (t.marks 0 r.rest) = []
    | (some (.error e), r') =>
        r'.failed = true ∧ t.read r.cursor (t.marks 0 r.rest) = [.error e]
    | (some (.ok s), r') =>
        r'.failed = false ∧
          t.read r.cursor (t.marks 0 r.rest) = .ok s :: t.read r'.cursor (t.marks 0 r'.rest) := by
  fun_induction next t r with
  | case1 r h => simp [h] at hf
  | case2 r _ he hc =>
      rw [List.isEmpty_iff] at he
      simp [he, hc, Tags.read, cursor, Cursor.sentences]
  | case3 r _ he hc =>
      rw [List.isEmpty_iff] at he
      simp [he, hc, Tags.read, cursor, Cursor.sentences]
  | case4 r _ he hb hc =>
      obtain ⟨rest, hr⟩ := List.isPrefixOf_iff_prefix.mp hb
      rw [← hr, hs.marks_opening]
      simp [hc, Tags.read, cursor, Cursor.sentences, Cursor.place, Position.pass]
  | case5 r _ he hb hc ih =>
      obtain ⟨rest, hr⟩ := List.isPrefixOf_iff_prefix.mp hb
      have h := ih hf
      have hd : (r.advance t.opening.length).rest = rest := by simp [advance, ← hr]
      rw [← hr, hs.marks_opening, read_cursor_opening t r (by simpa using hc) hr.symm, ← hd]
      exact h
  | case6 r _ he hb hce hc ih =>
      obtain ⟨rest, hr⟩ := List.isPrefixOf_iff_prefix.mp hce
      have h := ih hf
      have hd : (r.advance t.closing.length).rest = rest := by simp [advance, ← hr]
      rw [← hr, hs.marks_closing, read_cursor_closing t r hc hr.symm, ← hd]
      exact h
  | case7 r _ he hb hce hc =>
      obtain ⟨rest, hr⟩ := List.isPrefixOf_iff_prefix.mp hce
      rw [← hr, hs.marks_closing]
      simp [hc, Tags.read, cursor, Cursor.sentences, Cursor.place, Position.pass]
  | case8 r _ he hb hce text =>
      have hn : t.begins r.rest = false := by simp [Tags.begins, hb, hce]
      have hne : text ≠ [] := by
        have hpos := t.cut_length_pos (by simpa using he) hn
        exact List.ne_nil_of_length_pos hpos
      have hr : r.rest = text ++ (t.cut r.rest).2 := (t.cut_append r.rest).symm
      have hd : (r.advance text.length).rest = (t.cut r.rest).2 :=
        calc r.rest.drop text.length
            = (text ++ (t.cut r.rest).2).drop text.length := congrArg _ hr
          _ = (t.cut r.rest).2 := List.drop_left
      refine ⟨hf, ?_⟩
      rw [Tags.marks_cut, hd]
      exact read_cursor_letters t r hne hr (t.cut_snd r.rest)

/-- A pass that has met an error is over. -/
theorem items_of_failed (t : Tags) {r : Reading} (hf : r.failed = true) : r.items t = [] := by
  rw [items]
  split
  · rfl
  · rename_i h
    rw [next] at h
    simp [hf] at h

theorem items_eq_read (hs : t.Sound) (r : Reading) (hf : r.failed = false) :
    r.items t = t.read r.cursor (t.marks 0 r.rest) := by
  have hn := next_read hs r hf
  fun_induction items t r with
  | case1 r r' h =>
      rw [h] at hn
      exact hn.symm
  | case2 r x r' h ih =>
      rw [h] at hn
      cases x with
      | error e => rw [items_of_failed t hn.1, hn.2]
      | ok s => rw [ih hn.1 (next_read hs r' hn.1), hn.2]

end Reading

theorem segment_eq_read {t : Tags} (hs : t.Sound) (text : String) :
    segment t text = t.read {} (t.marks 0 text.toList) :=
  Reading.items_eq_read hs { rest := text.toList } rfl

end Templating
