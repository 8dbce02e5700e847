import Templating.Proofs.Grammar
import Templating.Proofs.Wording

/-!
# What a text says

A text that can be cut says stretches of literal text and of text between tags. Where
they stand makes no difference to how they are read, so the stretches are taken off
the marks of the text without any places.

A text parses when its stretches are commands that spell a well-formed forest. The
sentences that a forest is read from are what `Yields` relates it to.
-/
namespace Templating

/-- A stretch of literal text, or of text between two tags. -/
structure Stretch where
  isCommand : Bool
  text : List Char
  deriving DecidableEq, Repr

/-- What a sentence says, wherever it stands. -/
def Sentence.stretch (s : Sentence) : Stretch := ⟨s.isCommand, s.text.toList⟩

/-- The letters held as a stretch, if there are any. -/
def Stretch.ofHeld (inCommand : Bool) (held : List Char) : List Stretch :=
  if held.isEmpty then [] else [⟨inCommand, held⟩]

@[simp] theorem Stretch.ofHeld_nil (inCommand : Bool) : ofHeld inCommand [] = [] := rfl

theorem Stretch.ofHeld_of_ne_nil {held : List Char} (h : held ≠ []) (inCommand : Bool) :
    ofHeld inCommand held = [⟨inCommand, held⟩] := by
  simp [ofHeld, h]

namespace Mark

/-- What a row of marks says after the letters held, if its tags come in turn. -/
def stretches (held : List Char) : Bool → List Mark → Option (List Stretch)
  | false, [] => some (Stretch.ofHeld false held)
  | true, [] => none
  | inCommand, .letter c :: ms => stretches (held ++ [c]) inCommand ms
  | false, .opening :: ms => (stretches [] true ms).map (Stretch.ofHeld false held ++ ·)
  | true, .closing :: ms => (stretches [] false ms).map (Stretch.ofHeld true held ++ ·)
  | true, .opening :: _ | false, .closing :: _ => none

theorem stretches_letters (held : List Char) (inCommand : Bool) (w : List Char)
    (ms : List Mark) :
    stretches held inCommand (w.map .letter ++ ms) = stretches (held ++ w) inCommand ms := by
  induction w generalizing held with
  | nil => simp
  | cons c w ih =>
      rw [List.map_cons, List.cons_append, stretches, ih]
      simp

/-- At a tag or at the end the literal text held is complete. -/
theorem stretches_flush (held : List Char) {ms : List Mark}
    (h : ∀ c, ms.head? ≠ some (.letter c)) :
    stretches held false ms = (stretches [] false ms).map (Stretch.ofHeld false held ++ ·) := by
  cases ms with
  | nil => simp [stretches]
  | cons m ms =>
      cases m with
      | opening => simp [stretches]
      | closing => rfl
      | letter c => exact (h c rfl).elim

end Mark

theorem Cursor.map_stretch_sentences (c : Cursor) :
    c.sentences.map Sentence.stretch = Stretch.ofHeld c.command.isSome c.held := by
  unfold sentences Stretch.ofHeld
  split
  · rfl
  · simp [Sentence.stretch]

namespace Tags

theorem append_error_ne_map_ok (xs : List (Except ParseError Sentence)) (e : ParseError)
    (ss : List Sentence) : xs ++ [.error e] ≠ ss.map .ok := by
  intro h
  have he : Except.error e ∈ ss.map .ok := h ▸ List.mem_append_right xs (List.mem_singleton_self _)
  obtain ⟨s, -, hs⟩ := List.mem_map.mp he
  cases hs

/-- The letters held come first among the sentences that are read. -/
theorem exists_of_sentences_append {c : Cursor} {xs : List (Except ParseError Sentence)}
    {ss : List Sentence} (h : c.sentences.map .ok ++ xs = ss.map .ok) :
    ∃ rest : List Sentence, xs = rest.map .ok ∧
      ss.map Sentence.stretch =
        Stretch.ofHeld c.command.isSome c.held ++ rest.map Sentence.stretch := by
  obtain ⟨a, b, rfl, ha, hb⟩ := List.map_eq_append_iff.mp h.symm
  rw [(List.map_inj_right fun _ _ => Except.ok.inj).mp ha]
  exact ⟨b, hb.symm, by rw [List.map_append, c.map_stretch_sentences]⟩

/-- The sentences read off marks say what the marks say. -/
theorem stretches_of_read (t : Tags) {c : Cursor} {ms : List Mark} {ss : List Sentence}
    (h : t.read c ms = ss.map .ok) :
    Mark.stretches c.held c.command.isSome ms = some (ss.map Sentence.stretch) := by
  induction ms generalizing c ss with
  | nil =>
      cases hc : c.command with
      | none =>
          rw [read, hc] at h
          obtain ⟨rest, hrest, hss⟩ := exists_of_sentences_append h
          obtain rfl : rest = [] := by simpa using hrest.symm
          rw [hss, hc, List.map_nil, List.append_nil]
          rfl
      | some line =>
          rw [read, hc] at h
          exact (append_error_ne_map_ok _ _ _ h).elim
  | cons m ms ih =>
      cases m with
      | letter x =>
          rw [Mark.stretches]
          exact ih h
      | opening =>
          cases hc : c.command with
          | none =>
              rw [read, hc] at h
              obtain ⟨rest, hrest, hss⟩ := exists_of_sentences_append h
              rw [hss, hc]
              exact congrArg (Option.map _) (ih hrest)
          | some line =>
              rw [read, hc] at h
              exact (append_error_ne_map_ok _ _ _ h).elim
      | closing =>
          cases hc : c.command with
          | some line =>
              rw [read, hc] at h
              obtain ⟨rest, hrest, hss⟩ := exists_of_sentences_append h
              rw [hss, hc]
              exact congrArg (Option.map _) (ih hrest)
          | none =>
              rw [read, hc] at h
              exact (append_error_ne_map_ok _ _ _ h).elim

/-- Marks that say something are read without error, from any place. -/
theorem read_of_stretches (t : Tags) (c : Cursor) {ms : List Mark} {xs : List Stretch}
    (h : Mark.stretches c.held c.command.isSome ms = some xs) :
    ∃ ss : List Sentence, t.read c ms = ss.map .ok ∧ ss.map Sentence.stretch = xs := by
  induction ms generalizing c xs with
  | nil =>
      cases hc : c.command with
      | none =>
          refine ⟨c.sentences, by rw [read, hc, List.append_nil], ?_⟩
          rw [c.map_stretch_sentences, hc]
          simpa [hc, Mark.stretches] using h
      | some line => simp [hc, Mark.stretches] at h
  | cons m ms ih =>
      cases m with
      | letter x =>
          rw [Mark.stretches] at h
          exact ih _ h
      | opening =>
          cases hc : c.command with
          | none =>
              rw [hc] at h
              obtain ⟨ys, hys, rfl⟩ := Option.map_eq_some_iff.mp h
              obtain ⟨ss, hread, rfl⟩ := ih (c.past t.opening (some c.place.line)) hys
              refine ⟨c.sentences ++ ss, by rw [read, hc, hread, List.map_append], ?_⟩
              rw [List.map_append, c.map_stretch_sentences, hc]
              rfl
          | some line => simp [hc, Mark.stretches] at h
      | closing =>
          cases hc : c.command with
          | some line =>
              rw [hc] at h
              obtain ⟨ys, hys, rfl⟩ := Option.map_eq_some_iff.mp h
              obtain ⟨ss, hread, rfl⟩ := ih (c.past t.closing none) hys
              refine ⟨c.sentences ++ ss, by rw [read, hc, hread, List.map_append], ?_⟩
              rw [List.map_append, c.map_stretch_sentences, hc]
              rfl
          | none => simp [hc, Mark.stretches] at h

end Tags

/-- A text is cut without error into sentences that say what its marks say. -/
theorem segment_eq_ok_iff {t : Tags} (hs : t.Sound) (text : String) (xs : List Stretch) :
    (∃ ss : List Sentence, segment t text = ss.map .ok ∧ ss.map Sentence.stretch = xs) ↔
      Mark.stretches [] false (t.marks 0 text.toList) = some xs := by
  rw [segment_eq_read hs]
  constructor
  · rintro ⟨ss, hread, rfl⟩
    exact t.stretches_of_read hread
  · exact t.read_of_stretches {}

/-- What runs to its end has no error in it. -/
theorem Assembly.exists_of_run {a b : Assembly} {xs : List (Except ParseError Command)}
    (h : a.run xs = .ok b) : ∃ cs : List Command, xs = cs.map .ok := by
  induction xs generalizing a with
  | nil => exact ⟨[], rfl⟩
  | cons x xs ih =>
      cases x with
      | error e => cases h
      | ok c =>
          rw [run] at h
          split at h
          · cases h
          · obtain ⟨cs, rfl⟩ := ih h
            exact ⟨c :: cs, rfl⟩

namespace Dialect
variable {d : Dialect}

theorem recognize_of_literal {s : Sentence} (hs : s.isCommand = false) :
    d.recognize s = .ok ⟨s, .literal⟩ := by
  simp [recognize, hs]

/-- Every sentence that says this is read as the directive. -/
def Reads (d : Dialect) (said : Stretch) (directive : Directive) : Prop :=
  ∀ s : Sentence, s.stretch = said → d.recognize s = .ok ⟨s, directive⟩

/-- A sentence that is read is read alike at every place. -/
theorem reads_of_recognize {s : Sentence} {c : Command} (h : d.recognize s = .ok c) :
    ∃ directive, c = ⟨s, directive⟩ ∧ d.Reads s.stretch directive := by
  have hread : ∃ directive, c = ⟨s, directive⟩ ∧ ∀ s' : Sentence, s'.isCommand = s.isCommand →
      s'.text = s.text → d.recognize s' = .ok ⟨s', directive⟩ := by
    unfold recognize at h ⊢
    split at h
    · cases h
      exact ⟨.literal, rfl, by simp_all⟩
    dsimp only at h
    split at h
    · cases h
    split at h
    · cases h
      exact ⟨_, rfl, by simp_all⟩
    split at h
    · cases h
    split at h
    · split at h
      · cases h
        exact ⟨_, rfl, by simp_all⟩
      · cases h
    · cases h
  obtain ⟨directive, hc, hall⟩ := hread
  refine ⟨directive, hc, fun s' hs' => hall s' (congrArg Stretch.isCommand hs') ?_⟩
  exact String.toList_injective (congrArg Stretch.text hs')

/-- Sentences whose commands spell a well-formed forest. -/
def Yields (d : Dialect) (ss : List Sentence) (f : Forest) : Prop :=
  ∃ cs : List Command, ss.map d.recognize = cs.map .ok ∧ f.WellFormed ∧ f.Spells cs

namespace Yields
variable {ss : List Sentence} {f : Forest} {s : Sentence}

theorem nil : d.Yields [] [] := ⟨[], rfl, .nil, .nil⟩

theorem leaf {directive : Directive} (hs : d.recognize s = .ok ⟨s, directive⟩)
    (hd : directive.isPlain = true) (h : d.Yields ss f) :
    d.Yields (s :: ss) (.leaf ⟨s, directive⟩ :: f) := by
  obtain ⟨cs, hread, hw, hsp⟩ := h
  exact ⟨_ :: cs, by rw [List.map_cons, hs, hread]; rfl, .leaf hd hw, .leaf _ hsp⟩

theorem append {ss' : List Sentence} {g : Forest} (h : d.Yields ss f) (h' : d.Yields ss' g) :
    d.Yields (ss ++ ss') (f ++ g) := by
  obtain ⟨cs, hread, hw, hs⟩ := h
  obtain ⟨cs', hread', hw', hs'⟩ := h'
  exact ⟨cs ++ cs', by rw [List.map_append, List.map_append, hread, hread'], hw.append hw',
    hs.append hs'⟩

variable {e : Sentence} {b : BlockKind} {path : String} {ending : Directive}
variable {bs : List Sentence} {body : Forest}

theorem block (hs : d.recognize s = .ok ⟨s, .opening b path⟩)
    (he : d.recognize e = .ok ⟨e, ending⟩) (hend : (Directive.opening b path).Ends ending)
    (hb : d.Yields bs body) (h : d.Yields ss f) :
    d.Yields (s :: (bs ++ e :: ss)) (.block ⟨s, .opening b path⟩ body none :: f) := by
  obtain ⟨ds, hbread, hbw, hbsp⟩ := hb
  obtain ⟨cs, hread, hw, hsp⟩ := h
  refine ⟨⟨s, .opening b path⟩ :: (ds ++ ⟨e, ending⟩ :: cs), ?_, ?_, .block hend hbsp hsp⟩
  · simp [hs, he, hbread, hread]
  · cases b with
    | choice k => exact .choice rfl hbw hw
    | loop => exact .loop rfl hbw hw

theorem branches {t : Sentence} {k : Choice} {parting : Directive} {as : List Sentence}
    {alternative : Forest} (hs : d.recognize s = .ok ⟨s, .opening (.choice k) path⟩)
    (ht : d.recognize t = .ok ⟨t, parting⟩)
    (hpart : (Directive.opening (.choice k) path).Continues parting)
    (he : d.recognize e = .ok ⟨e, ending⟩)
    (hend : (Directive.opening (.choice k) path).Ends ending)
    (hb : d.Yields bs body) (ha : d.Yields as alternative) (h : d.Yields ss f) :
    d.Yields (s :: (bs ++ t :: (as ++ e :: ss)))
      (.block ⟨s, .opening (.choice k) path⟩ body (some alternative) :: f) := by
  obtain ⟨ds, hbread, hbw, hbsp⟩ := hb
  obtain ⟨es, haread, haw, hasp⟩ := ha
  obtain ⟨cs, hread, hw, hsp⟩ := h
  refine ⟨⟨s, .opening (.choice k) path⟩ :: (ds ++ ⟨t, parting⟩ :: (es ++ ⟨e, ending⟩ :: cs)),
    ?_, .branches rfl hbw haw hw, .branches hpart hend hbsp hasp hsp⟩
  simp [hs, ht, he, hbread, haread, hread]

end Yields

theorem exists_of_commands {xs : List (Except ParseError Sentence)} {cs : List Command}
    (h : (xs.map fun s => s.bind d.recognize) = cs.map .ok) :
    ∃ ss : List Sentence, xs = ss.map .ok ∧ ss.map d.recognize = cs.map .ok := by
  induction xs generalizing cs with
  | nil => exact ⟨[], rfl, h⟩
  | cons x xs ih =>
      obtain ⟨c, cs, rfl, hc, hcs⟩ := List.map_eq_cons_iff.mp h.symm
      obtain ⟨ss, rfl, hss⟩ := ih hcs.symm
      cases x with
      | error e => cases hc
      | ok s => exact ⟨s :: ss, rfl, by rw [List.map_cons, List.map_cons, hc, hss]; rfl⟩

/-- A text parses to the nodes that its sentences yield. -/
theorem parse_eq_ok_iff {text : String} {t : Node} :
    d.parse text = .ok t ↔ ∃ (ss : List Sentence) (f : Forest),
      segment d.tags text = ss.map .ok ∧ d.Yields ss f ∧ t = .group f := by
  constructor
  · intro h
    have hrun : ∃ a, Assembly.run {} (d.commands text) = .ok a := by
      cases hr : Assembly.run {} (d.commands text) with
      | error e =>
          rw [parse, assemble, hr] at h
          cases h
      | ok a => exact ⟨a, rfl⟩
    obtain ⟨a, ha⟩ := hrun
    obtain ⟨cs, hcs⟩ := Assembly.exists_of_run ha
    obtain ⟨ss, hss, hread⟩ := exists_of_commands hcs
    rw [parse, hcs] at h
    obtain ⟨f, hw, hs, rfl⟩ := spells_of_assemble h
    exact ⟨ss, f, hss, ⟨cs, hread, hw, hs⟩, rfl⟩
  · rintro ⟨ss, f, hss, ⟨cs, hread, hw, hs⟩, rfl⟩
    have hcs : d.commands text = cs.map .ok := by
      rw [commands, hss, List.map_map, ← hread]
      rfl
    rw [parse, hcs]
    exact assemble_of_spells hw hs

/-- A command of a parsed tree is what its sentence is recognized as. -/
theorem recognize_of_mem_commands {text : String} {t : Node} (h : d.parse text = .ok t)
    {c : Command} (hc : c ∈ t.commands) : d.recognize c.sentence = .ok c := by
  obtain ⟨ss, f, -, ⟨cs, hread, hw, hs⟩, rfl⟩ := parse_eq_ok_iff.mp h
  rw [Node.commands, Forest.commands_of_spells hw hs] at hc
  have hmem : Except.ok c ∈ ss.map d.recognize :=
    hread ▸ List.mem_map_of_mem (List.mem_of_mem_filter hc)
  obtain ⟨s, -, hrec⟩ := List.mem_map.mp hmem
  obtain ⟨directive, rfl, -⟩ := reads_of_recognize hrec
  exact hrec

end Dialect

end Templating
