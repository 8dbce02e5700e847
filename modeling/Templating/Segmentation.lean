import Templating.ParseError

/-!
# Cutting a text into sentences

One forward pass finds the tags from left to right. At a place where a tag
begins the tag is read; elsewhere a sentence runs up to the next place where
one does. The tags need not be sensible: with an empty or repeated tag the pass
still ends, since a tag that consumes nothing can be read only once before the
next turn has to fail. An error ends the pass.
-/
namespace Templating

/-- The two delimiters of a command. -/
structure Tags where
  opening : List Char
  closing : List Char
  deriving DecidableEq, Repr

/-- Whether one of the tags begins at the start of this text. -/
def Tags.begins (t : Tags) (s : List Char) : Bool :=
  t.opening.isPrefixOf s || t.closing.isPrefixOf s

/-- The stretch up to the first place where a tag begins, and what follows it. -/
def Tags.cut (t : Tags) : List Char → List Char × List Char
  | [] => ([], [])
  | c :: s =>
      if t.begins (c :: s) then ([], c :: s)
      else
        let p := t.cut s
        (c :: p.1, p.2)

theorem Tags.cut_append (t : Tags) (s : List Char) : (t.cut s).1 ++ (t.cut s).2 = s := by
  induction s with
  | nil => rfl
  | cons c s ih =>
      unfold Tags.cut
      split
      · rfl
      · simp [ih]

/-- A pass under way: the unread text and its place, whether a command is open
and at which line it began, and whether an error has been reported. -/
structure Reading where
  rest : List Char
  place : Position := {}
  inCommand : Bool := false
  commandLine : Nat := 1
  failed : Bool := false
  deriving DecidableEq, Repr

/-- Past the first `n` characters of the unread text. -/
def Reading.advance (r : Reading) (n : Nat) : Reading :=
  { r with rest := r.rest.drop n, place := r.place.pass (r.rest.take n) }

/-- Bounds the turns that are left before the next sentence: two for each unread
character, and one while an empty tag could still be read in the present mode. -/
def Reading.turns (t : Tags) (r : Reading) : Nat :=
  2 * r.rest.length + (r.inCommand ^^ t.opening.isEmpty).toNat

/-- A begin tag that is taken uses up text, or the one turn of an empty tag. -/
theorem Reading.turns_opening_lt {t : Tags} {r : Reading} (line : Nat)
    (hb : t.opening.isPrefixOf r.rest = true) (hc : ¬r.inCommand = true) :
    Reading.turns t { r.advance t.opening.length with inCommand := true, commandLine := line } <
      r.turns t := by
  have hl := (List.isPrefixOf_iff_prefix.mp hb).length_le
  simp only [Reading.turns, Reading.advance, List.length_drop]
  cases ho : t.opening with
  | nil => simp [Bool.eq_false_iff.mpr hc]
  | cons c s =>
      rw [ho] at hl
      simp only [List.length_cons] at hl
      simp [Bool.eq_false_iff.mpr hc]
      omega

/-- An end tag is taken only where no begin tag stands, so that the begin tag is not empty and
the turn that is left for an empty one goes down. -/
theorem Reading.turns_closing_lt {t : Tags} {r : Reading}
    (hb : ¬t.opening.isPrefixOf r.rest = true) (hc : r.inCommand = true) :
    Reading.turns t { r.advance t.closing.length with inCommand := false } < r.turns t := by
  have hn : t.opening.isEmpty = false := by
    cases ho : t.opening with
    | nil => simp [ho] at hb
    | cons c s => rfl
  simp only [Reading.turns, Reading.advance, List.length_drop, hn, hc, Bool.xor_false,
    Bool.toNat_false, Bool.toNat_true]
  omega

/-- Reads tags until there is a sentence, an error or the end of the text. -/
def Reading.next (t : Tags) (r : Reading) : Option (Except ParseError Sentence) × Reading :=
  if r.failed then (none, r)
  else if r.rest.isEmpty then
    if r.inCommand then
      (some (.error (.unterminatedCommand r.commandLine)), { r with failed := true })
    else (none, r)
  else if t.opening.isPrefixOf r.rest then
    if r.inCommand then
      (some (.error (.strayBeginTag r.place.line)), { r with failed := true })
    else
      Reading.next t
        { r.advance t.opening.length with inCommand := true, commandLine := r.place.line }
  else if t.closing.isPrefixOf r.rest then
    if r.inCommand then
      Reading.next t { r.advance t.closing.length with inCommand := false }
    else (some (.error (.strayEndTag r.place.line)), { r with failed := true })
  else
    let text := (t.cut r.rest).1
    (some (.ok ⟨String.ofList text, r.inCommand, r.place⟩), r.advance text.length)
termination_by r.turns t
decreasing_by
  · exact Reading.turns_opening_lt _ ‹_› ‹_›
  · exact Reading.turns_closing_lt ‹_› ‹_›

/-- What is left to yield: the unread characters, and one item for an error. -/
def Reading.size (r : Reading) : Nat :=
  r.rest.length + (!r.failed).toNat

theorem Tags.cut_length_pos (t : Tags) {s : List Char} (hs : s.isEmpty = false)
    (hb : t.begins s = false) : 0 < (t.cut s).1.length := by
  cases s with
  | nil => simp at hs
  | cons c s => simp [Tags.cut, hb]

/-- Each item that is yielded uses up unread text or ends the pass. -/
theorem Reading.next_size_lt {t : Tags} {r r' : Reading} {x : Except ParseError Sentence}
    (h : r.next t = (some x, r')) : r'.size < r.size := by
  fun_induction Reading.next t r with
  | case1 r hf => simp at h
  | case2 r hf he hc =>
      simp only [Prod.mk.injEq, Option.some.injEq] at h
      obtain ⟨-, rfl⟩ := h
      simp [Reading.size, Bool.eq_false_iff.mpr hf]
  | case3 r hf he hc => simp at h
  | case4 r hf he hb hc =>
      simp only [Prod.mk.injEq, Option.some.injEq] at h
      obtain ⟨-, rfl⟩ := h
      simp [Reading.size, Bool.eq_false_iff.mpr hf]
  | case5 r hf he hb hc ih =>
      have := ih h
      simp only [Reading.size, Reading.advance, List.length_drop] at this ⊢
      omega
  | case6 r hf _ hb hce hc ih =>
      have := ih h
      simp only [Reading.size, Reading.advance, List.length_drop] at this ⊢
      omega
  | case7 r hf he hb hce hc =>
      simp only [Prod.mk.injEq, Option.some.injEq] at h
      obtain ⟨-, rfl⟩ := h
      simp [Reading.size, Bool.eq_false_iff.mpr hf]
  | case8 r hf he hb hce text =>
      simp only [Prod.mk.injEq, Option.some.injEq] at h
      obtain ⟨-, rfl⟩ := h
      have hpos := t.cut_length_pos (Bool.eq_false_iff.mpr he)
        (by simp [Tags.begins, Bool.eq_false_iff.mpr hb, Bool.eq_false_iff.mpr hce])
      have hl : 0 < r.rest.length := by
        cases hr : r.rest with
        | nil => simp [hr] at he
        | cons c s => simp
      simp only [Reading.size, Reading.advance, List.length_drop]
      change 0 < text.length at hpos
      omega

def Reading.items (t : Tags) (r : Reading) : List (Except ParseError Sentence) :=
  match _h : r.next t with
  | (none, _) => []
  | (some x, r') => x :: r'.items t
termination_by r.size
decreasing_by exact Reading.next_size_lt _h

/-- The sentences of a text in order, up to the first error. -/
def segment (t : Tags) (text : String) : List (Except ParseError Sentence) :=
  Reading.items t { rest := text.toList }

end Templating
