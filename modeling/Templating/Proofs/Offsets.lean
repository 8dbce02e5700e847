import Templating.Proofs.Marks

/-!
# Where sentences stand

A pass keeps its place in lines and columns as it goes. Counted afresh, the place of
an offset is told by the text before it alone: by its line feeds, and by its
characters since the last of them.

A text falls into stretches, each of which begins at the start or after a tag and
runs up to the next tag. Those that are met while the tags come in turn are what
`InTurn` says, for any two tags, the empty ones included. The sentences of a pass are
those of these stretches that are not empty, at offsets that increase. Its error tells
the line of the first tag that is out of turn, or of the begin tag of a command that
is open at the end.
-/
namespace Templating

/-- The place of the end of a text: one line more than it has line feeds, and one
column more than it has characters since the last of them. -/
def Position.after (s : List Char) : Position :=
  ⟨1 + s.count '\n', 1 + (s.reverse.takeWhile (· != '\n')).length⟩

theorem Position.after_concat (s : List Char) (c : Char) :
    after (s ++ [c]) = (after s).step c := by
  by_cases hc : c = '\n'
  · simp [after, step, hc, Nat.add_assoc]
  · simp [after, step, hc, Nat.add_assoc]

/-- Counting on from a place is counting from the start. -/
theorem Position.pass_after (s w : List Char) : (after s).pass w = after (s ++ w) := by
  induction w generalizing s with
  | nil => rw [List.append_nil]; rfl
  | cons c w ih =>
      calc (after s).pass (c :: w)
          = ((after s).step c).pass w := rfl
        _ = (after (s ++ [c])).pass w := by rw [after_concat]
        _ = after (s ++ c :: w) := by rw [ih, List.append_assoc, List.singleton_append]

example : Position.after "äb\ncd".toList = ⟨2, 3⟩ := by decide

inductive Tag where
  | opening
  | closing
  deriving DecidableEq, Repr

namespace Tags

def spelling (t : Tags) : Tag → List Char
  | .opening => t.opening
  | .closing => t.closing

/-- The tag that is taken at the start of an unread text, the opening one if both
begin there. At the end of the text none is. -/
def tag? (t : Tags) (s : List Char) : Option Tag :=
  if s.isEmpty then none
  else if t.opening.isPrefixOf s then some .opening
  else if t.closing.isPrefixOf s then some .closing
  else none

/-- The stretch from an offset up to the next tag, or up to the end. -/
def stretch (t : Tags) (text : List Char) (o : Nat) : List Char := (t.cut (text.drop o)).1

/-- Where the stretch from an offset ends. -/
def stop (t : Tags) (text : List Char) (o : Nat) : Nat := o + (t.stretch text o).length

/-- The offsets at which a stretch begins, inside a command or outside of one, as long
as the tags before it open and close commands in turn. -/
inductive InTurn (t : Tags) (text : List Char) : Bool → Nat → Prop
  | start : InTurn t text false 0
  | opening {o : Nat} : InTurn t text false o → t.tag? (text.drop (t.stop text o)) = some .opening →
      InTurn t text true (t.stop text o + t.opening.length)
  | closing {o : Nat} : InTurn t text true o → t.tag? (text.drop (t.stop text o)) = some .closing →
      InTurn t text false (t.stop text o + t.closing.length)

/-- A begin tag stands at this offset, where a command may begin. -/
def Opens (t : Tags) (text : List Char) (b : Nat) : Prop :=
  ∃ o, t.InTurn text false o ∧ b = t.stop text o ∧ t.tag? (text.drop b) = some .opening

variable {t : Tags} {text s : List Char} {o : Nat} {tag : Tag}

theorem spelling_prefix_of_tag? (h : t.tag? s = some tag) : t.spelling tag <+: s := by
  unfold tag? at h
  split at h
  · cases h
  split at h
  · cases h
    exact List.isPrefixOf_iff_prefix.mp ‹_›
  split at h
  · cases h
    exact List.isPrefixOf_iff_prefix.mp ‹_›
  · cases h

theorem tag?_eq_opening_iff :
    t.tag? s = some .opening ↔ s.isEmpty = false ∧ t.opening.isPrefixOf s = true := by
  unfold tag?
  cases s.isEmpty <;> cases t.opening.isPrefixOf s <;> cases t.closing.isPrefixOf s <;> simp

theorem tag?_eq_closing_iff :
    t.tag? s = some .closing ↔ s.isEmpty = false ∧ t.opening.isPrefixOf s = false ∧
      t.closing.isPrefixOf s = true := by
  unfold tag?
  cases s.isEmpty <;> cases t.opening.isPrefixOf s <;> cases t.closing.isPrefixOf s <;> simp

/-- At a tag the text up to the next tag is empty. -/
theorem cut_of_tag? (h : t.tag? s = some tag) : t.cut s = ([], s) := by
  cases s with
  | nil => rfl
  | cons c s =>
      have hb : t.begins (c :: s) = true := by
        cases tag with
        | opening =>
            have hp : t.opening <+: c :: s := spelling_prefix_of_tag? h
            simp [begins, List.isPrefixOf_iff_prefix.mpr hp]
        | closing =>
            have hp : t.closing <+: c :: s := spelling_prefix_of_tag? h
            simp [begins, List.isPrefixOf_iff_prefix.mpr hp]
      rw [cut, if_pos hb]

theorem stretch_prefix (t : Tags) (text : List Char) (o : Nat) :
    t.stretch text o <+: text.drop o :=
  ⟨_, t.cut_append (text.drop o)⟩

theorem stop_of_tag? (h : t.tag? (text.drop o) = some tag) : t.stop text o = o := by
  simp [stop, stretch, cut_of_tag? h]

theorem ahead_of_stretch (h : t.stretch text o ≠ []) :
    text.drop o ≠ [] ∧ t.begins (text.drop o) = false := by
  unfold stretch at h
  cases hs : text.drop o with
  | nil =>
      rw [hs] at h
      exact (h rfl).elim
  | cons c s =>
      refine ⟨List.cons_ne_nil c s, Bool.eq_false_iff.mpr fun hb => h ?_⟩
      rw [hs, cut, if_pos hb]

theorem stop_of_end (h : text.drop o = []) : t.stop text o = o := by
  simp [stop, stretch, h, cut]

/-- What follows a stretch. -/
theorem drop_stop (t : Tags) (text : List Char) (o : Nat) :
    text.drop (t.stop text o) = (t.cut (text.drop o)).2 :=
  calc text.drop (o + (t.cut (text.drop o)).1.length)
      = (text.drop o).drop (t.cut (text.drop o)).1.length := by rw [List.drop_drop]
    _ = ((t.cut (text.drop o)).1 ++ (t.cut (text.drop o)).2).drop
          (t.cut (text.drop o)).1.length := by rw [t.cut_append]
    _ = (t.cut (text.drop o)).2 := List.drop_left

theorem stop_le (h : o ≤ text.length) : t.stop text o ≤ text.length := by
  have hl := (t.stretch_prefix text o).length_le
  rw [List.length_drop] at hl
  unfold stop
  omega

theorem le_of_tag? (h : t.tag? (text.drop o) = some tag) :
    o + (t.spelling tag).length ≤ text.length := by
  have hl := (spelling_prefix_of_tag? h).length_le
  rw [List.length_drop] at hl
  by_cases ho : o ≤ text.length
  · omega
  · have he : text.drop o = [] := List.drop_eq_nil_of_le (by omega)
    rw [he] at h
    cases h

theorem InTurn.le {c : Bool} (h : t.InTurn text c o) : o ≤ text.length := by
  cases h with
  | start => exact Nat.zero_le _
  | opening _ h => exact le_of_tag? h
  | closing _ h => exact le_of_tag? h

/-- A stretch inside a command follows a begin tag. -/
theorem InTurn.opens (h : t.InTurn text true o) :
    ∃ b, t.Opens text b ∧ o = b + t.opening.length := by
  cases h with
  | opening hp ht => exact ⟨_, ⟨_, hp, rfl, ht⟩, rfl⟩

theorem Opens.inTurn {b : Nat} (h : t.Opens text b) :
    t.InTurn text true (b + t.opening.length) := by
  obtain ⟨o, ho, rfl, ht⟩ := h
  exact .opening ho ht

end Tags

/-- A sentence is the stretch at an offset of the text, and its place is that of the
offset. -/
structure Sentence.StandsAt (s : Sentence) (t : Tags) (text : List Char) (o : Nat) : Prop where
  inTurn : t.InTurn text s.isCommand o
  text_eq : s.text.toList = t.stretch text o
  text_ne_nil : s.text.toList ≠ []
  place_eq : s.place = Position.after (text.take o)

/-- An error of a pass tells the line of the tag that is out of turn, or of the begin
tag whose inner text runs to the end. -/
inductive Tags.Faults (t : Tags) (text : List Char) : ParseError → Prop
  | strayBeginTag {o : Nat} : t.InTurn text true o →
      t.tag? (text.drop (t.stop text o)) = some .opening →
      t.Faults text (.strayBeginTag (Position.after (text.take (t.stop text o))).line)
  | strayEndTag {o : Nat} : t.InTurn text false o →
      t.tag? (text.drop (t.stop text o)) = some .closing →
      t.Faults text (.strayEndTag (Position.after (text.take (t.stop text o))).line)
  | unterminatedCommand {b : Nat} : t.Opens text b →
      t.stop text (b + t.opening.length) = text.length →
      t.Faults text (.unterminatedCommand (Position.after (text.take b)).line)

/-- Items of a pass with the offsets of their sentences: one after another without
overlap, and at most one error at the end. -/
structure Tags.Placed (t : Tags) (text : List Char) (items : List (Except ParseError Sentence))
    (placed : List (Nat × Sentence)) (fault : Option ParseError) : Prop where
  items_eq : items = placed.map (fun p => .ok p.2) ++ fault.toList.map .error
  standsAt : ∀ p ∈ placed, p.2.StandsAt t text p.1
  ordered : placed.Pairwise fun p q => p.1 + p.2.text.toList.length ≤ q.1
  faults : ∀ e ∈ fault, t.Faults text e

/-- A stretch as a sentence, unless it is empty. -/
def Sentence.ofStretch (before : List Char) (isCommand : Bool) (w : List Char) : List Sentence :=
  if w.isEmpty then [] else [⟨String.ofList w, isCommand, Position.after before⟩]

theorem Sentence.StandsAt.mem_ofStretch {s : Sentence} {t : Tags} {text : List Char} {o : Nat}
    (h : s.StandsAt t text o) :
    s ∈ ofStretch (text.take o) s.isCommand (t.stretch text o) := by
  have hne : (s.text.toList).isEmpty = false := by simpa using h.text_ne_nil
  rw [ofStretch, ← h.text_eq, hne, String.ofList_toList, ← h.place_eq]
  exact List.mem_singleton.mpr rfl

namespace Reading
variable {t : Tags} {text : List Char} {r r' : Reading} {p o : Nat}

/-- A pass that has come to an offset: it is at the begin or at the end of the stretch
from `p`, and in a command it knows the line of the begin tag. -/
structure At (t : Tags) (text : List Char) (r : Reading) (p o : Nat) : Prop where
  rest_eq : r.rest = text.drop o
  place_eq : r.place = Position.after (text.take o)
  failed_eq : r.failed = false
  inTurn : t.InTurn text r.inCommand p
  bound : o = p ∨ o = t.stop text p
  command : r.inCommand = true → ∃ b, p = b + t.opening.length ∧ t.Opens text b ∧
    r.commandLine = (Position.after (text.take b)).line

theorem At.start (t : Tags) (text : List Char) : At t text { rest := text } 0 0 where
  rest_eq := rfl
  place_eq := rfl
  failed_eq := rfl
  inTurn := .start
  bound := .inl rfl
  command := nofun

theorem At.advance_rest (h : r.At t text p o) (n : Nat) :
    (r.advance n).rest = text.drop (o + n) := by
  rw [advance, h.rest_eq, List.drop_drop]

theorem At.advance_place (h : r.At t text p o) (n : Nat) :
    (r.advance n).place = Position.after (text.take (o + n)) := by
  rw [advance, h.rest_eq, h.place_eq, Position.pass_after, ← List.take_add]

/-- At a tag the present stretch is over. -/
theorem At.over_of_tag? {tag : Tag} (h : r.At t text p o)
    (ht : t.tag? (text.drop o) = some tag) : o = t.stop text p := by
  rcases h.bound with rfl | ho
  · exact (Tags.stop_of_tag? ht).symm
  · exact ho

theorem At.over_of_end (h : r.At t text p o) (he : text.drop o = []) : o = t.stop text p := by
  rcases h.bound with rfl | ho
  · exact (Tags.stop_of_end he).symm
  · exact ho

/-- Where no tag begins a whole stretch is still to be read. -/
theorem At.stretch_ahead (h : r.At t text p o) (he : text.drop o ≠ [])
    (hb : t.begins (text.drop o) = false) : o = p := by
  rcases h.bound with ho | rfl
  · exact ho
  · rw [t.drop_stop] at he hb
    rcases t.cut_snd (text.drop p) with hnil | hbegins
    · exact (he hnil).elim
    · rw [hbegins] at hb
      cases hb

theorem At.opening (h : r.At t text p o) (hc : r.inCommand = false)
    (ht : t.tag? (text.drop o) = some .opening) :
    At t text { r.advance t.opening.length with inCommand := true, commandLine := r.place.line }
      (o + t.opening.length) (o + t.opening.length) := by
  obtain rfl := h.over_of_tag? ht
  have hp := h.inTurn
  rw [hc] at hp
  exact {
    rest_eq := h.advance_rest _
    place_eq := h.advance_place _
    failed_eq := h.failed_eq
    inTurn := .opening hp ht
    bound := .inl rfl
    command := fun _ => ⟨_, rfl, ⟨p, hp, rfl, ht⟩, by rw [h.place_eq]⟩ }

theorem At.closing (h : r.At t text p o) (hc : r.inCommand = true)
    (ht : t.tag? (text.drop o) = some .closing) :
    At t text { r.advance t.closing.length with inCommand := false }
      (o + t.closing.length) (o + t.closing.length) := by
  obtain rfl := h.over_of_tag? ht
  have hp := h.inTurn
  rw [hc] at hp
  exact {
    rest_eq := h.advance_rest _
    place_eq := h.advance_place _
    failed_eq := h.failed_eq
    inTurn := .closing hp ht
    bound := .inl rfl
    command := nofun }

/-- Past a stretch that is read as a whole. -/
theorem At.stretch (h : r.At t text p p) :
    (r.advance (t.stretch text p).length).At t text p (t.stop text p) where
  rest_eq := h.advance_rest _
  place_eq := h.advance_place _
  failed_eq := h.failed_eq
  inTurn := h.inTurn
  bound := .inr rfl
  command := h.command

theorem At.tag?_of_opening (h : r.At t text p o) (he : ¬r.rest.isEmpty = true)
    (hb : t.opening.isPrefixOf r.rest = true) : t.tag? (text.drop o) = some .opening := by
  rw [h.rest_eq] at he hb
  exact Tags.tag?_eq_opening_iff.mpr ⟨by simpa using he, hb⟩

theorem At.tag?_of_closing (h : r.At t text p o) (he : ¬r.rest.isEmpty = true)
    (ho : ¬t.opening.isPrefixOf r.rest = true) (hb : t.closing.isPrefixOf r.rest = true) :
    t.tag? (text.drop o) = some .closing := by
  rw [h.rest_eq] at he hb
  rw [h.rest_eq, Bool.not_eq_true] at ho
  exact Tags.tag?_eq_closing_iff.mpr ⟨by simpa using he, ho, hb⟩

/-- A stretch that is not empty is the next sentence. -/
theorem At.standsAt (h : r.At t text p p) (hw : t.stretch text p ≠ []) :
    Sentence.StandsAt ⟨String.ofList (t.stretch text p), r.inCommand, r.place⟩ t text p where
  inTurn := h.inTurn
  text_eq := String.toList_ofList
  text_ne_nil := by rwa [String.toList_ofList]
  place_eq := h.place_eq

/-- What a pass yields from an offset on: a sentence that is not behind it and from whose
end the pass goes on, or an error that ends it. -/
def Yields (t : Tags) (text : List Char) (o : Nat) :
    Option (Except ParseError Sentence) × Reading → Prop
  | (none, _) => True
  | (some (.error e), r) => r.failed = true ∧ t.Faults text e
  | (some (.ok s), r) =>
      ∃ p, o ≤ p ∧ s.StandsAt t text p ∧ r.At t text p (p + s.text.toList.length)

theorem Yields.of_le {o o' : Nat} {y : Option (Except ParseError Sentence) × Reading}
    (hy : Yields t text o' y) (h : o ≤ o') : Yields t text o y := by
  obtain ⟨_ | e | s, r⟩ := y
  · trivial
  · exact hy
  · obtain ⟨p, hp, hs⟩ := hy
    exact ⟨p, Nat.le_trans h hp, hs⟩

/-- What the next turns of a pass yield stands in the text. -/
theorem At.next (h : r.At t text p o) : Yields t text o (r.next t) := by
  fun_induction Reading.next t r generalizing p o with
  | case1 r hf => simp [h.failed_eq] at hf
  | case2 r _ he hc =>
      rw [List.isEmpty_iff, h.rest_eq] at he
      obtain ⟨b, rfl, hopens, hline⟩ := h.command hc
      refine ⟨rfl, hline ▸ .unterminatedCommand hopens ?_⟩
      have hle := Tags.stop_le (t := t) hopens.inTurn.le
      have hge : text.length ≤ o := List.drop_eq_nil_iff.mp he
      have ho := h.over_of_end he
      omega
  | case3 r _ _ _ => trivial
  | case4 r _ he hb hc =>
      have ht := h.tag?_of_opening he hb
      obtain rfl := h.over_of_tag? ht
      rw [h.place_eq]
      exact ⟨rfl, .strayBeginTag (hc ▸ h.inTurn) ht⟩
  | case5 r _ he hb hc ih =>
      have hr := h.opening (by simpa using hc) (h.tag?_of_opening he hb)
      exact (ih hr).of_le (Nat.le_add_right _ _)
  | case6 r _ he hb hce hc ih =>
      have hr := h.closing hc (h.tag?_of_closing he hb hce)
      exact (ih hr).of_le (Nat.le_add_right _ _)
  | case7 r _ he hb hce hc =>
      have ht := h.tag?_of_closing he hb hce
      obtain rfl := h.over_of_tag? ht
      rw [Bool.not_eq_true] at hc
      rw [h.place_eq]
      exact ⟨rfl, .strayEndTag (hc ▸ h.inTurn) ht⟩
  | case8 r _ he hb hce =>
      rename_i w
      have hn : t.begins r.rest = false := by simp [Tags.begins, hb, hce]
      have hw : w = t.stretch text o := by rw [Tags.stretch, ← h.rest_eq]
      have hne : w ≠ [] := List.ne_nil_of_length_pos (t.cut_length_pos (by simpa using he) hn)
      rw [h.rest_eq] at he hn
      obtain rfl := h.stretch_ahead (by simpa using he) hn
      rw [hw] at hne ⊢
      refine ⟨o, Nat.le_refl o, h.standsAt hne, ?_⟩
      rw [String.toList_ofList]
      exact h.stretch

/-- What a whole pass yields stands in the text, in the order of the text. -/
theorem At.items (h : r.At t text p o) :
    ∃ placed fault, t.Placed text (r.items t) placed fault ∧ ∀ q ∈ placed, o ≤ q.1 := by
  have hn := h.next
  fun_induction Reading.items t r generalizing p o with
  | case1 r r' hr => exact ⟨[], none, ⟨rfl, by simp, .nil, by simp⟩, by simp⟩
  | case2 r x r' hr ih =>
      rw [hr] at hn
      cases x with
      | error e =>
          obtain ⟨hf', he⟩ := hn
          refine ⟨[], some e, ⟨?_, by simp, .nil, by simpa using he⟩, by simp⟩
          rw [items_of_failed t hf']
          rfl
      | ok s =>
          obtain ⟨o', ho, hs, hr'⟩ := hn
          obtain ⟨placed, fault, hp, hle⟩ := ih hr' hr'.next
          refine ⟨(o', s) :: placed, fault, ⟨by rw [hp.items_eq]; rfl, ?_, ?_, hp.faults⟩, ?_⟩
          · exact List.forall_mem_cons.mpr ⟨hs, hp.standsAt⟩
          · exact .cons hle hp.ordered
          · refine List.forall_mem_cons.mpr ⟨ho, fun q hmem => ?_⟩
            have := hle q hmem
            omega

theorem items_of_next {x : Except ParseError Sentence} (h : r.next t = (some x, r')) :
    r.items t = x :: r'.items t := by
  rw [Reading.items]
  split <;> simp_all

theorem items_of_error {e : ParseError}
    (h : r.next t = (some (.error e), { r with failed := true })) : r.items t = [.error e] := by
  rw [items_of_next h, items_of_failed t rfl]

theorem items_congr (h : r.next t = r'.next t) : r.items t = r'.items t := by
  rw [Reading.items, Reading.items]
  split <;> split <;> simp_all

theorem At.items_opening (h : r.At t text p o) (hc : r.inCommand = false)
    (ht : t.tag? (text.drop o) = some .opening) :
    r.items t = Reading.items t
      { r.advance t.opening.length with inCommand := true, commandLine := r.place.line } := by
  rw [← h.rest_eq, Tags.tag?_eq_opening_iff] at ht
  apply items_congr
  rw [Reading.next]
  simp [h.failed_eq, hc, ht]

theorem At.items_closing (h : r.At t text p o) (hc : r.inCommand = true)
    (ht : t.tag? (text.drop o) = some .closing) :
    r.items t = Reading.items t { r.advance t.closing.length with inCommand := false } := by
  rw [← h.rest_eq, Tags.tag?_eq_closing_iff] at ht
  apply items_congr
  rw [Reading.next]
  simp [h.failed_eq, hc, ht]

/-- The stretch at which a pass stands is yielded, unless it is empty. -/
theorem At.items_stretch (h : r.At t text p p) :
    r.items t = (Sentence.ofStretch (text.take p) r.inCommand (t.stretch text p)).map .ok ++
      (r.advance (t.stretch text p).length).items t := by
  by_cases hw : t.stretch text p = []
  · rw [hw]
    rfl
  · obtain ⟨hs, hb⟩ := Tags.ahead_of_stretch hw
    rw [← h.rest_eq] at hs hb
    have hn : r.next t = (some (.ok ⟨String.ofList (t.stretch text p), r.inCommand, r.place⟩),
        r.advance (t.stretch text p).length) := by
      rw [Tags.begins, Bool.or_eq_false_iff] at hb
      rw [Reading.next, Tags.stretch, ← h.rest_eq]
      simp [h.failed_eq, hs, hb]
    rw [items_of_next hn, h.place_eq, Sentence.ofStretch, if_neg (by simpa using hw)]
    rfl

/-- Every stretch in turn is come to. -/
theorem exists_of_inTurn {c : Bool} (h : t.InTurn text c o) :
    ∃ (pre : List (Except ParseError Sentence)) (r : Reading),
      Reading.items t { rest := text } = pre ++ r.items t ∧ r.At t text o o ∧
        r.inCommand = c := by
  induction h with
  | start => exact ⟨[], { rest := text }, rfl, .start t text, rfl⟩
  | @opening o _ ht ih =>
      obtain ⟨pre, r, hpre, hr, hc⟩ := ih
      rw [hr.items_stretch, hr.stretch.items_opening hc ht, ← List.append_assoc] at hpre
      exact ⟨_, _, hpre, hr.stretch.opening hc ht, rfl⟩
  | @closing o _ ht ih =>
      obtain ⟨pre, r, hpre, hr, hc⟩ := ih
      rw [hr.items_stretch, hr.stretch.items_closing hc ht, ← List.append_assoc] at hpre
      exact ⟨_, _, hpre, hr.stretch.closing hc ht, rfl⟩

theorem At.items_strayBeginTag (h : r.At t text p o) (hc : r.inCommand = true)
    (ht : t.tag? (text.drop o) = some .opening) :
    r.items t = [.error (.strayBeginTag (Position.after (text.take o)).line)] := by
  rw [← h.rest_eq, Tags.tag?_eq_opening_iff] at ht
  rw [← h.place_eq]
  apply items_of_error
  rw [Reading.next]
  simp [h.failed_eq, hc, ht]

theorem At.items_strayEndTag (h : r.At t text p o) (hc : r.inCommand = false)
    (ht : t.tag? (text.drop o) = some .closing) :
    r.items t = [.error (.strayEndTag (Position.after (text.take o)).line)] := by
  rw [← h.rest_eq, Tags.tag?_eq_closing_iff] at ht
  rw [← h.place_eq]
  apply items_of_error
  rw [Reading.next]
  simp [h.failed_eq, hc, ht]

theorem At.items_unterminatedCommand {b : Nat} (h : r.At t text (b + t.opening.length) o)
    (hc : r.inCommand = true) (he : text.drop o = []) :
    r.items t = [.error (.unterminatedCommand (Position.after (text.take b)).line)] := by
  obtain ⟨b', hb', -, hline⟩ := h.command hc
  obtain rfl : b = b' := Nat.add_right_cancel hb'
  rw [← hline]
  apply items_of_error
  rw [Reading.next]
  simp [h.failed_eq, hc, h.rest_eq, he]

end Reading

/-- Whatever stands in turn is yielded. -/
theorem mem_segment_of_standsAt {t : Tags} {text : String} {s : Sentence} {o : Nat}
    (h : s.StandsAt t text.toList o) : .ok s ∈ segment t text := by
  obtain ⟨pre, r, hpre, hr, hc⟩ := Reading.exists_of_inTurn h.inTurn
  rw [segment, hpre, hr.items_stretch, hc]
  exact List.mem_append_right _ (List.mem_append_left _ (List.mem_map_of_mem h.mem_ofStretch))

/-- Whatever is out of turn is reported. -/
theorem mem_segment_of_faults {t : Tags} {text : String} {e : ParseError}
    (h : t.Faults text.toList e) : .error e ∈ segment t text := by
  have hlast : ∀ {c : Bool} {o : Nat}, t.InTurn text.toList c o →
      (∀ r : Reading, r.At t text.toList o (t.stop text.toList o) → r.inCommand = c →
        r.items t = [.error e]) → .error e ∈ segment t text := by
    intro c o ho hitems
    obtain ⟨pre, r, hpre, hr, hc⟩ := Reading.exists_of_inTurn ho
    rw [segment, hpre, hr.items_stretch, hitems _ hr.stretch hc]
    simp
  cases h with
  | strayBeginTag ho ht => exact hlast ho fun r hr hc => hr.items_strayBeginTag hc ht
  | strayEndTag ho ht => exact hlast ho fun r hr hc => hr.items_strayEndTag hc ht
  | unterminatedCommand hb hstop =>
      refine hlast hb.inTurn fun r hr hc => hr.items_unterminatedCommand hc ?_
      rw [hstop]
      exact List.drop_length

/-- Every text can be cut, and its sentences stand in it. -/
theorem exists_placed (t : Tags) (text : String) :
    ∃ placed fault, t.Placed text.toList (segment t text) placed fault := by
  obtain ⟨placed, fault, hp, -⟩ := (Reading.At.start t text.toList).items
  exact ⟨placed, fault, hp⟩

/-- Whatever the tags are, the sentences of a text are the stretches of it that stand in
turn, disjoint and in their order, each with the line and column of its offset, and the
error that may end them tells the line of the tag it is about. -/
theorem segment_stands (t : Tags) (text : String) :
    (∃ (placed : List (Nat × Sentence)) (fault : Option ParseError),
      segment t text = placed.map (fun p => .ok p.2) ++ fault.toList.map .error ∧
      (∀ p ∈ placed, p.2.StandsAt t text.toList p.1 ∧
        p.2.text.toList <+: text.toList.drop p.1) ∧
      (placed.Pairwise fun p q => p.1 + p.2.text.toList.length ≤ q.1) ∧
      ∀ e ∈ fault, t.Faults text.toList e) ∧
    (∀ s o, s.StandsAt t text.toList o → .ok s ∈ segment t text) ∧
    ∀ e, t.Faults text.toList e → .error e ∈ segment t text := by
  refine ⟨?_, fun s o => mem_segment_of_standsAt, fun e => mem_segment_of_faults⟩
  obtain ⟨placed, fault, hp⟩ := exists_placed t text
  refine ⟨placed, fault, hp.items_eq, fun p hmem => ?_, hp.ordered, hp.faults⟩
  have hs := hp.standsAt p hmem
  exact ⟨hs, hs.text_eq ▸ t.stretch_prefix text.toList p.1⟩

end Templating
