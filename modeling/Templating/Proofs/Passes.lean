import Templating.Proofs.Offsets

/-!
# Every pass over a text ends

Nothing is asked of the tags of a pass. An empty tag is found at every place, equal tags leave
nothing to tell begin from end, and of two tags of which one begins the other the longer may
never be found. A call of the next sentence takes turns until it can answer, and an empty tag
makes turns that read nothing. Still each turn but the last uses up text, or changes to a mode
in which the empty tag is an error.

`segment_ends` says that all calls answer, after a number of turns that the unread text bounds,
that together they yield few sentences, none of them empty, and at most one error, which is the
last item, and that the cursor, which moves by the bytes of what a turn reads, never stands
inside a character or outside of the text.
-/
namespace Templating
open Text
namespace Reading

/-- What a turn comes to, with the text that it reads: the call goes on, or it is answered. -/
inductive Turn where
  | again (taken : List Char) (r : Reading)
  | answer (taken : List Char) (item : Option (Except ParseError Sentence)) (r : Reading)

namespace Turn

/-- A tag as it is spelled, or a sentence, or nothing. -/
def taken : Turn → List Char
  | again w _ | answer w _ _ => w

/-- The pass after the turn. -/
def reading : Turn → Reading
  | again _ r | answer _ _ r => r

end Turn

/-- One turn of a call, in which at most one tag is read. -/
def turn (t : Tags) (r : Reading) : Turn :=
  if r.failed then .answer [] none r
  else if r.rest.isEmpty then
    if r.inCommand then
      .answer [] (some (.error (.unterminatedCommand r.commandLine))) { r with failed := true }
    else .answer [] none r
  else if t.opening.isPrefixOf r.rest then
    if r.inCommand then
      .answer [] (some (.error (.strayBeginTag r.place.line))) { r with failed := true }
    else
      .again t.opening
        { r.advance t.opening.length with inCommand := true, commandLine := r.place.line }
  else if t.closing.isPrefixOf r.rest then
    if r.inCommand then
      .again t.closing { r.advance t.closing.length with inCommand := false }
    else .answer [] (some (.error (.strayEndTag r.place.line))) { r with failed := true }
  else
    let text := (t.cut r.rest).1
    .answer text (some (.ok ⟨String.ofList text, r.inCommand, r.place⟩)) (r.advance text.length)

/-- A call answers in its `n`-th turn. -/
inductive Answers (t : Tags) :
    Nat → Reading → Option (Except ParseError Sentence) → Reading → Prop
  | now {r r' : Reading} {w : List Char} {item : Option (Except ParseError Sentence)} :
      r.turn t = .answer w item r' → Answers t 1 r item r'
  | later {r r' r'' : Reading} {w : List Char} {item : Option (Except ParseError Sentence)}
      {n : Nat} : r.turn t = .again w r' → Answers t n r' item r'' → Answers t (n + 1) r item r''

/-- A pass over a text, at the start of a turn, and the byte at which its cursor stands. The
cursor moves by the bytes of what is read. -/
inductive CursorAt (t : Tags) (text : String) : Reading → Nat → Prop
  | start : CursorAt t text { rest := text.toList } 0
  | turn {r : Reading} {byte : Nat} : CursorAt t text r byte →
      CursorAt t text (r.turn t).reading (byte + (String.ofList (r.turn t).taken).utf8ByteSize)

/-- A pass after this many calls. -/
def after (t : Tags) (r : Reading) : Nat → Reading
  | 0 => r
  | n + 1 => after t (r.next t).2 n

/-- What the call after `n` others gives. -/
def answer (t : Tags) (r : Reading) (n : Nat) : Option (Except ParseError Sentence) :=
  ((r.after t n).next t).1

variable {t : Tags} {text : String} {r r' : Reading} {item : Option (Except ParseError Sentence)}

/-- A call comes to its answer, in few turns. -/
theorem exists_answers (t : Tags) (r : Reading) :
    ∃ n ≤ r.turns t + 1, Answers t n r (r.next t).1 (r.next t).2 := by
  fun_induction Reading.next t r with
  | case5 r hf he hb hc ih =>
      obtain ⟨n, hn, h⟩ := ih
      have hlt := turns_opening_lt r.place.line hb hc
      refine ⟨n + 1, by omega, .later (w := t.opening) ?_ h⟩
      simp [turn, hf, he, hb, hc]
  | case6 r hf he hb hce hc ih =>
      obtain ⟨n, hn, h⟩ := ih
      have hlt := turns_closing_lt hb hc
      refine ⟨n + 1, by omega, .later (w := t.closing) ?_ h⟩
      simp [turn, hf, he, hb, hce, hc]
  | case8 r hf he hb hce text =>
      refine ⟨1, Nat.le_add_left _ _, .now (w := text) ?_⟩
      simp [turn, hf, he, hb, hce, text]
  | case1 | case2 | case3 | case4 | case7 =>
      refine ⟨1, Nat.le_add_left _ _, .now (w := []) ?_⟩
      simp_all [turn]

/-- An empty begin tag is taken, and in the next turn it is an error in the command. -/
example : (Reading.next ⟨[], ['.']⟩ { rest := "Dear".toList }).1 =
    some (.error (.strayBeginTag 1)) := by
  cbv

theorem turns_le (t : Tags) (r : Reading) : r.turns t ≤ 2 * r.rest.length + 1 :=
  Nat.add_le_add_left (Bool.toNat_le _) _

/-- A turn reads a beginning of the unread text and leaves the rest of it. -/
theorem rest_eq_taken_append (t : Tags) (r : Reading) :
    r.rest = (r.turn t).taken ++ (r.turn t).reading.rest := by
  have hread : ∀ {w : List Char}, w <+: r.rest → r.rest = w ++ (r.advance w.length).rest := by
    intro w hw
    exact (List.prefix_iff_eq_append.mp hw).symm
  unfold turn
  split
  · rfl
  split
  · split <;> rfl
  split
  · rename_i hb
    split
    · rfl
    · exact hread (List.isPrefixOf_iff_prefix.mp hb)
  split
  · rename_i hce
    split
    · exact hread (List.isPrefixOf_iff_prefix.mp hce)
    · rfl
  · exact hread ⟨_, t.cut_append r.rest⟩

/-- Before its cursor a pass has read a beginning of the text. -/
theorem CursorAt.exists_read {byte : Nat} (h : CursorAt t text r byte) :
    ∃ read : String, text = read ++ String.ofList r.rest ∧ byte = read.utf8ByteSize := by
  induction h with
  | start => exact ⟨"", by simp, rfl⟩
  | @turn r byte _ ih =>
      obtain ⟨read, htext, hbyte⟩ := ih
      refine ⟨read ++ String.ofList (r.turn t).taken, ?_, ?_⟩
      · rw [String.append_assoc, ← String.ofList_append, ← rest_eq_taken_append, htext]
      · rw [String.utf8ByteSize_append, hbyte]

theorem CursorAt.of_answers {n byte : Nat} (h : Answers t n r item r')
    (hr : CursorAt t text r byte) : ∃ byte', CursorAt t text r' byte' := by
  induction h generalizing byte with
  | now hturn => exact ⟨_, (congrArg Turn.reading hturn) ▸ hr.turn⟩
  | later hturn _ ih => exact ih ((congrArg Turn.reading hturn) ▸ hr.turn)

/-- The cursor is followed through all calls. -/
theorem CursorAt.after {byte : Nat} (hr : CursorAt t text r byte) (n : Nat) :
    ∃ byte', CursorAt t text (r.after t n) byte' := by
  induction n generalizing r byte with
  | zero => exact ⟨byte, hr⟩
  | succ n ih =>
      obtain ⟨_, -, hanswers⟩ := exists_answers t r
      obtain ⟨byte', hnext⟩ := CursorAt.of_answers hanswers hr
      exact ih hnext

/-- A pass that is over stays over. -/
theorem next_of_none (h : r.next t = (none, r')) : r'.next t = (none, r') := by
  fun_induction Reading.next t r with
  | case1 r hf =>
      obtain rfl := (Prod.mk.inj h).2
      rw [Reading.next, if_pos hf]
  | case3 r hf he hc =>
      obtain rfl := (Prod.mk.inj h).2
      rw [Reading.next]
      simp [hf, he, hc]
  | case5 _ _ _ _ _ ih | case6 _ _ _ _ _ _ ih => exact ih h
  | case2 | case4 | case7 | case8 => cases (Prod.mk.inj h).1

theorem answer_zero (h : r.next t = (item, r')) : r.answer t 0 = item := by
  rw [answer, after, h]

theorem answer_succ (h : r.next t = (item, r')) (n : Nat) :
    r.answer t (n + 1) = r'.answer t n := by
  rw [answer, after, h]
  rfl

theorem answer_of_none (h : r.next t = (none, r')) (n : Nat) : r.answer t n = none := by
  induction n generalizing r r' with
  | zero => exact answer_zero h
  | succ n ih => exact (answer_succ h n).trans (ih (next_of_none h))

/-- The calls of a pass give its items in their order, and nothing more. -/
theorem answer_eq (t : Tags) (r : Reading) (n : Nat) : r.answer t n = (r.items t)[n]? := by
  fun_induction Reading.items t r generalizing n with
  | case1 r r' h => rw [answer_of_none h, List.getElem?_nil]
  | case2 r x r' h ih =>
      cases n with
      | zero => rw [answer_zero h, List.getElem?_cons_zero]
      | succ n => rw [answer_succ h, List.getElem?_cons_succ, ih]

theorem length_items_le (t : Tags) (r : Reading) : (r.items t).length ≤ r.size := by
  fun_induction Reading.items t r with
  | case1 => exact Nat.zero_le _
  | case2 r x r' h ih => exact Nat.lt_of_le_of_lt ih (next_size_lt h)

end Reading

open Reading
variable {t : Tags} {text : String}

/-- An error among such items is the last of them. -/
theorem length_le_of_error {items : List (Except ParseError Sentence)} {sentences : List Sentence}
    {fault? : Option ParseError} {e : ParseError} {n : Nat}
    (hitems : items = sentences.map .ok ++ fault?.toList.map .error)
    (h : items[n]? = some (.error e)) : items.length ≤ n + 1 := by
  subst hitems
  have hfault : fault?.toList.length ≤ 1 := by cases fault? <;> simp
  rw [List.getElem?_append] at h
  split at h
  · simp [List.getElem?_map] at h
  · rename_i hn
    simp only [List.length_append, List.length_map] at hn ⊢
    omega

/-- Sentences that are not empty, and at the end perhaps an error. -/
theorem exists_sentences (t : Tags) (text : String) :
    ∃ (sentences : List Sentence) (fault? : Option ParseError),
      segment t text = sentences.map .ok ++ fault?.toList.map .error ∧
        ∀ s ∈ sentences, s.text ≠ "" := by
  obtain ⟨placed, fault, hp⟩ := exists_placed t text
  refine ⟨placed.map Prod.snd, fault, ?_, fun s hs => ?_⟩
  · rw [hp.items_eq, List.map_map]
    rfl
  · obtain ⟨p, hmem, rfl⟩ := List.mem_map.mp hs
    intro he
    exact (hp.standsAt p hmem).text_ne_nil (by rw [he]; rfl)

/-- After the end or an error there is nothing more. -/
theorem answer_of_over {m n : Nat} (hmn : m < n)
    (h : Reading.answer t { rest := text.toList } m = none ∨
      ∃ e, Reading.answer t { rest := text.toList } m = some (.error e)) :
    Reading.answer t { rest := text.toList } n = none := by
  have hlength : (segment t text).length ≤ m + 1 := by
    rw [answer_eq] at h
    rcases h with hnone | ⟨e, herror⟩
    · exact Nat.le_succ_of_le (List.getElem?_eq_none_iff.mp hnone)
    · obtain ⟨sentences, fault?, hitems, -⟩ := exists_sentences t text
      exact length_le_of_error hitems herror
  rw [answer_eq]
  exact List.getElem?_eq_none (Nat.le_trans hlength hmn)

/-- Whatever the tags are, every call for the next sentence of a text answers, and its turns are
at most twice the characters that are unread, and two. The calls give the items of the text one
after the other, and nothing once the end was met or an error given. The items are at most one
more than the text has characters: sentences that are not empty, and at the end perhaps an
error. Before each call, and before each turn of a call, the cursor stands where two characters
meet or at an end of the text. -/
theorem segment_ends (t : Tags) (text : String) :
    (∀ r : Reading, ∃ n ≤ 2 * r.rest.length + 2, Answers t n r (r.next t).1 (r.next t).2) ∧
      (∀ n, Reading.answer t { rest := text.toList } n = (segment t text)[n]?) ∧
      (∀ m n, m < n →
        (Reading.answer t { rest := text.toList } m = none ∨
          ∃ e, Reading.answer t { rest := text.toList } m = some (.error e)) →
        Reading.answer t { rest := text.toList } n = none) ∧
      (segment t text).length ≤ text.length + 1 ∧
      (∃ (sentences : List Sentence) (fault? : Option ParseError),
        segment t text = sentences.map .ok ++ fault?.toList.map .error ∧
          ∀ s ∈ sentences, s.text ≠ "") ∧
      (∀ n, ∃ byte, CursorAt t text (Reading.after t { rest := text.toList } n) byte) ∧
      ∀ r byte, CursorAt t text r byte →
        ∃ cut : text.Pos, cut.offset.byteIdx = byte ∧
          (text.sliceFrom cut).copy = String.ofList r.rest := by
  refine ⟨fun r => ?_, answer_eq t _, fun m n => answer_of_over, ?_, exists_sentences t text,
    CursorAt.start.after, fun r byte h => ?_⟩
  · obtain ⟨n, hn, h⟩ := exists_answers t r
    have hle := turns_le t r
    exact ⟨n, by omega, h⟩
  · calc (segment t text).length
        ≤ Reading.size { rest := text.toList } := length_items_le t _
      _ = text.length + 1 := by simp [Reading.size, String.length_toList]
  · obtain ⟨read, htext, rfl⟩ := h.exists_read
    exact exists_pos_of_append htext

end Templating
