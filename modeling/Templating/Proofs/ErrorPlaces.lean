import Templating.Proofs.Offsets
import Templating.Proofs.Parsing

/-!
# Where errors stand

Every error of a template text can be found again in the text. An error that carries a
line and a column gives the place of the inner text of a begin tag and, without outer
blanks, that text itself; for a block that is continued or closed by the wrong command
this is a command that came before the wrong one. An error that carries a line only is
about a tag on that line. `locates_of_parse` says so for every dialect and text.
-/
namespace Templating
open Text

namespace Assembly
open Directive

/-- The commands an assembly fails at: an error among them, a boundary that does not
belong to the open block, or a block that is open at the end. -/
inductive FailsAt : List (Except ParseError Command) → ParseError → Prop
  | given {cs : List Command} {e : ParseError} {rest : List (Except ParseError Command)} :
      FailsAt (cs.map .ok ++ .error e :: rest) e
  | noOpenBlock {cs : List Command} {c : Command} {rest : List (Except ParseError Command)} :
      c.directive.isBoundary = true →
      FailsAt (cs.map .ok ++ .ok c :: rest) (.noOpenBlock c.name c.place)
  | boundaryMismatch {cs : List Command} {o c : Command} {b : BlockKind} {p : String}
      {rest : List (Except ParseError Command)} :
      o ∈ cs → o.directive = .opening b p → c.directive.isBoundary = true →
      FailsAt (cs.map .ok ++ .ok c :: rest) (.boundaryMismatch o.name c.name o.place)
  | pathMismatch {cs : List Command} {o c : Command} {b : BlockKind} {p : String}
      {rest : List (Except ParseError Command)} :
      o ∈ cs → o.directive = .opening b p → c.directive.isBoundary = true →
      FailsAt (cs.map .ok ++ .ok c :: rest) (.pathMismatch o.name c.name o.place)
  | unclosedBlock {cs : List Command} {o : Command} {b : BlockKind} {p : String} :
      o ∈ cs → o.directive = .opening b p →
      FailsAt (cs.map .ok) (.unclosedBlock o.name o.place)

variable {a : Assembly} {cs : List Command} {c : Command} {e : ParseError}
variable {xs : List (Except ParseError Command)}

/-- The open block was opened by a command that was read. -/
theorem Holds.mem_of_opening? {o : Command} (h : Holds a cs) (ho : a.opening? = some o) :
    o ∈ cs ∧ ∃ b p, o.directive = .opening b p := by
  cases h with
  | outermost => cases ho
  | branch _ hc _ _ =>
      rw [opening?_of_opening hc, Option.some.injEq] at ho
      subst ho
      exact ⟨by simp, _, _, hc⟩
  | alternative _ hc _ _ _ _ =>
      rw [opening?_of_continues hc, Option.some.injEq] at ho
      subst ho
      obtain ⟨k, p, hk⟩ := hc.opening
      exact ⟨by simp, _, _, hk⟩

/-- A block that an else command may continue is in its first branch. -/
theorem opening?_of_fitsElse {active : Command} {d : Directive}
    (ha : a.active.command? = some active) (hf : active.directive.fitsElse d = true) :
    a.opening? = some active := by
  have hne : active.directive.isElse = false := by
    rw [Bool.eq_false_iff]
    intro he
    rw [fitsElse_of_isElse he] at hf
    cases hf
  simp [opening?, ha, hne]

theorem Holds.failsAt_of_checkElse (h : Holds a cs) (hb : c.directive.isBoundary = true)
    (hc : a.checkElse c = .error e) : FailsAt (cs.map .ok ++ .ok c :: xs) e := by
  unfold checkElse at hc
  split at hc
  · rename_i active opening hactive hopening
    obtain ⟨hmem, b, p, ho⟩ := h.mem_of_opening? hopening
    split at hc
    · cases hc
      exact .boundaryMismatch hmem ho hb
    rename_i hf
    rw [Bool.not_eq_true', Bool.not_eq_false] at hf
    obtain rfl : opening = active :=
      Option.some.inj (hopening.symm.trans (opening?_of_fitsElse hactive hf))
    split at hc
    · cases hc
      exact .pathMismatch hmem ho hb
    · cases hc
  · cases hc
    exact .noOpenBlock hb

theorem Holds.failsAt_of_checkEnd (h : Holds a cs) (hb : c.directive.isBoundary = true)
    (hc : a.checkEnd c = .error e) : FailsAt (cs.map .ok ++ .ok c :: xs) e := by
  unfold checkEnd at hc
  split at hc
  · rename_i opening hopening
    obtain ⟨hmem, b, p, ho⟩ := h.mem_of_opening? hopening
    split at hc
    · cases hc
      exact .boundaryMismatch hmem ho hb
    split at hc
    · cases hc
      exact .pathMismatch hmem ho hb
    · cases hc
  · cases hc
    exact .noOpenBlock hb

/-- A step fails only at a boundary. -/
theorem Holds.failsAt_of_step (h : Holds a cs) (hs : a.step c = .error e) :
    FailsAt (cs.map .ok ++ .ok c :: xs) e := by
  obtain ⟨hb, ⟨-, hc⟩ | ⟨-, hc⟩⟩ := check_of_step hs
  · exact h.failsAt_of_checkElse hb hc
  · exact h.failsAt_of_checkEnd hb hc

theorem Holds.failsAt_of_run (h : Holds a cs) (hr : a.run xs = .error e) :
    FailsAt (cs.map .ok ++ xs) e := by
  induction xs generalizing a cs with
  | nil => cases hr
  | cons x xs ih =>
      cases x with
      | error e' =>
          cases hr
          exact .given
      | ok c =>
          rw [Assembly.run] at hr
          split at hr
          · rename_i hs
            cases hr
            exact h.failsAt_of_step hs
          · rename_i b hs
            simpa using ih (h.step hs) hr

theorem Holds.failsAt_of_finish (h : Holds a cs) (hf : a.finish = .error e) :
    FailsAt (cs.map .ok) e := by
  unfold Assembly.finish at hf
  split at hf
  · rename_i o ho
    obtain ⟨hmem, b, p, hd⟩ := h.mem_of_opening? ho
    cases hf
    exact .unclosedBlock hmem hd
  · cases hf

/-- Whatever cannot be assembled fails at one of its commands. -/
theorem failsAt_of_assemble (h : assemble xs = .error e) : FailsAt xs e := by
  have hstart : Holds {} [] := .outermost .nil .nil
  cases hr : run {} xs with
  | error e' =>
      rw [assemble, hr] at h
      cases h
      exact hstart.failsAt_of_run hr
  | ok a =>
      obtain ⟨cs, rfl⟩ := exists_of_run hr
      rw [assemble, hr] at h
      exact (hstart.run hr).failsAt_of_finish h

end Assembly

namespace Dialect
variable {d : Dialect} {s : Sentence} {e : ParseError} {c : Command}

/-- A sentence that cannot be read is a command, and its error tells its place and its
text. -/
theorem recognize_eq_error (h : d.recognize s = .error e) :
    s.isCommand = true ∧
      ((trim s.text.toList = [] ∧ e = .emptyCommand s.place) ∨
        (∃ name, e = .unknownCommand name (trimmed s.text) s.place) ∨
        ∃ expected found, e = .argumentCount (trimmed s.text) expected found s.place) := by
  unfold recognize at h
  split at h
  · cases h
  rename_i hs
  refine ⟨by simpa using hs, ?_⟩
  dsimp only at h
  split at h
  · rename_i he
    cases h
    exact .inl ⟨List.isEmpty_iff.mp he, rfl⟩
  split at h
  · cases h
  split at h
  · cases h
    exact .inr (.inl ⟨_, rfl⟩)
  split at h
  · split at h
    · cases h
    · cases h
      exact .inr (.inr ⟨_, _, rfl⟩)
  · cases h
    exact .inr (.inr ⟨_, _, rfl⟩)

/-- Literal text is read as literal text. -/
theorem isCommand_of_recognize (h : d.recognize s = .ok c) (hc : c.directive ≠ .literal) :
    s.isCommand = true := by
  cases hs : s.isCommand with
  | true => rfl
  | false =>
      rw [recognize_of_literal hs, Except.ok.injEq] at h
      exact (hc (by rw [← h])).elim

end Dialect

namespace Tags

/-- A begin tag at an offset, the place after it, and its inner text, which is all that
stands up to the next tag or the end. -/
structure CommandAt (t : Tags) (text : List Char) (b : Nat) (place : Position)
    (inner : List Char) : Prop where
  opens : t.Opens text b
  place_eq : place = Position.after (text.take (b + t.opening.length))
  inner_eq : inner = t.stretch text (b + t.opening.length)

/-- What an error says about the text is so: the tag it tells the line of, or the begin
tags whose inner texts it names. -/
def Locates (t : Tags) (text : List Char) : ParseError → Prop
  | .emptyCommand place => ∃ b inner, t.CommandAt text b place inner ∧ trim inner = []
  | .unknownCommand _ command place
  | .argumentCount command _ _ place
  | .noOpenBlock command place
  | .unclosedBlock command place =>
      ∃ b inner, t.CommandAt text b place inner ∧ command = String.ofList (trim inner)
  | .boundaryMismatch opening found place
  | .pathMismatch opening found place =>
      ∃ b inner b' place' inner', t.CommandAt text b place inner ∧
        t.CommandAt text b' place' inner' ∧ b < b' ∧
        opening = String.ofList (trim inner) ∧ found = String.ofList (trim inner')
  | e => t.Faults text e

end Tags

namespace Sentence.StandsAt
variable {t : Tags} {text : List Char} {o : Nat} {s : Sentence} {d : Dialect}

theorem commandAt (h : s.StandsAt t text o) (hs : s.isCommand = true) :
    ∃ b, o = b + t.opening.length ∧ t.CommandAt text b s.place s.text.toList := by
  obtain ⟨b, hb, rfl⟩ := (hs ▸ h.inTurn).opens
  exact ⟨b, rfl, hb, h.place_eq, h.text_eq⟩

/-- A sentence that cannot be read is located by its error. -/
theorem locates (h : s.StandsAt t text o) {e : ParseError} (he : d.recognize s = .error e) :
    t.Locates text e := by
  obtain ⟨hs, hcases⟩ := Dialect.recognize_eq_error he
  obtain ⟨b, -, hb⟩ := h.commandAt hs
  rcases hcases with ⟨hblank, rfl⟩ | ⟨name, rfl⟩ | ⟨expected, found, rfl⟩
  · exact ⟨b, _, hb, hblank⟩
  · exact ⟨b, _, hb, rfl⟩
  · exact ⟨b, _, hb, rfl⟩

theorem commandAt_of_recognize (h : s.StandsAt t text o) {c : Command}
    (hc : d.recognize s = .ok c) (hd : c.directive ≠ .literal) :
    ∃ b inner, o = b + t.opening.length ∧ t.CommandAt text b c.place inner ∧
      c.name = String.ofList (trim inner) := by
  obtain ⟨b, ho, hb⟩ := h.commandAt (Dialect.isCommand_of_recognize hc hd)
  obtain ⟨directive, rfl, -⟩ := Dialect.reads_of_recognize hc
  exact ⟨b, _, ho, hb, rfl⟩

end Sentence.StandsAt

namespace Dialect
variable {d : Dialect} {text : String} {placed : List (Nat × Sentence)}
variable {fault : Option ParseError}

theorem commands_of_placed (h : d.tags.Placed text.toList (segment d.tags text) placed fault) :
    d.commands text = placed.map (fun p => d.recognize p.2) ++ fault.toList.map .error := by
  rw [commands, h.items_eq, List.map_append, List.map_map, List.map_map]
  rfl

/-- Commands in the order of the text are read from sentences in the order of the text. -/
theorem exists_placed_of_commands
    (h : d.tags.Placed text.toList (segment d.tags text) placed fault)
    (cs : List Command) (hcs : (cs.map .ok).Sublist (d.commands text)) :
    ∃ ps : List (Nat × Sentence), ps.Sublist placed ∧
      ps.map (fun p => d.recognize p.2) = cs.map .ok := by
  rw [commands_of_placed h, List.sublist_append_iff] at hcs
  obtain ⟨xs, ys, hxy, hxs, hys⟩ := hcs
  obtain rfl : ys = [] := by
    rw [List.eq_nil_iff_forall_not_mem]
    intro y hy
    obtain ⟨e, -, rfl⟩ := List.mem_map.mp (hys.subset hy)
    have hmem : Except.error e ∈ cs.map .ok := hxy ▸ List.mem_append_right xs hy
    obtain ⟨c, -, hc⟩ := List.mem_map.mp hmem
    cases hc
  obtain ⟨ps, hps, rfl⟩ := List.sublist_map_iff.mp hxs
  exact ⟨ps, hps, by rw [hxy, List.append_nil]⟩

theorem exists_commandAt (h : d.tags.Placed text.toList (segment d.tags text) placed fault)
    {c : Command} (hc : .ok c ∈ d.commands text) (hd : c.directive ≠ .literal) :
    ∃ b inner, d.tags.CommandAt text.toList b c.place inner ∧
      c.name = String.ofList (trim inner) := by
  obtain ⟨ps, hps, hread⟩ := exists_placed_of_commands h [c] (by simpa using hc)
  obtain ⟨p, rest, rfl, hp, -⟩ := List.map_eq_cons_iff.mp hread
  obtain ⟨b, inner, -, hb, hname⟩ :=
    (h.standsAt p (hps.subset List.mem_cons_self)).commandAt_of_recognize hp hd
  exact ⟨b, inner, hb, hname⟩

/-- Of two commands the earlier one has the earlier begin tag. -/
theorem exists_commandAt_lt
    (h : d.tags.Placed text.toList (segment d.tags text) placed fault) {o c : Command}
    (hoc : [.ok o, .ok c].Sublist (d.commands text)) (ho : o.directive ≠ .literal)
    (hc : c.directive ≠ .literal) :
    ∃ b inner b' place' inner', d.tags.CommandAt text.toList b o.place inner ∧
      d.tags.CommandAt text.toList b' place' inner' ∧ b < b' ∧
      o.name = String.ofList (trim inner) ∧ c.name = String.ofList (trim inner') := by
  obtain ⟨ps, hps, hread⟩ := exists_placed_of_commands h [o, c] hoc
  obtain ⟨p, ps', rfl, hp, hread'⟩ := List.map_eq_cons_iff.mp hread
  obtain ⟨q, rest, rfl, hq, -⟩ := List.map_eq_cons_iff.mp hread'
  have hsp := h.standsAt p (hps.subset (by simp))
  have hsq := h.standsAt q (hps.subset (by simp))
  obtain ⟨b, inner, hpb, hb, hname⟩ := hsp.commandAt_of_recognize hp ho
  obtain ⟨b', inner', hqb, hb', hname'⟩ := hsq.commandAt_of_recognize hq hc
  refine ⟨b, inner, b', _, inner', hb, hb', ?_, hname, hname'⟩
  have hpq : p.1 + p.2.text.toList.length ≤ q.1 :=
    (List.pairwise_cons.mp (h.ordered.sublist hps)).1 q List.mem_cons_self
  have hpos := List.length_pos_of_ne_nil hsp.text_ne_nil
  omega

end Dialect

theorem Tags.Faults.locates {t : Tags} {text : List Char} {e : ParseError}
    (h : t.Faults text e) : t.Locates text e := by
  cases h with
  | strayBeginTag ho ht => exact .strayBeginTag ho ht
  | strayEndTag ho ht => exact .strayEndTag ho ht
  | unterminatedCommand hb hstop => exact .unterminatedCommand hb hstop

theorem sublist_of_mem {cs : List Command} {o c : Command}
    {rest : List (Except ParseError Command)} (ho : o ∈ cs) :
    [.ok o, .ok c].Sublist (cs.map .ok ++ .ok c :: rest) :=
  (List.singleton_sublist.mpr (List.mem_map_of_mem ho)).append
    (List.singleton_sublist.mpr List.mem_cons_self)

theorem Directive.ne_literal_of_isBoundary {d : Directive} (h : d.isBoundary = true) :
    d ≠ .literal := by
  rintro rfl
  cases h

/-- Every error of a text that does not parse stands where it says, and names what stands
there. -/
theorem Dialect.locates_of_parse (d : Dialect) (text : String) {e : ParseError}
    (h : d.parse text = .error e) : d.tags.Locates text.toList e := by
  obtain ⟨placed, fault, hp⟩ := exists_placed d.tags text
  have hfails := Assembly.failsAt_of_assemble h
  generalize hxs : d.commands text = xs at hfails
  cases hfails with
  | @given cs e rest =>
      have hmem : .error e ∈ placed.map (fun p => d.recognize p.2) ++ fault.toList.map .error := by
        rw [← commands_of_placed hp, hxs]
        simp
      rcases List.mem_append.mp hmem with hmem | hmem
      · obtain ⟨p, hpmem, hrec⟩ := List.mem_map.mp hmem
        exact (hp.standsAt p hpmem).locates hrec
      · obtain ⟨e', he', heq⟩ := List.mem_map.mp hmem
        cases heq
        exact (hp.faults e (by simpa using he')).locates
  | noOpenBlock hc =>
      exact exists_commandAt hp (by simp [hxs]) (Directive.ne_literal_of_isBoundary hc)
  | boundaryMismatch ho hd hc | pathMismatch ho hd hc =>
      exact exists_commandAt_lt hp (hxs ▸ sublist_of_mem ho) (by simp [hd])
        (Directive.ne_literal_of_isBoundary hc)
  | unclosedBlock ho hd =>
      exact exists_commandAt hp (by rw [hxs]; exact List.mem_map_of_mem ho) (by simp [hd])

/-- The end command on the third line names another path than the block that is opened on
the second. -/
theorem Dialect.locates_other_path :
    let text := "Dear all,\n  [[ if(paid) ]]\nthanks[[endif(due)]]"
    let e : ParseError := .pathMismatch "if(paid)" "endif(due)" ⟨2, 5⟩
    standard.parse text = .error e ∧ standard.tags.Locates text.toList e := by
  intro text e
  have h : standard.parse text = .error e := by
    rw [Dialect.parse, Dialect.commands, segment_eq_read Dialect.standard.tags_sound]
    dsimp only [text, e]
    rfl
  exact ⟨h, standard.locates_of_parse text h⟩

end Templating
