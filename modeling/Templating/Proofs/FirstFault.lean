import Templating.Proofs.Parsing

/-!
# The first fault of a sequence of commands

Commands are continuable when some further commands complete them to a sequence that is
accepted. Assembling reads on as long as they are, and stops at the first fault: at an
error that stands in the sequence, or at a command that no continuation can mend. The
error that such a command gives is told by the innermost open block alone. `Verdict` lists
what can come of a sequence, and `assemble_eq_iff_verdict` says that this is what comes of it.
-/
namespace Templating
open Forest

/-- Commands with which some accepted sequence begins. -/
def Continuable (cs : List Command) : Prop :=
  ∃ ds t, assemble ((cs ++ ds).map .ok) = .ok t

/-- Commands that leave no block open. -/
def Settled (cs : List Command) : Prop :=
  ∃ f, WellFormed f ∧ Spells f cs

/-- The innermost block that commands leave open, by the command that opened it and, once
its other branch is under way, its else command. What was read since then is settled. -/
inductive InnermostOpen : List Command → Command → Option Command → Prop
  | first {cs body : List Command} {o : Command} {b : BlockKind} {p : String} :
      o.directive = .opening b p → Settled body →
      InnermostOpen (cs ++ o :: body) o none
  | second {cs body alternative : List Command} {o e : Command} :
      o.directive.Continues e.directive → Settled body → Settled alternative →
      InnermostOpen (cs ++ o :: (body ++ e :: alternative)) o (some e)

/-- Whether a directive is of a type that parts or ends the present branch of a block,
whatever its path. The end of the block's kind and the general end fit both branches; an
else fits the first branch of a choice only. -/
inductive Directive.FitsBranch : Directive → Option Command → Directive → Prop
  | closing (b : BlockKind) (p q : String) (e? : Option Command) :
      FitsBranch (.opening b p) e? (.closing b q)
  | anyEnd (b : BlockKind) (p : String) (e? : Option Command) :
      FitsBranch (.opening b p) e? .anyEnd
  | otherwise (k : Choice) (p q : String) :
      FitsBranch (.opening (.choice k) p) none (.otherwise k q)
  | anyElse (k : Choice) (p : String) :
      FitsBranch (.opening (.choice k) p) none .anyElse

namespace Directive
variable {o d : Directive} {e? : Option Command}

/-- The types that fit are those that assembling compares. -/
theorem fitsBranch_iff {b : BlockKind} {p : String} (ho : o = .opening b p) :
    o.FitsBranch e? d ↔ o.fitsEnd d = true ∨ e? = none ∧ o.fitsElse d = true := by
  subst ho
  constructor
  · rintro (_ | _ | _ | _) <;> simp [fitsEnd, fitsElse]
  · intro h
    cases d with
    | closing b' q =>
        obtain rfl : b = b' := by simpa [fitsEnd, fitsElse] using h
        exact .closing b p q e?
    | anyEnd => exact .anyEnd b p e?
    | otherwise k q =>
        cases b with
        | choice k' =>
            obtain ⟨rfl, rfl⟩ : e? = none ∧ k' = k := by simpa [fitsEnd, fitsElse] using h
            exact .otherwise k' p q
        | loop => simp [fitsEnd, fitsElse] at h
    | anyElse =>
        cases b with
        | choice k =>
            obtain rfl : e? = none := by simpa [fitsEnd, fitsElse] using h
            exact .anyElse k p
        | loop => simp [fitsEnd, fitsElse] at h
    | literal | field | opening | subtemplate => simp [fitsEnd, fitsElse] at h

theorem fitsEnd_of_isElse (h : d.isElse = true) : o.fitsEnd d = false := by
  cases o <;> cases d <;> simp_all [fitsEnd, isElse]

theorem fitsElse_of_not_isElse (h : d.isElse = false) : o.fitsElse d = false := by
  cases d <;> simp_all [fitsElse, isElse]

theorem path?_ne_of_not_samePath (h : o.samePath d = false) : o.path? ≠ d.path? := by
  intro hp
  unfold samePath at h
  split at h
  · simp_all
  · cases h

end Directive

/-- What comes of a sequence of commands and errors. The first error in it, or the first
command that no continuation can mend, decides, whatever follows; without either it is the
end of the sequence. -/
inductive Verdict : List (Except ParseError Command) → Except ParseError Node → Prop
  | given {cs : List Command} {e : ParseError} {rest : List (Except ParseError Command)} :
      Continuable cs → Verdict (cs.map .ok ++ .error e :: rest) (.error e)
  | noOpenBlock {cs : List Command} {c : Command} {rest : List (Except ParseError Command)} :
      Continuable cs → ¬Continuable (cs ++ [c]) → Settled cs →
      Verdict (cs.map .ok ++ .ok c :: rest) (.error (.noOpenBlock c.name c.place))
  | pathMismatch {cs : List Command} {c o : Command} {e? : Option Command}
      {rest : List (Except ParseError Command)} :
      Continuable cs → ¬Continuable (cs ++ [c]) → InnermostOpen cs o e? →
      o.directive.FitsBranch e? c.directive → o.directive.path? ≠ c.directive.path? →
      Verdict (cs.map .ok ++ .ok c :: rest) (.error (.pathMismatch o.name c.name o.place))
  | boundaryMismatch {cs : List Command} {c o : Command} {e? : Option Command}
      {rest : List (Except ParseError Command)} :
      Continuable cs → ¬Continuable (cs ++ [c]) → InnermostOpen cs o e? →
      ¬o.directive.FitsBranch e? c.directive →
      Verdict (cs.map .ok ++ .ok c :: rest) (.error (.boundaryMismatch o.name c.name o.place))
  | unclosedBlock {cs : List Command} {o : Command} {e? : Option Command} :
      Continuable cs → InnermostOpen cs o e? →
      Verdict (cs.map .ok) (.error (.unclosedBlock o.name o.place))
  | accepted {cs : List Command} {f : Forest} :
      WellFormed f → Spells f cs → Verdict (cs.map .ok) (.ok (.group f))

namespace Assembly
open Directive
variable {a : Assembly} {cs : List Command} {c o : Command} {e? : Option Command}

theorem run_append (a : Assembly) (cs : List Command) (xs : List (Except ParseError Command)) :
    a.run (cs.map .ok ++ xs) = (a.run (cs.map .ok)).bind fun b => b.run xs := by
  induction cs generalizing a with
  | nil => rfl
  | cons c cs ih =>
      simp only [List.map_cons, List.cons_append, run]
      cases a.step c with
      | error e => rfl
      | ok b => exact ih b

theorem assemble_append (hr : run {} (cs.map .ok) = .ok a)
    (xs : List (Except ParseError Command)) :
    assemble (cs.map .ok ++ xs) = (a.run xs).bind finish := by
  rw [assemble, run_append, hr]
  rfl

theorem holds_of_run (hr : run {} (cs.map .ok) = .ok a) : Holds a cs := by
  have hstart : Holds {} [] := .outermost .nil .nil
  exact hstart.run hr

/-- The open block can be ended by the general end command, which leaves fewer frames. -/
theorem Holds.finish_or_end (h : Holds a cs) :
    (∃ t, a.finish = .ok t) ∨
      ∃ b, a.step ⟨default, .anyEnd⟩ = .ok b ∧ b.outer.length < a.outer.length := by
  cases h with
  | outermost => exact .inl ⟨_, rfl⟩
  | @branch f fs o b p scope _ _ _ ho _ _ =>
      have hends : o.directive.Ends .anyEnd := ho ▸ .general b p
      refine .inr ⟨_, step_of_ends (opening?_of_opening ho scope _) hends, ?_⟩
      rw [close_of_opening ho]
      exact Nat.lt_succ_self _
  | @alternative f fs o e body scope _ _ _ _ hoe _ _ _ _ =>
      obtain ⟨k, p, ho⟩ := hoe.opening
      have hends : o.directive.Ends .anyEnd := ho ▸ .general _ p
      refine .inr ⟨_, step_of_ends (opening?_of_continues hoe scope body _) hends, ?_⟩
      rw [close_of_continues hoe]
      exact Nat.lt_succ_of_lt (Nat.lt_succ_self _)

/-- Ending the open blocks one after the other completes what was read. -/
theorem Holds.exists_completion (h : Holds a cs) :
    ∃ (ds : List Command) (t : Node), (a.run (ds.map .ok)).bind Assembly.finish = .ok t := by
  -- Every end command takes frames away, so that their number is what the induction is on.
  induction hn : a.outer.length using Nat.strongRecOn generalizing a cs with
  | ind n ih =>
      subst hn
      rcases h.finish_or_end with ⟨t, ht⟩ | ⟨b, hb, hlt⟩
      · exact ⟨[], t, ht⟩
      · obtain ⟨ds, t, hds⟩ := ih _ hlt (h.step hb) rfl
        refine ⟨⟨default, .anyEnd⟩ :: ds, t, ?_⟩
        rwa [List.map_cons, run_cons_of_step hb]

/-- Assembling reads commands without an error exactly as long as they can be continued. -/
theorem continuable_iff_run : Continuable cs ↔ ∃ a, run {} (cs.map .ok) = .ok a := by
  constructor
  · rintro ⟨ds, t, h⟩
    rw [List.map_append, assemble, run_append] at h
    cases hr : run {} (cs.map .ok) with
    | error e =>
        rw [hr] at h
        cases h
    | ok a => exact ⟨a, rfl⟩
  · rintro ⟨a, hr⟩
    obtain ⟨ds, t, h⟩ := (holds_of_run hr).exists_completion
    refine ⟨ds, t, ?_⟩
    rw [List.map_append, assemble_append hr, h]

/-- The step that cannot be mended is the one that fails. -/
theorem continuable_concat_iff (hr : run {} (cs.map .ok) = .ok a) :
    Continuable (cs ++ [c]) ↔ ∃ b, a.step c = .ok b := by
  have hrun : run {} ((cs ++ [c]).map .ok) = a.run [.ok c] := by
    rw [List.map_append, run_append, hr]
    rfl
  rw [continuable_iff_run, hrun]
  cases hs : a.step c with
  | error e => simp [run, hs]
  | ok b => simp [run, hs]

/-- The frames of the innermost open block. -/
inductive InBranch : Assembly → Command → Option Command → Prop
  | first {o : Command} {b : BlockKind} {p : String} (ho : o.directive = .opening b p)
      (scope : Array Node) (fs : List Frame) : InBranch ⟨⟨some o, scope⟩, fs⟩ o none
  | second {o e : Command} (hoe : o.directive.Continues e.directive)
      (scope body : Array Node) (fs : List Frame) :
      InBranch ⟨⟨some e, scope⟩, ⟨some o, body⟩ :: fs⟩ o (some e)

theorem InBranch.opening?_eq (h : InBranch a o e?) : a.opening? = some o := by
  cases h with
  | first ho scope fs => exact opening?_of_opening ho scope fs
  | second hoe scope body fs => exact opening?_of_continues hoe scope body fs

theorem InBranch.exists_opening (h : InBranch a o e?) : ∃ b p, o.directive = .opening b p := by
  cases h with
  | first ho => exact ⟨_, _, ho⟩
  | second hoe =>
      obtain ⟨k, p, ho⟩ := hoe.opening
      exact ⟨_, p, ho⟩

theorem Holds.settled_or_open (h : Holds a cs) :
    Settled cs ∨ ∃ o e?, InnermostOpen cs o e? := by
  cases h with
  | outermost hw hs => exact .inl ⟨_, hw, hs⟩
  | branch _ ho hw hs => exact .inr ⟨_, none, .first ho ⟨_, hw, hs⟩⟩
  | alternative _ hoe hb hbs hw hs =>
      exact .inr ⟨_, some _, .second hoe ⟨_, hb, hbs⟩ ⟨_, hw, hs⟩⟩

theorem exists_of_run_append {b : Assembly} {ds : List Command}
    (hr : a.run ((cs ++ ds).map .ok) = .ok b) : ∃ a' : Assembly, a'.run (ds.map .ok) = .ok b := by
  rw [List.map_append, run_append] at hr
  cases ha : a.run (cs.map .ok) with
  | error e =>
      rw [ha] at hr
      cases hr
  | ok a' =>
      rw [ha] at hr
      exact ⟨a', hr⟩

/-- Commands that leave no block open have added nodes to the outermost scope. -/
theorem command?_of_settled (hr : run {} (cs.map .ok) = .ok a) (h : Settled cs) :
    a.active.command? = none := by
  obtain ⟨f, hw, hs⟩ := h
  have hf := run_spelling hs hw {} []
  rw [List.append_nil, hr, run, Except.ok.injEq] at hf
  rw [hf]
  rfl

/-- Commands that leave a block open lead to its frames. -/
theorem inBranch_of_open (hr : run {} (cs.map .ok) = .ok a) (h : InnermostOpen cs o e?) :
    InBranch a o e? := by
  cases h with
  | @first cs body _ b p ho hbody =>
      obtain ⟨f, hw, hs⟩ := hbody
      obtain ⟨a', ha'⟩ := exists_of_run_append hr
      have hbody := run_spelling hs hw (a'.enter o) []
      rw [List.append_nil, enter_addAll] at hbody
      rw [List.map_cons, run_cons_of_step (step_of_opening ho a'), hbody, run,
        Except.ok.injEq] at ha'
      rw [← ha']
      exact .first ho _ _
  | @second cs body alternative _ e hoe hbody halternative =>
      obtain ⟨f, hw, hs⟩ := hbody
      obtain ⟨g, hwg, hsg⟩ := halternative
      obtain ⟨k, p, ho⟩ := hoe.opening
      obtain ⟨a', ha'⟩ := exists_of_run_append hr
      rw [List.map_cons, run_cons_of_step (step_of_opening ho a'), List.map_append,
        run_spelling hs hw, enter_addAll, List.map_cons,
        run_cons_of_step (step_of_continues hoe _ _)] at ha'
      have halternative :=
        run_spelling hsg hwg (enter ⟨⟨some o, f.toArray⟩, a'.active :: a'.outer⟩ e) []
      rw [List.append_nil, enter_addAll] at halternative
      rw [halternative, run, Except.ok.injEq] at ha'
      rw [← ha']
      exact .second hoe _ _ _

/-- Where no block is open a step fails for the lack of one. -/
theorem error_of_no_block {e : ParseError} (ha : a.active.command? = none)
    (hs : a.step c = .error e) : e = .noOpenBlock c.name c.place := by
  rcases (check_of_step hs).2 with ⟨-, hc⟩ | ⟨-, hc⟩
  · simp only [checkElse, ha] at hc
    cases hc
    rfl
  · simp only [checkEnd, opening?, ha] at hc
    cases hc
    rfl

/-- Comparing a boundary with the command that opened the block: its type comes before its
path. -/
theorem error_of_comparison {fits : Bool} {e : ParseError}
    (h : (if !fits then .error (.boundaryMismatch o.name c.name o.place)
      else if !o.directive.samePath c.directive then
        .error (.pathMismatch o.name c.name o.place)
      else .ok ()) = (.error e : Except ParseError Unit)) :
    (fits = true ∧ o.directive.path? ≠ c.directive.path? ∧
        e = .pathMismatch o.name c.name o.place) ∨
      (fits = false ∧ e = .boundaryMismatch o.name c.name o.place) := by
  cases fits with
  | false =>
      cases h
      exact .inr ⟨rfl, rfl⟩
  | true =>
      cases hp : o.directive.samePath c.directive with
      | false =>
          rw [hp] at h
          cases h
          exact .inl ⟨rfl, path?_ne_of_not_samePath hp, rfl⟩
      | true =>
          rw [hp] at h
          cases h

/-- A step in a branch fails at a command of a type that does not fit the branch, or else at
one that names another path. -/
theorem InBranch.error_of_step {e : ParseError} (h : InBranch a o e?) (hs : a.step c = .error e) :
    (o.directive.FitsBranch e? c.directive ∧ o.directive.path? ≠ c.directive.path? ∧
        e = .pathMismatch o.name c.name o.place) ∨
      (¬o.directive.FitsBranch e? c.directive ∧ e = .boundaryMismatch o.name c.name o.place) := by
  obtain ⟨b, p, ho⟩ := h.exists_opening
  have hfits : o.directive.FitsBranch e? c.directive ↔ _ := fitsBranch_iff ho
  rcases (check_of_step hs).2 with ⟨hd, hc⟩ | ⟨hd, hc⟩
  · rw [fitsEnd_of_isElse hd] at hfits
    cases h with
    | first _ scope fs =>
        simp only [checkElse, opening?_of_opening ho] at hc
        simpa [hfits] using error_of_comparison hc
    | @second _ e' hoe scope body fs =>
        have hf := fitsElse_of_isElse hoe.isElse c.directive
        simp only [checkElse, opening?_of_continues hoe, hf, Bool.not_false, if_true] at hc
        cases hc
        exact .inr ⟨by simp [hfits], rfl⟩
  · rw [fitsElse_of_not_isElse hd] at hfits
    simp only [checkEnd, h.opening?_eq] at hc
    simpa [hfits] using error_of_comparison hc

/-- A command that no continuation can mend is where assembling stops. -/
theorem exists_error_of_not_continuable (hcs : Continuable cs) (hc : ¬Continuable (cs ++ [c])) :
    ∃ a e, run {} (cs.map .ok) = .ok a ∧ a.step c = .error e ∧
      ∀ rest, assemble (cs.map .ok ++ .ok c :: rest) = .error e := by
  obtain ⟨a, ha⟩ := continuable_iff_run.mp hcs
  cases hs : a.step c with
  | ok b => exact (hc ((continuable_concat_iff ha).mpr ⟨b, hs⟩)).elim
  | error e =>
      refine ⟨a, e, ha, hs, fun rest => ?_⟩
      rw [assemble_append ha, run, hs]
      rfl

end Assembly

open Assembly

/-- What can come of a sequence is what assembling it gives. -/
theorem Verdict.assemble_eq {xs : List (Except ParseError Command)} {r : Except ParseError Node}
    (h : Verdict xs r) : assemble xs = r := by
  cases h with
  | given hcs =>
      obtain ⟨a, ha⟩ := continuable_iff_run.mp hcs
      rw [assemble_append ha]
      rfl
  | noOpenBlock hcs hc hs =>
      obtain ⟨a, e, ha, hstep, hstop⟩ := exists_error_of_not_continuable hcs hc
      rw [hstop, error_of_no_block (command?_of_settled ha hs) hstep]
  | pathMismatch hcs hc ho hfits =>
      obtain ⟨a, e, ha, hstep, hstop⟩ := exists_error_of_not_continuable hcs hc
      rcases (inBranch_of_open ha ho).error_of_step hstep with ⟨-, -, rfl⟩ | ⟨hnot, -⟩
      · exact hstop _
      · exact (hnot hfits).elim
  | boundaryMismatch hcs hc ho hnot =>
      obtain ⟨a, e, ha, hstep, hstop⟩ := exists_error_of_not_continuable hcs hc
      rcases (inBranch_of_open ha ho).error_of_step hstep with ⟨hfits, -⟩ | ⟨-, rfl⟩
      · exact (hnot hfits).elim
      · exact hstop _
  | unclosedBlock hcs ho =>
      obtain ⟨a, ha⟩ := continuable_iff_run.mp hcs
      rw [assemble, ha]
      change a.finish = _
      rw [finish, (inBranch_of_open ha ho).opening?_eq]
  | accepted hw hs => exact assemble_of_spells hw hs

/-- Every sequence has a first fault or none, after commands that can be continued. -/
theorem exists_first_fault {cs : List Command} (hcs : Continuable cs)
    (xs : List (Except ParseError Command)) :
    (∃ ds, Continuable ds ∧ cs.map .ok ++ xs = ds.map .ok) ∨
      (∃ ds e rest, Continuable ds ∧ cs.map .ok ++ xs = ds.map .ok ++ .error e :: rest) ∨
      ∃ ds c rest, Continuable ds ∧ ¬Continuable (ds ++ [c]) ∧
        cs.map .ok ++ xs = ds.map .ok ++ .ok c :: rest := by
  induction xs generalizing cs with
  | nil => exact .inl ⟨cs, hcs, List.append_nil _⟩
  | cons x xs ih =>
      cases x with
      | error e => exact .inr (.inl ⟨cs, e, xs, hcs, rfl⟩)
      | ok c =>
          by_cases hc : Continuable (cs ++ [c])
          · simpa using ih hc
          · exact .inr (.inr ⟨cs, c, xs, hcs, hc, rfl⟩)

theorem exists_verdict (xs : List (Except ParseError Command)) : ∃ r, Verdict xs r := by
  have hnil : Continuable [] := continuable_iff_run.mpr ⟨{}, rfl⟩
  have hcases := exists_first_fault hnil xs
  simp only [List.map_nil, List.nil_append] at hcases
  rcases hcases with ⟨cs, hcs, rfl⟩ | ⟨cs, e, rest, hcs, rfl⟩ | ⟨cs, c, rest, hcs, hc, rfl⟩
  · obtain ⟨a, ha⟩ := continuable_iff_run.mp hcs
    rcases (holds_of_run ha).settled_or_open with ⟨f, hw, hs⟩ | ⟨o, e?, ho⟩
    · exact ⟨_, .accepted hw hs⟩
    · exact ⟨_, .unclosedBlock hcs ho⟩
  · exact ⟨_, .given hcs⟩
  · obtain ⟨a, e, ha, hstep, -⟩ := exists_error_of_not_continuable hcs hc
    rcases (holds_of_run ha).settled_or_open with hs | ⟨o, e?, ho⟩
    · exact ⟨_, .noOpenBlock hcs hc hs⟩
    · rcases (inBranch_of_open ha ho).error_of_step hstep with ⟨hfits, hp, -⟩ | ⟨hnot, -⟩
      · exact ⟨_, .pathMismatch hcs hc ho hfits hp⟩
      · exact ⟨_, .boundaryMismatch hcs hc ho hnot⟩

/-- Assembling reads on as long as the commands can be continued, and of a whole sequence it
gives what its first fault asks for: no fault is reported late, none is reported where the
commands can still be completed, and a boundary that cannot stand where it does is reported
at the command that opened the innermost block. -/
theorem assemble_eq_iff_verdict :
    (∀ cs, Continuable cs ↔ ∃ a, run {} (cs.map .ok) = .ok a) ∧
      ∀ xs r, assemble xs = r ↔ Verdict xs r := by
  refine ⟨fun cs => continuable_iff_run, fun xs r => ⟨?_, Verdict.assemble_eq⟩⟩
  rintro rfl
  obtain ⟨r, h⟩ := exists_verdict xs
  rwa [h.assemble_eq]

/-- The other branch of a block is ended under another path. The error tells of the command
that opened the block, and the stray tag behind it is never reached. -/
theorem verdict_of_other_path_after_else :
    let o : Command := ⟨⟨" if(paid) ", true, ⟨2, 5⟩⟩, .opening (.choice .truth) "paid"⟩
    let e : Command := ⟨⟨"else()", true, ⟨3, 1⟩⟩, .anyElse⟩
    let c : Command := ⟨⟨"endif(due)", true, ⟨4, 7⟩⟩, .closing (.choice .truth) "due"⟩
    (InnermostOpen [o, e] o (some e) ∧ o.directive.FitsBranch (some e) c.directive) ∧
      Continuable [o, e] ∧
      Verdict [.ok o, .ok e, .ok c, .error (.strayEndTag 5)]
        (.error (.pathMismatch "if(paid)" "endif(due)" ⟨2, 5⟩)) := by
  intro o e c
  have hnil : Settled [] := ⟨[], .nil, .nil⟩
  have hopen : InnermostOpen ([] ++ o :: ([] ++ e :: [])) o (some e) :=
    .second (.general .truth "paid") hnil hnil
  have hread : Continuable [o, e] := (assemble_eq_iff_verdict.1 _).mpr ⟨_, rfl⟩
  have hstop : assemble [.ok o, .ok e, .ok c, .error (.strayEndTag 5)] =
      .error (.pathMismatch "if(paid)" "endif(due)" ⟨2, 5⟩) := by
    cbv
  exact ⟨⟨hopen, .closing _ _ _ _⟩, hread, (assemble_eq_iff_verdict.2 _ _).mp hstop⟩

end Templating
