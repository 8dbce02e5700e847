import Templating.Assembly

/-!
# The grammar of blocks

Which sequences of commands stand for which forests. A block is its opening
command, its first branch, perhaps an else command and the other branch, and an
end command. Else and end commands are of the block's kind and path, or general.

Assembling reads this grammar. `Holds` says what the frames under way have read:
every frame holds a finished part of the forest, spelled by the commands since
the frame was opened. Each step keeps it, and from it the assembled sequences are
exactly the spellings of well-formed forests.
-/
namespace Templating

/-- Whether a directive stands by itself, and neither opens nor parts nor ends a block. -/
def Directive.isPlain : Directive → Bool
  | .literal | .field _ | .subtemplate _ _ => true
  | .opening _ _ | .otherwise _ _ | .closing _ _ | .anyElse | .anyEnd => false

/-- Whether a directive parts or ends a block, and so becomes no node of its own. -/
def Directive.isBoundary : Directive → Bool
  | .otherwise _ _ | .closing _ _ | .anyElse | .anyEnd => true
  | .literal | .field _ | .subtemplate _ _ | .opening _ _ => false

/-- The else directives of a block with branches. -/
inductive Directive.Continues : Directive → Directive → Prop
  | named (c : Choice) (p : String) : Continues (.opening (.choice c) p) (.otherwise c p)
  | general (c : Choice) (p : String) : Continues (.opening (.choice c) p) .anyElse

/-- The end directives of a block. -/
inductive Directive.Ends : Directive → Directive → Prop
  | named (b : BlockKind) (p : String) : Ends (.opening b p) (.closing b p)
  | general (b : BlockKind) (p : String) : Ends (.opening b p) .anyEnd

namespace Directive

theorem continues_iff {o d : Directive} :
    o.Continues d ↔ o.fitsElse d = true ∧ o.samePath d = true := by
  constructor
  · rintro (⟨c, p⟩ | ⟨c, p⟩) <;> simp [fitsElse, samePath, path?]
  · rintro ⟨hf, hp⟩
    unfold fitsElse at hf
    split at hf
    · rename_i c p c' p'
      obtain rfl : c = c' := by simpa using hf
      obtain rfl : p = p' := by simpa [samePath, path?] using hp
      exact .named c p
    · exact .general _ _
    · simp at hf

theorem Continues.isElse {o d : Directive} (h : o.Continues d) : d.isElse = true := by
  cases h <;> rfl

theorem Continues.opening {o d : Directive} (h : o.Continues d) :
    ∃ k p, o = .opening (.choice k) p := by
  cases h <;> exact ⟨_, _, rfl⟩

theorem Ends.opening {o d : Directive} (h : o.Ends d) : ∃ b p, o = .opening b p := by
  cases h <;> exact ⟨_, _, rfl⟩

theorem ends_iff {o d : Directive} :
    o.Ends d ↔ o.fitsEnd d = true ∧ o.samePath d = true := by
  constructor
  · rintro (⟨b, p⟩ | ⟨b, p⟩) <;> simp [fitsEnd, samePath, path?]
  · rintro ⟨hf, hp⟩
    unfold fitsEnd at hf
    split at hf
    · rename_i b p b' p'
      obtain rfl : b = b' := by simpa using hf
      obtain rfl : p = p' := by simpa [samePath, path?] using hp
      exact .named b p
    · exact .general _ _
    · simp at hf

/-- No else command follows another one in the same block. -/
theorem fitsElse_of_isElse {o : Directive} (h : o.isElse = true) (d : Directive) :
    o.fitsElse d = false := by
  cases o <;> simp_all [fitsElse, isElse]

end Directive

/-- Nodes in a row, as a scope holds them. -/
abbrev Forest := List Node

namespace Forest
open Directive

/-- Leaves stand by themselves, conditional and existence blocks may have an else
branch, and loops have none. -/
inductive WellFormed : Forest → Prop
  | nil : WellFormed []
  | leaf {c : Command} {rest : Forest} : c.directive.isPlain = true →
      WellFormed rest → WellFormed (.leaf c :: rest)
  | choice {c : Command} {k : Choice} {p : String} {body rest : Forest} :
      c.directive = .opening (.choice k) p → WellFormed body →
      WellFormed rest → WellFormed (.block c body none :: rest)
  | branches {c : Command} {k : Choice} {p : String} {body alternative rest : Forest} :
      c.directive = .opening (.choice k) p → WellFormed body → WellFormed alternative →
      WellFormed rest → WellFormed (.block c body (some alternative) :: rest)
  | loop {c : Command} {p : String} {body rest : Forest} :
      c.directive = .opening .loop p → WellFormed body →
      WellFormed rest → WellFormed (.block c body none :: rest)

/-- The commands that write a forest down. -/
inductive Spells : Forest → List Command → Prop
  | nil : Spells [] []
  | leaf (c : Command) {rest : Forest} {cs : List Command} :
      Spells rest cs → Spells (.leaf c :: rest) (c :: cs)
  | block {c e : Command} {body rest : Forest} {bs cs : List Command} :
      c.directive.Ends e.directive → Spells body bs → Spells rest cs →
      Spells (.block c body none :: rest) (c :: (bs ++ e :: cs))
  | branches {c d e : Command} {body alternative rest : Forest} {bs as cs : List Command} :
      c.directive.Continues d.directive → c.directive.Ends e.directive →
      Spells body bs → Spells alternative as → Spells rest cs →
      Spells (.block c body (some alternative) :: rest) (c :: (bs ++ d :: (as ++ e :: cs)))

theorem WellFormed.append {f g : Forest} (hf : WellFormed f) (hg : WellFormed g) :
    WellFormed (f ++ g) := by
  induction hf with
  | nil => exact hg
  | leaf hc _ ih => exact .leaf hc ih
  | choice hc hb _ _ ih => exact .choice hc hb ih
  | branches hc hb ha _ _ _ ih => exact .branches hc hb ha ih
  | loop hc hb _ _ ih => exact .loop hc hb ih

/-- Blocks without else branch are alike, whatever they are opened for. -/
theorem WellFormed.of_block {c : Command} {body rest : Forest}
    (h : WellFormed (.block c body none :: rest)) :
    (∃ b p, c.directive = .opening b p) ∧ WellFormed body ∧ WellFormed rest := by
  cases h with
  | choice hc hb hr => exact ⟨⟨_, _, hc⟩, hb, hr⟩
  | loop hc hb hr => exact ⟨⟨_, _, hc⟩, hb, hr⟩

theorem Spells.append {f g : Forest} {cs ds : List Command} (hf : Spells f cs)
    (hg : Spells g ds) : Spells (f ++ g) (cs ++ ds) := by
  induction hf with
  | nil => exact hg
  | leaf c _ ih => exact .leaf c ih
  | block he hb _ _ ih =>
      simpa only [List.cons_append, List.append_assoc] using Spells.block he hb ih
  | branches hd he hb ha _ _ _ ih =>
      simpa only [List.cons_append, List.append_assoc] using Spells.branches hd he hb ha ih

end Forest

namespace Assembly
open Directive Forest

/-- What the frames under way have read. The frame of an else branch stands on the
frame of its block. -/
inductive Holds : Assembly → List Command → Prop
  | outermost {scope : Array Node} {cs : List Command} :
      WellFormed scope.toList → Spells scope.toList cs → Holds ⟨⟨none, scope⟩, []⟩ cs
  | branch {f : Frame} {fs : List Frame} {c : Command} {b : BlockKind} {p : String}
      {scope : Array Node} {cs ds : List Command} :
      Holds ⟨f, fs⟩ cs → c.directive = .opening b p →
      WellFormed scope.toList → Spells scope.toList ds →
      Holds ⟨⟨some c, scope⟩, f :: fs⟩ (cs ++ c :: ds)
  | alternative {f : Frame} {fs : List Frame} {c e : Command} {body scope : Array Node}
      {cs bs ds : List Command} :
      Holds ⟨f, fs⟩ cs → c.directive.Continues e.directive →
      WellFormed body.toList → Spells body.toList bs →
      WellFormed scope.toList → Spells scope.toList ds →
      Holds ⟨⟨some e, scope⟩, ⟨some c, body⟩ :: f :: fs⟩ (cs ++ c :: (bs ++ e :: ds))

theorem Holds.add {a : Assembly} {cs ds : List Command} {n : Node} (h : Holds a cs)
    (hn : WellFormed [n]) (hs : Spells [n] ds) : Holds (a.add n) (cs ++ ds) := by
  cases h with
  | outermost hw hc =>
      refine .outermost ?_ ?_ <;> rw [Array.toList_push]
      · exact hw.append hn
      · exact hc.append hs
  | branch hf hc hw hd =>
      rw [List.append_assoc, List.cons_append]
      refine .branch hf hc ?_ ?_ <;> rw [Array.toList_push]
      · exact hw.append hn
      · exact hd.append hs
  | alternative hf he hb hbs hw hd =>
      simp only [List.append_assoc, List.cons_append]
      refine .alternative hf he hb hbs ?_ ?_ <;> rw [Array.toList_push]
      · exact hw.append hn
      · exact hd.append hs

theorem Holds.enter {a : Assembly} {cs : List Command} {c : Command} {b : BlockKind}
    {p : String} (h : Holds a cs) (hc : c.directive = .opening b p) :
    Holds (a.enter c) (cs ++ [c]) :=
  .branch h hc .nil .nil

theorem opening?_of_opening {c : Command} {b : BlockKind} {p : String}
    (hc : c.directive = .opening b p) (scope : Array Node) (fs : List Frame) :
    opening? ⟨⟨some c, scope⟩, fs⟩ = some c := by
  simp [opening?, hc, isElse]

theorem opening?_of_continues {c e : Command} (h : c.directive.Continues e.directive)
    (scope body : Array Node) (fs : List Frame) :
    opening? ⟨⟨some e, scope⟩, ⟨some c, body⟩ :: fs⟩ = some c := by
  simp [opening?, Continues.isElse h]

theorem checkElse_of_opening {c : Command} {b : BlockKind} {p : String}
    (hc : c.directive = .opening b p) (scope : Array Node) (fs : List Frame) (e : Command) :
    checkElse ⟨⟨some c, scope⟩, fs⟩ e = .ok () ↔ c.directive.Continues e.directive := by
  rw [continues_iff]
  unfold checkElse
  rw [opening?_of_opening hc]
  dsimp only
  split
  · simp_all
  · split <;> simp_all

theorem checkEnd_of_opening {a : Assembly} {c : Command} (ho : a.opening? = some c)
    (e : Command) : a.checkEnd e = .ok () ↔ c.directive.Ends e.directive := by
  rw [ends_iff]
  unfold checkEnd
  rw [ho]
  dsimp only
  split
  · simp_all
  · split <;> simp_all

theorem close_of_opening {c : Command} {b : BlockKind} {p : String}
    (hc : c.directive = .opening b p) (scope : Array Node) (f : Frame) (fs : List Frame) :
    close ⟨⟨some c, scope⟩, f :: fs⟩ = add ⟨f, fs⟩ (.block c scope.toList none) := by
  have hl : closeLoop ⟨⟨some c, scope⟩, f :: fs⟩ = add ⟨f, fs⟩ (.block c scope.toList none) := rfl
  unfold close
  split
  · exact hl
  · simpa [closeChoice, hc, isElse] using hl

theorem close_of_continues {c e : Command} (h : c.directive.Continues e.directive)
    (scope body : Array Node) (f : Frame) (fs : List Frame) :
    close ⟨⟨some e, scope⟩, ⟨some c, body⟩ :: f :: fs⟩ =
      add ⟨f, fs⟩ (.block c body.toList (some scope.toList)) := by
  have hne : ∀ p, c.directive ≠ .opening .loop p := by
    intro p hp
    rw [hp] at h
    cases h
  unfold close
  rw [opening?_of_continues h]
  split
  · rename_i p hp
    exact (hne p (by simpa using hp)).elim
  · simp [closeChoice, Continues.isElse h, leave, nodeOf]

theorem not_checkElse_of_continues {c e : Command} (h : c.directive.Continues e.directive)
    (scope body : Array Node) (fs : List Frame) (d : Command) :
    checkElse ⟨⟨some e, scope⟩, ⟨some c, body⟩ :: fs⟩ d ≠ .ok () := by
  simp [checkElse, opening?_of_continues h, fitsElse_of_isElse h.isElse]

theorem Holds.enterElse {a : Assembly} {cs : List Command} {c : Command} (h : Holds a cs)
    (hc : a.checkElse c = .ok ()) : Holds (a.enter c) (cs ++ [c]) := by
  cases h with
  | outermost hw hcs => simp [checkElse] at hc
  | branch hf ho hw hd =>
      rw [checkElse_of_opening ho] at hc
      rw [List.append_assoc, List.cons_append]
      exact .alternative hf hc hw hd .nil .nil
  | alternative hf he hb hbs hw hd => exact (not_checkElse_of_continues he _ _ _ _ hc).elim

theorem Holds.close {a : Assembly} {cs : List Command} {c : Command} (h : Holds a cs)
    (hc : a.checkEnd c = .ok ()) : Holds a.close (cs ++ [c]) := by
  cases h with
  | outermost hw hcs => simp [checkEnd, opening?] at hc
  | @branch f fs o b p scope cs ds hf ho hw hd =>
      have he := (checkEnd_of_opening (opening?_of_opening ho scope _) c).mp hc
      rw [close_of_opening ho, List.append_assoc, List.cons_append]
      refine hf.add ?_ (.block he hd .nil)
      cases b with
      | choice k => exact .choice ho hw .nil
      | loop => exact .loop ho hw .nil
  | @alternative f fs o e body scope cs bs ds hf hoe hb hbs hw hd =>
      have he := (checkEnd_of_opening (opening?_of_continues hoe scope body _) c).mp hc
      obtain ⟨k, p, ho⟩ := hoe.opening
      rw [close_of_continues hoe]
      simp only [List.append_assoc, List.cons_append]
      exact hf.add (.branches ho hb hw .nil) (.branches hoe he hbs hd .nil)

/-- One step reads one more command, whatever it is. -/
theorem Holds.step {a b : Assembly} {cs : List Command} {c : Command} (h : Holds a cs)
    (hs : a.step c = .ok b) : Holds b (cs ++ [c]) := by
  unfold Assembly.step at hs
  split at hs
  case h_1 | h_2 | h_3 =>
    rename_i hc
    rw [Except.ok.injEq] at hs
    subst hs
    exact h.add (.leaf (by rw [hc]; rfl) .nil) (.leaf c .nil)
  case h_4 hc =>
    rw [Except.ok.injEq] at hs
    subst hs
    exact h.enter hc
  case h_5 | h_6 =>
    cases hc : a.checkElse c with
    | error e => simp [hc, Except.map] at hs
    | ok u =>
        simp only [hc, Except.map, Except.ok.injEq] at hs
        subst hs
        exact h.enterElse hc
  case h_7 | h_8 =>
    cases hc : a.checkEnd c with
    | error e => simp [hc, Except.map] at hs
    | ok u =>
        simp only [hc, Except.map, Except.ok.injEq] at hs
        subst hs
        exact h.close hc

/-- A step fails at an else command that may not stand here, or at such an end command. -/
theorem check_of_step {a : Assembly} {c : Command} {e : ParseError} (hs : a.step c = .error e) :
    c.directive.isBoundary = true ∧
      ((c.directive.isElse = true ∧ a.checkElse c = .error e) ∨
        (c.directive.isElse = false ∧ a.checkEnd c = .error e)) := by
  have hmap : ∀ {x : Except ParseError Unit} {b : Assembly},
      (x.map fun _ => b) = .error e → x = .error e := by
    intro x b h
    cases x with
    | error e' => simpa [Except.map] using h
    | ok u => cases h
  unfold Assembly.step at hs
  split at hs
  case h_1 | h_2 | h_3 | h_4 => cases hs
  case h_5 | h_6 =>
    rename_i hd
    rw [hd]
    exact ⟨rfl, .inl ⟨rfl, hmap hs⟩⟩
  case h_7 | h_8 =>
    rename_i hd
    rw [hd]
    exact ⟨rfl, .inr ⟨rfl, hmap hs⟩⟩

theorem Holds.run {a b : Assembly} {cs ds : List Command} (h : Holds a cs)
    (hr : a.run (ds.map .ok) = .ok b) : Holds b (cs ++ ds) := by
  induction ds generalizing a cs with
  | nil =>
      rw [List.map_nil, Assembly.run, Except.ok.injEq] at hr
      subst hr
      rwa [List.append_nil]
  | cons d ds ih =>
      rw [List.map_cons, Assembly.run] at hr
      cases hs : a.step d with
      | error e => simp [hs] at hr
      | ok a' =>
          rw [hs] at hr
          simpa only [List.append_assoc, List.singleton_append] using ih (h.step hs) hr

/-- A finished run has read the spelling of the nodes it gives. -/
theorem Holds.finish {a : Assembly} {cs : List Command} {t : Node} (h : Holds a cs)
    (hf : a.finish = .ok t) : ∃ f, WellFormed f ∧ Spells f cs ∧ t = .group f := by
  cases h with
  | @outermost scope cs hw hs =>
      simp only [Assembly.finish, opening?, Except.ok.injEq] at hf
      exact ⟨scope.toList, hw, hs, hf.symm⟩
  | branch _ ho _ _ => simp [Assembly.finish, opening?_of_opening ho] at hf
  | alternative _ he _ _ _ _ => simp [Assembly.finish, opening?_of_continues he] at hf

/-- The innermost scope with more nodes at its end. -/
def addAll (a : Assembly) (f : Forest) : Assembly :=
  { a with active := { a.active with scope := a.active.scope ++ f } }

@[simp] theorem addAll_nil (a : Assembly) : a.addAll [] = a := by
  simp [addAll]

theorem add_addAll (a : Assembly) (n : Node) (f : Forest) :
    (a.add n).addAll f = a.addAll (n :: f) := by
  simp [addAll, add]

theorem step_of_isPlain {c : Command} (hc : c.directive.isPlain = true) (a : Assembly) :
    a.step c = .ok (a.add (.leaf c)) := by
  unfold step
  cases hd : c.directive <;> simp [hd, isPlain] at hc ⊢

theorem step_of_opening {c : Command} {b : BlockKind} {p : String}
    (hc : c.directive = .opening b p) (a : Assembly) : a.step c = .ok (a.enter c) := by
  simp [step, hc]

theorem step_of_continues {c d : Command} (h : c.directive.Continues d.directive)
    (scope : Array Node) (fs : List Frame) :
    step ⟨⟨some c, scope⟩, fs⟩ d = .ok (enter ⟨⟨some c, scope⟩, fs⟩ d) := by
  obtain ⟨k, p, ho⟩ := h.opening
  have hc := (checkElse_of_opening ho scope fs d).mpr h
  unfold step
  rw [hc]
  generalize c.directive = o at h
  generalize d.directive = e at h
  cases h <;> rfl

theorem step_of_ends {a : Assembly} {c e : Command} (ho : a.opening? = some c)
    (h : c.directive.Ends e.directive) : a.step e = .ok a.close := by
  have hc := (checkEnd_of_opening ho e).mpr h
  unfold step
  rw [hc]
  generalize c.directive = o at h
  generalize e.directive = d at h
  cases h <;> rfl

theorem run_cons_of_step {a b : Assembly} {c : Command} (h : a.step c = .ok b)
    (cs : List (Except ParseError Command)) : a.run (.ok c :: cs) = b.run cs := by
  rw [run, h]

theorem enter_addAll (a : Assembly) (c : Command) (f : Forest) :
    (a.enter c).addAll f = ⟨⟨some c, f.toArray⟩, a.active :: a.outer⟩ := by
  simp [enter, addAll]

/-- A block without else branch, from its opening to its end. -/
theorem run_block {c e : Command} {body : Forest} {bs : List Command} {b : BlockKind}
    {p : String} (ho : c.directive = .opening b p) (he : c.directive.Ends e.directive)
    (hb : ∀ a rest, run a (bs.map .ok ++ rest) = (a.addAll body).run rest)
    (a : Assembly) (rest : List (Except ParseError Command)) :
    a.run (.ok c :: (bs.map .ok ++ .ok e :: rest)) = (a.add (.block c body none)).run rest := by
  rw [run_cons_of_step (step_of_opening ho a), hb, enter_addAll,
    run_cons_of_step (step_of_ends (opening?_of_opening ho _ _) he), close_of_opening ho]

/-- A block with an else branch, from its opening to its end. -/
theorem run_branches {c d e : Command} {body alternative : Forest} {bs as : List Command}
    (hd : c.directive.Continues d.directive) (he : c.directive.Ends e.directive)
    (hb : ∀ a rest, run a (bs.map .ok ++ rest) = (a.addAll body).run rest)
    (ha : ∀ a rest, run a (as.map .ok ++ rest) = (a.addAll alternative).run rest)
    (a : Assembly) (rest : List (Except ParseError Command)) :
    a.run (.ok c :: (bs.map .ok ++ .ok d :: (as.map .ok ++ .ok e :: rest))) =
      (a.add (.block c body (some alternative))).run rest := by
  obtain ⟨k, p, ho⟩ := hd.opening
  rw [run_cons_of_step (step_of_opening ho a), hb, enter_addAll,
    run_cons_of_step (step_of_continues hd _ _), ha, enter_addAll,
    run_cons_of_step (step_of_ends (opening?_of_continues hd _ _ _) he), close_of_continues hd]

/-- Reading the spelling of a forest adds its nodes to the innermost scope. -/
theorem run_spelling {f : Forest} {cs : List Command} (hs : Spells f cs) (hw : WellFormed f)
    (a : Assembly) (rest : List (Except ParseError Command)) :
    a.run (cs.map .ok ++ rest) = (a.addAll f).run rest := by
  induction hs generalizing a rest with
  | nil => rw [addAll_nil]; rfl
  | leaf c _ ih =>
      cases hw with
      | leaf hc hw =>
          rw [List.map_cons, List.cons_append, run_cons_of_step (step_of_isPlain hc a), ih hw,
            add_addAll]
  | block he _ _ ihb ih =>
      simp only [List.map_cons, List.map_append, List.cons_append, List.append_assoc]
      obtain ⟨⟨b, p, ho⟩, hb, hr⟩ := hw.of_block
      rw [run_block ho he (ihb hb), ih hr, add_addAll]
  | branches hd he _ _ _ ihb iha ih =>
      simp only [List.map_cons, List.map_append, List.cons_append, List.append_assoc]
      cases hw with
      | branches ho hb ha hw =>
          rw [run_branches hd he (ihb hb) (iha ha), ih hw, add_addAll]

end Assembly

open Forest

/-- The spelling of a well-formed forest is assembled to its nodes. -/
theorem assemble_of_spells {f : Forest} {cs : List Command} (hw : WellFormed f)
    (hs : Spells f cs) : assemble (cs.map .ok) = .ok (.group f) := by
  have hr := Assembly.run_spelling hs hw {} []
  rw [List.append_nil] at hr
  rw [assemble, hr]
  simp [Assembly.run, Assembly.addAll, Except.bind, Assembly.finish, Assembly.opening?]

/-- What is assembled was the spelling of a well-formed forest. -/
theorem spells_of_assemble {cs : List Command} {t : Node} (h : assemble (cs.map .ok) = .ok t) :
    ∃ f, WellFormed f ∧ Spells f cs ∧ t = .group f := by
  unfold assemble at h
  cases hr : Assembly.run {} (cs.map .ok) with
  | error e => simp [hr, Except.bind] at h
  | ok a =>
      rw [hr] at h
      have start : Assembly.Holds {} [] := .outermost .nil .nil
      exact (start.run hr).finish h

mutual

/-- The commands that a node keeps, in the order of the text. -/
def Node.commands : Node → List Command
  | .group scope => Forest.commands scope
  | .leaf c => [c]
  | .block c body none => c :: Forest.commands body
  | .block c body (some alternative) =>
      c :: (Forest.commands body ++ Forest.commands alternative)

def Forest.commands : Forest → List Command
  | [] => []
  | n :: ns => n.commands ++ Forest.commands ns

end

namespace Directive

theorem isBoundary_of_isPlain {d : Directive} (h : d.isPlain = true) : d.isBoundary = false := by
  cases d <;> simp_all [isPlain, isBoundary]

theorem Continues.isBoundary {o d : Directive} (h : o.Continues d) : d.isBoundary = true := by
  cases h <;> rfl

theorem Ends.isBoundary {o d : Directive} (h : o.Ends d) : d.isBoundary = true := by
  cases h <;> rfl

theorem Ends.not_isBoundary {o d : Directive} (h : o.Ends d) : o.isBoundary = false := by
  cases h <;> rfl

end Directive

/-- A forest keeps the commands of its spelling in their order, but for those that part
or end a block. -/
theorem Forest.commands_of_spells {f : Forest} {cs : List Command} (hw : WellFormed f)
    (hs : Spells f cs) : commands f = cs.filter fun c => !c.directive.isBoundary := by
  induction hs with
  | nil => rw [commands, List.filter_nil]
  | leaf c _ ih =>
      cases hw with
      | leaf hc hw =>
          simp [commands, Node.commands, ih hw, Directive.isBoundary_of_isPlain hc]
  | block he _ _ ihb ih =>
      obtain ⟨-, hb, hr⟩ := hw.of_block
      simp [commands, Node.commands, ihb hb, ih hr, he.isBoundary, he.not_isBoundary]
  | branches hd he _ _ _ ihb iha ih =>
      cases hw with
      | branches _ hb ha hw =>
          simp [commands, Node.commands, ihb hb, iha ha, ih hw, hd.isBoundary, he.isBoundary,
            he.not_isBoundary]

/-- Assembling accepts exactly the spellings of well-formed forests and gives back the
forest. So no command is lost, doubled or moved, a sequence spells one forest only, and
it makes no difference which of its spellings is read. -/
theorem assemble_inverts_spelling (cs : List Command) :
    (∀ t, assemble (cs.map .ok) = .ok t ↔ ∃ f, WellFormed f ∧ Spells f cs ∧ t = .group f) ∧
      ∀ f, WellFormed f → Spells f cs →
        Forest.commands f = (cs.filter fun c => !c.directive.isBoundary) ∧
          (∀ g, WellFormed g → Spells g cs → g = f) ∧
          ∀ ds, Spells f ds → assemble (ds.map .ok) = assemble (cs.map .ok) := by
  refine ⟨fun t => ⟨spells_of_assemble, ?_⟩, ?_⟩
  · rintro ⟨f, hw, hs, rfl⟩
    exact assemble_of_spells hw hs
  · intro f hw hs
    refine ⟨Forest.commands_of_spells hw hs, ?_, ?_⟩
    · intro g hg hgs
      have h := (assemble_of_spells hg hgs).symm.trans (assemble_of_spells hw hs)
      simpa using h
    · intro ds hds
      rw [assemble_of_spells hw hds, assemble_of_spells hw hs]

/-- A choice in a loop, with named and with general boundaries. -/
theorem assemble_choice_in_loop :
    let c := Command.mk default
    let forest : Forest :=
      [.block (c (.opening .loop "Lines"))
        [.block (c (.opening (.choice .truth) "Paid")) [.leaf (c .literal)]
          (some [.leaf (c (.field "Due"))])] none]
    let named := [c (.opening .loop "Lines"), c (.opening (.choice .truth) "Paid"), c .literal,
      c (.otherwise .truth "Paid"), c (.field "Due"), c (.closing (.choice .truth) "Paid"),
      c (.closing .loop "Lines")]
    let general := [c (.opening .loop "Lines"), c (.opening (.choice .truth) "Paid"), c .literal,
      c .anyElse, c (.field "Due"), c .anyEnd, c .anyEnd]
    (WellFormed forest ∧ Spells forest named ∧ Spells forest general) ∧
      assemble (named.map .ok) = .ok (.group forest) ∧
      assemble (general.map .ok) = assemble (named.map .ok) := by
  intro c forest named general
  have hw : WellFormed forest :=
    .loop rfl (.branches rfl (.leaf rfl .nil) (.leaf rfl .nil) .nil) .nil
  have hn : Spells forest named :=
    .block (.named _ _)
      (.branches (.named _ _) (.named _ _) (.leaf _ .nil) (.leaf _ .nil) .nil) .nil
  have hg : Spells forest general :=
    .block (.general _ _)
      (.branches (.general _ _) (.general _ _) (.leaf _ .nil) (.leaf _ .nil) .nil) .nil
  have h := assemble_inverts_spelling named
  exact ⟨⟨hw, hn, hg⟩, (h.1 _).mpr ⟨forest, hw, hn, rfl⟩, (h.2 forest hw hn).2.2 general hg⟩

end Templating
