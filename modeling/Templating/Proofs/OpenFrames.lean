import Mathlib.Data.List.Chain
import Templating.Proofs.FirstFault

/-!
# The frames of the open blocks

The commands of the frames, from the outermost frame to the active one, tell which blocks
are open. The outermost frame has no command. Every other frame is that of an opening
command, or that of an else command right above the opening command it continues, so the
innermost block is that of the last opening command.

Closing a block has two ways out for frames that are not like this: leaving the outermost
frame gives an empty one in its place, and a frame without command becomes a mere group of
nodes. `close?` is closing without them. Of every sequence of commands that is read,
`frames_of_run` says that its frames are as above, so that an end command which may stand
after it needs neither way out and takes away the frames of the innermost block alone.
-/
namespace Templating

/-- Whether a directive opens a block. -/
def Directive.isOpening : Directive → Bool
  | .opening _ _ => true
  | _ => false

/-- Whether a directive ends a block. -/
def Directive.isEnd : Directive → Bool
  | .closing _ _ | .anyEnd => true
  | _ => false

theorem Directive.Continues.not_isOpening {o d : Directive} (h : o.Continues d) :
    d.isOpening = false := by
  cases h <;> rfl

namespace Assembly
open Directive

/-- The commands of the frames, from the outermost frame to the active one. -/
def frameCommands (a : Assembly) : List (Option Command) :=
  (a.active :: a.outer).reverse.map Frame.command?

/-- Which command may have its frame right above a frame. Blocks are opened anywhere; an else
stands on an opening of its kind, and of its path if it names one. -/
inductive StandsOn : Option Command → Option Command → Prop
  | opening (below : Option Command) {c : Command} {b : BlockKind} {p : String} :
      c.directive = .opening b p → StandsOn below (some c)
  | otherwise {o e : Command} :
      o.directive.Continues e.directive → StandsOn (some o) (some e)

/-- The frames are those of nested blocks, with these commands above the outermost frame. -/
structure Nesting (a : Assembly) (cs : List Command) : Prop where
  commands : a.frameCommands = none :: cs.map some
  openingOrElse : ∀ c ∈ cs, c.directive.isOpening = true ∨ c.directive.isElse = true
  stacked : a.frameCommands.IsChain StandsOn
  innermost : a.opening? = (cs.filter fun c => c.directive.isOpening).getLast?

/-- The innermost frame and what is around it, of frames that are not the outermost alone. -/
def leave? (a : Assembly) : Option (Frame × Assembly) :=
  match a.outer with
  | f :: fs => some (a.active, ⟨f, fs⟩)
  | [] => none

/-- The block of a frame that has a command. -/
def nodeOf? (f : Frame) (alternative : Option (List Node)) : Option Node :=
  f.command?.map fun c => .block c f.scope.toList alternative

def closeLoop? (a : Assembly) : Option Assembly := do
  let (f, a) ← a.leave?
  let n ← nodeOf? f none
  return a.add n

def closeChoice? (a : Assembly) : Option Assembly :=
  match a.active.command? with
  | some c =>
      if c.directive.isElse then do
        let (e, a) ← a.leave?
        let (f, a) ← a.leave?
        let n ← nodeOf? f (some e.scope.toList)
        return a.add n
      else a.closeLoop?
  | none => a.closeLoop?

/-- Closes a block as `close` does, but only by frames that are there and have a command. -/
def close? (a : Assembly) : Option Assembly :=
  match a.opening?.map Command.directive with
  | some (.opening .loop _) => a.closeLoop?
  | _ => a.closeChoice?

/-- The frames of a block are taken away, one or two, and the block itself is added to the
frame that was around it. -/
inductive Closes : Assembly → Assembly → Prop
  | branch {c : Command} {b : BlockKind} {p : String} {scope : Array Node} {f : Frame}
      {fs : List Frame} : c.directive = .opening b p →
      Closes ⟨⟨some c, scope⟩, f :: fs⟩ (add ⟨f, fs⟩ (.block c scope.toList none))
  | alternative {o e : Command} {body scope : Array Node} {f : Frame} {fs : List Frame} :
      o.directive.Continues e.directive →
      Closes ⟨⟨some e, scope⟩, ⟨some o, body⟩ :: f :: fs⟩
        (add ⟨f, fs⟩ (.block o body.toList (some scope.toList)))

variable {a b : Assembly} {cs : List Command} {f g : Frame} {fs : List Frame}
  {c e o : Command} {body scope : Array Node}

theorem frameCommands_cons (g f : Frame) (fs : List Frame) :
    frameCommands ⟨g, f :: fs⟩ = frameCommands ⟨f, fs⟩ ++ [g.command?] := by
  simp [frameCommands]

theorem stacked_cons_iff : (frameCommands ⟨g, f :: fs⟩).IsChain StandsOn ↔
    StandsOn f.command? g.command? ∧ (frameCommands ⟨f, fs⟩).IsChain StandsOn := by
  simp only [frameCommands, List.map_reverse, List.isChain_reverse, List.map_cons,
    List.isChain_cons_cons]

namespace Nesting

theorem outermost (scope : Array Node) : Nesting ⟨⟨none, scope⟩, []⟩ [] where
  commands := rfl
  openingOrElse := by simp
  stacked := .singleton none
  innermost := rfl

/-- A block that is opened adds a frame to any others. -/
theorem branch {b : BlockKind} {p : String} (h : Nesting ⟨f, fs⟩ cs)
    (hc : c.directive = .opening b p) (scope : Array Node) :
    Nesting ⟨⟨some c, scope⟩, f :: fs⟩ (cs ++ [c]) where
  commands := by simp [frameCommands_cons, h.commands]
  openingOrElse := by
    simpa [or_imp, forall_and, hc, isOpening] using h.openingOrElse
  stacked := stacked_cons_iff.mpr ⟨.opening _ hc, h.stacked⟩
  innermost := by simp [opening?_of_opening hc, hc, isOpening]

/-- An else command adds a frame to that of the block it continues, which stays the
innermost one. -/
theorem alternative (h : Nesting ⟨⟨some o, body⟩, fs⟩ cs)
    (he : o.directive.Continues e.directive) (scope : Array Node) :
    Nesting ⟨⟨some e, scope⟩, ⟨some o, body⟩ :: fs⟩ (cs ++ [e]) where
  commands := by simp [frameCommands_cons, h.commands]
  openingOrElse := by
    simpa [or_imp, forall_and, he.isElse] using h.openingOrElse
  stacked := stacked_cons_iff.mpr ⟨.otherwise he, h.stacked⟩
  innermost := by
    obtain ⟨k, p, ho⟩ := he.opening
    have hlast := h.innermost
    rw [opening?_of_opening ho] at hlast
    simpa [opening?_of_continues he, List.filter_append, he.not_isOpening] using hlast

end Nesting

theorem Holds.exists_nesting (h : Holds a cs) : ∃ ds, a.Nesting ds := by
  induction h with
  | outermost => exact ⟨[], .outermost _⟩
  | branch _ hc _ _ ih =>
      obtain ⟨ds, hds⟩ := ih
      exact ⟨_, hds.branch hc _⟩
  | alternative _ he _ _ _ _ ih =>
      -- The frame below is that of the block, which is there as a first branch.
      obtain ⟨ds, hds⟩ := ih
      obtain ⟨k, p, ho⟩ := he.opening
      exact ⟨_, (hds.branch ho _).alternative he _⟩

theorem leave_of_leave? {x : Frame × Assembly} (h : a.leave? = some x) : a.leave = x := by
  obtain ⟨f, _ | ⟨g, fs⟩⟩ := a
  · cases h
  · exact Option.some.inj h

theorem nodeOf_of_nodeOf? {n : Node} {alternative : Option (List Node)}
    (h : nodeOf? f alternative = some n) : nodeOf f alternative = n := by
  obtain ⟨c, hc, rfl⟩ := Option.map_eq_some_iff.mp h
  simp [nodeOf, hc]

theorem closeLoop_of_closeLoop? (h : a.closeLoop? = some b) : a.closeLoop = b := by
  simp only [closeLoop?, Option.bind_eq_bind, Option.bind_eq_some_iff] at h
  obtain ⟨⟨f, a'⟩, hl, n, hn, hb⟩ := h
  simp only [closeLoop, leave_of_leave? hl, nodeOf_of_nodeOf? hn]
  exact Option.some.inj hb

theorem closeChoice_of_closeChoice? (h : a.closeChoice? = some b) : a.closeChoice = b := by
  unfold closeChoice? at h
  unfold closeChoice
  cases hc : a.active.command? with
  | none =>
      simp only [hc] at h
      exact closeLoop_of_closeLoop? h
  | some c =>
      simp only [hc] at h
      dsimp only
      split at h
      case isTrue he =>
        simp only [Option.bind_eq_bind, Option.bind_eq_some_iff] at h
        obtain ⟨⟨e, a₁⟩, hl₁, ⟨f, a₂⟩, hl₂, n, hn, hb⟩ := h
        simp only [if_pos he, leave_of_leave? hl₁, leave_of_leave? hl₂, nodeOf_of_nodeOf? hn]
        exact Option.some.inj hb
      case isFalse he =>
        rw [if_neg he]
        exact closeLoop_of_closeLoop? h

/-- Where closing does without its two ways out, they make no difference. -/
theorem close_of_close? (h : a.close? = some b) : a.close = b := by
  by_cases hloop : ∃ p, a.opening?.map Command.directive = some (.opening .loop p)
  · obtain ⟨p, hp⟩ := hloop
    simp only [close?, hp] at h
    simp only [close, hp]
    exact closeLoop_of_closeLoop? h
  · have hclose? : a.close? = a.closeChoice? := by
      unfold close?
      split
      · exact (hloop ⟨_, ‹_›⟩).elim
      · rfl
    have hclose : a.close = a.closeChoice := by
      unfold close
      split
      · exact (hloop ⟨_, ‹_›⟩).elim
      · rfl
    rw [hclose]
    exact closeChoice_of_closeChoice? (hclose?.symm.trans h)

theorem close?_of_opening {b : BlockKind} {p : String} (hc : c.directive = .opening b p)
    (scope : Array Node) (f : Frame) (fs : List Frame) :
    close? ⟨⟨some c, scope⟩, f :: fs⟩ = some (add ⟨f, fs⟩ (.block c scope.toList none)) := by
  have hl : closeLoop? ⟨⟨some c, scope⟩, f :: fs⟩ =
      some (add ⟨f, fs⟩ (.block c scope.toList none)) := rfl
  unfold close?
  split
  · exact hl
  · simpa [closeChoice?, hc, isElse] using hl

theorem close?_of_continues (h : o.directive.Continues e.directive) (scope body : Array Node)
    (f : Frame) (fs : List Frame) :
    close? ⟨⟨some e, scope⟩, ⟨some o, body⟩ :: f :: fs⟩ =
      some (add ⟨f, fs⟩ (.block o body.toList (some scope.toList))) := by
  obtain ⟨k, p, ho⟩ := h.opening
  unfold close?
  rw [opening?_of_continues h, Option.map_some, ho]
  simp [closeChoice?, h.isElse, leave?, nodeOf?]

theorem Holds.closes (h : Holds a cs) (hc : a.checkEnd c = .ok ()) :
    a.close? = some a.close ∧ a.Closes a.close := by
  have hexists : ∃ b, a.close? = some b ∧ a.Closes b := by
    cases h with
    | outermost => simp [checkEnd, opening?] at hc
    | branch _ ho _ _ => exact ⟨_, close?_of_opening ho _ _ _, .branch ho⟩
    | alternative _ he _ _ _ _ => exact ⟨_, close?_of_continues he _ _ _ _, .alternative he⟩
  obtain ⟨b, hb, hcloses⟩ := hexists
  rw [close_of_close? hb]
  exact ⟨hb, hcloses⟩

theorem step_of_isEnd (hc : c.directive.isEnd = true) (hs : a.step c = .ok b) :
    a.checkEnd c = .ok () ∧ b = a.close := by
  have hmap : ((a.checkEnd c).map fun _ => a.close) = .ok b := by
    unfold step at hs
    cases hd : c.directive <;> simp_all [isEnd]
  cases he : a.checkEnd c with
  | error e => simp [he, Except.map] at hmap
  | ok u => exact ⟨rfl, by simpa [he, Except.map] using hmap.symm⟩

/-- After any commands that are read the frames are those of nested blocks. An end command
that is read next closes the innermost block by frames that are there and have a command,
and leaves all frames around the block in their places. -/
theorem frames_of_run {xs : List (Except ParseError Command)} (hr : run {} xs = .ok a) :
    (∃ cs, a.Nesting cs) ∧
      ∀ c b, c.directive.isEnd = true → a.step c = .ok b → a.close? = some b ∧ a.Closes b := by
  obtain ⟨cs, rfl⟩ := exists_of_run hr
  have h := holds_of_run hr
  refine ⟨h.exists_nesting, ?_⟩
  intro c b hc hs
  obtain ⟨hend, rfl⟩ := step_of_isEnd hc hs
  exact h.closes hend

/-- In the else branch of a choice in a loop. The end command takes away two frames, and the
loop stays open. -/
theorem frames_of_run_in_alternative :
    let c := Command.mk default
    let loop := c (.opening .loop "Lines")
    let choice := c (.opening (.choice .truth) "Paid")
    let a : Assembly := ⟨⟨some (c .anyElse), #[]⟩, [⟨some choice, #[]⟩, ⟨some loop, #[]⟩, {}]⟩
    let b : Assembly := ⟨⟨some loop, #[.block choice [] (some [])]⟩, [{}]⟩
    run {} ([loop, choice, c .anyElse].map .ok) = .ok a ∧
      a.Nesting [loop, choice, c .anyElse] ∧ a.close? = some b ∧ a.Closes b := by
  intro c loop choice a b
  have hr : run {} ([loop, choice, c .anyElse].map .ok) = .ok a := rfl
  obtain ⟨⟨cs, hcs⟩, hclose⟩ := frames_of_run hr
  have heq : cs = [loop, choice, c .anyElse] := by
    have := hcs.commands
    simpa [a, frameCommands, List.map_eq_cons_iff] using this.symm
  exact ⟨hr, heq ▸ hcs, hclose (c .anyEnd) b rfl rfl⟩

end Assembly
end Templating
