import Mathlib.Logic.Function.Iterate
import Templating.Proofs.Denotation

/-!
# How deep calls go

A run calls itself for the body of a loop, once for each item, and for a
subtemplate. Here the calls stand on a stack of their own, and a run is a
sequence of steps of a machine: the innermost call goes on by one node, calls
another one, or hands its result to the call that waits for it. `reaches_run`
says that the machine comes to an end, with the outcome of the run.

How many calls can stand on the stack is read off the template. Branches and
groups are run by the call that meets them, so that only loops and subtemplates
count. The peak of a state is the depth that its stack can still come to; no
step raises it, whatever the model holds.
-/
namespace Templating

/-- How many calls below its own a command can have under way at once, from the
same of its branches and of the templates that it can name. -/
def Command.nesting (sub : String → Nat) (c : Command) (body alternative : Nat) : Nat :=
  match c.directive with
  | .opening .loop _ => 1 + body
  | .opening (.choice _) _ => max body alternative
  | .subtemplate name _ => sub name
  | .literal | .field _ | .otherwise _ _ | .closing _ _ | .anyElse | .anyEnd => 0

mutual

/-- How many calls below the one that runs it a node can have under way at once. -/
def Node.nesting (sub : String → Nat) : Node → Nat
  | .group nodes => Node.nestings sub nodes
  | .leaf c => c.nesting sub 0 0
  | .block c body none => c.nesting sub (Node.nestings sub body) 0
  | .block c body (some alternative) =>
      c.nesting sub (Node.nestings sub body) (Node.nestings sub alternative)

/-- The same for nodes that are run one after another. -/
def Node.nestings (sub : String → Nat) : List Node → Nat
  | [] => 0
  | n :: ns => max (n.nesting sub) (Node.nestings sub ns)

end

/-- How many calls rendering a template can have under way at once, its own among
them. A subtemplate that is not in the registry is never called. -/
def Template.depth (t : Template) : Nat :=
  1 + t.tree.nesting fun name =>
    match _h : memberOf? name t.registry with
    | none => 0
    | some sub => sub.depth
termination_by sizeOf t
decreasing_by exact Nat.lt_trans (sizeOf_lt_of_memberOf? _h) t.sizeOf_registry_lt

/-- The depth of the entry of a name. -/
def Registry.depth (r : Registry) (name : String) : Nat :=
  match memberOf? name r with
  | none => 0
  | some t => t.depth

theorem Registry.depth_of_memberOf? {r : Registry} {name : String} {t : Template}
    (h : memberOf? name r = some t) : Registry.depth r name = t.depth := by
  rw [Registry.depth, h]

namespace Command
variable (sub : String → Nat) {c : Command} {path : String} (body alternative : Nat)

theorem nesting_of_choice {k : Choice} (h : c.directive = .opening (.choice k) path) :
    c.nesting sub body alternative = max body alternative := by
  simp only [nesting, h]

theorem nesting_of_loop (h : c.directive = .opening .loop path) :
    c.nesting sub body alternative = 1 + body := by
  simp only [nesting, h]

theorem nesting_of_subtemplate {name : String} (h : c.directive = .subtemplate name path) :
    c.nesting sub body alternative = sub name := by
  simp only [nesting, h]

end Command

namespace Node
variable (sub : String → Nat)

@[simp] theorem nestings_nil : nestings sub [] = 0 := by
  rw [nestings]

@[simp] theorem nestings_cons (n : Node) (ns : List Node) :
    nestings sub (n :: ns) = max (n.nesting sub) (nestings sub ns) := by
  rw [nestings]

@[simp] theorem nestings_append (a b : List Node) :
    nestings sub (a ++ b) = max (nestings sub a) (nestings sub b) := by
  induction a with
  | nil => simp
  | cons n a ih => simp only [List.cons_append, nestings_cons, ih, Nat.max_assoc]

theorem nesting_of_no_command {n : Node} (h : n.command? = none) :
    n.nesting sub = nestings sub n.body := by
  cases n with
  | group nodes =>
      rw [nesting]
      rfl
  | leaf c => simp [command?] at h
  | block c body alternative => simp [command?] at h

/-- A missing branch counts as an empty one. -/
theorem nesting_of_command {n : Node} {c : Command} (h : n.command? = some c) :
    n.nesting sub = c.nesting sub (nestings sub n.body) (nestings sub n.alternative) := by
  cases n with
  | group nodes => simp [command?] at h
  | leaf c' =>
      obtain rfl : c' = c := by simpa [command?] using h
      rw [nesting]
      rfl
  | block c' body alternative =>
      obtain rfl : c' = c := by simpa [command?] using h
      cases alternative <;> rw [nesting] <;> rfl

end Node

open Node

theorem Template.depth_eq (t : Template) :
    t.depth = 1 + nestings (Registry.depth t.registry) t.nodes := by
  have htree : t.depth = 1 + t.tree.nesting (Registry.depth t.registry) := by
    rw [Template.depth]
    congr 2
    funext name
    unfold Registry.depth
    split <;> split <;> simp_all
  rw [htree]
  unfold Template.nodes
  split
  · rename_i nodes h
    rw [h, nesting]
  · simp

/-- A call under way: what it reads, the document so far and the nodes to come. -/
structure Activation where
  registry : Registry
  scope : Scope
  document : String
  pending : List Node

/-- A call that waits for one that it has made. -/
inductive Caller where
  /-- In a loop over a path, with the items to come after the present one. -/
  | loop (a : Activation) (path : String) (body : List Node) (items : List Value)
  /-- For the text of a subtemplate. -/
  | subtemplate (a : Activation)

/-- What a call does next. -/
inductive Move where
  | stay (a : Activation)
  | finish (result : Outcome)
  | call (callee : Activation) (caller : Caller)

/-- The call for a template as a whole. -/
def Template.activation (t : Template) (model : Value) : Activation :=
  ⟨t.registry, ⟨model, []⟩, "", t.nodes⟩

namespace Activation

def write (a : Activation) (text : String) : Activation :=
  { a with document := a.document ++ text }

/-- Puts the nodes of a branch before those to come. -/
def branch (a : Activation) (nodes : List Node) : Activation :=
  { a with pending := nodes ++ a.pending }

/-- The call for the body of a loop. -/
def inner (a : Activation) (path : String) (body : List Node) (item : Value) : Activation :=
  { a with scope := a.scope.enter path item, pending := body }

/-- Calls the body for the first of the items that are left. -/
def iterate (a : Activation) (path : String) (body : List Node) : List Value → Move
  | [] => .stay a
  | v :: items => .call (a.inner path body v) (.loop a path body items)

/-- What a call makes of the command of a node. -/
def perform (i : Interpretation) (a : Activation) (node : Node) (c : Command) : Move :=
  match c.directive with
  | .literal => .stay (a.write c.sentence.text)
  | .field path =>
      match i.fieldText a.scope path with
      | .error e => .finish (.error e)
      | .ok text => .stay (a.write text)
  | .opening (.choice .truth) path =>
      match i.read a.scope path with
      | .error e => .finish (.error e)
      | .ok v =>
          match v.truth? with
          | some true => .stay (a.branch node.body)
          | some false => .stay (a.branch node.alternative)
          | none => .finish (.error (.failure (.notBoolean path v.typeName)))
  | .opening (.choice .presence) path =>
      match i.read a.scope path with
      | .error e => .finish (.error e)
      | .ok v => .stay (a.branch (if v.isNull then node.alternative else node.body))
  | .opening .loop path =>
      match i.read a.scope path with
      | .error e => .finish (.error e)
      | .ok v =>
          match v.items? with
          | none => .finish (.error (.failure (.notIterable path v.typeName)))
          | some items => a.iterate path node.body items
  | .subtemplate name path =>
      match i.read a.scope path with
      | .error e => .finish (.error e)
      | .ok v =>
          match memberOf? name a.registry with
          | none => .finish (.error (.failure (.unknownSubtemplate name)))
          | some t => .call (t.activation v) (.subtemplate a)
  | .otherwise _ _ | .closing _ _ | .anyElse | .anyEnd =>
      .finish (.error (.failure (.strayCommand c.name)))

/-- Goes on by one node. -/
def move (i : Interpretation) (a : Activation) : Move :=
  match a.pending with
  | [] => .finish (.ok a.document)
  | node :: rest =>
      match node.command? with
      | none => .stay { a with pending := node.body ++ rest }
      | some c => { a with pending := rest }.perform i node c

/-- How many calls this one can still have under way at once, itself among them. -/
def depth (a : Activation) : Nat :=
  1 + nestings (Registry.depth a.registry) a.pending

end Activation

/-- Takes in what the call that was waited for has given. The body of a loop writes on
the document of the loop, a subtemplate has one of its own. -/
def Caller.resume (text : String) : Caller → Move
  | .loop a path body items => { a with document := text }.iterate path body items
  | .subtemplate a => .stay (a.write text)

/-- The depth that a waiting call can still come to by what it does on its return. -/
def Caller.depth : Caller → Nat
  | .loop a _ body _ => max (1 + { a with pending := body }.depth) a.depth
  | .subtemplate a => a.depth

/-- The calls under way: the innermost one, or its result, and those that wait, from
the inside out. -/
inductive Machine where
  | running (a : Activation) (callers : List Caller)
  | returned (result : Outcome) (callers : List Caller)

/-- What is on the stack after a move of the innermost call. -/
def Move.on (callers : List Caller) : Move → Machine
  | .stay a => .running a callers
  | .finish result => .returned result callers
  | .call callee caller => .running callee (caller :: callers)

/-- A fault ends every call that waits. -/
def Interpretation.step (i : Interpretation) : Machine → Machine
  | .running a callers => (a.move i).on callers
  | .returned (.ok text) (w :: callers) => (w.resume text).on callers
  | .returned (.error e) (_ :: callers) => .returned (.error e) callers
  | .returned result [] => .returned result []

namespace Move

/-- The depth that a call can come to by its move and those that follow. -/
def depth : Move → Nat
  | .stay a => a.depth
  | .finish _ => 0
  | .call callee caller => max (1 + callee.depth) caller.depth

end Move

theorem Template.depth_activation (t : Template) (model : Value) :
    (t.activation model).depth = t.depth :=
  t.depth_eq.symm

namespace Activation
variable (i : Interpretation) (a : Activation)

theorem depth_pos : 0 < a.depth := by
  unfold depth
  omega

@[simp] theorem depth_branch (nodes : List Node) :
    (a.branch nodes).depth =
      max (1 + nestings (Registry.depth a.registry) nodes) a.depth := by
  simp only [depth, branch, nestings_append]
  omega

theorem depth_iterate_le (path : String) (body : List Node) (items : List Value) :
    (a.iterate path body items).depth ≤ (Caller.loop a path body items).depth := by
  cases items with
  | nil => exact Nat.le_max_right _ _
  | cons v items => exact Nat.max_le.mpr ⟨Nat.le_max_left _ _, Nat.le_refl _⟩

/-- What a command can lead to is counted in the nesting of its node. -/
theorem depth_perform_le {node : Node} {c : Command} (h : node.command? = some c) :
    (a.perform i node c).depth ≤ (a.branch [node]).depth := by
  have hd : (a.branch [node]).depth =
      max (1 + c.nesting (Registry.depth a.registry)
        (nestings (Registry.depth a.registry) node.body)
        (nestings (Registry.depth a.registry) node.alternative)) a.depth := by
    rw [depth_branch, nestings_cons, nesting_of_command _ h, nestings_nil, Nat.max_zero]
  rw [hd]
  fun_cases perform i a node c with
  | case1 | case3 => exact Nat.le_max_right _ _
  | case5 path hc | case6 path hc =>
      rw [Move.depth, depth_branch, Command.nesting_of_choice _ _ _ hc]
      omega
  | case9 path hc v hv =>
      rw [Move.depth, depth_branch, Command.nesting_of_choice _ _ _ hc]
      split <;> omega
  | case12 path hc v hv items hi =>
      rw [Command.nesting_of_loop _ _ _ hc]
      exact a.depth_iterate_le path node.body items
  | case15 name path hc v hv t ht =>
      rw [Move.depth, t.depth_activation, Command.nesting_of_subtemplate _ _ _ hc,
        Registry.depth_of_memberOf? ht]
      exact Nat.le_refl _
  | _ => exact Nat.zero_le _

/-- Going on by a node leads to no deeper stack than the pending nodes allow. -/
theorem depth_move_le : (a.move i).depth ≤ a.depth := by
  unfold move
  split
  · exact Nat.zero_le _
  · rename_i node rest hp
    have ha : a.depth = ({ a with pending := rest }.branch [node]).depth := by
      rw [depth, hp]
      rfl
    rw [ha]
    split
    · rename_i hn
      rw [Move.depth, depth_branch, nestings_cons, nesting_of_no_command _ hn]
      simp only [depth, nestings_append, nestings_nil]
      omega
    · rename_i c hn
      exact depth_perform_le i _ hn

end Activation

namespace Caller

theorem depth_pos (w : Caller) : 0 < w.depth := by
  cases w with
  | loop a path body items => exact Nat.lt_of_lt_of_le a.depth_pos (Nat.le_max_right _ _)
  | subtemplate a => exact a.depth_pos

theorem depth_resume_le (text : String) (w : Caller) : (w.resume text).depth ≤ w.depth := by
  cases w with
  | loop a path body items =>
      exact Activation.depth_iterate_le { a with document := text } path body items
  | subtemplate a => exact Nat.le_refl _

/-- The depth that a stack of waiting calls can still come to once the innermost of
them goes on. -/
def peak : List Caller → Nat
  | [] => 0
  | w :: callers => max (callers.length + w.depth) (peak callers)

theorem length_le_peak (callers : List Caller) : callers.length ≤ peak callers := by
  cases callers with
  | nil => exact Nat.zero_le _
  | cons w callers =>
      have := w.depth_pos
      rw [peak, List.length_cons]
      omega

end Caller

namespace Machine

/-- The first call, for a template as a whole. -/
def start (t : Template) (model : Value) : Machine := .running (t.activation model) []

/-- How many calls are under way. -/
def height : Machine → Nat
  | .running _ callers => callers.length + 1
  | .returned _ callers => callers.length

/-- The height that a state can still come to. -/
def peak : Machine → Nat
  | .running a callers => max (callers.length + a.depth) (Caller.peak callers)
  | .returned _ callers => Caller.peak callers

theorem height_le_peak (m : Machine) : m.height ≤ m.peak := by
  cases m with
  | running a callers =>
      have := a.depth_pos
      simp only [height, peak]
      omega
  | returned result callers => exact Caller.length_le_peak callers

theorem peak_start (t : Template) (model : Value) : (start t model).peak = t.depth := by
  rw [start, peak, Caller.peak, t.depth_activation, List.length_nil, Nat.zero_add, Nat.max_zero]

end Machine

theorem Move.peak_on_le (callers : List Caller) (m : Move) :
    (m.on callers).peak ≤ max (callers.length + m.depth) (Caller.peak callers) := by
  cases m with
  | stay a => exact Nat.le_refl _
  | finish result => exact Nat.le_max_right _ _
  | call callee caller =>
      simp only [on, Machine.peak, Caller.peak, depth, List.length_cons]
      omega

namespace Interpretation
variable (i : Interpretation)

/-- No step raises the peak. -/
theorem peak_step_le (m : Machine) : (i.step m).peak ≤ m.peak := by
  cases m with
  | running a callers =>
      have hmove := a.depth_move_le i
      have hon := (a.move i).peak_on_le callers
      simp only [step, Machine.peak] at hon ⊢
      omega
  | returned result callers =>
      cases callers with
      | nil => cases result <;> exact Nat.le_refl _
      | cons w callers =>
          cases result with
          | error e => exact Nat.le_max_right _ _
          | ok text =>
              have hresume := w.depth_resume_le text
              have hon := (w.resume text).peak_on_le callers
              simp only [step, Machine.peak, Caller.peak] at hon ⊢
              omega

theorem peak_iterate_le (n : Nat) (m : Machine) : (i.step^[n] m).peak ≤ m.peak := by
  induction n with
  | zero => exact Nat.le_refl _
  | succ n ih =>
      rw [Function.iterate_succ_apply']
      exact Nat.le_trans (i.peak_step_le _) ih

end Interpretation

/-- Some number of steps leads from one state to another. -/
def Interpretation.Reaches (i : Interpretation) (m m' : Machine) : Prop :=
  ∃ n, i.step^[n] m = m'

namespace Interpretation.Reaches
variable {i : Interpretation} {m m' m'' : Machine}

theorem refl (m : Machine) : i.Reaches m m := ⟨0, rfl⟩

theorem trans (h : i.Reaches m m') (h' : i.Reaches m' m'') : i.Reaches m m'' := by
  obtain ⟨k, rfl⟩ := h
  obtain ⟨n, rfl⟩ := h'
  exact ⟨n + k, Function.iterate_add_apply _ n k m⟩

theorem of_step (h : i.Reaches (i.step m) m') : i.Reaches m m' := by
  obtain ⟨n, rfl⟩ := h
  exact ⟨n + 1, Function.iterate_succ_apply _ n m⟩

variable {registry : Registry} {scope : Scope}

/-- A call that has a node with a command next goes on by what it makes of it. -/
theorem of_perform {document : String} {node : Node} {rest : List Node} {callers : List Caller}
    {c : Command} (hn : node.command? = some c)
    (h : i.Reaches ((Activation.perform i ⟨registry, scope, document, rest⟩ node c).on callers) m) :
    i.Reaches (.running ⟨registry, scope, document, node :: rest⟩ callers) m := by
  refine of_step ?_
  simp only [step, Activation.move, hn]
  exact h

/-- The items are run through on one document, up to the first fault. -/
theorem of_iterate {path : String} {body : List Node} {f : String → Value → Outcome}
    (document : String) (rest : List Node) (items : List Value) (callers : List Caller)
    (hbody : ∀ document item callers,
      i.Reaches (.running ⟨registry, scope.enter path item, document, body⟩ callers)
        (.returned (f document item) callers)) :
    i.Reaches
      ((Activation.iterate ⟨registry, scope, document, rest⟩ path body items).on callers)
      (match items.foldlM f document with
        | .error e => .returned (.error e) callers
        | .ok text => .running ⟨registry, scope, text, rest⟩ callers) := by
  induction items generalizing document with
  | nil => exact refl _
  | cons item items ih =>
      rw [List.foldlM_cons]
      refine (hbody document item _).trans (of_step ?_)
      cases f document item with
      | error e => exact refl _
      | ok text => exact ih text

end Interpretation.Reaches

namespace Interpretation
variable (i : Interpretation)

/-- The machine comes to the outcome of the run, whatever calls wait for it. -/
theorem reaches_run (registry : Registry) (scope : Scope) (document : String)
    (nodes : List Node) (callers : List Caller) :
    i.Reaches (.running ⟨registry, scope, document, nodes⟩ callers)
      (.returned (i.run registry scope document nodes) callers) := by
  fun_induction run i registry scope document nodes generalizing callers with
  | case1 registry scope document => exact .of_step (.refl _)
  | case2 registry scope document n rest hn ih =>
      refine .of_step ?_
      simp only [step, Activation.move, hn]
      exact ih callers
  | case3 registry scope document n rest c hn hc ih =>
      refine .of_perform hn ?_
      simp only [Activation.perform, hc]
      exact ih callers
  | case5 registry scope document n rest c hn path hc s hs ih =>
      refine .of_perform hn ?_
      simp only [Activation.perform, hc, hs]
      exact ih callers
  | case7 registry scope document n rest c hn path hc v hv ht ih
  | case8 registry scope document n rest c hn path hc v hv ht ih =>
      refine .of_perform hn ?_
      simp only [Activation.perform, hc, hv, ht]
      exact ih callers
  | case11 registry scope document n rest c hn path hc v hv hz ih
  | case12 registry scope document n rest c hn path hc v hv hz ih =>
      refine .of_perform hn ?_
      simp only [Activation.perform, hc, hv, hz]
      exact ih callers
  -- The body is called for each item in turn.
  | case15 registry scope document n rest c hn path hc v hv items hi e he ih =>
      refine .of_perform hn ?_
      simp only [Activation.perform, hc, hv, hi]
      have hloop := Reaches.of_iterate document rest items callers ih
      rw [he] at hloop
      exact hloop
  | case16 registry scope document n rest c hn path hc v hv items hi s hs ihbody ih =>
      refine .of_perform hn ?_
      simp only [Activation.perform, hc, hv, hi]
      have hloop := Reaches.of_iterate document rest items callers ihbody
      rw [hs] at hloop
      exact hloop.trans (ih callers)
  | case19 registry scope document n rest c hn name path hc v hv t ht e he ih =>
      refine .of_perform hn ?_
      simp only [Activation.perform, hc, hv, ht]
      rw [he] at ih
      exact (ih _).trans (.of_step (.refl _))
  | case20 registry scope document n rest c hn name path hc v hv t ht s hs ihsub ih =>
      refine .of_perform hn ?_
      simp only [Activation.perform, hc, hv, ht]
      rw [hs] at ihsub
      exact (ihsub _).trans (.of_step (ih callers))
  -- A fault is the result of the call that meets it.
  | case4 registry scope document n rest c hn path hc e he
  | case6 registry scope document n rest c hn path hc e he
  | case10 registry scope document n rest c hn path hc e he
  | case13 registry scope document n rest c hn path hc e he
  | case17 registry scope document n rest c hn name path hc e he =>
      refine .of_perform hn ?_
      simp only [Activation.perform, hc, he]
      exact .refl _
  | case9 registry scope document n rest c hn path hc v hv hw
  | case14 registry scope document n rest c hn path hc v hv hw
  | case18 registry scope document n rest c hn name path hc v hv hw =>
      refine .of_perform hn ?_
      simp only [Activation.perform, hc, hv, hw]
      exact .refl _
  | case21 registry scope document n rest c hn k path hc
  | case22 registry scope document n rest c hn b path hc
  | case23 registry scope document n rest c hn hc
  | case24 registry scope document n rest c hn hc =>
      refine .of_perform hn ?_
      simp only [Activation.perform, hc]
      exact .refl _

/-- Rendering comes to an end on a stack that never holds more calls than the
template alone allows, whatever the model, the extractor and the formatter. -/
theorem render_within_depth (t : Template) (model : Value) :
    (∃ n, i.step^[n] (Machine.start t model) = .returned (i.render t model) []) ∧
      ∀ n, (i.step^[n] (Machine.start t model)).height ≤ t.depth := by
  refine ⟨i.reaches_run t.registry ⟨model, []⟩ "" t.nodes [], fun n => ?_⟩
  calc (i.step^[n] (Machine.start t model)).height
    _ ≤ (i.step^[n] (Machine.start t model)).peak := Machine.height_le_peak _
    _ ≤ (Machine.start t model).peak := i.peak_iterate_le n _
    _ = t.depth := Machine.peak_start t model

end Interpretation

end Templating
