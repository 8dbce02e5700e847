import Templating.Render

/-!
# What a template means

A tree is read by plain recursion: a list of nodes means the texts of its nodes
one after another, and a node means what its command makes of its branches. The
branches come as functions of a scope, so that a choice asks for one of them
only and a loop asks for its body once for each item.

Running keeps one list of the nodes still to come, in which the nodes of a
branch stand before the siblings of their block. `run_eq_denoteAll` says that
such a run continues the document by the meaning of the whole list.
-/
namespace Templating

/-- A text, or why there is none. -/
abbrev Outcome := Except (Fault RenderError) String

namespace Outcome

/-- One text after another. The first fault is the fault of both. -/
def andThen : Outcome → Outcome → Outcome
  | .error e, _ => .error e
  | .ok _, .error e => .error e
  | .ok s, .ok t => .ok (s ++ t)

/-- Texts in their order, up to the first fault. -/
def concat : List Outcome → Outcome
  | [] => .ok ""
  | x :: xs => andThen x (concat xs)

@[simp] theorem andThen_error (e : Fault RenderError) (x : Outcome) :
    andThen (.error e) x = .error e := rfl

@[simp] theorem empty_andThen (x : Outcome) : andThen (.ok "") x = x := by
  cases x <;> simp [andThen]

@[simp] theorem andThen_empty (x : Outcome) : andThen x (.ok "") = x := by
  cases x <;> simp [andThen]

theorem andThen_assoc (x y z : Outcome) :
    andThen (andThen x y) z = andThen x (andThen y z) := by
  cases x <;> cases y <;> cases z <;> simp [andThen, String.append_assoc]

theorem ok_andThen_eq_error {s : String} {x : Outcome} {e : Fault RenderError} :
    andThen (.ok s) x = .error e ↔ x = .error e := by
  cases x <;> simp [andThen]

theorem ok_andThen_eq_ok {s t : String} {x : Outcome} :
    andThen (.ok s) x = .ok t ↔ ∃ u, x = .ok u ∧ s ++ u = t := by
  cases x <;> simp [andThen]

/-- A fault of neither part is not one of the whole. -/
theorem andThen_ne_error {x y : Outcome} {e : Fault RenderError} (hx : x ≠ .error e)
    (hy : y ≠ .error e) : andThen x y ≠ .error e := by
  cases x with
  | error _ => exact hx
  | ok s =>
      cases y with
      | error _ => exact hy
      | ok t => simp [andThen]

/-- Adding texts in turn to what is there already is adding all of them at once. -/
theorem foldlM_andThen {A : Type} (f : A → Outcome) (document : String) (xs : List A) :
    xs.foldlM (fun d x => andThen (.ok d) (f x)) document =
      andThen (.ok document) (concat (xs.map f)) := by
  induction xs generalizing document with
  | nil => exact (andThen_empty (.ok document)).symm
  | cons x xs ih =>
      rw [List.foldlM_cons, List.map_cons, concat]
      cases hx : f x with
      | error e => rfl
      | ok s =>
          change xs.foldlM _ (document ++ s) = _
          rw [ih, ← andThen_assoc]
          rfl

end Outcome

open Outcome

/-- What a command means in a scope, given the meanings of its branches in every
scope and what the templates that it can name give for a value. -/
def Command.denote (i : Interpretation) (call : String → Value → Outcome) (c : Command)
    (body alternative : Scope → Outcome) (scope : Scope) : Outcome :=
  match c.directive with
  | .literal => .ok c.sentence.text
  | .field path => i.fieldText scope path
  | .opening (.choice .truth) path =>
      match i.read scope path with
      | .error e => .error e
      | .ok (.bool true) => body scope
      | .ok (.bool false) | .ok .null => alternative scope
      | .ok v => .error (.failure (.notBoolean path v.typeName))
  | .opening (.choice .presence) path =>
      match i.read scope path with
      | .error e => .error e
      | .ok .null => alternative scope
      | .ok _ => body scope
  | .opening .loop path =>
      match i.read scope path with
      | .error e => .error e
      | .ok .null => .ok ""
      | .ok (.array items) => concat (items.map fun v => body (scope.enter path v))
      | .ok (.string s) =>
          concat (s.toList.map fun c => body (scope.enter path (.string (String.singleton c))))
      | .ok (.object members) =>
          concat (members.map fun m =>
            body (scope.enter path (.object [("key", .string m.1), ("value", m.2)])))
      | .ok v => .error (.failure (.notIterable path v.typeName))
  | .subtemplate name path =>
      match i.read scope path with
      | .error e => .error e
      | .ok v => call name v
  | .otherwise _ _ | .closing _ _ | .anyElse | .anyEnd =>
      .error (.failure (.strayCommand c.name))

mutual

/-- What a node means in a scope. A group means its nodes, and a missing branch
means the empty text. -/
def Node.denote (i : Interpretation) (call : String → Value → Outcome) :
    Node → Scope → Outcome
  | .group nodes, scope => Node.denoteAll i call nodes scope
  | .leaf c, scope => c.denote i call (fun _ => .ok "") (fun _ => .ok "") scope
  | .block c body none, scope =>
      c.denote i call (fun s => Node.denoteAll i call body s) (fun _ => .ok "") scope
  | .block c body (some alternative), scope =>
      c.denote i call (fun s => Node.denoteAll i call body s)
        (fun s => Node.denoteAll i call alternative s) scope

/-- What a list of nodes means in a scope. -/
def Node.denoteAll (i : Interpretation) (call : String → Value → Outcome) :
    List Node → Scope → Outcome
  | [], _ => .ok ""
  | n :: ns, scope => andThen (n.denote i call scope) (Node.denoteAll i call ns scope)

end

/-- What a template means for a model. Its commands name the entries of its own
registry, and a named entry means what it means by itself. -/
def Template.denote (i : Interpretation) (t : Template) (model : Value) : Outcome :=
  t.tree.denote i (fun name v =>
    match _h : memberOf? name t.registry with
    | none => .error (.failure (.unknownSubtemplate name))
    | some sub => sub.denote i v) ⟨model, []⟩
termination_by sizeOf t
decreasing_by exact Nat.lt_trans (sizeOf_lt_of_memberOf? _h) t.sizeOf_registry_lt

/-- What the entries of a registry give for a value. -/
def Registry.call (i : Interpretation) (r : Registry) (name : String) (v : Value) : Outcome :=
  match memberOf? name r with
  | none => .error (.failure (.unknownSubtemplate name))
  | some sub => sub.denote i v

theorem Template.denote_eq (i : Interpretation) (t : Template) (model : Value) :
    t.denote i model = t.tree.denote i (Registry.call i t.registry) ⟨model, []⟩ := by
  rw [Template.denote]
  congr 1
  funext name v
  unfold Registry.call
  split <;> split <;> simp_all

namespace Command
variable (i : Interpretation) (call : String → Value → Outcome) {c : Command}
variable {path : String} {scope : Scope} {v : Value} (body alternative : Scope → Outcome)

theorem denote_truth (hc : c.directive = .opening (.choice .truth) path)
    (hv : i.read scope path = .ok v) :
    c.denote i call body alternative scope =
      match v.truth? with
      | some true => body scope
      | some false => alternative scope
      | none => .error (.failure (.notBoolean path v.typeName)) := by
  simp only [denote, hc, hv]
  rcases v with _ | (_ | _) | _ | _ | _ | _ <;> rfl

theorem denote_presence (hc : c.directive = .opening (.choice .presence) path)
    (hv : i.read scope path = .ok v) :
    c.denote i call body alternative scope =
      if v.isNull then alternative scope else body scope := by
  simp only [denote, hc, hv]
  cases v <;> rfl

theorem denote_loop (hc : c.directive = .opening .loop path)
    (hv : i.read scope path = .ok v) :
    c.denote i call body alternative scope =
      match v.items? with
      | some items => concat (items.map fun item => body (scope.enter path item))
      | none => .error (.failure (.notIterable path v.typeName)) := by
  simp only [denote, hc, hv]
  cases v <;> simp [Value.items?, concat, entryItem, Function.comp_def]

end Command

namespace Node
variable (i : Interpretation) (call : String → Value → Outcome)

theorem denoteAll_nil : denoteAll i call [] = fun _ => .ok "" := by
  funext scope
  rw [denoteAll]

/-- A node with a command means what its command makes of its branches, a missing
branch being an empty one. -/
theorem denote_of_command {n : Node} {c : Command} (h : n.command? = some c) (scope : Scope) :
    n.denote i call scope =
      c.denote i call (denoteAll i call n.body) (denoteAll i call n.alternative) scope := by
  cases n with
  | group nodes => simp [command?] at h
  | leaf c' =>
      obtain rfl : c' = c := by simpa [command?] using h
      rw [denote, ← denoteAll_nil i call]
      rfl
  | block c' body alternative =>
      obtain rfl : c' = c := by simpa [command?] using h
      cases alternative with
      | none =>
          rw [denote, ← denoteAll_nil i call]
          rfl
      | some alternative =>
          rw [denote]
          rfl

theorem denote_of_no_command {n : Node} (h : n.command? = none) (scope : Scope) :
    n.denote i call scope = denoteAll i call n.body scope := by
  cases n with
  | group nodes =>
      rw [denote]
      rfl
  | leaf c => simp [command?] at h
  | block c body alternative => simp [command?] at h

theorem denoteAll_append (a b : List Node) (scope : Scope) :
    denoteAll i call (a ++ b) scope =
      andThen (denoteAll i call a scope) (denoteAll i call b scope) := by
  induction a with
  | nil => rw [List.nil_append, denoteAll, empty_andThen]
  | cons n a ih => rw [List.cons_append, denoteAll, denoteAll, ih, andThen_assoc]

variable {i call} {n : Node} {scope : Scope} (rest : List Node) (document : String)

theorem continue_of_text {s : String} (h : n.denote i call scope = .ok s) :
    andThen (.ok document) (denoteAll i call (n :: rest) scope) =
      andThen (.ok (document ++ s)) (denoteAll i call rest scope) := by
  rw [denoteAll, h, ← andThen_assoc]
  rfl

theorem continue_of_fault {e : Fault RenderError} (h : n.denote i call scope = .error e) :
    andThen (.ok document) (denoteAll i call (n :: rest) scope) = .error e := by
  rw [denoteAll, h]
  rfl

theorem continue_of_branch {branch : List Node}
    (h : n.denote i call scope = denoteAll i call branch scope) :
    andThen (.ok document) (denoteAll i call (n :: rest) scope) =
      andThen (.ok document) (denoteAll i call (branch ++ rest) scope) := by
  rw [denoteAll, h, ← denoteAll_append]

end Node

open Node

/-- The nodes that are run for a template have the meaning of its tree. -/
theorem Template.denote_eq_denoteAll_nodes (i : Interpretation) (t : Template) (model : Value) :
    t.denote i model = denoteAll i (Registry.call i t.registry) t.nodes ⟨model, []⟩ := by
  rw [t.denote_eq]
  unfold Template.nodes
  split
  · rename_i nodes h
    rw [h, Node.denote]
  · rw [denoteAll, denoteAll_nil, andThen_empty]

namespace Interpretation
variable (i : Interpretation)

/-- The list of pending nodes mixes those of a taken branch with the siblings of its
block; the document under way absorbs the meaning of the whole list. -/
theorem run_eq_denoteAll (registry : Registry) (scope : Scope) (document : String)
    (nodes : List Node) :
    i.run registry scope document nodes =
      andThen (.ok document) (denoteAll i (registry.call i) nodes scope) := by
  fun_induction run i registry scope document nodes with
  | case1 registry scope document => rw [denoteAll, andThen_empty]
  | case2 registry scope document n rest hn ih =>
      rw [ih]
      exact (continue_of_branch rest document (denote_of_no_command _ _ hn scope)).symm
  | case3 registry scope document n rest c hn hc ih =>
      rw [ih]
      refine (continue_of_text rest document ?_).symm
      simp only [denote_of_command _ _ hn, Command.denote, hc]
  | case5 registry scope document n rest c hn path hc s hs ih =>
      rw [ih]
      refine (continue_of_text rest document ?_).symm
      simp only [denote_of_command _ _ hn, Command.denote, hc, hs]
  -- What cannot be read has no meaning, whatever it was read for.
  | case4 registry scope document n rest c hn path hc e he
  | case6 registry scope document n rest c hn path hc e he
  | case10 registry scope document n rest c hn path hc e he
  | case13 registry scope document n rest c hn path hc e he
  | case17 registry scope document n rest c hn name path hc e he =>
      refine (continue_of_fault rest document ?_).symm
      simp only [denote_of_command _ _ hn, Command.denote, hc, he]
  | case7 registry scope document n rest c hn path hc v hv ht ih
  | case8 registry scope document n rest c hn path hc v hv ht ih =>
      rw [ih]
      refine (continue_of_branch rest document ?_).symm
      simp only [denote_of_command _ _ hn, Command.denote_truth i _ _ _ hc hv, ht]
  | case9 registry scope document n rest c hn path hc v hv ht =>
      refine (continue_of_fault rest document ?_).symm
      simp only [denote_of_command _ _ hn, Command.denote_truth i _ _ _ hc hv, ht]
  | case11 registry scope document n rest c hn path hc v hv hz ih
  | case12 registry scope document n rest c hn path hc v hv hz ih =>
      rw [ih]
      refine (continue_of_branch rest document ?_).symm
      simp [denote_of_command _ _ hn, Command.denote_presence i _ _ _ hc hv, hz]
  | case14 registry scope document n rest c hn path hc v hv hi =>
      refine (continue_of_fault rest document ?_).symm
      simp only [denote_of_command _ _ hn, Command.denote_loop i _ _ _ hc hv, hi]
  -- The body was run for each item in turn on the same document.
  | case15 registry scope document n rest c hn path hc v hv items hi e he ih =>
      simp only [ih] at he
      rw [foldlM_andThen, ok_andThen_eq_error] at he
      refine (continue_of_fault rest document ?_).symm
      simp only [denote_of_command _ _ hn, Command.denote_loop i _ _ _ hc hv, hi]
      exact he
  | case16 registry scope document n rest c hn path hc v hv items hi s hs ihbody ih =>
      simp only [ihbody] at hs
      rw [foldlM_andThen, ok_andThen_eq_ok] at hs
      obtain ⟨t, ht, rfl⟩ := hs
      rw [ih]
      refine (continue_of_text rest document ?_).symm
      simp only [denote_of_command _ _ hn, Command.denote_loop i _ _ _ hc hv, hi]
      exact ht
  | case18 registry scope document n rest c hn name path hc v hv ht =>
      refine (continue_of_fault rest document ?_).symm
      simp only [denote_of_command _ _ hn, Command.denote, hc, hv, Registry.call, ht]
  | case19 registry scope document n rest c hn name path hc v hv t ht e he ih =>
      rw [ih, empty_andThen, ← t.denote_eq_denoteAll_nodes] at he
      refine (continue_of_fault rest document ?_).symm
      simp only [denote_of_command _ _ hn, Command.denote, hc, hv, Registry.call, ht, he]
  | case20 registry scope document n rest c hn name path hc v hv t ht s hs ihsub ih =>
      rw [ihsub, empty_andThen, ← t.denote_eq_denoteAll_nodes] at hs
      rw [ih]
      refine (continue_of_text rest document ?_).symm
      simp only [denote_of_command _ _ hn, Command.denote, hc, hv, Registry.call, ht, hs]
  | case21 registry scope document n rest c hn k path hc
  | case22 registry scope document n rest c hn b path hc
  | case23 registry scope document n rest c hn hc
  | case24 registry scope document n rest c hn hc =>
      refine (continue_of_fault rest document ?_).symm
      simp only [denote_of_command _ _ hn, Command.denote, hc]

/-- A template is read in the scope of its model, outside every loop. -/
theorem render_eq_denote_tree (t : Template) (model : Value) :
    i.render t model = t.tree.denote i (Registry.call i t.registry) ⟨model, []⟩ := by
  rw [render, run_eq_denoteAll, empty_andThen, ← t.denote_eq_denoteAll_nodes, t.denote_eq]

/-- Rendering gives every template the meaning of its tree, for every extractor,
formatter, registry and model. -/
theorem render_eq_denote (t : Template) (model : Value) :
    i.render t model = t.denote i model := by
  rw [render, run_eq_denoteAll, empty_andThen, t.denote_eq_denoteAll_nodes]

end Interpretation

end Templating
