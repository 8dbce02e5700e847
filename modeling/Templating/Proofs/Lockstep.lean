import Templating.Proofs.Denotation
import Templating.Proofs.Grammar

/-!
# Two readings of one tree side by side

A tree is read twice, in scopes that correspond and with subtemplates that answer alike; in
the second reading its model paths may be written in another way. What the two readings give
is compared by a relation between outcomes that holds of equal texts and goes through
concatenation. `denote_mapPaths_related` says that it holds of a tree if it does so of what
each of its commands reads, and of the faults that a command may end with.

Mostly the paths are the same and equal faults are related too. Then `denote_related` asks
less of the commands: that they find the same values in corresponding scopes, keep the
correspondence when they enter a loop, and name subtemplates whose answers are related.
-/
namespace Templating
open Outcome

/-- The directive with another model path, where a run reads one. -/
def Directive.mapPath (g : String → String) : Directive → Directive
  | .field path => .field (g path)
  | .opening b path => .opening b (g path)
  | .subtemplate name path => .subtemplate name (g path)
  | .literal => .literal
  | .otherwise c path => .otherwise c path
  | .closing b path => .closing b path
  | .anyElse => .anyElse
  | .anyEnd => .anyEnd

def Command.mapPath (g : String → String) (c : Command) : Command :=
  { c with directive := c.directive.mapPath g }

theorem Command.mapPath_id (c : Command) : c.mapPath id = c := by
  obtain ⟨sentence, directive⟩ := c
  cases directive <;> rfl

mutual

/-- The same tree with its model paths written in another way. -/
def Node.mapPaths (g : String → String) : Node → Node
  | .group scope => .group (Forest.mapPaths g scope)
  | .leaf c => .leaf (c.mapPath g)
  | .block c body none => .block (c.mapPath g) (Forest.mapPaths g body) none
  | .block c body (some alternative) =>
      .block (c.mapPath g) (Forest.mapPaths g body) (some (Forest.mapPaths g alternative))

def Forest.mapPaths (g : String → String) : Forest → Forest
  | [] => []
  | n :: ns => n.mapPaths g :: Forest.mapPaths g ns

end

mutual

theorem Node.mapPaths_id (n : Node) : n.mapPaths id = n := by
  cases n with
  | group scope => rw [Node.mapPaths, Forest.mapPaths_id scope]
  | leaf c => rw [Node.mapPaths, c.mapPath_id]
  | block c body alternative =>
      cases alternative with
      | none => rw [Node.mapPaths, c.mapPath_id, Forest.mapPaths_id body]
      | some alternative =>
          rw [Node.mapPaths, c.mapPath_id, Forest.mapPaths_id body,
            Forest.mapPaths_id alternative]

theorem Forest.mapPaths_id (ns : Forest) : Forest.mapPaths id ns = ns := by
  cases ns with
  | nil => rw [Forest.mapPaths]
  | cons n ns => rw [Forest.mapPaths, n.mapPaths_id, Forest.mapPaths_id ns]

end

/-- The fault of a command that cannot be executed on its own. -/
def Outcome.stray (name : String) : Outcome := .error (.failure (.strayCommand name))

/-- Which scopes correspond in two readings, and which outcomes may come of them. -/
structure Likeness where
  scopes : Scope → Scope → Prop
  outcomes : Outcome → Outcome → Prop
  ok : ∀ text, outcomes (.ok text) (.ok text)
  andThen : ∀ {x y x' y' : Outcome}, outcomes x y → outcomes x' y' →
    outcomes (x.andThen x') (y.andThen y')

/-- A likeness under which equal outcomes are alike. The fault of a stray command is left
out, so that a pairing may forbid it. -/
structure Pairing extends Likeness where
  same : ∀ {x : Outcome}, (∀ name, x ≠ stray name) → outcomes x x
  ok := fun _ => same fun _ hn => by cases hn

/-- The model path that a command reads, without the format of a field. -/
def Directive.valuePath? : Directive → Option String
  | .field path => some (String.ofList (ModelPath.splitFormat path.toList).1)
  | .opening _ path | .subtemplate _ path => some path
  | .literal | .otherwise _ _ | .closing _ _ | .anyElse | .anyEnd => none

/-- A command whose path leads nowhere fails with the fault of its reading. -/
theorem Command.denote_of_unreadable {i : Interpretation} {c : Command} {path : String}
    {s : Scope} {e : Fault RenderError} (hp : c.directive.valuePath? = some path)
    (he : i.read s path = .error e) (call : String → Value → Outcome)
    (body alternative : Scope → Outcome) :
    c.denote i call body alternative s = .error e := by
  unfold denote
  cases hd : c.directive <;> simp only [hd, Directive.valuePath?, Option.some.injEq,
    reduceCtorEq] at hp
  case field p =>
    subst hp
    simp [Interpretation.fieldText, he]
  case opening b p =>
    subst hp
    rcases b with ⟨_ | _⟩ | _ <;> simp [he]
  case subtemplate name p =>
    subst hp
    simp [he]

theorem Interpretation.read_ne_stray (i : Interpretation) (s : Scope) (path name : String)
    {e : Fault RenderError} (he : i.read s path = .error e) :
    (.error e : Outcome) ≠ stray name := by
  unfold read at he
  split at he
  · cases he
  · cases he
    simp [stray]

theorem Interpretation.fieldText_ne_stray (i : Interpretation) (s : Scope) (path name : String) :
    i.fieldText s path ≠ stray name := by
  unfold fieldText
  dsimp only
  split
  · rename_i e he
    exact i.read_ne_stray s _ name he
  · split
    · simp [stray]
    · rename_i e _
      cases e <;> simp [stray, Fault.map]

/-- A field reads its value path and nothing else of its scope. -/
theorem Interpretation.fieldText_congr {i : Interpretation} {s t : Scope} {path : String}
    (h : i.read s (String.ofList (ModelPath.splitFormat path.toList).1) =
      i.read t (String.ofList (ModelPath.splitFormat path.toList).1)) :
    i.fieldText s path = i.fieldText t path := by
  simp only [fieldText, h]

namespace Likeness
variable (p : Likeness)

theorem concat {A : Type} {f g : A → Outcome} (h : ∀ a, p.outcomes (f a) (g a)) (xs : List A) :
    p.outcomes (Outcome.concat (xs.map f)) (Outcome.concat (xs.map g)) := by
  induction xs with
  | nil => exact p.ok ""
  | cons x xs ih => exact p.andThen (h x) ih

/-- Two readings of a value that find the same value, or end with faults that are alike. -/
inductive ReadsAlike : Except (Fault RenderError) Value → Except (Fault RenderError) Value → Prop
  | value (v : Value) : ReadsAlike (.ok v) (.ok v)
  | fault {e e' : Fault RenderError} : p.outcomes (.error e) (.error e') →
      ReadsAlike (.error e) (.error e')

/-- What a command needs for two readings to keep in step over it, when the second takes
its path in another way. -/
structure Follows (i : Interpretation) (call call' : String → Value → Outcome)
    (g : String → String) (c : Command) : Prop where
  field : ∀ {s t path}, c.directive = .field path → p.scopes s t →
    p.outcomes (i.fieldText s path) (i.fieldText t (g path))
  opening : ∀ {s t b path}, c.directive = .opening b path → p.scopes s t →
    p.ReadsAlike (i.read s path) (i.read t (g path))
  enter : ∀ {s t path}, c.directive = .opening .loop path → p.scopes s t →
    ∀ item, p.scopes (s.enter path item) (t.enter (g path) item)
  subtemplate : ∀ {s t name path}, c.directive = .subtemplate name path → p.scopes s t →
    p.ReadsAlike (i.read s path) (i.read t (g path))
  call : ∀ name v, p.outcomes (call name v) (call' name v)
  notBoolean : ∀ path typeName, p.outcomes (.error (.failure (.notBoolean path typeName)))
    (.error (.failure (.notBoolean (g path) typeName)))
  notIterable : ∀ path typeName, p.outcomes (.error (.failure (.notIterable path typeName)))
    (.error (.failure (.notIterable (g path) typeName)))
  boundary : c.directive.isBoundary = true → p.outcomes (stray c.name) (stray c.name)

variable {p} {i : Interpretation} {call call' : String → Value → Outcome} {c c' : Command}
variable {body body' alternative alternative' : Scope → Outcome} {s t : Scope}
variable {path path' : String} {g : String → String}

/-- Commands that read alike have related outcomes if they do so for every value. -/
theorem ReadsAlike.denote (hread : p.ReadsAlike (i.read s path) (i.read t path'))
    (hpath : c.directive.valuePath? = some path) (hpath' : c'.directive.valuePath? = some path')
    (hvalue : ∀ v, i.read s path = .ok v → i.read t path' = .ok v →
      p.outcomes (c.denote i call body alternative s)
        (c'.denote i call' body' alternative' t)) :
    p.outcomes (c.denote i call body alternative s)
      (c'.denote i call' body' alternative' t) := by
  generalize hx : i.read s path = x at hread hvalue
  generalize hy : i.read t path' = y at hread hvalue
  cases hread with
  | value v => exact hvalue v rfl rfl
  | fault h =>
      rw [Command.denote_of_unreadable hpath hx, Command.denote_of_unreadable hpath' hy]
      exact h

namespace Follows

/-- A block takes the branches, or runs through the items, that its value tells. -/
theorem opening_related (h : p.Follows i call call' g c) {b : BlockKind}
    (hd : c.directive = .opening b path)
    (hbody : ∀ {s t}, p.scopes s t → p.outcomes (body s) (body' t))
    (halternative : ∀ {s t}, p.scopes s t → p.outcomes (alternative s) (alternative' t))
    (hs : p.scopes s t) {v : Value} (hv : i.read s path = .ok v)
    (hv' : i.read t (g path) = .ok v) :
    p.outcomes (c.denote i call body alternative s)
      ((c.mapPath g).denote i call' body' alternative' t) := by
  have hd' : (c.mapPath g).directive = .opening b (g path) := by
    rw [Command.mapPath, hd]
    rfl
  rcases b with ⟨_ | _⟩ | _
  case choice.truth =>
    rw [Command.denote_truth i _ _ _ hd hv, Command.denote_truth i _ _ _ hd' hv']
    cases v.truth? with
    | none => exact h.notBoolean path v.typeName
    | some b =>
        cases b with
        | true => exact hbody hs
        | false => exact halternative hs
  case choice.presence =>
    rw [Command.denote_presence i _ _ _ hd hv, Command.denote_presence i _ _ _ hd' hv']
    cases v.isNull with
    | true => exact halternative hs
    | false => exact hbody hs
  case loop =>
    rw [Command.denote_loop i _ _ _ hd hv, Command.denote_loop i _ _ _ hd' hv']
    cases v.items? with
    | none => exact h.notIterable path v.typeName
    | some items => exact p.concat (fun item => hbody (h.enter hd hs item)) items

/-- One command: related branches give related outcomes. -/
theorem denote_related (h : p.Follows i call call' g c)
    (hbody : ∀ {s t}, p.scopes s t → p.outcomes (body s) (body' t))
    (halternative : ∀ {s t}, p.scopes s t → p.outcomes (alternative s) (alternative' t))
    (hs : p.scopes s t) :
    p.outcomes (c.denote i call body alternative s)
      ((c.mapPath g).denote i call' body' alternative' t) := by
  cases hd : c.directive with
  | literal =>
      simp only [Command.denote, Command.mapPath, hd, Directive.mapPath]
      exact p.ok _
  | field path =>
      simp only [Command.denote, Command.mapPath, hd, Directive.mapPath]
      exact h.field hd hs
  | opening b path =>
      refine (h.opening hd hs).denote (by rw [hd]; rfl) (by rw [Command.mapPath, hd]; rfl) ?_
      intro v hv hv'
      exact h.opening_related hd hbody halternative hs hv hv'
  | subtemplate name path =>
      refine (h.subtemplate hd hs).denote (by rw [hd]; rfl) (by rw [Command.mapPath, hd]; rfl) ?_
      intro v hv hv'
      simp only [Command.denote, Command.mapPath, hd, Directive.mapPath, hv, hv']
      exact h.call name v
  | otherwise k path | closing k path | anyElse | anyEnd =>
      simp only [Command.denote, Command.mapPath, hd, Directive.mapPath]
      exact h.boundary (by rw [hd]; rfl)

end Follows

mutual

/-- A tree and the one with its paths written in another way: their readings are related in
corresponding scopes. -/
theorem denote_mapPaths_related (n : Node)
    (h : ∀ c ∈ n.commands, p.Follows i call call' g c) {s t : Scope} (hs : p.scopes s t) :
    p.outcomes (n.denote i call s) ((n.mapPaths g).denote i call' t) := by
  cases n with
  | group scope =>
      rw [Node.mapPaths, Node.denote, Node.denote]
      exact denoteAll_mapPaths_related scope h hs
  | leaf c =>
      rw [Node.mapPaths, Node.denote, Node.denote]
      exact (h c (by simp [Node.commands])).denote_related (fun _ => p.ok "") (fun _ => p.ok "") hs
  | block c body alternative =>
      cases alternative with
      | none =>
          rw [Node.commands, List.forall_mem_cons] at h
          rw [Node.mapPaths, Node.denote, Node.denote]
          exact h.1.denote_related (denoteAll_mapPaths_related body h.2) (fun _ => p.ok "") hs
      | some alternative =>
          rw [Node.commands, List.forall_mem_cons, List.forall_mem_append] at h
          rw [Node.mapPaths, Node.denote, Node.denote]
          exact h.1.denote_related (denoteAll_mapPaths_related body h.2.1)
            (denoteAll_mapPaths_related alternative h.2.2) hs

/-- A list of trees. -/
theorem denoteAll_mapPaths_related (ns : Forest)
    (h : ∀ c ∈ Forest.commands ns, p.Follows i call call' g c) {s t : Scope}
    (hs : p.scopes s t) : p.outcomes (Node.denoteAll i call ns s)
      (Node.denoteAll i call' (Forest.mapPaths g ns) t) := by
  cases ns with
  | nil =>
      rw [Forest.mapPaths, Node.denoteAll, Node.denoteAll]
      exact p.ok ""
  | cons n ns =>
      rw [Forest.commands, List.forall_mem_append] at h
      rw [Forest.mapPaths, Node.denoteAll, Node.denoteAll]
      exact p.andThen (denote_mapPaths_related n h.1 hs) (denoteAll_mapPaths_related ns h.2 hs)

end

end Likeness

namespace Pairing
variable (p : Pairing)

/-- What a command needs for two readings to keep in step over it. -/
structure Admits (i : Interpretation) (call call' : String → Value → Outcome)
    (c : Command) : Prop where
  read : ∀ {s t : Scope}, p.scopes s t → ∀ path ∈ c.directive.valuePath?,
    i.read s path = i.read t path
  enter : ∀ {s t : Scope}, p.scopes s t → ∀ path, c.directive = .opening .loop path →
    ∀ v, p.scopes (s.enter path v) (t.enter path v)
  call : ∀ name v, p.outcomes (call name v) (call' name v)
  boundary : c.directive.isBoundary = true → p.outcomes (stray c.name) (stray c.name)

theorem fault {e : RenderError} (he : ∀ name, e ≠ .strayCommand name) :
    p.outcomes (.error (.failure e)) (.error (.failure e)) :=
  p.same fun name hn => he name (by simpa [stray] using hn)

variable {p} {i : Interpretation} {call call' : String → Value → Outcome}

namespace Admits
variable {c : Command}

/-- In one and the same scope a command reads the same. -/
theorem of_same_scope (hscopes : p.scopes = Eq)
    (hcall : ∀ name v, p.outcomes (call name v) (call' name v))
    (hboundary : c.directive.isBoundary = true → p.outcomes (stray c.name) (stray c.name)) :
    p.Admits i call call' c where
  read hs _ _ := by
    rw [hscopes] at hs
    rw [hs]
  enter hs _ _ _ := by
    rw [hscopes] at hs ⊢
    rw [hs]
  call := hcall
  boundary := hboundary

/-- A command that reads a path meets one value in both scopes, or the same fault. -/
theorem readsAlike (h : p.Admits i call call' c) {path : String}
    (hpath : c.directive.valuePath? = some path) {s t : Scope} (hs : p.scopes s t) :
    p.ReadsAlike (i.read s path) (i.read t path) := by
  rw [← h.read hs path hpath]
  cases hv : i.read s path with
  | error e => exact .fault (p.same fun name => i.read_ne_stray s path name hv)
  | ok v => exact .value v

theorem follows (h : p.Admits i call call' c) : p.Follows i call call' id c where
  field hd hs := by
    rw [id, Interpretation.fieldText_congr (h.read hs _ (by rw [hd]; rfl))]
    exact p.same fun name => i.fieldText_ne_stray _ _ name
  opening hd hs := h.readsAlike (by rw [hd]; rfl) hs
  enter hd hs := h.enter hs _ hd
  subtemplate hd hs := h.readsAlike (by rw [hd]; rfl) hs
  call := h.call
  notBoolean _ _ := p.fault nofun
  notIterable _ _ := p.fault nofun
  boundary := h.boundary

end Admits

/-- One tree: its readings are related in corresponding scopes. -/
theorem denote_related (n : Node) (h : ∀ c ∈ n.commands, p.Admits i call call' c) {s t : Scope}
    (hs : p.scopes s t) : p.outcomes (n.denote i call s) (n.denote i call' t) := by
  have hsame := Likeness.denote_mapPaths_related n (fun c hc => (h c hc).follows) hs
  rwa [n.mapPaths_id] at hsame

end Pairing

/-- Templates with one tree give related outcomes for models that correspond. -/
theorem Pairing.render_related (p : Pairing) {i : Interpretation} {t t' : Template}
    (htree : t.tree = t'.tree)
    (h : ∀ c ∈ t.tree.commands,
      p.Admits i (Registry.call i t.registry) (Registry.call i t'.registry) c)
    {model model' : Value} (hs : p.scopes ⟨model, []⟩ ⟨model', []⟩) :
    p.outcomes (i.render t model) (i.render t' model') := by
  rw [i.render_eq_denote_tree, i.render_eq_denote_tree, ← htree]
  exact p.denote_related t.tree h hs

end Templating
