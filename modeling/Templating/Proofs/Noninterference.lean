import Templating.Proofs.Lockstep
import Templating.Proofs.Paths

/-!
# What a template can see of its model

A path that is written from the root reads the member of the model under its first name.
Inside a loop the paths that the loop owns read from its item, which was itself found
under the first name of a path of the template. So of an object a template sees the
members under the first names of its paths, and the text that it makes of two objects
that agree there is the same. What is written in the templates it inserts makes no
difference: they see the value at the path that they are given.
-/
namespace Templating
open ModelPath

/-- The model paths that the commands of a tree read. -/
def Node.valuePaths (n : Node) : List String :=
  n.commands.filterMap fun c => c.directive.valuePath?

theorem Node.mem_valuePaths {n : Node} {c : Command} {path : String} (hc : c ∈ n.commands)
    (hp : path ∈ c.directive.valuePath?) : path ∈ n.valuePaths :=
  List.mem_filterMap.mpr ⟨c, hc, hp⟩

/-- Of an object a path reads the member under its first name only. -/
theorem Value.at_object_congr {path : String} (hne : path ≠ "")
    {members members' : List (String × Value)}
    (h : memberOf? (firstName path) members = memberOf? (firstName path) members') :
    (object members).at path = (object members').at path := by
  obtain ⟨rest, hrest⟩ := exists_names_eq path
  rw [at_of_ne_empty _ hne, at_of_ne_empty _ hne, hrest]
  simp only [walk, member, isNull, h, Bool.false_eq_true, ↓reduceIte]

/-- Scopes of two objects inside the same loops, where the objects have the same members
under the first names of some paths. -/
structure Scope.Agree (paths : List String) (s t : Scope) : Prop where
  links : s.links = t.links
  roots : ∃ members members', s.root = .object members ∧ t.root = .object members' ∧
    ∀ path ∈ paths, memberOf? (firstName path) members = memberOf? (firstName path) members'

theorem Scope.Agree.enter {paths : List String} {s t : Scope} (h : s.Agree paths t)
    (path : String) (item : Value) : (s.enter path item).Agree paths (t.enter path item) :=
  ⟨congrArg (List.cons _) h.links, h.roots⟩

/-- Such scopes read the same under every one of the paths, a root being no item of a
loop and no whole value. -/
theorem Scope.Agree.resolve_eq {paths : List String} {s t : Scope} (h : s.Agree paths t)
    {path : String} (hmem : path ∈ paths) (hne : path ≠ "") (hself : firstName path ≠ "@self") :
    s.resolve .standard path = t.resolve .standard path := by
  cases hb : bestLink? path none s.links with
  | some l =>
      have hb' := h.links ▸ hb
      unfold resolve
      rw [hb, hb']
  | none =>
      obtain ⟨members, members', hs, ht, hagree⟩ := h.roots
      rw [resolve_of_root hb hne hself, resolve_of_root (h.links ▸ hb) hne hself, hs, ht]
      exact Value.at_object_congr hne (hagree path hmem)

/-- Equal outcomes in agreeing scopes. -/
def Pairing.agreeing (paths : List String) : Pairing where
  scopes := Scope.Agree paths
  outcomes := Eq
  same _ := rfl
  andThen := by
    rintro x _ x' _ rfl rfl
    rfl

/-- The text of a subtemplate is what it gives by itself for the value at its path. -/
theorem Interpretation.run_subtemplate (i : Interpretation) {registry : Registry}
    {sub : Template} {n : Node} {c : Command} {name path : String} {scope : Scope} {v : Value}
    (hn : n.command? = some c) (hc : c.directive = .subtemplate name path)
    (hsub : memberOf? name registry = some sub) (hv : i.read scope path = .ok v)
    (document : String) :
    i.run registry scope document [n] = Outcome.andThen (.ok document) (i.render sub v) := by
  rw [i.run_eq_denoteAll, i.render_eq_denote_tree, ← sub.denote_eq, Node.denoteAll,
    Node.denoteAll, Outcome.andThen_empty, Node.denote_of_command _ _ hn]
  simp only [Command.denote, hc, hv, Registry.call, hsub]

/-- Whatever the formatter and the registry, two objects with the same members under the
first names of a template's own paths give the same document or the same error. A
subtemplate, whatever it is written like, sees the value at the path it is given and adds
what it gives by itself for that value. -/
theorem Interpretation.render_eq_of_agree (formatter : Formatter) (t : Template)
    {members members' : List (String × Value)}
    (hpaths : ∀ path ∈ t.tree.valuePaths, path ≠ "" ∧ firstName path ≠ "@self")
    (hagree : ∀ path ∈ t.tree.valuePaths,
      memberOf? (firstName path) members = memberOf? (firstName path) members') :
    render ⟨.standard, formatter⟩ t (.object members) =
        render ⟨.standard, formatter⟩ t (.object members') ∧
      ∀ {registry : Registry} {sub : Template} {n : Node} {c : Command} {name path : String}
        {scope : Scope} {v : Value} (document : String),
        n.command? = some c → c.directive = .subtemplate name path →
        memberOf? name registry = some sub → read ⟨.standard, formatter⟩ scope path = .ok v →
        run ⟨.standard, formatter⟩ registry scope document [n] =
          Outcome.andThen (.ok document) (render ⟨.standard, formatter⟩ sub v) := by
  refine ⟨?_, fun document hn hc hsub hv => run_subtemplate _ hn hc hsub hv document⟩
  refine (Pairing.agreeing t.tree.valuePaths).render_related rfl (fun c hc => ?_)
    ⟨rfl, members, members', rfl, rfl, hagree⟩
  exact
    { read := fun hs path hpath => by
        have hmem := Node.mem_valuePaths hc hpath
        obtain ⟨hne, hself⟩ := hpaths path hmem
        simp only [read, hs.resolve_eq hmem hne hself]
      enter := fun hs path _ v => hs.enter path v
      call := fun _ _ => rfl
      boundary := fun _ => rfl }

/-- A member beside the user is seen neither by the template nor by the card in it, which
asks for a member of that name. -/
theorem Interpretation.render_card_of_user :
    let c := Command.mk default
    let card := Template.ofTree "" (.group [.leaf (c (.field "secret"))])
    let call := c (.subtemplate "card" "user")
    let t : Template := .mk "" (.group [.block (c (.opening (.choice .presence) "user.name"))
      [.leaf (c (.field "user.name:upper"))] none, .leaf call]) [("card", card)]
    let user : Value := .object [("name", .string "ann"), ("secret", .string "own")]
    let members := [("secret", .string "hidden"), ("user", user)]
    let members' := [("user", user)]
    ((∀ path ∈ t.tree.valuePaths, path ≠ "" ∧ firstName path ≠ "@self") ∧
        ∀ path ∈ t.tree.valuePaths,
          memberOf? (firstName path) members = memberOf? (firstName path) members') ∧
      render ⟨.standard, .standard⟩ t (.object members) =
        render ⟨.standard, .standard⟩ t (.object members') ∧
      run ⟨.standard, .standard⟩ t.registry ⟨.object members, []⟩ "" [.leaf call] =
        Outcome.andThen (.ok "") (render ⟨.standard, .standard⟩ card user) := by
  intro c card call t user members members'
  have hv : t.tree.valuePaths = ["user.name", "user.name", "user"] := by decide +kernel
  have hpaths : ∀ path ∈ t.tree.valuePaths, path ≠ "" ∧ firstName path ≠ "@self" := by
    rw [hv]
    decide +kernel
  have huser : ∀ path ∈ t.tree.valuePaths, firstName path = "user" := by
    rw [hv]
    decide +kernel
  have hagree : ∀ path ∈ t.tree.valuePaths,
      memberOf? (firstName path) members = memberOf? (firstName path) members' := by
    intro path hpath
    rw [huser path hpath]
    rfl
  obtain ⟨hrender, hsub⟩ := render_eq_of_agree .standard t hpaths hagree
  exact ⟨⟨hpaths, hagree⟩, hrender, hsub "" rfl rfl rfl rfl⟩
end Templating
