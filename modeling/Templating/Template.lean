import Templating.Assembly
import Templating.Model.Value

/-!
# Templates and their subtemplates

A template is its source text, the tree read from it, and a registry of the
subtemplates that its commands can name, in the order of their registration.
Each subtemplate has a registry of its own and sees no other.
-/
namespace Templating

inductive Template where
  | mk (source : String) (tree : Node) (registry : List (String × Template))
  deriving Inhabited

/-- Subtemplates under their names, in the order of registration. -/
abbrev Registry := List (String × Template)

namespace Template

def source : Template → String
  | mk s _ _ => s

def tree : Template → Node
  | mk _ t _ => t

def registry : Template → Registry
  | mk _ _ r => r

/-- A template from a tree that was put together by other means than parsing. -/
def ofTree (source : String) (tree : Node) : Template := mk source tree []

def withRegistry (t : Template) (r : Registry) : Template := mk t.source t.tree r

/-- The template of a text under a dialect, without subtemplates. -/
def parse (d : Dialect) (source : String) : Except ParseError Template :=
  (d.parse source).map (ofTree source)

/-- The nodes that are run: those of the outermost group, or else the whole tree. -/
def nodes (t : Template) : List Node :=
  match t.tree with
  | .group scope => scope
  | n => [n]

def subtemplate? (t : Template) (name : String) : Option Template :=
  memberOf? name t.registry

end Template

/-- The registry with one more entry at its end, unless the name is taken. -/
def Registry.add? (r : Registry) (name : String) (t : Template) : Option Registry :=
  match memberOf? name r with
  | some _ => none
  | none => some (r ++ [(name, t)])

mutual

/-- Equality of source and tree, places included, and of the subtemplates in
whatever order they were registered. -/
def Template.same : Template → Template → Bool
  | .mk source tree registry, other =>
      source == other.source && tree == other.tree &&
        registry.length == other.registry.length && Template.foundIn other.registry registry

/-- Whether every entry of a registry has its like in another. -/
def Template.foundIn (other : Registry) : Registry → Bool
  | [] => true
  | (name, t) :: rest =>
      (match memberOf? name other with
        | some u => t.same u
        | none => false) && Template.foundIn other rest

end

theorem sizeOf_lt_of_memberOf? {name : String} {r : Registry} {t : Template}
    (h : memberOf? name r = some t) : sizeOf t < sizeOf r := by
  induction r with
  | nil => simp [memberOf?] at h
  | cons m r ih =>
      obtain ⟨n, u⟩ := m
      unfold memberOf? at h
      split at h
      · simp only [Option.some.injEq] at h
        subst h
        simp only [List.cons.sizeOf_spec, Prod.mk.sizeOf_spec]
        omega
      · have := ih h
        simp only [List.cons.sizeOf_spec]
        omega

theorem Template.sizeOf_registry_lt (t : Template) : sizeOf t.registry < sizeOf t := by
  cases t
  simp only [Template.registry, Template.mk.sizeOf_spec]
  omega

end Templating
