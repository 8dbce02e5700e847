import Templating.Proofs.Lockstep
import Templating.Proofs.Parsing

/-!
# Parsed templates run without stray commands

Parsing takes a command that parts or ends a block for the bounds of its block and makes
no node of it. So of the commands that a run meets in a parsed template, or in one that it
inserts, each can be executed, and the fault of a stray command is left to trees that were
put together by other means.
-/
namespace Templating
open Outcome

/-- A template whose tree was parsed from its source, as were the trees of all the
subtemplates below it, each under some dialect. -/
inductive Template.Parsed : Template → Prop
  | intro {d : Dialect} {source : String} {tree : Node} {registry : Registry} :
      d.parse source = .ok tree → (∀ entry ∈ registry, Parsed entry.2) →
      Parsed (.mk source tree registry)

/-- A parsed text is a group of well-formed blocks in which no boundary is left. -/
theorem Dialect.exists_of_parse {d : Dialect} {source : String} {tree : Node}
    (h : d.parse source = .ok tree) :
    ∃ f : Forest, tree = .group f ∧ f.WellFormed ∧
      ∀ c ∈ Forest.commands f, c.directive.isBoundary = false := by
  obtain ⟨ss, f, -, ⟨cs, -, hw, hs⟩, rfl⟩ := parse_eq_ok_iff.mp h
  refine ⟨f, rfl, hw, fun c hc => ?_⟩
  rw [Forest.commands_of_spells hw hs, List.mem_filter] at hc
  simpa using hc.2

/-- One reading, and its outcome is not the fault of a stray command. -/
def Pairing.executable : Pairing where
  scopes := Eq
  outcomes x _ := ∀ name, x ≠ stray name
  same h := h
  andThen hx hy name := andThen_ne_error (hx name) (hy name)

theorem Registry.call_ne_stray {i : Interpretation} {r : Registry}
    (h : ∀ entry ∈ r, ∀ model name, entry.2.denote i model ≠ stray name) (n : String) (v : Value)
    (name : String) : Registry.call i r n v ≠ stray name := by
  unfold call
  cases hm : memberOf? n r with
  | none => nofun
  | some sub => exact h _ (mem_of_memberOf? hm) v name

/-- The run of a template is free of stray commands when those of its subtemplates are. -/
theorem Template.Parsed.denote_ne_stray {t : Template} (h : t.Parsed) (i : Interpretation)
    (model : Value) (name : String) : t.denote i model ≠ stray name := by
  induction h generalizing model name with
  | @intro d source tree registry htree _ ih =>
      obtain ⟨f, rfl, -, hf⟩ := Dialect.exists_of_parse htree
      have hadmits : ∀ c ∈ (Node.group f).commands, Pairing.executable.Admits i
          (Registry.call i registry) (Registry.call i registry) c := by
        intro c hc
        refine .of_same_scope rfl (Registry.call_ne_stray ih) fun hb => ?_
        rw [hf c hc] at hb
        cases hb
      rw [Template.denote_eq]
      exact Pairing.executable.denote_related (.group f) hadmits rfl name

/-- In a parsed template with parsed subtemplates no boundary of a block and no group is
left below the outermost group, and no rendering of it, for whatever model, extractor and
formatter, ends at a stray command. -/
theorem Template.Parsed.render_ne_stray {t : Template} (h : t.Parsed) :
    (∃ f : Forest, t.tree = .group f ∧ f.WellFormed ∧
      ∀ c ∈ Forest.commands f, c.directive.isBoundary = false) ∧
      ∀ (i : Interpretation) (model : Value) (name : String),
        i.render t model ≠ .error (.failure (.strayCommand name)) := by
  constructor
  · cases h with
    | intro htree _ => exact Dialect.exists_of_parse htree
  · intro i model name
    rw [i.render_eq_denote_tree, ← t.denote_eq]
    exact h.denote_ne_stray i model name

/-- A letter with an else branch that inserts a parsed row. -/
theorem Template.Parsed.render_letter_ne_stray :
    ∃ letter row : Node,
      let t := mk "[[if(paid)]]Thanks[[else()]][[template(row,bill)]][[endif(paid)]]" letter
        [("row", mk "Due: [[due]]" row [])]
      t.Parsed ∧
        (∃ f : Forest, t.tree = .group f ∧ f.WellFormed ∧
          ∀ c ∈ Forest.commands f, c.directive.isBoundary = false) ∧
        Interpretation.render {} t (.object [("paid", .bool false)]) ≠
          .error (.failure (.strayCommand "else()")) := by
  have hletter : Dialect.standard.parse
      "[[if(paid)]]Thanks[[else()]][[template(row,bill)]][[endif(paid)]]" = .ok (.group
        [.block ⟨⟨"if(paid)", true, ⟨1, 3⟩⟩, .opening (.choice .truth) "paid"⟩
          [.leaf ⟨⟨"Thanks", false, ⟨1, 13⟩⟩, .literal⟩]
          (some [.leaf ⟨⟨"template(row,bill)", true, ⟨1, 31⟩⟩, .subtemplate "row" "bill"⟩])]) := by
    rw [Dialect.parse, Dialect.commands, segment_eq_read Dialect.standard.tags_sound]
    rfl
  have hrow : Dialect.standard.parse "Due: [[due]]" = .ok (.group
      [.leaf ⟨⟨"Due: ", false, ⟨1, 1⟩⟩, .literal⟩,
        .leaf ⟨⟨"due", true, ⟨1, 8⟩⟩, .field "due"⟩]) := by
    rw [Dialect.parse, Dialect.commands, segment_eq_read Dialect.standard.tags_sound]
    rfl
  have ht := Template.Parsed.intro hletter
    (List.forall_mem_singleton.mpr (.intro hrow (List.forall_mem_nil _)) :
      ∀ entry ∈ [("row", Template.mk "Due: [[due]]" _ [])], entry.2.Parsed)
  obtain ⟨hshape, hrender⟩ := ht.render_ne_stray
  exact ⟨_, _, ht, hshape, hrender {} _ _⟩
end Templating
