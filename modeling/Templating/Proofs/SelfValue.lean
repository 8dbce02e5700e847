import Templating.Proofs.Denotation
import Templating.Proofs.Marks
import Templating.Proofs.Ownership
import Templating.Proofs.Wording

/-!
# What the self token stands for

The self token takes part in the choice of a link like every other path. No path but the token
itself covers it, so that of the loops under way only those over the token answer, the innermost
of them first, and outside of them the root of the model does. `Scope.resolve_self` says so of
every scope. The token is the whole value of the present scope outside all loops, and inside
loops if the innermost one runs over the token; inside a loop over a named path it is the same
value as around that loop.
-/
namespace Templating
open Text ModelPath

/-- The whole value of a scope: the present item of the innermost loop, or outside all loops
the root. -/
def Scope.current (s : Scope) : Value :=
  match s.links with
  | [] => s.root
  | l :: _ => l.item

/-- The scope without its loops over named paths. -/
def Scope.selfLoops (s : Scope) : Scope :=
  { s with links := s.links.filter fun l => l.path == "@self" }

/-- Only a loop over the self token covers the token. -/
theorem Link.covers_self (l : Link) : l.covers "@self" = (l.path == "@self") := by
  rw [Bool.eq_iff_iff, covers_iff, beq_iff_eq]
  constructor
  · rintro (hself | ⟨r, hr⟩)
    · exact hself.symm
    · have hdot : '.' ∈ "@self".toList := by
        rw [hr]
        exact List.mem_append_right _ List.mem_cons_self
      exact absurd hdot (by decide)
  · intro hself
    exact .inl hself.symm

/-- The first loop over the token stays the best link, since the others are not longer. -/
theorem bestLink?_self_of_best {b : Link} (hb : b.path = "@self") (links : List Link) :
    bestLink? "@self" (some b) links = some b := by
  induction links with
  | nil => rfl
  | cons l links ih =>
      have hkeep : ¬(l.covers "@self" = true ∧ ∀ c ∈ some b, c.path.length < l.path.length) := by
        rintro ⟨hcovers, hlonger⟩
        have hl : l.path = "@self" := by simpa [l.covers_self] using hcovers
        have hlt := hlonger b rfl
        rw [hl, hb] at hlt
        exact Nat.lt_irrefl _ hlt
      rw [bestLink?_cons, if_neg hkeep, ih]

theorem bestLink?_self (links : List Link) :
    bestLink? "@self" none links = (links.filter fun l => l.path == "@self").head? := by
  induction links with
  | nil => rfl
  | cons l links ih =>
      rw [bestLink?_cons, l.covers_self, List.filter_cons]
      by_cases hl : l.path = "@self"
      · simp [hl, bestLink?_self_of_best hl]
      · simp [hl, ih]

theorem Scope.resolve_self_eq (s : Scope) (x : Extractor) :
    s.resolve x "@self" = .ok s.selfLoops.current := by
  have hbest := bestLink?_self s.links
  rw [selfLoops, current]
  cases hlinks : s.links.filter fun l => l.path == "@self" with
  | nil =>
      rw [hlinks] at hbest
      simp [resolve, hbest, Extractor.below, selfToken]
  | cons l links =>
      have hl : l.path = "@self" := by
        have hmem : l ∈ s.links.filter fun l => l.path == "@self" := hlinks ▸ List.mem_cons_self
        simpa using (List.mem_filter.mp hmem).2
      rw [hlinks] at hbest
      exact resolve_of_link hbest hl.symm x

/-- Where the innermost loop runs over the token, or no loop is under way, the loops over named
paths make no difference. -/
theorem Scope.selfLoops_current {s : Scope} (h : ∀ l ∈ s.links.head?, l.path = "@self") :
    s.selfLoops.current = s.current := by
  obtain ⟨root, links⟩ := s
  cases links with
  | nil => rfl
  | cons l links =>
      have hl : l.path = "@self" := h l rfl
      simp [selfLoops, current, hl]

/-- The self token reads the present item of the innermost loop over the token, or outside such
loops the root, whatever loops over named paths are under way. A loop over the token changes
it to the item and a loop over a named path leaves it as it is. It is the whole value of the
scope if the innermost loop runs over the token and outside all loops. -/
theorem Scope.resolve_self (s : Scope) (x : Extractor) :
    s.resolve x "@self" = .ok s.selfLoops.current ∧
      (∀ path item, (s.enter path item).resolve x "@self" =
        if path = "@self" then .ok item else s.resolve x "@self") ∧
      ((∀ l ∈ s.links.head?, l.path = "@self") → s.resolve x "@self" = .ok s.current) := by
  refine ⟨s.resolve_self_eq x, fun path item => ?_, fun h => ?_⟩
  · rw [resolve_self_eq, resolve_self_eq]
    by_cases hpath : path = "@self"
    · simp [hpath, enter, selfLoops, current]
    · simp [hpath, enter, selfLoops, current]
  · rw [resolve_self_eq, selfLoops_current h]

/-- A loop over the letters of each entry of a list, both written with the token, inside a loop
over a named path. -/
theorem Scope.resolve_self_in_letters (x : Extractor) :
    let entries : Value := .array [.string "ab"]
    let s : Scope := ⟨entries, [⟨"@self", .string "b"⟩, ⟨"@self", .string "ab"⟩, ⟨"n", .null⟩]⟩
    (∀ l ∈ s.links.head?, l.path = "@self") ∧ s.resolve x "@self" = .ok (.string "b") := by
  intro entries s
  have hself : ∀ l ∈ s.links.head?, l.path = "@self" := by
    rintro l ⟨⟩
    rfl
  exact ⟨hself, (s.resolve_self x).2.2 hself⟩

/-- Inside a loop over the items of a list the self token is not the item but the model. -/
theorem Interpretation.render_self_in_items :
    let model : Value := .object [("Items", .array [.string "a"])]
    let s := (Scope.mk model []).enter "Items" (.string "a")
    (s.current = .string "a" ∧ s.resolve .standard "@self" = .ok model) ∧
      ∃ t, Template.parse .standard "[[for(Items)]][[this]][[endfor(Items)]]" = .ok t ∧
        render {} t model = .ok "\x7b\"Items\":[\"a\"]\x7d" ∧ render {} t model ≠ .ok "a" := by
  have hparse : Template.parse .standard "[[for(Items)]][[this]][[endfor(Items)]]" =
      .ok (.ofTree "[[for(Items)]][[this]][[endfor(Items)]]" (.group
        [.block ⟨⟨"for(Items)", true, ⟨1, 3⟩⟩, .opening .loop "Items"⟩
          [.leaf ⟨⟨"this", true, ⟨1, 17⟩⟩, .field "@self"⟩] none])) := by
    rw [Template.parse, Dialect.parse, Dialect.commands,
      segment_eq_read Dialect.standard.tags_sound]
    rfl
  intro model s
  refine ⟨⟨rfl, s.resolve_self_eq _⟩, _, hparse, ?_⟩
  have hrender : render {} (.ofTree "[[for(Items)]][[this]][[endfor(Items)]]" (.group
      [.block ⟨⟨"for(Items)", true, ⟨1, 3⟩⟩, .opening .loop "Items"⟩
        [.leaf ⟨⟨"this", true, ⟨1, 17⟩⟩, .field "@self"⟩] none])) model =
      .ok "\x7b\"Items\":[\"a\"]\x7d" := by
    rw [render_eq_denote_tree]
    rfl
  refine ⟨hrender, ?_⟩
  rw [hrender]
  intro heq
  exact absurd (Except.ok.inj heq) (by decide)

end Templating
