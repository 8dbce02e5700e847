import Templating.Proofs.Lockstep

/-!
# Where a rendering aborts

Following a path ends with a value or a failure, and so does every choice that a command makes.
Only a formatter aborts, and a run calls it for fields. So behind the abort of a rendering there
is a field, of the template or of a subtemplate below it, with a format under which the
formatter aborts on some value (`Interpretation.exists_field_of_abort`).
-/
namespace Templating
open Outcome

/-- The format that a field's path carries. -/
def fieldFormat? (path : String) : Option String :=
  (ModelPath.splitFormat path.toList).2.map String.ofList

/-- The paths of the fields in a template and in all the subtemplates below it. -/
inductive Template.HasField : Template → String → Prop
  | own {t : Template} {c : Command} {path : String} :
      c ∈ t.tree.commands → c.directive = .field path → HasField t path
  | inner {t : Template} {entry : String × Template} {path : String} :
      entry ∈ t.registry → HasField entry.2 path → HasField t path

/-- One reading, and its outcome is not an abort. -/
def Likeness.unaborted : Likeness where
  scopes := Eq
  outcomes x _ := x ≠ .error .abort
  ok _ := nofun
  andThen := andThen_ne_error

namespace Interpretation
variable {i : Interpretation}

theorem ne_abort_of_read {s : Scope} {path : String} {e : Fault RenderError}
    (h : i.read s path = .error e) : e ≠ .abort := by
  unfold read at h
  split at h
  · cases h
  · cases h
    simp

/-- A field aborts only in its formatter. -/
theorem fieldText_ne_abort {path : String}
    (h : ∀ v, i.formatter v (fieldFormat? path) ≠ .error .abort) (s : Scope) :
    i.fieldText s path ≠ .error .abort := by
  unfold fieldText
  dsimp only
  split
  · rename_i e he
    exact fun ha => ne_abort_of_read he (Except.error.inj ha)
  · rename_i v hv
    split
    · simp
    · rename_i e he
      cases e with
      | failure cause => simp [Fault.map]
      | abort => exact (h _ he).elim

theorem readsAlike_self (i : Interpretation) (s : Scope) (path : String) :
    Likeness.unaborted.ReadsAlike (i.read s path) (i.read s path) := by
  cases hread : i.read s path with
  | error e => exact .fault fun ha => ne_abort_of_read hread (Except.error.inj ha)
  | ok v => exact .value v

end Interpretation

/-- A command aborts only in its formatter, or with a subtemplate. -/
theorem Command.follows_unaborted {i : Interpretation} {call : String → Value → Outcome}
    {c : Command} (h : ∀ path, c.directive = .field path →
      ∀ v, i.formatter v (fieldFormat? path) ≠ .error .abort)
    (hcall : ∀ name v, call name v ≠ .error .abort) :
    Likeness.unaborted.Follows i call call id c where
  field := by
    rintro s _ path hd rfl
    exact Interpretation.fieldText_ne_abort (h path hd) s
  opening := by
    rintro s _ b path - rfl
    exact i.readsAlike_self s path
  enter := by
    rintro s _ path - rfl item
    rfl
  subtemplate := by
    rintro s _ name path - rfl
    exact i.readsAlike_self s path
  call := hcall
  notBoolean _ _ := nofun
  notIterable _ _ := nofun
  boundary _ := nofun

/-- Where the formatter aborts under no format of a template's fields, the template does not
abort. -/
theorem Template.denote_ne_abort {i : Interpretation} (t : Template)
    (h : ∀ path, t.HasField path → ∀ v, i.formatter v (fieldFormat? path) ≠ .error .abort)
    (model : Value) : t.denote i model ≠ .error .abort := by
  have hcall : ∀ name v, Registry.call i t.registry name v ≠ .error .abort := by
    intro name v
    unfold Registry.call
    cases hsub : memberOf? name t.registry with
    | none => nofun
    | some sub =>
        exact sub.denote_ne_abort (fun path hp => h path (.inner (mem_of_memberOf? hsub) hp)) v
  rw [t.denote_eq]
  exact Likeness.denote_mapPaths_related t.tree
    (fun c hc => c.follows_unaborted (fun path hd => h path (.own hc hd)) hcall)
    (rfl : (⟨model, []⟩ : Scope) = ⟨model, []⟩)
termination_by sizeOf t
decreasing_by exact Nat.lt_trans (sizeOf_lt_of_memberOf? hsub) t.sizeOf_registry_lt

/-- An abort comes from the formatter, under the format of a field. -/
theorem Interpretation.exists_field_of_abort {i : Interpretation} {t : Template} {model : Value}
    (h : i.render t model = .error .abort) :
    ∃ path v, t.HasField path ∧ i.formatter v (fieldFormat? path) = .error .abort := by
  refine Classical.byContradiction fun hnone => ?_
  refine t.denote_ne_abort (fun path hp v hv => hnone ⟨path, v, hp, hv⟩) model ?_
  rw [← i.render_eq_denote, h]

end Templating
