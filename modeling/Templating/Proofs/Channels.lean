import Templating.Proofs.Aborts
import Templating.Proofs.Wording
import Templating.Proofs.Sessions

/-!
# How the operations of an engine end

A text that an engine parses gets the entries of the engine, one after another. That cannot
fail for a name, since a parsed text has no entries of its own and the names of the engine
are distinct in every state that a session reaches. So parsing fails for the text alone, and
processing ends with a document, with the error of the text, with an error of rendering, or
with an abort, which only a formatter can cause. Attaching the entries to a template that
has some already fails for the first name that both have.
-/
namespace Templating

namespace Session
variable {s : Session}

/-- What is registered with an engine are entries that it can accept. -/
theorem accepts_registered (s : Session) (a : Action) :
    s.engine.registry.Accepts (s.registered a .engine) := by
  rw [registered]
  split
  · split
    · exact Registry.accepts_longest _ _
    · exact Registry.accepts_nil _
  · exact Registry.accepts_nil _
  · exact Registry.accepts_nil _

/-- The names that an engine shares are distinct in every state. -/
theorem engine_names_nodup_run (hs : s.engine.registry.names.Nodup) (actions : List Action) :
    (s.run actions).engine.registry.names.Nodup := by
  induction actions generalizing s with
  | nil => exact hs
  | cons a actions ih =>
      apply ih
      have hstep : (s.step a).1.engine.registry = s.engine.registry ++ s.registered a .engine :=
        registry_step hs a .engine
      rw [hstep]
      exact (s.accepts_registered a).nodup_append hs

end Session

namespace Engine
variable {e : Engine}

/-- Attaching fails for the first of the engine's names that the template has too. -/
theorem attach_eq (he : e.registry.names.Nodup) (t : Template) :
    e.attach t = match e.registry.find? fun entry => entry.1 ∈ t.registry.names with
      | some entry => .error (.duplicateSubtemplate entry.1)
      | none => .ok (t.withRegistry (t.registry ++ e.registry)) := by
  have hadd := t.addAll_eq e.registry
  rw [Registry.refused?_of_nodup he] at hadd
  exact hadd

theorem parse_eq (he : e.registry.names.Nodup) (source : String) :
    e.parse source = match Template.parse e.dialect source with
      | .error cause => .error (.template cause)
      | .ok t => .ok (t.withRegistry e.registry) := by
  rw [parse]
  cases ht : Template.parse e.dialect source with
  | error cause => rfl
  | ok t =>
      have hnew : t.registry.Accepts e.registry := by
        rw [Template.registry_of_parse ht]
        exact ⟨he, fun _ _ => List.not_mem_nil⟩
      simp only [attach, Template.addAll_eq, Registry.refused?_of_accepts hnew]
      rw [Template.registry_of_parse ht, List.nil_append]

/-- Processing a text that parses is rendering with the entries of the engine. -/
theorem process_of_parse (he : e.registry.names.Nodup) {source : String} {t : Template}
    (ht : Template.parse e.dialect source = .ok t) (model : Value) :
    e.process source model = e.render (t.withRegistry e.registry) model := by
  rw [process, parse_eq he, ht]

theorem process_of_flaw (he : e.registry.names.Nodup) {source : String} {flaw : ParseError}
    (ht : Template.parse e.dialect source = .error flaw) (model : Value) :
    e.process source model = .error (.failure (.template flaw)) := by
  rw [process, parse_eq he, ht]

/-- Rendering ends with a document, with an error of its own, or in the formatter. -/
theorem render_cases (e : Engine) (t : Template) (model : Value) :
    (∃ document, e.render t model = .ok document) ∨
      (∃ cause, e.render t model = .error (.failure (.rendering cause))) ∨
      e.render t model = .error .abort ∧
        ∃ v format, e.interpretation.formatter v format = .error .abort := by
  rw [render]
  cases hr : e.interpretation.render t model with
  | ok document => exact .inl ⟨document, rfl⟩
  | error fault =>
      cases fault with
      | failure cause => exact .inr (.inl ⟨cause, rfl⟩)
      | abort =>
          obtain ⟨path, v, -, hv⟩ := Interpretation.exists_field_of_abort hr
          exact .inr (.inr ⟨rfl, v, fieldFormat? path, hv⟩)

end Engine

/-- In every state that a session reaches from a fresh engine, parsing fails exactly for the
flaw of the text, and else gives the template the entries of the engine in their order.
Processing ends with that flaw, with a document, with an error of rendering, or with an
abort of the formatter, and its errors tell whether the text has a flaw. Attaching fails
for the first name of the engine that the template has too, and else adds the entries of
the engine behind those of the template. -/
theorem Session.engine_channels (templates : List Template) (actions : List Session.Action)
    (source : String) (model : Value) (t : Template) :
    let e := ((Session.mk {} templates).run actions).engine
    (∀ cause, e.parse source = .error cause ↔
        ∃ flaw, Template.parse e.dialect source = .error flaw ∧ cause = .template flaw) ∧
      (∀ u, e.parse source = .ok u ↔
        ∃ v, Template.parse e.dialect source = .ok v ∧ u = v.withRegistry e.registry) ∧
      (∀ flaw, Template.parse e.dialect source = .error flaw →
        e.process source model = .error (.failure (.template flaw))) ∧
      (∀ v, Template.parse e.dialect source = .ok v →
        (∃ document, e.process source model = .ok document) ∨
          (∃ cause, e.process source model = .error (.failure (.rendering cause))) ∨
          e.process source model = .error .abort ∧
            ∃ v format, e.interpretation.formatter v format = .error .abort) ∧
      (∀ cause, e.process source model = .error (.failure cause) →
        (cause.isTemplateError = true ↔ ∃ flaw, Template.parse e.dialect source = .error flaw)) ∧
      e.attach t = match e.registry.find? fun entry => entry.1 ∈ t.registry.names with
        | some entry => .error (.duplicateSubtemplate entry.1)
        | none => .ok (t.withRegistry (t.registry ++ e.registry)) := by
  intro e
  have he : e.registry.names.Nodup := engine_names_nodup_run (s := ⟨{}, templates⟩) .nil actions
  have hparse := Engine.parse_eq he source
  refine ⟨fun cause => ?_, fun u => ?_, fun flaw hf => Engine.process_of_flaw he hf model,
    fun v hv => ?_, fun cause hc => ?_, Engine.attach_eq he t⟩
  · rw [hparse]
    cases Template.parse e.dialect source <;> simp [eq_comm]
  · rw [hparse]
    cases Template.parse e.dialect source <;> simp [eq_comm]
  · rw [Engine.process_of_parse he hv]
    exact e.render_cases _ model
  · cases hv : Template.parse e.dialect source with
    | error flaw =>
        obtain rfl : cause = .template flaw := by
          simpa [Engine.process_of_flaw he hv, eq_comm] using hc
        simp [Error.isTemplateError]
    | ok v =>
        rw [Engine.process_of_parse he hv] at hc
        obtain ⟨rendering, rfl⟩ : ∃ rendering, cause = .rendering rendering := by
          rcases e.render_cases (v.withRegistry e.registry) model with h | h | h
          all_goals simp_all
        simp [Error.isTemplateError]

/-- A field asks for more places behind the point than can be written. Its text parses, and
processing it ends neither with a document nor with an error. -/
theorem Engine.process_too_many_places :
    let outcome := Engine.process {} "[[n:F65536]]" (.object [("n", .number (.int 1))])
    (∃ t, Template.parse .standard "[[n:F65536]]" = .ok t) ∧
      ¬((∃ document, outcome = .ok document) ∨ ∃ cause, outcome = .error (.failure cause)) := by
  intro outcome
  have hparse : Template.parse .standard "[[n:F65536]]" = .ok (.ofTree "[[n:F65536]]"
      (.group [.leaf ⟨⟨"n:F65536", true, ⟨1, 3⟩⟩, .field "n:F65536"⟩])) := by
    rw [Template.parse, Dialect.parse, Dialect.commands,
      segment_eq_read Dialect.standard.tags_sound]
    rfl
  have houtcome : outcome = .error .abort := by
    refine (process_of_parse (e := {}) .nil hparse _).trans ?_
    rw [render, Interpretation.render_eq_denote_tree]
    rfl
  refine ⟨⟨_, hparse⟩, ?_⟩
  rw [houtcome]
  rintro (⟨document, hd⟩ | ⟨cause, hc⟩)
  · cases hd
  · cases hc

end Templating
