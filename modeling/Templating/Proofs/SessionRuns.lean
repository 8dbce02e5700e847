import Templating.Proofs.Sessions

/-!
# Registries in the course of a session

No operation registers a name twice in one registry, and none takes an entry out, so that
what one operation adds to a registry can be added up over a run. `registries_of_run` says
what holds of every state that is reached from a fresh engine: the names of every registry
are distinct, and whatever is done from there on, every registry is what it was with the
entries added that are registered since, in their order.
-/
namespace Templating.Session

/-- No name stands twice in the registry of the engine or of a template at hand, or in one
below it. -/
structure NamesDistinct (s : Session) : Prop where
  engine : s.engine.registry.NamesDistinct
  templates : ∀ t ∈ s.templates, t.NamesDistinct

namespace NamesDistinct
variable {s : Session} {a : Action} {o : Owner} {entries : Registry}

theorem registry (h : s.NamesDistinct) (o : Owner) : (s.registry o).NamesDistinct := by
  cases o with
  | engine => exact h.engine
  | template slot =>
      cases ht : s.templates[slot]? with
      | none =>
          rw [Session.registry, ht]
          exact Registry.namesDistinct_nil
      | some t =>
          rw [registry_template ht]
          exact (h.templates t (List.mem_of_getElem? ht)).registry

theorem entriesAt? (h : s.NamesDistinct) {named : List (String × Nat)}
    (he : s.entriesAt? named = some entries) : ∀ entry ∈ entries, entry.2.NamesDistinct := by
  induction named generalizing entries with
  | nil =>
      cases he
      exact List.forall_mem_nil _
  | cons entry named ih =>
      rw [Session.entriesAt?] at he
      split at he
      · rename_i t rest ht hrest
        cases he
        exact List.forall_mem_cons.mpr ⟨h.templates t (List.mem_of_getElem? ht), ih hrest⟩
      · cases he

/-- What operations bring to be registered are templates at hand and parsed ones. -/
theorem request (h : s.NamesDistinct) (hr : s.request? a = some (o, .ok entries)) :
    ∀ entry ∈ entries, entry.2.NamesDistinct := by
  have hparse : ∀ {d : Dialect} {name source : String},
      (Template.parse d source).map (fun t => [(name, t)]) = .ok entries →
        ∀ entry ∈ entries, entry.2.NamesDistinct := by
    intro d name source he
    cases ht : Template.parse d source with
    | error cause =>
        rw [ht] at he
        cases he
    | ok t =>
        rw [ht] at he
        cases he
        refine List.forall_mem_singleton.mpr (Template.namesDistinct_of_registry ?_)
        rw [Template.registry_of_parse ht]
        exact Registry.namesDistinct_nil
  cases a with
  | share name slot =>
      obtain ⟨t, ht, he⟩ := Option.map_eq_some_iff.mp hr
      cases he
      exact List.forall_mem_singleton.mpr (h.templates t (List.mem_of_getElem? ht))
  | shareSource name source => exact hparse (congrArg Prod.snd (Option.some.inj hr))
  | shareAll named =>
      obtain ⟨found, hfound, he⟩ := Option.map_eq_some_iff.mp hr
      cases he
      exact h.entriesAt? hfound
  | add slot name sub =>
      rw [request?] at hr
      split at hr
      · rename_i t sub ht hsub
        cases hr
        exact List.forall_mem_singleton.mpr (h.templates sub (List.mem_of_getElem? hsub))
      · cases hr
  | addSource slot d name source =>
      obtain ⟨t, ht, he⟩ := Option.map_eq_some_iff.mp hr
      exact hparse (congrArg Prod.snd he)
  | useDialect d | interpret i | parse source | attach slot | process source model => cases hr

theorem created (h : s.NamesDistinct) {r : Registry} (hc : s.created? a = some r) :
    r.NamesDistinct := by
  cases a with
  | parse source =>
      rw [created?] at hc
      split at hc
      · cases hc
        exact h.engine
      · cases hc
  | attach slot =>
      obtain ⟨t, ht, hr⟩ := Option.bind_eq_some_iff.mp hc
      split at hr
      · rename_i hnew
        cases hr
        have htemplate := (h.templates t (List.mem_of_getElem? ht)).registry
        exact htemplate.append ⟨h.engine.nodup, hnew⟩ h.engine.below
      · cases hr
  | share name slot | shareSource name source | shareAll named | useDialect d | interpret i
  | process source model | add slot name sub | addSource slot d name source => cases hc

theorem push (h : s.NamesDistinct) {t : Template} (ht : t.NamesDistinct) :
    (s.push t).NamesDistinct :=
  ⟨h.engine, List.forall_mem_append.mpr ⟨h.templates, List.forall_mem_singleton.mpr ht⟩⟩

theorem extend (h : s.NamesDistinct) {added : Registry}
    (ho : ∀ slot, o = .template slot → ∃ t : Template, s.templates[slot]? = some t)
    (hr : (s.registry o ++ added : Registry).NamesDistinct) :
    (s.extend added o).NamesDistinct := by
  cases o with
  | engine => exact ⟨hr, h.templates⟩
  | template slot =>
      obtain ⟨t, ht⟩ := ho slot rfl
      rw [registry_template ht] at hr
      rw [extend_template ht]
      refine ⟨h.engine, fun u hu => ?_⟩
      rcases List.mem_or_eq_of_mem_set hu with hu | rfl
      · exact h.templates u hu
      · exact Template.namesDistinct_of_registry hr

/-- Every operation keeps the names of the registries distinct. -/
theorem step (h : s.NamesDistinct) (a : Action) : (s.step a).1.NamesDistinct := by
  cases hr : s.request? a with
  | some asked =>
      obtain ⟨o, asked⟩ := asked
      rw [step_of_request hr]
      cases asked with
      | error cause => exact h
      | ok entries =>
          have hlongest := (s.registry o).longest_isPrefix entries
          refine h.extend (fun slot hslot => exists_of_request (hslot ▸ hr)) ?_
          exact (h.registry o).append ((s.registry o).accepts_longest entries)
            fun entry hentry => h.request hr entry (hlongest.mem hentry)
  | none =>
      cases hc : s.created? a with
      | some r =>
          obtain ⟨t, rfl, hstep⟩ := step_of_created h.engine.nodup hc
          rw [hstep]
          exact h.push (Template.namesDistinct_of_registry (h.created hc))
      | none =>
          obtain ⟨hengine, htemplates⟩ := step_of_neither hr hc
          exact ⟨hengine ▸ h.engine, htemplates ▸ h.templates⟩

theorem run (h : s.NamesDistinct) (actions : List Action) : (s.run actions).NamesDistinct := by
  induction actions generalizing s with
  | nil => exact h
  | cons a actions ih => exact ih (h.step a)

/-- A run adds to each registry what its operations register there, in their order. -/
theorem registry_run (h : s.NamesDistinct) (actions : List Action) (o : Owner) :
    (s.run actions).registry o = s.registry o ++ s.journal o actions := by
  induction actions generalizing s with
  | nil => exact (List.append_nil _).symm
  | cons a actions ih =>
      rw [journal, ← List.append_assoc, ← registry_step h.engine.nodup]
      exact ih (h.step a)

end NamesDistinct

/-- In every state that is reached from a fresh engine and templates at hand, the names of
every registry are distinct. From there on a registry keeps its entries, and those that are
registered later follow in their order. A registration adds the longest stretch of its
entries whose names are new and distinct, and fails for the name after it if there is one,
but for the text it brings if that is no template. Apart from sharing several templates at
once, an operation that fails changes nothing. -/
theorem registries_of_run {templates : List Template}
    (h : ∀ t ∈ templates, t.NamesDistinct) (actions : List Action) :
    let s := (Session.mk {} templates).run actions
    s.NamesDistinct ∧
      (∀ o later, (s.run later).registry o = s.registry o ++ s.journal o later) ∧
      (∀ {a o cause}, s.request? a = some (o, .error cause) →
        s.step a = (s, .fault (.failure (.template cause)))) ∧
      (∀ {a o entries}, s.request? a = some (o, .ok entries) →
        let kept := (s.registry o).longest entries
        (s.registry o).Accepts kept ∧
          (∀ p, p <+: entries → (s.registry o).Accepts p → p <+: kept) ∧
          ∃ rest, entries = kept ++ rest ∧ s.step a = (s.extend kept o, match rest with
            | [] => .done
            | entry :: _ => .fault (.failure (.duplicateSubtemplate entry.1)))) ∧
      ∀ {a cause}, (∀ named, a ≠ .shareAll named) → (s.step a).2 = .fault cause →
        (s.step a).1 = s := by
  intro s
  have hfresh : (Session.mk {} templates).NamesDistinct := ⟨Registry.namesDistinct_nil, h⟩
  have hs : s.NamesDistinct := hfresh.run actions
  refine ⟨hs, fun o later => hs.registry_run later o, step_of_request, ?_, step_of_fault⟩
  intro a o entries hr kept
  obtain ⟨rest, he, hrefused⟩ := (s.registry o).eq_longest_append entries
  refine ⟨(s.registry o).accepts_longest entries, fun p hp ha => Registry.prefix_longest hp ha,
    rest, he, ?_⟩
  rw [step_of_request hr, accept, hrefused]
  cases rest <;> rfl

/-- Of three templates the engine shares the first, the name of the second being taken. -/
theorem registries_of_note_and_letter :
    let note := Template.ofTree "" (.group [])
    let letter := Template.mk "" (.group []) [("note", note)]
    let s := (Session.mk {} [note, letter]).run [.share "note" 0]
    (∀ t ∈ [note, letter], t.NamesDistinct) ∧ s.NamesDistinct ∧
      s.step (.shareAll [("head", 1), ("note", 0), ("foot", 1)]) =
        (s.extend [("head", letter)] .engine,
          .fault (.failure (.duplicateSubtemplate "note"))) := by
  intro note letter s
  have hnote : note.NamesDistinct := .intro .nil (List.forall_mem_nil _)
  have hletter : letter.NamesDistinct :=
    .intro (List.nodup_cons.mpr ⟨List.not_mem_nil, .nil⟩) (List.forall_mem_singleton.mpr hnote)
  have htemplates : ∀ t ∈ [note, letter], t.NamesDistinct :=
    List.forall_mem_cons.mpr ⟨hnote, List.forall_mem_singleton.mpr hletter⟩
  obtain ⟨hs, -, -, hregister, -⟩ := registries_of_run htemplates [.share "note" 0]
  obtain ⟨-, -, rest, hrest, hstep⟩ :=
    hregister (a := .shareAll [("head", 1), ("note", 0), ("foot", 1)]) rfl
  obtain rfl : [("note", note), ("foot", letter)] = rest := (List.cons.inj hrest).2
  exact ⟨htemplates, hs, hstep⟩

end Templating.Session
