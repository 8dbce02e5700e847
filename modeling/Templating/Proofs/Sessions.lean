import Mathlib.Data.List.Basic
import Templating.Proofs.Registries

/-!
# Sessions

An engine and the templates at hand go through one operation after another. An operation
may register: then it names an owner, the engine or a template, and brings entries, unless a
text that it brings is no template. It may make a new template, to which the entries of the
engine are attached. Every other operation leaves the registries as they are. So
`registry_step` can say what any one operation adds to any one registry.
-/
namespace Templating

/-- An engine and the templates at hand, each in a slot of its own. -/
structure Session where
  engine : Engine := {}
  templates : List Template := []

namespace Session

/-- The operations. Templates are told by their slots. What is registered is a copy, and a
template that is made by parsing or attaching comes into a new slot. -/
inductive Action where
  | share (name : String) (slot : Nat)
  | shareSource (name source : String)
  | shareAll (entries : List (String × Nat))
  | useDialect (d : Dialect)
  | interpret (i : Interpretation)
  | parse (source : String)
  | attach (slot : Nat)
  | process (source : String) (model : Value)
  | add (slot : Nat) (name : String) (sub : Nat)
  | addSource (slot : Nat) (d : Dialect) (name source : String)

inductive Answer where
  | done
  | document (text : String)
  | fault (cause : Fault Error)
  /-- A slot that was named holds no template. -/
  | emptySlot

/-- The session that an operation gives, or as it was when it fails. -/
def keep (s : Session) : Except Error Session → Session × Answer
  | .ok s' => (s', .done)
  | .error cause => (s, .fault (.failure cause))

def withEngine (s : Session) (e : Engine) : Session := { s with engine := e }

def push (s : Session) (t : Template) : Session := { s with templates := s.templates ++ [t] }

def put (s : Session) (slot : Nat) (t : Template) : Session :=
  { s with templates := s.templates.set slot t }

/-- The templates in slots, under the names given to them. -/
def entriesAt? (s : Session) : List (String × Nat) → Option Registry
  | [] => some []
  | (name, slot) :: rest =>
      match s.templates[slot]?, s.entriesAt? rest with
      | some t, some entries => some ((name, t) :: entries)
      | _, _ => none

def step (s : Session) : Action → Session × Answer
  | .share name slot =>
      match s.templates[slot]? with
      | some t => s.keep ((s.engine.share name t).map s.withEngine)
      | none => (s, .emptySlot)
  | .shareSource name source => s.keep ((s.engine.shareSource name source).map s.withEngine)
  | .shareAll named =>
      match s.entriesAt? named with
      | some entries =>
          match s.engine.shareAll entries with
          | (e, none) => (s.withEngine e, .done)
          | (e, some cause) => (s.withEngine e, .fault (.failure cause))
      | none => (s, .emptySlot)
  | .useDialect d => (s.withEngine { s.engine with dialect := d }, .done)
  | .interpret i => (s.withEngine { s.engine with interpretation := i }, .done)
  | .parse source => s.keep ((s.engine.parse source).map s.push)
  | .attach slot =>
      match s.templates[slot]? with
      | some t => s.keep ((s.engine.attach t).map s.push)
      | none => (s, .emptySlot)
  | .process source model =>
      match s.engine.process source model with
      | .ok text => (s, .document text)
      | .error cause => (s, .fault cause)
  | .add slot name sub =>
      match s.templates[slot]?, s.templates[sub]? with
      | some t, some sub => s.keep ((t.add name sub).map (s.put slot))
      | _, _ => (s, .emptySlot)
  | .addSource slot d name source =>
      match s.templates[slot]? with
      | some t => s.keep ((t.addSource d name source).map (s.put slot))
      | none => (s, .emptySlot)

/-- The session after some operations, failed ones included. -/
def run (s : Session) (actions : List Action) : Session :=
  actions.foldl (fun s a => (s.step a).1) s

/-- The engine, or a template at hand. -/
inductive Owner where
  | engine
  | template (slot : Nat)
  deriving DecidableEq

/-- The registry of an owner. A template that is not there yet has no entries. -/
def registry (s : Session) : Owner → Registry
  | .engine => s.engine.registry
  | .template slot => ((s.templates[slot]?).map Template.registry).getD []

/-- The session with more entries in the registry of an owner. -/
def extend (s : Session) (added : Registry) : Owner → Session
  | .engine => s.withEngine { s.engine with registry := s.engine.registry ++ added }
  | .template slot =>
      { s with templates := s.templates.modify slot fun t => t.withRegistry (t.registry ++ added) }

/-- Where an operation registers, and the entries that it brings in their order, or why a
text that it brings is no template. -/
def request? (s : Session) : Action → Option (Owner × Except ParseError Registry)
  | .share name slot => (s.templates[slot]?).map fun t => (.engine, .ok [(name, t)])
  | .shareSource name source =>
      some (.engine, (Template.parse s.engine.dialect source).map fun t => [(name, t)])
  | .shareAll named => (s.entriesAt? named).map fun entries => (.engine, .ok entries)
  | .add slot name sub =>
      match s.templates[slot]?, s.templates[sub]? with
      | some _, some sub => some (.template slot, .ok [(name, sub)])
      | _, _ => none
  | .addSource slot d name source => (s.templates[slot]?).map fun _ =>
      (.template slot, (Template.parse d source).map fun t => [(name, t)])
  | .useDialect _ | .interpret _ | .parse _ | .attach _ | .process _ _ => none

/-- The registry with which a new template comes, when an operation makes one: what it had
before, and the entries of the engine. -/
def created? (s : Session) : Action → Option Registry
  | .parse source =>
      match Template.parse s.engine.dialect source with
      | .ok _ => some s.engine.registry
      | .error _ => none
  | .attach slot => (s.templates[slot]?).bind fun t =>
      if ∀ name ∈ s.engine.registry.names, name ∉ t.registry.names then
        some (t.registry ++ s.engine.registry)
      else none
  | _ => none

/-- The entries that an operation registers with an owner. -/
def registered (s : Session) (a : Action) (o : Owner) : Registry :=
  match s.request? a, s.created? a with
  | some (o', .ok entries), _ => if o' = o then (s.registry o).longest entries else []
  | none, some r => if o = .template s.templates.length then r else []
  | _, _ => []

/-- The entries that operations register with an owner one after another. -/
def journal (s : Session) (o : Owner) : List Action → Registry
  | [] => []
  | a :: rest => s.registered a o ++ (s.step a).1.journal o rest

/-- The answer to registering in turn, by the entry that was refused. -/
def Answer.ofRefused : Option (String × Template) → Answer
  | none => .done
  | some entry => .fault (.failure (.duplicateSubtemplate entry.1))

/-- Registering in turn with an owner what an operation brings. -/
def accept (s : Session) (o : Owner) : Except ParseError Registry → Session × Answer
  | .ok entries =>
      (s.extend ((s.registry o).longest entries) o, .ofRefused ((s.registry o).refused? entries))
  | .error cause => (s, .fault (.failure (.template cause)))

section
variable {s : Session} {a : Action} {o : Owner} {slot : Nat} {t : Template}

theorem registry_template (h : s.templates[slot]? = some t) :
    s.registry (.template slot) = t.registry := by
  rw [registry, h]
  rfl

theorem extend_template (h : s.templates[slot]? = some t) (added : Registry) :
    s.extend added (.template slot) = s.put slot (t.withRegistry (t.registry ++ added)) := by
  rw [extend, List.modify_eq_set_getElem?, h]
  rfl

theorem extend_nil (s : Session) (o : Owner) : s.extend [] o = s := by
  cases o with
  | engine =>
      rw [extend, List.append_nil]
      rfl
  | template slot =>
      have hsame : (fun t : Template => t.withRegistry (t.registry ++ [])) = id := by
        funext t
        cases t
        simp [Template.withRegistry, Template.source, Template.tree, Template.registry]
      simp only [extend, hsame, List.modify_id]

theorem keep_share (s : Session) (name : String) (t : Template) :
    s.keep ((s.engine.share name t).map s.withEngine) = s.accept .engine (.ok [(name, t)]) := by
  have hr : s.registry .engine = s.engine.registry := rfl
  rw [Engine.share_eq, accept, hr, Registry.longest_singleton, Registry.refused?_singleton]
  by_cases h : name ∈ s.engine.registry.names
  · rw [if_pos h, if_pos h, if_pos h, extend_nil]
    rfl
  · rw [if_neg h, if_neg h, if_neg h]
    rfl

theorem keep_add (h : s.templates[slot]? = some t) (name : String) (sub : Template) :
    s.keep ((t.add name sub).map (s.put slot)) = s.accept (.template slot) (.ok [(name, sub)]) := by
  rw [Template.add_eq, accept, registry_template h, Registry.longest_singleton,
    Registry.refused?_singleton]
  by_cases hn : name ∈ t.registry.names
  · rw [if_pos hn, if_pos hn, if_pos hn, extend_nil]
    rfl
  · rw [if_neg hn, if_neg hn, if_neg hn, extend_template h]
    rfl

/-- An operation that registers does so in turn, or fails for the text that it brings. -/
theorem step_of_request {asked : Except ParseError Registry} (h : s.request? a = some (o, asked)) :
    s.step a = s.accept o asked := by
  cases a with
  | share name slot =>
      obtain ⟨t, ht, he⟩ := Option.map_eq_some_iff.mp h
      cases he
      simp only [step, ht]
      exact s.keep_share name t
  | shareSource name source =>
      cases h
      rw [step, Engine.shareSource]
      cases Template.parse s.engine.dialect source with
      | error cause => rfl
      | ok t => exact s.keep_share name t
  | shareAll named =>
      obtain ⟨entries, hentries, he⟩ := Option.map_eq_some_iff.mp h
      cases he
      simp only [step, hentries, Engine.shareAll_eq, accept, registry]
      cases s.engine.registry.refused? entries <;> rfl
  | add slot name sub =>
      cases ht : s.templates[slot]? with
      | none => simp [request?, ht] at h
      | some t =>
          cases hsub : s.templates[sub]? with
          | none => simp [request?, ht, hsub] at h
          | some sub =>
              simp only [request?, ht, hsub, Option.some.injEq, Prod.mk.injEq] at h
              obtain ⟨rfl, rfl⟩ := h
              simp only [step, ht, hsub]
              exact keep_add ht name sub
  | addSource slot d name source =>
      obtain ⟨t, ht, he⟩ := Option.map_eq_some_iff.mp h
      cases he
      simp only [step, ht, Template.addSource]
      cases Template.parse d source with
      | error cause => rfl
      | ok sub => exact keep_add ht name sub
  | useDialect d | interpret i | parse source | attach slot | process source model => cases h

/-- What an operation makes is a new template with the entries of the engine added. -/
theorem step_of_created {r : Registry} (hs : s.engine.registry.names.Nodup)
    (h : s.created? a = some r) : ∃ t : Template, t.registry = r ∧
      s.step a = (s.push t, .done) := by
  cases a with
  | parse source =>
      rw [created?] at h
      split at h
      case h_2 => cases h
      rename_i t ht
      obtain rfl := Option.some.inj h
      have haccepts : t.registry.Accepts s.engine.registry := by
        rw [Template.registry_of_parse ht]
        exact ⟨hs, fun _ _ => List.not_mem_nil⟩
      refine ⟨t.withRegistry (t.registry ++ s.engine.registry), ?_, ?_⟩
      · rw [Template.registry_withRegistry, Template.registry_of_parse ht, List.nil_append]
      · simp only [step, Engine.parse, ht, Engine.attach, Template.addAll_eq,
          Registry.refused?_of_accepts haccepts]
        rfl
  | attach slot =>
      obtain ⟨t, ht, hr⟩ := Option.bind_eq_some_iff.mp h
      split at hr
      · rename_i hnew
        cases hr
        refine ⟨t.withRegistry (t.registry ++ s.engine.registry), rfl, ?_⟩
        simp only [step, ht, Engine.attach, Template.addAll_eq,
          Registry.refused?_of_accepts ⟨hs, hnew⟩]
        rfl
      · cases hr
  | share name slot | shareSource name source | shareAll named | useDialect d | interpret i
  | process source model | add slot name sub | addSource slot d name source => cases h

/-- Every other operation leaves the registries as they are. -/
theorem step_of_neither (hr : s.request? a = none) (hc : s.created? a = none) :
    (s.step a).1.engine.registry = s.engine.registry ∧
      (s.step a).1.templates = s.templates := by
  cases a with
  | share name slot =>
      rw [request?, Option.map_eq_none_iff] at hr
      simp only [step, hr, and_self]
  | shareSource name source => cases hr
  | shareAll named =>
      rw [request?, Option.map_eq_none_iff] at hr
      simp only [step, hr, and_self]
  | useDialect d | interpret i => exact ⟨rfl, rfl⟩
  | parse source =>
      cases ht : Template.parse s.engine.dialect source with
      | error cause =>
          simp only [step, Engine.parse, ht]
          exact ⟨rfl, rfl⟩
      | ok t => simp [created?, ht] at hc
  | attach slot =>
      cases ht : s.templates[slot]? with
      | none => simp only [step, ht, and_self]
      | some t =>
          have hrefused : t.registry.refused? s.engine.registry ≠ none := by
            rw [ne_eq, Registry.refused?_eq_none_iff]
            intro haccepts
            rw [created?, ht, Option.bind_some, if_pos haccepts.new] at hc
            cases hc
          simp only [step, ht, Engine.attach, Template.addAll_eq]
          cases he : t.registry.refused? s.engine.registry with
          | none => exact (hrefused he).elim
          | some entry => exact ⟨rfl, rfl⟩
  | process source model =>
      rw [step]
      split <;> exact ⟨rfl, rfl⟩
  | add slot name sub =>
      rw [step]
      split
      · rename_i t sub ht hsub
        simp [request?, ht, hsub] at hr
      · exact ⟨rfl, rfl⟩
  | addSource slot d name source =>
      rw [request?, Option.map_eq_none_iff] at hr
      simp only [step, hr, and_self]

theorem keep_of_fault {x : Except Error Session} {cause : Fault Error}
    (h : (s.keep x).2 = .fault cause) : (s.keep x).1 = s := by
  cases x with
  | error e => rfl
  | ok s' => cases h

/-- Apart from sharing several templates at once, a failed operation changes nothing. -/
theorem step_of_fault {cause : Fault Error} (ha : ∀ named, a ≠ .shareAll named)
    (h : (s.step a).2 = .fault cause) : (s.step a).1 = s := by
  cases a with
  | shareAll named => exact (ha named rfl).elim
  | useDialect d | interpret i => cases h
  | shareSource name source | parse source => exact keep_of_fault h
  | process source model =>
      rw [step]
      split <;> rfl
  | share name slot | attach slot | addSource slot d name source =>
      cases ht : s.templates[slot]? with
      | none => simp only [step, ht]
      | some t =>
          simp only [step, ht] at h ⊢
          exact keep_of_fault h
  | add slot name sub =>
      rw [step] at h ⊢
      split
      · rename_i t sub ht hsub
        simp only [ht, hsub] at h
        exact keep_of_fault h
      · rfl

/-- Operations register with owners that are there. -/
theorem exists_of_request {asked : Except ParseError Registry}
    (h : s.request? a = some (.template slot, asked)) :
    ∃ t : Template, s.templates[slot]? = some t := by
  cases a with
  | share name slot' | shareAll named =>
      obtain ⟨x, -, he⟩ := Option.map_eq_some_iff.mp h
      cases he
  | shareSource name source | useDialect d | interpret i | parse source | attach slot'
  | process source model => cases h
  | add slot' name sub =>
      rw [request?] at h
      split at h
      · rename_i t sub ht hsub
        cases h
        exact ⟨t, ht⟩
      · cases h
  | addSource slot' d name source =>
      obtain ⟨t, ht, he⟩ := Option.map_eq_some_iff.mp h
      cases he
      exact ⟨t, ht⟩

/-- Adding entries to one registry adds nothing to the others. -/
theorem registry_extend (ho : ∀ slot, o = .template slot → ∃ t : Template,
    s.templates[slot]? = some t) (added : Registry) (o' : Owner) :
    (s.extend added o).registry o' = s.registry o' ++ if o = o' then added else [] := by
  cases o with
  | engine => cases o' <;> simp [extend, registry, withEngine]
  | template slot =>
      obtain ⟨t, ht⟩ := ho slot rfl
      have hslot := (List.getElem?_eq_some_iff.mp ht).1
      rw [extend_template ht]
      cases o' with
      | engine => simp [registry, put]
      | template slot' =>
          by_cases he : slot = slot'
          · subst he
            simp [registry, put, List.getElem?_set_self hslot, ht]
          · simp [registry, put, List.getElem?_set_ne he, he]

theorem registry_push (s : Session) (t : Template) (o : Owner) :
    (s.push t).registry o =
      s.registry o ++ if o = .template s.templates.length then t.registry else [] := by
  cases o with
  | engine => simp [registry, push]
  | template slot =>
      simp only [registry, push, Owner.template.injEq]
      rcases Nat.lt_trichotomy slot s.templates.length with h | h | h
      · rw [List.getElem?_append_left h, if_neg h.ne, List.append_nil]
      · subst h
        simp
      · have hlength : (s.templates ++ [t]).length ≤ slot := List.length_append ▸ h
        rw [List.getElem?_eq_none hlength, List.getElem?_eq_none h.le, if_neg h.ne']
        rfl

/-- One operation adds to each registry what it registers there. -/
theorem registry_step (hs : s.engine.registry.names.Nodup) (a : Action) (o : Owner) :
    (s.step a).1.registry o = s.registry o ++ s.registered a o := by
  cases hr : s.request? a with
  | some asked =>
      obtain ⟨o', asked⟩ := asked
      rw [step_of_request hr, registered, hr]
      cases asked with
      | error cause => exact (List.append_nil _).symm
      | ok entries =>
          simp only [accept]
          rw [registry_extend fun slot hslot => exists_of_request (hslot ▸ hr)]
          by_cases he : o' = o
          · rw [if_pos he, if_pos he, he]
          · rw [if_neg he, if_neg he]
  | none =>
      cases hc : s.created? a with
      | some r =>
          obtain ⟨t, rfl, hstep⟩ := step_of_created hs hc
          rw [hstep, registry_push, registered, hr, hc]
      | none =>
          obtain ⟨hengine, htemplates⟩ := step_of_neither hr hc
          have hregistered : s.registered a o = [] := by
            rw [registered, hr, hc]
          rw [hregistered, List.append_nil]
          cases o with
          | engine => exact hengine
          | template slot => rw [registry, registry, htemplates]

end

end Session
end Templating
