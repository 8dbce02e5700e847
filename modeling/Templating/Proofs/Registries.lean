import Mathlib.Data.List.Find
import Templating.Proofs.Registration

/-!
# The names of a registry

A name is registered once. Registering several entries in turn stops at the first name
that is taken by then, and what is registered until there is the longest stretch at the
beginning whose names are new and all different. An engine keeps that stretch; a template
to which an engine's entries are attached keeps all of them or none.
-/
namespace Templating

namespace Registry
variable {r entries : Registry} {name : String}

def names (r : Registry) : List String := r.map Prod.fst

theorem memberOf?_eq_none_iff : memberOf? name r = none ↔ name ∉ r.names := by
  induction r with
  | nil => simp [memberOf?, names]
  | cons entry r ih =>
      have hnames : names (entry :: r) = entry.1 :: names r := rfl
      rw [memberOf?, hnames, List.mem_cons, not_or]
      by_cases h : entry.1 = name
      · simp [h]
      · rw [if_neg h, ih]
        exact ⟨fun hn => ⟨fun he => h he.symm, hn⟩, And.right⟩

theorem names_append (r entries : Registry) : names (r ++ entries) = r.names ++ entries.names :=
  List.map_append

/-- Entries that can be registered in turn. -/
structure Accepts (r entries : Registry) : Prop where
  distinct : entries.names.Nodup
  new : ∀ name ∈ entries.names, name ∉ r.names

theorem accepts_nil (r : Registry) : r.Accepts [] := ⟨.nil, List.forall_mem_nil _⟩

theorem accepts_cons_iff {entry : String × Template} :
    r.Accepts (entry :: entries) ↔ entry.1 ∉ r.names ∧ Accepts (r ++ [entry]) entries := by
  have hnames : names (entry :: entries) = entry.1 :: entries.names := rfl
  have hafter : names (r ++ [entry]) = r.names ++ [entry.1] := names_append _ _
  constructor
  · rintro ⟨hd, hn⟩
    rw [hnames, List.nodup_cons] at hd
    rw [hnames, List.forall_mem_cons] at hn
    refine ⟨hn.1, hd.2, fun name hname => ?_⟩
    rw [hafter, List.mem_append, List.mem_singleton, not_or]
    exact ⟨hn.2 name hname, fun he => hd.1 (he ▸ hname)⟩
  · rintro ⟨hentry, hd, hn⟩
    simp only [hafter, List.mem_append, List.mem_singleton, not_or] at hn
    refine ⟨hnames ▸ List.nodup_cons.mpr ⟨fun hm => (hn _ hm).2 rfl, hd⟩, ?_⟩
    rw [hnames, List.forall_mem_cons]
    exact ⟨hentry, fun name hname => (hn name hname).1⟩

theorem Accepts.nodup_append (h : r.Accepts entries) (hr : r.names.Nodup) :
    (names (r ++ entries)).Nodup := by
  rw [names_append, List.nodup_append]
  refine ⟨hr, h.distinct, ?_⟩
  rintro name hname other hother rfl
  exact h.new name hother hname

/-- The longest stretch at the beginning of the entries that can be registered in turn. -/
def longest (r : Registry) : Registry → Registry
  | [] => []
  | entry :: rest => if entry.1 ∈ r.names then [] else entry :: longest (r ++ [entry]) rest

/-- The entry at which registering in turn stops. -/
def refused? (r : Registry) : Registry → Option (String × Template)
  | [] => none
  | entry :: rest => if entry.1 ∈ r.names then some entry else refused? (r ++ [entry]) rest

theorem accepts_longest (r entries : Registry) : r.Accepts (r.longest entries) := by
  induction entries generalizing r with
  | nil => exact r.accepts_nil
  | cons entry rest ih =>
      rw [longest]
      split
      · exact r.accepts_nil
      · rename_i h
        exact accepts_cons_iff.mpr ⟨h, ih _⟩

theorem prefix_longest {p : Registry} (h : p <+: entries) (ha : r.Accepts p) :
    p <+: r.longest entries := by
  induction p generalizing r entries with
  | nil => exact List.nil_prefix
  | cons entry p ih =>
      obtain ⟨rest, rfl⟩ := h
      obtain ⟨hentry, hp⟩ := accepts_cons_iff.mp ha
      rw [List.cons_append, longest, if_neg hentry, List.cons_prefix_cons]
      exact ⟨rfl, ih (List.prefix_append p rest) hp⟩

/-- What is registered ends with the entries, or before the one that is refused. -/
theorem eq_longest_append (r entries : Registry) : ∃ rest,
    entries = r.longest entries ++ rest ∧ r.refused? entries = rest.head? := by
  induction entries generalizing r with
  | nil => exact ⟨[], rfl, rfl⟩
  | cons entry entries ih =>
      rw [longest, refused?]
      split
      · exact ⟨entry :: entries, rfl, rfl⟩
      · obtain ⟨rest, he, hr⟩ := ih (r ++ [entry])
        exact ⟨rest, by rw [List.cons_append, ← he], hr⟩

theorem longest_isPrefix (r entries : Registry) : r.longest entries <+: entries := by
  obtain ⟨rest, he, -⟩ := r.eq_longest_append entries
  exact ⟨rest, he.symm⟩

theorem longest_of_accepts (h : r.Accepts entries) : r.longest entries = entries :=
  (r.longest_isPrefix entries).eq_of_length_le (prefix_longest List.prefix_rfl h).length_le

theorem refused?_of_accepts (h : r.Accepts entries) : r.refused? entries = none := by
  obtain ⟨rest, he, hr⟩ := r.eq_longest_append entries
  rw [longest_of_accepts h] at he
  rw [hr, List.self_eq_append_right.mp he]
  rfl

theorem refused?_eq_none_iff : r.refused? entries = none ↔ r.Accepts entries := by
  refine ⟨fun h => ?_, refused?_of_accepts⟩
  obtain ⟨rest, he, hr⟩ := r.eq_longest_append entries
  rw [h, eq_comm, List.head?_eq_none_iff] at hr
  rw [hr, List.append_nil] at he
  exact he ▸ r.accepts_longest entries

theorem longest_singleton (r : Registry) (name : String) (t : Template) :
    r.longest [(name, t)] = if name ∈ r.names then [] else [(name, t)] := by
  rw [longest, longest]

theorem refused?_singleton (r : Registry) (name : String) (t : Template) :
    r.refused? [(name, t)] = if name ∈ r.names then some (name, t) else none := by
  rw [refused?, refused?]

/-- Among entries that differ, the one that is refused is the first whose name is taken. -/
theorem refused?_of_nodup (h : entries.names.Nodup) :
    r.refused? entries = entries.find? fun entry => entry.1 ∈ r.names := by
  induction entries generalizing r with
  | nil => rfl
  | cons entry rest ih =>
      have hnames : names (entry :: rest) = entry.1 :: names rest := rfl
      rw [hnames, List.nodup_cons] at h
      rw [refused?, List.find?_cons]
      by_cases he : entry.1 ∈ r.names
      · simp [he]
      · rw [if_neg he, ih h.2, decide_eq_false he]
        refine List.find?_congr fun other hother => decide_eq_decide.mpr ?_
        have hne : other.1 ≠ entry.1 := fun hn => h.1 (hn ▸ List.mem_map_of_mem hother)
        rw [names_append, List.mem_append]
        simp [names, hne]

/-- Registering one entry: it fails exactly when the name is taken. -/
theorem add?_eq (r : Registry) (name : String) (t : Template) :
    r.add? name t = if name ∈ r.names then none else some (r ++ [(name, t)]) := by
  rw [add?]
  cases hm : memberOf? name r with
  | none => rw [if_neg (memberOf?_eq_none_iff.mp hm)]
  | some old =>
      have htaken : name ∈ r.names := List.mem_map_of_mem (mem_of_memberOf? hm)
      rw [if_pos htaken]

end Registry

open Registry

theorem Template.add_eq (t : Template) (name : String) (sub : Template) :
    t.add name sub = if name ∈ t.registry.names then .error (.duplicateSubtemplate name)
      else .ok (t.withRegistry (t.registry ++ [(name, sub)])) := by
  rw [add, add?_eq]
  by_cases h : name ∈ t.registry.names
  · rw [if_pos h, if_pos h]
  · rw [if_neg h, if_neg h]

theorem Engine.share_eq (e : Engine) (name : String) (t : Template) :
    e.share name t = if name ∈ e.registry.names then .error (.duplicateSubtemplate name)
      else .ok { e with registry := e.registry ++ [(name, t)] } := by
  rw [share, add?_eq]
  by_cases h : name ∈ e.registry.names
  · rw [if_pos h, if_pos h]
  · rw [if_neg h, if_neg h]

/-- A template registers several entries in turn, or fails at the one that is refused. -/
theorem Template.addAll_eq (t : Template) (entries : Registry) :
    t.addAll entries = match t.registry.refused? entries with
      | some entry => .error (.duplicateSubtemplate entry.1)
      | none => .ok (t.withRegistry (t.registry ++ entries)) := by
  induction entries generalizing t with
  | nil =>
      rw [addAll, refused?, List.append_nil]
      cases t
      rfl
  | cons entry rest ih =>
      rw [addAll, refused?, add_eq]
      by_cases h : entry.1 ∈ t.registry.names
      · rw [if_pos h, if_pos h]
      · rw [if_neg h, if_neg h]
        dsimp only
        rw [ih, registry_withRegistry, List.append_assoc]
        rfl

/-- An engine registers several entries in turn up to the one that is refused. -/
theorem Engine.shareAll_eq (e : Engine) (entries : Registry) :
    e.shareAll entries = ({ e with registry := e.registry ++ e.registry.longest entries },
      (e.registry.refused? entries).map fun entry => .duplicateSubtemplate entry.1) := by
  induction entries generalizing e with
  | nil =>
      rw [shareAll, longest, refused?, List.append_nil]
      rfl
  | cons entry rest ih =>
      rw [shareAll, longest, refused?, share_eq]
      by_cases h : entry.1 ∈ e.registry.names
      · rw [if_pos h, if_pos h, if_pos h, List.append_nil]
        rfl
      · rw [if_neg h, if_neg h, if_neg h]
        dsimp only
        rw [ih, List.append_assoc]
        rfl

theorem Template.registry_of_parse {d : Dialect} {source : String} {t : Template}
    (h : Template.parse d source = .ok t) : t.registry = [] := by
  rw [Template.parse] at h
  cases hp : d.parse source with
  | error cause =>
      rw [hp] at h
      cases h
  | ok tree =>
      rw [hp] at h
      cases h
      rfl

/-- A template in whose registry, and in those below it, no name stands twice. -/
inductive Template.NamesDistinct : Template → Prop
  | intro {t : Template} : t.registry.names.Nodup →
      (∀ entry ∈ t.registry, NamesDistinct entry.2) → NamesDistinct t

/-- A registry in which, and in those of whose entries, no name stands twice. -/
structure Registry.NamesDistinct (r : Registry) : Prop where
  nodup : r.names.Nodup
  below : ∀ entry ∈ r, entry.2.NamesDistinct

theorem Registry.namesDistinct_nil : Registry.NamesDistinct [] := ⟨.nil, List.forall_mem_nil _⟩

theorem Template.namesDistinct_of_registry {t : Template} (h : t.registry.NamesDistinct) :
    t.NamesDistinct :=
  .intro h.nodup h.below

theorem Template.NamesDistinct.registry {t : Template} (h : t.NamesDistinct) :
    t.registry.NamesDistinct := by
  cases h with
  | intro hn hb => exact ⟨hn, hb⟩

theorem Registry.NamesDistinct.append {r entries : Registry} (h : r.NamesDistinct)
    (ha : r.Accepts entries) (hb : ∀ entry ∈ entries, entry.2.NamesDistinct) :
    (r ++ entries : Registry).NamesDistinct :=
  ⟨ha.nodup_append h.nodup, List.forall_mem_append.mpr ⟨h.below, hb⟩⟩

end Templating
