import Templating.Engine
import Templating.Proofs.Lockstep

/-!
# Registering subtemplates

A registry counts in rendering by what it answers to a name. One more entry answers to a
name that had no answer before, so that two runs, one without and one with it, keep in
step until a command of the template itself names the entry; the run without it fails
there for want of that name. The order of registration shows in no answer.
-/
namespace Templating
open Outcome

namespace Template

@[simp] theorem tree_withRegistry (t : Template) (r : Registry) :
    (t.withRegistry r).tree = t.tree := rfl

@[simp] theorem registry_withRegistry (t : Template) (r : Registry) :
    (t.withRegistry r).registry = r := rfl

variable {t : Template} {name : String}

theorem add_of_free (h : memberOf? name t.registry = none) (sub : Template) :
    t.add name sub = .ok (t.withRegistry (t.registry ++ [(name, sub)])) := by
  simp [add, Registry.add?, h]

theorem add_of_taken {old : Template} (h : memberOf? name t.registry = some old)
    (sub : Template) : t.add name sub = .error (.duplicateSubtemplate name) := by
  simp [add, Registry.add?, h]

/-- Registrations one by one. One under a name that is taken fails and leaves the template
as it is. -/
def addEach (t : Template) (subs : Registry) : Template :=
  subs.foldl (fun t entry => (t.add entry.1 entry.2).toOption.getD t) t

theorem addEach_cons_of_free {entry : String × Template}
    (h : memberOf? entry.1 t.registry = none) (subs : Registry) :
    t.addEach (entry :: subs) = (t.withRegistry (t.registry ++ [entry])).addEach subs := by
  simp [addEach, add_of_free h, Except.toOption]

theorem addEach_cons_of_taken {entry : String × Template} {old : Template}
    (h : memberOf? entry.1 t.registry = some old) (subs : Registry) :
    t.addEach (entry :: subs) = t.addEach subs := by
  simp [addEach, add_of_taken h, Except.toOption]

theorem tree_addEach (t : Template) (subs : Registry) : (t.addEach subs).tree = t.tree := by
  induction subs generalizing t with
  | nil => rfl
  | cons entry subs ih =>
      cases hm : memberOf? entry.1 t.registry with
      | none => rw [addEach_cons_of_free hm, ih, tree_withRegistry]
      | some old => rw [addEach_cons_of_taken hm, ih]

/-- What is registered answers to the names that had no answer before. -/
theorem memberOf?_addEach (t : Template) (subs : Registry) (name : String) :
    memberOf? name (t.addEach subs).registry =
      (memberOf? name t.registry).or (memberOf? name subs) := by
  induction subs generalizing t with
  | nil => simp [addEach, memberOf?]
  | cons entry subs ih =>
      rw [memberOf?]
      cases hm : memberOf? entry.1 t.registry with
      | none =>
          rw [addEach_cons_of_free hm, ih, registry_withRegistry, memberOf?_append, Option.or_assoc]
          simp only [memberOf?]
          split <;> rfl
      | some old =>
          rw [addEach_cons_of_taken hm, ih]
          split
          · rename_i h
            rw [← h, hm, Option.some_or, Option.some_or]
          · rfl

/-- Registrations under distinct names that are free all succeed. -/
theorem addAll_of_free {subs : Registry} (hn : (subs.map Prod.fst).Nodup)
    (hfree : ∀ name ∈ subs.map Prod.fst, memberOf? name t.registry = none) :
    t.addAll subs = .ok (t.addEach subs) := by
  induction subs generalizing t with
  | nil => rfl
  | cons entry subs ih =>
      rw [List.map_cons, List.nodup_cons] at hn
      rw [List.map_cons, List.forall_mem_cons] at hfree
      have hrest : ∀ name ∈ subs.map Prod.fst,
          memberOf? name (t.withRegistry (t.registry ++ [entry])).registry = none := by
        intro name hname
        have hne : entry.1 ≠ name := fun he => hn.1 (he ▸ hname)
        simp [memberOf?_append, hfree.2 name hname, memberOf?, hne]
      rw [addAll, add_of_free hfree.1, addEach_cons_of_free hfree.1]
      exact ih hn.2 hrest

end Template

/-- Outcomes alike, but for a fault of a missing name in the first. -/
def Pairing.unlessMissing (name : String) : Pairing where
  scopes := Eq
  outcomes x y := x = .error (.failure (.unknownSubtemplate name)) ∨ x = y
  same _ := .inr rfl
  andThen := by
    rintro x y x' y' (rfl | rfl) h
    · exact .inl rfl
    · cases x with
      | error e => exact .inr rfl
      | ok s =>
          rcases h with rfl | rfl
          · exact .inl rfl
          · exact .inr rfl

/-- An entry under a free name answers where there was no answer. -/
theorem Registry.call_append (i : Interpretation) {r : Registry} {name : String}
    (hfree : memberOf? name r = none) (sub : Template) (n : String) (v : Value) :
    (Pairing.unlessMissing name).outcomes (Registry.call i r n v)
      (Registry.call i (r ++ [(name, sub)]) n v) := by
  by_cases hn : name = n
  · subst hn
    exact .inl (by simp [call, hfree])
  · exact .inr (by simp [call, memberOf?_append, memberOf?, hn])

/-- Templates of one tree whose registries give the same answers are rendered alike. -/
theorem Interpretation.render_congr (i : Interpretation) {t u : Template}
    (htree : t.tree = u.tree)
    (h : ∀ name, memberOf? name t.registry = memberOf? name u.registry) (model : Value) :
    i.render t model = i.render u model := by
  have hcall : Registry.call i t.registry = Registry.call i u.registry := by
    funext name v
    simp only [Registry.call, h]
  rw [i.render_eq_denote_tree, i.render_eq_denote_tree, htree, hcall]

/-- A subtemplate under a free name changes no rendering, but one that fails for want of
that name. Several subtemplates under distinct names can be registered in any order: where
their names are free every registration succeeds, and whatever they are, the order shows
in no rendering. -/
theorem Template.registration_conservative (t : Template) :
    (∀ {name : String} (sub : Template), memberOf? name t.registry = none →
      ∃ u, t.add name sub = .ok u ∧ ∀ (i : Interpretation) (model : Value),
        i.render t model ≠ .error (.failure (.unknownSubtemplate name)) →
        i.render u model = i.render t model) ∧
      ∀ {subs subs' : Registry}, subs.Perm subs' → (subs.map Prod.fst).Nodup →
        ((∀ name ∈ subs.map Prod.fst, memberOf? name t.registry = none) →
          t.addAll subs = .ok (t.addEach subs)) ∧
        ∀ (i : Interpretation) (model : Value),
          i.render (t.addEach subs) model = i.render (t.addEach subs') model := by
  refine ⟨fun {name} sub hfree => ⟨_, add_of_free hfree sub, fun i model hne => ?_⟩,
    fun hperm hn => ⟨addAll_of_free hn, fun i model => ?_⟩⟩
  · have hcall := Registry.call_append i hfree sub
    have hstep : (Pairing.unlessMissing name).outcomes (i.render t model)
        (i.render (t.withRegistry (t.registry ++ [(name, sub)])) model) :=
      (Pairing.unlessMissing name).render_related (tree_withRegistry t _).symm
        (fun c _ => .of_same_scope rfl hcall fun _ => .inr rfl) rfl
    exact (hstep.resolve_left hne).symm
  · refine i.render_congr ?_ (fun name => ?_) model
    · rw [tree_addEach, tree_addEach]
    · rw [memberOf?_addEach, memberOf?_addEach, memberOf?_eq_of_perm hperm hn]

/-- A template inserts a note, and would insert a draft for which it has no entry yet. -/
theorem Template.register_draft_and_footer :
    let c := Command.mk default
    let note := ofTree "" (.group [.leaf (c (.field "text"))])
    let draft := ofTree "" (.group [.leaf (c (.subtemplate "note" "text"))])
    let t : Template := .mk "" (.group [.leaf (c (.subtemplate "note" "memo")),
      .block (c (.opening (.choice .truth) "isDraft")) [.leaf (c (.subtemplate "draft" "memo"))]
        none]) [("note", note)]
    let memo : Value := .object [("text", .string "hi")]
    let model : Value := .object [("isDraft", .bool false), ("memo", memo)]
    let subs : Registry := [("draft", draft), ("footer", note)]
    let subs' : Registry := [("footer", note), ("draft", draft)]
    (memberOf? "draft" t.registry = none ∧
        Interpretation.render {} t model ≠ .error (.failure (.unknownSubtemplate "draft"))) ∧
      (∃ u, t.add "draft" draft = .ok u ∧
        Interpretation.render {} u model = Interpretation.render {} t model) ∧
      (subs.Perm subs' ∧ (subs.map Prod.fst).Nodup ∧
        ∀ name ∈ subs.map Prod.fst, memberOf? name t.registry = none) ∧
      t.addAll subs = .ok (t.addEach subs) ∧
      Interpretation.render {} (t.addEach subs) model =
        Interpretation.render {} (t.addEach subs') model := by
  intro c note draft t memo model subs subs'
  have hnote : Registry.call {} t.registry "note" memo = .ok "hi" := by
    change note.denote {} memo = _
    rw [denote_eq]
    rfl
  have hrender : Interpretation.render {} t model = .ok "hi" := by
    rw [Interpretation.render_eq_denote_tree]
    change andThen (Registry.call {} t.registry "note" memo) _ = _
    rw [hnote]
    rfl
  have hne : Interpretation.render {} t model ≠
      .error (.failure (.unknownSubtemplate "draft")) := by
    rw [hrender]
    nofun
  have hperm : subs.Perm subs' := .swap _ _ _
  have hn : (subs.map Prod.fst).Nodup := by decide +kernel
  have hfree : ∀ name ∈ subs.map Prod.fst, memberOf? name t.registry = none := by
    simp [subs, t, registry, memberOf?]
  obtain ⟨hadd, horder⟩ := t.registration_conservative
  obtain ⟨u, hu, hsame⟩ := hadd draft (hfree "draft" (by simp [subs]))
  obtain ⟨hall, hrenders⟩ := horder hperm hn
  exact ⟨⟨hfree "draft" (by simp [subs]), hne⟩, ⟨u, hu, hsame {} model hne⟩,
    ⟨hperm, hn, hfree⟩, hall hfree, hrenders {} model⟩
end Templating
