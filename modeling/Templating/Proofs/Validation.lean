import Templating.Proofs.Wording

/-!
# What building a dialect checks

A wording is usable if its tags are told apart, and if its words can be told from blanks, from
the tags and from each other. `Wording.build_exact` says that just the usable wordings are
built. The keywords of what is built and the kinds of command that have a keyword then stand
for each other.
-/
namespace Templating
open Text

theorem Text.occurs_eq_true_iff {p s : List Char} : occurs p s = true ↔ p <:+: s := by
  induction s with
  | nil => rw [occurs, List.isEmpty_iff, List.infix_nil]
  | cons c s ih =>
      rw [occurs, Bool.or_eq_true, ih, List.isPrefixOf_iff_prefix, List.infix_cons_iff]

theorem Text.occurs_eq_false_iff {p s : List Char} : occurs p s = false ↔ ¬p <:+: s := by
  rw [← occurs_eq_true_iff, Bool.not_eq_true]

theorem Text.allBlank_eq_false_iff {s : List Char} :
    allBlank s = false ↔ ∃ c ∈ s, isBlank c = false := by
  simp [allBlank]

namespace Wording
variable {w : Wording}

/-- What is asked of a wording. -/
structure Usable (w : Wording) : Prop where
  tags_sound : w.tags.Sound
  words_not_blank : ∀ k ∈ w.words, ∃ c ∈ k.toList, isBlank c = false
  words_free : ∀ k ∈ w.words, ¬w.tags.opening <:+: k.toList ∧ ¬w.tags.closing <:+: k.toList
  words_nodup : w.words.Nodup

theorem flaw?_eq_none_iff : w.flaw? = none ↔ w.Usable := by
  rw [flaw?, Option.or_eq_none_iff, tagFlaw?_eq_none_iff, wordFlaw?_eq_none_iff]
  simp only [allBlank_eq_false_iff, occurs_eq_false_iff]
  constructor
  · rintro ⟨htags, hwords, hnodup⟩
    exact ⟨htags, fun k hk => (hwords k hk).1, fun k hk => (hwords k hk).2, hnodup⟩
  · intro h
    exact ⟨h.tags_sound, fun k hk => ⟨h.words_not_blank k hk, h.words_free k hk⟩, h.words_nodup⟩

/-- A dialect is what building its wording gives. -/
theorem build_eq_ok_iff {d : Dialect} : w.build = .ok d ↔ d.wording = w := by
  constructor
  · intro h
    unfold build at h
    split at h
    · cases h
    · rw [← Except.ok.inj h]
  · rintro rfl
    exact build_of_flawless d.flawless

end Wording

namespace Dialect
variable (d : Dialect)

theorem keyword?_eq_some_iff {kind : CommandKind} {name : String} :
    d.keyword? kind = some name ↔ d.kind? name = some kind :=
  ⟨fun h => d.kind?_of_mem (mem_of_keyword? h), fun h => d.keyword?_of_mem (mem_of_kind? h)⟩

/-- Literals, fields and the general else are not written with a keyword of their own. -/
theorem isSome_keyword?_iff {kind : CommandKind} :
    (d.keyword? kind).isSome = true ↔ kind ≠ .literal ∧ kind ≠ .field ∧ kind ≠ .anyElse := by
  rcases kind with _ | _ | ⟨⟨_ | _⟩ | _⟩ | ⟨_ | _⟩ | ⟨⟨_ | _⟩ | _⟩ | _ | _ | _ <;>
    simp [keyword?, Wording.keywords]

theorem kind?_selfWord : d.kind? d.wording.selfWord = none := by
  rw [Option.eq_none_iff_forall_ne_some]
  intro kind h
  have hdisjoint := (List.nodup_append.mp d.words_nodup).2.2
  exact hdisjoint _ (List.mem_map_of_mem (mem_of_kind? h)) _ List.mem_cons_self rfl

end Dialect

/-- Building accepts the usable wordings and no others, and a dialect is built from its own
wording only. In a dialect each kind of command is found again under its keyword, and a name
stands for a kind only if it is the keyword of it. All kinds have a keyword but literals, fields
and the general else, and the self word stands for none. -/
theorem Wording.build_exact (w : Wording) (d : Dialect) :
    ((∃ d', w.build = .ok d') ↔ w.Usable) ∧
      (w.build = .ok d ↔ d.wording = w) ∧
      d.wording.build = .ok d ∧
      (∀ kind, (d.keyword? kind).isSome = true ↔
        kind ≠ .literal ∧ kind ≠ .field ∧ kind ≠ .anyElse) ∧
      (∀ kind name, d.keyword? kind = some name ↔ d.kind? name = some kind) ∧
      d.kind? d.wording.selfWord = none := by
  have husable : (∃ d', w.build = .ok d') ↔ w.Usable := by
    rw [← flaw?_eq_none_iff]
    constructor
    · rintro ⟨d', h⟩
      obtain rfl := build_eq_ok_iff.mp h
      exact d'.flawless
    · exact fun h => ⟨⟨w, h⟩, build_of_flawless h⟩
  exact ⟨husable, build_eq_ok_iff, build_of_flawless d.flawless, fun _ => d.isSome_keyword?_iff,
    fun _ _ => d.keyword?_eq_some_iff, d.kind?_selfWord⟩

end Templating
