import Mathlib.Data.List.Nodup
import Templating.Proofs.Marks

/-!
# Wordings without flaws

What building a dialect has checked: its tags are told apart at every place of a
text, and its words are not blank, hold neither tag and are all different. So each
keyword is found again as the kind of command that it names.
-/
namespace Templating
open Text

theorem Wording.tagFlaw?_eq_none_iff {w : Wording} : w.tagFlaw? = none ↔ w.tags.Sound := by
  have hb : w.tags.opening = w.beginTag.toList := rfl
  have he : w.tags.closing = w.endTag.toList := rfl
  simp only [tagFlaw?, ← hb, ← he]
  constructor
  · intro h
    split at h
    · simp at h
    · split at h
      · simp at h
      · split at h
        · simp at h
        · rename_i hne _ hp
          simp only [Bool.or_eq_true, List.isEmpty_iff, List.isPrefixOf_iff_prefix,
            not_or] at hne hp
          exact ⟨hne.1, hne.2, hp.1, hp.2⟩
  · intro h
    have heq : w.tags.opening ≠ w.tags.closing := by
      intro heq
      exact h.opening_not_prefix (heq ▸ List.prefix_rfl)
    simp [h.opening_ne_nil, h.closing_ne_nil, heq, List.isPrefixOf_iff_prefix,
      h.opening_not_prefix, h.closing_not_prefix]

/-- Words that may be told from blanks, tags and each other. -/
theorem wordFlaw?_eq_none_iff {t : Tags} {ks : List String} :
    wordFlaw? t ks = none ↔
      (∀ k ∈ ks, allBlank k.toList = false ∧ occurs t.opening k.toList = false ∧
        occurs t.closing k.toList = false) ∧ ks.Nodup := by
  induction ks with
  | nil => simp [wordFlaw?]
  | cons k ks ih =>
      rw [wordFlaw?, List.forall_mem_cons, List.nodup_cons]
      split
      · rename_i hblank
        simp [hblank]
      · split
        · rename_i htag
          rcases Bool.or_eq_true_iff.mp htag with htag | htag <;> simp [htag]
        · split <;> simp_all

theorem Wording.build_of_flawless {w : Wording} (h : w.flaw? = none) : w.build = .ok ⟨w, h⟩ := by
  unfold build
  split
  · rename_i flaw hf
    rw [h] at hf
    cases hf
  · rfl

namespace Dialect
variable (d : Dialect)

theorem tags_sound : d.tags.Sound :=
  Wording.tagFlaw?_eq_none_iff.mp (Option.or_eq_none_iff.mp d.flawless).1

theorem words_nodup : d.wording.words.Nodup :=
  (wordFlaw?_eq_none_iff.mp (Option.or_eq_none_iff.mp d.flawless).2).2

theorem keyword_not_blank {k : String} {kind : CommandKind}
    (h : (k, kind) ∈ d.wording.keywords) : allBlank k.toList = false :=
  ((wordFlaw?_eq_none_iff.mp (Option.or_eq_none_iff.mp d.flawless).2).1 k
    (List.mem_append_left _ (List.mem_map_of_mem h))).1

end Dialect

/-- An entry of a table whose keys are all different is the one found under its key. -/
theorem find?_of_mem_of_nodup {A B : Type} [BEq B] [LawfulBEq B] {table : List A} {key : A → B}
    {entry : A} (h : (table.map key).Nodup) (hm : entry ∈ table) :
    table.find? (fun e => key e == key entry) = some entry := by
  induction table with
  | nil => simp at hm
  | cons e table ih =>
      rw [List.map_cons, List.nodup_cons] at h
      rw [List.find?_cons]
      rcases List.mem_cons.mp hm with rfl | hm
      · simp
      · have hne : key e ≠ key entry := fun he => h.1 (he ▸ List.mem_map_of_mem hm)
        rw [beq_eq_false_iff_ne.mpr hne]
        exact ih h.2 hm

theorem Wording.kinds_nodup (w : Wording) : (w.keywords.map Prod.snd).Nodup := by simp [keywords]

theorem Dialect.kind?_of_mem (d : Dialect) {k : String} {kind : CommandKind}
    (h : (k, kind) ∈ d.wording.keywords) : d.kind? k = some kind := by
  have hn := (List.nodup_append.mp d.words_nodup).1
  rw [kind?, find?_of_mem_of_nodup hn h]
  rfl

theorem Dialect.keyword?_of_mem (d : Dialect) {k : String} {kind : CommandKind}
    (h : (k, kind) ∈ d.wording.keywords) : d.keyword? kind = some k := by
  rw [keyword?, find?_of_mem_of_nodup d.wording.kinds_nodup h]
  rfl

theorem Dialect.mem_of_kind? {d : Dialect} {name : String} {kind : CommandKind}
    (h : d.kind? name = some kind) : (name, kind) ∈ d.wording.keywords := by
  obtain ⟨e, he, rfl⟩ := Option.map_eq_some_iff.mp h
  obtain rfl : e.1 = name := by simpa using List.find?_some he
  exact List.mem_of_find?_eq_some he

theorem Dialect.mem_of_keyword? {d : Dialect} {name : String} {kind : CommandKind}
    (h : d.keyword? kind = some name) : (name, kind) ∈ d.wording.keywords := by
  obtain ⟨e, he, rfl⟩ := Option.map_eq_some_iff.mp h
  obtain rfl : e.2 = kind := by simpa using List.find?_some he
  exact List.mem_of_find?_eq_some he

/-- No two keywords name one kind of command. -/
theorem Wording.keyword_unique {w : Wording} {k k' : String} {kind : CommandKind}
    (h : (k, kind) ∈ w.keywords) (h' : (k', kind) ∈ w.keywords) : k = k' :=
  congrArg Prod.fst (List.inj_on_of_nodup_map w.kinds_nodup h h' rfl)

end Templating
