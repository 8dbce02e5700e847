import Templating.Proofs.Calls

/-!
# The syntax of calls

A call is written as a name and, in parentheses, arguments with commas between them, and
blanks may stand around each. Reading undoes writing (`Call.read?_of_writes`), whatever is read
under a name that is not blank was written so (`Call.writes_of_read?`), and
`Call.read?_eq_none_iff` tells the texts that are no call at all.
-/
namespace Templating
open Text

/-- Blanks put around a stretch of text. -/
def Text.Padded (s text : List Char) : Prop :=
  ∃ a b, allBlank a = true ∧ allBlank b = true ∧ text = a ++ s ++ b

namespace Call

/-- What a call may consist of. Nothing has outer blanks, the name is not empty and holds no
opening parenthesis, and no argument holds a comma. One empty argument is written like none. -/
structure Writable (call : Call) : Prop where
  name_ne : call.name ≠ []
  name_trimmed : trim call.name = call.name
  name_free : '(' ∉ call.name
  arguments_ne : call.arguments ≠ [[]]
  arguments_trimmed : ∀ a ∈ call.arguments, trim a = a
  arguments_free : ∀ a ∈ call.arguments, ',' ∉ a

/-- The texts of a list of arguments. -/
inductive WritesArguments : List (List Char) → List Char → Prop
  | none {blank : List Char} : allBlank blank = true → WritesArguments [] blank
  | last {a text : List Char} : Padded a text → WritesArguments [a] text
  | more {a b text rest : List Char} {arguments : List (List Char)} :
      Padded a text → WritesArguments (b :: arguments) rest →
      WritesArguments (a :: b :: arguments) (text ++ ',' :: rest)

/-- The texts of a call. -/
inductive Writes (call : Call) : List Char → Prop
  | intro {before inner blank : List Char} :
      Padded call.name before → WritesArguments call.arguments inner → allBlank blank = true →
      Writes call (before ++ '(' :: (inner ++ ')' :: blank))

end Call

namespace Text
variable {s a b text : List Char} {c : Char}

/-- Trimming takes away the blanks that were put around. -/
theorem trim_of_padded (h : Padded s text) (hs : trim s = s) : trim text = s := by
  obtain ⟨a, b, ha, hb, rfl⟩ := h
  rw [trim, List.append_assoc, trimStart_append_of_allBlank ha]
  rcases s with _ | ⟨c, s⟩
  · rw [List.nil_append, trimStart_of_allBlank hb]
    rfl
  · have hc := (trim_eq_self_iff.mp hs).1 c rfl
    have hstart : trimStart (c :: s ++ b) = c :: s ++ b := by
      rw [trimStart_eq_self_iff]
      simpa using hc
    have hend : trimEnd (c :: s) = c :: s := by
      rw [trimEnd_eq_self_iff]
      exact (trim_eq_self_iff.mp hs).2
    rw [hstart, trimEnd_append_of_allBlank hb, hend]

/-- Every text is what is left of it by trimming, with blanks around. -/
theorem padded_trim (s : List Char) : Padded (trim s) s := by
  obtain ⟨b, hb, hs⟩ := exists_eq_trimEnd_append (trimStart s)
  refine ⟨s.takeWhile isBlank, b, ?_, hb, ?_⟩
  · rw [allBlank, List.all_eq_true]
    exact fun c hc => List.mem_takeWhile_imp hc
  · calc s = s.takeWhile isBlank ++ trimStart s := List.takeWhile_append_dropWhile.symm
      _ = s.takeWhile isBlank ++ (trim s ++ b) := by rw [trim, ← hs]
      _ = s.takeWhile isBlank ++ trim s ++ b := (List.append_assoc _ _ _).symm

theorem allBlank_of_trim_eq_nil (h : trim s = []) : allBlank s = true := by
  obtain ⟨a, b, ha, hb, hs⟩ := padded_trim s
  rw [h, List.append_nil] at hs
  rw [hs, allBlank_append, ha, hb, Bool.and_self]

/-- Blanks put around what has blanks around it are some more of them. -/
theorem Padded.pad (h : Padded s text) (ha : allBlank a = true) (hb : allBlank b = true) :
    Padded s (a ++ text ++ b) := by
  obtain ⟨a', b', ha', hb', rfl⟩ := h
  refine ⟨a ++ a', b' ++ b, ?_, ?_, by simp⟩
  · rw [allBlank_append, ha, ha', Bool.and_self]
  · rw [allBlank_append, hb, hb', Bool.and_self]

theorem Padded.not_mem (h : Padded s text) (hs : c ∉ s) (hc : isBlank c = false) : c ∉ text := by
  obtain ⟨a, b, ha, hb, rfl⟩ := h
  simp [not_mem_of_allBlank ha hc, not_mem_of_allBlank hb hc, hs]

theorem Padded.not_allBlank (h : Padded s text) (hs : trim s = s) (hne : s ≠ []) :
    allBlank text = false := by
  obtain ⟨a, b, -, -, rfl⟩ := h
  simp [allBlank_append, not_allBlank_of_trim_eq_self hs hne]

theorem Padded.ne_nil (h : Padded s text) (hne : s ≠ []) : text ≠ [] := by
  obtain ⟨a, b, -, -, rfl⟩ := h
  simp [hne]

end Text

namespace Call
variable {call : Call} {text inner : List Char} {arguments : List (List Char)}

/-- Nothing is read of a text without an opening parenthesis, with one at its very front, or
with none that closes after the first one and before nothing but blanks. -/
theorem read?_eq_none_iff : read? text = none ↔
    '(' ∉ text ∨ text.head? = some '(' ∨
      ¬∃ before inner blank, '(' ∉ before ∧ allBlank blank = true ∧
        text = before ++ '(' :: (inner ++ ')' :: blank) := by
  constructor
  · intro h
    by_contra hnot
    simp only [not_or, not_not] at hnot
    obtain ⟨-, hhead, before, inner, blank, hfree, hblank, rfl⟩ := hnot
    have hne : before ≠ [] := by
      rintro rfl
      exact hhead rfl
    have hread := read?_eq_some_iff.mpr ⟨before, inner, blank, hne, hfree, hblank, rfl, rfl⟩
    rw [h] at hread
    cases hread
  · intro h
    rw [Option.eq_none_iff_forall_ne_some]
    intro call hcall
    obtain ⟨before, inner, blank, hne, hfree, hblank, rfl, -⟩ := read?_eq_some_iff.mp hcall
    rcases h with h | h | h
    · exact h (by simp)
    · obtain ⟨c, before, rfl⟩ := List.exists_cons_of_ne_nil hne
      obtain rfl : c = '(' := by simpa using h
      exact hfree List.mem_cons_self
    · exact h ⟨before, inner, blank, hfree, hblank, rfl⟩

/-- The stretches between the commas are the texts of the arguments. -/
theorem writesArguments_joinWith {ps : List (List Char)} (hne : ps ≠ []) :
    WritesArguments (ps.map trim) (joinWith ',' ps) := by
  induction ps with
  | nil => exact (hne rfl).elim
  | cons p ps ih =>
      cases ps with
      | nil => exact .last (padded_trim p)
      | cons q ps => exact .more (padded_trim p) (ih (by simp))

theorem map_trim_splitAt (h : WritesArguments arguments inner) (hne : arguments ≠ [])
    (ht : ∀ a ∈ arguments, trim a = a) (hc : ∀ a ∈ arguments, ',' ∉ a) :
    (splitAt ',' inner).map trim = arguments := by
  have hcomma : isBlank ',' = false := by decide
  induction h with
  | none => exact (hne rfl).elim
  | @last a text hp =>
      have ha := ht a List.mem_cons_self
      have hfree := hp.not_mem (hc a List.mem_cons_self) hcomma
      rw [splitAt_of_not_mem hfree, List.map_singleton, trim_of_padded hp ha]
  | @more a b text rest arguments hp _ ih =>
      rw [List.forall_mem_cons] at ht hc
      have hfree := hp.not_mem hc.1 hcomma
      rw [splitAt_append hfree, List.map_cons, trim_of_padded hp ht.1, ih (by simp) ht.2 hc.2]

/-- Reading the arguments undoes writing them. -/
theorem argumentsIn_of_writes (h : WritesArguments arguments inner) (hne : arguments ≠ [[]])
    (ht : ∀ a ∈ arguments, trim a = a) (hc : ∀ a ∈ arguments, ',' ∉ a) :
    argumentsIn inner = arguments := by
  have hsplit := map_trim_splitAt h
  cases h with
  | none hblank => rw [argumentsIn, hblank, if_pos rfl]
  | @last a text hp =>
      have ha : a ≠ [] := fun ha => hne (by rw [ha])
      rw [argumentsIn, hp.not_allBlank (ht a List.mem_cons_self) ha]
      exact hsplit (by simp) ht hc
  | @more a b text rest arguments hp _ =>
      have hblank : allBlank (text ++ ',' :: rest) = false := by
        simp [allBlank, (by decide : isBlank ',' = false)]
      rw [argumentsIn, hblank]
      exact hsplit (by simp) ht hc

/-- Arguments that are read are written so. -/
theorem writesArguments_argumentsIn (inner : List Char) :
    WritesArguments (argumentsIn inner) inner := by
  rw [argumentsIn]
  split
  · rename_i hblank
    exact .none hblank
  · have h := writesArguments_joinWith (splitAt_ne_nil ',' inner)
    rwa [joinWith_splitAt] at h

theorem argumentsIn_ne (inner : List Char) : argumentsIn inner ≠ [[]] := by
  intro h
  rw [argumentsIn] at h
  split at h
  · cases h
  · rename_i hblank
    have hjoin := joinWith_splitAt ',' inner
    obtain ⟨p, hp, htrim⟩ := List.map_eq_singleton_iff.mp h
    rw [hp, joinWith] at hjoin
    exact hblank (allBlank_of_trim_eq_nil (hjoin ▸ htrim))

theorem of_mem_argumentsIn {a : List Char} (h : a ∈ argumentsIn inner) :
    trim a = a ∧ ',' ∉ a := by
  rw [argumentsIn] at h
  split at h
  · cases h
  · obtain ⟨p, hp, rfl⟩ := List.mem_map.mp h
    exact ⟨trim_trim p, fun hc => not_mem_of_mem_splitAt hp (trim_subset p hc)⟩

/-- Reading undoes writing. -/
theorem read?_of_writes (hcall : call.Writable) (h : call.Writes text) :
    read? text = some call := by
  obtain ⟨hbefore, hinner, hblank⟩ := h
  rename_i before inner blank
  have hname : nameIn before = call.name := by
    rw [nameIn, hbefore.not_allBlank hcall.name_trimmed hcall.name_ne]
    exact trim_of_padded hbefore hcall.name_trimmed
  have hfree := hbefore.not_mem hcall.name_free (by decide)
  have harguments := argumentsIn_of_writes hinner hcall.arguments_ne hcall.arguments_trimmed
    hcall.arguments_free
  refine read?_eq_some_iff.mpr
    ⟨before, inner, blank, hbefore.ne_nil hcall.name_ne, hfree, hblank, rfl, ?_⟩
  rw [hname, harguments]

/-- A call is read from the text that it is written as, without any blanks. -/
theorem read?_write {name : List Char} {arguments : List (List Char)} (hne : name ≠ [])
    (hn : trim name = name) (hp : '(' ∉ name) (he : arguments ≠ [[]])
    (hc : ∀ a ∈ arguments, ',' ∉ a) (ht : ∀ a ∈ arguments, trim a = a) :
    read? (write name arguments) = some ⟨name, arguments⟩ := by
  have harguments : WritesArguments arguments (joinWith ',' arguments) := by
    by_cases hnil : arguments = []
    · subst hnil
      exact .none rfl
    · have h := writesArguments_joinWith hnil
      rwa [List.map_congr_left ht, List.map_id'] at h
  have hname : Padded name name := ⟨[], [], rfl, rfl, by simp⟩
  exact read?_of_writes ⟨hne, hn, hp, he, ht, hc⟩ (.intro hname harguments rfl)

/-- What is read under a name that is not blank was written. -/
theorem writes_of_read? (h : read? text = some call) (hname : allBlank call.name = false) :
    call.Writable ∧ call.Writes text := by
  obtain ⟨before, inner, blank, -, hfree, hblank, rfl, rfl⟩ := read?_eq_some_iff.mp h
  have htrim := nameIn_of_not_blank hname
  have hne : nameIn before ≠ [] := by
    intro hnil
    simp [hnil, allBlank] at hname
  refine ⟨⟨hne, ?_, ?_, argumentsIn_ne inner, ?_, ?_⟩, .intro ?_ ?_ hblank⟩
  · rw [htrim, trim_trim]
  · exact fun hmem => hfree (nameIn_subset before hmem)
  · exact fun a ha => (of_mem_argumentsIn ha).1
  · exact fun a ha => (of_mem_argumentsIn ha).2
  · rw [htrim]
    exact padded_trim before
  · exact writesArguments_argumentsIn inner

/-- The text of a call may lose its outer blanks. -/
theorem Writes.trim (h : call.Writes text) (hcall : call.Writable) :
    call.Writes (Text.trim text) := by
  obtain ⟨⟨a, b, ha, hb, rfl⟩, hinner, hblank⟩ := h
  rename_i inner blank
  have hhead : ∀ c ∈ (call.name ++ b).head?, isBlank c = false := by
    obtain ⟨c, name, hname⟩ := List.exists_cons_of_ne_nil hcall.name_ne
    simpa [hname] using (trim_eq_self_iff.mp hcall.name_trimmed).1
  have hcore := trim_closed (by simp [hcall.name_ne]) hhead inner
  rw [trim_of_padded ⟨a, blank, ha, hblank, by simp⟩ hcore]
  exact .intro ⟨[], b, rfl, hb, rfl⟩ hinner rfl

/-- A call with a name that is not blank is read as well without the outer blanks. -/
theorem read?_trim (h : read? text = some call) (hname : allBlank call.name = false) :
    read? (Text.trim text) = some call := by
  obtain ⟨hcall, hwrites⟩ := writes_of_read? h hname
  exact read?_of_writes hcall (hwrites.trim hcall)

end Call

end Templating
