import Mathlib.Data.List.TakeWhile
import Templating.Recognition

/-!
# Reading calls

A call is written as its name and, in parentheses, its arguments with commas
between them. `Call.read?_eq_some_iff` says where reading finds the two: the name
before the first opening parenthesis, and the arguments between it and a closing
one that only blanks follow. `Dialect.recognize_command_iff` says which of the
calls that are read are commands.
-/
namespace Templating.Text

theorem trimStart_eq_self_iff {s : List Char} :
    trimStart s = s ↔ ∀ c ∈ s.head?, isBlank c = false := by
  cases s with
  | nil => simp [trimStart]
  | cons c s =>
      rw [trimStart, List.dropWhile_eq_self_iff]
      simp

theorem trimEnd_eq_self_iff {s : List Char} :
    trimEnd s = s ↔ ∀ c ∈ s.getLast?, isBlank c = false := by
  rw [← List.head?_reverse, ← trimStart_eq_self_iff, trimEnd, trimStart]
  exact List.reverse_eq_iff

theorem length_trimStart_le (s : List Char) : (trimStart s).length ≤ s.length :=
  (List.dropWhile_suffix _).length_le

theorem length_trimEnd_le (s : List Char) : (trimEnd s).length ≤ s.length := by
  have h := length_trimStart_le s.reverse
  rw [List.length_reverse] at h
  rw [trimEnd, List.length_reverse]
  exact h

/-- A text keeps its ends under trimming exactly when it is blank at neither. -/
theorem trim_eq_self_iff {s : List Char} :
    trim s = s ↔ (∀ c ∈ s.head?, isBlank c = false) ∧ ∀ c ∈ s.getLast?, isBlank c = false := by
  rw [← trimStart_eq_self_iff, ← trimEnd_eq_self_iff]
  constructor
  · intro h
    have hs : trimStart s = s := by
      apply (List.dropWhile_suffix _).eq_of_length
      apply Nat.le_antisymm (length_trimStart_le s)
      calc s.length = (trim s).length := by rw [h]
        _ ≤ (trimStart s).length := length_trimEnd_le _
    rw [trim, hs] at h
    exact ⟨hs, h⟩
  · rintro ⟨hs, he⟩
    rw [trim, hs, he]

/-- A text without blanks has none at its ends. -/
theorem trim_of_not_isBlank {s : List Char} (h : ∀ c ∈ s, isBlank c = false) : trim s = s :=
  trim_eq_self_iff.mpr
    ⟨fun c hc => h c (List.mem_of_mem_head? hc), fun c hc => h c (List.mem_of_getLast? hc)⟩

theorem not_isBlank_of_mem_head?_trimStart {s : List Char} {c : Char}
    (h : c ∈ (trimStart s).head?) : isBlank c = false := by
  have hhead := List.head?_dropWhile_not isBlank s
  rw [Option.mem_def, trimStart] at h
  simpa [h] using hhead

theorem trimEnd_isPrefix (s : List Char) : trimEnd s <+: s := by
  have h := List.reverse_prefix.mpr (List.dropWhile_suffix isBlank (l := s.reverse))
  rwa [List.reverse_reverse] at h

theorem trim_subset (s : List Char) : trim s ⊆ s :=
  fun _ hc => (List.dropWhile_suffix _).subset ((trimEnd_isPrefix _).subset hc)

/-- What is trimmed has no more outer blanks. -/
theorem trim_trim (s : List Char) : trim (trim s) = trim s := by
  rw [trim_eq_self_iff]
  constructor
  · intro c hc
    obtain ⟨r, hr⟩ := trimEnd_isPrefix (trimStart s)
    apply not_isBlank_of_mem_head?_trimStart (s := s)
    rw [Option.mem_def] at hc ⊢
    rw [← hr, List.head?_append]
    change (trim s).head?.or r.head? = some c
    rw [hc, Option.some_or]
  · intro c hc
    rw [trim, trimEnd, List.getLast?_reverse] at hc
    exact not_isBlank_of_mem_head?_trimStart hc

theorem not_allBlank_of_trim_eq_self {s : List Char} (h : trim s = s) (hs : s ≠ []) :
    allBlank s = false := by
  obtain ⟨c, s, rfl⟩ := List.exists_cons_of_ne_nil hs
  have hc := (trim_eq_self_iff.mp h).1 c rfl
  simp [allBlank, hc]

section
variable {s a b : List Char} {c : Char}

theorem isBlank_of_mem (h : allBlank s = true) (hc : c ∈ s) : isBlank c = true :=
  List.all_eq_true.mp h c hc

theorem allBlank_append (a b : List Char) : allBlank (a ++ b) = (allBlank a && allBlank b) :=
  List.all_append

theorem not_mem_of_allBlank (h : allBlank s = true) (hc : isBlank c = false) : c ∉ s := by
  intro hmem
  rw [isBlank_of_mem h hmem] at hc
  cases hc

theorem trimStart_append_of_allBlank (h : allBlank a = true) (s : List Char) :
    trimStart (a ++ s) = trimStart s := by
  rw [trimStart, List.dropWhile_append_of_pos (fun c hc => isBlank_of_mem h hc), trimStart]

theorem trimStart_of_allBlank (h : allBlank s = true) : trimStart s = [] := by
  simpa [trimStart] using trimStart_append_of_allBlank h []

theorem trimEnd_append_of_allBlank (h : allBlank b = true) (s : List Char) :
    trimEnd (s ++ b) = trimEnd s := by
  have hrev : allBlank b.reverse = true := by simpa [allBlank] using h
  have hstart := trimStart_append_of_allBlank hrev s.reverse
  rw [trimStart, trimStart] at hstart
  rw [trimEnd, List.reverse_append, hstart, trimEnd]

/-- Only blanks are trimmed off the end. -/
theorem exists_eq_trimEnd_append (s : List Char) :
    ∃ b, allBlank b = true ∧ s = trimEnd s ++ b := by
  refine ⟨(s.reverse.takeWhile isBlank).reverse, ?_, ?_⟩
  · rw [allBlank, List.all_eq_true]
    exact fun c hc => List.mem_takeWhile_imp (List.mem_reverse.mp hc)
  · rw [trimEnd, ← List.reverse_append, List.takeWhile_append_dropWhile, List.reverse_reverse]

theorem trimEnd_of_allBlank (h : allBlank s = true) : trimEnd s = [] :=
  trimEnd_append_of_allBlank h []

theorem trimEnd_cons_of_not_allBlank (h : allBlank (c :: s) = false) :
    trimEnd (c :: s) = c :: trimEnd s := by
  rw [trimEnd, List.reverse_cons, List.dropWhile_append]
  split
  · rename_i hempty
    have hs : allBlank s = true := by
      simpa [allBlank] using hempty
    have hc : isBlank c = false := by
      rw [allBlank, List.all_cons] at h
      rw [allBlank] at hs
      simpa [hs] using h
    simp [hc, trimEnd_of_allBlank hs]
  · rw [List.reverse_append, trimEnd]
    rfl

/-- The first character of a text that is not blank, and what follows it. -/
theorem exists_trimStart_cons (h : allBlank s = false) :
    ∃ d t, trimStart s = d :: t ∧ d ∈ s ∧ isBlank d = false := by
  have hne : trimStart s ≠ [] := by
    intro hnil
    rw [trimStart, List.dropWhile_eq_nil_iff] at hnil
    rw [allBlank, List.all_eq_true.mpr hnil] at h
    cases h
  obtain ⟨d, t, hd⟩ := List.exists_cons_of_ne_nil hne
  refine ⟨d, t, hd, ?_, ?_⟩
  · exact (List.dropWhile_suffix isBlank).subset (hd ▸ List.mem_cons_self : d ∈ trimStart s)
  · exact not_isBlank_of_mem_head?_trimStart (by rw [hd]; rfl)

/-- Where a text that begins without a blank follows, only the blanks before it are trimmed. -/
theorem trimStart_append {t : List Char} (h : ∀ c ∈ t.head?, isBlank c = false) (s : List Char) :
    trimStart (s ++ t) = trimStart s ++ t := by
  cases hs : allBlank s with
  | true =>
      rw [trimStart_append_of_allBlank hs, trimStart_of_allBlank hs, trimStart_eq_self_iff.mpr h]
      rfl
  | false =>
      obtain ⟨d, u, hd, -⟩ := exists_trimStart_cons hs
      rw [trimStart] at hd
      rw [trimStart, List.dropWhile_append, hd, trimStart, hd]
      rfl

end

theorem cutAt_append {c : Char} {a : List Char} (h : c ∉ a) (b : List Char) :
    cutAt c (a ++ c :: b) = some (a, b) := by
  induction a with
  | nil => simp [cutAt]
  | cons d a ih =>
      rw [List.mem_cons, not_or] at h
      simp [cutAt, Ne.symm h.1, ih h.2]

theorem splitAt_of_not_mem {c : Char} {p : List Char} (h : c ∉ p) : splitAt c p = [p] := by
  induction p with
  | nil => rfl
  | cons d p ih =>
      rw [List.mem_cons, not_or] at h
      simp [splitAt, Ne.symm h.1, ih h.2]

theorem splitAt_append_cons (c : Char) (a b : List Char) :
    splitAt c (a ++ c :: b) = splitAt c a ++ splitAt c b := by
  induction a with
  | nil => simp [splitAt]
  | cons d a ih =>
      rw [List.cons_append, splitAt, splitAt]
      split
      · rw [ih, List.cons_append]
      · obtain ⟨p, ps, hs⟩ := List.exists_cons_of_ne_nil (splitAt_ne_nil c a)
        rw [ih, hs]
        rfl

theorem splitAt_append {c : Char} {p : List Char} (h : c ∉ p) (s : List Char) :
    splitAt c (p ++ c :: s) = p :: splitAt c s := by
  rw [splitAt_append_cons, splitAt_of_not_mem h, List.singleton_append]

theorem not_mem_of_mem_splitAt {c : Char} {s p : List Char} (h : p ∈ splitAt c s) : c ∉ p := by
  induction s generalizing p with
  | nil =>
      rw [splitAt, List.mem_singleton] at h
      simp [h]
  | cons d s ih =>
      rw [splitAt] at h
      split at h
      · rcases List.mem_cons.mp h with rfl | h
        · simp
        · exact ih h
      · rename_i hd
        obtain ⟨q, qs, hs⟩ := List.exists_cons_of_ne_nil (splitAt_ne_nil c s)
        rw [hs] at h ih
        rcases List.mem_cons.mp h with rfl | h
        · have hq := ih List.mem_cons_self
          simp [hq, Ne.symm hd]
        · exact ih (List.mem_cons_of_mem _ h)

end Templating.Text

namespace Templating.Call
open Text

/-- The text of a call. -/
def write (name : List Char) (arguments : List (List Char)) : List Char :=
  name ++ '(' :: (joinWith ',' arguments ++ [')'])

/-- Reading finds the name before the first opening parenthesis and the arguments between it
and a closing one that only blanks follow. -/
theorem read?_eq_some_iff {text : List Char} {call : Call} : read? text = some call ↔
    ∃ before inner blank, before ≠ [] ∧ '(' ∉ before ∧ allBlank blank = true ∧
      text = before ++ '(' :: (inner ++ ')' :: blank) ∧
      call = ⟨nameIn before, argumentsIn inner⟩ := by
  constructor
  · intro h
    unfold read? at h
    split at h
    · cases h
    · cases h
    · rename_i c before after hcut
      obtain ⟨htext, hfree⟩ := cutAt_eq_some hcut
      split at h
      · rename_i inner hend
        obtain ⟨blank, hblank, hafter⟩ := exists_eq_trimEnd_append after
        rw [← List.reverse_reverse (trimEnd after), hend] at hafter
        refine ⟨c :: before, inner.reverse, blank, by simp, hfree, hblank, ?_, ?_⟩
        · rw [htext, hafter]
          simp
        · exact (Option.some.inj h).symm
      · cases h
  · rintro ⟨before, inner, blank, hne, hfree, hblank, rfl, rfl⟩
    have hend : trimEnd (inner ++ ')' :: blank) = inner ++ [')'] := by
      have hclosing : trimEnd (inner ++ [')']) = inner ++ [')'] := by
        rw [trimEnd_eq_self_iff]
        simpa using (by decide : isBlank ')' = false)
      rw [← List.singleton_append, ← List.append_assoc, trimEnd_append_of_allBlank hblank, hclosing]
    obtain ⟨c, before, rfl⟩ := List.exists_cons_of_ne_nil hne
    rw [read?, cutAt_append hfree]
    simp only [hend, List.reverse_append, List.reverse_singleton, List.singleton_append,
      List.reverse_reverse]

/-- Behind a closing parenthesis, and before what does not begin with a blank, nothing is
trimmed. -/
theorem trim_closed {before : List Char} (hne : before ≠ [])
    (hhead : ∀ c ∈ before.head?, isBlank c = false) (inner : List Char) :
    trim (before ++ '(' :: (inner ++ [')'])) = before ++ '(' :: (inner ++ [')']) := by
  have hlast : (before ++ '(' :: (inner ++ [')'])).getLast? = some ')' := by
    rw [← List.cons_append, ← List.append_assoc]
    exact List.getLast?_concat
  obtain ⟨c, before, rfl⟩ := List.exists_cons_of_ne_nil hne
  rw [trim_eq_self_iff, hlast]
  refine ⟨?_, by simpa using (by decide : isBlank ')' = false)⟩
  simpa using hhead

/-- The text of a name and of what follows it in parentheses has no outer blanks. -/
theorem trim_parenthesized {name : List Char} (hne : name ≠ []) (ht : trim name = name)
    (inner : List Char) :
    trim (name ++ '(' :: (inner ++ [')'])) = name ++ '(' :: (inner ++ [')']) :=
  trim_closed hne (trim_eq_self_iff.mp ht).1 inner

theorem trim_write {name : List Char} (hne : name ≠ []) (ht : trim name = name)
    (arguments : List (List Char)) : trim (write name arguments) = write name arguments :=
  trim_parenthesized hne ht (joinWith ',' arguments)

/-- What stands in the parentheses makes no difference to the name that is read. -/
theorem read?_parenthesized {name : List Char} (hne : name ≠ []) (hn : trim name = name)
    (hp : '(' ∉ name) (inner : List Char) :
    read? (name ++ '(' :: (inner ++ [')'])) = some ⟨name, argumentsIn inner⟩ := by
  have hname : nameIn name = name := by
    rw [nameIn, not_allBlank_of_trim_eq_self hn hne, hn]
    rfl
  refine read?_eq_some_iff.mpr ⟨name, inner, [], hne, hp, rfl, rfl, ?_⟩
  rw [hname]

theorem nameIn_subset (s : List Char) : nameIn s ⊆ s := by
  rw [nameIn]
  split
  · exact List.drop_subset _ s
  · exact trim_subset s

/-- A name that is read and not blank is the text before the parenthesis, trimmed. -/
theorem nameIn_of_not_blank {before : List Char} (h : allBlank (nameIn before) = false) :
    nameIn before = trim before := by
  rw [nameIn] at h ⊢
  split
  · rename_i hblank
    rw [if_pos hblank] at h
    rw [allBlank, List.all_eq_false] at h
    obtain ⟨c, hc, hcb⟩ := h
    exact (hcb (isBlank_of_mem hblank (List.mem_of_mem_drop hc))).elim
  · rfl

/-- A name that is read holds no parenthesis, and no outer blanks unless it is blank. -/
theorem name_of_read? {text : List Char} {call : Call} (h : read? text = some call) :
    '(' ∉ call.name ∧ (allBlank call.name = false → trim call.name = call.name) := by
  obtain ⟨before, inner, blank, -, hp, -, -, rfl⟩ := read?_eq_some_iff.mp h
  refine ⟨fun hm => hp (nameIn_subset before hm), fun hb => ?_⟩
  rw [nameIn_of_not_blank hb, trim_trim]

end Templating.Call

namespace Templating.Dialect
open Text

/-- What makes a sentence between tags a command: it is the path of a field, or a call of
a keyword with the arguments that its command takes, none of them blank. -/
theorem recognize_command_iff (d : Dialect) {s : Sentence} (hs : s.isCommand = true)
    {directive : Directive} :
    d.recognize s = .ok ⟨s, directive⟩ ↔
      (trim s.text.toList ≠ [] ∧ Call.read? (trim s.text.toList) = none ∧
          directive = .field (d.path (trim s.text.toList))) ∨
        ∃ call kind, Call.read? (trim s.text.toList) = some call ∧
          d.kind? (String.ofList call.name) = some kind ∧
          (∀ a ∈ call.arguments, a ≠ []) ∧ d.directive? kind call.arguments = some directive := by
  simp only [recognize, hs, Bool.not_true, Bool.false_eq_true, ↓reduceIte]
  generalize trim s.text.toList = text
  cases hcall : Call.read? text with
  | none => cases text <;> simp [eq_comm]
  | some call =>
      have hne : text ≠ [] := by
        rintro rfl
        cases hcall
      cases hkind : d.kind? (String.ofList call.name) with
      | none => simp [hne, hkind]
      | some kind =>
          cases hd : d.directive? kind call.arguments with
          | none => simp [hne, hkind, hd]
          | some found =>
              -- The arguments that are not blank are counted, and have to be all of them.
              by_cases hall : ∀ a ∈ call.arguments, ¬a = []
              · simpa [hne, hkind, hd, if_pos hall] using fun _ => hall
              · simp [hne, hkind, hd, hall]

end Templating.Dialect
