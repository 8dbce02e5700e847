import Mathlib.Data.List.Forall2
import Templating.Proofs.CallSyntax

/-!
# Calls as matches of a pattern

What is a call can also be told by a pattern: parts that each take some characters of a class,
up to the end of the text. Of the ways in which a pattern matches, the first one counts in the
order in which the parts try theirs, longer or shorter stretches first. `Call.read?_eq_match`
says that calls are read as their pattern matches, and `Call.read?_decodes` that this decodes
exactly the syntax of calls.
-/
namespace Templating.Text

/-- The order in which a part tries the stretches that it could take. -/
inductive Preference where
  | longest
  | shortest

/-- A part of a pattern. -/
inductive Part where
  /-- One given character. -/
  | char (c : Char)
  /-- Any number of characters of a class. -/
  | star (order : Preference) (p : Char → Bool)
  /-- At least one character of a class. -/
  | plus (order : Preference) (p : Char → Bool)

/-- Takes characters of a class from the front so that what is left is matched by the rest. -/
def takeMany {A : Type} (order : Preference) (p : Char → Bool) (rest : List Char → Option A) :
    List Char → Option (List Char × A)
  | [] => (rest []).map fun r => ([], r)
  | c :: s =>
      let stop := (rest (c :: s)).map fun r => ([], r)
      let go := if p c then (takeMany order p rest s).map fun r => (c :: r.1, r.2) else none
      match order with
      | .longest => go.or stop
      | .shortest => stop.or go

/-- What a part takes from the front of a text, and how the rest is matched. -/
def Part.match? {A : Type} (rest : List Char → Option A) :
    Part → List Char → Option (List Char × A)
  | .char c, d :: s => if d = c then (rest s).map fun r => ([d], r) else none
  | .star order p, s => takeMany order p rest s
  | .plus order p, c :: s =>
      if p c then (takeMany order p rest s).map fun r => (c :: r.1, r.2) else none
  | .char _, [] | .plus _ _, [] => none

/-- The stretches that the parts of a pattern take, which make up the whole text. -/
def match? : List Part → List Char → Option (List (List Char))
  | [], [] => some []
  | [], _ :: _ => none
  | part :: parts, s => (part.match? (match? parts) s).map fun r => r.1 :: r.2

/-- Whether a stretch is one that a part may take. -/
def Part.Fits : Part → List Char → Prop
  | .char c, a => a = [c]
  | .star _ p, a => ∀ c ∈ a, p c = true
  | .plus _ p, a => a ≠ [] ∧ ∀ c ∈ a, p c = true

section
variable {A : Type} {order : Preference} {p : Char → Bool} {rest : List Char → Option A}
variable {s a : List Char} {r : A}

theorem eq_nil_of_stop (h : ((rest s).map fun r => (([] : List Char), r)) = some (a, r)) :
    a = [] ∧ rest s = some r := by
  obtain ⟨r', hr, heq⟩ := Option.map_eq_some_iff.mp h
  obtain ⟨rfl, rfl⟩ := Prod.mk.inj heq
  exact ⟨rfl, hr⟩

/-- What is taken is of the class, and what is left is matched by the rest. -/
theorem takeMany_sound (h : takeMany order p rest s = some (a, r)) :
    ∃ t, s = a ++ t ∧ (∀ c ∈ a, p c = true) ∧ rest t = some r := by
  induction s generalizing a with
  | nil =>
      obtain ⟨rfl, hr⟩ := eq_nil_of_stop h
      exact ⟨[], rfl, by simp, hr⟩
  | cons c s ih =>
      have hstop : ((rest (c :: s)).map fun r => (([] : List Char), r)) = some (a, r) →
          ∃ t, c :: s = a ++ t ∧ (∀ c ∈ a, p c = true) ∧ rest t = some r := by
        intro hstop
        obtain ⟨rfl, hr⟩ := eq_nil_of_stop hstop
        exact ⟨c :: s, rfl, by simp, hr⟩
      have hgo : (if p c then (takeMany order p rest s).map fun r => (c :: r.1, r.2) else none) =
          some (a, r) → ∃ t, c :: s = a ++ t ∧ (∀ c ∈ a, p c = true) ∧ rest t = some r := by
        intro hgo
        split at hgo
        · rename_i hc
          obtain ⟨⟨b, r'⟩, hb, heq⟩ := Option.map_eq_some_iff.mp hgo
          obtain ⟨rfl, rfl⟩ := Prod.mk.inj heq
          obtain ⟨t, rfl, hall, hr⟩ := ih hb
          exact ⟨t, rfl, List.forall_mem_cons.mpr ⟨hc, hall⟩, hr⟩
        · cases hgo
      cases order with
      | longest =>
          rcases Option.or_eq_some_iff.mp h with h | ⟨-, h⟩
          · exact hgo h
          · exact hstop h
      | shortest =>
          rcases Option.or_eq_some_iff.mp h with h | ⟨-, h⟩
          · exact hstop h
          · exact hgo h

theorem Part.match?_sound {part : Part} (h : part.match? rest s = some (a, r)) :
    ∃ t, s = a ++ t ∧ part.Fits a ∧ rest t = some r := by
  cases part with
  | char c =>
      cases s with
      | nil => cases h
      | cons d s =>
          simp only [Part.match?] at h
          split at h
          · rename_i hd
            obtain ⟨r', hr, heq⟩ := Option.map_eq_some_iff.mp h
            obtain ⟨rfl, rfl⟩ := Prod.mk.inj heq
            exact ⟨s, rfl, by rw [Fits, hd], hr⟩
          · cases h
  | star order p => exact takeMany_sound h
  | plus order p =>
      cases s with
      | nil => cases h
      | cons c s =>
          simp only [Part.match?] at h
          split at h
          · rename_i hc
            obtain ⟨⟨b, r'⟩, hb, heq⟩ := Option.map_eq_some_iff.mp h
            obtain ⟨rfl, rfl⟩ := Prod.mk.inj heq
            obtain ⟨t, rfl, hall, hr⟩ := takeMany_sound hb
            exact ⟨t, rfl, ⟨by simp, List.forall_mem_cons.mpr ⟨hc, hall⟩⟩, hr⟩
          · cases h

/-- A match cuts the text into stretches that fit the parts. -/
theorem match?_sound {parts : List Part} {ts : List (List Char)} (h : match? parts s = some ts) :
    List.Forall₂ Part.Fits parts ts ∧ s = ts.flatten := by
  induction parts generalizing s ts with
  | nil =>
      cases s with
      | nil =>
          cases h
          exact ⟨.nil, rfl⟩
      | cons c s => cases h
  | cons part parts ih =>
      rw [match?] at h
      obtain ⟨⟨a, us⟩, ha, rfl⟩ := Option.map_eq_some_iff.mp h
      obtain ⟨t, rfl, hfits, ht⟩ := Part.match?_sound ha
      obtain ⟨hrest, rfl⟩ := ih ht
      exact ⟨.cons hfits hrest, rfl⟩

/-- The longest stretch of the class is taken if it can be. -/
theorem takeMany_longest (h : rest (s.dropWhile p) = some r) :
    takeMany .longest p rest s = some (s.takeWhile p, r) := by
  induction s with
  | nil => simpa [takeMany] using h
  | cons c s ih =>
      cases hc : p c with
      | true =>
          rw [List.dropWhile_cons_of_pos hc] at h
          rw [List.takeWhile_cons_of_pos hc]
          simp [takeMany, hc, ih h]
      | false =>
          rw [List.dropWhile_cons_of_neg (by simp [hc])] at h
          rw [List.takeWhile_cons_of_neg (by simp [hc])]
          simp [takeMany, hc, h]

/-- No other stretch is taken if the rest matches nothing that begins with the class. -/
theorem takeMany_of_fails (hf : ∀ c t, p c = true → rest (c :: t) = none) (s : List Char) :
    takeMany order p rest s = (rest (s.dropWhile p)).map fun r => (s.takeWhile p, r) := by
  induction s with
  | nil => rfl
  | cons c s ih =>
      cases hc : p c with
      | true =>
          rw [List.dropWhile_cons_of_pos hc, List.takeWhile_cons_of_pos hc]
          cases order <;> simp [takeMany, hc, hf c s hc, ih, Function.comp_def]
      | false =>
          rw [List.dropWhile_cons_of_neg (by simp [hc]), List.takeWhile_cons_of_neg (by simp [hc])]
          cases order <;> simp [takeMany, hc]

/-- The stretch of the class is left by one character if the rest asks for one more. -/
theorem takeMany_longest_concat {c : Char} {t : List Char} (ha : ∀ x ∈ a, p x = true)
    (hc : p c = true) (ht : ∀ x ∈ t.head?, p x = false) (hnone : rest t = none)
    (hr : rest (c :: t) = some r) : takeMany .longest p rest (a ++ c :: t) = some (a, r) := by
  induction a with
  | nil =>
      have hfail : takeMany .longest p rest t = none := by
        cases t with
        | nil => simp [takeMany, hnone]
        | cons d t =>
            have hd := ht d rfl
            simp [takeMany, hnone, hd]
      simp [takeMany, hc, hfail, hr]
  | cons d a ih =>
      rw [List.forall_mem_cons] at ha
      simp [takeMany, ha.1, ih ha.2]

/-- The empty stretch is taken if it can be and nothing else is tried before. -/
theorem takeMany_shortest (h : rest s = some r) : takeMany .shortest p rest s = some ([], r) := by
  cases s <;> simp [takeMany, h]

end

section
variable {parts : List Part} {ts : List (List Char)} {s u tail : List Char} {c : Char}

theorem match?_star {order : Preference} {p : Char → Bool} {a : List Char}
    (h : takeMany order p (match? parts) s = some (a, ts)) :
    match? (.star order p :: parts) s = some (a :: ts) := by
  rw [match?, Part.match?, h]
  rfl

theorem match?_plus {order : Preference} {p : Char → Bool} {a : List Char} (hc : p c = true)
    (h : takeMany order p (match? parts) s = some (a, ts)) :
    match? (.plus order p :: parts) (c :: s) = some ((c :: a) :: ts) := by
  rw [match?, Part.match?, if_pos hc, h]
  rfl

/-- Blanks up to where the rest begins are taken. -/
theorem match?_blanks (hu : allBlank u = true) (hhead : ∀ c ∈ tail.head?, isBlank c = false)
    (htail : match? parts tail = some ts) :
    match? (.star .longest isBlank :: parts) (u ++ tail) = some (u :: ts) := by
  have hstart : trimStart tail = tail := trimStart_eq_self_iff.mpr hhead
  have hdrop : (u ++ tail).dropWhile isBlank = tail := by
    rw [← trimStart, trimStart_append_of_allBlank hu, hstart]
  have htake : (u ++ tail).takeWhile isBlank = u := by
    have h := List.takeWhile_append_dropWhile (p := isBlank) (l := u ++ tail)
    rw [hdrop] at h
    exact List.append_cancel_right h
  have hmany := takeMany_longest (s := u ++ tail) (hdrop ▸ htail)
  rw [htake] at hmany
  exact match?_star hmany

/-- Blanks are no match where the rest does not begin after them. -/
theorem match?_blanks_eq_none (hu : allBlank u = false)
    (hhead : ∀ c ∈ tail.head?, isBlank c = false)
    (hblank : ∀ c t, isBlank c = true → match? parts (c :: t) = none)
    (hstop : ∀ c ∈ u, isBlank c = false → ∀ t, match? parts (c :: (t ++ tail)) = none) :
    match? (.star .longest isBlank :: parts) (u ++ tail) = none := by
  obtain ⟨d, t, hd, hmem, hnot⟩ := exists_trimStart_cons hu
  have hdrop : (u ++ tail).dropWhile isBlank = d :: (t ++ tail) := by
    rw [← trimStart, trimStart_append hhead, hd, List.cons_append]
  rw [match?, Part.match?, takeMany_of_fails hblank, hdrop, hstop d hmem hnot t]
  rfl

/-- As few characters as possible, when blanks and the rest follow, are those without the
blanks at the end. -/
theorem match?_shortest {p : Char → Bool} (hp : ∀ c ∈ u, p c = true)
    (hhead : ∀ c ∈ tail.head?, isBlank c = false) (htail : match? parts tail = some ts)
    (hblank : ∀ c t, isBlank c = true → match? parts (c :: t) = none)
    (hstop : ∀ c ∈ u, isBlank c = false → ∀ t, match? parts (c :: (t ++ tail)) = none) :
    ∃ b, takeMany .shortest p (match? (.star .longest isBlank :: parts)) (u ++ tail) =
      some (trimEnd u, b :: ts) := by
  induction u with
  | nil =>
      have h := match?_blanks (u := []) rfl hhead htail
      exact ⟨[], takeMany_shortest h⟩
  | cons c u ih =>
      cases hu : allBlank (c :: u) with
      | true =>
          rw [trimEnd_of_allBlank hu]
          exact ⟨c :: u, takeMany_shortest (match?_blanks hu hhead htail)⟩
      | false =>
          rw [List.forall_mem_cons] at hp
          obtain ⟨b, hb⟩ := ih hp.2 fun d hd => hstop d (List.mem_cons_of_mem _ hd)
          have hnone := match?_blanks_eq_none hu hhead hblank hstop
          refine ⟨b, ?_⟩
          rw [List.cons_append] at hnone ⊢
          simp [takeMany, hnone, hp.1, hb, trimEnd_cons_of_not_allBlank hu]

end

end Templating.Text

namespace Templating.Call
open Text

/-- The pattern of calls: the name is as short as possible up to the first parenthesis, and the
arguments are up to a closing one that ends the text, all but for the blanks around. -/
def pattern : List Part :=
  [.star .longest isBlank, .plus .shortest (· != '('), .star .longest isBlank, .char '(',
    .star .longest isBlank, .star .shortest fun _ => true, .star .longest isBlank, .char ')',
    .star .longest isBlank]

/-- The call that a match of the pattern tells. -/
def ofMatch? : List (List Char) → Option Call
  | [_, name, _, _, _, arguments, _, _, _] => some ⟨name, argumentsIn arguments⟩
  | _ => none

variable {call : Call} {before inner blank text : List Char} {arguments : List (List Char)}

theorem match?_char_of_ne {parts : List Part} {c d : Char} (h : d ≠ c) (s : List Char) :
    match? (.char c :: parts) (d :: s) = none := by
  simp [match?, Part.match?, h]

theorem match?_char (parts : List Part) (c : Char) (s : List Char) :
    match? (.char c :: parts) (c :: s) = (match? parts s).map ([c] :: ·) := by
  simp [match?, Part.match?, Function.comp_def]

theorem match?_end (h : allBlank blank = true) :
    match? [.star .longest isBlank] blank = some [blank] := by
  have hhead : ∀ c ∈ ([] : List Char).head?, isBlank c = false := by simp
  have hmatch := match?_blanks h hhead (rfl : match? [] [] = some [])
  rwa [List.append_nil] at hmatch

/-- The closing parenthesis is matched where nothing but blanks follows it. -/
theorem match?_closing (h : allBlank blank = true) :
    match? (pattern.drop 7) (')' :: blank) = some [[')'], blank] := by
  have hchar := match?_char [.star .longest isBlank] ')' blank
  rwa [match?_end h] at hchar

theorem match?_closing_eq_none {c : Char} {t : List Char} (h : isBlank c = true ∨ ')' ∈ t) :
    match? (pattern.drop 7) (c :: t) = none := by
  rw [Option.eq_none_iff_forall_ne_some]
  intro ts hts
  obtain ⟨hfits, htext⟩ := match?_sound hts
  simp only [pattern, List.drop_succ_cons, List.drop_zero, List.forall₂_cons_left_iff,
    List.forall₂_nil_left_iff] at hfits
  obtain ⟨a, _, ha, ⟨b, _, hb, rfl, rfl⟩, rfl⟩ := hfits
  obtain rfl : a = [')'] := ha
  simp only [List.flatten_cons, List.flatten_nil, List.append_nil, List.singleton_append,
    List.cons.injEq] at htext
  obtain ⟨rfl, rfl⟩ := htext
  rcases h with h | h
  · cases h
  · cases hb ')' h

/-- The arguments are matched without the blanks around them. -/
theorem exists_match_arguments (inner : List Char) (h : allBlank blank = true) :
    ∃ a b, match? (pattern.drop 4) (inner ++ ')' :: blank) =
      some [a, trim inner, b, [')'], blank] := by
  have hhead : ∀ c ∈ (')' :: blank).head?, isBlank c = false := by
    simpa using (by decide : isBlank ')' = false)
  obtain ⟨b, hb⟩ := match?_shortest (p := fun _ => true) (u := trimStart inner) (by simp) hhead
    (match?_closing h) (fun c t hc => match?_closing_eq_none (.inl hc))
    fun c _ _ t => match?_closing_eq_none (.inr (by simp))
  have hdrop : (inner ++ ')' :: blank).dropWhile isBlank = trimStart inner ++ ')' :: blank :=
    trimStart_append hhead inner
  have hrest : match? (pattern.drop 5) (trimStart inner ++ ')' :: blank) =
      some [trim inner, b, [')'], blank] := match?_star hb
  exact ⟨_, b, match?_star (takeMany_longest (hdrop ▸ hrest))⟩

theorem exists_match_opening (inner : List Char) (h : allBlank blank = true) :
    ∃ a b, match? (pattern.drop 3) ('(' :: (inner ++ ')' :: blank)) =
      some [['('], a, trim inner, b, [')'], blank] := by
  obtain ⟨a, b, hmatch⟩ := exists_match_arguments inner h
  have hchar := match?_char (pattern.drop 4) '(' (inner ++ ')' :: blank)
  rw [hmatch] at hchar
  exact ⟨a, b, hchar⟩

theorem match?_opening_eq_none {c : Char} (h : c ≠ '(') (s : List Char) :
    match? (pattern.drop 3) (c :: s) = none :=
  match?_char_of_ne h s

theorem not_isBlank_of_mem_opening (s : List Char) :
    ∀ c ∈ ('(' :: s).head?, isBlank c = false := by
  simpa using (by decide : isBlank '(' = false)

/-- The name is matched from its first character on, without the blanks at its end. -/
theorem exists_match_name {x : Char} {u tail : List Char} {ts : List (List Char)} (hx : x ≠ '(')
    (hu : '(' ∉ u) (h : match? (pattern.drop 3) ('(' :: tail) = some ts) :
    ∃ b, match? (pattern.drop 1) (x :: (u ++ '(' :: tail)) =
      some ((x :: trimEnd u) :: b :: ts) := by
  have hfree : ∀ y ∈ u, y ≠ '(' := fun y hy he => hu (he ▸ hy)
  have hblanks : ∀ c t, isBlank c = true → match? (pattern.drop 3) (c :: t) = none := by
    intro c t hc
    refine match?_opening_eq_none ?_ t
    rintro rfl
    cases hc
  have hclass : ∀ y ∈ u, (y != '(') = true := fun y hy => by simpa using hfree y hy
  obtain ⟨b, hb⟩ := match?_shortest hclass (not_isBlank_of_mem_opening tail) h hblanks
    fun y hy _ t => match?_opening_eq_none (hfree y hy) _
  exact ⟨b, match?_plus (by simpa using hx) hb⟩

/-- A text with a call in it is matched with the name and the arguments that are read. -/
theorem exists_match (inner : List Char) (hne : before ≠ []) (hfree : '(' ∉ before)
    (hblank : allBlank blank = true) :
    ∃ a b c d, match? pattern (before ++ '(' :: (inner ++ ')' :: blank)) =
      some [a, nameIn before, b, ['('], c, trim inner, d, [')'], blank] := by
  obtain ⟨c, d, hopening⟩ := exists_match_opening inner hblank
  generalize inner ++ ')' :: blank = tail at hopening
  have hhead := not_isBlank_of_mem_opening tail
  cases hbefore : allBlank before with
  | false =>
      obtain ⟨x, u, hstart, hx, hxb⟩ := exists_trimStart_cons hbefore
      have hu : '(' ∉ u := by
        intro hmem
        have hmem' : '(' ∈ trimStart before := hstart ▸ List.mem_cons_of_mem x hmem
        exact hfree ((List.dropWhile_suffix isBlank).subset hmem')
      obtain ⟨b, hb⟩ := exists_match_name (fun he => hfree (he ▸ hx)) hu hopening
      have hdrop : (before ++ '(' :: tail).dropWhile isBlank = x :: (u ++ '(' :: tail) := by
        rw [← trimStart, trimStart_append hhead, hstart, List.cons_append]
      have hname : nameIn before = x :: trimEnd u := by
        have hxu : allBlank (x :: u) = false := by simp [allBlank, hxb]
        rw [nameIn, hbefore, trim, hstart, trimEnd_cons_of_not_allBlank hxu]
        rfl
      rw [hname]
      exact ⟨_, b, c, d, match?_star (takeMany_longest (hdrop ▸ hb))⟩
  | true =>
      -- The blanks before the name could take all of it, so they leave the last one of it.
      obtain ⟨u, x, rfl⟩ := (List.eq_nil_or_concat' before).resolve_left hne
      rw [List.mem_append, not_or, List.mem_singleton] at hfree
      have hx : isBlank x = true := isBlank_of_mem hbefore (by simp)
      have hu : ∀ y ∈ u, isBlank y = true := fun y hy => isBlank_of_mem hbefore (by simp [hy])
      obtain ⟨b, hb⟩ := exists_match_name (u := []) (Ne.symm hfree.2) (by simp) hopening
      have hnone : match? (pattern.drop 1) ('(' :: tail) = none := by
        simp [pattern, match?, Part.match?]
      have hname : nameIn (u ++ [x]) = [x] := by simp [nameIn, hbefore]
      rw [hname, List.append_assoc, List.singleton_append]
      exact ⟨u, b, c, d, match?_star (takeMany_longest_concat hu hx hhead hnone hb)⟩

/-- Blanks around arguments are blanks around the first and the last of them. -/
theorem WritesArguments.padded (h : WritesArguments arguments inner) (hp : Padded inner text) :
    WritesArguments arguments text := by
  obtain ⟨a, b, ha, hb, rfl⟩ := hp
  induction h generalizing a with
  | none hblank =>
      refine .none ?_
      rw [allBlank_append, allBlank_append, ha, hblank, hb, Bool.and_self, Bool.and_self]
  | last hp => exact .last (hp.pad ha hb)
  | @more _ _ text rest _ hp _ ih =>
      have hfirst := hp.pad ha (rfl : allBlank [] = true)
      have hrest := ih [] rfl
      rw [List.append_nil] at hfirst
      rw [List.nil_append] at hrest
      have hmore := WritesArguments.more hfirst hrest
      rwa [← List.cons_append, ← List.append_assoc, List.append_assoc a] at hmore

theorem argumentsIn_trim (inner : List Char) : argumentsIn (trim inner) = argumentsIn inner := by
  have h := (writesArguments_argumentsIn (trim inner)).padded (padded_trim inner)
  exact (argumentsIn_of_writes h (argumentsIn_ne _) (fun a ha => (of_mem_argumentsIn ha).1)
    fun a ha => (of_mem_argumentsIn ha).2).symm

/-- A match of the pattern cuts a text at its first opening and its last closing parenthesis. -/
theorem exists_read?_of_match {ts : List (List Char)} (h : match? pattern text = some ts) :
    ∃ call, read? text = some call := by
  obtain ⟨hfits, rfl⟩ := match?_sound h
  simp only [pattern, List.forall₂_cons_left_iff, List.forall₂_nil_left_iff] at hfits
  obtain ⟨a, _, ha, ⟨name, _, hname, ⟨b, _, hb, ⟨l, _, hl, ⟨c, _, -, ⟨arguments, _, -, ⟨d, _, -,
    ⟨r, _, hr, ⟨blank, _, hblank, rfl, rfl⟩, rfl⟩, rfl⟩, rfl⟩, rfl⟩, rfl⟩, rfl⟩, rfl⟩, rfl⟩ := hfits
  obtain rfl : l = ['('] := hl
  obtain rfl : r = [')'] := hr
  refine ⟨_, read?_eq_some_iff.mpr
    ⟨a ++ name ++ b, c ++ arguments ++ d, blank, ?_, ?_, ?_, ?_, rfl⟩⟩
  · simp [hname.1]
  · have hopen : isBlank '(' = false := by decide
    have hmem : '(' ∉ name := fun hmem => by simpa using hname.2 '(' hmem
    rw [List.append_assoc, List.mem_append, List.mem_append, not_or, not_or]
    exact ⟨not_mem_of_allBlank (List.all_eq_true.mpr ha) hopen, hmem,
      not_mem_of_allBlank (List.all_eq_true.mpr hb) hopen⟩
  · exact List.all_eq_true.mpr hblank
  · simp

/-- A call is read exactly as its pattern matches. -/
theorem read?_eq_match (text : List Char) : read? text = (match? pattern text).bind ofMatch? := by
  cases hread : read? text with
  | some call =>
      obtain ⟨before, inner, blank, hne, hfree, hblank, rfl, rfl⟩ := read?_eq_some_iff.mp hread
      obtain ⟨a, b, c, d, hmatch⟩ := exists_match inner hne hfree hblank
      rw [hmatch]
      simp [ofMatch?, argumentsIn_trim]
  | none =>
      cases hmatch : match? pattern text with
      | none => rfl
      | some ts =>
          obtain ⟨call, hcall⟩ := exists_read?_of_match hmatch
          rw [hread] at hcall
          cases hcall

/-- Reading calls, which is matching their pattern, decodes exactly their syntax. Every text of
a call is read as that call, whatever is read under a name that is not blank is written so, and
nothing is read of exactly the texts without a name and parentheses around the end. -/
theorem read?_decodes :
    (∀ text, read? text = (match? pattern text).bind ofMatch?) ∧
    (∀ call text, call.Writable → call.Writes text → read? text = some call) ∧
    (∀ call text, read? text = some call → allBlank call.name = false →
      call.Writable ∧ call.Writes text) ∧
    ∀ text, read? text = none ↔
      '(' ∉ text ∨ text.head? = some '(' ∨
        ¬∃ before inner blank, '(' ∉ before ∧ allBlank blank = true ∧
          text = before ++ '(' :: (inner ++ ')' :: blank) :=
  ⟨read?_eq_match, fun _ _ => read?_of_writes, fun _ _ => writes_of_read?,
    fun _ => read?_eq_none_iff⟩

/-- An argument in parentheses and an empty one, with blanks and line feeds around them. -/
theorem read?_arguments_over_lines :
    read? " template ( Header ,\n (x) , )\n".toList =
        some ⟨"template".toList, ["Header".toList, "(x)".toList, []]⟩ ∧
      Writable ⟨"template".toList, ["Header".toList, "(x)".toList, []]⟩ ∧
      Writes ⟨"template".toList, ["Header".toList, "(x)".toList, []]⟩
        " template ( Header ,\n (x) , )\n".toList := by
  have hread : read? " template ( Header ,\n (x) , )\n".toList =
      some ⟨"template".toList, ["Header".toList, "(x)".toList, []]⟩ := by rfl
  have hname : allBlank "template".toList = false := by rfl
  obtain ⟨hcall, htext⟩ := read?_decodes.2.2.1 _ _ hread hname
  exact ⟨read?_decodes.2.1 _ _ hcall htext, hcall, htext⟩

end Templating.Call
