/-!
# Cutting text at characters and prefixes

The cuts that paths, argument lists and format suffixes need: at the first
occurrence of a character, at every occurrence, and after a known beginning.
Joining the parts again gives back the text, which is what each cut's lemma says.
-/
namespace Templating.Text

/-- The part before the first `c` and the part after it, if `c` occurs at all. -/
def cutAt (c : Char) : List Char → Option (List Char × List Char)
  | [] => none
  | d :: s =>
      if d = c then some ([], s)
      else (cutAt c s).map fun p => (d :: p.1, p.2)

theorem cutAt_eq_some {c : Char} {s a b : List Char} (h : cutAt c s = some (a, b)) :
    s = a ++ c :: b ∧ c ∉ a := by
  induction s generalizing a with
  | nil => simp [cutAt] at h
  | cons d s ih =>
      unfold cutAt at h
      split at h
      · rename_i hd
        simp only [Option.some.injEq, Prod.mk.injEq] at h
        obtain ⟨rfl, rfl⟩ := h
        simp [hd]
      · rename_i hd
        obtain ⟨p, hp, hpair⟩ := Option.map_eq_some_iff.mp h
        simp only [Prod.mk.injEq] at hpair
        obtain ⟨rfl, rfl⟩ := hpair
        obtain ⟨hs, hn⟩ := ih hp
        exact ⟨by rw [hs, List.cons_append], by simp [hn, Ne.symm hd]⟩

theorem cutAt_eq_none {c : Char} {s : List Char} : cutAt c s = none ↔ c ∉ s := by
  induction s with
  | nil => simp [cutAt]
  | cons d s ih =>
      unfold cutAt
      split
      · rename_i hd
        simp [hd]
      · rename_i hd
        simp [ih, Ne.symm hd]

/-- The stretches between all occurrences of `c`, the empty ones included; a text
without `c` is its own only stretch. -/
def splitAt (c : Char) : List Char → List (List Char)
  | [] => [[]]
  | d :: s =>
      if d = c then [] :: splitAt c s
      else match splitAt c s with
        | [] => [[d]]
        | p :: ps => (d :: p) :: ps

/-- Stretches put together again with `c` between them. -/
def joinWith (c : Char) : List (List Char) → List Char
  | [] => []
  | [p] => p
  | p :: q :: ps => p ++ c :: joinWith c (q :: ps)

theorem splitAt_ne_nil (c : Char) (s : List Char) : splitAt c s ≠ [] := by
  cases s with
  | nil => simp [splitAt]
  | cons d s =>
      unfold splitAt
      split
      · simp
      · split <;> simp

theorem joinWith_splitAt (c : Char) (s : List Char) : joinWith c (splitAt c s) = s := by
  induction s with
  | nil => rfl
  | cons d s ih =>
      have hne := splitAt_ne_nil c s
      unfold splitAt
      split
      · rename_i hd
        cases hs : splitAt c s with
        | nil => exact (hne hs).elim
        | cons p ps =>
            rw [hs] at ih
            simp [joinWith, ih, hd]
      · cases hs : splitAt c s with
        | nil => exact (hne hs).elim
        | cons p ps =>
            rw [hs] at ih
            cases ps with
            | nil => simpa [joinWith] using ih
            | cons q ps => simpa [joinWith] using ih

/-- What follows a known beginning `p`, if the text begins with it. -/
def after? : List Char → List Char → Option (List Char)
  | [], s => some s
  | _ :: _, [] => none
  | a :: p, b :: s => if a = b then after? p s else none

theorem after?_eq_some_iff {p s r : List Char} : after? p s = some r ↔ s = p ++ r := by
  induction p generalizing s with
  | nil => simp [after?, eq_comm]
  | cons a p ih =>
      cases s with
      | nil => simp [after?]
      | cons b s =>
          unfold after?
          split
          · rename_i h
            simp [ih, h]
          · rename_i h
            simp [Ne.symm h]

/-- Behind a beginning of a text no character is cut in two. -/
theorem exists_pos_of_append {text p rest : String} (h : text = p ++ rest) :
    ∃ cut : text.Pos, cut.offset.byteIdx = p.utf8ByteSize ∧ (text.sliceFrom cut).copy = rest := by
  have hvalid : p.rawEndPos.IsValid text :=
    String.Pos.Raw.isValid_iff_exists_append.mpr ⟨p, rest, h, rfl⟩
  have hsplits : (⟨_, hvalid⟩ : text.Pos).Splits p rest := ⟨h, rfl⟩
  exact ⟨⟨_, hvalid⟩, String.byteIdx_rawEndPos, hsplits.copy_sliceFrom_eq⟩

/-- Whether `p` stands anywhere in the text. -/
def occurs (p : List Char) : List Char → Bool
  | [] => p.isEmpty
  | c :: s => p.isPrefixOf (c :: s) || occurs p s

end Templating.Text
