import Templating.Proofs.Places

/-!
# The link that owns a path

Every path is read from one link of the chain of a scope: of the links whose path it is, or
begins with before a dot, the one with the longest path, and of equals the innermost. The
root takes part with the length zero. `Scope.resolve_of_owner` says so of any chain, whatever
the paths of its links, and that nothing but the rest of the path after the owner's is asked
of the extractor. The rest begins at a boundary between two characters of the path.
-/
namespace Templating
open Text ModelPath

/-- Whether a path is the link's own or goes on after it with a dot. -/
def Link.Owns (l : Link) (path : String) : Prop :=
  path = l.path ∨ ∃ rest, path = l.path ++ "." ++ rest

/-- The links of a scope from the inside out. The root is the outermost, and has no path. -/
def Scope.chain (s : Scope) : List Link := s.links ++ [⟨"", s.root⟩]

/-- The link of the chain that a path is read from, between the links inside it and those
around it. It owns the path or is the root; its path is longer than that of every owner
inside it, and not shorter than that of an owner around it. -/
structure Scope.OwnedBy (s : Scope) (path : String) (inner : List Link) (l : Link)
    (outer : List Link) : Prop where
  chain_eq : s.chain = inner ++ l :: outer
  owns : outer ≠ [] → l.Owns path
  longer : ∀ k ∈ inner, k.Owns path → k.path.utf8ByteSize < l.path.utf8ByteSize
  longest : ∀ k ∈ outer, k.Owns path → k.path.utf8ByteSize ≤ l.path.utf8ByteSize

/-- What is asked of the extractor for the rest of a path, if anything is: nothing for the
self token, which is the whole value, and one self token at the front makes no difference. -/
inductive Asks : String → Option String → Prop
  | whole : Asks "@self" none
  | below (rest : String) : Asks ("@self." ++ rest) (some rest)
  | plain {rest : String} : rest ≠ "@self" → (∀ r, rest ≠ "@self." ++ r) → Asks rest (some rest)

theorem Link.owns_iff_covers {l : Link} {path : String} :
    l.Owns path ↔ l.covers path = true := by
  rw [covers_iff]
  refine or_congr_right ⟨?_, ?_⟩
  · rintro ⟨rest, rfl⟩
    exact ⟨rest.toList, by simp⟩
  · rintro ⟨r, hr⟩
    exact ⟨String.ofList r, String.toList_injective (by simpa using hr)⟩

theorem Link.Owns.isPrefix {l : Link} {path : String} (h : l.Owns path) :
    l.path.toList <+: path.toList := by
  rcases h with rfl | ⟨rest, rfl⟩
  · exact List.prefix_rfl
  · exact ⟨'.' :: rest.toList, by simp⟩

/-- Of two beginnings of one text the longer one is longer in characters and in bytes. -/
theorem Text.length_le_iff_of_isPrefix {p q s : String} (hp : p.toList <+: s.toList)
    (hq : q.toList <+: s.toList) : p.length ≤ q.length ↔ p.utf8ByteSize ≤ q.utf8ByteSize := by
  have hgrow : ∀ {a b : String}, a.toList <+: b.toList →
      a.length ≤ b.length ∧ a.utf8ByteSize ≤ b.utf8ByteSize ∧
        (b.length ≤ a.length ↔ b.utf8ByteSize ≤ a.utf8ByteSize) := by
    rintro a b ⟨r, hr⟩
    obtain rfl : b = a ++ String.ofList r := String.toList_injective (by simpa using hr.symm)
    have hzero : (String.ofList r).length = 0 ↔ (String.ofList r).utf8ByteSize = 0 := by
      rw [String.utf8ByteSize_eq_zero_iff, String.length_eq_zero_iff]
    rw [String.length_append, String.utf8ByteSize_append]
    omega
  rcases List.prefix_or_prefix_of_prefix hp hq with h | h
  · have := hgrow h
    omega
  · have := hgrow h
    omega

/-- The search goes on with a link that owns the path and is longer than the best so far. -/
theorem bestLink?_cons (path : String) (best : Option Link) (l : Link) (ls : List Link) :
    bestLink? path best (l :: ls) =
      bestLink? path
        (if l.covers path = true ∧ ∀ b ∈ best, b.path.length < l.path.length then some l
          else best) ls := by
  cases best with
  | none => simp [bestLink?]
  | some b => simp [bestLink?]

/-- The search keeps the best link so far, or finds the first of the longest owners, which is
longer than the best so far. -/
theorem bestLink?_cases (path : String) (best : Option Link) (links : List Link) :
    (bestLink? path best links = best ∧
        ∀ k ∈ links, k.covers path = true → ∃ b ∈ best, k.path.length ≤ b.path.length) ∨
      ∃ inner l outer, links = inner ++ l :: outer ∧ bestLink? path best links = some l ∧
        l.covers path = true ∧ (∀ b ∈ best, b.path.length < l.path.length) ∧
        (∀ k ∈ inner, k.covers path = true → k.path.length < l.path.length) ∧
        ∀ k ∈ outer, k.covers path = true → k.path.length ≤ l.path.length := by
  induction links generalizing best with
  | nil => exact .inl ⟨rfl, by simp⟩
  | cons l ls ih =>
      rw [bestLink?_cons]
      split
      · rename_i hl
        obtain ⟨hcovers, hbest⟩ := hl
        right
        rcases ih (some l) with ⟨hfound, hall⟩ | ⟨inner, m, outer, rfl, hfound, hm, hlm, hin, hout⟩
        · refine ⟨[], l, ls, rfl, hfound, hcovers, hbest, by simp, ?_⟩
          simpa using hall
        · have hlm : l.path.length < m.path.length := hlm l rfl
          refine ⟨l :: inner, m, outer, rfl, hfound, hm, ?_, ?_, hout⟩
          · intro b hb
            exact (hbest b hb).trans hlm
          · intro k hk hkc
            rcases List.mem_cons.mp hk with rfl | hk
            · exact hlm
            · exact hin k hk hkc
      · rename_i hl
        have hl : l.covers path = true → ∃ b ∈ best, l.path.length ≤ b.path.length := by
          intro hc
          by_contra hnone
          exact hl ⟨hc, fun b hb => Nat.lt_of_not_le fun hle => hnone ⟨b, hb, hle⟩⟩
        rcases ih best with ⟨hfound, hall⟩ | ⟨inner, m, outer, rfl, hfound, hm, hbm, hin, hout⟩
        · left
          refine ⟨hfound, ?_⟩
          intro k hk
          rcases List.mem_cons.mp hk with rfl | hk
          · exact hl
          · exact hall k hk
        · right
          refine ⟨l :: inner, m, outer, rfl, hfound, hm, hbm, ?_, hout⟩
          intro k hk hkc
          rcases List.mem_cons.mp hk with rfl | hk
          · obtain ⟨b, hb, hle⟩ := hl hkc
            have hlt := hbm b hb
            omega
          · exact hin k hk hkc

namespace Scope
variable {s : Scope} {path : String} {l m : Link} {inner outer inner' outer' : List Link}

namespace OwnedBy

/-- The root stands at the outer end. -/
theorem eq_root (h : s.OwnedBy path inner l []) : inner = s.links ∧ l = ⟨"", s.root⟩ := by
  have hchain := h.chain_eq
  rw [chain] at hchain
  obtain ⟨hlinks, hroot⟩ := List.append_inj' hchain rfl
  exact ⟨hlinks.symm, (List.singleton_inj.mp hroot).symm⟩

/-- An owner has no owner inside it. -/
theorem not_inside (h : s.OwnedBy path inner l outer) (h' : s.OwnedBy path inner' m outer')
    (hl : l ∈ inner') (hm : m ∈ outer) : False := by
  have hlt := h'.longer l hl (h.owns (List.ne_nil_of_mem hm))
  by_cases ho : outer' = []
  · subst ho
    rw [h'.eq_root.2] at hlt
    exact Nat.not_lt_zero _ hlt
  · have hle := h.longest m hm (h'.owns ho)
    omega

/-- A path has one owner. -/
theorem unique (h : s.OwnedBy path inner l outer) (h' : s.OwnedBy path inner' m outer') :
    l = m ∧ outer = outer' := by
  have hsplit := h.chain_eq.symm.trans h'.chain_eq
  rcases List.append_eq_append_iff.mp hsplit with ⟨as, hin, hout⟩ | ⟨as, hin, hout⟩
  · cases as with
    | nil => simpa using hout
    | cons a as =>
        rw [List.cons_append, List.cons.injEq] at hout
        obtain ⟨rfl, rfl⟩ := hout
        exact (h.not_inside h' (by simp [hin]) (by simp)).elim
  · cases as with
    | nil => simpa [eq_comm] using hout
    | cons a as =>
        rw [List.cons_append, List.cons.injEq] at hout
        obtain ⟨rfl, rfl⟩ := hout
        exact (h'.not_inside h (by simp [hin]) (by simp)).elim

end OwnedBy

/-- The search finds the owner. -/
theorem exists_ownedBy (s : Scope) (path : String) :
    ∃ inner l outer, s.OwnedBy path inner l outer ∧
      bestLink? path none s.links = if outer = [] then none else some l := by
  have hlength : ∀ {k l : Link}, k.Owns path → l.Owns path →
      (k.path.length ≤ l.path.length ↔ k.path.utf8ByteSize ≤ l.path.utf8ByteSize) :=
    fun hk hl => length_le_iff_of_isPrefix hk.isPrefix hl.isPrefix
  rcases bestLink?_cases path none s.links with
    ⟨hnone, hall⟩ | ⟨inner, l, outer, hlinks, hfound, hcovers, -, hin, hout⟩
  · refine ⟨s.links, ⟨"", s.root⟩, [], ⟨rfl, by simp, ?_, by simp⟩, hnone⟩
    intro k hk hown
    obtain ⟨b, hb, -⟩ := hall k hk (Link.owns_iff_covers.mp hown)
    cases hb
  · have hl := Link.owns_iff_covers.mpr hcovers
    refine ⟨inner, l, outer ++ [⟨"", s.root⟩], ⟨?_, fun _ => hl, ?_, ?_⟩, ?_⟩
    · rw [chain, hlinks, List.append_assoc, List.cons_append]
    · intro k hk hown
      have hlt := hin k hk (Link.owns_iff_covers.mp hown)
      have hle := hlength hl hown
      omega
    · intro k hk hown
      rcases List.mem_append.mp hk with hk | hk
      · have hle := hout k hk (Link.owns_iff_covers.mp hown)
        exact (hlength hown hl).mp hle
      · rw [List.mem_singleton.mp hk]
        exact Nat.zero_le _
    · rw [hfound, if_neg (by simp)]

end Scope

theorem exists_asks (rest : String) : ∃ query, Asks rest query := by
  by_cases hself : rest = "@self"
  · exact ⟨none, hself ▸ .whole⟩
  · by_cases hbelow : ∃ r, rest = "@self." ++ r
    · obtain ⟨r, rfl⟩ := hbelow
      exact ⟨some r, .below r⟩
    · exact ⟨some rest, .plain hself fun r hr => hbelow ⟨r, hr⟩⟩

/-- The extractor is asked for what is left of the path, or for nothing. -/
theorem Asks.below_eq {rest : String} {query : Option String} (h : Asks rest query)
    (x : Extractor) (v : Value) : x.below v rest.toList = query.elim (.ok v) (x.extract v) := by
  cases h with
  | whole => rfl
  | below r =>
      have hne : ("@self." ++ r).toList ≠ selfToken := by simp [selfToken]
      have hafter : after? (selfToken ++ ['.']) ("@self." ++ r).toList = some r.toList :=
        after?_eq_some_iff.mpr (by simp [selfToken])
      rw [Extractor.below, if_neg hne, hafter]
      simp
  | plain hself hbelow =>
      have hne : rest.toList ≠ selfToken := fun he => hself (String.toList_injective he)
      have hafter : after? (selfToken ++ ['.']) rest.toList = none := by
        rw [Option.eq_none_iff_forall_ne_some]
        intro r hr
        apply hbelow (String.ofList r)
        apply String.toList_injective
        simpa [selfToken] using after?_eq_some_iff.mp hr
      rw [Extractor.below, if_neg hne, hafter]
      simp

/-- The byte after a beginning of a text and a dot is one at which the text may be cut. -/
theorem Text.exists_cut {path p rest : String} (h : path = p ++ "." ++ rest) :
    ∃ cut : path.Pos, cut.offset.byteIdx = p.utf8ByteSize + 1 ∧
      (path.sliceFrom cut).copy = rest := by
  obtain ⟨cut, hoffset, hrest⟩ := exists_pos_of_append h
  refine ⟨cut, ?_, hrest⟩
  rw [hoffset, String.utf8ByteSize_append]
  rfl

/-- Every path has an owner in every chain. The owner's own path reads its value, and what is
left of any other path, cut where two characters meet, is asked of the extractor on that
value, unless it is the self token. -/
theorem Scope.resolve_of_owner (s : Scope) (path : String) :
    (∃ inner l outer, s.OwnedBy path inner l outer) ∧
      ∀ inner l outer, s.OwnedBy path inner l outer →
        (path = l.path → ∀ x, s.resolve x path = .ok l.item) ∧
          (path ≠ l.path → ∃ rest query,
            (outer = [] → rest = path) ∧
            (outer ≠ [] → path = l.path ++ "." ++ rest ∧
              ∃ cut : path.Pos, cut.offset.byteIdx = l.path.utf8ByteSize + 1 ∧
                (path.sliceFrom cut).copy = rest) ∧
            Asks rest query ∧
            ∀ x, s.resolve x path = query.elim (.ok l.item) (x.extract l.item)) := by
  obtain ⟨inner, l, outer, h, hfound⟩ := s.exists_ownedBy path
  refine ⟨⟨inner, l, outer, h⟩, fun inner' m outer' h' => ?_⟩
  obtain ⟨rfl, rfl⟩ := h.unique h'
  by_cases ho : outer = []
  · subst ho
    obtain ⟨-, rfl⟩ := h.eq_root
    rw [if_pos rfl] at hfound
    refine ⟨?_, fun hne => ?_⟩
    · rintro rfl x
      simp [resolve, hfound]
    · obtain ⟨query, hquery⟩ := exists_asks path
      refine ⟨path, query, fun _ => rfl, fun hroot => (hroot rfl).elim, hquery, fun x => ?_⟩
      rw [resolve, hfound]
      dsimp only
      rw [if_neg (by simpa using hne), hquery.below_eq]
  · rw [if_neg ho] at hfound
    refine ⟨fun heq x => resolve_of_link hfound heq x, fun hne => ?_⟩
    obtain ⟨rest, hrest⟩ := (h.owns ho).resolve_left hne
    obtain ⟨query, hquery⟩ := exists_asks rest
    have hdrop : path.toList.drop (l.path.length + 1) = rest.toList := by
      rw [hrest, ← String.length_toList]
      simp [List.drop_append]
    refine ⟨rest, query, fun hroot => (ho hroot).elim, fun _ => ⟨hrest, exists_cut hrest⟩, hquery,
      fun x => ?_⟩
    rw [resolve, hfound]
    dsimp only
    rw [if_neg hne, hdrop, hquery.below_eq]

/-- Of two loops over one path the inner one is read, whatever its path is spelled with. -/
theorem Scope.resolve_inner_of_equals :
    let inner : Link := ⟨"größe", .bool true⟩
    let outer : List Link := [⟨"größe", .bool false⟩, ⟨"", .null⟩]
    let s : Scope := ⟨.null, [⟨"größe.x", .null⟩, inner, ⟨"größe", .bool false⟩]⟩
    s.OwnedBy "größe.@self.n" [⟨"größe.x", .null⟩] inner outer ∧
      ∀ x, s.resolve x "größe.@self.n" = x.extract (.bool true) "n" := by
  intro inner outer s
  have hpath : "größe.@self.n" = inner.path ++ "." ++ "@self.n" := by decide +kernel
  have howned : s.OwnedBy "größe.@self.n" [⟨"größe.x", .null⟩] inner outer := by
    refine ⟨rfl, fun _ => .inr ⟨_, hpath⟩, ?_, ?_⟩
    · intro k hk hown
      rw [List.mem_singleton.mp hk, Link.owns_iff_covers] at hown
      exact absurd hown (by decide +kernel)
    · intro k hk _
      rcases List.mem_cons.mp hk with rfl | hk
      · exact Nat.le_refl _
      · rw [List.mem_singleton.mp hk]
        exact Nat.zero_le _
  refine ⟨howned, fun x => ?_⟩
  obtain ⟨rest, query, -, hrest, hquery, hread⟩ :=
    ((s.resolve_of_owner "größe.@self.n").2 _ _ _ howned).2 (by decide +kernel)
  obtain rfl : rest = "@self.n" := by
    have h := hpath.symm.trans (hrest (by simp [outer])).1
    exact (String.append_right_inj _).mp h.symm
  rw [hread]
  generalize hself : "@self.n" = rest at hquery
  cases hquery with
  | whole => exact absurd hself (by decide +kernel)
  | below r =>
      obtain rfl : "n" = r := (String.append_right_inj "@self.").mp hself
      rfl
  | plain _ hbelow => exact (hbelow "n" hself.symm).elim

end Templating
