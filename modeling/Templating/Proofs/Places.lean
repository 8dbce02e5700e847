import Mathlib.Data.List.MinMax
import Templating.Proofs.Paths

/-!
# Loop items by their places in the model

Inside loops over arrays each present item has a place in the model, which an absolute
path tells: that of the array, and the index of the item. `absoluteForm` rewrites a path
as it is written inside loops to one that is written from the root, by putting the place
of the item for the loop path that owns it. Reading a path inside loops and reading its
absolute form from the root give the same.

The invariant of entering loops is `Link.StandsAt`: following the absolute path of every
loop under way leads to its present item.
-/
namespace Templating
open Text ModelPath

/-- A loop under way, told by the path it runs over and the absolute path of its present
item. -/
structure Place where
  path : String
  absolute : String

/-- Whether a path is the loop's own, or begins with it and a dot. -/
def Place.covers (p : Place) (path : String) : Bool :=
  path == p.path || (p.path.toList ++ ['.']).isPrefixOf path.toList

/-- The place that owns a path: of those that cover it the one with the longest path, and
of equals the first, which is the innermost. -/
def owner? (path : String) (places : List Place) : Option Place :=
  (places.filter fun p => p.covers path).argmax fun p => p.path.length

/-- A path written from the root: the path of its owner is replaced by the absolute path of
the owner's present item. -/
def absoluteForm (places : List Place) (path : String) : String :=
  match owner? path places with
  | none => path
  | some p => p.absolute ++ String.ofList (path.toList.drop p.path.toList.length)

/-- No name is empty or the self token. -/
def ModelPath.Plain (path : String) : Prop := ∀ name ∈ names path, name ≠ "" ∧ name ≠ "@self"

instance (path : String) : Decidable (Plain path) :=
  inferInstanceAs (Decidable (∀ name ∈ names path, name ≠ "" ∧ name ≠ "@self"))

/-- The scopes that nested loops over arrays reach from the root of a model, with the places
of their items, innermost first. An index fits a machine word, as every index of an array in
memory does. -/
inductive Entered (model : Value) : List Place → Scope → Prop
  | root : Entered model [] ⟨model, []⟩
  | item {places : List Place} {scope : Scope} {path absolute : String} {items : List Value}
      {k : Nat} {item : Value} : Entered model places scope → Plain path →
      scope.resolve .standard path = .ok (.array items) →
      items[k]? = some item → k ≤ Decimal.maxCount →
      absolute = absoluteForm places path ++ "." ++ String.ofList (Decimal.digits k) →
      Entered model (⟨path, absolute⟩ :: places) (scope.enter path item)

/-- Following the absolute path of the place leads to the present item of the link. -/
structure Link.StandsAt (model : Value) (l : Link) (p : Place) : Prop where
  path_eq : l.path = p.path
  absolute_ne : p.absolute ≠ ""
  leads : (names p.absolute).foldlM Value.part? model = some l.item

theorem Place.covers_iff {p : Place} {path : String} :
    p.covers path = true ↔
      path = p.path ∨ ∃ r, path.toList = p.path.toList ++ '.' :: r := by
  simp only [covers, Bool.or_eq_true, beq_iff_eq, List.isPrefixOf_iff_prefix]
  refine or_congr_right ⟨?_, ?_⟩
  · rintro ⟨r, hr⟩
    exact ⟨r, by rw [← hr, List.append_assoc, List.singleton_append]⟩
  · rintro ⟨r, hr⟩
    exact ⟨r, by rw [hr, List.append_assoc, List.singleton_append]⟩

theorem Link.covers_iff {l : Link} {path : String} :
    l.covers path = true ↔
      path = l.path ∨ ∃ r, path.toList = l.path.toList ++ '.' :: r := by
  unfold covers
  constructor
  · intro h
    split at h
    · rename_i hr
      have := after?_eq_some_iff.mp hr
      exact .inl (String.toList_injective (by simpa using this))
    · rename_i r hr
      exact .inr ⟨r, after?_eq_some_iff.mp hr⟩
    · cases h
  · rintro (rfl | ⟨r, hr⟩)
    · rw [after?_eq_some_iff.mpr (List.append_nil _).symm]
    · rw [after?_eq_some_iff.mpr hr]
      rfl

theorem Link.StandsAt.covers_eq {model : Value} {l : Link} {p : Place} (h : l.StandsAt model p)
    (path : String) : l.covers path = p.covers path := by
  rw [Bool.eq_iff_iff, Link.covers_iff, Place.covers_iff, h.path_eq]

/-- The search from the innermost link outward chooses the link that stands at the owner. -/
theorem rel_bestLink?_owner? {model : Value} (path : String) {links : List Link}
    {places : List Place} (h : List.Forall₂ (Link.StandsAt model) links places) :
    Option.Rel (Link.StandsAt model) (bestLink? path none links) (owner? path places) := by
  -- The search carries its best link so far, which has to stand at the best place so far.
  have search : ∀ {best : Option Link} {best' : Option Place},
      Option.Rel (Link.StandsAt model) best best' →
      Option.Rel (Link.StandsAt model) (bestLink? path best links)
        ((places.filter fun p => p.covers path).foldl
          (List.argAux fun p q => q.path.length < p.path.length) best') := by
    induction h with
    | nil => exact fun hb => hb
    | @cons l p links places hlp _ ih =>
        intro best best' hb
        simp only [bestLink?, List.filter_cons, hlp.covers_eq]
        cases hc : p.covers path with
        | false => simpa using ih hb
        | true =>
            rw [if_pos rfl, List.foldl_cons]
            apply ih
            cases hb with
            | none => exact .some hlp
            | @some b q hbq =>
                simp only [List.argAux, hlp.path_eq, hbq.path_eq, Bool.true_and, decide_eq_true_eq]
                split
                · exact .some hlp
                · exact .some hbq
  exact search .none

theorem ne_empty_of_dot {s : String} {a b : List Char} (h : s.toList = a ++ '.' :: b) :
    s ≠ "" := by
  rintro rfl
  simp at h

namespace ModelPath.Plain
variable {path p : String} {r : List Char}

theorem ne_empty (h : Plain path) : path ≠ "" := by
  rintro rfl
  exact (h "" (firstName_mem_names "")).1 rfl

theorem firstName_ne (h : Plain path) : firstName path ≠ "@self" :=
  (h _ (firstName_mem_names path)).2

theorem tail (h : Plain path) (hr : path.toList = p.toList ++ '.' :: r) :
    Plain (String.ofList r) := by
  intro name hname
  exact h name (by rw [names_eq_append hr]; exact List.mem_append_right _ hname)

end ModelPath.Plain

namespace Scope
variable {s : Scope} {l : Link} {path : String}

theorem resolve_of_link (hb : bestLink? path none s.links = some l) (h : path = l.path)
    (x : Extractor) : s.resolve x path = .ok l.item := by
  unfold resolve
  rw [hb]
  exact if_pos h

theorem resolve_below_link (hb : bestLink? path none s.links = some l) (hp : Plain path)
    {r : List Char} (hr : path.toList = l.path.toList ++ '.' :: r) (x : Extractor) :
    s.resolve x path = x.extract l.item (String.ofList r) := by
  have hne : path ≠ l.path := by
    rintro rfl
    simpa using congrArg List.length hr
  have hdrop : path.toList.drop (l.path.length + 1) = (String.ofList r).toList := by
    rw [hr, ← String.length_toList, String.toList_ofList, List.drop_append]
    simp
  unfold resolve
  rw [hb]
  dsimp only
  rw [if_neg hne, hdrop, Extractor.below_of_firstName (hp.tail hr).firstName_ne]

end Scope

theorem absoluteForm_of_owner_self {places : List Place} {p : Place} {path : String}
    (ho : owner? path places = some p) (h : path = p.path) :
    absoluteForm places path = p.absolute := by
  subst h
  rw [absoluteForm, ho]
  simp

theorem absoluteForm_of_owner_below {places : List Place} {p : Place} {path : String}
    {r : List Char} (ho : owner? path places = some p)
    (hr : path.toList = p.path.toList ++ '.' :: r) :
    (absoluteForm places path).toList = p.absolute.toList ++ '.' :: r := by
  simp [absoluteForm, ho, hr]

theorem owner?_covers {places : List Place} {p : Place} {path : String}
    (ho : owner? path places = some p) : p.covers path = true :=
  (List.mem_filter.mp (List.argmax_mem ho)).2

/-- Reading a path inside the loops is following the names of its absolute form from the
root, whichever link the path belongs to. -/
theorem Scope.toOption_resolve {scope : Scope} {places : List Place}
    (h : List.Forall₂ (Link.StandsAt scope.root) scope.links places) {path : String}
    (hp : Plain path) :
    (scope.resolve .standard path).toOption =
        (names (absoluteForm places path)).foldlM Value.part? scope.root ∧
      absoluteForm places path ≠ "" := by
  have hrel := rel_bestLink?_owner? path h
  cases hb : bestLink? path none scope.links with
  | none =>
      rw [hb] at hrel
      cases ho : owner? path places with
      | some p => rw [ho] at hrel; cases hrel
      | none =>
          have hform : absoluteForm places path = path := by rw [absoluteForm, ho]
          rw [hform, resolve_of_root hb hp.ne_empty hp.firstName_ne]
          exact ⟨Value.toOption_at _ hp.ne_empty, hp.ne_empty⟩
  | some l =>
      rw [hb] at hrel
      cases ho : owner? path places with
      | none => rw [ho] at hrel; cases hrel
      | some p =>
          rw [ho] at hrel
          obtain ⟨hlp⟩ := hrel
          -- The path is the owner's own, or goes on below the owner's item.
          rcases Place.covers_iff.mp (owner?_covers ho) with hpath | ⟨r, hr⟩
          · rw [absoluteForm_of_owner_self ho hpath,
              resolve_of_link hb (hpath.trans hlp.path_eq.symm)]
            exact ⟨hlp.leads.symm, hlp.absolute_ne⟩
          · have hform := absoluteForm_of_owner_below ho hr
            have hnames := names_eq_append hform
            rw [resolve_below_link hb hp (by rw [hlp.path_eq]; exact hr), hnames,
              List.foldlM_append, hlp.leads]
            exact ⟨Value.toOption_at _ (hp.tail hr).ne_empty, ne_empty_of_dot hform⟩

/-- Entering a loop puts a link where its place is. -/
theorem Link.StandsAt.enter {model : Value} {places : List Place} {scope : Scope}
    (hroot : scope.root = model)
    (h : List.Forall₂ (Link.StandsAt model) scope.links places) {path absolute : String}
    (hp : Plain path) {items : List Value}
    (hitems : scope.resolve .standard path = .ok (.array items)) {k : Nat} {item : Value}
    (hk : items[k]? = some item) (hmax : k ≤ Decimal.maxCount)
    (habsolute :
      absolute = absoluteForm places path ++ "." ++ String.ofList (Decimal.digits k)) :
    Link.StandsAt model ⟨path, item⟩ ⟨path, absolute⟩ := by
  subst hroot
  have hread := (Scope.toOption_resolve h hp).1
  have hdot : absolute.toList = (absoluteForm places path).toList ++ '.' :: Decimal.digits k := by
    simp [habsolute]
  have hdigits : '.' ∉ Decimal.digits k := fun hmem => by
    have := Decimal.isDigit_of_mem_digits hmem
    simp at this
  refine ⟨rfl, ne_empty_of_dot hdot, ?_⟩
  rw [names_eq_append hdot, names_ofList_of_not_mem hdigits, List.foldlM_append, ← hread, hitems]
  simpa [Except.toOption, Value.part?_array_digits items hmax] using hk

theorem Entered.root_eq {model : Value} {places : List Place} {scope : Scope}
    (h : Entered model places scope) : scope.root = model := by
  induction h with
  | root => rfl
  | item _ _ _ _ _ _ ih => exact ih

/-- Every loop under way has its present item at its place. -/
theorem Entered.standsAt {model : Value} {places : List Place} {scope : Scope}
    (h : Entered model places scope) :
    List.Forall₂ (Link.StandsAt model) scope.links places := by
  induction h with
  | root => exact .nil
  | item h hp hitems hk hmax habsolute ih =>
      exact .cons (.enter h.root_eq ih hp hitems hk hmax habsolute) ih

/-- Inside any nesting of loops over arrays a path reads what its absolute form reads from
the root of the model: the same value, or nothing in both. -/
theorem Entered.resolve_eq_at_absoluteForm {model : Value} {places : List Place}
    {scope : Scope} (h : Entered model places scope) {path : String} (hp : Plain path) :
    (scope.resolve .standard path).toOption = (model.at (absoluteForm places path)).toOption := by
  obtain ⟨hread, hne⟩ := Scope.toOption_resolve (h.root_eq ▸ h.standsAt) hp
  rw [hread, h.root_eq, Value.toOption_at _ hne]

/-- Loops over the rows of a table, over one row, and over the cells of an entry in it. -/
theorem Entered.read_tag_in_cells :
    let entry : Value :=
      .object [("cells", .array [.string "u", .string "v"]), ("tag", .string "t")]
    let model : Value := .object [("rows", .array [.array [], .array [entry]])]
    let places : List Place :=
      [⟨"rows.cells", "rows.1.0.cells.1"⟩, ⟨"rows", "rows.1.0"⟩, ⟨"rows", "rows.1"⟩]
    let scope : Scope :=
      ⟨model, [⟨"rows.cells", .string "v"⟩, ⟨"rows", entry⟩, ⟨"rows", .array [entry]⟩]⟩
    (Entered model places scope ∧ Plain "rows.tag") ∧
      absoluteForm places "rows.tag" = "rows.1.0.tag" ∧
      (scope.resolve .standard "rows.tag").toOption =
          (model.at (absoluteForm places "rows.tag")).toOption ∧
      (scope.resolve .standard "rows.tag").toOption = some (.string "t") := by
  intro entry model places scope
  have hrows : Entered model [⟨"rows", "rows.1"⟩] ⟨model, [⟨"rows", .array [entry]⟩]⟩ :=
    .item .root (by decide +kernel) rfl
      (rfl : [Value.array [], .array [entry]][1]? = _) (by decide) (by decide +kernel)
  have hrow : Entered model [⟨"rows", "rows.1.0"⟩, ⟨"rows", "rows.1"⟩]
      ⟨model, [⟨"rows", entry⟩, ⟨"rows", .array [entry]⟩]⟩ :=
    .item hrows (by decide +kernel) (by simp [Scope.resolve, bestLink?, Link.covers, after?])
      (rfl : [entry][0]? = _) (by decide) (by decide +kernel)
  have hcell : Entered model places scope :=
    .item hrow (by decide +kernel)
      (by simp [Scope.resolve, bestLink?, Link.covers, after?]; rfl)
      (rfl : [Value.string "u", .string "v"][1]? = _) (by decide) (by decide +kernel)
  have hp : Plain "rows.tag" := by decide +kernel
  have hform : absoluteForm places "rows.tag" = "rows.1.0.tag" := by decide +kernel
  have hread := hcell.resolve_eq_at_absoluteForm hp
  exact ⟨⟨hcell, hp⟩, hform, hread, by rw [hread, hform]; rfl⟩
end Templating
