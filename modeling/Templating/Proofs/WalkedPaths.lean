import Templating.Proofs.PathComposition
import Templating.Proofs.Walks

/-!
# Reading along a walk

A listed path names the members that a walk goes through, and leaves out at which items of
arrays it goes on. With the indexes of those items put behind the names of their arrays, the
path can be read, and leads to the value at which the walk ends, as `Walk.at_indexedPath` says.
`Value.readable_of_discover` takes from it that every path listed for a model in which no name
is empty or holds a dot is read in this way.

A model is read from a text in which the last of equal names counts, and fits the memory, so
that each object has every name once, and the indexes of an array can be written as counts.
-/
namespace Templating
open ModelPath

/-- The names of the step as they are read: that of the member, and the index of the item. -/
def Value.Step.names : Step → List String
  | ⟨name, none⟩ => [name]
  | ⟨name, some i⟩ => [name, String.ofList (Decimal.digits i)]

/-- The path of a walk with the indexes of the items that it goes on from. -/
def Value.Step.indexedPath (steps : List Step) : String :=
  ".".intercalate (steps.flatMap Step.names)

/-- An object with distinct names, or an array with not more items than can be counted. -/
def Value.Regular : Value → Prop
  | .object members => (members.map Prod.fst).Nodup
  | .array items => items.length ≤ Decimal.maxCount
  | .null | .bool _ | .number _ | .string _ => True

instance : DecidablePred Value.Regular
  | .object members => inferInstanceAs (Decidable (members.map Prod.fst).Nodup)
  | .array items => inferInstanceAs (Decidable (items.length ≤ Decimal.maxCount))
  | .null | .bool _ | .number _ | .string _ => inferInstanceAs (Decidable True)

/-- A name that stands in a path as one name. -/
def ModelPath.IsSingle (name : String) : Prop := name ≠ "" ∧ '.' ∉ name.toList

instance : DecidablePred IsSingle :=
  fun name => inferInstanceAs (Decidable (name ≠ "" ∧ '.' ∉ name.toList))

namespace ModelPath

theorem isSingle_digits (n : Nat) : IsSingle (String.ofList (Decimal.digits n)) := by
  constructor
  · simp [Decimal.digits_ne_nil]
  · rw [String.toList_ofList]
    intro hdot
    have hdigit := Decimal.isDigit_of_mem_digits hdot
    simp at hdigit

end ModelPath

namespace Value
variable {v w : Value} {steps : List Step}

/-- Without an index the path of a walk is read as it is listed. -/
theorem Step.indexedPath_eq_path (h : ∀ s ∈ steps, s.index = none) :
    indexedPath steps = path steps := by
  have hnames : steps.flatMap Step.names = steps.map Step.name := by
    induction steps with
    | nil => rfl
    | cons s rest ih =>
        obtain ⟨name, index⟩ := s
        rw [List.forall_mem_cons] at h
        obtain rfl : index = none := h.1
        rw [List.flatMap_cons, ih h.2]
        rfl
  rw [indexedPath, hnames, path]

theorem part?_of_mem {members : List (String × Value)} (hn : Regular (object members))
    {name : String} (h : (name, v) ∈ members) : (object members).part? name = some v := by
  have hmember : (object members).member name "" = .ok v := by
    rw [member, memberOf?_of_mem hn h]
  rw [part?, hmember]
  rfl

theorem part?_of_getElem? {items : List Value} (hn : Regular (array items)) {i : Nat}
    (h : items[i]? = some v) :
    (array items).part? (String.ofList (Decimal.digits i)) = some v := by
  have hlt : i < items.length := (List.getElem?_eq_some_iff.mp h).1
  rw [part?_array_digits items (Nat.le_trans (Nat.le_of_lt hlt) hn), h]

namespace Walk

/-- The names and indexes of a walk lead to where it ends. -/
theorem foldlM_part? (h : v.Walk steps w) (hv : v.Each Regular) :
    (steps.flatMap Step.names).foldlM Value.part? v = some w := by
  induction h with
  | last hm =>
      have hpart := part?_of_mem hv.self hm
      simp [Step.names, hpart]
  | through hm hwalk ih =>
      have hpart := part?_of_mem hv.self hm
      simp [Step.names, hpart, ih (hv.member hm)]
  | across hm hitem hwalk ih =>
      have hitems : (array _).Each Regular := hv.member hm
      have hpart := part?_of_mem hv.self hm
      have hpart' := part?_of_getElem? hitems.self hitem
      simp [Step.names, hpart, hpart', ih (hitems.item (List.mem_of_getElem? hitem))]

theorem isSingle_names (h : v.Walk steps w) (hv : v.Each (Names IsSingle)) :
    ∀ n ∈ steps.flatMap Step.names, IsSingle n := by
  intro n hn
  obtain ⟨⟨name, index⟩, hs, hns⟩ := List.mem_flatMap.mp hn
  have hname : IsSingle name := h.names hv _ hs
  cases index with
  | none => exact List.mem_singleton.mp hns ▸ hname
  | some i =>
      rcases List.mem_cons.mp hns with rfl | hdigits
      · exact hname
      · exact List.mem_singleton.mp hdigits ▸ isSingle_digits i

theorem flatMap_names_ne_nil (h : v.Walk steps w) : steps.flatMap Step.names ≠ [] := by
  cases h <;> simp [Step.names]

theorem names_indexedPath (h : v.Walk steps w) (hv : v.Each (Names IsSingle)) :
    ModelPath.names (Step.indexedPath steps) = steps.flatMap Step.names :=
  names_intercalate h.flatMap_names_ne_nil fun n hn => (h.isSingle_names hv n hn).2

theorem indexedPath_ne_empty (h : v.Walk steps w) (hv : v.Each (Names IsSingle)) :
    Step.indexedPath steps ≠ "" := by
  intro hempty
  have hnames := h.names_indexedPath hv
  rw [hempty] at hnames
  exact (h.isSingle_names hv "" (hnames ▸ firstName_mem_names "")).1 rfl

/-- The value at the end of a walk is read at its path with the indexes. -/
theorem at_indexedPath (h : v.Walk steps w) (hr : v.Each Regular)
    (hv : v.Each (Names IsSingle)) : v.at (Step.indexedPath steps) = .ok w := by
  have hat := v.toOption_at (h.indexedPath_ne_empty hv)
  rw [h.names_indexedPath hv, h.foldlM_part? hr] at hat
  cases hread : v.at (Step.indexedPath steps) with
  | error e => simp [hread, Except.toOption] at hat
  | ok u => simpa [hread, Except.toOption] using hat

/-- The length of an array at the end of a walk is read behind its path. -/
theorem at_indexedPath_length {items : List Value} (h : v.Walk steps (.array items))
    (hr : v.Each Regular) (hv : v.Each (Names IsSingle)) :
    v.at (Step.indexedPath steps ++ ".length") = .ok (.ofNat items.length) := by
  have hlength : (array items).at "length" = .ok (.ofNat items.length) := rfl
  have hparts := mapError_at_append (h.indexedPath_ne_empty hv) (by decide : "length" ≠ "")
    (h.at_indexedPath hr hv)
  rw [hlength, String.append_assoc] at hparts
  exact AccessError.mapError_cause_eq_ok.mp hparts

end Walk

end Value

/-- Each path that is listed for a model is read, with the indexes of the items behind the
names of the arrays that the path goes on through. It leads to the value at the end of a walk
with these names, or to the length of the array there. Where the walk goes through no array,
the path is read as it is. -/
theorem Value.readable_of_discover {v : Value} (hr : v.Each Regular)
    (hv : v.Each (Names IsSingle)) {depth : Nat} (hdepth : 1 ≤ depth) :
    ∃ paths, v.discover depth = .ok paths ∧ ∀ p ∈ paths, ∃ steps w, v.Walk steps w ∧
      (p = Step.path steps ∧ v.at (Step.indexedPath steps) = .ok w ∨
        ∃ items, w = .array items ∧ p = Step.path steps ++ ".length" ∧
          v.at (Step.indexedPath steps ++ ".length") = .ok (.ofNat items.length)) ∧
      ((∀ s ∈ steps, s.index = none) → ∃ u, v.at p = .ok u) := by
  obtain ⟨paths, hpaths, -, hmem⟩ := v.exists_of_discover hdepth
  have hnames : v.Each (Names (· ≠ "")) := hv.names_imp fun name hname => hname.1
  refine ⟨paths, hpaths, fun p hp => ?_⟩
  obtain ⟨steps, w, hwalk, -, htells⟩ := (lists_root_iff hnames).mp ((hmem p).mp hp)
  refine ⟨steps, w, hwalk, ?_⟩
  cases htells with
  | own =>
      have hread := hwalk.at_indexedPath hr hv
      refine ⟨.inl ⟨rfl, hread⟩, fun hnone => ⟨w, ?_⟩⟩
      rw [← Step.indexedPath_eq_path hnone, hread]
  | length items =>
      have hread := hwalk.at_indexedPath_length hr hv
      refine ⟨.inr ⟨items, rfl, rfl, hread⟩, fun hnone => ⟨.ofNat items.length, ?_⟩⟩
      rw [← Step.indexedPath_eq_path hnone, hread]

/-- The lines of the second order are found behind its index. -/
theorem Value.readable_lines_of_orders :
    let lines : Value := .array [.object [("sku", .string "a")]]
    let model : Value := .object [("orders", .array [.object [], .object [("lines", lines)]])]
    let paths := ["orders", "orders.length", "orders.lines", "orders.lines.length",
      "orders.lines.sku"]
    (model.Each Regular ∧ model.Each (Names IsSingle) ∧ 1 ≤ 3) ∧
      (model.discover 3 = .ok paths ∧ ∀ p ∈ paths, ∃ steps w, model.Walk steps w ∧
        (p = Step.path steps ∧ model.at (Step.indexedPath steps) = .ok w ∨
          ∃ items, w = .array items ∧ p = Step.path steps ++ ".length" ∧
            model.at (Step.indexedPath steps ++ ".length") = .ok (.ofNat items.length)) ∧
        ((∀ s ∈ steps, s.index = none) → ∃ u, model.at p = .ok u)) ∧
      model.at "orders.1.lines.0.sku" = .ok (.string "a") := by
  intro lines model paths
  have hregular : model.Each Regular := by decide +kernel
  have hnames : model.Each (Names IsSingle) := by decide +kernel
  have hpaths : model.discover 3 = .ok paths := by decide +kernel
  obtain ⟨found, hfound, hread⟩ := readable_of_discover hregular hnames (by decide : 1 ≤ 3)
  obtain rfl : found = paths := Except.ok.inj (hfound.symm.trans hpaths)
  exact ⟨⟨hregular, hnames, by decide⟩, ⟨hpaths, hread⟩, rfl⟩

end Templating
