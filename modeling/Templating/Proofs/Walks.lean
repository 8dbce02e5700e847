import Templating.Model.Discovery

/-!
# Walks through a model

A walk starts at an object and goes from an object to one of its members, name by name. Where
the member is an array, the walk may go on from any item of it that is an object, and the item
has no name of its own. The paths that a model lists down to a depth are those of the walks of
at most that many names, and for the walks that end at an array also the path of its length.

The paths are collected one after the other, so that what is listed under a value is stated
together with what was found before it. `Value.mem_paths_iff` says it for every beginning of
the paths and every value; in `Value.discover_lists_walks` the paths begin at the root.
-/
namespace Templating

/-- One name of a walk: that of a member, with the index of the item that the walk goes on
from if the member is an array. -/
structure Value.Step where
  name : String
  index : Option Nat := none

/-- The walks from an object to a value, each told by its steps. -/
inductive Value.Walk : Value → List Step → Value → Prop
  | last {members : List (String × Value)} {name : String} {w : Value} :
      (name, w) ∈ members → Walk (.object members) [⟨name, none⟩] w
  | through {members : List (String × Value)} {name : String} {v w : Value} {steps : List Step} :
      (name, v) ∈ members → v.Walk steps w → Walk (.object members) (⟨name, none⟩ :: steps) w
  | across {members : List (String × Value)} {name : String} {items : List Value} {i : Nat}
      {item w : Value} {steps : List Step} :
      (name, .array items) ∈ members → items[i]? = some item → item.Walk steps w →
      Walk (.object members) (⟨name, some i⟩ :: steps) w

/-- The names of a walk as a path. -/
def Value.Step.path (steps : List Step) : String := ".".intercalate (steps.map Step.name)

/-- The paths that a walk with the path `path` adds: its own, and that of the length of the
array at its end. -/
inductive Value.Tells (path : String) : Value → String → Prop
  | own (w : Value) : Tells path w path
  | length (items : List Value) : Tells path (.array items) (path ++ ".length")

/-- What is listed from a value by walks of limited length, if `start` is the path of the
value. -/
def Value.Lists (start : String) (depth : Nat) (v : Value) (p : String) : Prop :=
  ∃ steps w, v.Walk steps w ∧ steps.length ≤ depth ∧
    Tells ((steps.map Step.name).foldl extendPath start) w p

/-- What is listed at a member with the path `path` and below it. -/
def Value.ListsBelow (path : String) (depth : Nat) (v : Value) (p : String) : Prop :=
  Tells path v p ∨ v.Lists path depth p ∨
    ∃ items, v = .array items ∧ ∃ item ∈ items, item.Lists path depth p

mutual

/-- How many objects stand in a value at most, each inside the one before. An array adds
nothing to the depth of its items. -/
def Value.nesting : Value → Nat
  | .object members => Value.memberNesting members + 1
  | .array items => Value.itemNesting items
  | .null | .bool _ | .number _ | .string _ => 0

def Value.memberNesting : List (String × Value) → Nat
  | [] => 0
  | (_, v) :: rest => max v.nesting (Value.memberNesting rest)

def Value.itemNesting : List Value → Nat
  | [] => 0
  | v :: rest => max v.nesting (Value.itemNesting rest)

end

mutual

/-- A value and all values in it. -/
def Value.parts : Value → List Value
  | .object members => .object members :: Value.memberParts members
  | .array items => .array items :: Value.itemParts items
  | .null => [.null]
  | .bool b => [.bool b]
  | .number n => [.number n]
  | .string s => [.string s]

def Value.memberParts : List (String × Value) → List Value
  | [] => []
  | (_, v) :: rest => v.parts ++ Value.memberParts rest

def Value.itemParts : List Value → List Value
  | [] => []
  | v :: rest => v.parts ++ Value.itemParts rest

end

/-- What holds of a value and of all values in it. -/
def Value.Each (P : Value → Prop) (v : Value) : Prop := ∀ u ∈ v.parts, P u

/-- What holds of the names of the members, if the value is an object. -/
def Value.Names (P : String → Prop) : Value → Prop
  | .object members => ∀ m ∈ members, P m.1
  | .null | .bool _ | .number _ | .string _ | .array _ => True

instance (P : Value → Prop) [DecidablePred P] (v : Value) : Decidable (v.Each P) :=
  inferInstanceAs (Decidable (∀ u ∈ v.parts, P u))

instance (P : String → Prop) [DecidablePred P] : DecidablePred (Value.Names P)
  | .object members => inferInstanceAs (Decidable (∀ m ∈ members, P m.1))
  | .null | .bool _ | .number _ | .string _ | .array _ => inferInstanceAs (Decidable True)

theorem mem_addPath {found : Array String} {path p : String} :
    p ∈ addPath found path ↔ p ∈ found ∨ p = path := by
  unfold addPath
  split
  · rename_i hc
    have hmem : path ∈ found := Array.contains_iff_mem.mp hc
    exact ⟨.inl, fun h => h.elim id fun he => he ▸ hmem⟩
  · exact Array.mem_push

theorem nodup_addPath {found : Array String} (h : found.toList.Nodup) (path : String) :
    (addPath found path).toList.Nodup := by
  unfold addPath
  split
  · exact h
  · rename_i hc
    have hnew : path ∉ found.toList := by simpa using hc
    rw [Array.toList_push, List.nodup_append]
    refine ⟨h, List.pairwise_singleton _ _, ?_⟩
    intro p hp q hq he
    rw [List.mem_singleton.mp hq] at he
    exact hnew (he ▸ hp)

namespace Value
variable {v w : Value} {start path p : String} {depth : Nat} {steps : List Step}
variable {members : List (String × Value)} {items : List Value}

namespace Walk

theorem steps_ne_nil (h : v.Walk steps w) : steps ≠ [] := by
  cases h <;> simp

theorem exists_object (h : v.Walk steps w) : ∃ members, v = .object members := by
  cases h with
  | last | through | across => exact ⟨_, rfl⟩

end Walk

theorem not_lists_zero : ¬v.Lists start 0 p := by
  rintro ⟨steps, w, hwalk, hlength, -⟩
  exact hwalk.steps_ne_nil (List.length_eq_zero_iff.mp (Nat.le_zero.mp hlength))

theorem not_lists (h : ∀ members, v ≠ .object members) : ¬v.Lists start depth p := by
  rintro ⟨steps, w, hwalk, -, -⟩
  obtain ⟨members, hv⟩ := hwalk.exists_object
  exact h members hv

/-- The walks from an object go to a member and on from there. -/
theorem lists_object_iff :
    (object members).Lists start (depth + 1) p ↔
      ∃ m ∈ members, m.2.ListsBelow (extendPath start m.1) depth p := by
  constructor
  · rintro ⟨steps, w, hwalk, hlength, htells⟩
    cases hwalk with
    | last hm => exact ⟨_, hm, .inl htells⟩
    | through hm hwalk =>
        exact ⟨_, hm, .inr (.inl ⟨_, w, hwalk, Nat.le_of_succ_le_succ hlength, htells⟩)⟩
    | across hm hitem hwalk =>
        refine ⟨_, hm, .inr (.inr ⟨_, rfl, _, List.mem_of_getElem? hitem, ?_⟩)⟩
        exact ⟨_, w, hwalk, Nat.le_of_succ_le_succ hlength, htells⟩
  · rintro ⟨m, hm, htells | ⟨steps, w, hwalk, hlength, htells⟩ | ⟨items, hitems, item, hitem, h⟩⟩
    · exact ⟨_, m.2, .last hm, Nat.succ_le_succ (Nat.zero_le depth), htells⟩
    · exact ⟨_, w, .through hm hwalk, Nat.succ_le_succ hlength, htells⟩
    · obtain ⟨steps, w, hwalk, hlength, htells⟩ := h
      obtain ⟨i, hi⟩ := List.getElem?_of_mem hitem
      obtain ⟨name, u⟩ := m
      obtain rfl : u = .array items := hitems
      exact ⟨_, w, .across hm hi hwalk, Nat.succ_le_succ hlength, htells⟩

theorem tells_iff :
    Tells path v p ↔ p = path ∨ (∃ items, v = .array items) ∧ p = path ++ ".length" := by
  constructor
  · rintro (_ | items)
    · exact .inl rfl
    · exact .inr ⟨⟨items, rfl⟩, rfl⟩
  · rintro (rfl | ⟨⟨items, rfl⟩, rfl⟩)
    · exact .own v
    · exact .length items

/-- Below an object stands what the object lists. -/
theorem listsBelow_object_iff :
    (object members).ListsBelow path depth p ↔ p = path ∨ (object members).Lists path depth p := by
  simp [ListsBelow, tells_iff]

/-- Below an array stand its length and what its items list. -/
theorem listsBelow_array_iff :
    (array items).ListsBelow path depth p ↔
      p = path ∨ p = path ++ ".length" ∨ ∃ item ∈ items, item.Lists path depth p := by
  have harray : ¬(array items).Lists path depth p := not_lists fun members hv => by cases hv
  simp [ListsBelow, tells_iff, harray, or_assoc]

theorem listsBelow_iff_of_leaf (hobject : ∀ members, v ≠ .object members)
    (harray : ∀ items, v ≠ .array items) : v.ListsBelow path depth p ↔ p = path := by
  have hlists : ¬v.Lists path depth p := not_lists hobject
  simp [ListsBelow, tells_iff, hlists, harray]

mutual

/-- Collecting the paths of a value adds what it lists. -/
theorem mem_paths_iff (v : Value) (start : String) (depth : Nat) (found : Array String) :
    p ∈ v.paths start (depth + 1) found ↔ p ∈ found ∨ v.Lists start (depth + 1) p := by
  cases v with
  | object members => rw [paths, mem_memberPaths_iff members, lists_object_iff]
  | null | bool b | number n | string s | array items =>
      exact (or_iff_left (not_lists fun members hv => by cases hv)).symm

/-- Behind the path of a member stands what is listed below it. -/
theorem mem_pathsBelow_iff (v : Value) {path : String} (depth : Nat) {found : Array String}
    (hpath : path ∈ found) :
    p ∈ v.pathsBelow path (depth + 1) found ↔ p ∈ found ∨ v.ListsBelow path depth p := by
  have hown : p ∈ found ∨ p = path ↔ p ∈ found :=
    or_iff_left_of_imp fun he => he ▸ hpath
  cases v with
  | object members =>
      rw [pathsBelow, listsBelow_object_iff, ← or_assoc, hown]
      cases depth with
      | zero => rw [if_neg (by decide), or_iff_left not_lists_zero]
      | succ depth =>
          rw [if_pos (by simp), Nat.add_sub_cancel, mem_memberPaths_iff members, lists_object_iff]
  | array items =>
      rw [pathsBelow, listsBelow_array_iff, ← or_assoc, hown, ← or_assoc, ← mem_addPath]
      cases depth with
      | zero => simp [not_lists_zero]
      | succ depth => rw [if_pos (by simp), Nat.add_sub_cancel, mem_itemPaths_iff items]
  | null | bool b | number n | string s =>
      rw [listsBelow_iff_of_leaf (fun _ hv => by cases hv) (fun _ hv => by cases hv), hown]
      rfl

theorem mem_memberPaths_iff (members : List (String × Value)) (start : String) (depth : Nat)
    (found : Array String) :
    p ∈ memberPaths start (depth + 1) found members ↔
      p ∈ found ∨ ∃ m ∈ members, m.2.ListsBelow (extendPath start m.1) depth p := by
  cases members with
  | nil => simp [memberPaths]
  | cons m rest =>
      obtain ⟨name, v⟩ := m
      have hpath : extendPath start name ∈ addPath found (extendPath start name) :=
        mem_addPath.mpr (.inr rfl)
      have hown : p = extendPath start name ∨ v.ListsBelow (extendPath start name) depth p ↔
          v.ListsBelow (extendPath start name) depth p :=
        or_iff_right_of_imp fun he => .inl (he ▸ .own v)
      have hmember : p ∈ addPath found (extendPath start name) ∨
            v.ListsBelow (extendPath start name) depth p ↔
          p ∈ found ∨ v.ListsBelow (extendPath start name) depth p := by
        rw [mem_addPath, or_assoc, hown]
      rw [memberPaths, mem_memberPaths_iff rest, mem_pathsBelow_iff v depth hpath, hmember,
        or_assoc]
      simp only [List.mem_cons, or_and_right, exists_or, exists_eq_left]

theorem mem_itemPaths_iff (items : List Value) (start : String) (depth : Nat)
    (found : Array String) :
    p ∈ itemPaths start (depth + 1) found items ↔
      p ∈ found ∨ ∃ item ∈ items, item.Lists start (depth + 1) p := by
  cases items with
  | nil => simp [itemPaths]
  | cons v rest =>
      rw [itemPaths, mem_itemPaths_iff rest, mem_paths_iff v, or_assoc]
      simp only [List.mem_cons, or_and_right, exists_or, exists_eq_left]

end

mutual

theorem nodup_paths (v : Value) (start : String) (depth : Nat) {found : Array String}
    (h : found.toList.Nodup) : (v.paths start depth found).toList.Nodup := by
  cases v with
  | object members => exact nodup_memberPaths members start depth h
  | null | bool b | number n | string s | array items => exact h

theorem nodup_pathsBelow (v : Value) (path : String) (depth : Nat) {found : Array String}
    (h : found.toList.Nodup) : (v.pathsBelow path depth found).toList.Nodup := by
  cases v with
  | object members =>
      rw [pathsBelow]
      split
      · exact nodup_memberPaths members path _ h
      · exact h
  | array items =>
      have hlength := nodup_addPath h (path ++ ".length")
      rw [pathsBelow]
      split
      · exact nodup_itemPaths items path _ hlength
      · exact hlength
  | null | bool b | number n | string s => exact h

theorem nodup_memberPaths (members : List (String × Value)) (start : String) (depth : Nat)
    {found : Array String} (h : found.toList.Nodup) :
    (memberPaths start depth found members).toList.Nodup := by
  cases members with
  | nil => exact h
  | cons m rest =>
      obtain ⟨name, v⟩ := m
      have hown := nodup_addPath h (extendPath start name)
      exact nodup_memberPaths rest start depth (nodup_pathsBelow v _ depth hown)

theorem nodup_itemPaths (items : List Value) (start : String) (depth : Nat)
    {found : Array String} (h : found.toList.Nodup) :
    (itemPaths start depth found items).toList.Nodup := by
  cases items with
  | nil => exact h
  | cons v rest => exact nodup_itemPaths rest start depth (nodup_paths v start depth h)

end

theorem nesting_le_memberNesting {m : String × Value} (h : m ∈ members) :
    m.2.nesting ≤ memberNesting members := by
  induction members with
  | nil => cases h
  | cons m' rest ih =>
      rw [memberNesting]
      rcases List.mem_cons.mp h with rfl | h
      · exact Nat.le_max_left _ _
      · exact Nat.le_trans (ih h) (Nat.le_max_right _ _)

theorem nesting_le_itemNesting (h : v ∈ items) : v.nesting ≤ itemNesting items := by
  induction items with
  | nil => cases h
  | cons v' rest ih =>
      rw [itemNesting]
      rcases List.mem_cons.mp h with rfl | h
      · exact Nat.le_max_left _ _
      · exact Nat.le_trans (ih h) (Nat.le_max_right _ _)

/-- Each name of a walk enters an object more. -/
theorem Walk.length_le_nesting (h : v.Walk steps w) : steps.length ≤ v.nesting := by
  induction h with
  | last hm => exact Nat.succ_le_succ (Nat.zero_le _)
  | through hm hwalk ih =>
      have hle := Nat.le_trans ih (nesting_le_memberNesting hm)
      rw [nesting, List.length_cons]
      exact Nat.succ_le_succ hle
  | across hm hitem hwalk ih =>
      have hle : _ ≤ (array _).nesting := nesting_le_itemNesting (List.mem_of_getElem? hitem)
      have hle' := Nat.le_trans (Nat.le_trans ih hle) (nesting_le_memberNesting hm)
      rw [nesting, List.length_cons]
      exact Nat.succ_le_succ hle'

theorem mem_parts_self (v : Value) : v ∈ v.parts := by
  cases v <;> simp [parts]

theorem parts_subset_memberParts {m : String × Value} (h : m ∈ members) :
    m.2.parts ⊆ memberParts members := by
  induction members with
  | nil => cases h
  | cons m' rest ih =>
      rw [memberParts]
      rcases List.mem_cons.mp h with rfl | h
      · exact List.subset_append_left _ _
      · exact List.subset_append_of_subset_right _ (ih h)

theorem parts_subset_itemParts (h : v ∈ items) : v.parts ⊆ itemParts items := by
  induction items with
  | nil => cases h
  | cons v' rest ih =>
      rw [itemParts]
      rcases List.mem_cons.mp h with rfl | h
      · exact List.subset_append_left _ _
      · exact List.subset_append_of_subset_right _ (ih h)

namespace Each
variable {P : Value → Prop}

theorem self (h : v.Each P) : P v := h v v.mem_parts_self

theorem member (h : (object members).Each P) {m : String × Value} (hm : m ∈ members) :
    m.2.Each P := by
  intro u hu
  apply h
  rw [parts]
  exact List.mem_cons_of_mem _ (parts_subset_memberParts hm hu)

theorem item (h : (array items).Each P) (hv : v ∈ items) : v.Each P := by
  intro u hu
  apply h
  rw [parts]
  exact List.mem_cons_of_mem _ (parts_subset_itemParts hv hu)

theorem names_imp {P Q : String → Prop} (h : v.Each (Names P)) (himp : ∀ name, P name → Q name) :
    v.Each (Names Q) := by
  intro u hu
  have hnames := h u hu
  cases u with
  | object members => exact fun m hm => himp _ (hnames m hm)
  | null | bool b | number n | string s | array items => trivial

end Each

/-- The names of a walk are names of members. -/
theorem Walk.names {P : String → Prop} (h : v.Walk steps w) (hv : v.Each (Names P)) :
    ∀ s ∈ steps, P s.name := by
  induction h with
  | last hm => exact List.forall_mem_singleton.mpr (hv.self _ hm)
  | through hm hwalk ih => exact List.forall_mem_cons.mpr ⟨hv.self _ hm, ih (hv.member hm)⟩
  | across hm hitem hwalk ih =>
      have hitems : (array _).Each (Names P) := hv.member hm
      exact List.forall_mem_cons.mpr
        ⟨hv.self _ hm, ih (hitems.item (List.mem_of_getElem? hitem))⟩

/-- Where no name is empty, the names of a walk are put together with dots. -/
theorem Walk.foldl_extendPath_eq (h : v.Walk steps w) (hv : v.Each (Names (· ≠ ""))) :
    (steps.map Step.name).foldl extendPath "" = Step.path steps := by
  have hnames := h.names hv
  obtain ⟨s, rest, rfl⟩ := List.exists_cons_of_ne_nil h.steps_ne_nil
  have hs : s.name ≠ "" := hnames s List.mem_cons_self
  rw [List.map_cons, List.foldl_cons, Step.path]
  exact foldl_extendPath hs _

theorem Lists.mono {depth' : Nat} (h : v.Lists start depth p) (hle : depth ≤ depth') :
    v.Lists start depth' p := by
  obtain ⟨steps, w, hwalk, hlength, htells⟩ := h
  exact ⟨steps, w, hwalk, Nat.le_trans hlength hle, htells⟩

/-- No walk is longer than the value is deep. -/
theorem Lists.of_nesting_le {depth' : Nat} (h : v.Lists start depth' p)
    (hle : v.nesting ≤ depth) : v.Lists start depth p := by
  obtain ⟨steps, w, hwalk, -, htells⟩ := h
  exact ⟨steps, w, hwalk, Nat.le_trans hwalk.length_le_nesting hle, htells⟩

/-- From the root the paths are those of the walks. -/
theorem lists_root_iff (hv : v.Each (Names (· ≠ ""))) :
    v.Lists "" depth p ↔
      ∃ steps w, v.Walk steps w ∧ steps.length ≤ depth ∧ Tells (Step.path steps) w p := by
  refine exists_congr fun steps => exists_congr fun w => and_congr_right fun hwalk => ?_
  rw [hwalk.foldl_extendPath_eq hv]

/-- The paths of a model down to a depth. -/
theorem exists_of_discover (v : Value) (h : 1 ≤ depth) :
    ∃ paths, v.discover depth = .ok paths ∧ paths.Nodup ∧
      ∀ p, p ∈ paths ↔ v.Lists "" depth p := by
  obtain ⟨depth, rfl⟩ := Nat.exists_eq_add_of_le' h
  refine ⟨_, rfl, nodup_paths v "" _ .nil, fun p => ?_⟩
  simpa using mem_paths_iff (p := p) v "" depth #[]

end Value

/-- Down to depth zero nothing is listed. Down to any other depth each path is listed once, and
if no name in the model is empty, the paths are those of the walks of at most that many names
and, for a walk to an array, that of its length. More depth only adds paths, and adds none when
the depth is that of the model. -/
theorem Value.discover_lists_walks (v : Value) :
    v.discover 0 = .error .zeroDepth ∧
      ∀ depth, 1 ≤ depth → ∃ paths, v.discover depth = .ok paths ∧ paths.Nodup ∧
        (v.Each (Names (· ≠ "")) → ∀ p, p ∈ paths ↔
          ∃ steps w, v.Walk steps w ∧ steps.length ≤ depth ∧ Tells (Step.path steps) w p) ∧
        ∀ depth' paths', depth ≤ depth' → v.discover depth' = .ok paths' →
          paths ⊆ paths' ∧ (v.nesting ≤ depth → paths' ⊆ paths) := by
  refine ⟨rfl, fun depth hdepth => ?_⟩
  obtain ⟨paths, hpaths, hnodup, hmem⟩ := v.exists_of_discover hdepth
  refine ⟨paths, hpaths, hnodup, fun hv p => ?_, fun depth' paths' hle hpaths' => ?_⟩
  · rw [hmem, lists_root_iff hv]
  · obtain ⟨found, hfound, -, hmem'⟩ := v.exists_of_discover (Nat.le_trans hdepth hle)
    obtain rfl : found = paths' := Except.ok.inj (hfound.symm.trans hpaths')
    refine ⟨fun p hp => ?_, fun hnesting p hp => ?_⟩
    · exact (hmem' p).mpr (((hmem p).mp hp).mono hle)
    · exact (hmem p).mpr (((hmem' p).mp hp).of_nesting_le hnesting)

/-- Orders of which one has lines, beside an item that is no order. The names of the lines are
the third of their paths. -/
theorem Value.discover_orders :
    let lines : Value := .array [.object [("sku", .string "a")]]
    let model : Value := .object [("orders", .array
      [.object [("id", .number (.int 1))], .object [("lines", lines)], .bool true])]
    let paths := ["orders", "orders.length", "orders.id", "orders.lines", "orders.lines.length"]
    let paths' := paths ++ ["orders.lines.sku"]
    ((1 ≤ 2 ∧ 2 ≤ 3 ∧ 3 ≤ 9 ∧ model.nesting ≤ 3) ∧ model.Each (Names (· ≠ ""))) ∧
      (model.discover 2 = .ok paths ∧ ∀ p, p ∈ paths ↔
        ∃ steps w, model.Walk steps w ∧ steps.length ≤ 2 ∧ Tells (Step.path steps) w p) ∧
      (model.discover 3 = .ok paths' ∧ paths ⊆ paths') ∧
      ∃ found, model.discover 9 = .ok found ∧ found ⊆ paths' := by
  intro lines model paths paths'
  have hnames : model.Each (Names (· ≠ "")) := by decide +kernel
  have hpaths : model.discover 2 = .ok paths :=
    congrArg Except.ok (by decide +kernel : (model.paths "" 2 #[]).toList = paths)
  have hpaths' : model.discover 3 = .ok paths' :=
    congrArg Except.ok (by decide +kernel : (model.paths "" 3 #[]).toList = paths')
  have hnesting : model.nesting ≤ 3 := by decide
  obtain ⟨found, hfound, -, hwalks, hgrows⟩ := model.discover_lists_walks.2 2 (by decide)
  obtain rfl : found = paths := Except.ok.inj (hfound.symm.trans hpaths)
  obtain ⟨found', hfound', -, -, hgrows'⟩ := model.discover_lists_walks.2 3 (by decide)
  obtain rfl : found' = paths' := Except.ok.inj (hfound'.symm.trans hpaths')
  refine ⟨⟨by omega, hnames⟩, ⟨hpaths, hwalks hnames⟩, ⟨hpaths', ?_⟩, _, rfl, ?_⟩
  · exact (hgrows 3 _ (by decide) hpaths').1
  · exact (hgrows' 9 _ (by decide) rfl).2 hnesting

end Templating
