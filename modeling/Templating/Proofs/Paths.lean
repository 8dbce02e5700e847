import Templating.Model.Scope
import Templating.Proofs.Calls

/-!
# Paths as lists of names

A path is followed name by name. Apart from the wording of its errors, what is found
under the next name depends on the value reached so far and on nothing before it, so
that following a path is a fold over its names, and a path cut at a dot is followed in
two parts. A null on the way needs no case of its own: every name leads from null to
null.
-/
namespace Templating
open Text

namespace ModelPath

/-- The names of a path in their order. -/
def names (path : String) : List String := (splitAt '.' path.toList).map String.ofList

/-- The name that is read from the value in which a path starts. -/
def firstName (path : String) : String := (names path).headD ""

theorem exists_names_eq (path : String) : ∃ rest, names path = firstName path :: rest := by
  obtain ⟨p, ps, hs⟩ := List.exists_cons_of_ne_nil (splitAt_ne_nil '.' path.toList)
  exact ⟨ps.map String.ofList, by simp [firstName, names, hs]⟩

theorem firstName_mem_names (path : String) : firstName path ∈ names path := by
  obtain ⟨rest, hrest⟩ := exists_names_eq path
  rw [hrest]
  exact List.mem_cons_self

theorem names_eq_append {path p : String} {r : List Char}
    (h : path.toList = p.toList ++ '.' :: r) :
    names path = names p ++ names (String.ofList r) := by
  simp only [names, h, String.toList_ofList, splitAt_append_cons, List.map_append]

theorem names_ofList_of_not_mem {s : List Char} (h : '.' ∉ s) :
    names (String.ofList s) = [String.ofList s] := by
  rw [names, String.toList_ofList, splitAt_of_not_mem h, List.map_singleton]

theorem dot_not_mem_of_mem_names {path name : String} (h : name ∈ names path) :
    '.' ∉ name.toList := by
  obtain ⟨p, hp, rfl⟩ := List.mem_map.mp h
  rw [String.toList_ofList]
  exact not_mem_of_mem_splitAt hp

/-- Names put together with dots are the names of the path. -/
theorem names_intercalate {ns : List String} (hne : ns ≠ []) (h : ∀ n ∈ ns, '.' ∉ n.toList) :
    names (".".intercalate ns) = ns := by
  induction ns with
  | nil => exact (hne rfl).elim
  | cons n ns ih =>
      rw [List.forall_mem_cons] at h
      have hn : names n = [n] := by
        simpa using names_ofList_of_not_mem h.1
      cases ns with
      | nil => simpa using hn
      | cons m ns =>
          have hdot : (".".intercalate (n :: m :: ns)).toList =
              n.toList ++ '.' :: (".".intercalate (m :: ns)).toList := by
            simp [String.intercalate_cons_cons]
          rw [names_eq_append hdot, String.ofList_toList, hn, ih (by simp) h.2]
          rfl

/-- The names of a path, put together with dots, are the path. -/
theorem intercalate_names (path : String) : ".".intercalate (names path) = path := by
  have hjoin : ∀ ps : List (List Char),
      (".".intercalate (ps.map String.ofList)).toList = joinWith '.' ps := by
    intro ps
    induction ps with
    | nil => rfl
    | cons p ps ih =>
        cases ps with
        | nil => simp [joinWith]
        | cons q ps => simpa [String.intercalate_cons_cons, joinWith] using ih
  apply String.toList_injective
  rw [names, hjoin, joinWith_splitAt]

/-- The self token has a meaning of its own as a first name only. -/
theorem firstName_of_below_self {path : String} {r : List Char}
    (h : path.toList = selfToken ++ '.' :: r) : firstName path = "@self" := by
  have hs : splitAt '.' path.toList = selfToken :: splitAt '.' r := by
    rw [h, splitAt_append (by decide)]
  simp only [firstName, names, hs, List.map_cons, List.headD_cons]
  rfl

theorem firstName_of_self {path : String} (h : path.toList = selfToken) :
    firstName path = "@self" := by
  have hs : splitAt '.' path.toList = [selfToken] := by
    rw [h, splitAt_of_not_mem (by decide)]
  simp only [firstName, names, hs, List.map_singleton, List.headD_cons]
  rfl

end ModelPath

open ModelPath

/-- Without the self token at its start a path is read as it is. -/
theorem Extractor.below_of_firstName {path : String} (h : firstName path ≠ "@self")
    (x : Extractor) (v : Value) : x.below v path.toList = x.extract v path := by
  unfold below
  rw [if_neg fun hs => h (firstName_of_self hs)]
  cases ha : after? (selfToken ++ ['.']) path.toList with
  | none => rw [String.ofList_toList]
  | some r =>
      have hr := after?_eq_some_iff.mp ha
      rw [List.append_assoc] at hr
      exact (h (firstName_of_below_self hr)).elim

/-- A path that belongs to no loop is read from the root. -/
theorem Scope.resolve_of_root {s : Scope} {path : String}
    (hb : bestLink? path none s.links = none) (hne : path ≠ "")
    (hs : firstName path ≠ "@self") (x : Extractor) :
    s.resolve x path = x.extract s.root path := by
  unfold resolve
  rw [hb]
  dsimp only
  rw [if_neg (by simpa using hne), Extractor.below_of_firstName hs]

namespace Value

/-- What is found under a name, if anything is. -/
def part? (v : Value) (name : String) : Option Value :=
  if v.isNull then some .null else (v.member name "").toOption

/-- The names already followed show in the error only. -/
theorem toOption_member (v : Value) (name walked : String) :
    (v.member name walked).toOption = (v.member name "").toOption := by
  cases v with
  | object members =>
      simp only [member]
      cases memberOf? name members <;> rfl
  | array items =>
      simp only [member]
      split
      · rfl
      · cases Decimal.readCount? name.toList with
        | none => rfl
        | some n =>
            dsimp only
            cases items[n]? <;> rfl
  | string s =>
      simp only [member]
      split <;> rfl
  | null | bool b | number n => rfl

theorem foldlM_part?_null (names : List String) :
    names.foldlM part? Value.null = some .null := by
  induction names with
  | nil => rfl
  | cons name names ih => exact ih

theorem toOption_walk (v : Value) (walked : String) (names : List String) :
    (v.walk walked names).toOption = names.foldlM part? v := by
  induction names generalizing v walked with
  | nil => rfl
  | cons name names ih =>
      rw [walk, List.foldlM_cons, part?]
      cases hv : v.isNull with
      | true => exact (foldlM_part?_null names).symm
      | false =>
          simp only [Bool.false_eq_true, ↓reduceIte, ← toOption_member v name walked]
          cases hm : v.member name walked with
          | error e => rfl
          | ok w => exact ih w _

theorem at_of_ne_empty (v : Value) {path : String} (h : path ≠ "") :
    v.at path = v.walk "" (names path) := by
  rw [«at», if_neg (by simpa using h), names]

theorem toOption_at (v : Value) {path : String} (h : path ≠ "") :
    (v.at path).toOption = (names path).foldlM part? v := by
  rw [at_of_ne_empty v h, toOption_walk]

theorem isLengthName_digits (n : Nat) :
    isLengthName (String.ofList (Decimal.digits n)) = false := by
  have hne : ∀ name : String, (∃ c ∈ name.toList, c.isDigit = false) →
      String.ofList (Decimal.digits n) ≠ name := by
    rintro name ⟨c, hc, hd⟩ rfl
    rw [String.toList_ofList] at hc
    simp [Decimal.isDigit_of_mem_digits hc] at hd
  have hlength := hne "length" ⟨'l', by decide, rfl⟩
  have hcount := hne "count" ⟨'c', by decide, rfl⟩
  simp [isLengthName, hlength, hcount]

/-- A count that is not too large selects an item of an array. -/
theorem part?_array_digits (items : List Value) {n : Nat} (h : n ≤ Decimal.maxCount) :
    (array items).part? (String.ofList (Decimal.digits n)) = items[n]? := by
  simp only [part?, isNull, member, isLengthName_digits, String.toList_ofList,
    Decimal.readCount?_digits h, Bool.false_eq_true, ↓reduceIte]
  cases items[n]? <;> rfl

end Value

end Templating
