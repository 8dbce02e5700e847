import Templating.Proofs.PathComposition

/-!
# Where a path fails

An error of reading a path blames one name of it, and tells the names before that one as the
path that was followed. The names before the blamed one lead to a value, and it is this value
that has nothing under the blamed name. Joined by dots, what is told as followed, the blamed
name and the names behind it are the path again, unless the path begins with two names or more
of which the first is empty: a dot is put only behind something that is not empty, so that the
dots after empty names at the beginning are lost. `Value.at_error_locates` states when the
parts of the path fit together.
-/
namespace Templating
open ModelPath

/-- The dot between the names before a place in a path and the name there, if there are any. -/
def ModelPath.joint (before : List String) : String := if before.isEmpty then "" else "."

/-- The names behind a place in a path, with the dot before them. -/
def ModelPath.onward : List String → String
  | [] => ""
  | rest => "." ++ ".".intercalate rest

/-- What an error says of a value in which a name leads nowhere, after the names told as
followed: an object has no member of the name, and an array no item of the index that the
name is read as. Under any other name an array has nothing, and a string likewise under
any name but those of the length. Nulls have everything, and all other values nothing. -/
inductive AccessError.Blames (name told : String) : Value → AccessError → Prop
  | noMember {members : List (String × Value)} : memberOf? name members = none →
      Blames name told (.object members) (.noMember name told)
  | outOfRange {items : List Value} {index : Nat} : isLengthName name = false →
      Decimal.readCount? name.toList = some index → items.length ≤ index →
      Blames name told (.array items) (.outOfRange index items.length told)
  | noIndex {items : List Value} : isLengthName name = false →
      Decimal.readCount? name.toList = none →
      Blames name told (.array items) (.notAContainer name "array" told)
  | noLength {s : String} : isLengthName name = false →
      Blames name told (.string s) (.notAContainer name "string" told)
  | bool (b : Bool) : Blames name told (.bool b) (.notAContainer name "boolean" told)
  | number (n : Number) : Blames name told (.number n) (.notAContainer name "number" told)

namespace ModelPath
variable {path told name : String} {before rest : List String}

/-- A path cut at one of its names. -/
theorem intercalate_append (before : List String) (name : String) (rest : List String) :
    ".".intercalate (before ++ name :: rest) =
      ".".intercalate before ++ joint before ++ name ++ onward rest := by
  have hfirst : ".".intercalate (name :: rest) = name ++ onward rest := by
    cases rest with
    | nil => simp [onward]
    | cons r rest => simp [onward, String.append_assoc]
  by_cases hbefore : before = []
  · simp [hbefore, joint, hfirst]
  · have hjoint : joint before = "." := if_neg (by simpa using hbefore)
    rw [String.intercalate_append_of_ne_nil hbefore (List.cons_ne_nil name rest), hfirst, hjoint,
      ← String.append_assoc]

/-- Only the names before the cut can make a path of it again. -/
theorem eq_append_iff (h : names path = before ++ name :: rest) :
    path = told ++ joint before ++ name ++ onward rest ↔ told = ".".intercalate before := by
  have hpath : path = ".".intercalate before ++ joint before ++ name ++ onward rest := by
    rw [← intercalate_append, ← h, intercalate_names]
  constructor
  · intro heq
    rw [heq] at hpath
    simpa only [String.append_left_inj] using hpath
  · rintro rfl
    exact hpath

/-- Empty names at the beginning are told shorter. -/
theorem length_foldl_extendPath_le (ns : List String) :
    (ns.foldl extendPath "").length ≤ (".".intercalate ns).length := by
  induction ns with
  | nil => simp
  | cons n ns ih =>
      have hfirst : extendPath "" n = n := rfl
      rw [List.foldl_cons, hfirst]
      by_cases hn : n = ""
      · subst hn
        cases ns with
        | nil => simp
        | cons m ns =>
            rw [String.intercalate_cons_cons, String.length_append]
            exact Nat.le_trans ih (Nat.le_add_left _ _)
      · rw [foldl_extendPath hn]

/-- The names followed are told as a path, but for empty ones at the beginning. -/
theorem foldl_extendPath_eq_iff (ns : List String) :
    ns.foldl extendPath "" = ".".intercalate ns ↔ ns.length ≤ 1 ∨ ns.headD "" ≠ "" := by
  cases ns with
  | nil => simp
  | cons n ns =>
      have hfirst : extendPath "" n = n := rfl
      rw [List.foldl_cons, hfirst]
      by_cases hn : n = ""
      · subst hn
        cases ns with
        | nil => simp
        | cons m ns =>
            have hle := length_foldl_extendPath_le (m :: ns)
            have hne : (m :: ns).foldl extendPath "" ≠ ".".intercalate ("" :: m :: ns) := by
              intro heq
              rw [heq, String.intercalate_cons_cons, String.length_append] at hle
              have hdot : ("" ++ ".").length = 1 := by decide
              omega
            simpa using hne
      · simp [foldl_extendPath hn, hn]

end ModelPath

namespace Value
variable {v w : Value} {name told : String} {e : AccessError}

theorem blames_of_member (hv : v.isNull = false) (h : v.member name told = .error e) :
    e.Blames name told v := by
  cases v with
  | null => cases hv
  | bool b =>
      cases h
      exact .bool b
  | number n =>
      cases h
      exact .number n
  | string s =>
      rw [member] at h
      split at h
      · cases h
      · rename_i hlength
        cases h
        exact .noLength (by simpa using hlength)
  | array items =>
      rw [member] at h
      split at h
      · cases h
      · rename_i hlength
        have hlength : isLengthName name = false := by simpa using hlength
        split at h
        · rename_i hcount
          cases h
          exact .noIndex hlength hcount
        · rename_i index hcount
          split at h
          · cases h
          · rename_i hitem
            cases h
            exact .outOfRange hlength hcount (List.getElem?_eq_none_iff.mp hitem)
  | object members =>
      rw [member] at h
      split at h
      · cases h
      · rename_i hmember
        cases h
        exact .noMember hmember

/-- Following names fails at one of them, in the value that those before it lead to. -/
theorem exists_blames_of_walk {names : List String} (h : v.walk told names = .error e) :
    ∃ before name rest w, names = before ++ name :: rest ∧ v.walk told before = .ok w ∧
      e.Blames name (before.foldl extendPath told) w := by
  induction names generalizing v told with
  | nil => cases h
  | cons n names ih =>
      rw [walk] at h
      cases hnull : v.isNull with
      | true => simp [hnull] at h
      | false =>
          simp only [hnull, Bool.false_eq_true, ↓reduceIte] at h
          cases hm : v.member n told with
          | error e' =>
              obtain rfl : e' = e := by simpa [hm] using h
              exact ⟨[], n, names, v, rfl, rfl, blames_of_member hnull hm⟩
          | ok u =>
              rw [hm] at h
              obtain ⟨before, name, rest, w, rfl, hw, hblames⟩ := ih h
              refine ⟨n :: before, name, rest, w, rfl, ?_, hblames⟩
              simpa [walk, hnull, hm] using hw

end Value

/-- A path that fails is cut at the name that the error blames. The names before it lead to the
value in which it fails. What the error tells as followed is the path of these names, and with
the blamed name and those behind it makes up the path, exactly if at most one name stands before
the blamed one or the path has a first name. Then also what is told as followed leads to that
value when it is read as a path, or no name stands before the blamed one. -/
theorem Value.at_error_locates {m : Value} {path : String} {e : AccessError}
    (h : m.at path = .error e) :
    ∃ before name rest container told, names path = before ++ name :: rest ∧
      m.walk "" before = .ok container ∧ e.Blames name told container ∧
      (path = told ++ joint before ++ name ++ onward rest ↔
        before.length ≤ 1 ∨ firstName path ≠ "") ∧
      (before = [] ∨ firstName path ≠ "" → m.at told = .ok container) := by
  have hne : path ≠ "" := by
    rintro rfl
    cases h
  rw [m.at_of_ne_empty hne] at h
  obtain ⟨before, name, rest, container, hnames, hwalk, hblames⟩ := exists_blames_of_walk h
  have hdots : ∀ n ∈ before, '.' ∉ n.toList := fun n hn =>
    dot_not_mem_of_mem_names (hnames ▸ List.mem_append_left _ hn)
  refine ⟨before, name, rest, container, before.foldl extendPath "", hnames, hwalk, hblames,
    ?_, ?_⟩
  · rw [eq_append_iff hnames, foldl_extendPath_eq_iff]
    cases before with
    | nil => simp
    | cons b before => simp [firstName, hnames]
  · intro hfirst
    cases before with
    | nil => exact hwalk
    | cons b before =>
        have hb : b ≠ "" := by simpa [firstName, hnames] using hfirst
        have htold : (b :: before).foldl extendPath "" = ".".intercalate (b :: before) :=
          foldl_extendPath hb before
        have hpath : names (".".intercalate (b :: before)) = b :: before :=
          names_intercalate (by simp) hdots
        have hne' : ".".intercalate (b :: before) ≠ "" := by
          intro hempty
          rw [hempty] at hpath
          exact hb (List.cons.inj hpath).1.symm
        rw [htold, m.at_of_ne_empty hne', hpath, hwalk]

/-- An order has no eighth line. -/
theorem Value.at_error_of_line :
    let lines : Value := .array [.string "u", .string "v"]
    let m : Value := .object [("order", .object [("lines", lines)])]
    let e : AccessError := .outOfRange 7 2 "order.lines"
    m.at "order.lines.7.sku" = .error e ∧
      ∃ before name rest container told,
        names "order.lines.7.sku" = before ++ name :: rest ∧
        m.walk "" before = .ok container ∧ e.Blames name told container ∧
        ("order.lines.7.sku" = told ++ joint before ++ name ++ onward rest ↔
          before.length ≤ 1 ∨ firstName "order.lines.7.sku" ≠ "") ∧
        (before = [] ∨ firstName "order.lines.7.sku" ≠ "" → m.at told = .ok container) := by
  intro lines m e
  have herror : m.at "order.lines.7.sku" = .error e := rfl
  exact ⟨herror, m.at_error_locates herror⟩

/-- The member of an empty name has a member without members. What the error tells as followed
lacks the dot in front, and cannot be continued to the path. -/
theorem Value.at_error_below_empty_name :
    let m : Value := .object [("", .object [("a", .object [])])]
    m.at ".a.x" = .error (.noMember "x" "a") ∧
      ∀ rest, ".a.x" ≠ "a" ++ "." ++ "x" ++ rest := by
  intro m
  refine ⟨rfl, fun rest heq => ?_⟩
  have hfirst := congrArg (fun s => s.toList.head?) heq
  simp at hfirst

end Templating
