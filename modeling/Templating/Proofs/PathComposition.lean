import Templating.Proofs.Paths

/-!
# Paths followed in two parts

Following a path and then another one from the value reached is following both at once,
with a dot between them. Where the second part fails it fails alike, and only the names that
the error tells as followed before differ; where the first part fails the whole path fails
with the same error. The first part leads nowhere further if it ends in the length of an
array or a string, and nowhere else than to null if it ends there.
-/
namespace Templating
open Text ModelPath

/-- The error without the names that were followed before it. -/
def AccessError.cause : AccessError → AccessError
  | .noMember name _ => .noMember name ""
  | .outOfRange index length _ => .outOfRange index length ""
  | .notAContainer name typeName _ => .notAContainer name typeName ""
  | .zeroDepth => .zeroDepth
  | .other message => .other message

theorem AccessError.mapError_cause_eq_ok {A : Type} {x : Except AccessError A} {a : A} :
    x.mapError cause = .ok a ↔ x = .ok a := by
  cases x <;> simp [Except.mapError]

namespace Value

/-- The names followed before a step show in its error only, and there apart from its cause. -/
theorem mapError_member (v : Value) (name walked walked' : String) :
    (v.member name walked).mapError AccessError.cause =
      (v.member name walked').mapError AccessError.cause := by
  cases v with
  | object members =>
      simp only [member]
      cases memberOf? name members <;> rfl
  | array items =>
      simp only [member]
      split
      · rfl
      · cases Decimal.readCount? name.toList with
        | none => rfl
        | some n =>
            dsimp only
            cases items[n]? <;> rfl
  | string s =>
      simp only [member]
      split <;> rfl
  | null | bool b | number n => rfl

theorem walk_null (walked : String) (names : List String) : null.walk walked names = .ok null := by
  cases names <;> rfl

theorem mapError_walk (v : Value) (walked walked' : String) (names : List String) :
    (v.walk walked names).mapError AccessError.cause =
      (v.walk walked' names).mapError AccessError.cause := by
  induction names generalizing v walked walked' with
  | nil => rfl
  | cons name names ih =>
      rw [walk, walk]
      cases hv : v.isNull with
      | true => rfl
      | false =>
          have hmember := mapError_member v name walked walked'
          cases hm : v.member name walked with
          | error e =>
              cases hm' : v.member name walked' with
              | error e' => simpa [hm, hm', Except.mapError] using hmember
              | ok w => simp [hm, hm', Except.mapError] at hmember
          | ok w =>
              cases hm' : v.member name walked' with
              | error e' => simp [hm, hm', Except.mapError] at hmember
              | ok w' =>
                  obtain rfl : w = w' := by simpa [hm, hm', Except.mapError] using hmember
                  exact ih w _ _

/-- Following names after others goes on from the value that the others lead to. -/
theorem walk_append (v : Value) (walked : String) (names names' : List String) :
    v.walk walked (names ++ names') =
      (v.walk walked names).bind fun w => w.walk (names.foldl extendPath walked) names' := by
  induction names generalizing v walked with
  | nil => rfl
  | cons name names ih =>
      rw [List.cons_append, walk, walk]
      cases hv : v.isNull with
      | true => exact (walk_null _ _).symm
      | false =>
          simp only [Bool.false_eq_true, ↓reduceIte]
          cases v.member name walked with
          | error e => rfl
          | ok w => exact ih w _

theorem at_append (v : Value) {p q : String} (hp : p ≠ "") :
    v.at (p ++ "." ++ q) =
      (v.at p).bind fun w => w.walk ((names p).foldl extendPath "") (names q) := by
  have hdot : (p ++ "." ++ q).toList = p.toList ++ '.' :: q.toList := by simp
  have hne : p ++ "." ++ q ≠ "" := fun he => by
    rw [he] at hdot
    simp at hdot
  have hnames : names (p ++ "." ++ q) = names p ++ names q := by
    rw [names_eq_append hdot, String.ofList_toList]
  rw [at_of_ne_empty v hne, hnames, walk_append, ← at_of_ne_empty v hp]

/-- After a part that leads somewhere the rest of a path is followed from there. -/
theorem mapError_at_append {v w : Value} {p q : String} (hp : p ≠ "") (hq : q ≠ "")
    (h : v.at p = .ok w) :
    (v.at (p ++ "." ++ q)).mapError AccessError.cause = (w.at q).mapError AccessError.cause := by
  rw [at_append v hp, h, at_of_ne_empty w hq]
  exact mapError_walk w _ _ _

/-- Arrays and strings tell their length as a number. -/
theorem at_length {v : Value} {name : String} (hname : isLengthName name = true)
    (hv : (∃ items, v = array items) ∨ ∃ s, v = string s) : ∃ n, v.at name = .ok (ofNat n) := by
  have hnames : name ≠ "" ∧ names name = [name] := by
    simp only [isLengthName, Bool.or_eq_true, beq_iff_eq] at hname
    rcases hname with rfl | rfl <;> decide +kernel
  rcases hv with ⟨items, rfl⟩ | ⟨s, rfl⟩
  · refine ⟨items.length, ?_⟩
    simp [at_of_ne_empty _ hnames.1, hnames.2, walk, isNull, member, hname]
  · refine ⟨s.length, ?_⟩
    simp [at_of_ne_empty _ hnames.1, hnames.2, walk, isNull, member, hname]

/-- Numbers have no parts. -/
theorem at_number (n : Number) {q : String} (hq : q ≠ "") :
    ∃ e, (number n).at q = .error e := by
  obtain ⟨rest, hrest⟩ := exists_names_eq q
  refine ⟨.notAContainer (firstName q) "number" "", ?_⟩
  rw [at_of_ne_empty _ hq, hrest]
  rfl

/-- A name after a path, which may be empty, is read from the value of the path. -/
theorem mapError_at_extendPath {v w : Value} {p name : String} (hname : name ≠ "")
    (h : v.at p = .ok w) :
    (v.at (extendPath p name)).mapError AccessError.cause =
      (w.at name).mapError AccessError.cause := by
  by_cases hp : p = ""
  · subst hp
    obtain rfl : v = w := by simpa [«at»] using h
    rfl
  · rw [extendPath, if_neg (by simpa using hp)]
    exact mapError_at_append hp hname h

end Value

/-- A path of two parts is followed in two parts. Once the first has led to a value, the
whole succeeds with what the second leads to from there, or fails for the same cause; where
the first fails, the whole fails in the same way. Beyond null there is only null, and
nothing beyond a length. -/
theorem Value.at_parts (m : Value) {p q : String} (hp : p ≠ "") (hq : q ≠ "") :
    (∀ v, m.at p = .ok v →
        (m.at (p ++ "." ++ q)).mapError AccessError.cause =
          (v.at q).mapError AccessError.cause) ∧
      (∀ e, m.at p = .error e → m.at (p ++ "." ++ q) = .error e) ∧
      (m.at p = .ok .null → m.at (p ++ "." ++ q) = .ok .null) ∧
      ∀ container v name, m.at container = .ok v →
        ((∃ items, v = .array items) ∨ ∃ s, v = .string s) → isLengthName name = true →
        p = extendPath container name → ∃ e, m.at (p ++ "." ++ q) = .error e := by
  refine ⟨fun v hv => mapError_at_append hp hq hv, fun e he => ?_, fun hnull => ?_, ?_⟩
  · rw [at_append m hp, he]
    rfl
  · rw [at_append m hp, hnull]
    exact walk_null _ _
  · rintro container v name hcontainer hv hname rfl
    obtain ⟨n, hn⟩ := at_length hname hv
    have hne : name ≠ "" := by
      rintro rfl
      cases hname
    have hlength : m.at (extendPath container name) = .ok (ofNat n) := by
      rw [← AccessError.mapError_cause_eq_ok, mapError_at_extendPath hne hcontainer, hn]
      rfl
    obtain ⟨e, he⟩ := at_number (.int n) hq
    have hq' := mapError_at_append hp hq hlength
    rw [show (ofNat n).at q = .error e from he] at hq'
    cases hm : m.at (extendPath container name ++ "." ++ q) with
    | error e' => exact ⟨e', rfl⟩
    | ok w =>
        rw [hm] at hq'
        cases hq'

/-- The order of a guest is missing, and the count of the name's letters is a number. -/
theorem Value.at_guest :
    let m : Value := .object [("guest", .object [("name", .string "Ann"), ("order", .null)])]
    (("guest" ≠ "" ∧ "order.lines.0" ≠ "") ∧ ("guest.name.count" ≠ "" ∧ "x" ≠ "")) ∧
      (m.at "guest.order.lines.0").mapError AccessError.cause = .ok .null ∧
      ∃ e, m.at "guest.name.count.x" = .error e := by
  intro m
  have hguest : m.at "guest" = .ok (.object [("name", .string "Ann"), ("order", .null)]) := by
    rfl
  have hname : m.at "guest.name" = .ok (.string "Ann") := by
    rfl
  have hparts := (m.at_parts (by decide) (by decide : "order.lines.0" ≠ "")).1 _ hguest
  have hcount := (m.at_parts (by decide : "guest.name.count" ≠ "") (by decide : "x" ≠ "")).2.2.2
    "guest.name" _ "count" hname (.inr ⟨"Ann", rfl⟩) rfl (by decide +kernel)
  refine ⟨by decide, ?_, hcount⟩
  rw [show "guest.order.lines.0" = "guest" ++ "." ++ "order.lines.0" by decide +kernel, hparts]
  rfl

end Templating
