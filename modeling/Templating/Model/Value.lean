import Templating.Decimal.Shortest

/-!
# Model values

A template is applied to a model: a value made of nulls, truth values, numbers,
strings, arrays and objects. The members of an object are kept in the order of
their names, each name once.
-/
namespace Templating

/-- A number is an integer as long as it was written as one and fits a machine
word, signed or unsigned; every other number is a double. -/
inductive Number where
  | int (n : Int)
  | double (x : Float)
  deriving Repr, Inhabited

inductive Value where
  | null
  | bool (b : Bool)
  | number (n : Number)
  | string (s : String)
  | array (items : List Value)
  | object (members : List (String × Value))
  deriving Repr, Inhabited

/-- The integers that are kept as integers. -/
def Number.isWord (n : Int) : Bool := -(Nat.pow 2 63) ≤ n && n < Nat.pow 2 64

def Value.typeName : Value → String
  | .null => "null"
  | .bool _ => "boolean"
  | .number _ => "number"
  | .string _ => "string"
  | .array _ => "array"
  | .object _ => "object"

def Value.isNull : Value → Bool
  | .null => true
  | _ => false

def Value.ofNat (n : Nat) : Value := .number (.int n)

/-- A member put at its place in the order of names, instead of one of its name. -/
def insertMember {A : Type} (name : String) (v : A) : List (String × A) → List (String × A)
  | [] => [(name, v)]
  | m :: ms =>
      if name < m.1 then (name, v) :: m :: ms
      else if name = m.1 then (name, v) :: ms
      else m :: insertMember name v ms

/-- An object of members as they were written; of members with one name the last
counts. -/
def Value.ofMembers (ms : List (String × Value)) : Value :=
  .object (ms.foldl (fun acc m => insertMember m.1 m.2 acc) [])

def memberOf? {A : Type} (name : String) : List (String × A) → Option A
  | [] => none
  | m :: ms => if m.1 = name then some m.2 else memberOf? name ms

section
variable {A : Type} {name : String} {ms ms' : List (String × A)}

theorem memberOf?_append (name : String) (ms ms' : List (String × A)) :
    memberOf? name (ms ++ ms') = (memberOf? name ms).or (memberOf? name ms') := by
  induction ms with
  | nil => rfl
  | cons m ms ih =>
      rw [List.cons_append, memberOf?, memberOf?]
      split
      · rfl
      · exact ih

theorem mem_of_memberOf? {v : A} (h : memberOf? name ms = some v) : (name, v) ∈ ms := by
  induction ms with
  | nil => cases h
  | cons m ms ih =>
      rw [memberOf?] at h
      split at h
      · rename_i hm
        rw [Option.some.injEq] at h
        rw [← hm, ← h]
        exact List.mem_cons_self
      · exact List.mem_cons_of_mem _ (ih h)

/-- Where each name stands once, every member is found under its name. -/
theorem memberOf?_of_mem {v : A} (hn : (ms.map Prod.fst).Nodup) (h : (name, v) ∈ ms) :
    memberOf? name ms = some v := by
  induction ms with
  | nil => cases h
  | cons m ms ih =>
      rw [List.map_cons, List.nodup_cons] at hn
      rw [memberOf?]
      rcases List.mem_cons.mp h with rfl | h
      · exact if_pos rfl
      · have hne : m.1 ≠ name := fun he => hn.1 (he ▸ List.mem_map_of_mem h)
        rw [if_neg hne, ih hn.2 h]

/-- Where each name stands once, the order of the members makes no difference. -/
theorem memberOf?_eq_of_perm (h : ms.Perm ms') (hn : (ms.map Prod.fst).Nodup) (name : String) :
    memberOf? name ms = memberOf? name ms' := by
  induction h with
  | nil => rfl
  | cons m _ ih => rw [memberOf?, memberOf?, ih (List.nodup_cons.mp hn).2]
  | swap m m' ms =>
      have hne : m'.1 ≠ m.1 := by
        intro he
        simp [he] at hn
      simp only [memberOf?]
      by_cases h : m.1 = name
      · simp [h, show m'.1 ≠ name from h ▸ hne]
      · simp [h]
  | trans h _ ih ih' => rw [ih hn, ih' ((h.map Prod.fst).nodup_iff.mp hn)]

end

end Templating
