import Templating.Proofs.CallSyntax
import Templating.Proofs.Wording

/-!
# Counting arguments

Once a call is read and its name is a keyword, only the arguments decide whether it is a
command: none may be blank, and there have to be as many as the keyword takes. All other calls
are refused with the number of arguments that the keyword takes and the number of those that are
written and not blank. `Dialect.recognize_counts` says so, and when the two are the same number.
-/
namespace Templating
open Text

/-- The numbers of arguments that a keyword takes, and the kind of command it is with them. -/
inductive CommandKind.Takes : CommandKind → Nat → CommandKind → Prop
  | opening (b : BlockKind) : Takes (.opening b) 1 (.opening b)
  | otherwise (c : Choice) : Takes (.otherwise c) 1 (.otherwise c)
  | closing (b : BlockKind) : Takes (.closing b) 1 (.closing b)
  | subtemplate : Takes .subtemplate 2 .subtemplate
  | anyElse : Takes (.otherwise .truth) 0 .anyElse
  | anyEnd : Takes .anyEnd 0 .anyEnd

namespace Call
variable {call : Call} {text : List Char} {kind : CommandKind}

/-- How many arguments are not blank. -/
def written (call : Call) : Nat := call.arguments.countP fun a => !allBlank a

/-- The call of a keyword is a command. -/
structure Fits (call : Call) (kind result : CommandKind) : Prop where
  not_blank : ∀ a ∈ call.arguments, allBlank a = false
  takes : kind.Takes call.arguments.length result

/-- An argument that is read is blank only if it is empty. -/
theorem isEmpty_eq_allBlank (h : read? text = some call) {a : List Char}
    (ha : a ∈ call.arguments) : a.isEmpty = allBlank a := by
  obtain ⟨before, inner, blank, -, -, -, -, rfl⟩ := read?_eq_some_iff.mp h
  rcases a with _ | ⟨c, a⟩
  · rfl
  · rw [not_allBlank_of_trim_eq_self (of_mem_argumentsIn ha).1 (List.cons_ne_nil c a)]
    rfl

theorem length_filter_eq_written (h : read? text = some call) :
    (call.arguments.filter fun a => !a.isEmpty).length = call.written := by
  rw [written, ← List.countP_eq_length_filter]
  exact List.countP_congr fun a ha => by rw [isEmpty_eq_allBlank h ha]

theorem written_eq_length_iff :
    call.written = call.arguments.length ↔ ∀ a ∈ call.arguments, allBlank a = false := by
  simp [written, List.countP_eq_length]

end Call

namespace Dialect
variable {d : Dialect} {s : Sentence} {call : Call} {kind : CommandKind}

theorem takes_of_directive? {arguments : List (List Char)} {directive : Directive}
    (h : d.directive? kind arguments = some directive) :
    kind.Takes arguments.length directive.kind := by
  unfold directive? at h
  split at h <;> cases h <;> constructor

theorem exists_directive?_of_takes {arguments : List (List Char)} {result : CommandKind}
    (h : kind.Takes arguments.length result) :
    ∃ directive, d.directive? kind arguments = some directive ∧ directive.kind = result := by
  generalize hcount : arguments.length = count at h
  cases h with
  | opening b | closing b =>
      obtain ⟨p, rfl⟩ := List.length_eq_one_iff.mp hcount
      exact ⟨_, rfl, rfl⟩
  | otherwise c =>
      obtain ⟨p, rfl⟩ := List.length_eq_one_iff.mp hcount
      cases c <;> exact ⟨_, rfl, rfl⟩
  | subtemplate =>
      obtain ⟨n, p, rfl⟩ := List.length_eq_two.mp hcount
      exact ⟨_, rfl, rfl⟩
  | anyElse | anyEnd =>
      obtain rfl := List.length_eq_zero_iff.mp hcount
      exact ⟨_, rfl, rfl⟩

/-- A keyword takes as many arguments as its refusals ask for. -/
theorem takes_arity {k : String} (h : (k, kind) ∈ d.wording.keywords) :
    kind.Takes kind.arity kind := by
  cases kind with
  | literal | field | anyElse => simp [Wording.keywords] at h
  | opening b => exact .opening b
  | otherwise c => exact .otherwise c
  | closing b => exact .closing b
  | subtemplate => exact .subtemplate
  | anyEnd => exact .anyEnd

/-- What becomes of the call of a keyword. -/
theorem recognize_call (hs : s.isCommand = true)
    (hread : Call.read? (trim s.text.toList) = some call)
    (hkind : d.kind? (String.ofList call.name) = some kind) :
    d.recognize s = match d.directive? kind call.arguments with
      | some directive =>
          if call.written = call.arguments.length then .ok ⟨s, directive⟩
          else .error (.argumentCount (trimmed s.text) kind.arity call.written s.place)
      | none => .error (.argumentCount (trimmed s.text) kind.arity call.written s.place) := by
  have hne : (trim s.text.toList).isEmpty = false := by
    cases htext : trim s.text.toList with
    | nil => rw [htext] at hread; cases hread
    | cons c text => rfl
  cases hd : d.directive? kind call.arguments <;>
    simp only [recognize, hs, hne, hread, hkind, hd, Bool.not_true, Bool.false_eq_true, if_false,
      Call.length_filter_eq_written hread, trimmed]

/-- The call of a keyword is a command, or it is refused. -/
theorem recognize_call_cases (hs : s.isCommand = true)
    (hread : Call.read? (trim s.text.toList) = some call)
    (hkind : d.kind? (String.ofList call.name) = some kind) :
    (∃ c, d.recognize s = .ok c ∧ call.Fits kind c.kind) ∨
      d.recognize s =
          .error (.argumentCount (trimmed s.text) kind.arity call.written s.place) ∧
        ¬∃ result, call.Fits kind result := by
  rw [recognize_call hs hread hkind]
  cases hd : d.directive? kind call.arguments with
  | none =>
      refine .inr ⟨rfl, fun ⟨result, hfits⟩ => ?_⟩
      obtain ⟨directive, hdirective, -⟩ := exists_directive?_of_takes (d := d) hfits.takes
      rw [hd] at hdirective
      cases hdirective
  | some directive =>
      by_cases hblank : call.written = call.arguments.length
      · refine .inl ⟨⟨s, directive⟩, if_pos hblank, ?_, takes_of_directive? hd⟩
        exact Call.written_eq_length_iff.mp hblank
      · refine .inr ⟨if_neg hblank, fun ⟨result, hfits⟩ => hblank ?_⟩
        exact Call.written_eq_length_iff.mpr hfits.not_blank

end Dialect

theorem CommandKind.Takes.unique {kind result result' : CommandKind} {count : Nat}
    (h : kind.Takes count result) (h' : kind.Takes count result') : result = result' := by
  cases h <;> cases h' <;> rfl

/-- The call of a keyword is a command exactly if none of its arguments is blank and the keyword
takes as many as there are. If not, the error tells the number that the keyword takes and the
number of arguments that are not blank. The two are the same exactly if blank arguments stand
besides as many others as the keyword takes. -/
theorem Dialect.recognize_counts (d : Dialect) {s : Sentence} (hs : s.isCommand = true)
    {call : Call} (hread : Call.read? s.text.toList = some call) {kind : CommandKind}
    (hkind : d.kind? (String.ofList call.name) = some kind) :
    (∀ result, (∃ c, d.recognize s = .ok c ∧ c.kind = result) ↔ call.Fits kind result) ∧
      (∀ e, d.recognize s = .error e ↔
        e = .argumentCount (trimmed s.text) kind.arity call.written s.place ∧
          ¬∃ result, call.Fits kind result) ∧
      (d.recognize s = .error (.argumentCount (trimmed s.text) kind.arity kind.arity s.place) ↔
        call.written = kind.arity ∧ ∃ a ∈ call.arguments, allBlank a = true) := by
  have hkeyword := mem_of_kind? hkind
  have hname : allBlank call.name = false := by
    have h := d.keyword_not_blank hkeyword
    rwa [String.toList_ofList] at h
  have hcases := recognize_call_cases hs (Call.read?_trim hread hname) hkind
  have herror : ∀ e, d.recognize s = .error e ↔
      e = .argumentCount (trimmed s.text) kind.arity call.written s.place ∧
        ¬∃ result, call.Fits kind result := by
    intro e
    rcases hcases with ⟨c, hc, hfits⟩ | ⟨he, hnot⟩
    · rw [hc]
      exact ⟨nofun, fun h => (h.2 ⟨c.kind, hfits⟩).elim⟩
    · rw [he, Except.error.injEq, eq_comm]
      exact (and_iff_left hnot).symm
  refine ⟨fun result => ?_, herror, ?_⟩
  · rcases hcases with ⟨c, hc, hfits⟩ | ⟨he, hnot⟩
    · rw [hc]
      constructor
      · rintro ⟨_, ⟨⟩, rfl⟩
        exact hfits
      · exact fun h => ⟨c, rfl, hfits.takes.unique h.takes⟩
    · rw [he]
      exact ⟨nofun, fun h => (hnot ⟨result, h⟩).elim⟩
  · rw [herror, ParseError.argumentCount.injEq]
    constructor
    · rintro ⟨⟨-, -, hcount, -⟩, hnot⟩
      refine ⟨hcount.symm, ?_⟩
      by_contra hblank
      have hall : ∀ a ∈ call.arguments, allBlank a = false := by simpa using hblank
      refine hnot ⟨kind, hall, ?_⟩
      rw [← Call.written_eq_length_iff.mpr hall, ← hcount]
      exact takes_arity hkeyword
    · rintro ⟨hcount, a, ha, hblank⟩
      refine ⟨⟨rfl, rfl, hcount.symm, rfl⟩, fun ⟨result, hfits⟩ => ?_⟩
      rw [hfits.not_blank a ha] at hblank
      cases hblank

/-- An else with two blank arguments, which may have none or one. -/
theorem Dialect.recognize_blank_else :
    let s : Sentence := ⟨" else( , )", true, ⟨4, 7⟩⟩
    (s.isCommand = true ∧ Call.read? s.text.toList = some ⟨"else".toList, [[], []]⟩ ∧
        Dialect.standard.kind? "else" = some (.otherwise .truth)) ∧
      Dialect.standard.recognize s = .error (.argumentCount "else( , )" 1 0 ⟨4, 7⟩) := by
  intro s
  have hread : Call.read? s.text.toList = some ⟨"else".toList, [[], []]⟩ := by decide +kernel
  have hkind : Dialect.standard.kind? "else" = some (.otherwise .truth) := by decide +kernel
  have h := Dialect.standard.recognize_counts (s := s) rfl hread hkind
  refine ⟨⟨rfl, hread, hkind⟩, (h.2.1 _).mpr ⟨by decide +kernel, fun ⟨result, hfits⟩ => ?_⟩⟩
  exact absurd (hfits.not_blank [] List.mem_cons_self) (by decide)

/-- One blank argument too many. The error expects one argument, and has found one. -/
theorem Dialect.recognize_blank_argument :
    let s : Sentence := ⟨"if(paid,)", true, ⟨1, 3⟩⟩
    Call.read? s.text.toList = some ⟨"if".toList, ["paid".toList, []]⟩ ∧
      Dialect.standard.kind? "if" = some (.opening (.choice .truth)) ∧
      ¬∀ command expected found place,
        Dialect.standard.recognize s = .error (.argumentCount command expected found place) →
          found ≠ expected := by
  intro s
  refine ⟨by decide +kernel, by decide +kernel, fun h => ?_⟩
  exact h "if(paid,)" 1 1 ⟨1, 3⟩ (by decide +kernel) rfl

end Templating
