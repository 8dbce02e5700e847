import Templating.Proofs.Printing

/-!
# Keywords that can be used

Building a dialect asks of a keyword that it is not blank, holds neither tag and differs
from the other words. It does not ask that the keyword can be read as the name of a call,
which ends at the first parenthesis and has no outer blanks. `recognize_call_iff` says that
this is what decides: a keyword without parenthesis and outer blanks names its command in
every call that has the arguments of the command, and no other keyword does so in any.
-/
namespace Templating
open Text

/-- A path or name that is written as an argument of a call. -/
structure Call.IsArgument (a : String) : Prop where
  ne_nil : a.toList ≠ []
  trimmed : trim a.toList = a.toList
  no_comma : ',' ∉ a.toList
  no_colon : ':' ∉ a.toList

instance (a : String) : Decidable (Call.IsArgument a) :=
  decidable_of_iff (_ ∧ _ ∧ _ ∧ _)
    ⟨fun ⟨hn, ht, hc, hl⟩ => ⟨hn, ht, hc, hl⟩, fun ⟨hn, ht, hc, hl⟩ => ⟨hn, ht, hc, hl⟩⟩

/-- The calls of a keyword and what they ask for: the commands of a path, the
subtemplates, and the general boundaries of blocks, which have no arguments. -/
inductive Call.Asks (selfWord keyword : String) : CommandKind → String → Directive → Prop
  | opening (b : BlockKind) {p q : String} : IsArgument p → SelfRewritten selfWord p q →
      Asks selfWord keyword (.opening b) (keyword ++ "(" ++ p ++ ")") (.opening b q)
  | otherwise (c : Choice) {p q : String} : IsArgument p → SelfRewritten selfWord p q →
      Asks selfWord keyword (.otherwise c) (keyword ++ "(" ++ p ++ ")") (.otherwise c q)
  | closing (b : BlockKind) {p q : String} : IsArgument p → SelfRewritten selfWord p q →
      Asks selfWord keyword (.closing b) (keyword ++ "(" ++ p ++ ")") (.closing b q)
  | subtemplate {n p q : String} : IsArgument n → IsArgument p → SelfRewritten selfWord p q →
      Asks selfWord keyword .subtemplate (keyword ++ "(" ++ n ++ ", " ++ p ++ ")")
        (.subtemplate n q)
  | anyElse : Asks selfWord keyword (.otherwise .truth) (keyword ++ "()") .anyElse
  | anyEnd : Asks selfWord keyword .anyEnd (keyword ++ "()") .anyEnd

/-- The kind of the keyword with which a directive is called. -/
def Directive.keywordKind : Directive → CommandKind
  | .anyElse => .otherwise .truth
  | d => d.kind

theorem Call.Asks.keywordKind_eq {selfWord k : String} {kind : CommandKind} {text : String}
    {directive : Directive} (h : Asks selfWord k kind text directive) :
    directive.keywordKind = kind := by
  cases h <;> rfl

theorem Dialect.keywordKind_of_directive? {d : Dialect} {kind : CommandKind}
    {arguments : List (List Char)} {directive : Directive}
    (h : d.directive? kind arguments = some directive) : directive.keywordKind = kind := by
  unfold directive? at h
  split at h <;> simp_all [Directive.keywordKind, Directive.kind, eq_comm]

/-- There is one rewriting of a path. -/
theorem SelfRewritten.eq_rewriteSelf {word p q : String} (h : SelfRewritten word p q) :
    q = String.ofList (ModelPath.rewriteSelf word.toList p.toList) := by
  cases h with
  | whole =>
      rw [ModelPath.rewriteSelf, if_pos rfl]
      rfl
  | below rest =>
      have hne : (word ++ "." ++ rest).toList ≠ word.toList := by simp
      have hafter : after? word.toList (word ++ "." ++ rest).toList = some ('.' :: rest.toList) :=
        after?_eq_some_iff.mpr (by simp)
      rw [ModelPath.rewriteSelf, if_neg hne, hafter]
      apply String.toList_injective
      simp [ModelPath.selfToken]
  | other hne hbelow =>
      rw [ModelPath.rewriteSelf, if_neg fun he => hne (String.toList_injective he)]
      split
      · rename_i r hr
        refine (hbelow (String.ofList r) (String.toList_injective ?_)).elim
        simpa using after?_eq_some_iff.mp hr
      · exact (String.ofList_toList).symm

namespace Dialect
variable {d : Dialect}

theorem path_of_argument {p q : String} (hp : Call.IsArgument p)
    (h : SelfRewritten d.wording.selfWord p q) : d.path p.toList = q := by
  rw [path, ModelPath.normalize_of_no_colon _ hp.no_colon, h.eq_rewriteSelf]

/-- What is read as the command of a keyword, in whatever sentence, tells that the keyword
can be read as the name of a call. -/
theorem keyword_of_recognize {k : String} {kind : CommandKind}
    (hk : (k, kind) ∈ d.wording.keywords) {s : Sentence} (hs : s.isCommand = true)
    {directive : Directive} (hkind : directive.keywordKind = kind)
    (h : d.recognize s = .ok ⟨s, directive⟩) : '(' ∉ k.toList ∧ trim k.toList = k.toList := by
  rcases (d.recognize_command_iff hs).mp h with ⟨-, -, rfl⟩ | ⟨call, kind', hread, hname, -, hd⟩
  · subst hkind
    simp [Directive.keywordKind, Directive.kind, Wording.keywords] at hk
  · obtain rfl : kind' = kind := (keywordKind_of_directive? hd).symm.trans hkind
    obtain rfl := Wording.keyword_unique (mem_of_kind? hname) hk
    obtain ⟨hp, htrim⟩ := Call.name_of_read? hread
    have hblank := d.keyword_not_blank hk
    rw [String.toList_ofList] at hblank ⊢
    exact ⟨hp, htrim hblank⟩

/-- A keyword that can be read as the name of a call is the command of the arguments that
stand in the parentheses after it. -/
theorem recognize_of_keyword {k : String} {kind : CommandKind}
    (hk : (k, kind) ∈ d.wording.keywords) (hp : '(' ∉ k.toList) (ht : trim k.toList = k.toList)
    {inner : String} {arguments : List (List Char)}
    (hinner : Call.argumentsIn inner.toList = arguments) (ha : ∀ a ∈ arguments, a ≠ [])
    {directive : Directive} (hd : d.directive? kind arguments = some directive)
    (place : Position) :
    d.recognize ⟨k ++ "(" ++ inner ++ ")", true, place⟩ =
      .ok ⟨⟨k ++ "(" ++ inner ++ ")", true, place⟩, directive⟩ := by
  have hne : k.toList ≠ [] := by
    intro h
    have hb := d.keyword_not_blank hk
    simp [h, allBlank] at hb
  have htext : (k ++ "(" ++ inner ++ ")").toList = k.toList ++ '(' :: (inner.toList ++ [')']) := by
    simp
  have hread := Call.read?_parenthesized hne ht hp inner.toList
  rw [hinner] at hread
  refine (d.recognize_command_iff rfl).mpr (.inr ⟨⟨k.toList, arguments⟩, kind, ?_, ?_, ha, hd⟩)
  · rw [htext, Call.trim_parenthesized hne ht, hread]
  · rw [String.ofList_toList, d.kind?_of_mem hk]

end Dialect

namespace Call

theorem argumentsIn_of_argument {p : String} (hp : IsArgument p) :
    argumentsIn p.toList = [p.toList] := by
  rw [argumentsIn, not_allBlank_of_trim_eq_self hp.trimmed hp.ne_nil, splitAt_of_not_mem hp.no_comma]
  simp [hp.trimmed]

theorem argumentsIn_of_arguments {n p : String} (hn : IsArgument n) (hp : IsArgument p) :
    argumentsIn (n ++ ", " ++ p).toList = [n.toList, p.toList] := by
  have htext : (n ++ ", " ++ p).toList = n.toList ++ ',' :: ' ' :: p.toList := by simp
  have hblank : allBlank (n ++ ", " ++ p).toList = false := by
    rw [htext, allBlank, List.all_append]
    simp [show isBlank ',' = false by decide]
  have hsecond : trim (' ' :: p.toList) = p.toList := by
    rw [trim, trimStart, List.dropWhile_cons_of_pos (by decide)]
    exact hp.trimmed
  rw [argumentsIn, hblank, htext, splitAt_append hn.no_comma,
    splitAt_of_not_mem (by simpa using hp.no_comma)]
  simp [hn.trimmed, hsecond]

end Call

/-- A keyword names its command in the calls that ask for it exactly when it holds no
parenthesis and has no outer blanks. -/
theorem Dialect.recognize_call_iff (d : Dialect) {k : String} {kind : CommandKind}
    (hk : (k, kind) ∈ d.wording.keywords) {text : String} {directive : Directive}
    (h : Call.Asks d.wording.selfWord k kind text directive) (place : Position) :
    d.recognize ⟨text, true, place⟩ = .ok ⟨⟨text, true, place⟩, directive⟩ ↔
      '(' ∉ k.toList ∧ trim k.toList = k.toList := by
  refine ⟨keyword_of_recognize hk rfl h.keywordKind_eq, fun ⟨hp, ht⟩ => ?_⟩
  cases h with
  | opening b hq hr | closing b hq hr =>
      refine recognize_of_keyword hk hp ht (Call.argumentsIn_of_argument hq) ?_ ?_ place
      · exact List.forall_mem_singleton.mpr hq.ne_nil
      · rw [directive?, path_of_argument hq hr]
  | otherwise c hq hr =>
      refine recognize_of_keyword hk hp ht (Call.argumentsIn_of_argument hq) ?_ ?_ place
      · exact List.forall_mem_singleton.mpr hq.ne_nil
      · cases c <;> rw [directive?, path_of_argument hq hr]
  | @subtemplate n p q hn hq hr =>
      have htext : k ++ "(" ++ n ++ ", " ++ p ++ ")" = k ++ "(" ++ (n ++ ", " ++ p) ++ ")" := by
        simp only [String.append_assoc]
      rw [htext]
      refine recognize_of_keyword hk hp ht (Call.argumentsIn_of_arguments hn hq) ?_ ?_ place
      · exact List.forall_mem_cons.mpr ⟨hn.ne_nil, List.forall_mem_singleton.mpr hq.ne_nil⟩
      · rw [directive?, path_of_argument hq hr, String.ofList_toList]
  | anyElse | anyEnd =>
      have htext : k ++ "()" = k ++ "(" ++ "" ++ ")" := by
        apply String.toList_injective
        simp
      rw [htext]
      exact recognize_of_keyword hk hp ht (rfl : Call.argumentsIn "".toList = [])
        (List.forall_mem_nil _) rfl place

/-- A keyword may hold blanks and a closing parenthesis. -/
theorem Dialect.recognize_insertion :
    let w : Wording := { templateWord := "put in)" }
    ∃ d : Dialect, w.build = .ok d ∧
      (("put in)", .subtemplate) ∈ d.wording.keywords ∧
        Call.Asks d.wording.selfWord "put in)" .subtemplate "put in)(row, this.lines)"
          (.subtemplate "row" "@self.lines")) ∧
      (d.recognize ⟨"put in)(row, this.lines)", true, ⟨2, 5⟩⟩ =
          .ok ⟨⟨"put in)(row, this.lines)", true, ⟨2, 5⟩⟩, .subtemplate "row" "@self.lines"⟩ ↔
        '(' ∉ "put in)".toList ∧ trim "put in)".toList = "put in)".toList) := by
  intro w
  have hw : w.flaw? = none := by decide +kernel
  have hk : ("put in)", .subtemplate) ∈ w.keywords := by decide +kernel
  have h : Call.Asks w.selfWord "put in)" .subtemplate "put in)(row, this.lines)"
      (.subtemplate "row" "@self.lines") :=
    .subtemplate (n := "row") (p := "this.lines") (by decide +kernel) (by decide +kernel)
      (.below "lines")
  exact ⟨⟨w, hw⟩, Wording.build_of_flawless hw, ⟨hk, h⟩, recognize_call_iff ⟨w, hw⟩ hk h ⟨2, 5⟩⟩

/-- A keyword with an opening parenthesis passes every check of the words, and none of its
calls is recognized: the name of the call ends before the parenthesis. -/
theorem Dialect.recognize_keyword_with_parenthesis :
    let w : Wording := { ifWord := "if(" }
    ∃ d : Dialect, w.build = .ok d ∧
      (("if(", .opening (.choice .truth)) ∈ d.wording.keywords ∧
        Call.Asks d.wording.selfWord "if(" (.opening (.choice .truth)) "if((paid)"
          (.opening (.choice .truth) "paid")) ∧
      d.recognize ⟨"if((paid)", true, ⟨1, 3⟩⟩ =
        .error (.unknownCommand "if" "if((paid)" ⟨1, 3⟩) := by
  have hpath : SelfRewritten "this" "paid" "paid" := by
    have h := ModelPath.selfRewritten "this" "paid"
    rwa [show String.ofList (ModelPath.rewriteSelf "this".toList "paid".toList) = "paid" by
      decide +kernel] at h
  refine ⟨⟨{ ifWord := "if(" }, by decide +kernel⟩, Wording.build_of_flawless _,
    ⟨by decide +kernel, ?_⟩, by decide +kernel⟩
  exact .opening (.choice .truth) (p := "paid") (by decide +kernel) hpath

end Templating
