import Templating.Proofs.Keywords
import Templating.Proofs.Noninterference

/-!
# Paths from the self reference

A path may be written with the self token before its first name. Outside every loop that
changes nothing, since the token stands for the whole model. Inside loops the path of a
command is compared with the paths of the loops around it, and stays covered by the same
loops, at the same distance, if the token stands before the paths of all of them.
`render_underSelf` says that a template in which every path is written so gives what the
template without the token gives, for every model, registry, extractor and formatter; only
the path in an error tells them apart.
-/
namespace Templating
open Text ModelPath

/-- The path written from the self reference. -/
def ModelPath.selfPath (path : String) : String := "@self." ++ path

def Link.underSelf (l : Link) : Link := { l with path := selfPath l.path }

def Scope.underSelf (s : Scope) : Scope := { s with links := s.links.map Link.underSelf }

/-- The same error, reported for the path written from the self reference. -/
def RenderError.underSelf : RenderError → RenderError
  | .notBoolean path typeName => .notBoolean (selfPath path) typeName
  | .notIterable path typeName => .notIterable (selfPath path) typeName
  | .unreadable path cause => .unreadable (selfPath path) cause
  | .unformattable path cause => .unformattable (selfPath path) cause
  | .unknownSubtemplate name => .unknownSubtemplate name
  | .strayCommand command => .strayCommand command

/-- The same text, or the same fault but for the path in it. -/
def Outcome.underSelf : Outcome → Outcome
  | .ok text => .ok text
  | .error fault => .error (fault.map RenderError.underSelf)

namespace ModelPath

theorem toList_selfPath (path : String) :
    (selfPath path).toList = (selfToken ++ ['.']) ++ path.toList := by
  simp [selfPath, selfToken]

theorem selfPath_inj {path path' : String} : selfPath path = selfPath path' ↔ path = path' := by
  rw [← String.toList_inj, toList_selfPath, toList_selfPath, List.append_cancel_left_eq,
    String.toList_inj]

theorem length_selfPath (path : String) : (selfPath path).length = path.length + 6 := by
  rw [← String.length_toList, toList_selfPath, List.length_append, String.length_toList]
  exact Nat.add_comm _ _

/-- What is left of a path below another one is the same from the self reference. -/
theorem drop_selfPath (above path : String) (n : Nat) :
    (selfPath path).toList.drop ((selfPath above).length + n) =
      path.toList.drop (above.length + n) := by
  have hlength : (selfPath above).length + n = (selfToken ++ ['.']).length +
      (above.length + n) := by
    rw [length_selfPath, Nat.add_right_comm, Nat.add_comm]
    rfl
  rw [toList_selfPath, hlength, List.drop_length_add_append]

end ModelPath

theorem Text.after?_append_append (a p s : List Char) : after? (a ++ p) (a ++ s) = after? p s := by
  induction a with
  | nil => rfl
  | cons c a ih => simp [after?, ih]

theorem Link.covers_underSelf (l : Link) (path : String) :
    l.underSelf.covers (selfPath path) = l.covers path := by
  simp only [covers, underSelf, toList_selfPath, after?_append_append]

/-- The link that a path belongs to stays the longest that covers it. -/
theorem bestLink?_underSelf (path : String) (best : Option Link) (links : List Link) :
    bestLink? (selfPath path) (best.map Link.underSelf) (links.map Link.underSelf) =
      (bestLink? path best links).map Link.underSelf := by
  induction links generalizing best with
  | nil => rfl
  | cons l links ih =>
      simp only [List.map_cons, bestLink?, ← ih, l.covers_underSelf]
      congr 1
      cases best with
      | none => cases l.covers path <;> rfl
      | some b =>
          have hlength : b.underSelf.path.length < l.underSelf.path.length ↔
              b.path.length < l.path.length := by
            simp only [Link.underSelf, length_selfPath, Nat.add_lt_add_iff_right]
          simp only [Option.map_some, hlength]
          split <;> rfl

/-- The token before a path is taken off again before the extractor is asked. -/
theorem Extractor.below_selfPath (x : Extractor) (v : Value) (path : String) :
    x.below v (selfPath path).toList = x.extract v path := by
  rw [below, toList_selfPath, if_neg (by simp [selfToken]), after?_eq_some_iff.mpr rfl]
  exact congrArg _ String.ofList_toList

/-- A path is read to the same end from the self reference, inside loops whose paths are
written so too. -/
theorem Scope.resolve_underSelf {path : String} (hne : path ≠ "")
    (hself : firstName path ≠ "@self") (s : Scope) (x : Extractor) :
    s.underSelf.resolve x (selfPath path) = s.resolve x path := by
  have hbest : bestLink? (selfPath path) none s.underSelf.links =
      (bestLink? path none s.links).map Link.underSelf := bestLink?_underSelf path none s.links
  unfold resolve
  rw [hbest]
  cases bestLink? path none s.links with
  | some l =>
      have hdrop := drop_selfPath l.path path 1
      simp only [Option.map_some, Link.underSelf, selfPath_inj, hdrop]
  | none =>
      have hempty : (selfPath path).isEmpty = false := by
        simp [selfPath]
      dsimp only [Option.map_none]
      rw [hempty, if_neg (by simp), if_neg (by simpa using hne), x.below_selfPath,
        Extractor.below_of_firstName hself]
      rfl

namespace ModelPath

/-- Field paths as parsing writes them: the path before a format has no outer blanks. -/
inductive IsNormal : List Char → Prop
  | plain {value : List Char} : ':' ∉ value → trim value = value → IsNormal value
  | formatted {value : List Char} (format : List Char) : ':' ∉ value → trim value = value →
      IsNormal (value ++ ':' :: format)

/-- What stands after the token has no outer blanks if it has none at its end. -/
theorem trim_below_self {s : List Char} (h : ∀ c ∈ ('.' :: s).getLast?, isBlank c = false) :
    trim (selfToken ++ '.' :: s) = selfToken ++ '.' :: s := by
  have hhead : (selfToken ++ '.' :: s).head? = some '@' := rfl
  rw [trim_eq_self_iff, hhead, List.getLast?_append_cons]
  exact ⟨by simpa using (by decide : isBlank '@' = false), h⟩

theorem trim_rewriteSelf (keyword : List Char) {path : List Char} (h : trim path = path) :
    trim (rewriteSelf keyword path) = rewriteSelf keyword path := by
  unfold rewriteSelf
  split
  · decide
  · split
    · rename_i r hr
      apply trim_below_self
      have hlast := (trim_eq_self_iff.mp h).2
      rwa [after?_eq_some_iff.mp hr, List.getLast?_append_cons] at hlast
    · exact h

theorem not_mem_rewriteSelf (keyword : List Char) {path : List Char} (h : ':' ∉ path) :
    ':' ∉ rewriteSelf keyword path := by
  unfold rewriteSelf
  split
  · decide
  · split
    · rename_i r hr
      rw [after?_eq_some_iff.mp hr] at h
      simp only [List.mem_append, List.mem_cons, not_or] at h ⊢
      exact ⟨by decide, h.2⟩
    · exact h

/-- Normalizing the trimmed text of a field gives a path of this form. -/
theorem isNormal_normalize (keyword text : List Char) :
    IsNormal (normalize keyword (trim text)) := by
  unfold normalize
  split
  · rename_i value format hcut
    have hcolon : ':' ∉ trim value := fun hm => (cutAt_eq_some hcut).2 (trim_subset value hm)
    exact .formatted format (not_mem_rewriteSelf keyword hcolon)
      (trim_rewriteSelf keyword (trim_trim value))
  · rename_i hcut
    exact .plain (not_mem_rewriteSelf keyword (cutAt_eq_none.mp hcut))
      (trim_rewriteSelf keyword (trim_trim text))

theorem trim_self_append {value : List Char} (h : trim value = value) :
    trim (selfToken ++ '.' :: value) = selfToken ++ '.' :: value := by
  apply trim_below_self
  cases value with
  | nil => simpa using (by decide : isBlank '.' = false)
  | cons c value =>
      rw [List.getLast?_cons_cons]
      exact (trim_eq_self_iff.mp h).2

theorem splitFormat_of_colon {value : List Char} (h : ':' ∉ value) (format : List Char) :
    splitFormat (value ++ ':' :: format) = (trim value, some format) := by
  rw [splitFormat, cutAt_append h]

theorem splitFormat_of_no_colon {value : List Char} (h : ':' ∉ value) :
    splitFormat value = (trim value, none) := by
  rw [splitFormat, cutAt_eq_none.mpr h]

/-- The format of a field stays, and the path before it is the one from the self
reference. -/
theorem splitFormat_selfPath {path : String} (h : IsNormal path.toList) :
    splitFormat (selfPath path).toList =
      (selfToken ++ '.' :: (splitFormat path.toList).1, (splitFormat path.toList).2) := by
  rw [toList_selfPath, List.append_assoc, List.singleton_append]
  generalize path.toList = p at h ⊢
  cases h with
  | plain hcolon htrim =>
      have hcolon' : ':' ∉ selfToken ++ '.' :: p := by
        simp [hcolon, selfToken]
      rw [splitFormat_of_no_colon hcolon, splitFormat_of_no_colon hcolon', htrim,
        trim_self_append htrim]
  | @formatted value format hcolon htrim =>
      have hcolon' : ':' ∉ selfToken ++ '.' :: value := by
        simp [hcolon, selfToken]
      rw [← List.cons_append, ← List.append_assoc, splitFormat_of_colon hcolon,
        splitFormat_of_colon hcolon', htrim, trim_self_append htrim]

end ModelPath

/-- A sentence that is read as a field says its path. -/
theorem Dialect.eq_path_of_recognize {d : Dialect} {s : Sentence} {c : Command} {path : String}
    (h : d.recognize s = .ok c) (hpath : c.directive = .field path) :
    path = d.path (trim s.text.toList) := by
  obtain ⟨directive, rfl, -⟩ := reads_of_recognize h
  obtain rfl : directive = .field path := hpath
  cases hs : s.isCommand with
  | false =>
      rw [recognize_of_literal hs] at h
      cases h
  | true =>
      rcases (d.recognize_command_iff hs).mp h with ⟨-, -, hd⟩ | ⟨call, kind, -, -, -, hd⟩
      · exact Directive.field.inj hd
      · obtain rfl : CommandKind.field = kind := keywordKind_of_directive? hd
        cases hd

/-- The path of a field of a parsed tree. -/
theorem Dialect.isNormal_of_mem_commands {d : Dialect} {source : String} {tree : Node}
    (h : d.parse source = .ok tree) {c : Command} (hc : c ∈ tree.commands) {path : String}
    (hpath : c.directive = .field path) : IsNormal path.toList := by
  rw [eq_path_of_recognize (recognize_of_mem_commands h hc) hpath, Dialect.path,
    String.toList_ofList]
  exact isNormal_normalize _ _

/-- Outcomes that are the same but for the path in an error. -/
def Likeness.selfReference : Likeness where
  scopes s t := t = s.underSelf
  outcomes x y := y = x ∨ y = x.underSelf
  ok _ := .inl rfl
  andThen := by
    intro x y x' y' h h'
    cases x with
    | error e => rcases h with rfl | rfl <;> simp [Outcome.underSelf]
    | ok text =>
        obtain rfl : y = .ok text := h.elim id id
        cases x' with
        | error e => rcases h' with rfl | rfl <;> simp [Outcome.underSelf, Outcome.andThen]
        | ok text' =>
            obtain rfl : y' = .ok text' := h'.elim id id
            exact .inl rfl

/-- In corresponding scopes a path and the one from the self reference lead to one value or
fail for one cause. -/
theorem Interpretation.readsAlike_underSelf (i : Interpretation) {path : String} (hne : path ≠ "")
    (hself : firstName path ≠ "@self") (s : Scope) :
    Likeness.selfReference.ReadsAlike (i.read s path) (i.read s.underSelf (selfPath path)) := by
  rw [read, read, s.resolve_underSelf hne hself]
  cases s.resolve i.extractor path with
  | error e => exact .fault (.inr rfl)
  | ok v => exact .value v

theorem Interpretation.fieldText_underSelf (i : Interpretation) {path : String}
    (hpath : IsNormal path.toList) {value : String}
    (hvalue : String.ofList (splitFormat path.toList).1 = value) (hne : value ≠ "")
    (hself : firstName value ≠ "@self") (s : Scope) :
    Likeness.selfReference.outcomes (i.fieldText s path)
      (i.fieldText s.underSelf (selfPath path)) := by
  have hunder : String.ofList (selfToken ++ '.' :: (splitFormat path.toList).1) =
      selfPath value := by
    apply String.toList_injective
    rw [← hvalue, String.toList_ofList, toList_selfPath, String.toList_ofList, List.append_assoc,
      List.singleton_append]
  have hread := i.readsAlike_underSelf hne hself s
  unfold fieldText
  rw [splitFormat_selfPath hpath]
  dsimp only
  rw [hunder, hvalue]
  generalize i.read s value = x at hread
  generalize i.read s.underSelf (selfPath value) = y at hread
  cases hread with
  | fault h => exact h
  | value v =>
      dsimp only
      cases i.formatter v ((splitFormat path.toList).2.map String.ofList) with
      | ok text => exact .inl rfl
      | error e =>
          refine .inr ?_
          cases e <;> rfl

/-- A command keeps in step with the one whose path is written from the self reference. -/
theorem Command.follows_underSelf (i : Interpretation) (call : String → Value → Outcome)
    {c : Command} (hfield : ∀ {path}, c.directive = .field path → IsNormal path.toList)
    (hpaths : ∀ path ∈ c.directive.valuePath?, path ≠ "" ∧ firstName path ≠ "@self") :
    Likeness.selfReference.Follows i call call selfPath c where
  field := by
    rintro s _ path hd rfl
    obtain ⟨hne, hself⟩ := hpaths _ (by rw [hd]; rfl)
    exact i.fieldText_underSelf (hfield hd) rfl hne hself s
  opening := by
    rintro s _ b path hd rfl
    obtain ⟨hne, hself⟩ := hpaths path (by rw [hd]; rfl)
    exact i.readsAlike_underSelf hne hself s
  enter := by
    rintro s _ path - rfl item
    rfl
  subtemplate := by
    rintro s _ name path hd rfl
    obtain ⟨hne, hself⟩ := hpaths path (by rw [hd]; rfl)
    exact i.readsAlike_underSelf hne hself s
  call _ _ := .inl rfl
  notBoolean _ _ := .inr rfl
  notIterable _ _ := .inr rfl
  boundary _ := .inl rfl

/-- A parsed template whose value paths are not empty and do not begin with the self token
gives, when all its paths are written from the self reference, the same document, or the
same error but for the path that is reported. -/
theorem Interpretation.render_underSelf (i : Interpretation) {d : Dialect} {source : String}
    {tree : Node} (h : d.parse source = .ok tree)
    (hpaths : ∀ path ∈ tree.valuePaths, path ≠ "" ∧ firstName path ≠ "@self")
    (registry : Registry) (model : Value) :
    let t : Template := .mk source tree registry
    let t' : Template := .mk source (tree.mapPaths selfPath) registry
    i.render t' model = i.render t model ∨
      i.render t' model = Outcome.underSelf (i.render t model) := by
  intro t t'
  have hfollows : ∀ c ∈ tree.commands, Likeness.selfReference.Follows i
      (Registry.call i registry) (Registry.call i registry) selfPath c := fun c hc =>
    Command.follows_underSelf i _ (Dialect.isNormal_of_mem_commands h hc)
      fun path hpath => hpaths path (Node.mem_valuePaths hc hpath)
  have hscopes : Likeness.selfReference.scopes ⟨model, []⟩ ⟨model, []⟩ := rfl
  rw [i.render_eq_denote_tree, i.render_eq_denote_tree]
  exact Likeness.denote_mapPaths_related tree hfollows hscopes

/-- A loop with a field, a choice and a subtemplate of its items. For a job with all its members
there is one document both ways. For a job that does not say whether it is due the path of the
choice is reported as it is written. -/
theorem Interpretation.render_jobs_underSelf :
    let source :=
      "[[for(jobs)]][[jobs.id:D3]][[if(jobs.due)]][[template(row,jobs)]][[end()]][[end()]]"
    let registry : Registry := [("row", .ofTree "" (.group [.leaf ⟨default, .field "name"⟩]))]
    let model (job : List (String × Value)) : Value := .object [("jobs", .array [.object job])]
    let job := [("id", .number (.int 7)), ("due", .bool true), ("name", .string " Ann")]
    let undated := [("id", .number (.int 7)), ("name", .string " Ann")]
    let tree : Node := .group [.block ⟨⟨"for(jobs)", true, ⟨1, 3⟩⟩, .opening .loop "jobs"⟩
      [.leaf ⟨⟨"jobs.id:D3", true, ⟨1, 16⟩⟩, .field "jobs.id:D3"⟩,
        .block ⟨⟨"if(jobs.due)", true, ⟨1, 30⟩⟩, .opening (.choice .truth) "jobs.due"⟩
          [.leaf ⟨⟨"template(row,jobs)", true, ⟨1, 46⟩⟩, .subtemplate "row" "jobs"⟩] none] none]
    (Dialect.standard.parse source = .ok tree ∧
        ∀ path ∈ tree.valuePaths, path ≠ "" ∧ firstName path ≠ "@self") ∧
      (render {} (.mk source tree registry) (model job) = .ok "007 Ann" ∧
        render {} (.mk source (tree.mapPaths selfPath) registry) (model job) = .ok "007 Ann") ∧
      ∃ cause, render {} (.mk source tree registry) (model undated) =
          .error (.failure (.unreadable "jobs.due" cause)) ∧
        render {} (.mk source (tree.mapPaths selfPath) registry) (model undated) =
          .error (.failure (.unreadable "@self.jobs.due" cause)) := by
  intro source registry model job undated tree
  have hparse : Dialect.standard.parse source = .ok tree := by
    rw [Dialect.parse, Dialect.commands, segment_eq_read Dialect.standard.tags_sound]
    -- The marks are computed from the literal, not from its name.
    simp only [source]
    rfl
  have hvalues : tree.valuePaths = ["jobs", "jobs.id", "jobs.due", "jobs"] := by decide +kernel
  have hpaths : ∀ path ∈ tree.valuePaths, path ≠ "" ∧ firstName path ≠ "@self" := by
    rw [hvalues]
    decide +kernel
  have halike := render_underSelf {} hparse hpaths registry
  have hjob : render {} (.mk source tree registry) (model job) = .ok "007 Ann" := by
    rw [render_eq_denote_tree]
    decide +kernel
  have hjob' : render {} (.mk source (tree.mapPaths selfPath) registry) (model job) =
      .ok "007 Ann" := by
    rcases halike (model job) with h | h
    · rw [h, hjob]
    · rw [h, hjob]
      rfl
  refine ⟨⟨hparse, hpaths⟩, ⟨hjob, hjob'⟩, .noMember "due" "", ?_, ?_⟩
  all_goals
    rw [render_eq_denote_tree]
    decide +kernel

end Templating
