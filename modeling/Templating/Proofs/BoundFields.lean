import Templating.Proofs.SelfReference

/-!
# Where the path of a field ends

The text of a field is cut at its first colon twice: when the field is recognized, so that the
self word is replaced in front of the colon, and when the field is run, where what stands in
front is the path of the value and what stands behind is its format. In between the text is put
together again. `Dialect.field_binds` says that the second cut falls where the first one did,
whatever the self word is spelled with: the format is what the text has behind its first colon,
and the path is what it has in front of it, without outer blanks and with the self word replaced.
-/
namespace Templating
open Text ModelPath

/-- What the text of a field stands for: the path of a value, and a format if there is a colon.
All that follows the first colon is format, blanks and further colons included. -/
inductive FieldBinds (selfWord : String) : String → String → Option String → Prop
  | plain {text value : String} : ':' ∉ text.toList → SelfRewritten selfWord text value →
      FieldBinds selfWord text value none
  | formatted {front value : String} (format : String) : ':' ∉ front.toList →
      SelfRewritten selfWord (trimmed front) value →
      FieldBinds selfWord (front ++ ":" ++ format) value (some format)

/-- Every text of a field stands for something. -/
theorem exists_fieldBinds (selfWord text : String) :
    ∃ value format?, FieldBinds selfWord text value format? := by
  cases hcut : cutAt ':' text.toList with
  | none => exact ⟨_, none, .plain (cutAt_eq_none.mp hcut) (selfRewritten selfWord text)⟩
  | some p =>
      obtain ⟨front, format⟩ := p
      obtain ⟨htext, hcolon⟩ := cutAt_eq_some hcut
      have hparts : text = String.ofList front ++ ":" ++ String.ofList format := by
        apply String.toList_injective
        simpa using htext
      rw [hparts]
      exact ⟨_, _, .formatted _ (by simpa using hcolon) (selfRewritten selfWord _)⟩

/-- Cutting a normalized path gives back the parts from which it was put together. -/
theorem ModelPath.splitFormat_normalize {selfWord text value : String} {format? : Option String}
    (h : FieldBinds selfWord text value format?) (htrim : trim text.toList = text.toList) :
    splitFormat (normalize selfWord.toList text.toList) =
      (value.toList, format?.map String.toList) := by
  cases h with
  | plain hcolon hvalue =>
      rw [normalize_of_no_colon _ hcolon, hvalue.eq_rewriteSelf,
        splitFormat_of_no_colon (not_mem_rewriteSelf _ hcolon), trim_rewriteSelf _ htrim]
      simp
  | @formatted front _ format hcolon hvalue =>
      have htext : (front ++ ":" ++ format).toList = front.toList ++ ':' :: format.toList := by
        simp
      have hfront : ':' ∉ (trimmed front).toList := by
        rw [toList_trimmed]
        exact fun hm => hcolon (trim_subset _ hm)
      have htrimmed : trim (trimmed front).toList = (trimmed front).toList := by
        rw [toList_trimmed, trim_trim]
      rw [htext, normalize_of_colon _ hcolon, ← toList_trimmed, hvalue.eq_rewriteSelf,
        splitFormat_of_colon (not_mem_rewriteSelf _ hfront), trim_rewriteSelf _ htrimmed]
      simp

/-- A field gives the value at its path under its format. -/
theorem Interpretation.fieldText_of_splitFormat {path value : String} {format? : Option String}
    (h : splitFormat path.toList = (value.toList, format?.map String.toList))
    (i : Interpretation) (scope : Scope) :
    i.fieldText scope path = (i.read scope value).bind fun v =>
      (i.formatter v format?).mapError (Fault.map (.unformattable path)) := by
  have hformat : (format?.map String.toList).map String.ofList = format? := by
    cases format? <;> simp
  simp only [fieldText, h, String.ofList_toList, hformat]
  cases i.read scope value with
  | error e => rfl
  | ok v => cases hv : i.formatter v format? <;> simp [Except.bind, Except.mapError, hv]

/-- A sentence that is recognized as a field stands for one path and perhaps a format, and these
are the path and the format that its command is run with. -/
theorem Dialect.field_binds (d : Dialect) {s : Sentence} {c : Command} {path : String}
    (h : d.recognize s = .ok c) (hc : c.directive = .field path) :
    (∃ value format?, FieldBinds d.wording.selfWord (trimmed s.text) value format?) ∧
      ∀ value format?, FieldBinds d.wording.selfWord (trimmed s.text) value format? →
        splitFormat path.toList = (value.toList, format?.map String.toList) ∧
          ∀ (i : Interpretation) (scope : Scope),
            i.fieldText scope path = (i.read scope value).bind fun v =>
              (i.formatter v format?).mapError (Fault.map (.unformattable path)) := by
  refine ⟨exists_fieldBinds _ _, fun value format? hbinds => ?_⟩
  have hsplit : splitFormat path.toList = (value.toList, format?.map String.toList) := by
    have htrim : trim (trimmed s.text).toList = (trimmed s.text).toList := by
      rw [toList_trimmed, trim_trim]
    rw [eq_path_of_recognize h hc, Dialect.path, String.toList_ofList, ← toList_trimmed]
    exact splitFormat_normalize hbinds htrim
  exact ⟨hsplit, Interpretation.fieldText_of_splitFormat hsplit⟩

/-- A self word with a blank in it, and a format with colons, a bar and blanks. -/
theorem Dialect.field_binds_row :
    let w : Wording := { selfWord := "the row" }
    let s : Sentence := ⟨" the row.größe : a|b: c ", true, ⟨2, 5⟩⟩
    ∃ d : Dialect, w.build = .ok d ∧
      d.recognize s = .ok ⟨s, .field "@self.größe: a|b: c"⟩ ∧
      FieldBinds d.wording.selfWord (trimmed s.text) "@self.größe" (some " a|b: c") ∧
      splitFormat "@self.größe: a|b: c".toList =
        ("@self.größe".toList, some " a|b: c".toList) := by
  intro w s
  have hw : w.flaw? = none := by decide +kernel
  have hread : Dialect.recognize ⟨w, hw⟩ s = .ok ⟨s, .field "@self.größe: a|b: c"⟩ := by
    decide +kernel +revert
  have htext : trimmed s.text = "the row.größe " ++ ":" ++ " a|b: c" := by decide +kernel
  have hbinds : FieldBinds w.selfWord (trimmed s.text) "@self.größe" (some " a|b: c") := by
    rw [htext]
    refine .formatted " a|b: c" (by decide +kernel) ?_
    rw [show trimmed "the row.größe " = "the row" ++ "." ++ "größe" by decide +kernel]
    exact .below "größe"
  exact ⟨⟨w, hw⟩, Wording.build_of_flawless hw, hread, hbinds,
    ((field_binds ⟨w, hw⟩ hread rfl).2 _ _ hbinds).1⟩

end Templating
