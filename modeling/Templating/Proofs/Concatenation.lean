import Mathlib.Data.List.Basic
import Templating.Proofs.Denotation
import Templating.Proofs.Parsing

/-!
# One template after another

Two texts that both parse can be written one after the other, unless a tag begins in
the first and ends in the second. The marks of the joined text are those of its parts.
At the seam a literal text of the first part may run on into the second, so that two
sentences become one; the sentences behind the seam have moved. Neither is seen when
the template is rendered: the document is that of the first part and then that of the
second, and the first fault is the fault of the whole.
-/
namespace Templating

namespace Tags
variable {t : Tags} {a b : List Char}

/-- No tag that occurs in the joined text begins in the first part and ends in the second. -/
def Apart (t : Tags) (a b : List Char) : Prop :=
  ∀ n < a.length, ∀ tag ∈ [t.opening, t.closing],
    tag <+: (a ++ b).drop n → n + tag.length ≤ a.length

instance (t : Tags) (a b : List Char) : Decidable (t.Apart a b) :=
  inferInstanceAs (Decidable (∀ n < a.length, _))

theorem Apart.tail {c : Char} (h : t.Apart (c :: a) b) : t.Apart a b := by
  intro n hn tag htag hp
  have hl := h (n + 1) (by simpa using hn) tag htag (by simpa using hp)
  rw [List.length_cons] at hl
  omega

/-- A tag that begins in the first part is seen there. -/
theorem Apart.isPrefixOf {c : Char} (h : t.Apart (c :: a) b) (tag : List Char)
    (htag : tag ∈ [t.opening, t.closing]) :
    tag.isPrefixOf (c :: (a ++ b)) = tag.isPrefixOf (c :: a) := by
  rw [Bool.eq_iff_iff, List.isPrefixOf_iff_prefix, List.isPrefixOf_iff_prefix]
  constructor
  · intro hp
    have hl := h 0 (by simp) tag htag hp
    exact List.prefix_of_prefix_length_le hp (List.prefix_append (c :: a) b) (by omega)
  · intro hp
    exact hp.trans (List.prefix_append (c :: a) b)

theorem marks_append (h : t.Apart a b) {skip : Nat} (hk : skip ≤ a.length) :
    t.marks skip (a ++ b) = t.marks skip a ++ t.marks 0 b := by
  induction a generalizing skip with
  | nil =>
      obtain rfl : skip = 0 := by simpa using hk
      rfl
  | cons c a ih =>
      cases skip with
      | succ n => exact ih h.tail (by simpa using hk)
      | zero =>
          have ho := h.isPrefixOf t.opening (by simp)
          have hc := h.isPrefixOf t.closing (by simp)
          have hle : ∀ tag : List Char, tag.isPrefixOf (c :: a) = true →
              tag.length - 1 ≤ a.length := by
            intro tag hp
            have hl := (List.isPrefixOf_iff_prefix.mp hp).length_le
            rw [List.length_cons] at hl
            omega
          rw [List.cons_append]
          cases hob : t.opening.isPrefixOf (c :: a) with
          | true =>
              rw [marks_of_opening hob, marks_of_opening (ho.trans hob),
                ih h.tail (hle _ hob)]
              rfl
          | false =>
              cases hcb : t.closing.isPrefixOf (c :: a) with
              | true =>
                  rw [marks_of_closing hob hcb,
                    marks_of_closing (ho.trans hob) (hc.trans hcb), ih h.tail (hle _ hcb)]
                  rfl
              | false =>
                  have hb : t.begins (c :: a) = false := by simp [begins, hob, hcb]
                  have hb' : t.begins (c :: (a ++ b)) = false := by
                    simp [begins, ho, hc, hob, hcb]
                  rw [marks_of_letter hb, marks_of_letter hb', ih h.tail (Nat.zero_le _)]
                  rfl

end Tags

namespace Mark

/-- Up to the letters held at its end, what a row of marks says stands first in what any
longer row says. -/
theorem stretches_append {held : List Char} {inCommand : Bool} {ms : List Mark}
    {xs : List Stretch} (h : stretches held inCommand ms = some xs) :
    ∃ ys u, xs = ys ++ Stretch.ofHeld false u ∧
      ∀ ms', stretches held inCommand (ms ++ ms') = (stretches u false ms').map (ys ++ ·) := by
  induction ms generalizing held inCommand xs with
  | nil =>
      cases inCommand with
      | true => cases h
      | false =>
          refine ⟨[], held, ?_, fun ms' => by simp⟩
          simpa [stretches] using h.symm
  | cons m ms ih =>
      cases m with
      | letter c =>
          rw [stretches] at h
          obtain ⟨ys, u, hxs, hall⟩ := ih h
          exact ⟨ys, u, hxs, fun ms' => by rw [List.cons_append, stretches, hall]⟩
      | opening =>
          cases inCommand with
          | true => cases h
          | false =>
              obtain ⟨zs, hzs, rfl⟩ := Option.map_eq_some_iff.mp h
              obtain ⟨ys, u, rfl, hall⟩ := ih hzs
              refine ⟨Stretch.ofHeld false held ++ ys, u, by rw [List.append_assoc], ?_⟩
              intro ms'
              rw [List.cons_append, stretches, hall]
              simp [Function.comp_def]
      | closing =>
          cases inCommand with
          | false => cases h
          | true =>
              obtain ⟨zs, hzs, rfl⟩ := Option.map_eq_some_iff.mp h
              obtain ⟨ys, u, rfl, hall⟩ := ih hzs
              refine ⟨Stretch.ofHeld true held ++ ys, u, by rw [List.append_assoc], ?_⟩
              intro ms'
              rw [List.cons_append, stretches, hall]
              simp [Function.comp_def]

/-- Letters held before a row of marks only lengthen the literal text it begins with. -/
theorem stretches_held {held : List Char} {ms : List Mark} {xs : List Stretch}
    (h : stretches held false ms = some xs) :
    ∃ w rest, xs = Stretch.ofHeld false (held ++ w) ++ rest ∧
      ∀ u, stretches u false ms = some (Stretch.ofHeld false (u ++ w) ++ rest) := by
  induction ms generalizing held with
  | nil =>
      refine ⟨[], [], ?_, fun u => by simp [stretches]⟩
      simpa [stretches] using h.symm
  | cons m ms ih =>
      cases m with
      | letter c =>
          rw [stretches] at h
          obtain ⟨w, rest, hxs, hall⟩ := ih h
          refine ⟨c :: w, rest, by simpa using hxs, fun u => ?_⟩
          rw [stretches, hall]
          simp
      | opening =>
          obtain ⟨ys, hys, rfl⟩ := Option.map_eq_some_iff.mp h
          refine ⟨[], ys, by rw [List.append_nil], fun u => ?_⟩
          rw [stretches, hys, List.append_nil]
          rfl
      | closing => cases h

end Mark

namespace Forest

theorem WellFormed.of_append {f g : Forest} (h : WellFormed (f ++ g)) :
    WellFormed f ∧ WellFormed g := by
  induction f with
  | nil => exact ⟨.nil, h⟩
  | cons n f ih =>
      cases h with
      | leaf hc hr => exact ⟨.leaf hc (ih hr).1, (ih hr).2⟩
      | choice hc hb hr => exact ⟨.choice hc hb (ih hr).1, (ih hr).2⟩
      | branches hc hb ha hr => exact ⟨.branches hc hb ha (ih hr).1, (ih hr).2⟩
      | loop hc hb hr => exact ⟨.loop hc hb (ih hr).1, (ih hr).2⟩

/-- A plain command at the end of a spelling is the last node. -/
theorem Spells.of_concat {f : Forest} {cs : List Command} {c : Command}
    (hs : Spells f (cs ++ [c])) (hc : c.directive.isPlain = true) :
    ∃ g, f = g ++ [.leaf c] ∧ Spells g cs := by
  have hends : ∀ {o e : Command}, o.directive.Ends e.directive → e ≠ c := by
    rintro o e he rfl
    have hb := he.isBoundary
    rw [Directive.isBoundary_of_isPlain hc] at hb
    cases hb
  generalize hds : cs ++ [c] = ds at hs
  induction hs generalizing cs with
  | nil => simp at hds
  | @leaf x rest xs hrest ih =>
      rcases List.eq_nil_or_concat' xs with rfl | ⟨ys, y, rfl⟩
      · obtain ⟨rfl, rfl⟩ := List.append_singleton_inj.mp (hds.trans (List.nil_append [x]).symm)
        cases hrest
        exact ⟨[], rfl, .nil⟩
      · rw [← List.cons_append] at hds
        obtain ⟨rfl, rfl⟩ := List.append_singleton_inj.mp hds
        obtain ⟨g, rfl, hg⟩ := ih rfl
        exact ⟨.leaf x :: g, rfl, .leaf x hg⟩
  | @block o e body rest bs xs he hb hrest _ ih =>
      rcases List.eq_nil_or_concat' xs with rfl | ⟨ys, y, rfl⟩
      · have hx : cs ++ [c] = (o :: bs) ++ [e] := by simpa using hds
        exact (hends he (List.append_singleton_inj.mp hx).2.symm).elim
      · have hx : cs ++ [c] = (o :: (bs ++ e :: ys)) ++ [y] := by simpa using hds
        obtain ⟨rfl, rfl⟩ := List.append_singleton_inj.mp hx
        obtain ⟨g, rfl, hg⟩ := ih rfl
        exact ⟨.block o body none :: g, rfl, .block he hb hg⟩
  | @branches o t e body alternative rest bs as xs ht he hb ha hrest _ _ ih =>
      rcases List.eq_nil_or_concat' xs with rfl | ⟨ys, y, rfl⟩
      · have hx : cs ++ [c] = (o :: (bs ++ t :: as)) ++ [e] := by simpa using hds
        exact (hends he (List.append_singleton_inj.mp hx).2.symm).elim
      · have hx : cs ++ [c] = (o :: (bs ++ t :: (as ++ e :: ys))) ++ [y] := by simpa using hds
        obtain ⟨rfl, rfl⟩ := List.append_singleton_inj.mp hx
        obtain ⟨g, rfl, hg⟩ := ih rfl
        exact ⟨.block o body (some alternative) :: g, rfl, .branches ht he hb ha hg⟩

end Forest

/-- What a command was read from and what it does, wherever it stands. -/
def Command.content (c : Command) : String × Directive := (c.sentence.text, c.directive)

theorem Command.denote_of_content {c c' : Command} (h : c'.content = c.content) (i : Interpretation)
    (call : String → Value → Outcome) (body alternative : Scope → Outcome) :
    c'.denote i call body alternative = c.denote i call body alternative := by
  obtain ⟨ht, hd⟩ := Prod.mk.inj h
  funext scope
  simp only [denote, name, ht, hd]

/-- Nodes that mean the same in every scope, for whatever interprets them. -/
def Forest.Alike (f g : Forest) : Prop :=
  ∀ i call scope, Node.denoteAll i call f scope = Node.denoteAll i call g scope

namespace Forest.Alike

theorem leaf {c c' : Command} {f g : Forest} (hc : c'.content = c.content) (h : Alike f g) :
    Alike (.leaf c' :: f) (.leaf c :: g) := by
  intro i call scope
  rw [Node.denoteAll, Node.denoteAll, Node.denote, Node.denote, Command.denote_of_content hc, h]

theorem block {c c' : Command} {body body' f g : Forest} (hc : c'.content = c.content)
    (hb : Alike body' body) (h : Alike f g) :
    Alike (.block c' body' none :: f) (.block c body none :: g) := by
  intro i call scope
  have hbody := funext (hb i call)
  rw [Node.denoteAll, Node.denoteAll, Node.denote, Node.denote, Command.denote_of_content hc,
    hbody, h]

theorem branches {c c' : Command} {body body' alternative alternative' f g : Forest}
    (hc : c'.content = c.content) (hb : Alike body' body) (ha : Alike alternative' alternative)
    (h : Alike f g) :
    Alike (.block c' body' (some alternative') :: f)
      (.block c body (some alternative) :: g) := by
  intro i call scope
  have hbody := funext (hb i call)
  have halt := funext (ha i call)
  rw [Node.denoteAll, Node.denoteAll, Node.denote, Node.denote, Command.denote_of_content hc,
    hbody, halt, h]

end Forest.Alike

/-- Commands that say the same spell forests that mean the same. -/
theorem Forest.Spells.alike {f : Forest} {cs cs' : List Command} (hs : Spells f cs)
    (hw : WellFormed f) (h : cs'.map Command.content = cs.map Command.content) :
    ∃ f', WellFormed f' ∧ Spells f' cs' ∧ Alike f' f := by
  have hdir : ∀ {c c' : Command}, c'.content = c.content → c'.directive = c.directive :=
    fun h => congrArg Prod.snd h
  induction hs generalizing cs' with
  | nil =>
      obtain rfl : cs' = [] := by simpa using h
      exact ⟨[], .nil, .nil, fun _ _ _ => rfl⟩
  | @leaf c rest cs _ ih =>
      obtain ⟨c', cs', rfl, hc, hcs⟩ := List.map_eq_cons_iff.mp h
      cases hw with
      | leaf hplain hr =>
          obtain ⟨f', hw', hs', hf⟩ := ih hr hcs
          exact ⟨.leaf c' :: f', .leaf (hdir hc ▸ hplain) hw', .leaf c' hs', .leaf hc hf⟩
  | @block o e body rest bs cs he _ _ ihb ih =>
      simp only [List.map_cons, List.map_append, List.map_eq_cons_iff,
        List.map_eq_append_iff] at h
      obtain ⟨o', -, rfl, ho, bs', -, rfl, hbs, e', cs', rfl, he', hcs⟩ := h
      obtain ⟨hopen, hb, hr⟩ := hw.of_block
      obtain ⟨body', hwb, hsb, hfb⟩ := ihb hb hbs
      obtain ⟨f', hw', hs', hf⟩ := ih hr hcs
      refine ⟨.block o' body' none :: f', ?_, .block ?_ hsb hs', .block ho hfb hf⟩
      · obtain ⟨k | _, p, hopen⟩ := hopen
        · exact .choice ((hdir ho).trans hopen) hwb hw'
        · exact .loop ((hdir ho).trans hopen) hwb hw'
      · rwa [hdir ho, hdir he']
  | @branches o t e body alternative rest bs as cs ht he _ _ _ ihb iha ih =>
      simp only [List.map_cons, List.map_append, List.map_eq_cons_iff,
        List.map_eq_append_iff] at h
      obtain ⟨o', -, rfl, ho, bs', -, rfl, hbs, t', -, rfl, ht', as', -, rfl, has, e', cs',
        rfl, he', hcs⟩ := h
      cases hw with
      | branches hopen hb ha hr =>
          obtain ⟨body', hwb, hsb, hfb⟩ := ihb hb hbs
          obtain ⟨alternative', hwa, hsa, hfa⟩ := iha ha has
          obtain ⟨f', hw', hs', hf⟩ := ih hr hcs
          refine ⟨.block o' body' (some alternative') :: f',
            .branches ((hdir ho).trans hopen) hwb hwa hw', .branches ?_ ?_ hsb hsa hs',
            .branches ho hfb hfa hf⟩
          · rwa [hdir ho, hdir ht']
          · rwa [hdir ho, hdir he']

namespace Dialect
variable {d : Dialect} {ss ss' : List Sentence} {f g : Forest} {s : Sentence}

theorem exists_commands_of_stretches {cs : List Command}
    (hread : ss.map d.recognize = cs.map .ok)
    (hss : ss'.map Sentence.stretch = ss.map Sentence.stretch) :
    ∃ cs' : List Command, ss'.map d.recognize = cs'.map .ok ∧
      cs'.map Command.content = cs.map Command.content := by
  induction ss' generalizing ss cs with
  | nil =>
      obtain rfl : ss = [] := by simpa using hss.symm
      exact ⟨[], rfl, by simpa using hread⟩
  | cons s' ss' ih =>
      obtain ⟨s, ss, rfl, hstretch, hrest⟩ := List.map_eq_cons_iff.mp hss.symm
      obtain ⟨c, cs, rfl, hc, hcs⟩ := List.map_eq_cons_iff.mp hread.symm
      obtain ⟨cs', hread', hcontent⟩ := ih hcs.symm hrest.symm
      obtain ⟨directive, rfl, hreads⟩ := reads_of_recognize hc.symm
      refine ⟨⟨s', directive⟩ :: cs', ?_, ?_⟩
      · rw [List.map_cons, hreads s' hstretch.symm, hread']
        rfl
      · have htext := String.toList_injective (congrArg Stretch.text hstretch)
        rw [List.map_cons, List.map_cons, hcontent]
        simp [Command.content, htext]

/-- Sentences that say the same yield forests that mean the same. -/
theorem Yields.alike (h : d.Yields ss f)
    (hss : ss'.map Sentence.stretch = ss.map Sentence.stretch) :
    ∃ f', d.Yields ss' f' ∧ f'.Alike f := by
  obtain ⟨cs, hread, hw, hs⟩ := h
  obtain ⟨cs', hread', hcontent⟩ := exists_commands_of_stretches hread hss
  obtain ⟨f', hw', hs', hf⟩ := hs.alike hw hcontent
  exact ⟨f', ⟨cs', hread', hw', hs'⟩, hf⟩

/-- A literal text at the end of what is read is the last node. -/
theorem Yields.of_concat (hs : s.isCommand = false) (h : d.Yields (ss ++ [s]) f) :
    ∃ g, f = g ++ [.leaf ⟨s, .literal⟩] ∧ d.Yields ss g := by
  obtain ⟨cs, hread, hw, hsp⟩ := h
  obtain ⟨cs, ds, rfl, hcs, hds⟩ := List.map_eq_append_iff.mp ((List.map_append ..).symm.trans
    hread).symm
  obtain ⟨c, es, rfl, hc, hes⟩ := List.map_eq_cons_iff.mp hds
  obtain rfl : es = [] := by simpa using hes
  obtain rfl : c = ⟨s, .literal⟩ := Except.ok.inj (hc.trans (recognize_of_literal hs))
  obtain ⟨g, rfl, hg⟩ := hsp.of_concat rfl
  exact ⟨g, rfl, cs, hcs.symm, hw.of_append.1, hg⟩

/-- A literal text at the beginning of what is read is the first node. -/
theorem Yields.of_cons (hs : s.isCommand = false) (h : d.Yields (s :: ss) f) :
    ∃ g, f = .leaf ⟨s, .literal⟩ :: g ∧ d.Yields ss g := by
  obtain ⟨cs, hread, hw, hsp⟩ := h
  obtain ⟨c, cs, rfl, hc, hcs⟩ := List.map_eq_cons_iff.mp hread.symm
  obtain rfl : c = ⟨s, .literal⟩ := Except.ok.inj (hc.trans (recognize_of_literal hs))
  cases hsp with
  | leaf _ hsp =>
      cases hw with
      | leaf _ hw => exact ⟨_, rfl, cs, hcs.symm, hw, hsp⟩
  | block he _ _ => cases he
  | branches _ he _ _ _ => cases he

/-- A literal text at the seam may be one sentence or two. -/
theorem Yields.seam (h : d.Yields ss f) (h' : d.Yields ss' g) {ys rest : List Stretch}
    {u w : List Char} (hss : ss.map Sentence.stretch = ys ++ Stretch.ofHeld false u)
    (hss' : ss'.map Sentence.stretch = Stretch.ofHeld false w ++ rest) :
    ∃ (joined : List Sentence) (k : Forest),
      joined.map Sentence.stretch = ys ++ (Stretch.ofHeld false (u ++ w) ++ rest) ∧
      d.Yields joined k ∧ k.Alike (f ++ g) := by
  by_cases hu : u = []
  · subst hu
    exact ⟨ss ++ ss', f ++ g, by simp [hss, hss'], h.append h', fun _ _ _ => rfl⟩
  by_cases hw : w = []
  · subst hw
    exact ⟨ss ++ ss', f ++ g, by simp [hss, hss'], h.append h', fun _ _ _ => rfl⟩
  -- both parts have literal text at the seam
  rw [Stretch.ofHeld_of_ne_nil hu] at hss
  rw [Stretch.ofHeld_of_ne_nil hw] at hss'
  obtain ⟨as, bs, rfl, rfl, hbs⟩ := List.map_eq_append_iff.mp hss
  obtain ⟨s, bs, rfl, hs, hnil⟩ := List.map_eq_cons_iff.mp hbs
  obtain rfl : bs = [] := by simpa using hnil
  obtain ⟨s', cs, rfl, hs', rfl⟩ := List.map_eq_cons_iff.mp hss'
  obtain ⟨f, rfl, hf⟩ := h.of_concat (congrArg Stretch.isCommand hs)
  obtain ⟨g, rfl, hg⟩ := h'.of_cons (congrArg Stretch.isCommand hs')
  have hlit := recognize_of_literal (d := d) (s := ⟨s.text ++ s'.text, false, s.place⟩) rfl
  refine ⟨as ++ ⟨s.text ++ s'.text, false, s.place⟩ :: cs,
    f ++ .leaf ⟨⟨s.text ++ s'.text, false, s.place⟩, .literal⟩ :: g, ?_,
    hf.append (hg.leaf hlit rfl), ?_⟩
  · have htext : s.text.toList = u := congrArg Stretch.text hs
    have htext' : s'.text.toList = w := congrArg Stretch.text hs'
    have hne : u ++ w ≠ [] := by simp [hu]
    simp [Stretch.ofHeld_of_ne_nil hne, Sentence.stretch, htext, htext']
  · intro i call scope
    have hjoin : Outcome.andThen (.ok s.text) (.ok s'.text) = .ok (s.text ++ s'.text) := rfl
    simp only [Node.denoteAll_append, Node.denoteAll, Node.denote, Command.denote,
      Outcome.andThen_empty, ← hjoin, Outcome.andThen_assoc]

end Dialect

theorem Template.parse_eq_ok_iff {d : Dialect} {source : String} {t : Template} :
    parse d source = .ok t ↔ ∃ (ss : List Sentence) (f : Forest),
      segment d.tags source = ss.map .ok ∧ d.Yields ss f ∧ t = ofTree source (.group f) := by
  unfold parse
  cases hn : d.parse source with
  | error e =>
      constructor
      · intro h
        cases h
      · rintro ⟨ss, f, hss, hy, -⟩
        rw [Dialect.parse_eq_ok_iff.mpr ⟨ss, f, hss, hy, rfl⟩] at hn
        cases hn
  | ok n =>
      constructor
      · intro h
        obtain ⟨ss, f, hss, hy, rfl⟩ := Dialect.parse_eq_ok_iff.mp hn
        exact ⟨ss, f, hss, hy, (Except.ok.inj h).symm⟩
      · rintro ⟨ss, f, hss, hy, rfl⟩
        rw [Dialect.parse_eq_ok_iff.mpr ⟨ss, f, hss, hy, rfl⟩] at hn
        rw [← Except.ok.inj hn]
        rfl

theorem Interpretation.render_of_group (i : Interpretation) (source : String) (f : Forest)
    (registry : Registry) (model : Value) :
    i.render ((Template.ofTree source (.group f)).withRegistry registry) model =
      Node.denoteAll i (registry.call i) f ⟨model, []⟩ := by
  rw [i.render_eq_denote_tree]
  change (Node.group f).denote i (registry.call i) ⟨model, []⟩ = _
  rw [Node.denote]

/-- Texts that parse and are not joined within a tag parse together, and rendering the
joined text is rendering its parts one after the other, with whichever registry all of
them are given. -/
theorem Template.render_append (d : Dialect) {a b : String} {ta tb : Template}
    (ha : parse d a = .ok ta) (hb : parse d b = .ok tb)
    (hseam : d.tags.Apart a.toList b.toList) :
    ∃ t, parse d (a ++ b) = .ok t ∧
      ∀ (i : Interpretation) (registry : Registry) (model : Value),
        i.render (t.withRegistry registry) model =
          Outcome.andThen (i.render (ta.withRegistry registry) model)
            (i.render (tb.withRegistry registry) model) := by
  obtain ⟨ss, f, hss, hy, rfl⟩ := parse_eq_ok_iff.mp ha
  obtain ⟨ss', g, hss', hy', rfl⟩ := parse_eq_ok_iff.mp hb
  have hs := d.tags_sound
  have hcut := (segment_eq_ok_iff hs a _).mp ⟨ss, hss, rfl⟩
  have hcut' := (segment_eq_ok_iff hs b _).mp ⟨ss', hss', rfl⟩
  obtain ⟨ys, u, hu, happend⟩ := Mark.stretches_append hcut
  obtain ⟨w, rest, hw, hheld⟩ := Mark.stretches_held hcut'
  rw [List.nil_append] at hw
  obtain ⟨joined, k, hjoined, hyk, hk⟩ := hy.seam hy' hu hw
  have hmarks : Mark.stretches [] false (d.tags.marks 0 (a ++ b).toList) =
      some (joined.map Sentence.stretch) := by
    rw [String.toList_append, Tags.marks_append hseam (Nat.zero_le _), happend, hheld, hjoined]
    rfl
  obtain ⟨ts, hts, hstretch⟩ := (segment_eq_ok_iff hs (a ++ b) _).mpr hmarks
  obtain ⟨k', hyk', hk'⟩ := hyk.alike hstretch
  refine ⟨_, parse_eq_ok_iff.mpr ⟨ts, k', hts, hyk', rfl⟩, fun i registry model => ?_⟩
  rw [i.render_of_group, i.render_of_group, i.render_of_group, hk', hk, Node.denoteAll_append]

/-- A literal text runs on over the seam, and a block follows. -/
theorem Template.render_greeting_append_reminder :
    let ann : Value := .object [("name", .string "Ann"), ("late", .bool true)]
    let greeting : Template := ofTree "Dear [[name]], you" (.group
      [.leaf ⟨⟨"Dear ", false, ⟨1, 1⟩⟩, .literal⟩,
        .leaf ⟨⟨"name", true, ⟨1, 8⟩⟩, .field "name"⟩,
        .leaf ⟨⟨", you", false, ⟨1, 14⟩⟩, .literal⟩])
    let reminder : Template := ofTree "'re[[if(late)]] late[[end()]]" (.group
      [.leaf ⟨⟨"'re", false, ⟨1, 1⟩⟩, .literal⟩,
        .block ⟨⟨"if(late)", true, ⟨1, 6⟩⟩, .opening (.choice .truth) "late"⟩
          [.leaf ⟨⟨" late", false, ⟨1, 16⟩⟩, .literal⟩] none])
    (parse .standard "Dear [[name]], you" = .ok greeting ∧
        parse .standard "'re[[if(late)]] late[[end()]]" = .ok reminder ∧
        Dialect.standard.tags.Apart "Dear [[name]], you".toList
          "'re[[if(late)]] late[[end()]]".toList) ∧
      ∃ t, parse .standard ("Dear [[name]], you" ++ "'re[[if(late)]] late[[end()]]") = .ok t ∧
        (∀ (i : Interpretation) (registry : Registry) (model : Value),
          i.render (t.withRegistry registry) model =
            Outcome.andThen (i.render (greeting.withRegistry registry) model)
              (i.render (reminder.withRegistry registry) model)) ∧
        Interpretation.render {} (greeting.withRegistry []) ann = .ok "Dear Ann, you" ∧
        Interpretation.render {} (reminder.withRegistry []) ann = .ok "'re late" ∧
        Interpretation.render {} (t.withRegistry []) ann = .ok "Dear Ann, you're late" := by
  intro ann greeting reminder
  have hgreeting : parse .standard "Dear [[name]], you" = .ok greeting := by
    rw [parse, Dialect.parse, Dialect.commands, segment_eq_read Dialect.standard.tags_sound]
    rfl
  have hreminder : parse .standard "'re[[if(late)]] late[[end()]]" = .ok reminder := by
    rw [parse, Dialect.parse, Dialect.commands, segment_eq_read Dialect.standard.tags_sound]
    rfl
  have hapart : Dialect.standard.tags.Apart "Dear [[name]], you".toList
      "'re[[if(late)]] late[[end()]]".toList := by
    decide +kernel
  obtain ⟨t, hparse, hrender⟩ := render_append .standard hgreeting hreminder hapart
  have hfirst : Interpretation.render {} (greeting.withRegistry []) ann =
      .ok "Dear Ann, you" := by
    rw [Interpretation.render_eq_denote_tree]
    decide +kernel
  have hsecond : Interpretation.render {} (reminder.withRegistry []) ann = .ok "'re late" := by
    rw [Interpretation.render_eq_denote_tree]
    decide +kernel
  refine ⟨⟨hgreeting, hreminder, hapart⟩, t, hparse, hrender, hfirst, hsecond, ?_⟩
  rw [hrender, hfirst, hsecond]
  decide

end Templating
