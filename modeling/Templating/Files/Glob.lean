/-!
# Glob patterns

A pattern selects files by their paths. It is matched against the bytes of a path:
`?` is any byte and `*` any number of them, slashes included; `**` between slashes
stands for whole directories; a class in square brackets is one of its bytes, and
braces hold alternatives. What a piece of a pattern can match is described by the
ends of a text that it can leave over.
-/
namespace Templating

inductive GlobFlaw where
  | unclosedClass
  | badRange (first last : Char)
  | unopenedGroup
  | unclosedGroup
  | danglingEscape
  deriving DecidableEq, Repr

def GlobFlaw.message : GlobFlaw → String
  | .unclosedClass => "unclosed character class; missing ']'"
  | .badRange a b => s!"invalid range; '{a}' > '{b}'"
  | .unopenedGroup =>
      "unopened alternate group; missing '\x7b' (maybe escape '\x7d' with '[\x7d]'?)"
  | .unclosedGroup =>
      "unclosed alternate group; missing '\x7d' (maybe escape '\x7b' with '[\x7b]'?)"
  | .danglingEscape => "dangling '\\'"

namespace Glob

/-- A range of characters, first and last included. -/
abbrev Range := Char × Char

inductive Piece where
  | literal (c : Char)
  | anyByte
  | anyBytes
  | oneOf (negated : Bool) (ranges : List Range)
  /-- Any directories at the start of a path, or none. -/
  | leadingDirectories
  /-- Everything below a directory. -/
  | everythingBelow
  /-- A slash, or any directories between two. -/
  | innerDirectories
  /-- One of the alternatives; nothing if there are none. -/
  | either (options : List (List Piece))
  deriving Inhabited

/-! ## Matching -/

abbrev Bytes := List UInt8

def slash : UInt8 := 0x2F

def bytesOf (c : Char) : Bytes := (String.singleton c).toUTF8.toList

/-- The ends of a text, from the whole to the empty one. -/
def ends : Bytes → List Bytes
  | [] => [[]]
  | b :: s => (b :: s) :: ends s

def endsAfterSlash : Bytes → List Bytes
  | [] => []
  | b :: s => if b = slash then s :: endsAfterSlash s else endsAfterSlash s

/-- A range of characters holds the bytes between the last of its first character and
the first of its last one, and the other bytes of both. -/
def inRange (r : Range) (b : UInt8) : Bool :=
  let first := bytesOf r.1
  let last := bytesOf r.2
  if r.1 = r.2 then first.contains b
  else first.dropLast.contains b || last.tail.contains b ||
    (first.getLast?.any (· ≤ b) && last.head?.any (b ≤ ·))

mutual

/-- What a piece can leave over of a text. -/
def Piece.rests : Piece → Bytes → List Bytes
  | .literal c, s =>
      let bs := bytesOf c
      if bs.isPrefixOf s then [s.drop bs.length] else []
  | .anyByte, s => if s.isEmpty then [] else [s.tail]
  | .anyBytes, s => ends s
  | .oneOf negated ranges, s =>
      match s with
      | [] => []
      | b :: r => if ranges.any (inRange · b) != negated then [r] else []
  | .leadingDirectories, s => s :: endsAfterSlash s
  | .everythingBelow, s => if s.head? = some slash then ends s.tail else []
  | .innerDirectories, s =>
      if s.head? = some slash then s.tail :: endsAfterSlash s.tail else []
  | .either [], s => [s]
  | .either (p :: ps), s => restsOfOne (p :: ps) s

/-- What a sequence of pieces can leave over of some texts, each once. -/
def restsOfAll : List Piece → List Bytes → List Bytes
  | [], texts => texts
  | p :: ps, texts => restsOfAll ps (texts.flatMap (Piece.rests p)).eraseDups

/-- What one of some sequences can leave over of a text. -/
def restsOfOne : List (List Piece) → Bytes → List Bytes
  | [], _ => []
  | p :: ps, s => restsOfAll p [s] ++ restsOfOne ps s

end

/-! ## Reading -/

/-- A pattern under way: the pieces of the innermost alternative, the latest first, and for
each open group its finished alternatives and the pieces before it. -/
structure Draft where
  pieces : List Piece := []
  groups : List (List (List Piece) × List Piece) := []
  deriving Inhabited

def Draft.push (d : Draft) (p : Piece) : Draft := { d with pieces := p :: d.pieces }

/-- Whether a sequence of pieces stands for nothing at all. -/
def isVoid (ps : List Piece) : Bool :=
  ps.all fun
    | .either [] => true
    | _ => false

def Draft.openGroup (d : Draft) : Draft := ⟨[], ([], d.pieces) :: d.groups⟩

/-- Begins the next alternative. Outside of groups a comma is a comma. -/
def Draft.comma (d : Draft) : Draft :=
  match d.groups with
  | [] => d.push (.literal ',')
  | (options, before) :: rest => ⟨[], (d.pieces.reverse :: options, before) :: rest⟩

/-- Closes the innermost group. Alternatives that stand for nothing are left out. -/
def Draft.closeGroup? (d : Draft) : Option Draft :=
  match d.groups with
  | [] => none
  | (options, before) :: rest =>
      let options := (d.pieces.reverse :: options).reverse
      some ⟨.either (options.filter fun o => !isVoid o) :: before, rest⟩

/-- The draft after two stars, and what is left to read. They stand for directories at the
start, where a slash or nothing follows; and after a slash, where a slash or nothing or
the end of an alternative follows. The slashes belong to them. -/
def Draft.twoStars (d : Draft) (previous : Option Char) (s : List Char) :
    Draft × Option Char × List Char :=
  let plain := ((d.push .anyBytes).push .anyBytes, some '*', s)
  let inGroup := !d.groups.isEmpty
  let afterBreak :=
    previous = some '/' || (inGroup && (previous = some ',' || previous = some '\x7b'))
  let replaceLast (p : Piece) : Draft :=
    match d.pieces with
    | .leadingDirectories :: _ | .everythingBelow :: _ => d
    | _ => { d with pieces := p :: d.pieces.tail }
  if d.pieces.isEmpty then
    match s with
    | [] => (d.push .leadingDirectories, some '*', [])
    | '/' :: r => (d.push .leadingDirectories, some '/', r)
    | _ => plain
  else if !afterBreak then plain
  else match s with
    | [] => (replaceLast .everythingBelow, some '*', [])
    | '/' :: r => (replaceLast .innerDirectories, some '/', r)
    | c :: _ =>
        if inGroup && (c = ',' || c = '\x7d') then (replaceLast .everythingBelow, some '*', s)
        else plain

theorem Draft.twoStars_length_le {d e : Draft} {previous next : Option Char}
    {s rest : List Char} (h : d.twoStars previous s = (e, next, rest)) :
    rest.length ≤ s.length := by
  have : rest = (d.twoStars previous s).2.2 := by rw [h]
  subst this
  unfold Draft.twoStars
  dsimp only
  split
  · split <;> simp
  · split
    · simp
    · split
      · simp
      · simp
      · split <;> simp

/-- The rest of a class, with its ranges so far, the latest first. A hyphen makes a range
unless it comes first or last, and a closing bracket that comes first is one of the
characters. -/
def classFrom (atStart afterHyphen : Bool) (ranges : List Range) :
    List Char → Except GlobFlaw (List Range × List Char)
  | [] => .error .unclosedClass
  | c :: s =>
      if c = ']' && !atStart then
        .ok (if afterHyphen then ('-', '-') :: ranges else ranges, s)
      else if c = '-' && !atStart && !afterHyphen then classFrom false true ranges s
      else
        match afterHyphen, ranges with
        | true, (first, _) :: earlier =>
            if c < first then .error (.badRange first c)
            else classFrom false false ((first, c) :: earlier) s
        | _, _ => classFrom false false ((c, c) :: ranges) s

theorem classFrom_length_lt {atStart afterHyphen : Bool} {ranges rs : List Range}
    {s r : List Char} (h : classFrom atStart afterHyphen ranges s = .ok (rs, r)) :
    r.length < s.length := by
  fun_induction classFrom atStart afterHyphen ranges s with
  | case1 => simp at h
  | case2 =>
      simp only [Except.ok.injEq, Prod.mk.injEq] at h
      obtain ⟨-, rfl⟩ := h
      simp
  | case4 => simp at h
  | case3 _ _ _ _ _ _ _ ih => exact Nat.lt_succ_of_lt (ih h)
  | case5 _ _ _ _ _ _ _ _ _ ih => exact Nat.lt_succ_of_lt (ih h)
  | case6 _ _ _ _ _ _ _ _ ih => exact Nat.lt_succ_of_lt (ih h)

/-- A class after its opening bracket, and what follows it. -/
def readClass (s : List Char) : Except GlobFlaw (Piece × List Char) :=
  match s with
  | '!' :: r | '^' :: r =>
      (classFrom true false [] r).map fun (ranges, r) => (.oneOf true ranges.reverse, r)
  | _ => (classFrom true false [] s).map fun (ranges, r) => (.oneOf false ranges.reverse, r)

theorem readClass_length_lt {s r : List Char} {p : Piece} (h : readClass s = .ok (p, r)) :
    r.length < s.length := by
  have shorter {negated : Bool} {t : List Char}
      (h : (classFrom true false [] t).map (fun (ranges, r) =>
        (Piece.oneOf negated ranges.reverse, r)) = .ok (p, r)) : r.length < t.length := by
    cases hc : classFrom true false [] t with
    | error flaw => simp [hc, Except.map] at h
    | ok q =>
        simp only [hc, Except.map, Except.ok.injEq, Prod.mk.injEq] at h
        obtain ⟨-, rfl⟩ := h
        exact classFrom_length_lt hc
  unfold readClass at h
  split at h
  · exact Nat.lt_succ_of_lt (shorter h)
  · exact Nat.lt_succ_of_lt (shorter h)
  · exact shorter h

/-- The rest of a pattern after the character `previous`. -/
def readFrom (d : Draft) (previous : Option Char) (s : List Char) :
    Except GlobFlaw (List Piece) :=
  match s with
  | [] => if d.groups.isEmpty then .ok d.pieces.reverse else .error .unclosedGroup
  | '\\' :: [] => .error .danglingEscape
  | '\\' :: c :: s => readFrom (d.push (.literal c)) (some c) s
  | '*' :: '*' :: s =>
      match _h : d.twoStars previous s with
      | (d, previous, rest) => readFrom d previous rest
  | '[' :: s =>
      match _h : readClass s with
      | .error flaw => .error flaw
      | .ok (p, rest) => readFrom (d.push p) (some ']') rest
  | '?' :: s => readFrom (d.push .anyByte) (some '?') s
  | '*' :: s => readFrom (d.push .anyBytes) (some '*') s
  | ',' :: s => readFrom d.comma (some ',') s
  | '\x7b' :: s => readFrom d.openGroup (some '\x7b') s
  | '\x7d' :: s =>
      match d.closeGroup? with
      | some d => readFrom d (some '\x7d') s
      | none => .error .unopenedGroup
  | c :: s => readFrom (d.push (.literal c)) (some c) s
termination_by s.length
decreasing_by
  · simp only [List.length_cons]; omega
  · have := Draft.twoStars_length_le _h
    simp only [List.length_cons]
    omega
  · have := readClass_length_lt _h
    simp only [List.length_cons]
    omega
  all_goals simp

end Glob

/-- A pattern as the pieces that a path has to match in turn. -/
structure Glob where
  pieces : List Glob.Piece
  deriving Inhabited

/-- The pattern that a text spells, or what is wrong with the text. -/
def Glob.read (s : String) : Except GlobFlaw Glob := (Glob.readFrom {} none s.toList).map Glob.mk

/-- Whether a path matches as a whole. Two stars alone match every path. -/
def Glob.accepts (g : Glob) (path : String) : Bool :=
  match g.pieces with
  | [.leadingDirectories] => true
  | ps => (Glob.restsOfAll ps [path.toUTF8.toList]).any List.isEmpty

end Templating
