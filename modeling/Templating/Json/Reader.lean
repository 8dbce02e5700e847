import Templating.Json.Token

/-!
# Reading JSON

Values are put together from tokens. Arrays and objects under way are kept on a
stack, whose height is limited; what may come next is part of the state. Objects
are closed by a function that the caller chooses, since models want members in
order and each name once, and settings want them as they were written.
-/
namespace Templating.Json

inductive Container where
  | array (items : Array Value)
  /-- The name belongs to the member whose value comes next. -/
  | object (members : Array (String × Value)) (name : String)
  deriving Inhabited

/-- What may come next. -/
inductive Expected where
  | value
  /-- A value, or the end of an array that is still empty. -/
  | valueOrEnd
  | name
  /-- A name, or the end of an object that is still empty. -/
  | nameOrEnd
  | colon
  /-- A comma, or the end of the innermost container. -/
  | more
  /-- Nothing: this is the whole value. -/
  | nothing (v : Value)
  deriving Inhabited

structure Builder where
  stack : List Container := []
  expected : Expected := .value
  deriving Inhabited

/-- A finished value takes its place in the innermost container. -/
def Builder.put (b : Builder) (v : Value) : Builder :=
  match b.stack with
  | [] => ⟨[], .nothing v⟩
  | .array items :: rest => ⟨.array (items.push v) :: rest, .more⟩
  | .object members name :: rest => ⟨.object (members.push (name, v)) "" :: rest, .more⟩

/-- The builder after a value that is not a container. -/
def Builder.scalar (b : Builder) (v : Value) : Option Builder :=
  match b.expected with
  | .value | .valueOrEnd => some (b.put v)
  | _ => none

/-- The builder after the start of a container, if the stack may grow. -/
def Builder.open (b : Builder) (limit : Nat) (c : Container) (e : Expected) : Option Builder :=
  match b.expected with
  | .value | .valueOrEnd =>
      if b.stack.length < limit then some ⟨c :: b.stack, e⟩ else none
  | _ => none

def Builder.step (limit : Nat) (close : List (String × Value) → Value) (b : Builder) :
    Token → Option Builder
  | .scalar v => b.scalar v
  | .string s =>
      match b.expected, b.stack with
      | .name, .object members _ :: rest
      | .nameOrEnd, .object members _ :: rest => some ⟨.object members s :: rest, .colon⟩
      | _, _ => b.scalar (.string s)
  | .openArray => b.open limit (.array #[]) .valueOrEnd
  | .openObject => b.open limit (.object #[] "") .nameOrEnd
  | .closeArray =>
      match b.expected, b.stack with
      | .valueOrEnd, .array items :: rest
      | .more, .array items :: rest => some (Builder.put ⟨rest, .value⟩ (.array items.toList))
      | _, _ => none
  | .closeObject =>
      match b.expected, b.stack with
      | .nameOrEnd, .object members _ :: rest
      | .more, .object members _ :: rest =>
          some (Builder.put ⟨rest, .value⟩ (close members.toList))
      | _, _ => none
  | .comma =>
      match b.expected, b.stack with
      | .more, .array _ :: _ => some { b with expected := .value }
      | .more, .object _ _ :: _ => some { b with expected := .name }
      | _, _ => none
  | .colon =>
      match b.expected with
      | .colon => some { b with expected := .value }
      | _ => none

/-- The value that a text spells, with containers nested no deeper than the limit. -/
def read? (limit : Nat) (close : List (String × Value) → Value) (text : String) :
    Option Value := do
  let tokens ← tokens? text
  let b ← tokens.foldlM (Builder.step limit close) {}
  match b.expected with
  | .nothing v => some v
  | _ => none

/-- How deep the containers of a model or of settings may be nested. -/
def nestingLimit : Nat := 127

def readModel? (text : String) : Option Value := read? nestingLimit Value.ofMembers text

end Templating.Json
