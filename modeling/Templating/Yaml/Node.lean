import Templating.Model.Value
import Templating.Yaml.Lexer

/-!
# YAML nodes

A document is one node: a scalar, or a sequence or mapping of nodes. Aliases are
replaced by what their anchors name, so a node is a tree. The functions that read
nodes follow the grammar and take tokens from the left; where the grammar wants a
node and the next token cannot begin one, the node is an empty plain scalar.
-/
namespace Templating.Yaml

/-- Tags are kept as whole names. -/
inductive Node where
  | scalar (tag : Option String) (plain : Bool) (text : String)
  | sequence (tag : Option String) (items : List Node)
  | mapping (tag : Option String) (members : List (Node × Node))
  /-- An alias inside the collection that it names. -/
  | cycle
  deriving Inhabited

def Node.empty : Node := .scalar none true ""

/-- What is left of a document, and the nodes that anchors name, the newest first. -/
structure Document where
  tokens : List Token
  anchors : List (String × Node) := []
  /-- What the handles of tags stand for. -/
  handles : List (String × String)
  deriving Inhabited

abbrev Grammar := StateT Document Option

/-- Where a node stands. As the key or value of a block mapping, a block sequence may
stand at the column of the mapping. -/
inductive Place where
  | flow
  | block
  | member
  deriving DecidableEq, Repr

namespace Grammar

def peek : Grammar (Option Token) := do
  return (← get).tokens.head?

/-- Past the next token. -/
def skip : Grammar Unit := modify fun d => { d with tokens := d.tokens.tail }

/-- Past the next token if it is one of these. -/
def acceptOneOf (ts : List Token) : Grammar Bool := do
  match ← peek with
  | some t =>
      if ts.contains t then
        skip
        return true
      else return false
  | none => return false

/-- Past the next token if it is the given one. -/
def accept (t : Token) : Grammar Bool := acceptOneOf [t]

/-- A node, or nothing where one of these tokens comes next. -/
def orEmpty (ends : List Token) (node : Grammar Node) : Grammar Node := do
  match ← peek with
  | some t => if ends.contains t then return .empty else node
  | none => node

def define (anchor : Option String) (n : Node) : Grammar Unit :=
  match anchor with
  | some name => modify fun d => { d with anchors := (name, n) :: d.anchors }
  | none => pure ()

def anchor? : Grammar (Option String) := do
  match ← peek with
  | some (.anchor name) =>
      skip
      return some name
  | _ => return none

/-- The whole name of a tag, if a tag comes next. Its handle has to be known. -/
def tag? : Grammar (Option String) := do
  match ← peek with
  | some (.tag t) =>
      skip
      if t.handle.isEmpty then return some t.suffix
      else
        let beginning ← liftM (memberOf? t.handle (← get).handles)
        return some (beginning ++ t.suffix)
  | _ => return none

/-- The anchor and the tag of a node, in either order. -/
def properties : Grammar (Option String × Option String) := do
  let early ← anchor?
  let tag ← tag?
  let anchor ← if early.isSome then pure early else anchor?
  return (anchor, tag)

/-- Where no content comes: the node is empty if it has an anchor or a tag at least. -/
def absent (anchor tag : Option String) : Grammar Node :=
  if anchor.isSome || tag.isSome then do
    let n := Node.scalar tag true ""
    define anchor n
    return n
  else failure

mutual

/-- A node at a place. While a collection is read its anchor names a cycle. A lone
exclamation mark before a scalar is no tag. -/
def node (place : Place) : Nat → Grammar Node
  | 0 => failure
  | turns + 1 => do
      match ← peek with
      | some (.alias name) =>
          skip
          liftM (memberOf? name (← get).anchors)
      | _ =>
          let (anchor, tag) ← properties
          let collection (n : Grammar Node) : Grammar Node := do
            define anchor .cycle
            let n ← n
            define anchor n
            return n
          match ← peek with
          | some (.scalar plain text) =>
              skip
              let n := Node.scalar (tag.filter (· != "!")) plain text
              define anchor n
              return n
          | some .flowSequence =>
              skip
              collection (return .sequence tag (← flowItems true #[] turns))
          | some .flowMapping =>
              skip
              collection (return .mapping tag (← flowMembers true #[] turns))
          | some .item =>
              if place = .member then
                collection (return .sequence tag (← memberItems #[] turns))
              else absent anchor tag
          | some .blockSequence =>
              if place = .flow then absent anchor tag
              else
                skip
                collection (return .sequence tag (← blockItems #[] turns))
          | some .blockMapping =>
              if place = .flow then absent anchor tag
              else
                skip
                collection (return .mapping tag (← blockMembers #[] turns))
          | _ => absent anchor tag

def blockItems (items : Array Node) : Nat → Grammar (List Node)
  | 0 => failure
  | turns + 1 => do
      if ← accept .item then
        let n ← orEmpty [.item, .blockEnd] (node .block turns)
        blockItems (items.push n) turns
      else if ← accept .blockEnd then return items.toList
      else failure

/-- The items of a block sequence at the column of its mapping, which ends where the
mapping goes on. -/
def memberItems (items : Array Node) : Nat → Grammar (List Node)
  | 0 => failure
  | turns + 1 => do
      if ← accept .item then
        let n ← orEmpty [.item, .key, .value, .blockEnd] (node .block turns)
        memberItems (items.push n) turns
      else return items.toList

def blockMembers (members : Array (Node × Node)) : Nat → Grammar (List (Node × Node))
  | 0 => failure
  | turns + 1 => do
      let part := orEmpty [.key, .value, .blockEnd] (node .member turns)
      if ← accept .key then
        let k ← part
        let v ← if ← accept .value then part else pure .empty
        blockMembers (members.push (k, v)) turns
      else if ← accept .blockEnd then return members.toList
      else failure

/-- The items of a sequence in brackets. A pair of a key and a value is a mapping by
itself. -/
def flowItems (first : Bool) (items : Array Node) : Nat → Grammar (List Node)
  | 0 => failure
  | turns + 1 => do
      if ← accept .flowSequenceEnd then return items.toList
      else if ← (if first then pure true else accept .comma) then
        if ← accept .flowSequenceEnd then return items.toList
        else if ← accept .key then
          let n ← flowPair turns
          flowItems false (items.push n) turns
        else
          let n ← node .flow turns
          flowItems false (items.push n) turns
      else failure

/-- A pair after the mark of its key. A token that cannot begin a key is passed over. -/
def flowPair : Nat → Grammar Node
  | 0 => failure
  | turns + 1 => do
      let k ←
        if ← acceptOneOf [.value, .comma, .flowSequenceEnd] then pure .empty
        else node .flow turns
      let v ←
        if ← accept .value then orEmpty [.comma, .flowSequenceEnd] (node .flow turns)
        else pure .empty
      return .mapping none [(k, v)]

/-- The members of a mapping in braces. A key without its mark has no value. -/
def flowMembers (first : Bool) (members : Array (Node × Node)) : Nat → Grammar (List (Node × Node))
  | 0 => failure
  | turns + 1 => do
      if ← accept .flowMappingEnd then return members.toList
      else if ← (if first then pure true else accept .comma) then
        if ← accept .flowMappingEnd then return members.toList
        else if ← accept .key then
          let k ← orEmpty [.value, .comma, .flowMappingEnd] (node .flow turns)
          let v ←
            if ← accept .value then orEmpty [.comma, .flowMappingEnd] (node .flow turns)
            else pure .empty
          flowMembers false (members.push (k, v)) turns
        else
          let k ← node .flow turns
          flowMembers false (members.push (k, .empty)) turns
      else failure

end

/-- The node of a document that needs no content. -/
def rootOrEmpty (turns : Nat) : Grammar Node := do
  match ← peek with
  | none | some .documentStart | some .documentEnd => return .empty
  | some (.version _ _) | some (.handle _ _) => return .empty
  | _ => node .block turns

/-- A last node, after which there are only marks of the document's end. -/
def last (n : Grammar Node) : Grammar Node := do
  let n ← n
  if (← get).tokens.all (· == .documentEnd) then return n else failure

end Grammar

/-- The two handles that need no directive. -/
def standardHandles : List (String × String) := [("!", "!"), ("!!", "tag:yaml.org,2002:")]

/-- What the handles stand for under some directives. No directive may be repeated, and
the version has to be 1.1 or 1.2. -/
def handlesOf? (directives : List Token) : Option (List (String × String)) :=
  let versions := directives.filterMap fun
    | .version major minor => some (major, minor)
    | _ => none
  let handles := directives.filterMap fun
    | .handle h beginning => some (h, beginning)
    | _ => none
  let known := versions.all fun v => v = (1, 1) || v = (1, 2)
  if versions.length ≤ 1 && known && decide (handles.map Prod.fst).Nodup then
    some (handles ++ standardHandles)
  else none

/-- The node of a text that holds one document at most. Directives need the mark of a
document's start after them; without it a document has content. -/
def readNode? (text : String) : Option (Option Node) := do
  let tokens ← tokens? text
  let (directives, rest) := tokens.span fun
    | .version _ _ | .handle _ _ => true
    | _ => false
  let handles ← handlesOf? directives
  let read (n : Grammar Node) (tokens : List Token) : Option (Option Node) :=
    ((Grammar.last n).run' { tokens, handles }).map some
  let turns := 2 * tokens.length + 2
  match rest with
  | .documentStart :: content => read (Grammar.rootOrEmpty turns) content
  | [] => if directives.isEmpty then some none else none
  | _ => if directives.isEmpty then read (Grammar.node .block turns) rest else none

end Templating.Yaml
