/-
  MarkupJsx.Yaml.Graph — the document as a graph of nodes.

  Nodes are numbered in the order in which they begin. An alias is the node of its anchor,
  so a node may have several places in the document, and may lie within itself. Where
  nothing is written a node is an empty plain scalar.

  Reading follows the tokens one by one and never looks further ahead than the next, so
  that of several faults the one met first is reported. No four calls go down without
  taking a token, so four times the number of tokens is fuel enough.
-/

import MarkupJsx.Yaml.Tag
import MarkupJsx.Yaml.Time
import MarkupJsx.Yaml.Tokens

namespace MarkupJsx.Yaml

inductive Content where
  | scalar (text : WideText)
  | sequence (items : List Nat)
  | mapping (pairs : List (Nat × Nat))
  deriving DecidableEq, Repr

def Content.isScalar : Content → Bool
  | .scalar _ => true
  | _ => false

structure Node where
  tag : Tag
  content : Content
  deriving DecidableEq, Repr

structure Graph where
  nodes : Array Node
  root : Nat

/-! ## Tags of nodes -/

/-- The tag of a plain scalar, by its form. -/
def Tag.ofForm (s : Text) : Tag :=
  let s := if s.length > 1 && s.getLast? = some '\n' then s.dropLast else s
  if isBool s then .bool
  else if isFloat s then .float
  else if isInt s then .int
  else if s = ['<', '<'] then .merge
  else if isNull s then .null
  else if (WrittenTime.ofText? 2 s).isSome then .timestamp
  else if s = ['='] then .value
  else if s = ['!'] || s = ['&'] || s = ['*'] then .unknown
  else .str

/-- The tag of a scalar by its form; halves of pairs are in none. -/
def Tag.ofScalar (s : WideText) : Tag :=
  match s.toText? with
  | some t => ofForm t
  | none => .str

/-- An exclamation mark alone leaves the kind of a node to its form, as no tag does. -/
def isOpenTag (t : Option Text) : Bool := t.all (· == ['!'])

/-! ## Reading -/

structure Reader where
  feed : Feed Token
  /-- What the handles of tags stand for. -/
  handles : List (Text × Text)
  anchors : List (Text × Nat)
  nodes : Array Node

abbrev Read := StateT Reader (Except Error)

namespace Read

def peek : Read Token := do
  let r ← get
  match r.feed.items with
  | t :: _ => return t
  | [] => throw (r.feed.fault.getD .grammar)

/-- Take the token that was peeked at. -/
def drop : Read Unit := modify fun r => { r with feed := { r.feed with items := r.feed.items.drop 1 } }

def peekIs (t : Token) : Read Bool := return (← peek) == t

def peekIn (ts : List Token) : Read Bool := return ts.contains (← peek)

/-- Take a token if it is this one. -/
def accept (t : Token) : Read Bool := do
  if ← peekIs t then
    drop
    return true
  else return false

def expect (t : Token) : Read Unit := do
  if !(← accept t) then throw .grammar

def add (n : Node) (anchor : Option Text) : Read Nat := do
  let r ← get
  let id := r.nodes.size
  match anchor with
  | none => set { r with nodes := r.nodes.push n }
  | some a =>
    if (r.anchors.lookup a).isSome then throw .reference
    set { r with nodes := r.nodes.push n, anchors := (a, id) :: r.anchors }
  return id

def fill (id : Nat) (c : Content) : Read Unit :=
  modify fun r => { r with nodes := r.nodes.modify id fun n => { n with content := c } }

/-- The node where nothing is written. -/
def empty : Read Nat := add ⟨.null, .scalar []⟩ none

structure Properties where
  anchor : Option Text
  /-- The tag, as it is written. -/
  tag : Option (Option Text × Text)

def anchor? : Read (Option Text) := do
  match ← peek with
  | .anchor a =>
    drop
    return some a
  | _ => return none

def tag? : Read (Option (Option Text × Text)) := do
  match ← peek with
  | .tag handle suffix =>
    drop
    return some (handle, suffix)
  | _ => return none

/-- An anchor and a tag, in either order. -/
def properties : Read Properties := do
  match ← anchor? with
  | some a => return ⟨some a, ← tag?⟩
  | none =>
    match ← tag? with
    | some t => return ⟨← anchor?, some t⟩
    | none => return ⟨none, none⟩

/-- The full text of a tag. -/
def expand (t : Option (Option Text × Text)) : Read (Option Text) := do
  match t with
  | none => return none
  | some (none, suffix) => return some suffix
  | some (some handle, suffix) =>
    match (← get).handles.lookup handle with
    | none => throw .grammar
    | some opening => return some (opening ++ suffix)

/-- Where a node stands, which decides what may begin there. -/
inductive Position where
  | flow
  | block
  /-- The value or key of a block mapping: a sequence there needs no indentation. -/
  | blockEntry
  deriving DecidableEq

def tagOr (t : Option Text) (kind : Tag) : Tag := if isOpenTag t then kind else (t.map Tag.ofText).getD kind

mutual

/-- The node that begins with the next token. -/
def node (fuel : Nat) (pos : Position) : Read Nat := do
  match fuel with
  | 0 => throw .grammar
  | n + 1 =>
    match ← peek with
    | .alias a =>
      drop
      match (← get).anchors.lookup a with
      | none => throw .reference
      | some id => return id
    | _ =>
      let props ← properties
      let tag ← expand props.tag
      let next ← peek
      match next with
      | .scalar t plain =>
        drop
        let kind := if (plain && tag.isNone) || tag == some ['!'] then Tag.ofScalar t else .str
        add ⟨tagOr tag kind, .scalar t⟩ props.anchor
      | .flowSequenceStart =>
        let id ← add ⟨tagOr tag .seq, .sequence []⟩ props.anchor
        drop
        fill id (.sequence (← flowItems n true))
        return id
      | .flowMappingStart =>
        let id ← add ⟨tagOr tag .map, .mapping []⟩ props.anchor
        drop
        fill id (.mapping (← flowPairs n true))
        return id
      | _ =>
        if pos = .blockEntry && next = .blockEntry then
          let id ← add ⟨tagOr tag .seq, .sequence []⟩ props.anchor
          fill id (.sequence (← looseItems n))
          return id
        else if pos ≠ .flow && next = .blockSequenceStart then
          let id ← add ⟨tagOr tag .seq, .sequence []⟩ props.anchor
          drop
          fill id (.sequence (← blockItems n))
          return id
        else if pos ≠ .flow && next = .blockMappingStart then
          let id ← add ⟨tagOr tag .map, .mapping []⟩ props.anchor
          drop
          fill id (.mapping (← blockPairs n))
          return id
        else if props.anchor.isSome || tag.isSome then
          add ⟨tagOr tag (Tag.ofForm []), .scalar []⟩ props.anchor
        else throw .grammar

/-- A node, or the empty one before some tokens. -/
def nodeUnless (fuel : Nat) (pos : Position) (stops : List Token) : Read Nat := do
  match fuel with
  | 0 => throw .grammar
  | n + 1 => if ← peekIn stops then empty else node n pos

/-- The value behind a colon, or the empty one where there is no colon. -/
def valueUnless (fuel : Nat) (pos : Position) (stops : List Token) : Read Nat := do
  match fuel with
  | 0 => throw .grammar
  | n + 1 => if ← accept .value then nodeUnless n pos stops else empty

/-- The items of a sequence in a block of its own. -/
def blockItems (fuel : Nat) : Read (List Nat) := do
  match fuel with
  | 0 => throw .grammar
  | n + 1 =>
    if ← accept .blockEntry then
      let item ← nodeUnless n .block [.blockEntry, .blockEnd]
      return item :: (← blockItems n)
    else
      expect .blockEnd
      return []

/-- The items of a sequence in the block of the mapping around it. -/
def looseItems (fuel : Nat) : Read (List Nat) := do
  match fuel with
  | 0 => throw .grammar
  | n + 1 =>
    if ← accept .blockEntry then
      let item ← nodeUnless n .block [.blockEntry, .key, .value, .blockEnd]
      return item :: (← looseItems n)
    else return []

def blockPairs (fuel : Nat) : Read (List (Nat × Nat)) := do
  match fuel with
  | 0 => throw .grammar
  | n + 1 =>
    if ← accept .key then
      let key ← nodeUnless n .blockEntry [.key, .value, .blockEnd]
      let value ← valueUnless n .blockEntry [.key, .value, .blockEnd]
      return (key, value) :: (← blockPairs n)
    else
      expect .blockEnd
      return []

/-- The items of a sequence in brackets; one with a colon is a mapping of one pair. -/
def flowItems (fuel : Nat) (first : Bool) : Read (List Nat) := do
  match fuel with
  | 0 => throw .grammar
  | n + 1 =>
    if ← accept .flowSequenceEnd then return []
    if !first then expect .flowEntry
    if ← peekIs .key then
      let id ← add ⟨.map, .mapping []⟩ none
      drop
      let key ← nodeUnless n .flow [.value, .flowEntry, .flowSequenceEnd]
      let value ← valueUnless n .flow [.flowEntry, .flowSequenceEnd]
      fill id (.mapping [(key, value)])
      discard peek
      return id :: (← flowItems n false)
    else if ← accept .flowSequenceEnd then return []
    else
      let item ← node n .flow
      return item :: (← flowItems n false)

def flowPairs (fuel : Nat) (first : Bool) : Read (List (Nat × Nat)) := do
  match fuel with
  | 0 => throw .grammar
  | n + 1 =>
    if ← accept .flowMappingEnd then return []
    if !first then expect .flowEntry
    if ← accept .key then
      let key ← nodeUnless n .flow [.value, .flowEntry, .flowMappingEnd]
      let value ← valueUnless n .flow [.flowEntry, .flowMappingEnd]
      return (key, value) :: (← flowPairs n false)
    else if ← accept .flowMappingEnd then return []
    else
      let key ← node n .flow
      discard peek
      let value ← empty
      return (key, value) :: (← flowPairs n false)

end

/-! ## Documents -/

def defaultHandles : List (Text × Text) := [(['!'], ['!']), (['!', '!'], Tag.standard)]

/-- The directives before a document: the version once, each handle once. -/
def directives : Nat → Bool → List (Text × Text) → Read (List (Text × Text))
  | 0, _, handles => return handles
  | n + 1, versioned, handles => do
    match ← peek with
    | .directive d =>
      drop
      match d with
      | .version major _ =>
        if versioned || major ≠ 1 then throw .grammar
        directives n true handles
      | .tag handle opening =>
        if (handles.lookup handle).isSome then throw .grammar
        directives n versioned (handles ++ [(handle, opening)])
      | .other => directives n versioned handles
    | _ => return handles

def dropDocumentEnds : Nat → Read Unit
  | 0 => return
  | n + 1 => do if ← accept .documentEnd then dropDocumentEnds n

def isDirective : Token → Bool
  | .directive _ => true
  | _ => false

/-- The start of a document, `false` at the end of the text. -/
def documentStart (fuel : Nat) : Read Bool := do
  dropDocumentEnds fuel
  if ← peekIs .streamEnd then return false
  let handles ← directives fuel false []
  modify fun r => { r with handles := handles ++ defaultHandles.filter fun d => (handles.lookup d.1).isNone }
  expect .documentStart
  return true

/-- The one document of a text, if it has one. -/
def document (fuel : Nat) : Read (Option Nat) := do
  expect .streamStart
  let t ← peek
  let root ←
    if isDirective t || t == .documentStart || t == .streamEnd then
      if ← documentStart fuel then
        let t ← peek
        if isDirective t || [Token.documentStart, .documentEnd, .streamEnd].contains t then some <$> empty
        else some <$> node fuel .block
      else pure none
    else
      modify fun r => { r with handles := defaultHandles }
      some <$> node fuel .block
  match root with
  | none => return none
  | some id =>
    discard (accept .documentEnd)
    if ← documentStart fuel then throw .reference
    return some id

end Read

/-- The graph of a text; `none` when there is no document in it. -/
def Graph.ofText? (s : Text) : Except Error (Option Graph) := do
  if !s.all isAllowed then throw .characters
  let feed := tokens s
  let fuel := 4 * feed.items.length + 4
  let (root, r) ← (Read.document fuel).run ⟨feed, [], [], #[]⟩
  return root.map fun id => ⟨r.nodes, id⟩

end MarkupJsx.Yaml
