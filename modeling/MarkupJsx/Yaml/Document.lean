/-
  MarkupJsx.Yaml.Document — the value of a document.

  Nodes are given their values breadth first, from the root on: a scalar as soon as it is
  met, the content of a collection when its turn comes. A mapping may take over the pairs of
  others by a merge key; they come before its own, so that its own count. Keys must be
  atoms.

  A document may contain itself, so its value is given to a depth: what lies deeper reads
  as null.
-/

import MarkupJsx.Yaml.Value

namespace MarkupJsx.Yaml

/-- The value of one node, with other nodes by their numbers. -/
inductive Cell where
  /-- A collection whose turn has not come. -/
  | pending
  | atom (a : Atom)
  | list (items : List Nat)
  | pairs (pairs : List (Nat × Nat))
  | set (keys : List Atom)
  | map (entries : List (Atom × Nat))

structure Builder where
  nodes : Array Node
  cells : Array (Option Cell)
  /-- Collections whose turn is still to come. -/
  queue : List Nat

abbrev Build := StateT Builder (Except Error)

namespace Build

def node (id : Nat) : Build Node := do
  match (← get).nodes[id]? with
  | some n => return n
  | none => throw .construction

def setNode (id : Nat) (n : Node) : Build Unit := modify fun b => { b with nodes := b.nodes.setIfInBounds id n }

def setCell (id : Nat) (c : Cell) : Build Unit := modify fun b => { b with cells := b.cells.setIfInBounds id (some c) }

def isCollection : Tag → Bool
  | .seq | .map | .set | .omap | .pairs => true
  | _ => false

/-- The text of a scalar, or of the default value of a mapping. -/
def scalarText : Nat → Nat → Build WideText
  | 0, _ => throw .construction
  | n + 1, id => do
    match (← node id).content with
    | .scalar t => return t
    | .sequence _ => throw .construction
    | .mapping pairs =>
      match ← pairs.findM? fun (k, _) => return (← node k).tag == .value with
      | some (_, v) => scalarText n v
      | none => throw .construction

/-- Give a scalar its value, and a collection its turn. -/
def visit (id : Nat) : Build Unit := do
  let b ← get
  if ((b.cells[id]?).getD none).isSome then return
  let n ← node id
  if isCollection n.tag then
    setCell id .pending
    modify fun b => { b with queue := b.queue ++ [id] }
  else
    let t ← scalarText (b.nodes.size + 1) id
    if n.tag = .timestamp && !n.content.isScalar then throw (.scalar .timeOfCollection)
    match Atom.ofText id n.tag t with
    | .ok a => setCell id (.atom a)
    | .error e => throw e

/-- The value of a key. -/
def keyAtom (id : Nat) : Build Atom := do
  visit id
  match ((← get).cells[id]?).getD none with
  | some (.atom a) => return a
  | _ => throw .construction

def pairsOf (id : Nat) : Build (List (Nat × Nat)) := do
  match (← node id).content with
  | .mapping pairs => return pairs
  | _ => throw .construction

def setPairs (id : Nat) (pairs : List (Nat × Nat)) : Build Unit := do
  let n ← node id
  setNode id { n with content := .mapping pairs }

/-- Take over the pairs that merge keys name, from the pair with an index on; `taken` is
    what has been taken over so far. A default key without such a meaning is a text. -/
def merge : Nat → Nat → Nat → List (Nat × Nat) → Build Unit
  | 0, _, _, _ => return
  | n + 1, id, index, taken => do
    let pairs ← pairsOf id
    match pairs[index]? with
    | none => if !taken.isEmpty then setPairs id (taken ++ pairs)
    | some (k, v) =>
      let key ← node k
      match key.tag with
      | .merge =>
        setPairs id (pairs.eraseIdx index)
        match (← node v).content with
        | .scalar _ => throw .construction
        | .mapping _ =>
          merge n v 0 []
          merge n id index (taken ++ (← pairsOf v))
        | .sequence items =>
          let lists ← items.mapM fun item => do
            discard (pairsOf item)
            merge n item 0 []
            pairsOf item
          merge n id index (taken ++ lists.reverse.flatten)
      | .value =>
        setNode k { key with tag := .str }
        merge n id (index + 1) taken
      | _ => merge n id (index + 1) taken

def put (a : Atom) (id : Nat) : List (Atom × Nat) → List (Atom × Nat)
  | [] => [(a, id)]
  | e :: rest => if e.1.same a then (e.1, id) :: rest else e :: put a id rest

/-- The entries of a mapping. -/
def entries (id : Nat) : Build (List (Atom × Nat)) := do
  discard (pairsOf id)
  merge (1000 * ((← get).nodes.size + 1)) id 0 []
  (← pairsOf id).foldlM (fun es (k, v) => do
    let a ← keyAtom k
    visit v
    return put a v es) []

def items (id : Nat) : Build (List Nat) := do
  match (← node id).content with
  | .sequence items => return items
  | _ => throw .construction

/-- The pair of a mapping that has only one. -/
def onlyPair (id : Nat) : Build (Nat × Nat) := do
  match ← pairsOf id with
  | [(k, v)] =>
    visit k
    visit v
    return (k, v)
  | _ => throw .construction

/-- The content of a collection. -/
def content (id : Nat) : Build Cell := do
  match (← node id).tag with
  | .seq =>
    let items ← items id
    items.forM visit
    return .list items
  | .set => return .set ((← entries id).map (·.1))
  | .omap | .pairs => return .pairs (← (← items id).mapM onlyPair)
  | _ => return .map (← entries id)

/-- All collections in turn; each node has one turn at most. -/
def finish : Nat → Build Unit
  | 0 => return
  | n + 1 => do
    let b ← get
    match b.queue with
    | [] => return
    | id :: rest =>
      set { b with queue := rest }
      setCell id (← content id)
      finish n

end Build

/-- The value of a node to a depth. -/
def Builder.value (b : Builder) : Nat → Nat → Value
  | 0, _ => .atom .null
  | n + 1, id =>
    match (b.cells[id]?).getD none with
    | some (.atom a) => .atom a
    | some (.list items) => .list (items.map (b.value n))
    | some (.pairs pairs) => .list (pairs.map fun (k, v) => .pair (b.value n k) (b.value n v))
    | some (.set keys) => .set keys
    | some (.map entries) => .map (entries.map fun (a, v) => (a, b.value n v))
    | _ => .atom .null

/-- The value of the document in a text, to a depth; null when there is none. -/
def load (depth : Nat) (s : Text) : Except Error Value := do
  match ← Graph.ofText? s with
  | none => return .atom .null
  | some g =>
    let start : Builder := ⟨g.nodes, Array.replicate g.nodes.size none, []⟩
    let build : Build Unit := do
      Build.visit g.root
      Build.finish (g.nodes.size + 1)
    let ((), b) ← build.run start
    return b.value depth g.root

end MarkupJsx.Yaml
