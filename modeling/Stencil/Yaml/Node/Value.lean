import Stencil.Text.Base64
import Stencil.Value.Graph
import Stencil.Yaml.Node.Reader
import Stencil.Yaml.Scalar

/-! The values of nodes. Every node has one value, so a node that is a part of several others has a value that
is a part of several others, too. Collections are made empty first and are filled later, in the order in
which they were made; so of two faults the one that is less deep is reported. -/
namespace Stencil.Yaml

/-- The values that were made so far. -/
structure Making where
  nodes : Nodes
  graph : Graph := {}
  /-- The values of nodes that have one. -/
  made : Array (Option Nat)
  /-- Collections that are empty yet, the last one first. -/
  waiting : List Nat := []
  /-- The value of all words for what is not a number. -/
  notNumber : Option Nat := none

abbrev Maker := StateT Making (Except Failure)

namespace Maker

def node (n : Nat) : Maker Node := do return (← get).nodes.node n

def pairs (n : Nat) : Maker (List (Nat × Nat)) := do return (← get).nodes.pairs n

def fill (n : Nat) (pairs : List (Nat × Nat)) : Maker Unit :=
  modify fun m => { m with nodes := m.nodes.fill n (.mapping pairs) }

/-- A new value in the graph. -/
def add (c : Cell) : Maker Nat := do
  let m ← get
  let (k, graph) := m.graph.add c
  set { m with graph }
  return k

def refuse {α : Type} (problem : String) (mark : Mark) : Maker α := throw (.fault ⟨none, problem, mark⟩)

/-- A fault in the node `n`, found while making what the context says. -/
def refuseIn {α : Type} (what : String) (n : Nat) (problem : String) (mark : Mark) : Maker α := do
  throw (.fault ⟨some ("while constructing " ++ what, some (← node n).mark), problem, mark⟩)

def ofExcept {α : Type} (outcome : Except Error α) : Maker α := liftM (Reading.ofExcept outcome)

/-! ### Scalars -/

/-- The text of a scalar, or of the scalar that a mapping stands for. The fuel is more than the number of
nodes. -/
def text : (fuel : Nat) → Nat → Maker (List Char)
  | 0, _ => throw (.other .nesting)
  | fuel + 1, n => do
    let x ← node n
    match x.content with
    | .scalar s => return s
    | .sequence _ => refuse "expected a scalar node, but found sequence" x.mark
    | .mapping pairs => do
      let nodes := (← get).nodes
      match pairs.find? fun p => (nodes.node p.1).tag == .default with
      | some (_, value) => text fuel value
      | none => refuse "expected a scalar node, but found mapping" x.mark

/-- What is wrong with a text of which a character is none of the first 128. -/
def notAscii? (s : List Char) : Option String :=
  let before := s.takeWhile fun c => c.toNat < 128
  let run := (s.drop before.length).takeWhile fun c => 128 ≤ c.toNat
  let tail := "ordinal not in range(128)"
  match run with
  | [] => none
  | [c] =>
    let shown := String.ofList (Text.codeEscape c)
    some s!"'ascii' codec can't encode character '{shown}' in position {before.length}: {tail}"
  | _ =>
    let last := before.length + run.length - 1
    some s!"'ascii' codec can't encode characters in position {before.length}-{last}: {tail}"

/-- What is wrong with a text that stands for no bytes. -/
def badBytes : Text.Base64.Fault → String
  | .padding => "Incorrect padding"
  | .count n =>
    s!"Invalid base64-encoded string: number of data characters ({n}) cannot be 1 more than a multiple of 4"

def bytesOf (s : List Char) (mark : Mark) : Maker Scalar := do
  match notAscii? s with
  | some reason => refuse ("failed to convert base64 data into ascii: " ++ reason) mark
  | none =>
    match Text.Base64.decode s with
    | .ok b => return .bytes b
    | .error f => refuse ("failed to decode base64 data: " ++ badBytes f) mark

/-- Whether a text of a number is the common word for what is not a number. -/
def isNotNumber (s : List Char) (x : Float) : Bool := x.isNaN && s.contains '.' && !s.contains ':'

/-- The value of a node of a number with a point. -/
def makeFloat (s : List Char) : Maker Nat := do
  let x ← ofExcept (floatOf s)
  if isNotNumber s x then
    match (← get).notNumber with
    | some k => return k
    | none =>
      let k ← add (.scalar (.float x))
      modify fun m => { m with notNumber := some k }
      return k
  else add (.scalar (.float x))

/-- A date or a time. A mapping may stand for a scalar, but not for this one. -/
def timeOfNode (x : Node) (s : List Char) : Except Error Scalar :=
  match x.content with
  | .scalar _ => timeOf s
  | _ => .error (.mismatch (.notText "list"))

/-! ### Merging -/

mutual

/-- The pairs that mappings merge into a mapping put in front of its own. The fuel is more than the number
of pairs on the way. -/
def mergeInto : (fuel : Nat) → Nat → Maker Unit
  | 0, _ => throw (.other .nesting)
  | fuel + 1, n => do
    let merged ← takeMerged fuel n 0
    if !merged.isEmpty then fill n (merged ++ (← pairs n))

/-- The pairs that the keys for merging bring in, from a place in the mapping on. These keys are taken out,
and the mark for a default becomes a key like any other. -/
def takeMerged : (fuel : Nat) → (n place : Nat) → Maker (List (Nat × Nat))
  | 0, _, _ => throw (.other .nesting)
  | fuel + 1, n, place => do
    let own ← pairs n
    match own[place]? with
    | none => return []
    | some (key, value) =>
      match (← node key).tag with
      | .merge =>
        fill n (own.eraseIdx place)
        let merged ← mergedPairs fuel n value
        return merged ++ (← takeMerged fuel n place)
      | .default =>
        modify fun m => { m with nodes := m.nodes.retag key .str }
        takeMerged fuel n (place + 1)
      | _ => takeMerged fuel n (place + 1)

/-- What merging a node into the mapping `n` brings in: the pairs of a mapping, or of all mappings of a
sequence. -/
def mergedPairs : (fuel : Nat) → (n value : Nat) → Maker (List (Nat × Nat))
  | 0, _, _ => throw (.other .nesting)
  | fuel + 1, n, value => do
    let x ← node value
    match x.content with
    | .mapping _ =>
      mergeInto fuel value
      pairs value
    | .sequence items => mergedItems fuel n items
    | .scalar _ =>
      refuseIn "a mapping" n
        "expected a mapping or list of mappings for merging, but found scalar" x.mark

/-- The pairs of the mappings of a sequence; an earlier mapping wins over a later one. -/
def mergedItems : (fuel : Nat) → (n : Nat) → List Nat → Maker (List (Nat × Nat))
  | 0, _, _ => throw (.other .nesting)
  | _ + 1, _, [] => return []
  | fuel + 1, n, item :: items => do
    let x ← node item
    match x.content with
    | .mapping _ =>
      mergeInto fuel item
      let own ← pairs item
      return (← mergedItems fuel n items) ++ own
    | content =>
      refuseIn "a mapping" n s!"expected a mapping for merging, but found {content.name}" x.mark

end

/-! ### Collections -/

/-- The value of a node; a collection is empty yet and waits. -/
def make (n : Nat) : Maker Nat := do
  let m ← get
  match m.made[n]?.join with
  | some k => return k
  | none =>
    let x := m.nodes.node n
    let scalar (read : List Char → Maker Scalar) : Maker Nat := do
      add (.scalar (← read (← text (m.nodes.size + 1) n)))
    let collection (empty : Cell) : Maker Nat := do
      modify fun m => { m with waiting := n :: m.waiting }
      add empty
    let k ←
      match x.tag with
      | .null => scalar fun _ => return .null
      | .bool => scalar fun s => ofExcept ((boolOf s).map .bool)
      | .int => scalar fun s => ofExcept ((intOf s).map .int)
      | .float => do makeFloat (← text (m.nodes.size + 1) n)
      | .str => scalar fun s => return .str (String.ofList s)
      | .binary => scalar fun s => bytesOf s x.mark
      | .time => scalar fun s => ofExcept (timeOfNode x s)
      | .sequence | .orderedMapping | .pairs => collection (.list [])
      | .mapping => collection (.dict [])
      | .set => collection (.set [])
      | tag =>
        let name := String.ofList (Text.quoted tag.name.toList)
        refuse ("could not determine a constructor for the tag " ++ name) x.mark
    modify fun m => { m with made := m.made.setIfInBounds n (some k) }
    return k

/-- The pairs of values of a mapping. -/
def makePairs (n : Nat) : Maker (List (Nat × Nat)) := do
  let x ← node n
  match x.content with
  | .mapping _ => do
    let size := (← get).nodes.size + 1
    mergeInto (4 * size * size) n
    (← pairs n).foldlM (fun acc p => do
      let key ← make p.1
      match (← get).graph.cell key with
      | .scalar _ =>
        let value ← make p.2
        return (← get).graph.putPair acc key value
      | _ => refuseIn "a mapping" n "found unhashable key" (← node p.1).mark) []
  | content => refuse s!"expected a mapping node, but found {content.name}" x.mark

/-- The only pair of an item of the node `n`, as a value. -/
def makeItem (what : String) (n item : Nat) : Maker Nat := do
  let x ← node item
  match x.content with
  | .mapping [(key, value)] =>
    let key ← make key
    add (.tuple [key, ← make value])
  | .mapping pairs =>
    refuseIn what n s!"expected a single mapping item, but found {pairs.length} items" x.mark
  | content => refuseIn what n s!"expected a mapping of length 1, but found {content.name}" x.mark

/-- The items of a sequence of which every one is a pair. -/
def makeItems (what : String) (n : Nat) : Maker Cell := do
  let x ← node n
  match x.content with
  | .sequence items => return .list (← items.mapM (makeItem what n))
  | content => refuseIn what n s!"expected a sequence, but found {content.name}" x.mark

/-- What a collection holds. -/
def makeParts (n : Nat) : Maker Cell := do
  let x ← node n
  match x.tag with
  | .mapping => return .dict (← makePairs n)
  | .set => return .set ((← makePairs n).map Prod.fst)
  | .orderedMapping => makeItems "an ordered map" n
  | .pairs => makeItems "pairs" n
  | _ =>
    match x.content with
    | .sequence items => return .list (← items.mapM make)
    | content => refuse s!"expected a sequence node, but found {content.name}" x.mark

/-- A collection filled. -/
def finish (n : Nat) : Maker Unit := do
  let cell ← makeParts n
  modify fun m => { m with graph := m.graph.put ((m.made[n]?.join).getD 0) cell }

/-- Rounds of filling collections, until none waits. The fuel is more than the number of nodes. -/
def finishAll : (fuel : Nat) → Maker Unit
  | 0 => return
  | fuel + 1 => do
    let waiting := (← get).waiting.reverse
    if !waiting.isEmpty then
      modify fun m => { m with waiting := [] }
      waiting.forM finish
      finishAll fuel

/-- The value of a document. -/
def document (root : Nat) : Maker Nat := do
  let k ← make root
  finishAll ((← get).nodes.size + 1)
  return k

end Maker

/-- The value of a text, as a number in a graph; a text without a document has none. -/
def readGraph (text : List Char) : Reading (Graph × Nat) := do
  let (nodes, root) ← Nodes.ofText text
  match root with
  | none => .ok (⟨#[.scalar .null]⟩, 0)
  | some root =>
    let (k, m) ← (Maker.document root).run { nodes, made := Array.replicate nodes.size none }
    .ok (m.graph, k)

/-- The same for a text of which it is known where it is from. -/
def readGraphFrom (source : Source) (text : List Char) : Except Error (Graph × Nat) :=
  (readGraph text).mapError (Failure.toError source)

/-- The value of a text. -/
def read (source : Source) (text : List Char) : Except Error Value :=
  (readGraphFrom source text).map fun (g, k) => g.value k

end Stencil.Yaml
