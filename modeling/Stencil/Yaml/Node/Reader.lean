import Stencil.Recursion
import Stencil.Yaml.Node
import Stencil.Yaml.Token.Stream

/-! The nodes of a text. A document is one node with its parts. A node may have a name, its anchor; an
alias stands for the node of its name, which must have begun before it. -/
namespace Stencil.Yaml

/-- What is left of a text, the handles of its tags, the nodes so far, and which of them have names. -/
structure Unread where
  tokens : Tokenizer
  handles : List (String × String) := []
  nodes : Nodes := #[]
  anchors : List (String × Nat) := []

abbrev NodeReader := StateT Unread (Except Failure)

/-- What was read in front of the content of a node. -/
structure Properties where
  anchor : Option String := none
  tag : Option String := none
  start : Option Mark := none

/-- The most nodes that may be inside of each other. -/
def deepest : Nat := Recursion.levels 26 2

namespace NodeReader

/-- A fault that was found while reading `what` from `start` on. -/
def refuseIn {α : Type} (what : String) (start : Mark) (problem : String) (mark : Mark) : NodeReader α :=
  throw (.fault ⟨some ("while parsing " ++ what, some start), problem, mark⟩)

/-- A fault by itself. -/
def refuse {α : Type} (problem : String) (mark : Mark) : NodeReader α :=
  throw (.fault ⟨none, problem, mark⟩)

/-- The next token. -/
def peek : NodeReader Lexeme := do
  let u ← get
  let (next, tokens) ← u.tokens.peek
  set { u with tokens }
  return next

def skip : NodeReader Unit := modify fun u => { u with tokens := u.tokens.skip }

/-- Whether the next token is one of those given. -/
def sees (ts : List Token) : NodeReader Bool := do return ts.contains (← peek).token

/-- A name or a handle as messages show it. -/
def shown (name : String) : String := String.ofList (Text.quoted name.toList)

def readAnchor? : NodeReader (Option (String × Mark)) := do
  let next ← peek
  match next.token with
  | .anchor name => skip; return some (name, next.start)
  | _ => return none

def readTag? : NodeReader (Option (Option String × String × Mark)) := do
  let next ← peek
  match next.token with
  | .tag handle suffix => skip; return some (handle, suffix, next.start)
  | _ => return none

/-- The full name of a tag of a node that begins at `start`. -/
def tagName (start : Mark) : Option String × String × Mark → NodeReader String
  | (none, suffix, _) => return suffix
  | (some handle, suffix, mark) => do
    match (← get).handles.lookup handle with
    | some stem => return stem ++ suffix
    | none => refuseIn "a node" start ("found undefined tag handle " ++ shown handle) mark

/-- An anchor and a tag, in either order, each of which may be missing. -/
def readProperties : NodeReader Properties := do
  match ← readAnchor? with
  | some (anchor, start) =>
    let tag ← (← readTag?).mapM (tagName start)
    return { anchor := some anchor, tag, start := some start }
  | none =>
    match ← readTag? with
    | some tag =>
      let start := tag.2.2
      let anchor ← readAnchor?
      return { anchor := anchor.map Prod.fst, tag := some (← tagName start tag), start := some start }
    | none => return {}

/-- A new node. Its name, if it has one, must be new. -/
def add (anchor : Option String) (node : Node) : NodeReader Nat := do
  let u ← get
  let number := u.nodes.size
  match anchor with
  | none => set { u with nodes := u.nodes.push node }
  | some name =>
    match u.anchors.lookup name with
    | some first =>
      throw (.fault ⟨some (s!"found duplicate anchor {shown name}; first occurrence",
        some (u.nodes.node first).mark), "second occurrence", node.mark⟩)
    | none => set { u with nodes := u.nodes.push node, anchors := (name, number) :: u.anchors }
  return number

/-- A node where nothing is written. -/
def addBlank (mark : Mark) : NodeReader Nat := add none (Nodes.blank mark)

/-- The node of a name. -/
def findAlias (name : String) (mark : Mark) : NodeReader Nat := do
  match (← get).anchors.lookup name with
  | some number => return number
  | none => refuse ("found undefined alias " ++ shown name) mark

/-- The parts of a node, which are read after it was added. -/
def fill (number : Nat) (content : Content) : NodeReader Nat := do
  modify fun u => { u with nodes := u.nodes.fill number content }
  return number

/-- The kind of a node with a tag, given the kind it has without one. The tag `!` says nothing. -/
def kindOf (tag : Option String) (usual : Tag) : Tag :=
  match tag with
  | none => usual
  | some name => if name = "!" then usual else .ofName name

/-- The kind of a scalar. In quotes it is a text unless it has a tag. -/
def kindOfScalar (tag : Option String) (text : List Char) (plain : Bool) : Tag :=
  if tag.isNone && !plain then .str else kindOf tag (.ofPlain text)

/-- A node, or nothing if one of the tokens `ends` comes instead. -/
def orBlank (ends : List Token) (mark : Mark) (read : NodeReader Nat) : NodeReader Nat := do
  if ← sees ends then addBlank mark else read

/-- What may follow after a key or a value of a block. -/
def ofBlockPair : List Token := [.key, .value, .blockEnd]

/-- A comma in brackets that began at `start` and that `close` closes. -/
def readComma (start : Mark) (what : String) (close : Token) : NodeReader Unit := do
  let next ← peek
  if next.token == .comma then skip
  else
    refuseIn what start
      s!"expected ',' or '{close.name}', but got {shown next.token.name}" next.start

mutual

/-- A node. Blocks are allowed only if `block` says so, and a sequence without a start of its own only
if `bare` says so. -/
def readNode : (fuel depth : Nat) → (block bare : Bool) → NodeReader Nat
  | 0, _, _, _ => throw (.other .nesting)
  | fuel + 1, depth, block, bare => do
    let next ← peek
    match next.token with
    | .alias name => skip; findAlias name next.start
    | _ =>
      if deepest < depth then throw (.other .nesting)
      let properties ← readProperties
      readContent fuel depth block bare properties

/-- A node after its properties; if there were any, the node may be empty. -/
def readContent : (fuel depth : Nat) → (block bare : Bool) → Properties → NodeReader Nat
  | 0, _, _, _, _ => throw (.other .nesting)
  | fuel + 1, depth, block, bare, p => do
    let next ← peek
    let start := p.start.getD next.start
    let add (usual : Tag) (content : Content) := add p.anchor ⟨kindOf p.tag usual, start, content⟩
    match next.token with
    | .scalar text plain =>
      skip
      NodeReader.add p.anchor ⟨kindOfScalar p.tag text plain, start, .scalar text⟩
    | .flowSequenceStart =>
      let number ← add .sequence (.sequence [])
      skip
      fill number (.sequence (← readFlowItems fuel (depth + 1) next.start true))
    | .flowMappingStart =>
      let number ← add .mapping (.mapping [])
      skip
      fill number (.mapping (← readFlowPairs fuel (depth + 1) next.start true))
    | token =>
      if bare && token == .entry then
        let number ← add .sequence (.sequence [])
        fill number (.sequence (← readBareItems fuel (depth + 1)))
      else if block && token == .blockSequenceStart then
        let number ← add .sequence (.sequence [])
        skip
        fill number (.sequence (← readBlockItems fuel (depth + 1) next.start))
      else if block && token == .blockMappingStart then
        let number ← add .mapping (.mapping [])
        skip
        fill number (.mapping (← readBlockPairs fuel (depth + 1) next.start))
      else if p.start.isSome then add .null (.scalar [])
      else
        refuseIn (if block then "a block node" else "a flow node") start
          s!"expected the node content, but found {shown token.name}" next.start

/-- The items of a block that begins at `start`, up to its end. -/
def readBlockItems : (fuel depth : Nat) → (start : Mark) → NodeReader (List Nat)
  | 0, _, _ => throw (.other .nesting)
  | fuel + 1, depth, start => do
    let next ← peek
    if next.token == .entry then
      skip
      let item ← orBlank [.entry, .blockEnd] next.stop (readNode fuel depth true false)
      return item :: (← readBlockItems fuel depth start)
    else if next.token == .blockEnd then
      skip
      return []
    else
      refuseIn "a block collection" start
        s!"expected <block end>, but found {shown next.token.name}" next.start

/-- The items of a sequence that stands in the column of the key it belongs to. -/
def readBareItems : (fuel depth : Nat) → NodeReader (List Nat)
  | 0, _ => throw (.other .nesting)
  | fuel + 1, depth => do
    let next ← peek
    if next.token == .entry then
      skip
      let item ← orBlank (.entry :: ofBlockPair) next.stop (readNode fuel depth true false)
      return item :: (← readBareItems fuel depth)
    else return []

/-- The pairs of a block that begins at `start`, up to its end. -/
def readBlockPairs : (fuel depth : Nat) → (start : Mark) → NodeReader (List (Nat × Nat))
  | 0, _, _ => throw (.other .nesting)
  | fuel + 1, depth, start => do
    let next ← peek
    if next.token == .key then
      skip
      let key ← orBlank ofBlockPair next.stop (readNode fuel depth true true)
      let value ← readBlockValue fuel depth
      return (key, value) :: (← readBlockPairs fuel depth start)
    else if next.token == .blockEnd then
      skip
      return []
    else
      refuseIn "a block mapping" start
        s!"expected <block end>, but found {shown next.token.name}" next.start

/-- The value of a key in a block. -/
def readBlockValue : (fuel depth : Nat) → NodeReader Nat
  | 0, _ => throw (.other .nesting)
  | fuel + 1, depth => do
    let next ← peek
    if next.token == .value then
      skip
      orBlank ofBlockPair next.stop (readNode fuel depth true true)
    else addBlank next.start

/-- The items in brackets up to the closing one. A pair among them is a mapping. -/
def readFlowItems : (fuel depth : Nat) → (start : Mark) → (first : Bool) → NodeReader (List Nat)
  | 0, _, _, _ => throw (.other .nesting)
  | fuel + 1, depth, start, first => do
    if ← sees [.flowSequenceEnd] then
      skip
      return []
    else
      if !first then readComma start "a flow sequence" .flowSequenceEnd
      let next ← peek
      if next.token == .flowSequenceEnd then
        skip
        return []
      else if next.token == .key then
        let number ← add none ⟨.mapping, next.start, .mapping []⟩
        skip
        let key ← orBlank [.value, .comma, .flowSequenceEnd] next.stop
          (readNode fuel (depth + 1) false false)
        let value ← readFlowValue fuel (depth + 1) .flowSequenceEnd
        let item ← fill number (.mapping [(key, value)])
        return item :: (← readFlowItems fuel depth start false)
      else
        let item ← readNode fuel depth false false
        return item :: (← readFlowItems fuel depth start false)

/-- The value of a key in brackets that `close` closes. -/
def readFlowValue : (fuel depth : Nat) → (close : Token) → NodeReader Nat
  | 0, _, _ => throw (.other .nesting)
  | fuel + 1, depth, close => do
    let next ← peek
    if next.token == .value then
      skip
      orBlank [.comma, close] next.stop (readNode fuel depth false false)
    else addBlank next.start

/-- The pairs in braces up to the closing one. A key may stand alone. -/
def readFlowPairs : (fuel depth : Nat) → (start : Mark) → (first : Bool) →
    NodeReader (List (Nat × Nat))
  | 0, _, _, _ => throw (.other .nesting)
  | fuel + 1, depth, start, first => do
    if ← sees [.flowMappingEnd] then
      skip
      return []
    else
      if !first then readComma start "a flow mapping" .flowMappingEnd
      let next ← peek
      if next.token == .flowMappingEnd then
        skip
        return []
      else if next.token == .key then
        skip
        let key ← orBlank [.value, .comma, .flowMappingEnd] next.stop (readNode fuel depth false false)
        let value ← readFlowValue fuel depth .flowMappingEnd
        return (key, value) :: (← readFlowPairs fuel depth start false)
      else
        let key ← readNode fuel depth false false
        let value ← addBlank (← peek).start
        return (key, value) :: (← readFlowPairs fuel depth start false)

end

/-- The handles that need no directive. -/
def usualHandles : List (String × String) := [("!", "!"), ("!!", tagStem)]

/-- The handles that directives give. There may be one version, which must be known, and one directive for
a handle. -/
def readDirectives : (fuel : Nat) → (versioned : Bool) → List (String × String) →
    NodeReader (List (String × String))
  | 0, _, handles => return handles
  | fuel + 1, versioned, handles => do
    let next ← peek
    match next.token with
    | .directive d =>
      skip
      match d with
      | .version major =>
        if versioned then refuse "found duplicate YAML directive" next.start
        else if major ≠ 1 then
          refuse "found incompatible YAML document (version 1.* is required)" next.start
        else readDirectives fuel true handles
      | .tag handle stem =>
        if (handles.lookup handle).isSome then
          refuse ("duplicate tag handle " ++ shown handle) next.start
        else readDirectives fuel versioned ((handle, stem) :: handles)
      | .other => readDirectives fuel versioned handles
    | _ => return handles

/-- Directives and the mark that begins a document. -/
def readHead : NodeReader Unit := do
  let handles ← readDirectives ((← get).tokens.size + 1) false []
  modify fun u => { u with handles := handles ++ usualHandles }
  let next ← peek
  if next.token == .documentStart then skip
  else refuse s!"expected '<document start>', but found {shown next.token.name}" next.start

/-- The content of a document that begins with its mark. -/
def readMarked (fuel : Nat) : NodeReader Nat := do
  let next ← peek
  match next.token with
  | .directive _ | .documentStart | .documentEnd | .streamEnd => addBlank next.start
  | _ => readNode fuel 0 true false

/-- Marks that end a document. -/
def skipEnds : (fuel : Nat) → NodeReader Unit
  | 0 => return
  | fuel + 1 => do
    if ← sees [.documentEnd] then
      skip
      skipEnds fuel

/-- The only document of a text, which need not have one. -/
def readDocument : NodeReader (Option Nat) := do
  let size := (← get).tokens.size
  let fuel := 8 * size + 16
  match (← peek).token with
  | .streamEnd => return none
  | token =>
    let marked := match token with
      | .directive _ | .documentStart => true
      | _ => false
    if marked then readHead
    let root ← if marked then readMarked fuel else readNode fuel 0 true false
    skipEnds (size + 1)
    let next ← peek
    if next.token == .streamEnd then return some root
    else
      readHead
      throw (.fault ⟨some ("expected a single document in the stream",
        some ((← get).nodes.node root).mark), "but found another document", next.start⟩)

end NodeReader

/-- The nodes of a text, and the number of the document's node, if there is a document at all. -/
def Nodes.ofText (text : List Char) : Reading (Nodes × Option Nat) := do
  let tokens ← Tokenizer.start text
  let (root, u) ← NodeReader.readDocument.run { tokens, handles := NodeReader.usualHandles }
  .ok (u.nodes, root)

end Stencil.Yaml
