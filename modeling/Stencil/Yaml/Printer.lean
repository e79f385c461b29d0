import Stencil.Value.Order
import Stencil.Yaml.Sheet

/-! YAML text of values: blocks, one item or pair a line, two columns further in for each level. The items
of a sequence under a key stand in the column of the key. A part that stands in several places is written in the
first of them, under a name, and stands in the others by its name. Only parts that could be told apart have names:
collections, dates and moments. -/
namespace Stencil.Yaml

/-! ### Outlines -/

inductive Outline where
  | alias (name : Nat)
  | scalar (name : Option Nat) (s : Scalar)
  | list (name : Option Nat) (items : List Outline)
  /-- The pairs of a mapping, or the items of a set, each with nothing for a value. -/
  | dict (name : Option Nat) (isSet : Bool) (pairs : List (Outline × Outline))
  deriving Repr, Inhabited

namespace Outline

/-- The name of a part, counted from one. -/
def nameOf? (shared : List Nat) (n : Nat) : Option Nat := (shared.idxOf? n).map (· + 1)

/-- The outline of a part. The state is the list of the parts that are written already. The fuel is the
number of cells. -/
def ofPart (g : Graph) (shared : List Nat) : (fuel : Nat) → Nat → StateM (List Nat) Outline
  | 0, _ => return .scalar none .null
  | fuel + 1, n => do
    let name := nameOf? shared n
    if name.isSome && (← get).contains n then return .alias (name.getD 0)
    modify (n :: ·)
    match g.cell n with
    | .scalar s => return .scalar name s
    | .list items | .tuple items => return .list name (← items.mapM (ofPart g shared fuel))
    | .dict pairs =>
      return .dict name false (← pairs.mapM fun p => do
        let key ← ofPart g shared fuel p.1
        return (key, ← ofPart g shared fuel p.2))
    | .set items =>
      return .dict name true (← items.mapM fun key => do
        return (← ofPart g shared fuel key, .scalar none .null))

/-- The outline of a value of a graph. -/
def ofGraph (g : Graph) (n : Nat) : Outline :=
  ((ofPart g (g.sharedParts n) (g.size + 1) n).run []).1

mutual

/-- How far collections are inside of each other. -/
def height : Outline → Nat
  | .alias _ | .scalar _ _ => 0
  | .list _ items => heightOfItems items + 1
  | .dict _ _ pairs => heightOfPairs pairs + 1

def heightOfItems : List Outline → Nat
  | [] => 0
  | item :: items => max (height item) (heightOfItems items)

def heightOfPairs : List (Outline × Outline) → Nat
  | [] => 0
  | (key, v) :: pairs => max (max (height key) (height v)) (heightOfPairs pairs)

end

end Outline

/-! ### Texts -/

/-- How much further in the next level is. -/
def levelWidth : Nat := 2

/-- Where a value stands. -/
inductive Position where
  | root
  | item
  | value
  deriving DecidableEq

/-- The column of a block inside of a block at `indent`. -/
def deeper (indent : Option Nat) (bare : Bool) : Nat :=
  match indent with
  | none => 0
  | some n => if bare then n else n + levelWidth

/-- The column to which the lines of a scalar are folded. -/
def foldColumn (indent : Option Nat) : Nat := indent.getD 0 + levelWidth

/-- Marks of something empty. -/
def writeEmpty (s : Sheet) (opening closing : String) : Sheet :=
  (s.mark opening true false true).mark closing false

/-- Whether a key stands in one line with its value. -/
def isSimple : Outline → Bool
  | .alias _ => true
  | .scalar _ key => isSimpleKey key
  | _ => false

mutual

/-- A value in a block at `indent`. Text of a key is not folded, as `folds` says. -/
def writePart (indent : Option Nat) (position : Position) (folds : Bool) : Outline → Sheet → Sheet
  | .alias name, s => s.mark ("*" ++ partName name) true
  | .scalar name v, s =>
    let isOpen := position == .root && (scalarForm v).2.1 == .plain
    { (s.named name).scalar folds (foldColumn indent) v with openEnded := isOpen }
  | .list name [], s => writeEmpty (s.named name) "[" "]"
  | .list name items, s =>
    let s := s.named name
    writeItems (deeper indent (position == .value && !s.fresh)) items s
  | .dict name isSet pairs, s =>
    let s := s.named name
    let s := if isSet then s.mark "!!set" true else s
    match pairs with
    | [] => writeEmpty s "\x7b" "\x7d"
    | pairs => writePairs (deeper indent false) pairs s

def writeItems (indent : Nat) : List Outline → Sheet → Sheet
  | [], s => s
  | v :: items, s =>
    let s := (s.indentTo indent).mark "-" true true
    writeItems indent items (writePart (some indent) .item true v s)

/-- Pairs, each with its key in front of its value, or by itself on a line if it is not simple. -/
def writePairs (indent : Nat) : List (Outline × Outline) → Sheet → Sheet
  | [], s => s
  | (key, v) :: pairs, s =>
    let s := s.indentTo indent
    let s :=
      if isSimple key then (writePart (some indent) .value false key s).mark ":" false
      else
        let s := writePart (some indent) .value true key (s.mark "?" true true)
        (s.indentTo indent).mark ":" true true
    writePairs indent pairs (writePart (some indent) .value true v s)

end

/-- The text of an outline as a document of its own. -/
def writeOutline (v : Outline) : List Char :=
  let s := (writePart none .root true v {}).indentTo 0
  (if s.openEnded then (s.mark "..." true).indentTo 0 else s).text

/-- How far collections may be inside of each other in a text that is written. -/
def deepestWritten : Nat := Recursion.levels 25 3

/-- The text of a number of a graph. Numbers of too many digits are not written, nor what is too deep. -/
def writeGraph (g : Graph) (n : Nat) : Except Error (List Char) :=
  let outline := Outline.ofGraph g n
  if (g.value n).isTooLong then .error (.value .longNumber)
  else if deepestWritten < outline.height then .error .nesting
  else .ok (writeOutline outline)

/-- The text of a value, with all mappings sorted if `sorted` says so. -/
def write (sorted : Bool) (v : Value) : Except Error (List Char) :=
  let (n, g) := Graph.ofValue v
  writeGraph (if sorted then g.sorted else g) n

end Stencil.Yaml
