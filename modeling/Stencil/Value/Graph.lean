import Stencil.Recursion
import Stencil.Value.Basic

/-! Values in graphs. A graph says which parts of values are the same part, where values by themselves only
say what the parts are. A value that is a part of itself has no end when its parts are written out; it
stays a knot of the graph. -/
namespace Stencil

namespace Graph

def size (g : Graph) : Nat := g.cells.size

/-- The scalar of a number. -/
def scalarAt (g : Graph) (n : Nat) : Scalar :=
  match g.cell n with
  | .scalar s => s
  | _ => .null

/-- A new cell and the graph with it. -/
def add (g : Graph) (c : Cell) : Nat × Graph := (g.size, ⟨g.cells.push c⟩)

/-- The graph with another cell under a number. -/
def put (g : Graph) (n : Nat) (c : Cell) : Graph := ⟨g.cells.setIfInBounds n c⟩

/-- The number of parts of all cells. -/
def partCount (g : Graph) : Nat := g.cells.foldl (fun n c => n + c.parts.length) 0

/-- Whether two values of a graph are the same key. What is not a number is no key but itself. -/
def isSameKey (g : Graph) (a b : Nat) : Bool :=
  a == b || ((g.scalarAt a).key.equalsItself && (g.scalarAt a).sameKey (g.scalarAt b))

/-- A key with a value put into a mapping. A key that is there already stays as it is. -/
def putPair (g : Graph) : List (Nat × Nat) → (key value : Nat) → List (Nat × Nat)
  | [], key, value => [(key, value)]
  | (k, old) :: pairs, key, value =>
    if g.isSameKey k key then (k, value) :: pairs else (k, old) :: g.putPair pairs key value

/-- Whether it can be told that a part is the same part in several places: collections, dates and moments
are kept as such. -/
def isKept : Cell → Bool
  | .scalar (.date _) | .scalar (.moment _) => true
  | .scalar _ => false
  | _ => true

/-- The kept parts that stand in several places, in the order in which that turns out, going from each part
to its own parts first. The fuel is the number of places. -/
def sharedFrom (g : Graph) : (fuel : Nat) → (seen shared todo : List Nat) → List Nat
  | 0, _, shared, _ => shared
  | _ + 1, _, shared, [] => shared
  | fuel + 1, seen, shared, n :: todo =>
    let cell := g.cell n
    if !isKept cell then g.sharedFrom fuel seen shared todo
    else if seen.contains n then
      g.sharedFrom fuel seen (if shared.contains n then shared else shared ++ [n]) todo
    else g.sharedFrom fuel (n :: seen) shared (cell.parts ++ todo)

/-- The parts of a value that stand in several places of it. -/
def sharedParts (g : Graph) (n : Nat) : List Nat := g.sharedFrom (g.partCount + 2) [] [] [n]

/-- The cells that are parts of the cells `todo`, near or far, and these cells themselves. The fuel is the
number of parts of all cells and of cells given. -/
def reach (g : Graph) : (fuel : Nat) → (seen todo : List Nat) → List Nat
  | 0, seen, _ => seen
  | _ + 1, seen, [] => seen
  | fuel + 1, seen, n :: todo =>
    if seen.contains n then g.reach fuel seen todo
    else g.reach fuel (n :: seen) ((g.cell n).parts ++ todo)

/-- All parts of a cell, near and far. -/
def partsBelow (g : Graph) (n : Nat) : List Nat :=
  let parts := (g.cell n).parts
  g.reach (g.partCount + parts.length + 1) [] parts

/-- Whether a cell is a part of itself. -/
def isKnot (g : Graph) (n : Nat) : Bool := (g.partsBelow n).contains n

/-- A value of which no part is a part of itself. The fuel is the number of cells. -/
def tree? (g : Graph) : (fuel : Nat) → Nat → Option Value
  | 0, _ => none
  | fuel + 1, n =>
    match g.cell n with
    | .scalar s => some (.scalar s)
    | .list items => (items.mapM (g.tree? fuel)).map .list
    | .tuple items => (items.mapM (g.tree? fuel)).map .tuple
    | .dict pairs =>
      (pairs.mapM fun p => (g.tree? fuel p.2).map fun v => (g.scalarAt p.1, v)).map .dict
    | .set items => some (.set (items.map g.scalarAt))

/-- A value with knots where parts are parts of themselves. -/
def knotted (g : Graph) : (fuel : Nat) → Nat → Value
  | 0, n => .knot g n
  | fuel + 1, n =>
    if g.isKnot n then .knot g n
    else
      match g.cell n with
      | .scalar s => .scalar s
      | .list items => .list (items.map (g.knotted fuel))
      | .tuple items => .tuple (items.map (g.knotted fuel))
      | .dict pairs => .dict (pairs.map fun p => (g.scalarAt p.1, g.knotted fuel p.2))
      | .set items => .set (items.map g.scalarAt)

/-- The value of a number. -/
def value (g : Graph) (n : Nat) : Value :=
  (g.tree? (g.size + 1) n).getD (g.knotted (g.size + 1) n)

/-- The value of a number with its own structure laid open, even if it is a knot. -/
def opened (g : Graph) (n : Nat) : Value :=
  match g.cell n with
  | .scalar s => .scalar s
  | .list items => .list (items.map g.value)
  | .tuple items => .tuple (items.map g.value)
  | .dict pairs => .dict (pairs.map fun p => (g.scalarAt p.1, g.value p.2))
  | .set items => .set (items.map g.scalarAt)

/-- The numbers in a cell, each a number of places further up. -/
def shiftCell (k : Nat) : Cell → Cell
  | .scalar s => .scalar s
  | .list items => .list (items.map (· + k))
  | .tuple items => .tuple (items.map (· + k))
  | .dict pairs => .dict (pairs.map fun p => (p.1 + k, p.2 + k))
  | .set items => .set (items.map (· + k))

/-- A graph with another one behind it, of which the numbers are further up now. -/
def append (g h : Graph) : Graph := ⟨g.cells ++ h.cells.map (shiftCell g.size)⟩

/-- A graph with new cells for scalars, and their numbers. -/
def addScalars (g : Graph) : List Scalar → List Nat × Graph
  | [] => ([], g)
  | s :: rest =>
    let (n, g) := g.add (.scalar s)
    let (ns, g) := g.addScalars rest
    (n :: ns, g)

mutual

/-- A graph with new cells for a value, and its number. -/
def addValue (g : Graph) : Value → Nat × Graph
  | .scalar s => g.add (.scalar s)
  | .list items =>
    let (ns, g) := g.addItems items
    g.add (.list ns)
  | .tuple items =>
    let (ns, g) := g.addItems items
    g.add (.tuple ns)
  | .dict pairs =>
    let (ns, g) := g.addPairs pairs
    g.add (.dict ns)
  | .set items =>
    let (ns, g) := g.addScalars items
    g.add (.set ns)
  | .knot h n => (g.size + n, g.append h)

def addItems (g : Graph) : List Value → List Nat × Graph
  | [] => ([], g)
  | v :: items =>
    let (n, g) := g.addValue v
    let (ns, g) := g.addItems items
    (n :: ns, g)

def addPairs (g : Graph) : List (Scalar × Value) → List (Nat × Nat) × Graph
  | [] => ([], g)
  | (key, v) :: pairs =>
    let (k, g) := g.add (.scalar key)
    let (n, g) := g.addValue v
    let (ns, g) := g.addPairs pairs
    ((k, n) :: ns, g)

end

/-- The graph of a value, in which no part stands in two places but in knots, and the number of the value. -/
def ofValue (v : Value) : Nat × Graph := addValue {} v

@[simp] theorem cell_add_fst (g : Graph) (c : Cell) : (g.add c).2.cell (g.add c).1 = c := by
  simp [add, cell, size]

end Graph

namespace Value

/-- A value with its structure laid open. -/
def opened : Value → Value
  | .knot g n => g.opened n
  | v => v

mutual

/-- Whether a value is a part of itself or has a part that is. -/
def hasKnot : Value → Bool
  | .knot _ _ => true
  | .list items | .tuple items => hasKnotItems items
  | .dict pairs => hasKnotPairs pairs
  | .scalar _ | .set _ => false

def hasKnotItems : List Value → Bool
  | [] => false
  | v :: items => hasKnot v || hasKnotItems items

def hasKnotPairs : List (Scalar × Value) → Bool
  | [] => false
  | (_, v) :: pairs => hasKnot v || hasKnotPairs pairs

end

mutual

/-- Whether a value holds a whole number of too many digits to be written. -/
def isTooLong : Value → Bool
  | .scalar s => s.isTooLong
  | .list items | .tuple items => isTooLongItems items
  | .dict pairs => isTooLongPairs pairs
  | .set items => items.any Scalar.isTooLong
  | .knot g n => (n :: g.partsBelow n).any fun k => (g.scalarAt k).isTooLong

def isTooLongItems : List Value → Bool
  | [] => false
  | v :: items => isTooLong v || isTooLongItems items

def isTooLongPairs : List (Scalar × Value) → Bool
  | [] => false
  | (k, v) :: pairs => k.isTooLong || isTooLong v || isTooLongPairs pairs

end

end Value

/-! ### Values that cannot be shown -/

/-- Why a value cannot be shown. -/
inductive ShowFault where
  /-- It holds a whole number of too many digits. -/
  | longNumber
  /-- Too many values stand inside one another. -/
  | tooDeep
  deriving Repr, DecidableEq

/-- The fault of a scalar, where `left` more values may stand inside one another. -/
def Scalar.showFault? (left : Nat) (s : Scalar) : Option ShowFault :=
  if left = 0 then some .tooDeep else if s.isTooLong then some .longNumber else none

/-- The first fault of a value of a graph, inside of the values of the numbers `trail`; one of these is not gone
into again. The fuel is the number of cells. -/
def Graph.showFault? (g : Graph) : (fuel left : Nat) → (trail : List Nat) → Nat → Option ShowFault
  | 0, _, _, _ => none
  | _ + 1, 0, _, _ => some .tooDeep
  | fuel + 1, left + 1, trail, n =>
    let inner := g.showFault? fuel left (n :: trail)
    let isAgain := trail.contains n
    match g.cell n with
    | .scalar s => s.showFault? (left + 1)
    | .list items | .tuple items => if isAgain then none else items.findSome? inner
    | .dict pairs =>
      if isAgain then none
      else pairs.findSome? fun p => ((g.scalarAt p.1).showFault? left).or (inner p.2)
    | .set items => items.findSome? fun k => (g.scalarAt k).showFault? (left - 1)

namespace Value

mutual

/-- The first fault of a value, outside in and left to right, where `left` more values may stand inside one
another. The members of a set count as those of a list in it. -/
def showFaultIn? (left : Nat) : Value → Option ShowFault
  | .scalar s => s.showFault? left
  | .list items | .tuple items => if left = 0 then some .tooDeep else itemsShowFault? (left - 1) items
  | .dict pairs => if left = 0 then some .tooDeep else pairsShowFault? (left - 1) pairs
  | .set items =>
    if left = 0 then some .tooDeep else items.findSome? (Scalar.showFault? (left - 2))
  | .knot g n => g.showFault? (g.size + 2) left [] n

def itemsShowFault? (left : Nat) : List Value → Option ShowFault
  | [] => none
  | v :: items => (showFaultIn? left v).or (itemsShowFault? left items)

def pairsShowFault? (left : Nat) : List (Scalar × Value) → Option ShowFault
  | [] => none
  | (k, v) :: pairs =>
    ((k.showFault? left).or (showFaultIn? left v)).or (pairsShowFault? left pairs)

end

/-- The most values that are shown inside one another. -/
def showLimit : Nat := Recursion.levels 25 1

/-- The first fault of a value that is to be shown. -/
def showFault? (v : Value) : Option ShowFault := v.showFaultIn? showLimit

end Value

end Stencil
