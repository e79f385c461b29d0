import Stencil.Number.Binary
import Stencil.Value.Calendar

/-! The values that templates are filled with: scalars, lists, tuples, mappings that remember the order of
their keys, and sets. A key is a scalar; numbers that are equal are one key, whatever their kind. A value
that is a part of itself is given by a graph. -/
namespace Stencil

/-- A value without parts. -/
inductive Scalar where
  | null
  | bool (b : Bool)
  | int (n : Int)
  | float (x : Float)
  | str (s : String)
  | bytes (b : List UInt8)
  | date (d : Date)
  | moment (m : Moment)
  deriving Repr, BEq, DecidableEq

/-- A value of which the parts are given by their numbers in a graph. Keys are parts too. -/
inductive Cell where
  | scalar (s : Scalar)
  | list (items : List Nat)
  | tuple (items : List Nat)
  | dict (pairs : List (Nat × Nat))
  | set (items : List Nat)
  deriving Repr, BEq

/-- Values by number. A value may be a part of several others, and even of itself. -/
structure Graph where
  cells : Array Cell := #[]
  deriving Repr, BEq, Inhabited

/-- Any value. The keys of a mapping are listed once each, in the order they came in. -/
inductive Value where
  | scalar (s : Scalar)
  | list (items : List Value)
  | tuple (items : List Value)
  | dict (pairs : List (Scalar × Value))
  | set (items : List Scalar)
  /-- The value of a number in a graph, in which it is a part of itself. -/
  | knot (graph : Graph) (number : Nat)
  deriving Repr, BEq, Inhabited

/-- A mapping from keys to values, in the order of insertion. -/
abbrev Mapping := List (Scalar × Value)

/-- What a key counts as. Numbers that are equal count as the same whatever their kind is, and so do moments that
are one instant. -/
inductive Key where
  | whole (n : Int)
  | number (x : Number.Binary)
  | instant (known : Bool) (microsecond : Int)
  | other (s : Scalar)
  deriving DecidableEq

/-- Whether a key is equal to itself. What is not a number is not. -/
def Key.equalsItself : Key → Bool
  | number .nan => false
  | _ => true

namespace Scalar

/-- What a scalar counts as when it is a key. -/
def key : Scalar → Key
  | bool b => .whole (if b then 1 else 0)
  | int n => .whole n
  | float x =>
    match (Number.Binary.ofFloat x).whole? with
    | some n => .whole n
    | none => .number (.ofFloat x)
  | moment m => .instant m.offset.isSome m.instant
  | s => .other s

/-- Whether two scalars are the same key. Not being a number is one key. -/
def sameKey (a b : Scalar) : Bool := a.key == b.key

theorem sameKey_iff {a b : Scalar} : a.sameKey b = true ↔ a.key = b.key := beq_iff_eq

@[simp] theorem key_str (s : String) : (str s).key = .other (str s) := rfl

theorem key_eq_str_iff {k : Scalar} {name : String} : k.key = (str name).key ↔ k = str name := by
  cases k with
  | float x =>
    simp only [key]
    split <;> simp
  | _ => simp [key]

@[simp] theorem sameKey_str (s t : String) : sameKey (str s) (str t) = (s == t) := by
  rw [Bool.eq_iff_iff, sameKey_iff, key_eq_str_iff]
  simp

end Scalar

/-- The value of a number in a graph. -/
def Graph.cell (g : Graph) (n : Nat) : Cell := g.cells[n]?.getD (.scalar .null)

namespace Value

@[match_pattern] abbrev null : Value := .scalar .null
@[match_pattern] abbrev bool (b : Bool) : Value := .scalar (.bool b)
@[match_pattern] abbrev int (n : Int) : Value := .scalar (.int n)
@[match_pattern] abbrev float (x : Float) : Value := .scalar (.float x)
@[match_pattern] abbrev str (s : String) : Value := .scalar (.str s)

end Value

/-- The word for the kind of a scalar, as messages about wrong kinds write it. -/
def Scalar.kindName : Scalar → String
  | .null => "NoneType"
  | .bool _ => "bool"
  | .int _ => "int"
  | .float _ => "float"
  | .str _ => "str"
  | .bytes _ => "bytes"
  | .date _ => "datetime.date"
  | .moment _ => "datetime.datetime"

/-- False for nothing, zero, and everything empty. -/
def Scalar.truthy : Scalar → Bool
  | .null => false
  | .bool b => b
  | .int n => n != 0
  | .float x => x != 0
  | .str s => s != ""
  | .bytes b => !b.isEmpty
  | .date _ | .moment _ => true

/-- The word for the kind of a scalar without the place where the kind is from. -/
def Scalar.shortKind : Scalar → String
  | .date _ => "date"
  | .moment _ => "datetime"
  | s => s.kindName

/-- The most decimal digits of a whole number that is read or written. -/
def Number.digitLimit : Nat := 4300

/-- Whether a scalar is a whole number of too many digits to be written. -/
def Scalar.isTooLong : Scalar → Bool
  | .int n => Nat.pow 10 Number.digitLimit ≤ n.natAbs
  | _ => false

namespace Cell

def kindName : Cell → String
  | scalar s => s.kindName
  | list _ => "list"
  | tuple _ => "tuple"
  | dict _ => "dict"
  | set _ => "set"

def truthy : Cell → Bool
  | scalar s => s.truthy
  | list items | tuple items | set items => !items.isEmpty
  | dict pairs => !pairs.isEmpty

/-- The numbers of the parts. -/
def parts : Cell → List Nat
  | scalar _ => []
  | list items | tuple items | set items => items
  | dict pairs => pairs.flatMap fun p => [p.1, p.2]

end Cell

namespace Value

/-- The word for the kind of a value, as messages about wrong kinds write it. -/
def kindName : Value → String
  | .scalar s => s.kindName
  | .list _ => "list"
  | .tuple _ => "tuple"
  | .dict _ => "dict"
  | .set _ => "set"
  | .knot g n => (g.cell n).kindName

/-- False for nothing, zero, and everything empty. -/
def truthy : Value → Bool
  | .scalar s => s.truthy
  | .list items | .tuple items => !items.isEmpty
  | .dict pairs => !pairs.isEmpty
  | .set items => !items.isEmpty
  | .knot g n => (g.cell n).truthy

end Value

namespace Mapping

/-- The value of a key. -/
def get? (m : Mapping) (key : Scalar) : Option Value :=
  (m.find? fun p => p.1.sameKey key).map Prod.snd

/-- Whether a key has a value. -/
def contains (m : Mapping) (key : Scalar) : Bool := m.any fun p => p.1.sameKey key

/-- A key with a new value: in its old place if the mapping had it, else at the end. -/
def insert : Mapping → Scalar → Value → Mapping
  | [], key, v => [(key, v)]
  | (k, old) :: m, key, v =>
    if k.sameKey key then (k, v) :: m else (k, old) :: insert m key v

/-- The mapping without a key. -/
def erase (m : Mapping) (key : Scalar) : Mapping := m.filter fun p => !p.1.sameKey key

/-- The pairs of `later` put into `m`, one after the other. -/
def overlay (m later : Mapping) : Mapping := later.foldl (fun acc p => insert acc p.1 p.2) m

/-- A mapping built from pairs, of which a later one wins over an earlier one with its key. -/
def ofPairs (pairs : List (Scalar × Value)) : Mapping := overlay [] pairs

/-- The names among the keys. -/
def names (m : Mapping) : List String :=
  m.filterMap fun
    | (.str s, _) => some s
    | _ => none

end Mapping

end Stencil
