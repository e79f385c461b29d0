import Stencil.Value.Display

/-! JSON text of values. A value that JSON has no form for is written as the string of its text; a key is
always written as a string. -/
namespace Stencil.Json

open Number (digits intText floatText)

/-- Where line breaks go, and whether the text keeps to ASCII. -/
structure Style where
  ascii : Bool
  indent : Option Nat

/-- One line, all characters as they are. -/
def Style.line : Style := ⟨false, none⟩

/-- One item a line, each level two columns further in. -/
def Style.block : Style := ⟨false, some 2⟩

/-- A sixteen-bit unit by its code. -/
def unitEscape (n : Nat) : List Char := '\\' :: 'u' :: Text.hex 4 n

/-- A character that cannot stand as it is; beyond sixteen bits it takes a pair of units. -/
def escapeCode (n : Nat) : List Char :=
  if n < 0x10000 then unitEscape n
  else unitEscape (0xd800 + (n - 0x10000) / 0x400) ++ unitEscape (0xdc00 + (n - 0x10000) % 0x400)

/-- A character inside a string. -/
def escapeChar (ascii : Bool) (c : Char) : List Char :=
  if c = '"' then ['\\', '"']
  else if c = '\\' then ['\\', '\\']
  else if c = '\n' then ['\\', 'n']
  else if c = '\r' then ['\\', 'r']
  else if c = '\t' then ['\\', 't']
  else if c.toNat = 8 then ['\\', 'b']
  else if c.toNat = 12 then ['\\', 'f']
  else if c.toNat < 32 || (ascii && 126 < c.toNat) then escapeCode c.toNat
  else [c]

/-- A string with its quotes. -/
def stringText (ascii : Bool) (s : List Char) : List Char :=
  '"' :: (s.flatMap (escapeChar ascii) ++ ['"'])

/-- A scalar. -/
def scalarText (ascii : Bool) : Scalar → List Char
  | .null => "null".toList
  | .bool b => (if b then "true" else "false").toList
  | .int n => intText n
  | .float x => floatText .json x
  | .str s => stringText ascii s.toList
  | .bytes b => stringText ascii (Scalar.bytes b).shown
  | .date d => stringText ascii d.text
  | .moment m => stringText ascii m.text

/-- The name under which a value is filed. -/
def keyName : Scalar → List Char
  | .str s => s.toList
  | k => scalarText false k

namespace Style

/-- The break in front of an item at `depth`. -/
def newline (style : Style) (depth : Nat) : List Char :=
  match style.indent with
  | none => []
  | some n => '\n' :: List.replicate (n * depth) ' '

/-- What stands between two items at `depth`. -/
def comma (style : Style) (depth : Nat) : List Char :=
  match style.indent with
  | none => [',', ' ']
  | some _ => ',' :: style.newline depth

/-- Items between brackets; nothing at all between the brackets of no items. -/
def bracket (style : Style) (opening closing : Char) (depth : Nat) : List (List Char) → List Char
  | [] => [opening, closing]
  | items => opening :: style.newline (depth + 1)
      ++ (style.comma (depth + 1)).intercalate items ++ style.newline depth ++ [closing]

end Style

mutual

/-- The text of a value that stands at `depth`. -/
def render (style : Style) (depth : Nat) : Value → List Char
  | .scalar s => scalarText style.ascii s
  | .list items | .tuple items => style.bracket '[' ']' depth (renderItems style (depth + 1) items)
  | .dict pairs => style.bracket '{' '}' depth (renderPairs style (depth + 1) pairs)
  | .set items => stringText style.ascii (Value.set items).text
  | .knot g n => stringText style.ascii (Value.knot g n).text

def renderItems (style : Style) (depth : Nat) : List Value → List (List Char)
  | [] => []
  | v :: items => render style depth v :: renderItems style depth items

def renderPairs (style : Style) (depth : Nat) : List (Scalar × Value) → List (List Char)
  | [] => []
  | (k, v) :: pairs =>
    (stringText style.ascii (keyName k) ++ ':' :: ' ' :: render style depth v)
      :: renderPairs style depth pairs

end

/-- A value on one line. -/
def line (v : Value) : List Char := render .line 0 v

/-! ### Values that have no JSON text -/

/-- Why a value has no JSON text. -/
inductive WriteFault where
  | badKey (key : Scalar)
  /-- A value is a part of itself. -/
  | endless
  | longNumber
  /-- Its lists and mappings stand too deep in one another. -/
  | tooDeep
  deriving Repr, DecidableEq

/-- Whether a scalar may be a key in JSON text. -/
def isKey : Scalar → Bool
  | .bytes _ | .date _ | .moment _ => false
  | _ => true

def scalarFault? (s : Scalar) : Option WriteFault := if s.isTooLong then some .longNumber else none

def keyFault? (key : Scalar) : Option WriteFault :=
  if isKey key then scalarFault? key else some (.badKey key)

/-- The fault of a list or a mapping, where `left` more may stand inside one another: it may be one too many, or
else have a fault inside. -/
def nestFault? (left : Nat) (inner : Option WriteFault) : Option WriteFault :=
  if left = 0 then some .tooDeep else inner

/-- The first fault in a value of a graph, inside of the values of the numbers `trail`, where `left` more lists and
mappings may stand inside one another. The fuel is the number of cells. -/
def graphFault? (g : Graph) : (fuel left : Nat) → (trail : List Nat) → Nat → Option WriteFault
  | 0, _, _, _ => none
  | fuel + 1, left, trail, n =>
    let cell := g.cell n
    let isAgain := trail.contains n && !cell.parts.isEmpty
    let inner := graphFault? g fuel (left - 1) (n :: trail)
    match cell with
    | .scalar s => scalarFault? s
    | .list items | .tuple items => nestFault? left (if isAgain then some .endless else items.findSome? inner)
    | .dict pairs =>
      nestFault? left
        (if isAgain then some .endless
        else pairs.findSome? fun p => (keyFault? (g.scalarAt p.1)).or (inner p.2))
    | .set items => items.findSome? fun k => scalarFault? (g.scalarAt k)

mutual

/-- The first fault of a value, outside in and left to right, where `left` more lists and mappings may stand inside
one another. -/
def faultIn? (left : Nat) : Value → Option WriteFault
  | .scalar s => scalarFault? s
  | .list items | .tuple items => nestFault? left (itemsFault? (left - 1) items)
  | .dict pairs => nestFault? left (pairsFault? (left - 1) pairs)
  | .set items => items.findSome? scalarFault?
  | .knot g n => graphFault? g (g.size + 2) left [] n

def itemsFault? (left : Nat) : List Value → Option WriteFault
  | [] => none
  | v :: items => (faultIn? left v).or (itemsFault? left items)

def pairsFault? (left : Nat) : List (Scalar × Value) → Option WriteFault
  | [] => none
  | (k, v) :: pairs => ((keyFault? k).or (faultIn? left v)).or (pairsFault? left pairs)

end

/-- How deep lists and mappings may stand in one another when they are written. -/
def deepestWritten : Nat := Recursion.levels 15 1

/-- The first fault of a value that is to be written. -/
def fault? (v : Value) : Option WriteFault := faultIn? deepestWritten v

/-- Pairs in the order of their keys. -/
def sortPairs (pairs : List (Scalar × Value)) : List (Scalar × Value) :=
  pairs.mergeSort fun p q => !(String.ofList (keyName q.1) < String.ofList (keyName p.1))

mutual

/-- A value with every mapping in the order of its keys. -/
def sortKeys : Value → Value
  | .list items => .list (sortKeysItems items)
  | .tuple items => .tuple (sortKeysItems items)
  | .dict pairs => .dict (sortPairs (sortKeysPairs pairs))
  | v => v

def sortKeysItems : List Value → List Value
  | [] => []
  | v :: items => sortKeys v :: sortKeysItems items

def sortKeysPairs : List (Scalar × Value) → List (Scalar × Value)
  | [] => []
  | (k, v) :: pairs => (k, sortKeys v) :: sortKeysPairs pairs

end

end Stencil.Json
