import Stencil.Value.Basic
import Stencil.Number.FloatText
import Stencil.Recursion

/-! Reading JSON. Besides the standard form, `NaN`, `Infinity` and `-Infinity` are numbers. Of two equal
keys the later value counts, in the place of the earlier. -/
namespace Stencil.Json

/-- Why a text is not read. -/
inductive Fault where
  /-- It is not JSON. -/
  | malformed
  /-- It holds a whole number of more digits than are converted. -/
  | longNumber (digits : Nat)
  /-- Its lists and mappings stand too deep in one another. -/
  | tooDeep
  deriving Repr, DecidableEq

/-- How deep lists and mappings may stand in one another. -/
def depthLimit : Nat := Recursion.levels 15 1

/-- Blanks between the parts of JSON. -/
def isBlank (c : Char) : Bool := c == ' ' || c == '\t' || c == '\n' || c == '\r'

def skipBlank (s : List Char) : List Char := s.dropWhile isBlank

/-- The number that decimal digits write. -/
def natOf (ds : List Char) : Nat := ds.foldl (fun n c => n * 10 + (c.toNat - 48)) 0

/-- The value of a hexadecimal digit. -/
def hexValue? (c : Char) : Option Nat :=
  if '0' ≤ c ∧ c ≤ '9' then some (c.toNat - 48)
  else if 'a' ≤ c ∧ c ≤ 'f' then some (c.toNat - 87)
  else if 'A' ≤ c ∧ c ≤ 'F' then some (c.toNat - 55)
  else none

/-- A unit of four hexadecimal digits. -/
def readUnit : List Char → Option (Nat × List Char)
  | a :: b :: c :: d :: s => do
    let a ← hexValue? a
    let b ← hexValue? b
    let c ← hexValue? c
    let d ← hexValue? d
    some (((a * 16 + b) * 16 + c) * 16 + d, s)
  | _ => none

/-- The low half of a pair of units, if one follows. -/
def readLowUnit : List Char → Option (Nat × List Char)
  | '\\' :: 'u' :: s =>
    match readUnit s with
    | some (n, rest) => if 0xdc00 ≤ n ∧ n < 0xe000 then some (n, rest) else none
    | none => none
  | _ => none

/-- The character of a backslash and one letter. -/
def shortEscape? (c : Char) : Option Char :=
  match c with
  | '"' => some '"'
  | '\\' => some '\\'
  | '/' => some '/'
  | 'b' => some (Char.ofNat 8)
  | 'f' => some (Char.ofNat 12)
  | 'n' => some '\n'
  | 'r' => some '\r'
  | 't' => some '\t'
  | _ => none

/-- The character of one unit; half of a pair stands for no character. -/
def charOfUnit (n : Nat) : Char := if 0xd800 ≤ n ∧ n < 0xe000 then Char.ofNat 0xfffd else Char.ofNat n

/-- The characters of a string after its opening quote. The fuel is the length of the text. -/
def readString : Nat → List Char → Option (List Char × List Char)
  | 0, _ => none
  | _ + 1, [] => none
  | fuel + 1, c :: s =>
    if c = '"' then some ([], s)
    else if c = '\\' then
      match s with
      | 'u' :: s =>
        match readUnit s with
        | none => none
        | some (n, s) =>
          match (if 0xd800 ≤ n ∧ n < 0xdc00 then readLowUnit s else none) with
          | some (low, s) =>
            (readString fuel s).map fun r =>
              (Char.ofNat (0x10000 + (n - 0xd800) * 0x400 + (low - 0xdc00)) :: r.1, r.2)
          | none => (readString fuel s).map fun r => (charOfUnit n :: r.1, r.2)
      | e :: s =>
        match shortEscape? e with
        | none => none
        | some c => (readString fuel s).map fun r => (c :: r.1, r.2)
      | [] => none
    else if c.toNat < 32 then none
    else (readString fuel s).map fun r => (c :: r.1, r.2)

/-- The digits at the start of a text, and what follows. -/
def spanDigits (s : List Char) : List Char × List Char := s.span Char.isDigit

/-- A point with the digits after it; no digits where the text does not go on in that way. -/
def readFraction (s : List Char) : List Char × List Char :=
  match s with
  | '.' :: r =>
    match spanDigits r with
    | ([], _) => ([], s)
    | found => found
  | _ => ([], s)

/-- The digits of an exponent with its sign, if there is one. -/
def readExponent (s : List Char) : Option Int × List Char :=
  match s with
  | c :: r =>
    if c = 'e' ∨ c = 'E' then
      let (sign, r) : Int × List Char :=
        match r with
        | '+' :: r => (1, r)
        | '-' :: r => (-1, r)
        | _ => (1, r)
      match spanDigits r with
      | ([], _) => (none, s)
      | (ds, r) => (some (sign * Int.ofNat (natOf ds)), r)
    else (none, s)
  | [] => (none, s)

/-- A number after its sign. -/
def readNumber (negative : Bool) (s : List Char) : Except Fault (Value × List Char) :=
  let whole : List Char × List Char :=
    match s with
    | '0' :: r => (['0'], r)
    | _ => spanDigits s
  match whole with
  | ([], _) => .error .malformed
  | (ds, r) =>
    let (fraction, r) := readFraction r
    let (exponent, r) := readExponent r
    if fraction.isEmpty && exponent.isNone then
      if Number.digitLimit < ds.length then .error (.longNumber ds.length)
      else
        let n := Int.ofNat (natOf ds)
        .ok (.int (if negative then -n else n), r)
    else
      .ok (.float (Number.floatOfDecimal negative (natOf (ds ++ fraction))
        (exponent.getD 0 - Int.ofNat fraction.length)), r)

/-- A word at the start of a text. -/
def expectWord : List Char → List Char → Option (List Char)
  | [], s => some s
  | _ :: _, [] => none
  | a :: w, c :: s => if a = c then expectWord w s else none

/-- The values that are written as words. -/
def words : List (List Char × Value) :=
  [("null".toList, .null), ("true".toList, .bool true), ("false".toList, .bool false),
   ("NaN".toList, .float (0.0 / 0.0)), ("Infinity".toList, .float (1.0 / 0.0)),
   ("-Infinity".toList, .float (-1.0 / 0.0))]

def readScalar (s : List Char) : Except Fault (Value × List Char) :=
  match words.findSome? fun w => (expectWord w.1 s).map (w.2, ·) with
  | some r => .ok r
  | none =>
    match s with
    | '-' :: r => readNumber true r
    | _ => readNumber false s

mutual

/-- A value at the start of a text. `room` is how many lists and mappings may still be entered; the fuel
is the length of the text. -/
def readValue (fuel room : Nat) (s : List Char) : Except Fault (Value × List Char) :=
  match fuel with
  | 0 => .error .malformed
  | fuel + 1 =>
    match s with
    | '"' :: s =>
      match readString (s.length + 1) s with
      | some (cs, r) => .ok (.str (String.ofList cs), r)
      | none => .error .malformed
    | '[' :: s =>
      match room with
      | 0 => .error .tooDeep
      | room + 1 =>
        match skipBlank s with
        | ']' :: r => .ok (.list [], r)
        | s => do
          let (items, r) ← readItems fuel room s
          .ok (.list items, r)
    | '{' :: s =>
      match room with
      | 0 => .error .tooDeep
      | room + 1 =>
        match skipBlank s with
        | '}' :: r => .ok (.dict [], r)
        | s => do
          let (pairs, r) ← readPairs fuel room s
          .ok (.dict (Mapping.ofPairs pairs), r)
    | s => readScalar s

/-- The items of a list up to its closing bracket. -/
def readItems (fuel room : Nat) (s : List Char) : Except Fault (List Value × List Char) :=
  match fuel with
  | 0 => .error .malformed
  | fuel + 1 => do
    let (v, r) ← readValue fuel room s
    match skipBlank r with
    | ']' :: r => .ok ([v], r)
    | ',' :: r => do
      let (items, r) ← readItems fuel room (skipBlank r)
      .ok (v :: items, r)
    | _ => .error .malformed

/-- The pairs of a mapping up to its closing brace. -/
def readPairs (fuel room : Nat) (s : List Char) :
    Except Fault (List (Scalar × Value) × List Char) :=
  match fuel with
  | 0 => .error .malformed
  | fuel + 1 =>
    match s with
    | '"' :: s =>
      match readString (s.length + 1) s with
      | none => .error .malformed
      | some (key, r) =>
        match skipBlank r with
        | ':' :: r => do
          let (v, r) ← readValue fuel room (skipBlank r)
          let pair := (Scalar.str (String.ofList key), v)
          match skipBlank r with
          | '}' :: r => .ok ([pair], r)
          | ',' :: r => do
            let (pairs, r) ← readPairs fuel room (skipBlank r)
            .ok (pair :: pairs, r)
          | _ => .error .malformed
        | _ => .error .malformed
    | _ => .error .malformed

end

/-- The one value that a text holds, with blanks around it. -/
def parse (s : List Char) : Except Fault Value :=
  match readValue (s.length + 1) depthLimit (skipBlank s) with
  | .error fault => .error fault
  | .ok (v, r) => if (skipBlank r).isEmpty then .ok v else .error .malformed

end Stencil.Json
