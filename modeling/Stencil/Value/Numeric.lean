import Stencil.Error
import Stencil.Number.Reader

/-! Values taken as numbers: numbers themselves, truth values, and texts that write a number. -/
namespace Stencil.Value

open Number (Binary)

/-- Bytes as the text of a number, in which blanks and digits are ASCII. -/
def textOfBytes (bytes : List UInt8) : List Char :=
  bytes.map fun b =>
    let n := b.toNat
    if (9 ≤ n ∧ n ≤ 13) ∨ (32 ≤ n ∧ n < 127) then Char.ofNat n else '\ufffd'

/-- The whole number that a text writes; one of too many digits is refused. `shown` is the text as a message
shows it. -/
def readInt (shown s : List Char) : Except Error Int :=
  match Number.wholeOfText? s with
  | none => .error (.value (.notInteger (String.ofList shown)))
  | some (negative, ds) =>
    if Number.digitLimit < ds.length then .error (.value (.integerTooLong ds.length))
    else .ok (Number.signed negative (Number.decimalValue ds))

/-- The same for a text that messages show in quotes. -/
def intOfText (s : List Char) : Except Error Int := readInt (Text.quoted s) s

/-- The number that a text writes. -/
def readFloat (shown s : List Char) : Except Error Float :=
  match Number.floatOfText? s with
  | some x => .ok x
  | none => .error (.value (.notNumber (String.ofList shown)))

/-- A value as a whole number; what is after the point is cut off. -/
def toInt (v : Value) : Except Error Int :=
  match v with
  | .scalar (.bool b) => .ok (if b then 1 else 0)
  | .scalar (.int n) => .ok n
  | .scalar (.float x) =>
    match Binary.ofFloat x with
    | .nan => .error (.value (.notFinite "NaN"))
    | .infinite _ => .error (.value (.notFinite "infinity"))
    | b => .ok (b.truncate?.getD 0)
  | .scalar (.str s) => intOfText s.toList
  | .scalar (.bytes b) => readInt (Scalar.bytes b).shown (textOfBytes b)
  | v => .error (.mismatch (.notForInteger v.kindName))

/-- A value as a floating-point number. -/
def toFloat (v : Value) : Except Error Float :=
  match v with
  | .scalar (.bool b) => .ok (if b then 1.0 else 0.0)
  | .scalar (.int n) =>
    match Number.floatOfInt? n with
    | some x => .ok x
    | none => .error .tooLarge
  | .scalar (.float x) => .ok x
  | .scalar (.str s) => readFloat (Text.quoted s.toList) s.toList
  | .scalar (.bytes b) => readFloat (Scalar.bytes b).shown (textOfBytes b)
  | v => .error (.mismatch (.notForFloat v.kindName))

end Stencil.Value
