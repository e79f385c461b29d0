import Stencil.Number.FloatText
import Stencil.Text.Space
import Stencil.Unicode.Ranges

/-! Numbers read from texts. Blanks may surround a number, digits may be of any script, and single
underscores may stand between digits. -/
namespace Stencil.Number

/-- A blank around a number; outside ASCII every blank counts. -/
def isMargin (c : Char) : Bool :=
  let n := c.toNat
  (9 ≤ n && n ≤ 13) || n == 32 || (127 < n && Text.isSpace c)

/-- The text between the blanks around it. -/
def trimMargin (s : List Char) : List Char :=
  ((s.dropWhile isMargin).reverse.dropWhile isMargin).reverse

/-- A digit of any script as the same digit of ASCII; other characters stay. -/
def plainDigit (c : Char) : Char :=
  match Unicode.digitValue? c with
  | some d => Nat.digitChar d
  | none => c

/-- A text without the underscores between its digits, if all its underscores are between digits.
`after` tells whether a digit stands before the text. -/
def joinDigits (after : Bool) : List Char → Option (List Char)
  | [] => some []
  | '_' :: c :: s => if after && c.isDigit then (joinDigits true s).map (c :: ·) else none
  | c :: s => if c = '_' then none else (joinDigits c.isDigit s).map (c :: ·)

/-- A sign, if there is one, and the text after it. -/
def splitSign : List Char → Bool × List Char
  | '-' :: s => (true, s)
  | '+' :: s => (false, s)
  | s => (false, s)

/-- The number that decimal digits write. -/
def decimalValue (ds : List Char) : Nat := ds.foldl (fun n c => n * 10 + (c.toNat - '0'.toNat)) 0

/-- The sign and the digits of a whole number, as digits of ASCII. -/
def wholeOfText? (s : List Char) : Option (Bool × List Char) := do
  let s ← joinDigits false ((trimMargin s).map plainDigit)
  let (negative, ds) := splitSign s
  if !ds.isEmpty && ds.all Char.isDigit then some (negative, ds) else none

/-- A whole number with its sign. -/
def signed (negative : Bool) (n : Nat) : Int := if negative then -Int.ofNat n else Int.ofNat n

/-- The exponent at the end of a number; none at all is zero. -/
def readExponent : List Char → Option Int
  | [] => some 0
  | c :: s =>
    if c = 'e' ∨ c = 'E' then
      let (negative, ds) := splitSign s
      if !ds.isEmpty && ds.all Char.isDigit then some (signed negative (decimalValue ds)) else none
    else none

/-- Digits with at most one point among them, and an exponent. -/
def readDecimal (negative : Bool) (s : List Char) : Option Float :=
  let whole := s.takeWhile Char.isDigit
  let rest := s.dropWhile Char.isDigit
  let (fraction, rest) :=
    match rest with
    | '.' :: t => (t.takeWhile Char.isDigit, t.dropWhile Char.isDigit)
    | t => ([], t)
  if whole.isEmpty && fraction.isEmpty then none
  else
    (readExponent rest).map fun e =>
      floatOfDecimal negative (decimalValue (whole ++ fraction)) (e - Int.ofNat fraction.length)

/-- Not a number, and the numbers without end. -/
def floatNan : Float := 0.0 / 0.0

def floatInfinity (negative : Bool) : Float := if negative then -1.0 / 0.0 else 1.0 / 0.0

/-- A floating-point number, finite or not. -/
def floatOfText? (s : List Char) : Option Float := do
  let s ← joinDigits false ((trimMargin s).map plainDigit)
  let (negative, t) := splitSign s
  let word := t.map Char.toLower
  if word = "inf".toList ∨ word = "infinity".toList then some (floatInfinity negative)
  else if word = "nan".toList then some floatNan
  else readDecimal negative t

/-- The floating-point number nearest to a whole one, unless it is too large for any. -/
def floatOfInt? (n : Int) : Option Float :=
  let x := floatOfDecimal (n < 0) n.natAbs 0
  match Binary.ofFloat x with
  | .finite _ _ _ => some x
  | _ => none

end Stencil.Number
