import Stencil.Number.Binary

/-! The shortest decimal that reads back as a given binary number. The reals that round to the number
form an interval; for each count of digits the two neighbours of the number on that decimal grid are
tried, and the first grid with a point in the interval gives the digits. -/
namespace Stencil.Number

/-- `n · 2 ^ e` against `k · 10 ^ g`, compared exactly. -/
def compareScaled (n : Nat) (e : Int) (k : Nat) (g : Int) : Ordering :=
  compare (n * powerOfTwo e * powerOfTen (-g)) (k * powerOfTen g * powerOfTwo (-e))

/-- The interval of the reals that round to `m · 2 ^ e`, in quarters of `2 ^ e`. Its ends belong to it
exactly when `m` is even. Below a power of two the grid of doubles is twice as fine. -/
structure Rounding where
  low : Nat
  high : Nat
  closed : Bool

def Rounding.around (m : Nat) (e : Int) : Rounding :=
  { low := if m = powerOfTwo 52 && minExponent < e then 4 * m - 1 else 4 * m - 2
    high := 4 * m + 2
    closed := m % 2 == 0 }

/-- Whether `k · 10 ^ g` rounds to the number. -/
def Rounding.holds (r : Rounding) (e : Int) (k : Nat) (g : Int) : Bool :=
  let below := compareScaled r.low (e - 2) k g
  let above := compareScaled r.high (e - 2) k g
  (below == .lt || (r.closed && below == .eq)) && (above == .gt || (r.closed && above == .eq))

/-- The whole part of `m · 2 ^ e / 10 ^ g`. -/
def floorScaled (m : Nat) (e g : Int) : Nat :=
  m * powerOfTwo e * powerOfTen (-g) / (powerOfTen g * powerOfTwo (-e))

/-- The decimal exponent of the leading digit of `m · 2 ^ e`, sought downward from `d`. -/
def leadingExponent (m : Nat) (e : Int) : Nat → Int → Int
  | 0, d => d
  | steps + 1, d => if floorScaled m e d = 0 then leadingExponent m e steps (d - 1) else d

/-- A grid point in the interval, if one of the number's neighbours on the grid `10 ^ g` is one; of two
the nearer, and the even one if they are as near. -/
def onGrid? (m : Nat) (e g : Int) : Option Nat :=
  let r := Rounding.around m e
  let k := floorScaled m e g
  match r.holds e k g && k != 0, r.holds e (k + 1) g with
  | false, false => none
  | true, false => some k
  | false, true => some (k + 1)
  | true, true =>
    match compareScaled (2 * m) e (2 * k + 1) g with
    | .lt => some k
    | .gt => some (k + 1)
    | .eq => some (if k % 2 == 0 then k else k + 1)

/-- The first grid point found while the grid gets finer from `10 ^ g`. -/
def firstOnGrid (m : Nat) (e : Int) : Nat → Int → Nat × Int
  | 0, g => (floorScaled m e g, g)
  | steps + 1, g =>
    match onGrid? m e g with
    | some k => (k, g)
    | none => firstOnGrid m e steps (g - 1)

/-- Digits without the zeros at their end, and the exponent that makes up for them. -/
def dropZeros : Nat → Nat → Int → Nat × Int
  | 0, k, g => (k, g)
  | steps + 1, k, g => if k % 10 == 0 && k != 0 then dropZeros steps (k / 10) (g + 1) else (k, g)

/-- The shortest `k · 10 ^ g` that rounds to `m · 2 ^ e`, for a positive `m`. -/
def shortest (m : Nat) (e : Int) : Nat × Int :=
  let guess := (Int.ofNat (Nat.log2 m) + e) * 30103 / 100000 + 1
  let found := firstOnGrid m e 17 (leadingExponent m e 3 guess)
  dropZeros 20 found.1 found.2

end Stencil.Number
