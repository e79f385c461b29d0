/-! Binary floating-point numbers taken apart into whole numbers, exactly. -/
namespace Stencil.Number

/-- `2 ^ n`, and 1 for a negative `n`. -/
def powerOfTwo (n : Int) : Nat := Nat.pow 2 n.toNat

/-- `10 ^ n`, and 1 for a negative `n`. -/
def powerOfTen (n : Int) : Nat := Nat.pow 10 n.toNat

/-- What the bits of a floating-point number say. A finite one is `m · 2 ^ e`, with its sign apart. -/
inductive Binary where
  | nan
  | infinite (negative : Bool)
  | finite (negative : Bool) (m : Nat) (e : Int)
  deriving Repr, DecidableEq

/-- The smallest exponent of a double. -/
def minExponent : Int := -1074

/-- The fields of a double: sign, eleven bits of exponent, fifty-two bits of fraction. -/
def Binary.ofFloat (x : Float) : Binary :=
  let bits := x.toBits.toNat
  let negative := bits / powerOfTwo 63 == 1
  let exponent := bits / powerOfTwo 52 % powerOfTwo 11
  let fraction := bits % powerOfTwo 52
  if exponent = 2047 then (if fraction = 0 then .infinite negative else .nan)
  else if exponent = 0 then .finite negative fraction minExponent
  else .finite negative (powerOfTwo 52 + fraction) (Int.ofNat exponent - 1075)

/-- A finite number cut to a whole one, toward zero. -/
def Binary.truncate? : Binary → Option Int
  | .finite negative m e =>
    let n := if 0 ≤ e then m * powerOfTwo e else m / powerOfTwo (-e)
    some (if negative then -Int.ofNat n else Int.ofNat n)
  | _ => none

/-- A finite number with nothing after the point, as a whole one. -/
def Binary.whole? (b : Binary) : Option Int :=
  match b with
  | .finite _ m e => if 0 ≤ e || m % powerOfTwo (-e) == 0 then b.truncate? else none
  | _ => none

end Stencil.Number
