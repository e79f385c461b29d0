import Stencil.Number.Shortest

/-! Floating-point numbers as text, and text as floating-point numbers. -/
namespace Stencil.Number

/-- How the digits of a number are laid out. -/
structure FloatStyle where
  /-- The smallest exponent of the leading digit that is written without an exponent. -/
  leastPlain : Int
  /-- The first exponent of the leading digit that is written with an exponent. -/
  firstScaled : Int
  /-- A lone digit gets this tail in front of an exponent. -/
  loneTail : String
  nan : String
  infinity : String
  minusInfinity : String

/-- Digits of a whole number. -/
def digits (n : Nat) : List Char := Nat.toDigits 10 n

/-- At least two digits. -/
def twoDigits (n : Nat) : List Char := if n < 10 then '0' :: digits n else digits n

/-- `n` zeros. -/
def zeros (n : Nat) : List Char := List.replicate n '0'

/-- The digits `ds`, whose first one counts `10 ^ lead`, with a point where it belongs. -/
def placePoint (ds : List Char) (lead : Int) : List Char :=
  if lead < 0 then '0' :: '.' :: (zeros (-lead - 1).toNat ++ ds)
  else
    let n := lead.toNat + 1
    if ds.length ≤ n then ds ++ zeros (n - ds.length) ++ ['.', '0']
    else ds.take n ++ '.' :: ds.drop n

/-- One digit, a point if more follow, and an exponent with its sign and two digits at least. -/
def placeExponent (style : FloatStyle) (ds : List Char) (lead : Int) : List Char :=
  (match ds with
    | [] => []
    | [d] => d :: style.loneTail.toList
    | d :: rest => d :: '.' :: rest)
  ++ 'e' :: (if lead < 0 then '-' else '+') :: twoDigits lead.natAbs

/-- The text of a floating-point number: the fewest digits that read back. -/
def floatText (style : FloatStyle) (x : Float) : List Char :=
  match Binary.ofFloat x with
  | .nan => style.nan.toList
  | .infinite negative => (if negative then style.minusInfinity else style.infinity).toList
  | .finite negative m e =>
    (if negative then ['-'] else []) ++
      if m = 0 then "0.0".toList
      else
        let (k, g) := shortest m e
        let ds := digits k
        let lead := g + (Int.ofNat ds.length - 1)
        if style.leastPlain ≤ lead && lead < style.firstScaled then placePoint ds lead
        else placeExponent style ds lead

/-- Numbers shown to readers: exponents from -4 to 15 are written out. -/
def FloatStyle.display : FloatStyle :=
  ⟨-4, 16, "", "nan", "inf", "-inf"⟩

/-- The same digits; numbers that are not finite have capital names. -/
def FloatStyle.json : FloatStyle :=
  ⟨-4, 16, "", "NaN", "Infinity", "-Infinity"⟩

/-- A lone digit keeps a point in front of its exponent, without which it would not be a number. -/
def FloatStyle.yaml : FloatStyle :=
  ⟨-4, 16, ".0", ".nan", ".inf", "-.inf"⟩

/-- A whole number in decimal. -/
def intText : Int → List Char
  | .ofNat n => digits n
  | .negSucc n => '-' :: digits (n + 1)

/-- The floating-point number nearest to `± mantissa · 10 ^ exponent`. -/
def floatOfDecimal (negative : Bool) (mantissa : Nat) (exponent : Int) : Float :=
  let x :=
    if mantissa = 0 then 0.0
    else if exponent < -(Int.ofNat (digits mantissa).length) - 400 then 0.0
    else if 400 < exponent then 1.0 / 0.0
    else if exponent < 0 then Float.ofScientific mantissa true exponent.natAbs
    else Float.ofScientific mantissa false exponent.natAbs
  if negative then -x else x

end Stencil.Number
