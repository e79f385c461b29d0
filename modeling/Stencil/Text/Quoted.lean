import Stencil.Unicode.Printable

/-! Text in quotes, on one line, with every hidden character written by its code. -/
namespace Stencil.Text

/-- The digits of `n` to the base sixteen, in lower case, on `width` places. -/
def hex : Nat → Nat → List Char
  | 0, _ => []
  | width + 1, n => hex width (n / 16) ++ [Nat.digitChar (n % 16)]

/-- A character by its code: two, four or eight digits, as few as it takes. -/
def codeEscape (c : Char) : List Char :=
  let n := c.toNat
  if n < 0x100 then '\\' :: 'x' :: hex 2 n
  else if n < 0x10000 then '\\' :: 'u' :: hex 4 n
  else '\\' :: 'U' :: hex 8 n

/-- A character as it stands between the quotes `quote`. -/
def quoteChar (quote c : Char) : List Char :=
  if c = quote ∨ c = '\\' then ['\\', c]
  else if c = '\n' then ['\\', 'n']
  else if c = '\t' then ['\\', 't']
  else if c = '\r' then ['\\', 'r']
  else if Unicode.isPrintable c then [c]
  else codeEscape c

/-- Single quotes, unless the text holds a single quote and no double one. -/
def chooseQuote (s : List Char) : Char :=
  if s.contains '\'' && !s.contains '"' then '"' else '\''

/-- A text in quotes. -/
def quoted (s : List Char) : List Char :=
  let quote := chooseQuote s
  quote :: (s.flatMap (quoteChar quote) ++ [quote])

/-- A byte as it stands between the quotes `quote`: by its code unless it is a visible character. -/
def quoteByte (quote : Char) (b : UInt8) : List Char :=
  let c := Char.ofNat b.toNat
  if c = quote ∨ c = '\\' then ['\\', c]
  else if c = '\n' then ['\\', 'n']
  else if c = '\t' then ['\\', 't']
  else if c = '\r' then ['\\', 'r']
  else if 0x20 ≤ b.toNat ∧ b.toNat < 0x7f then [c]
  else '\\' :: 'x' :: hex 2 b.toNat

/-- Bytes in quotes. -/
def quotedBytes (bytes : List UInt8) : List Char :=
  let quote := chooseQuote (bytes.map fun b => Char.ofNat b.toNat)
  quote :: (bytes.flatMap (quoteByte quote) ++ [quote])

@[simp] theorem length_hex (width n : Nat) : (hex width n).length = width := by
  induction width generalizing n with
  | zero => rfl
  | succ width ih => simp [hex, ih]

end Stencil.Text
