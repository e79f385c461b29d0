import Stencil.Text.Quoted

/-! UTF-8, with the exact place and reason of what is wrong in bytes that are not UTF-8. -/
namespace Stencil.Text.Utf8

/-- Why bytes are not UTF-8. -/
inductive Reason where
  | badStart
  | badContinuation
  | truncated
  deriving Repr, DecidableEq

/-- The bytes at fault: where they start, which they are, and why. -/
structure Fault where
  start : Nat
  bytes : List UInt8
  reason : Reason
  deriving Repr, DecidableEq

/-- The bytes of one character. -/
def encodeChar (c : Char) : List UInt8 :=
  let n := c.toNat
  if n < 0x80 then [UInt8.ofNat n]
  else if n < 0x800 then [UInt8.ofNat (0xc0 + n / 0x40), UInt8.ofNat (0x80 + n % 0x40)]
  else if n < 0x10000 then
    [UInt8.ofNat (0xe0 + n / 0x1000), UInt8.ofNat (0x80 + n / 0x40 % 0x40),
     UInt8.ofNat (0x80 + n % 0x40)]
  else
    [UInt8.ofNat (0xf0 + n / 0x40000), UInt8.ofNat (0x80 + n / 0x1000 % 0x40),
     UInt8.ofNat (0x80 + n / 0x40 % 0x40), UInt8.ofNat (0x80 + n % 0x40)]

/-- The bytes of a text. -/
def encode (s : List Char) : List UInt8 := s.flatMap encodeChar

/-- What a first byte announces: how many bytes follow, its own bits, and the range of the next byte. -/
structure Lead where
  more : Nat
  bits : Nat
  low : Nat
  high : Nat

/-- Surrogates, codes that need fewer bytes, and codes past the last one are ruled out by the range of
the second byte. -/
def lead? (b : UInt8) : Option Lead :=
  let n := b.toNat
  if n < 0x80 then some ⟨0, n, 0x80, 0xbf⟩
  else if n < 0xc2 then none
  else if n < 0xe0 then some ⟨1, n - 0xc0, 0x80, 0xbf⟩
  else if n < 0xf0 then
    some ⟨2, n - 0xe0, if n = 0xe0 then 0xa0 else 0x80, if n = 0xed then 0x9f else 0xbf⟩
  else if n < 0xf5 then
    some ⟨3, n - 0xf0, if n = 0xf0 then 0x90 else 0x80, if n = 0xf4 then 0x8f else 0xbf⟩
  else none

/-- The bytes after the first one: `more` of them, of which the next lies between `low` and `high`. -/
def follow (start : Nat) (seen : List UInt8) :
    (more bits low high : Nat) → List UInt8 → Except Fault (Nat × List UInt8)
  | 0, bits, _, _, rest => .ok (bits, rest)
  | _ + 1, _, _, _, [] => .error ⟨start, seen, .truncated⟩
  | more + 1, bits, low, high, b :: rest =>
    if low ≤ b.toNat ∧ b.toNat ≤ high then
      follow start (seen ++ [b]) more (bits * 0x40 + (b.toNat - 0x80)) 0x80 0xbf rest
    else .error ⟨start, seen, .badContinuation⟩

/-- One character at position `start`. -/
def decodeChar (start : Nat) (b : UInt8) (rest : List UInt8) :
    Except Fault (Char × List UInt8) :=
  match lead? b with
  | none => .error ⟨start, [b], .badStart⟩
  | some l =>
    match follow start [b] l.more l.bits l.low l.high rest with
    | .error fault => .error fault
    | .ok (n, rest) => .ok (Char.ofNat n, rest)

/-- The text of bytes from position `start` on. The fuel is the number of bytes. -/
def decodeFrom : (fuel start : Nat) → List UInt8 → Except Fault (List Char)
  | _, _, [] => .ok []
  | 0, _, _ :: _ => .ok []
  | fuel + 1, start, b :: rest =>
    match decodeChar start b rest with
    | .error fault => .error fault
    | .ok (c, next) =>
      match decodeFrom fuel (start + (encodeChar c).length) next with
      | .error fault => .error fault
      | .ok cs => .ok (c :: cs)

/-- The text that bytes encode. -/
def decode (bytes : List UInt8) : Except Fault (List Char) := decodeFrom bytes.length 0 bytes

/-- Carriage returns, alone or in front of a line feed, read as line feeds. -/
def foldNewlines : List Char → List Char
  | [] => []
  | '\r' :: '\n' :: s => '\n' :: foldNewlines s
  | c :: s => (if c = '\r' then '\n' else c) :: foldNewlines s

def Reason.text : Reason → String
  | .badStart => "invalid start byte"
  | .badContinuation => "invalid continuation byte"
  | .truncated => "unexpected end of data"

/-- One byte is named, several are counted off. -/
def Fault.text (f : Fault) : String :=
  let place :=
    match f.bytes with
    | [b] => s!"byte 0x{String.ofList (hex 2 b.toNat)} in position {f.start}"
    | bs => s!"bytes in position {f.start}-{f.start + bs.length - 1}"
  s!"'utf-8' codec can't decode {place}: {f.reason.text}"

end Stencil.Text.Utf8
