/-! Bytes as text of sixty-four characters, three bytes to four characters. A text that is read may have other
characters in it, which count for nothing. -/
namespace Stencil.Text.Base64

def alphabet : List Char :=
  "ABCDEFGHIJKLMNOPQRSTUVWXYZabcdefghijklmnopqrstuvwxyz0123456789+/".toList

/-- What fills up the last four characters. -/
def filler : Char := '='

def letter (n : Nat) : Char := alphabet.getD n filler

/-- The characters of bytes. -/
def encode : List UInt8 → List Char
  | [] => []
  | [a] => [letter (a.toNat / 4), letter (a.toNat % 4 * 16), filler, filler]
  | [a, b] =>
    [letter (a.toNat / 4), letter (a.toNat % 4 * 16 + b.toNat / 16), letter (b.toNat % 16 * 4), filler]
  | a :: b :: c :: rest =>
    letter (a.toNat / 4) :: letter (a.toNat % 4 * 16 + b.toNat / 16)
      :: letter (b.toNat % 16 * 4 + c.toNat / 64) :: letter (c.toNat % 64) :: encode rest

/-- How many bytes a line stands for. -/
def lineBytes : Nat := 57

/-- The lines of bytes. The fuel is the number of bytes. -/
def lines : (fuel : Nat) → List UInt8 → List (List Char)
  | 0, _ => []
  | fuel + 1, bytes =>
    if bytes.isEmpty then [] else encode (bytes.take lineBytes) :: lines fuel (bytes.drop lineBytes)

/-- Why a text stands for no bytes. -/
inductive Fault where
  /-- A group of characters is not filled up. -/
  | padding
  /-- A group of one character, after so many that count. -/
  | count (characters : Nat)
  deriving Repr, DecidableEq

/-- Reading half done: how many characters of a group were read, what they left over, and how many fillers came
one after another. -/
structure Reader where
  place : Nat := 0
  left : Nat := 0
  fillers : Nat := 0

/-- The bytes of a text. A group that is filled up ends the text. -/
def decodeFrom : Reader → (bytes : List UInt8) → List Char → Except Fault (List UInt8)
  | r, bytes, [] =>
    if r.place = 0 then .ok bytes.reverse
    else if r.place = 1 then .error (.count (bytes.length / 3 * 4 + 1))
    else .error .padding
  | r, bytes, c :: s =>
    if c = filler then
      let r := { r with fillers := r.fillers + 1 }
      if 2 ≤ r.place ∧ 4 ≤ r.place + r.fillers then .ok bytes.reverse else decodeFrom r bytes s
    else
      match alphabet.idxOf? c with
      | none => decodeFrom r bytes s
      | some n =>
        match r.place with
        | 0 => decodeFrom ⟨1, n, 0⟩ bytes s
        | 1 => decodeFrom ⟨2, n % 16, 0⟩ (UInt8.ofNat (r.left * 4 + n / 16) :: bytes) s
        | 2 => decodeFrom ⟨3, n % 4, 0⟩ (UInt8.ofNat (r.left * 16 + n / 4) :: bytes) s
        | _ => decodeFrom ⟨0, 0, 0⟩ (UInt8.ofNat (r.left * 64 + n) :: bytes) s

def decode (text : List Char) : Except Fault (List UInt8) := decodeFrom {} [] text

@[simp] theorem encode_nil : encode [] = [] := rfl

theorem decode_nil : decode [] = .ok [] := rfl

end Stencil.Text.Base64
