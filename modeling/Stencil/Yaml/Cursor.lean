import Stencil.Yaml.Mark

/-! A text read up to a place: what is left of the text, and how far, on which line and in which column the
place is. -/
namespace Stencil.Yaml

/-- Characters that end a line. -/
def isBreak (c : Char) : Bool :=
  c == '\n' || c == '\r' || c == '\x85' || c == '\u2028' || c == '\u2029'

/-- Spaces and tabs. -/
def isBlank (c : Char) : Bool := c == ' ' || c == '\t'

/-- Whether a word ends in front of a character, or of the end of the text. -/
def isGap : Option Char → Bool
  | none => true
  | some c => isBlank c || isBreak c

/-- The same, but a tab is no end. -/
def isGapNoTab : Option Char → Bool
  | none => true
  | some c => c == ' ' || isBreak c

/-- Whether a line ends in front of a character, or of the end of the text. -/
def isLineEnd : Option Char → Bool
  | none => true
  | some c => isBreak c

/-- Whether a text may hold a character. -/
def isAllowed (c : Char) : Bool :=
  let n := c.toNat
  n == 9 || n == 10 || n == 13 || (0x20 ≤ n && n ≤ 0x7e) || n == 0x85 || (0xa0 ≤ n && n ≤ 0xd7ff)
    || (0xe000 ≤ n && n ≤ 0xfffd) || 0x10000 ≤ n

/-- The mark of byte order, which takes no column. -/
def byteOrderMark : Char := '\ufeff'

structure Cursor where
  rest : List Char
  index : Nat := 0
  line : Nat := 0
  column : Nat := 0

namespace Cursor

def mark (c : Cursor) : Mark := ⟨c.index, c.line, c.column⟩

/-- A character, or the end of the text, as messages show it. -/
def shown (ch : Option Char) : String := String.ofList (Text.quoted [ch.getD '\x00'])

/-- The fault `problem` at a place, found while reading `what` from `start` on. -/
def refuse {α : Type} (c : Cursor) (what : String) (start : Mark) (problem : String) : Reading α :=
  .error (.fault ⟨some ("while " ++ what, some start), problem, c.mark⟩)

/-- The same about the character `ch`. -/
def refuseChar {α : Type} (c : Cursor) (what : String) (start : Mark) (wanted : String)
    (ch : Option Char) : Reading α :=
  c.refuse what start (wanted ++ ", but found " ++ shown ch)

def peek (c : Cursor) : Option Char := c.rest.head?

/-- The character `n` places further on. -/
def peekAt (c : Cursor) (n : Nat) : Option Char := c.rest[n]?

/-- The next place. A line ends after its break, which may be two characters. -/
def next (c : Cursor) : Cursor :=
  match c.rest with
  | [] => c
  | ch :: rest =>
    if isBreak ch && !(ch == '\r' && rest.head? == some '\n') then ⟨rest, c.index + 1, c.line + 1, 0⟩
    else ⟨rest, c.index + 1, c.line, if ch = byteOrderMark then c.column else c.column + 1⟩

/-- `n` places further on. -/
def forward : Nat → Cursor → Cursor
  | 0, c => c
  | n + 1, c => forward n c.next

/-- The stretch of characters that `p` holds for, and the place after it. -/
def span (p : Char → Bool) (c : Cursor) : List Char × Cursor :=
  let s := c.rest.takeWhile p
  (s, c.forward s.length)

def skipSpaces (c : Cursor) : Cursor := (c.span (· == ' ')).2

/-- A comment skipped, if there is one. -/
def skipComment (c : Cursor) : Cursor :=
  if c.peek = some '#' then (c.span fun ch => !isBreak ch).2 else c

/-- A line break and the place after it. Most breaks count as a line feed. -/
def lineBreak? (c : Cursor) : Option (Char × Cursor) :=
  match c.rest with
  | '\r' :: '\n' :: _ => some ('\n', c.forward 2)
  | ch :: _ =>
    if ch = '\u2028' ∨ ch = '\u2029' then some (ch, c.next)
    else if isBreak ch then some ('\n', c.next)
    else none
  | [] => none

/-- Whether the text goes on with a mark that ends a document, `---` or `...`. -/
def atDocumentMark (c : Cursor) : Bool :=
  match c.rest with
  | '-' :: '-' :: '-' :: s => isGap s.head?
  | '.' :: '.' :: '.' :: s => isGap s.head?
  | _ => false

/-- The rest of a line that may hold a comment and nothing else. -/
def endLine (c : Cursor) (what : String) (start : Mark) : Reading Cursor :=
  let c := c.skipSpaces.skipComment
  match c.lineBreak? with
  | some (_, c) => .ok c
  | none =>
    if c.rest.isEmpty then .ok c
    else c.refuseChar what start "expected a comment or a line break" c.peek

/-- A step takes one character of the text. -/
theorem next_rest (c : Cursor) : c.next.rest = c.rest.tail := by
  unfold next
  split
  · next h => simp [h]
  · next h => split <;> simp [h]

theorem forward_rest (n : Nat) (c : Cursor) : (c.forward n).rest = c.rest.drop n := by
  induction n generalizing c with
  | zero => rfl
  | succ n ih => rw [forward, ih, next_rest, ← List.drop_one, List.drop_drop, Nat.add_comm]

end Cursor

end Stencil.Yaml
