import Stencil.Template.Directive.Mark

/-! `<: component name props >`, which may also end in `:>`. It ends at the first `>` outside quotes. -/
namespace Stencil.Template.Directive

open Text (skipSpace needSpace)

/-- A use of a component: its name, and the text of its props. -/
structure ComponentUse where
  name : String
  props : List Char
  deriving Repr, DecidableEq

/-- Whether a character opens a quoted stretch. -/
def isQuote (c : Char) : Bool := c == '"' || c == '\''

/-- The quote that is open after a character, given the one open before it. -/
def quoteAfter (quote : Option Char) (c : Char) : Option Char :=
  match quote with
  | some q => if c = q then none else some q
  | none => if isQuote c then some c else none

/-- The text up to the first `>` outside quotes, and what follows it. -/
def splitEnd (quote : Option Char) : List Char → Option (List Char × List Char)
  | [] => none
  | c :: s =>
    if quote = none ∧ c = '>' then some ([], s)
    else (splitEnd (quoteAfter quote c) s).map fun r => (c :: r.1, r.2)

/-- The position of the first `>` at or after `start` outside the quotes opened since `start`. -/
def findEnd (text : List Char) (start : Nat) : Option Nat :=
  (splitEnd none (text.drop start)).map fun r => start + r.1.length

/-- The same for a start that may be negative. It counts from the end then, and the text is gone through
from there and once more from its front; positions in the first round are negative too. There is no answer
if the start lies in front of the text. -/
def findEndFrom? (text : List Char) : (start : Int) → Option (Option Int)
  | .ofNat start => some ((findEnd text start).map Int.ofNat)
  | .negSucc n =>
    if text.length ≤ n then none
    else
      let round := text.drop (text.length - (n + 1)) ++ text
      some ((findEnd round 0).map fun (k : Nat) => k - (n + 1 : Nat))

/-- The text after `<: component`, at which a word must end. -/
def componentOpener (s : List Char) : Option (List Char) :=
  match openKeyword "component".toList s with
  | some (c :: rest) => if Unicode.isWord c then none else some (c :: rest)
  | found => found

/-- A text without one colon at its end. -/
def dropColon (s : List Char) : List Char := if s.getLast? = some ':' then s.dropLast else s

/-- The name and the props between the opener and the end. -/
def readHead (inner : List Char) : Option ComponentUse := do
  let s ← needSpace (dropColon inner)
  let (name, s) ← takeName s
  match s with
  | [] => some ⟨String.ofList name, []⟩
  | s => (needSpace s).map fun props => ⟨String.ofList name, props⟩

/-- A stretch that begins like a use of a component. It means nothing, and stays as it is, if it has no
end, which takes in all of the text, or if no name stands in it. -/
def readComponent (s : List Char) : Option (Option ComponentUse × List Char) :=
  match componentOpener s with
  | none => none
  | some rest =>
    match splitEnd none rest with
    | none => some (none, [])
    | some (inner, after) => some (readHead inner, after)

theorem splitEnd_suffix {quote : Option Char} {s inner rest : List Char}
    (h : splitEnd quote s = some (inner, rest)) : rest <:+ s := by
  induction s generalizing quote inner with
  | nil => cases h
  | cons c s ih =>
    simp only [splitEnd] at h
    split at h
    · cases h; exact List.suffix_cons _ _
    · obtain ⟨r, hr, he⟩ := Option.map_eq_some_iff.mp h
      cases he
      exact (ih hr).trans (List.suffix_cons c s)

theorem componentOpener_suffix {s rest : List Char} (h : componentOpener s = some rest) :
    rest <:+ s ∧ rest.length < s.length := by
  unfold componentOpener at h
  split at h
  · next heq =>
    split at h
    · cases h
    · cases h; exact openKeyword_suffix heq
  · exact openKeyword_suffix h

theorem readComponent_suffix {s rest : List Char} {u : Option ComponentUse}
    (h : readComponent s = some (u, rest)) : rest <:+ s ∧ rest.length < s.length := by
  unfold readComponent at h
  split at h
  · cases h
  · next hopen =>
    obtain ⟨h₁, h₂⟩ := componentOpener_suffix hopen
    split at h
    · cases h
      exact ⟨List.nil_suffix, Nat.zero_lt_of_lt h₂⟩
    · next hend =>
      cases h
      have hs := splitEnd_suffix hend
      exact ⟨hs.trans h₁, Nat.lt_of_le_of_lt hs.length_le h₂⟩

/-- Finds uses of components. -/
def component : Text.Recogniser (Option ComponentUse) where
  read := readComponent
  read_suffix h := (readComponent_suffix h).1
  read_shorter h := (readComponent_suffix h).2

end Stencil.Template.Directive
