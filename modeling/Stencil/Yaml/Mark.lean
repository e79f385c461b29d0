import Stencil.Value.Numeric

/-! Places in a YAML text, and what can be wrong there. A fault is reported with its place; if the text was
given by itself, and not read from a file, the line around the place is shown too. -/
namespace Stencil.Yaml

/-- A place in a text: how far, on which line and in which column it is. -/
structure Mark where
  index : Nat
  line : Nat
  column : Nat
  deriving Repr, DecidableEq, Inhabited

/-- Where a text is from. -/
inductive Source where
  | file (path : String)
  | given (text : List Char)

/-- What is wrong with a text, and where. The context tells what was being read, and from which place on. -/
structure Fault where
  context : Option (String × Option Mark) := none
  problem : String
  mark : Mark
  deriving Repr, DecidableEq

/-- Why a text has no value. -/
inductive Failure where
  | fault (f : Fault)
  /-- A character that no text may hold, and its position. -/
  | unprintable (c : Char) (position : Nat)
  /-- The text is well-formed, but a scalar in it has no value of its kind. -/
  | other (e : Error)

/-- An outcome of reading YAML. -/
abbrev Reading (α : Type) := Except Failure α

/-- Where a line ends for messages. -/
def endsShownLine (c : Char) : Bool :=
  c == '\x00' || c == '\n' || c == '\r' || c == '\x85' || c == '\u2028' || c == '\u2029'

/-- The most characters shown on each side of a place. -/
def shownReach : Nat := 36

/-- How many characters are shown on a side where there are more. -/
def shownPart : Nat := 32

/-- How far a shown line stands in. -/
def shownIndent : Nat := 4

/-- The characters next to a place, on the side where the nearest comes first, and whether there are more. -/
def shownSide (s : List Char) : List Char × Bool :=
  let line := s.takeWhile fun c => !endsShownLine c
  if shownReach < line.length then (line.take shownPart, true) else (line, false)

/-- The line around a place, with a sign under the place. -/
def snippet (text : List Char) (m : Mark) : List Char :=
  let (before, cutBefore) := shownSide (text.take m.index).reverse
  let (after, cutAfter) := shownSide (text.drop m.index)
  let dots := " ... ".toList
  let head := (if cutBefore then dots else []) ++ before.reverse
  List.replicate shownIndent ' ' ++ head ++ after ++ (if cutAfter then dots else []) ++ '\n'
    :: List.replicate (shownIndent + head.length) ' ' ++ ['^']

/-- The name of a text in messages. -/
def Source.name : Source → String
  | file path => path
  | given _ => "<unicode string>"

/-- A place as messages show it. -/
def Mark.text (source : Source) (m : Mark) : String :=
  let name := source.name
  let place := s!"  in \"{name}\", line {m.line + 1}, column {m.column + 1}"
  match source with
  | .file _ => place
  | .given text => place ++ ":\n" ++ String.ofList (snippet text m)

/-- What is said about a fault. The place of the context is left out if it is the place of the fault. -/
def Fault.text (source : Source) (f : Fault) : String :=
  let context :=
    match f.context with
    | none => []
    | some (words, none) => [words]
    | some (words, some m) =>
      if m.line = f.mark.line ∧ m.column = f.mark.column then [words] else [words, m.text source]
  "\n".intercalate (context ++ [f.problem, f.mark.text source])

/-- What is said about a character that no text may hold. -/
def unprintableText (source : Source) (c : Char) (position : Nat) : String :=
  let code := String.ofList (Text.hex 4 c.toNat)
  let name := source.name
  s!"unacceptable character #x{code}: special characters are not allowed\n  in \"{name}\", position {position}"

/-- The error that a failure is. -/
def Failure.toError (source : Source) : Failure → Error
  | fault f => .notYaml (f.text source)
  | unprintable c position => .notYaml (unprintableText source c position)
  | other e => e

/-- An outcome that does not depend on places. -/
def Reading.ofExcept {α : Type} : Except Error α → Reading α
  | .ok a => .ok a
  | .error e => .error (.other e)

theorem shownSide_length (s : List Char) : (shownSide s).1.length ≤ shownReach := by
  simp only [shownSide]
  split
  · simp only [List.length_take]
    exact Nat.le_trans (Nat.min_le_left _ _) (by decide)
  · next h => exact Nat.not_lt.mp h

end Stencil.Yaml
