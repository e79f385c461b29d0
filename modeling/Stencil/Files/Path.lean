import Stencil.Text.Parts

/-! Paths as text: an anchor, if the path starts at the top, and the names on the way. Repeated slashes
and `.` say nothing and are dropped; `..` stays. -/
namespace Stencil

/-- A path. The anchor is empty for a path that starts where one stands. -/
structure Path where
  anchor : String
  parts : List String
  deriving Repr, BEq, DecidableEq, Inhabited

namespace Path

/-- Exactly two leading slashes are an anchor of their own. -/
def anchorOf : List Char → String
  | '/' :: '/' :: '/' :: _ => "/"
  | '/' :: '/' :: _ => "//"
  | '/' :: _ => "/"
  | _ => ""

/-- The names that a text passes through. -/
def partsOf (s : List Char) : List String :=
  ((Text.splitOn '/' s).filter fun w => w ≠ [] ∧ w ≠ ['.']).map String.ofList

/-- The path that a text writes. -/
def ofList (s : List Char) : Path := ⟨anchorOf s, partsOf s⟩

def ofString (s : String) : Path := ofList s.toList

/-- Whether the path starts at the top. -/
def isAbsolute (p : Path) : Bool := p.anchor != ""

/-- The text of a path; a path that says nothing is `.`. -/
def text (p : Path) : String :=
  if p.anchor = "" ∧ p.parts = [] then "." else p.anchor ++ "/".intercalate p.parts

/-- The names that a path is followed by; one that says nothing looks at where it starts. -/
def steps (p : Path) : List String := if p.anchor = "" ∧ p.parts = [] then ["."] else p.parts

/-- `q` seen from `p`; an absolute `q` stands alone. -/
def join (p q : Path) : Path := if q.isAbsolute then q else ⟨p.anchor, p.parts ++ q.parts⟩

instance : Div Path := ⟨join⟩

/-- A path further down, by its text. -/
def child (p : Path) (s : String) : Path := p / ofString s

/-- The last name, or nothing. -/
def name (p : Path) : String := p.parts.getLastD ""

/-- The path without its last name. -/
def parent (p : Path) : Path := ⟨p.anchor, p.parts.dropLast⟩

/-- The paths on the way up, nearest first. -/
def parents (p : Path) : List Path :=
  (List.range p.parts.length).map fun n => ⟨p.anchor, p.parts.take (p.parts.length - 1 - n)⟩

/-- Whether the path stays below wherever it is joined to. -/
def isContained (p : Path) : Bool := !p.isAbsolute && !p.parts.contains ".."

/-- A name cut before its last dot, which is neither its first nor its last character. -/
def splitName (name : List Char) : List Char × List Char :=
  let tail := name.reverse.takeWhile (· ≠ '.')
  let stem := (name.reverse.drop (tail.length + 1)).reverse
  if tail = [] ∨ stem = [] ∨ tail.length = name.length then (name, [])
  else (stem, '.' :: tail.reverse)

/-- The last name without its suffix. -/
def stem (p : Path) : String := String.ofList (splitName p.name.toList).1

@[simp] theorem join_absolute {p q : Path} (h : q.isAbsolute = true) : p.join q = q := by
  simp [join, h]

@[simp] theorem join_relative {p q : Path} (h : q.isAbsolute = false) :
    p.join q = ⟨p.anchor, p.parts ++ q.parts⟩ := by
  simp [join, h]

end Path

end Stencil
