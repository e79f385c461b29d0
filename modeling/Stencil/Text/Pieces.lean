import Stencil.Text.Space
import Stencil.Unicode.Word

/-! Finding marked stretches in a text. A recogniser reads one stretch at the start of a text; `pieces`
walks a text from left to right, takes a stretch wherever one starts, and keeps every other character
as it is. -/
namespace Stencil.Text

open Unicode (isWord)

/-- The text after `lead`, which it must start with. -/
def expect : List Char → List Char → Option (List Char)
  | [], s => some s
  | _ :: _, [] => none
  | a :: lead, c :: s => if a = c then expect lead s else none

/-- The longest word at the start of a text, which must not be empty, and what follows it. -/
def takeWord (s : List Char) : Option (List Char × List Char) :=
  match s.takeWhile isWord with
  | [] => none
  | w => some (w, s.dropWhile isWord)

theorem expect_eq_some {lead s rest : List Char} (h : expect lead s = some rest) :
    s = lead ++ rest := by
  fun_induction expect lead s <;> simp_all

@[simp] theorem expect_append (lead rest : List Char) : expect lead (lead ++ rest) = some rest := by
  induction lead with
  | nil => simp [expect]
  | cons a lead ih => simpa [expect] using ih

theorem takeWord_eq_some {s w rest : List Char} (h : takeWord s = some (w, rest)) :
    s = w ++ rest ∧ w ≠ [] ∧ w.all isWord = true := by
  unfold takeWord at h
  split at h
  · cases h
  · next hne =>
    cases h
    exact ⟨List.takeWhile_append_dropWhile.symm, fun h => hne h, List.all_takeWhile⟩

theorem expect_suffix {lead s rest : List Char} (h : expect lead s = some rest) : rest <:+ s :=
  ⟨lead, (expect_eq_some h).symm⟩

theorem takeWord_suffix {s w rest : List Char} (h : takeWord s = some (w, rest)) : rest <:+ s :=
  ⟨w, (takeWord_eq_some h).1.symm⟩

/-- Reads a marked stretch at the start of a text: its meaning, and a proper suffix that is left. -/
structure Recogniser (α : Type) where
  read : List Char → Option (α × List Char)
  read_suffix : ∀ {s a rest}, read s = some (a, rest) → rest <:+ s
  read_shorter : ∀ {s a rest}, read s = some (a, rest) → rest.length < s.length

/-- Part of a text: one character as it is, or a stretch with its meaning and its spelling. -/
inductive Piece (α : Type) where
  | char (c : Char)
  | mark (meaning : α) (source : List Char)
  deriving Repr, DecidableEq

namespace Recogniser

variable {α : Type}

/-- The text cut into stretches and single characters, from left to right. -/
def pieces (p : Recogniser α) : List Char → List (Piece α)
  | [] => []
  | c :: s =>
    match h : p.read (c :: s) with
    | some (a, rest) =>
      have := p.read_shorter h
      .mark a ((c :: s).take ((c :: s).length - rest.length)) :: p.pieces rest
    | none => .char c :: p.pieces s
termination_by s => s.length
decreasing_by
  · exact this
  · exact Nat.lt_succ_self _

/-- The first stretch of a text, with the text before it and the text after it. -/
def search (p : Recogniser α) : List Char → Option (List Char × α × List Char)
  | [] => none
  | c :: s =>
    match p.read (c :: s) with
    | some (a, rest) => some ([], a, rest)
    | none => (p.search s).map fun found => (c :: found.1, found.2)

@[simp] theorem pieces_nil (p : Recogniser α) : p.pieces [] = [] := by simp [pieces]

theorem pieces_of_read {p : Recogniser α} {c : Char} {s : List Char} {a : α} {rest : List Char}
    (h : p.read (c :: s) = some (a, rest)) :
    p.pieces (c :: s) =
      .mark a ((c :: s).take ((c :: s).length - rest.length)) :: p.pieces rest := by
  rw [pieces]; split <;> simp_all

theorem pieces_of_read_none {p : Recogniser α} {c : Char} {s : List Char}
    (h : p.read (c :: s) = none) : p.pieces (c :: s) = .char c :: p.pieces s := by
  rw [pieces]; split <;> simp_all

end Recogniser

/-- The text that a piece was cut from. -/
def Piece.text {α : Type} : Piece α → List Char
  | .char c => [c]
  | .mark _ source => source

/-- Cutting loses nothing. -/
theorem Recogniser.flatMap_text_pieces {α : Type} (p : Recogniser α) (s : List Char) :
    (p.pieces s).flatMap Piece.text = s := by
  fun_induction pieces p s with
  | case1 => rfl
  | case2 c s a rest h _ ih =>
    obtain ⟨used, hused⟩ := p.read_suffix h
    rw [List.flatMap_cons, ih, Piece.text, ← hused]
    simp
  | case3 c s h ih => rw [List.flatMap_cons, ih]; rfl

/-- Every stretch replaced by a text made from its meaning and its spelling. -/
def Recogniser.replace {α : Type} (p : Recogniser α) (f : α → List Char → List Char)
    (s : List Char) : List Char :=
  (p.pieces s).flatMap fun
    | .char c => [c]
    | .mark a source => f a source

end Stencil.Text
