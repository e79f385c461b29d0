import Stencil.Proofs.Pieces
import Stencil.Template.Compiler

/-! The texts that stages make. Loops and placeholders are converted while the report is written; here is
what becomes of the text alone. -/
namespace Stencil.Template

open Text (Piece)

/-- What takes the place of a loop. -/
def Directive.Loop.put (l : Directive.Loop) (source : List Char) : List Char :=
  if l.isUsable then l.target else source

/-- What takes the place of a placeholder. -/
def placeholderText (scope : Scope) (name : String) (source : List Char) : List Char :=
  if name = loopEndKeyword then source
  else if !scope.isBound name then diagnostic s!"Variable {name} not found"
  else if !isRenderable name then diagnostic s!"Variable {name} is reserved"
  else (Target.Construct.show name).text

/-- A text after one round over its loops. -/
def loopRound (text : List Char) : List Char := Directive.loop.replace Directive.Loop.put text

/-- A text after rounds over its loops, until one changes nothing. -/
def loopRoundsText : (fuel : Nat) → List Char → List Char
  | 0, text => text
  | fuel + 1, text =>
    if loopRound text = text then text else loopRoundsText fuel (loopRound text)

theorem loopRoundsText_of_still {text : List Char} (h : loopRound text = text) (fuel : Nat) :
    loopRoundsText fuel text = text := by
  cases fuel with
  | zero => rfl
  | succ fuel => rw [loopRoundsText, if_pos h]

/-- Rounds go on from where they were. -/
theorem loopRoundsText_add (fuel more : Nat) (text : List Char) :
    loopRoundsText (fuel + more) text = loopRoundsText more (loopRoundsText fuel text) := by
  induction fuel generalizing text with
  | zero => rw [Nat.zero_add, loopRoundsText]
  | succ fuel ih =>
    rw [Nat.succ_add, loopRoundsText, loopRoundsText]
    split
    · next hstill => exact (loopRoundsText_of_still hstill more).symm
    · exact ih (loopRound text)

theorem convertLoop_text (scope : Scope) (l : Directive.Loop) (source : List Char) (t : Trace) :
    (convertLoop scope l source t).1.2 = l.put source := by
  unfold convertLoop Directive.Loop.put
  split <;> rfl

theorem convertLoops_text (scope : Scope) (pieces : List (Piece Directive.Loop)) (t : Trace) :
    (convertLoops scope pieces t).1.2 = pieces.flatMap (Piece.put Directive.Loop.put) := by
  induction pieces generalizing scope t with
  | nil => rfl
  | cons piece pieces ih =>
    cases piece with
    | char c => exact congrArg (c :: ·) (ih scope t)
    | mark l source =>
      have hrest := ih (convertLoop scope l source t).1.1 (convertLoop scope l source t).2
      rw [List.flatMap_cons, Piece.put, ← hrest, ← convertLoop_text scope l source t]
      rfl

/-- A round and, if it changes the text, the rounds after it. -/
theorem loopRounds_succ (fuel : Nat) (scope : Scope) (text : List Char) (t : Trace) :
    loopRounds (fuel + 1) scope text t =
      let r := convertLoops scope (Directive.loop.pieces text) t
      if r.1.2 = text then r else loopRounds fuel r.1.1 r.1.2 r.2 := by
  change (if (convertLoops scope (Directive.loop.pieces text) t).1.2 = text
    then (pure _ : Tracing _) else loopRounds fuel _ _) _ = _
  dsimp only
  split <;> rfl

theorem loopRounds_text (fuel : Nat) (scope : Scope) (text : List Char) (t : Trace) :
    (loopRounds fuel scope text t).1.2 = loopRoundsText fuel text := by
  induction fuel generalizing scope text t with
  | zero => rfl
  | succ fuel ih =>
    have hround : (convertLoops scope (Directive.loop.pieces text) t).1.2 = loopRound text :=
      convertLoops_text scope _ t
    rw [loopRounds_succ, loopRoundsText]
    dsimp only
    rw [hround]
    split
    · next h => rw [hround, h]
    · exact ih _ _ _

/-- The text with all of its loops expanded. -/
theorem expandLoops_text (scope : Scope) (text : List Char) (t : Trace) :
    (expandLoops scope text t).1.2 = loopRoundsText (text.length + 1) text :=
  loopRounds_text (text.length + 1) scope text t

theorem convertVariable_text (scope : Scope) (name : String) (source : List Char) (t : Trace) :
    (convertVariable scope name source t).1 = placeholderText scope name source := by
  unfold convertVariable placeholderText
  split
  · rfl
  split
  · rfl
  split <;> rfl

theorem convertVariables_text (scope : Scope) (pieces : List (Piece String)) (t : Trace) :
    (convertVariables scope pieces t).1 = pieces.flatMap (Piece.put (placeholderText scope)) := by
  induction pieces generalizing t with
  | nil => rfl
  | cons piece pieces ih =>
    cases piece with
    | char c => exact congrArg (c :: ·) (ih t)
    | mark name source =>
      have hrest := ih (convertVariable scope name source t).2
      rw [List.flatMap_cons, Piece.put, ← hrest, ← convertVariable_text scope name source t]
      rfl

/-- The text with all of its placeholders converted. -/
theorem substituteVariables_text (scope : Scope) (text : List Char) (t : Trace) :
    (substituteVariables scope text t).1 =
      (scope, Directive.placeholder.replace (placeholderText scope) text) :=
  congrArg (scope, ·) (convertVariables_text scope _ t)

end Stencil.Template
