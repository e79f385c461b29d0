import Stencil.Proofs.Mapping
import Stencil.Proofs.Target.Reading
import Stencil.Target.Run
import Stencil.Template.Compiler

/-! Rendering: a compiled page is run against its data by a backend. The library relies on a backend for texts that
are written as the grammar of the target language says, and for nothing else. -/
namespace Stencil

namespace Target

/-- Something that runs texts. -/
structure Backend where
  run : List Char → Mapping → Except RunFault (List Char)
  /-- Line ends of every kind are line feeds. A text that is written from pieces is then run piece by piece: plain
  characters are shown as they are, and tags do what their words say. -/
  run_written : ∀ {source : List Char} {pieces : List (Text.Piece Construct)},
    Written pieces (Text.Utf8.foldNewlines source) → ∀ data, run source data = runPieces pieces data

/-- The backend that finds the pieces of a text by itself. -/
def Backend.own : Backend where
  run := Target.run
  run_written h data := by rw [Target.run, piecesOf, pieces_of_written h]

end Target

namespace Template

/-- A page without a name is called so in messages. -/
def namelessLabel : String := "<string>"

/-- How a page is called in messages. -/
def labelOf : Option String → String
  | some name => if name = "" then namelessLabel else name
  | none => namelessLabel

/-- The data that a page is run against: what it says of the name of the brace is left out. -/
def visible (data : Mapping) : Mapping := Mapping.erase data (.str Target.braceName)

/-- The error that a fault of a run becomes. -/
def faultError (label : String) : Target.RunFault → Error
  | .tooManyLoops => .loopNesting
  | .tooDeep => .nesting
  | .unshown fault => .ofShowFault fault
  | fault => .execution label fault

/-- The output of compiled text. -/
def execute (backend : Target.Backend) (source : List Char) (data : Mapping) (name : Option String) :
    Expansion (List Char) := do
  if Mapping.contains data (.str Target.braceName) then note (.reservedKey Target.braceName)
  match backend.run source (visible data) with
  | .ok out => return out
  | .error fault => throw (faultError (labelOf name) fault)

/-! ### How an execution ends -/

/-- The end of an execution whose run ends so. -/
def endOf (label : String) (t : Trace) :
    Except Target.RunFault (List Char) → EStateM.Result Error Trace (List Char)
  | .ok out => .ok out t
  | .error fault => .error (faultError label fault) t

/-- What an execution leaves in the trace: a warning if the data takes the name of the brace. -/
def warned (data : Mapping) (t : Trace) : Trace :=
  if Mapping.contains data (.str Target.braceName) then
    { t with log := t.log ++ [(Event.reservedKey Target.braceName).record] }
  else t

theorem execute_eq_endOf (backend : Target.Backend) (source : List Char) (data : Mapping)
    (name : Option String) (t : Trace) :
    execute backend source data name t =
      endOf (labelOf name) (warned data t) (backend.run source (visible data)) := by
  unfold execute warned
  cases backend.run source (visible data) <;> split <;> rfl

/-- What is left out of the data is under a name. -/
theorem hasOnlyNames_visible (data : Mapping) :
    Target.hasOnlyNames (visible data) = Target.hasOnlyNames data := by
  unfold visible Target.hasOnlyNames Mapping.erase
  rw [List.all_filter]
  congr 1
  funext p
  cases hsame : p.1.sameKey (.str Target.braceName) with
  | false => rfl
  | true => simp [Mapping.sameKey_name_iff.mp hsame]

end Template

end Stencil
