import Stencil.Project

/-! Choosing where the log goes: to the console, or to a file, to which it is appended. -/
namespace Stencil.Log

/-- Gets a file ready for lines at its end, and gives its serial number. -/
def openFile (path : Path) : Act Nat := do
  Files.ensureDirectory path.parent true
  if ← Files.hasEntry path then
    let _ ← Files.readBytes path
  else Files.change path fun tree cwd p => tree.writeThrough cwd p []
  match (← get).tree.get? path.parts with
  | some (.file _ _ serial) => return serial
  | _ => return 0

/-- Sets the level, and the sink unless it is the one in place, of which only the level changes. An old
sink is closed before a new one is opened. -/
def configure (name : String) (file : Option Path) : Act Unit := do
  let level := Level.ofText (String.ofList (Unicode.upper name.toList))
  let place ← file.mapM Files.resolve
  let medium := (place.map Medium.file).getD .console
  let set (sink : Option Sink) : Act Unit :=
    modify fun s => { s with journal := ⟨level, sink⟩ }
  let old := (← get).journal.sink
  set old
  match old.filter fun sink => sink.medium = medium with
  | some sink => set (some { sink with level })
  | none =>
    set none
    let serial ← if let .file path := medium then openFile path else pure 0
    set (some ⟨medium, level, serial⟩)

/-- Closes the sink. The level stays. -/
def close : Act Unit := modify fun s => { s with journal := { s.journal with sink := none } }

end Stencil.Log
