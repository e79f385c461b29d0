import Stencil.Files.Access
import Stencil.Json.Printer

/-! JSON files. -/
namespace Stencil.Files

/-- The value that JSON text writes. -/
def parseJson (text : List Char) : Except Error Value :=
  match Json.parse text with
  | .ok v => .ok v
  | .error .malformed => .error .notJson
  | .error (.longNumber n) => .error (.value (.integerTooLong n))
  | .error .tooDeep => .error .nesting

/-- The value in a file, or nothing if the file is not there. -/
def readJson? (p : Path) : Act (Option Value) := do
  if ← hasEntry p then
    let text ← readLines p
    return some (← Act.ofExcept (parseJson text))
  else return none

/-- The value in a file, which must be there. -/
def readJson (p : Path) : Act Value := do
  match ← readJson? p with
  | some v => return v
  | none => throw (.noFile s!"JSON file not found: {p.text}")

/-- A file with the text of a value, of which the keys may be sorted. -/
def writeJson (p : Path) (indent : Nat) (sorted : Bool) (v : Value) : Act Unit :=
  writeWith p <|
    match Json.fault? v with
    | some fault => throw (.ofWriteFault false fault)
    | none => pure (Json.render ⟨false, some indent⟩ 0 (if sorted then Json.sortKeys v else v))

end Stencil.Files
