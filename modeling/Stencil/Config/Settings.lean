import Stencil.Project
import Stencil.Value.Numeric

/-! The settings that a configuration comes to, section by section. A section or a setting that is missing
has a default; paths are seen from the root of the project. -/
namespace Stencil.Config

structure Settings where
  root : Path
  home : Option String
  config : Mapping

namespace Settings

/-- A section. One that says nothing is empty; one that is no mapping has no settings. -/
def sectionOf (s : Settings) (name : String) : Except Error Mapping :=
  match ((Mapping.get? s.config (.str name)).getD (.dict [])).opened with
  | .dict m => .ok m
  | v => if v.truthy then .error (.noMember v.kindName "get") else .ok []

/-- A setting, or its default. -/
def setting (s : Settings) (part key : String) (fallback : Value) : Except Error Value := do
  return (Mapping.get? (← s.sectionOf part) (.str key)).getD fallback

/-- The text of a value that can be shown. -/
def textOf (v : Value) : Except Error String :=
  match v.showFault? with
  | some fault => .error (.ofShowFault fault)
  | none => .ok v.toText

def text (s : Settings) (part key fallback : String) : Except Error String := do
  textOf (← s.setting part key (.str fallback))

def flag (s : Settings) (part key : String) (fallback : Bool) : Except Error Bool :=
  (s.setting part key (.bool fallback)).map Value.truthy

def whole (s : Settings) (part key : String) (fallback : Int) : Except Error Int := do
  (← s.setting part key (.int fallback)).toInt

/-- A path of the project. -/
def resolve (s : Settings) (p : String) : Except Error Path :=
  ((Path.ofString p).expandHome s.home).map (s.root / ·)

/-- A setting that may say nothing. -/
def text? (s : Settings) (part key : String) : Except Error (Option String) := do
  let v ← s.setting part key .null
  if v.truthy then return some (← textOf v) else return none

/-- The members of a value that has some: the items of a list, the keys of a mapping, the characters of a
text. -/
def membersOf (v : Value) : Except Error (List Value) :=
  match v.opened with
  | .list items | .tuple items => .ok items
  | .dict pairs => .ok (pairs.map fun p => .scalar p.1)
  | .set items => .ok (items.map .scalar)
  | .scalar (.str s) => .ok (s.toList.map fun c => .str (String.ofList [c]))
  | .scalar (.bytes b) => .ok (b.map fun n => .int n.toNat)
  | v => .error (.mismatch (.notIterable v.kindName))

/-! ### Templates -/

def paths (s : Settings) : Except Error (List Path) := do
  let v ← s.setting "templates" "paths" .null
  let items ← if v.truthy then membersOf v else .ok []
  items.mapM fun item => do s.resolve (← textOf item)

def extension (s : Settings) : Except Error String := s.text "templates" "extension" ".modx"

def layoutsDir (s : Settings) : Except Error String := s.text "templates" "layouts_dir" "layouts"

def componentsDir (s : Settings) : Except Error String :=
  s.text "templates" "components_dir" "components"

def createMissing (s : Settings) : Except Error Bool := s.flag "templates" "create_missing" false

def maxIterations (s : Settings) : Except Error Int := s.whole "templates" "max_iterations" 100

def defaultLayout (s : Settings) : Except Error (Option String) := s.text? "templates" "default_layout"

/-! ### The render cache -/

def cacheEnabled (s : Settings) : Except Error Bool := s.flag "cache" "enabled" true

def cacheStore (s : Settings) : Except Error String :=
  (s.text "cache" "store" "filesystem").map fun word =>
    String.ofList (Unicode.lower (Text.strip word.toList))

def cacheDirectory (s : Settings) : Except Error Path := do
  s.resolve (← s.text "cache" "directory" ".modx/cache")

def cacheNamespace (s : Settings) : Except Error String := s.text "cache" "namespace" "template"

def cacheTtl (s : Settings) : Except Error Int := s.whole "cache" "ttl" 3600

/-! ### Rendering -/

def dumpCompiled (s : Settings) : Except Error Bool := s.flag "render" "dump_compiled" false

/-- Where compiled text is written to, if it is written at all. -/
def dumpDir (s : Settings) : Except Error (Option Path) := do
  if ← s.dumpCompiled then
    return some (← s.resolve (← s.text "render" "dump_dir" ".modx/compiled"))
  else return none

/-! ### Logging -/

def logLevel (s : Settings) : Except Error String :=
  (s.text "logging" "level" "WARNING").map fun word => String.ofList (Unicode.upper word.toList)

def logFile (s : Settings) : Except Error (Option Path) := do
  match ← s.text? "logging" "file" with
  | some p => return some (← s.resolve p)
  | none => return none

end Settings

/-- The settings of a configuration in a project. -/
def settingsOf (root : Path) (config : Mapping) : Act Settings := do
  return ⟨root, ← Project.home, config⟩

end Stencil.Config
