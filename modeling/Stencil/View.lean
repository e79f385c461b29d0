import Stencil.Engine.OfConfig

/-! Views: an engine of a project with values and a layout of its own, which the engine is given whenever
a page is rendered. -/
namespace Stencil

structure View where
  engine : Engine
  data : Mapping := []
  layout : Option String := none

namespace View

/-- What a view may set differently from the configuration of its project. -/
structure Options where
  templatePaths : Option Value := none
  cacheDir : Option Value := none
  layoutsDir : Option Value := none
  componentsDir : Option Value := none
  space : Option Value := none
  ttl : Option Value := none
  createPaths : Option Value := none

/-- A setting that is given, under its name. -/
def given (key : String) (v : Option Value) : Mapping :=
  match v with
  | some v => [(.str key, v)]
  | none => []

/-- A section with its settings, unless there are none. -/
def part (name : String) (settings : Mapping) : Mapping :=
  if settings.isEmpty then [] else [(.str name, .dict settings)]

/-- The overrides that options come to. -/
def Options.overrides (o : Options) : Except Error Mapping := do
  let paths ← o.templatePaths.mapM fun v => do
    let items ← Config.Settings.membersOf v
    return Value.list (items.map fun item => .str item.toText)
  let ttl ← o.ttl.mapM Value.toInt
  let templates :=
    given "paths" paths ++ given "layouts_dir" o.layoutsDir ++ given "components_dir" o.componentsDir
      ++ given "create_missing" (o.createPaths.map fun v => .bool v.truthy)
  let cache :=
    given "directory" (o.cacheDir.map fun v => .str v.toText) ++ given "namespace" o.space
      ++ given "ttl" (ttl.map .int)
  return part "templates" templates ++ part "cache" cache

/-- A view on a project. -/
def make (root : Option Path) (o : Options) : Act View := do
  let engine ← Engine.ofConfig root (← Act.ofExcept o.overrides)
  return { engine }

def withValue (v : View) (key : String) (value : Value) : View :=
  { v with data := Mapping.insert v.data (.str key) value }

def withData (v : View) (data : Mapping) : View := { v with data := Mapping.overlay v.data data }

def withLayout (v : View) (name : String) : View := { v with layout := some name }

/-- The engine with the values and, unless its name is empty, the layout of the view. -/
def prepared (v : View) : Engine :=
  let e := v.engine.withData v.data
  match v.layout with
  | some name => if name = "" then e else e.withLayout (some name)
  | none => e

/-- A page rendered with the values and the layout of the view. -/
def render (v : View) (name : String) (lifetime : Option Cache.Lifetime) :
    Act (Except Error String × View) := do
  let (outcome, engine) ← v.prepared.render name lifetime
  return (outcome, { v with engine })

/-- Forgets the renders of one page or of all, and tells whether it could. -/
def clearCache (v : View) (name : Option String) : Act (Bool × View) := do
  let (cleared, engine) ← v.engine.clearCache name
  return (cleared, { v with engine })

end View

end Stencil
