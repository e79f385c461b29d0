import Stencil.Cache.Renders
import Stencil.Template.Locator
import Stencil.Template.Render

/-! The engine: finds, compiles, runs and caches pages. A page that is rendered sees the data as it is when
rendering starts. -/
namespace Stencil

open Template (Compiled Compiler Expansion Locator)

structure Engine where
  locator : Locator
  /-- What runs compiled pages. -/
  backend : Target.Backend := .own
  /-- The number of passes that an expansion may take. -/
  limit : Nat := 100
  cache : Option Cache.Renders := none
  /-- The layout of pages that name none. -/
  layout : Option String := none
  /-- Where compiled text is written to, if it is written at all. -/
  dumpDir : Option Path := none
  data : Mapping := []

/-- An expansion as a step of a session, which gets its log. -/
def Act.ofExpansion {α : Type} (name : String) (step : Expansion α) : Act α := fun s =>
  match step { report := { templateName := name } } with
  | .ok a t => .ok a (t.log.foldl Session.log s)
  | .error e t => .error e (t.log.foldl Session.log s)

namespace Engine

/-- The number of passes as a limit; there must be at least one. -/
def limitOf (passes : Int) : Except Error Nat :=
  if passes < 1 then .error (.value .tooFewIterations) else .ok passes.toNat

def set (e : Engine) (key : String) (v : Value) : Engine :=
  { e with data := Mapping.insert e.data (.str key) v }

def withData (e : Engine) (data : Mapping) : Engine :=
  { e with data := Mapping.overlay e.data data }

def withLayout (e : Engine) (layout : Option String) : Engine := { e with layout }

/-- The compiler of an engine, for the files of the session. -/
def compiler (e : Engine) : Act Compiler := do
  let s ← get
  return { library := e.locator.library ⟨s.tree, s.cwd⟩, limit := e.limit }

/-- A page compiled against the data. -/
def compile (e : Engine) (name : String) : Act Compiled := do
  Act.ofExpansion name ((← e.compiler).compile name e.data e.layout)

/-- What the names of files with compiled text end in. -/
def dumpSuffix : String := ".jinja"

/-- Writes compiled text to its file. -/
def dump (directory : Path) (page : Compiled) : Act Unit := do
  let target := directory.child (page.name ++ dumpSuffix)
  Files.writeText target page.source
  Act.log ⟨.debug, "modx.core.engine", s!"Wrote compiled source for '{page.name}' to {target.text}"⟩

/-- A page compiled and run. -/
def renderAfresh (e : Engine) (name : String) : Act String := do
  let page ← e.compile name
  if let some directory := e.dumpDir then dump directory page
  modify fun s => { s with runs := s.runs + 1 }
  let out ← Act.ofExpansion name (Template.execute e.backend page.source e.data (some name))
  if out.isEmpty then throw (.emptyOutput name page.path.text)
  return String.ofList out

/-- A page rendered, or taken from the cache if it was rendered from the same data and layout. -/
def render (e : Engine) (name : String) (lifetime : Option Cache.Lifetime) :
    Act (Except Error String × Engine) := do
  match e.cache with
  | none => return (← Act.attempt (e.renderAfresh name), e)
  | some cache =>
    let fingerprint ← Act.ofExcept (Cache.fingerprint (.dict e.data) (e.layout.getD ""))
    let (outcome, cache) ← cache.render name fingerprint (e.renderAfresh name) lifetime
    return (outcome, { e with cache := some cache })

/-- Forgets the renders of one page or of all, and tells whether it could. -/
def clearCache (e : Engine) (name : Option String) : Act (Bool × Engine) := do
  match e.cache with
  | none => return (false, e)
  | some cache =>
    let (cleared, cache) ← cache.clear name
    return (cleared, { e with cache := some cache })

end Engine

end Stencil
