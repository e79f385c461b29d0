import Stencil.Template.Stage.Components
import Stencil.Template.Stage.Layouts
import Stencil.Template.Stage.Loops

/-! Compilation. A page is composed into its layout once; then loops, comments, components and variables
are converted in turn, pass after pass, until a pass changes nothing. -/
namespace Stencil.Template

/-- A conversion of texts. -/
structure Stage where
  name : String
  run : Scope → List Char → Expansion (Scope × List Char)

/-- A library, the number of passes that an expansion may take, and stages that run after the usual
ones in every pass. -/
structure Compiler where
  library : Library
  limit : Nat := 100
  extra : List Stage := []

/-- Stages one after the other. -/
def runStages : List Stage → Scope → List Char → Expansion (Scope × List Char)
  | [], scope, text => pure (scope, text)
  | stage :: rest, scope, text => do
    let (scope, out) ← stage.run scope text
    if out ≠ text then note (.rewrote stage.name scope.templateName scope.depth)
    runStages rest scope out

/-- The stages of a pass; `expand` expands the bodies of components. -/
def Compiler.stages (c : Compiler) (expand : Scope → List Char → Expansion (List Char)) :
    List Stage :=
  [⟨"LoopExpander", fun scope text => expandLoops scope text⟩,
   ⟨"CommentStripper", fun scope text => convertComments scope text⟩,
   ⟨"ComponentResolver", resolveComponents c.library expand⟩,
   ⟨"VariableSubstitutor", fun scope text => substituteVariables scope text⟩] ++ c.extra

/-- Passes until one changes nothing. `left` passes remain of `limit`. -/
def settle (pass : Scope → List Char → Expansion (Scope × List Char)) (limit : Nat) :
    (left : Nat) → Scope → List Char → Expansion (Scope × List Char)
  | 0, scope, _ => throw (.expansionLimit scope.templateName limit scope.depth)
  | left + 1, scope, text => do
    let (scope, out) ← pass scope text
    reporting fun r => { r with passes := r.passes + 1 }
    if out = text then
      note (.settled scope.templateName (limit - left) scope.depth)
      return (scope, out)
    else settle pass limit left scope out

/-- How deep components may be nested in one another. -/
def nestingLimit : Nat := Recursion.levels 40 4

/-- A text expanded, with components up to `nesting` deep. -/
def Compiler.expandWithin (c : Compiler) :
    (nesting : Nat) → Scope → List Char → Expansion (Scope × List Char)
  | 0, _, _ => throw .nesting
  | nesting + 1, scope, text =>
    settle (runStages (c.stages fun s t => do return (← expandWithin c nesting s t).2))
      c.limit c.limit scope text

/-- A text expanded. -/
def Compiler.expand (c : Compiler) (scope : Scope) (text : List Char) :
    Expansion (Scope × List Char) :=
  c.expandWithin nestingLimit scope text

/-- One pass over a text. -/
def Compiler.pass (c : Compiler) (scope : Scope) (text : List Char) :
    Expansion (Scope × List Char) :=
  runStages (c.stages fun s t => do return (← c.expand s t).2) scope text

/-- A compiled page. -/
structure Compiled where
  name : String
  path : Path
  source : List Char
  report : Report

/-- A warning for every variable without a value, in the order of their names. -/
def warnMissing (r : Report) : Report :=
  (sortedNames r.variablesMissing).foldl (fun r n => r.warn s!"Unresolved variable: {n}") r

/-- A page compiled against data, which is only looked at for its names. -/
def Compiler.compile (c : Compiler) (name : String) (data : Mapping) (layout : Option String) :
    Expansion Compiled := do
  let (path, source) ← c.library.load .template name
  reporting fun r => { r with templatePath := some path.text }
  let scope : Scope := { templateName := name, data := data, layout := layout }
  let (scope, composed) ← compose c.library scope source
  let (_, text) ← c.expand scope composed
  reporting warnMissing
  let report := (← get).report
  note (.compiled report.summary)
  return ⟨name, path, text, report⟩

end Stencil.Template
