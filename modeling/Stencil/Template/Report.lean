import Stencil.Error
import Stencil.Log.Journal

/-! What happened while a template was expanded, and what of it is worth logging. One report serves a whole page:
components add to the counts of the page that uses them. -/
namespace Stencil.Template

structure Report where
  templateName : String
  templatePath : Option String := none
  layout : Option String := none
  passes : Nat := 0
  loopsExpanded : Nat := 0
  commentsConverted : Nat := 0
  componentsIncluded : List String := []
  componentsSkipped : List String := []
  /-- Names without repetition. -/
  variablesSubstituted : List String := []
  /-- Names without repetition. -/
  variablesMissing : List String := []
  warnings : List String := []
  deriving Repr, DecidableEq

/-- A list of names with one more, unless it is there already. -/
def addName (names : List String) (name : String) : List String :=
  if names.contains name then names else names ++ [name]

/-- Names in the order of their characters. -/
def sortedNames (names : List String) : List String := names.mergeSort (· ≤ ·)

namespace Report

def warn (r : Report) (message : String) : Report := { r with warnings := r.warnings ++ [message] }

/-- Whether a reader should look at the report. -/
def hasIssues (r : Report) : Bool :=
  !r.warnings.isEmpty || !r.variablesMissing.isEmpty || !r.componentsSkipped.isEmpty

/-- The report on one line. -/
def summary (r : Report) : String :=
  let missing :=
    if r.variablesMissing.isEmpty then []
    else ["missing=" ++ ",".intercalate (sortedNames r.variablesMissing)]
  let skipped :=
    if r.componentsSkipped.isEmpty then []
    else ["skipped=" ++ ",".intercalate r.componentsSkipped]
  let parts :=
    [s!"passes={r.passes}", s!"loops={r.loopsExpanded}", s!"comments={r.commentsConverted}",
     s!"components={r.componentsIncluded.length}",
     s!"variables={r.variablesSubstituted.length}"] ++ missing ++ skipped
  r.templateName ++ ": " ++ " ".intercalate parts

end Report

theorem mem_addName {names : List String} {name n : String} :
    n ∈ addName names name ↔ n ∈ names ∨ n = name := by
  unfold addName
  split
  · next h =>
    have := List.contains_iff_mem.mp h
    exact ⟨Or.inl, fun h => h.elim id (· ▸ this)⟩
  · simp

/-! ### Events -/

inductive Event where
  | resolved (kind : TemplateKind) (name path : String)
  | rewrote (stage template : String) (depth : Nat)
  | settled (template : String) (passes depth : Nat)
  | unusableLoop (collection : String)
  | selfInclusion (component : String)
  | malformedProp (component : String) (fragment : List Char)
  | droppedProp (key : String)
  | unknownSource (key source : String)
  | unknownVariable (name template : String)
  | composed (template layout : String)
  | compiled (summary : String)
  | reservedKey (key : String)

/-- The record of an event. -/
def Event.record : Event → Log.Record
  | resolved kind name path =>
    ⟨.debug, "modx.core.environment.locator", s!"Resolved {kind.name} '{name}' to {path}"⟩
  | rewrote stage template depth =>
    ⟨.debug, "modx.core.compiler.transformers.base",
      s!"{stage} rewrote '{template}' at depth {depth}"⟩
  | settled template passes depth =>
    ⟨.debug, "modx.core.compiler.engine",
      s!"Expansion of '{template}' settled after {passes} pass(es) at depth {depth}"⟩
  | unusableLoop collection =>
    ⟨.warning, "modx.core.compiler.transformers.loops",
      s!"Loop over '{collection}' uses an unusable name; left as text"⟩
  | selfInclusion component =>
    ⟨.warning, "modx.core.compiler.transformers.components",
      s!"Component '{component}' includes itself; skipping nested use"⟩
  | malformedProp component fragment =>
    ⟨.warning, "modx.core.compiler.transformers.components",
      s!"Component '{component}': ignoring malformed prop " ++ String.ofList (Text.quoted fragment)⟩
  | droppedProp key =>
    ⟨.warning, "modx.core.compiler.transformers.props",
      s!"Dropping prop '{key}': not a renderable name"⟩
  | unknownSource key source =>
    ⟨.warning, "modx.core.compiler.transformers.props",
      s!"Bound prop '{key}' refers to unknown name '{source}'; binding None"⟩
  | unknownVariable name template =>
    ⟨.warning, "modx.core.compiler.transformers.variables",
      s!"Variable '{name}' not found while rendering '{template}'"⟩
  | composed template layout =>
    ⟨.debug, "modx.core.compiler.transformers.layout",
      s!"Composing '{template}' into layout '{layout}'"⟩
  | compiled summary => ⟨.debug, "modx.core.compiler.engine", s!"Compiled {summary}"⟩
  | reservedKey key =>
    ⟨.warning, "modx.core.runtime.executor", s!"Ignoring context key '{key}': reserved by the executor"⟩

end Stencil.Template
