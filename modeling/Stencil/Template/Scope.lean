import Stencil.Template.Braces
import Stencil.Template.Report
import Stencil.Unicode.Identifier

/-! What an expansion knows and what it leaves behind: the names that the target language can refer to, the scope,
which belongs to one template or component body, and the trace with report and log, which is shared by the whole
page. -/
namespace Stencil.Template

/-! ### Names -/

/-- Operators and constants of the target language, the names that it binds itself, and the name of the
brace token. -/
def reservedNames : List String :=
  ["and", "or", "not", "in", "is", "if", "else", "true", "false", "none", "True", "False", "None",
   "loop", "caller", "varargs", "kwargs", "self", "__lb"]

/-- Whether a name can be written as a bare reference. -/
def isRenderable (name : String) : Bool :=
  Unicode.isIdentifier name.toList && !reservedNames.contains name

theorem isRenderable_iff (name : String) :
    isRenderable name = true ↔
      Unicode.isIdentifier name.toList = true ∧ name ∉ reservedNames := by
  simp [isRenderable]

/-! ### Scopes -/

/-- The names in sight of a text, and where the text stands. -/
structure Scope where
  templateName : String
  data : Mapping := []
  /-- Names that some loop binds, without repetition. -/
  loopNames : List String := []
  /-- The components that the text is inside of. -/
  processed : List String := []
  depth : Nat := 0
  layout : Option String := none

namespace Scope

/-- Whether a name stands for something. -/
def isBound (s : Scope) (name : String) : Bool :=
  s.loopNames.contains name || Mapping.contains s.data (.str name)

/-- The scope with names bound by a loop. -/
def bindLoop (s : Scope) (names : List String) : Scope :=
  { s with loopNames := names.foldl addName s.loopNames }

/-- The scope of the body of a component, used with the given props. -/
def child (s : Scope) (component : String) (props : Mapping) : Scope :=
  { templateName := s.templateName
    data := Mapping.overlay s.data props
    loopNames := s.loopNames
    processed := addName s.processed component
    depth := s.depth + 1 }

end Scope

/-- Report and log of a page. -/
structure Trace where
  report : Report
  log : List Log.Record := []

/-- A step that cannot fail. -/
abbrev Tracing := StateM Trace

/-- A step that may fail; the trace survives a failure. -/
abbrev Expansion := EStateM Error Trace

instance : MonadLift Tracing Expansion where
  monadLift step := fun trace =>
    let r := step trace
    .ok r.1 r.2

/-- Logs an event. -/
def note (e : Event) : Tracing Unit :=
  modify fun t => { t with log := t.log ++ [e.record] }

/-- Changes the report. -/
def reporting (f : Report → Report) : Tracing Unit :=
  modify fun t => { t with report := f t.report }

/-- A result that needs no trace. -/
def Expansion.ofExcept {α : Type} : Except Error α → Expansion α
  | .ok a => pure a
  | .error e => throw e

/-- Where template files come from. -/
structure Library where
  resolve : TemplateKind → String → Except Error Path
  read : Path → Except Error (List Char)

/-- The path of a template. -/
def Library.find (lib : Library) (kind : TemplateKind) (name : String) : Expansion Path := do
  let path ← Expansion.ofExcept (lib.resolve kind name)
  note (.resolved kind name path.text)
  return path

/-- The path and the protected text of a template. -/
def Library.load (lib : Library) (kind : TemplateKind) (name : String) :
    Expansion (Path × List Char) := do
  let path ← lib.find kind name
  let text ← Expansion.ofExcept (lib.read path)
  return (path, protect text)

end Stencil.Template
