import Stencil.Template.Directive.Comment
import Stencil.Template.Directive.Mark
import Stencil.Template.Scope

/-! Directives that stand alone. Remarks become comments of the markup. Placeholders become tags that show a value,
or a comment that says why there is none; a missing value never makes a page fail. -/
namespace Stencil.Template

/-! ### Remarks -/

/-- A remark as a comment of the markup. -/
def markupComment (text : List Char) : List Char :=
  "<!-- ".toList ++ text ++ " -->".toList

-- rewriting with this lemma, and not with the definition, keeps Lean from evaluating the two texts
theorem markupComment_eq (text : List Char) :
    markupComment text = "<!-- ".toList ++ text ++ " -->".toList := rfl

/-- Every remark of a text converted. -/
def convertedComments (text : List Char) : List Char :=
  Directive.comment.replace (fun remark _ => markupComment remark) text

/-- How many remarks a text has. -/
def countComments (text : List Char) : Nat :=
  (Directive.comment.pieces text).countP fun
    | .mark _ _ => true
    | .char _ => false

/-- All remarks of a text converted and counted. -/
def convertComments (scope : Scope) (text : List Char) : Tracing (Scope × List Char) := do
  reporting fun r => { r with commentsConverted := r.commentsConverted + countComments text }
  return (scope, convertedComments text)

/-! ### Placeholders -/

/-- The keyword of the grammar that looks like a placeholder; alone it stays as it is. -/
def loopEndKeyword : String := "endfor"

/-- A note in the page itself. -/
def diagnostic (message : String) : List Char := "<!-- ".toList ++ message.toList ++ " -->".toList

theorem diagnostic_eq (message : String) :
    diagnostic message = "<!-- ".toList ++ message.toList ++ " -->".toList := rfl

/-- One placeholder converted. -/
def convertVariable (scope : Scope) (name : String) (source : List Char) :
    Tracing (List Char) := do
  if name = loopEndKeyword then return source
  else if !scope.isBound name then
    reporting fun r => { r with variablesMissing := addName r.variablesMissing name }
    note (.unknownVariable name scope.templateName)
    return diagnostic s!"Variable {name} not found"
  else if !isRenderable name then
    reporting fun r =>
      { r with variablesMissing := addName r.variablesMissing name }.warn
        s!"Variable '{name}' is reserved"
    return diagnostic s!"Variable {name} is reserved"
  else
    reporting fun r => { r with variablesSubstituted := addName r.variablesSubstituted name }
    return (Target.Construct.show name).text

/-- All placeholders among the pieces converted, from left to right. -/
def convertVariables (scope : Scope) : List (Text.Piece String) → Tracing (List Char)
  | [] => pure []
  | .char c :: pieces => do
    let out ← convertVariables scope pieces
    return c :: out
  | .mark name source :: pieces => do
    let mine ← convertVariable scope name source
    let out ← convertVariables scope pieces
    return mine ++ out

/-- All placeholders of a text converted. -/
def substituteVariables (scope : Scope) (text : List Char) : Tracing (Scope × List Char) := do
  let out ← convertVariables scope (Directive.placeholder.pieces text)
  return (scope, out)

end Stencil.Template
