import Stencil.Template.Prop
import Stencil.Template.Scope
import Stencil.Template.Stage.Marks

/-! Uses of components become the expanded bodies of the components. A component that is already being
expanded around its use is not loaded again; a marker takes its place. -/
namespace Stencil.Template

open Target (Construct Expr)

/-- What the props of a use come to: values for the expansion of the body, and expressions for the page
that is rendered from it. -/
structure BoundProps where
  values : Mapping := []
  exprs : List (String × Expr) := []

/-- Expressions with a new one: in the place of the old one under its key, else at the end. -/
def setExpr : List (String × Expr) → String → Expr → List (String × Expr)
  | [], key, e => [(key, e)]
  | (k, old) :: rest, key, e => if k = key then (k, e) :: rest else (k, old) :: setExpr rest key e

def BoundProps.set (b : BoundProps) (key : String) (v : Value) (e : Expr) : BoundProps :=
  { values := Mapping.insert b.values (.str key) v, exprs := setExpr b.exprs key e }

/-- One prop resolved against the scope of its use. -/
def bindProp (scope : Scope) (bound : BoundProps) (p : PropToken) : Tracing BoundProps := do
  if !isRenderable p.key then
    note (.droppedProp p.key)
    reporting fun r => r.warn s!"Prop '{p.key}' dropped"
    return bound
  else if !p.bound then
    let text := String.ofList (restore p.value.toList)
    return bound.set p.key (.str text) (.literal text)
  else
    let source := String.ofList (Text.strip p.value.toList)
    if isRenderable source && scope.isBound source then
      return bound.set p.key ((Mapping.get? scope.data (.str source)).getD .null) (.name source)
    else
      note (.unknownSource p.key source)
      return bound.set p.key .null .nothing

/-- Props resolved in order; of two with one key the later counts. -/
def bindProps (scope : Scope) : BoundProps → List PropToken → Tracing BoundProps
  | bound, [] => pure bound
  | bound, p :: rest => do
    let bound ← bindProp scope bound p
    bindProps scope bound rest

/-- Reports what could not be read of the props. -/
def reportFragments (component : String) : List (List Char) → Tracing Unit
  | [] => pure ()
  | t :: rest => do
    note (.malformedProp component t)
    reporting fun r =>
      r.warn (s!"Component '{component}': malformed prop " ++ String.ofList (Text.quoted t))
    reportFragments component rest

/-- What takes the place of a component inside itself. -/
def recursionMarker (name : String) : List Char :=
  diagnostic s!"Component {name} already processed (avoiding recursion)"

/-- A body with the names of its props bound around it. -/
def wrapBody (body : List Char) (exprs : List (String × Expr)) : List Char :=
  if exprs.isEmpty then body
  else (Construct.openWith exprs).text ++ body ++ Construct.closeWith.text

/-- The text for one use of a component; `expand` expands its body. -/
def includeComponent (lib : Library) (expand : Scope → List Char → Expansion (List Char))
    (scope : Scope) (use : Directive.ComponentUse) : Expansion (List Char) := do
  if scope.processed.contains use.name then
    note (.selfInclusion use.name)
    reporting fun r => { r with componentsSkipped := r.componentsSkipped ++ [use.name] }
    return recursionMarker use.name
  else
    let (_, source) ← lib.load .component use.name
    let items := lexProps use.props
    reportFragments use.name (fragments items)
    let bound ← bindProps scope {} (props items)
    let body ← expand (scope.child use.name bound.values) source
    reporting fun r => { r with componentsIncluded := r.componentsIncluded ++ [use.name] }
    return wrapBody body bound.exprs

/-- All uses among the pieces replaced, from left to right. -/
def includeComponents (lib : Library) (expand : Scope → List Char → Expansion (List Char))
    (scope : Scope) : List (Text.Piece (Option Directive.ComponentUse)) → Expansion (List Char)
  | [] => pure []
  | .char c :: pieces => do
    let out ← includeComponents lib expand scope pieces
    return c :: out
  | .mark none source :: pieces => do
    let out ← includeComponents lib expand scope pieces
    return source ++ out
  | .mark (some use) _ :: pieces => do
    let mine ← includeComponent lib expand scope use
    let out ← includeComponents lib expand scope pieces
    return mine ++ out

/-- All components of a text put in place. -/
def resolveComponents (lib : Library) (expand : Scope → List Char → Expansion (List Char))
    (scope : Scope) (text : List Char) : Expansion (Scope × List Char) := do
  let out ← includeComponents lib expand scope (Directive.component.pieces text)
  return (scope, out)

end Stencil.Template
