import Stencil.Template.Directive.Layout
import Stencil.Template.Scope

/-! A page is put into the layout that it declares, or else into the default one. -/
namespace Stencil.Template

/-- The layout of a page, what stays in front of it, and what goes into its places for content. -/
structure Composition where
  layout : String
  lead : List Char
  body : List Char

/-- How a page asks to be composed. The default applies only when the page declares no layout. -/
def compositionOf (fallback : Option String) (text : List Char) : Option Composition :=
  match Directive.layout.search text with
  | some (lead, name, body) => some ⟨name, lead, body⟩
  | none =>
    match fallback with
    | some name => if name = "" then none else some ⟨name, [], text⟩
    | none => none

/-- A layout with the body in every place for content. -/
def fillLayout (layout body : List Char) : List Char :=
  Directive.content.replace (fun _ _ => body) layout

/-- A page in its layout. -/
def compose (lib : Library) (scope : Scope) (text : List Char) : Expansion (Scope × List Char) := do
  match compositionOf scope.layout text with
  | none => return (scope, text)
  | some c =>
    let (_, layout) ← lib.load .layout c.layout
    reporting fun r => { r with layout := some c.layout }
    note (.composed scope.templateName c.layout)
    return (scope, c.lead ++ fillLayout layout c.body)

end Stencil.Template
