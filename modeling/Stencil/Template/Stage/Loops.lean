import Stencil.Template.Directive.Loop
import Stencil.Template.Scope

/-! Loops become loops of the target language. Innermost ones go first, round after round, until a round
changes nothing; the collection is looked up only when the page is rendered. -/
namespace Stencil.Template

open Target (Construct)

/-- The index of a loop that names none. -/
def defaultIndex : String := "__index"

namespace Directive.Loop

def indexName (l : Loop) : String := l.index.getD defaultIndex

/-- Whether all names of a loop can be referred to, and item and index differ. -/
def isUsable (l : Loop) : Bool :=
  isRenderable l.item && isRenderable l.indexName && isRenderable l.collection
    && l.item != l.indexName

/-- The loop in the target language. -/
def target (l : Loop) : List Char :=
  (Construct.openLoop l.indexName l.item l.collection).text ++ l.body ++ Construct.closeLoop.text

end Directive.Loop

/-- One loop converted, or left as it is spelled if its names are of no use. -/
def convertLoop (scope : Scope) (l : Directive.Loop) (source : List Char) :
    Tracing (Scope × List Char) := do
  if l.isUsable then
    reporting fun r => { r with loopsExpanded := r.loopsExpanded + 1 }
    return (scope.bindLoop [l.item, l.indexName], l.target)
  else
    note (.unusableLoop l.collection)
    reporting fun r => r.warn s!"Loop over '{l.collection}' left unexpanded"
    return (scope, source)

/-- All loops among the pieces converted, from left to right. -/
def convertLoops (scope : Scope) :
    List (Text.Piece Directive.Loop) → Tracing (Scope × List Char)
  | [] => pure (scope, [])
  | .char c :: pieces => do
    let (scope, out) ← convertLoops scope pieces
    return (scope, c :: out)
  | .mark l source :: pieces => do
    let (scope, mine) ← convertLoop scope l source
    let (scope, out) ← convertLoops scope pieces
    return (scope, mine ++ out)

/-- Rounds until one changes nothing. Each round that changes something uses up an opener, so the length
of the text is fuel enough. -/
def loopRounds : (fuel : Nat) → Scope → List Char → Tracing (Scope × List Char)
  | 0, scope, text => pure (scope, text)
  | fuel + 1, scope, text => do
    let (scope, out) ← convertLoops scope (Directive.loop.pieces text)
    if out = text then return (scope, out) else loopRounds fuel scope out

/-- All loops of a text expanded. -/
def expandLoops (scope : Scope) (text : List Char) : Tracing (Scope × List Char) :=
  loopRounds (text.length + 1) scope text

end Stencil.Template
