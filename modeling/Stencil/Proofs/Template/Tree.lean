import Stencil.Proofs.Template.StageTexts
import Stencil.Target.Run

/-! Pages that are built from text, placeholders and loops. A tree is printed as a page and it is given
its meaning directly, with no second language in between. -/
namespace Stencil.Template

/-- The parts of a page in a row. -/
inductive Tree where
  | done
  | text (s : List Char) (rest : Tree)
  | var (name : String) (rest : Tree)
  | loop (item : String) (index : Option String) (collection : String) (body rest : Tree)
  deriving Repr, DecidableEq

/-- The words that a name of a tree may not be. -/
def keywords : List String := ["for", "endfor", "component"]

/-- A name that a placeholder or a loop of a tree may have. -/
structure IsTreeName (name : String) : Prop where
  word : ∀ c ∈ name.toList, Unicode.isWord c = true
  renderable : isRenderable name = true
  notKeyword : name ∉ keywords
  notBuiltin : Target.builtins.lookup name = none

/-- The index in the opener of a loop. -/
def indexPart : Option String → List Char
  | some i => ',' :: ' ' :: i.toList
  | none => []

instance (name : String) : Decidable (IsTreeName name) :=
  decidable_of_iff
    (name.toList.all Unicode.isWord = true ∧ isRenderable name = true ∧ name ∉ keywords ∧
      (Target.builtins.lookup name).isNone = true)
    ⟨fun ⟨hword, hname, hkeyword, hbuiltin⟩ =>
        ⟨List.all_eq_true.mp hword, hname, hkeyword, Option.isNone_iff_eq_none.mp hbuiltin⟩,
      fun h => ⟨List.all_eq_true.mpr h.word, h.renderable, h.notKeyword,
        Option.isNone_iff_eq_none.mpr h.notBuiltin⟩⟩

/-- The opener of a loop. -/
def loopHeader (item : String) (index : Option String) (collection : String) : List Char :=
  "<: for ".toList ++ item.toList ++ indexPart index ++ " in ".toList ++ collection.toList
    ++ " :>".toList

/-- The end of a loop. -/
def loopFooter : List Char := "<: endfor :>".toList

/-- A placeholder. -/
def placeholderFor (name : String) : List Char := "<: ".toList ++ name.toList ++ " :>".toList

/-- What a page says of a name that stands for nothing. -/
def notFound (name : String) : List Char := diagnostic s!"Variable {name} not found"

namespace Tree

/-- The page. -/
def print : Tree → List Char
  | done => []
  | text s rest => s ++ rest.print
  | var name rest => placeholderFor name ++ rest.print
  | loop item index collection body rest =>
    loopHeader item index collection ++ body.print ++ loopFooter ++ rest.print

def isText : Tree → Bool
  | text _ _ => true
  | _ => false

/-- Texts hold no mark of a directive, no number sign and no carriage return, and no two stand side by
side; item and index of a loop differ. -/
def Valid : Tree → Prop
  | done => True
  | text s rest =>
    ¬ ['<', ':'] <:+: s ∧ '#' ∉ s ∧ '\r' ∉ s ∧ rest.isText = false ∧ rest.Valid
  | var name rest => IsTreeName name ∧ rest.Valid
  | loop item index collection body rest =>
    IsTreeName item ∧ IsTreeName (index.getD defaultIndex) ∧ IsTreeName collection ∧
      item ≠ index.getD defaultIndex ∧ body.Valid ∧ rest.Valid

instance decidableValid : (T : Tree) → Decidable T.Valid
  | done => isTrue trivial
  | text s rest =>
    have := decidableValid rest
    inferInstanceAs (Decidable (¬ ['<', ':'] <:+: s ∧ '#' ∉ s ∧ '\r' ∉ s ∧ rest.isText = false ∧
      rest.Valid))
  | var name rest =>
    have := decidableValid rest
    inferInstanceAs (Decidable (IsTreeName name ∧ rest.Valid))
  | loop item index collection body rest =>
    have := decidableValid body
    have := decidableValid rest
    inferInstanceAs (Decidable (IsTreeName item ∧ IsTreeName (index.getD defaultIndex) ∧
      IsTreeName collection ∧ item ≠ index.getD defaultIndex ∧ body.Valid ∧ rest.Valid))

/-- Items and indices of all loops. -/
def loopNames : Tree → List String
  | done => []
  | text _ rest | var _ rest => rest.loopNames
  | loop item index _ body rest =>
    item :: index.getD defaultIndex :: (body.loopNames ++ rest.loopNames)

/-- All names that are used for the page, among them the one in the token of a brace. -/
def names : Tree → List String
  | done => []
  | text s rest => if '{' ∈ s then Target.braceName :: rest.names else rest.names
  | var name rest => name :: rest.names
  | loop item index collection body rest =>
    item :: index.getD defaultIndex :: collection :: (body.names ++ rest.names)

/-- How many loops stand inside one another. -/
def height : Tree → Nat
  | done => 0
  | text _ rest | var _ rest => rest.height
  | loop _ _ _ body rest => max (body.height + 1) rest.height

end Tree

/-- What a name stands for: what the innermost loop around it binds, else a value of the data. -/
def meaning (data : Mapping) (bound : List (String × Value)) (name : String) : Option Value :=
  match bound.lookup name with
  | some v => some v
  | none => Mapping.get? data (.str name)

/-- What a placeholder shows; `loopNames` are the names that show nothing where they stand for nothing. -/
def showName (data : Mapping) (loopNames : List String) (bound : List (String × Value))
    (name : String) : Except Target.RunFault (List Char) :=
  match meaning data bound name with
  | some v => (Target.Binding.value v).display
  | none => .ok (if name ∈ loopNames then [] else notFound name)

/-- The pairs of a collection, which must be there. -/
def pairsOf (data : Mapping) (bound : List (String × Value)) (collection : String) :
    Except Target.RunFault (List (Value × Value)) :=
  match meaning data bound collection with
  | some v => Target.entries v
  | none => .error (.undefined collection)

/-- The output of a tree where loops bind `bound`, innermost first. -/
def Tree.evalIn (data : Mapping) (loopNames : List String) (bound : List (String × Value)) :
    Tree → Except Target.RunFault (List Char)
  | .done => .ok []
  | .text s rest => do
    let more ← evalIn data loopNames bound rest
    return s ++ more
  | .var name rest => do
    let out ← showName data loopNames bound name
    let more ← evalIn data loopNames bound rest
    return out ++ more
  | .loop item index collection body rest => do
    let pairs ← pairsOf data bound collection
    let out ← Target.concatRuns (fun p =>
      evalIn data loopNames ((index.getD defaultIndex, p.1) :: (item, p.2) :: bound) body) pairs
    let more ← evalIn data loopNames bound rest
    return out ++ more

/-- The output of a page, by the tree that it is printed from. -/
def Tree.eval (T : Tree) (data : Mapping) : Except Target.RunFault (List Char) :=
  T.evalIn data T.loopNames []

end Stencil.Template
