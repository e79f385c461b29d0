import Stencil.Target.Construct
import Stencil.Text.Utf8

/-! Text of the target language as a tree: each loop and each binding with its body. Tags that cannot be read, and
tags that do not nest, are refused before anything runs. -/
namespace Stencil.Target

/-- The two kinds of tags that have a body. -/
inductive Tag where
  | loop
  | bind
  deriving Repr, DecidableEq

namespace Tag

def opening : Tag → String
  | loop => "for"
  | bind => "with"

def closing : Tag → String
  | loop => "endfor"
  | bind => "endwith"

/-- What may end the body of a tag. -/
def endings : Tag → List String
  | loop => ["endfor", "else"]
  | bind => ["endwith"]

end Tag

/-- A closing tag, or the end of the text, in the wrong place. `openTags` are the tags without their ends,
innermost first. -/
inductive SyntaxFault where
  | unexpectedTag (tag : Tag) (openTags : List Tag)
  | unexpectedEnd (openTags : List Tag)
  deriving Repr, DecidableEq

/-- A word in single quotes. -/
def inQuotes (s : String) : String := s!"'{s}'"

/-- What would have ended the innermost tag, and which tag that is. -/
def SyntaxFault.message : SyntaxFault → String
  | unexpectedTag tag [] => s!"Encountered unknown tag {inQuotes tag.closing}."
  | unexpectedEnd [] => "Unexpected end of template."
  | unexpectedTag tag (t :: outer) =>
    let looking := " or ".intercalate (t.endings.map inQuotes)
    let innermost := s!"The innermost block that needs to be closed is {inQuotes t.opening}."
    let found := s!"Encountered unknown tag {inQuotes tag.closing}."
    if outer.contains tag then
      s!"{found} You probably made a nesting mistake. Jinja is expecting this tag, but currently looking for {looking}. {innermost}"
    else s!"{found} Jinja was looking for the following tags: {looking}. {innermost}"
  | unexpectedEnd (t :: _) =>
    let looking := " or ".intercalate (t.endings.map inQuotes)
    s!"Unexpected end of template. Jinja was looking for the following tags: {looking}. The innermost block that needs to be closed is {inQuotes t.opening}."

/-! ### Tags that cannot be read -/

/-- A character that ends a name in a tag and that nothing can begin with, and where it stands in the text. -/
structure Stray where
  char : Char
  place : Nat
  deriving Repr, DecidableEq

def Stray.message (stray : Stray) : String :=
  s!"unexpected char {String.ofList (Text.quoted [stray.char])} at {stray.place}"

/-- The first such character of a tag, of which `place` is the place. Nothing in a literal is one. -/
def strayIn (quote : Option Char) (place : Nat) : List Char → Option Stray
  | [] => none
  | c :: s =>
    match quote with
    | some q =>
      if c = '\\' then
        match s with
        | [] => none
        | _ :: s => strayIn quote (place + 2) s
      else strayIn (if c = q then none else quote) (place + 1) s
    | none =>
      if Unicode.isLateMark c then some ⟨c, place⟩
      else strayIn (if c = '"' || c = '\'' then some c else none) (place + 1) s

/-- The pieces in front of the first tag that cannot be read, and why it cannot. -/
def readable (place : Nat) : List (Text.Piece Construct) → List (Text.Piece Construct) × Option Stray
  | [] => ([], none)
  | .char c :: rest =>
    let (front, stray) := readable (place + 1) rest
    (.char c :: front, stray)
  | .mark k source :: rest =>
    match strayIn none place source with
    | some stray => ([], some stray)
    | none =>
      let (front, stray) := readable (place + source.length) rest
      (.mark k source :: front, stray)

/-! ### The tree -/

/-- A part of the tree. -/
inductive Block where
  | char (c : Char)
  | brace
  | «show» (name : String)
  | loop (index item collection : String) (body : List Block)
  | bind (bindings : List (String × Expr)) (body : List Block)
  deriving Repr

/-- A tag whose end has not come yet. -/
inductive OpenTag where
  | loop (index item collection : String)
  | bind (bindings : List (String × Expr))
  deriving Repr

namespace OpenTag

def tag : OpenTag → Tag
  | loop _ _ _ => .loop
  | bind _ => .bind

/-- The tag with its body. -/
def close : OpenTag → List Block → Block
  | loop index item collection, body => .loop index item collection body
  | bind bindings, body => .bind bindings body

end OpenTag

/-- Puts pieces together. `opened` are the tags without their ends, innermost first, each with the parts
before it; `done` are the parts since the innermost of them. Both lists of parts are in reverse. -/
def assemble (opened : List (OpenTag × List Block)) (done : List Block) :
    List (Text.Piece Construct) → Except SyntaxFault (List Block)
  | [] =>
    match opened with
    | [] => .ok done.reverse
    | _ => .error (.unexpectedEnd (opened.map fun o => o.1.tag))
  | .char c :: rest => assemble opened (.char c :: done) rest
  | .mark .brace _ :: rest => assemble opened (.brace :: done) rest
  | .mark (.show n) _ :: rest => assemble opened (.show n :: done) rest
  | .mark (.openLoop index item collection) _ :: rest =>
    assemble ((.loop index item collection, done) :: opened) [] rest
  | .mark (.openWith bindings) _ :: rest => assemble ((.bind bindings, done) :: opened) [] rest
  | .mark .closeLoop _ :: rest =>
    match opened with
    | (.loop index item collection, before) :: outer =>
      assemble outer (.loop index item collection done.reverse :: before) rest
    | _ => .error (.unexpectedTag .loop (opened.map fun o => o.1.tag))
  | .mark .closeWith _ :: rest =>
    match opened with
    | (.bind bindings, before) :: outer =>
      assemble outer (.bind bindings done.reverse :: before) rest
    | _ => .error (.unexpectedTag .bind (opened.map fun o => o.1.tag))

/-- The pieces of a text. Line ends of every kind count as line feeds. -/
def piecesOf (source : List Char) : List (Text.Piece Construct) :=
  Construct.recogniser.pieces (Text.Utf8.foldNewlines source)

end Stencil.Target
