import Stencil.Target.Construct
import Stencil.Template.Scope

/-! How the target language is written. A text is written from pieces if it falls into plain characters other than
an opening brace and whole tags; the words of a tag are told apart by single blanks, and a literal holds each of its
characters as it is or by its code. -/
namespace Stencil.Target

open Template (isRenderable)
open Text (Piece)

/-- How a character is written in a literal: as it is, or by the digits that a letter announces. -/
inductive WritesChar : Char → List Char → Prop
  | plain {c : Char} (hc : isPlainInLiteral c = true) : WritesChar c [c]
  | code {letter c : Char} {width : Nat} {digits : List Char} (hwidth : escapeWidth? letter = some width)
      (hdigits : takeHex width 0 digits = some (c.toNat, [])) : WritesChar c ('\\' :: letter :: digits)

/-- How a text is written in a literal. -/
inductive WritesText : List Char → List Char → Prop
  | nil : WritesText [] []
  | cons {c : Char} {v x y : List Char} (hc : WritesChar c x) (hv : WritesText v y) :
      WritesText (c :: v) (x ++ y)

inductive WritesExpr : Expr → List Char → Prop
  | name {n : String} (hn : isRenderable n = true) : WritesExpr (.name n) n.toList
  | nothing : WritesExpr .nothing "none".toList
  | literal {v : String} {x : List Char} (hx : WritesText v.toList x) :
      WritesExpr (.literal v) ('"' :: (x ++ ['"']))

/-- How the bindings of a tag are written. -/
inductive WritesBindings : List (String × Expr) → List Char → Prop
  | last {k : String} {e : Expr} {x : List Char} (hk : isRenderable k = true) (hx : WritesExpr e x) :
      WritesBindings [(k, e)] (k.toList ++ '=' :: x)
  | more {k : String} {e : Expr} {rest : List (String × Expr)} {x y : List Char}
      (hk : isRenderable k = true) (hx : WritesExpr e x) (hy : WritesBindings rest y) :
      WritesBindings ((k, e) :: rest) (k.toList ++ '=' :: (x ++ ',' :: ' ' :: y))

/-- How a tag is written. -/
inductive Writes : Construct → List Char → Prop
  | brace : Writes .brace Construct.brace.text
  | «show» {n : String} (hn : isRenderable n = true) : Writes (.show n) (Construct.show n).text
  | openLoop {index item collection : String} (hindex : isRenderable index = true)
      (hitem : isRenderable item = true) (hcollection : isRenderable collection = true) :
      Writes (.openLoop index item collection) (Construct.openLoop index item collection).text
  | closeLoop : Writes .closeLoop Construct.closeLoop.text
  | openWith {bindings : List (String × Expr)} {x : List Char} (hx : WritesBindings bindings x) :
      Writes (.openWith bindings) ("\x7b% with ".toList ++ x ++ " %\x7d".toList)
  | closeWith : Writes .closeWith Construct.closeWith.text

/-- How a text is written from pieces. -/
inductive Written : List (Piece Construct) → List Char → Prop
  | nil : Written [] []
  | char {c : Char} {pieces : List (Piece Construct)} {s : List Char} (hc : c ≠ '{')
      (hs : Written pieces s) : Written (.char c :: pieces) (c :: s)
  | tag {k : Construct} {x : List Char} {pieces : List (Piece Construct)} {s : List Char}
      (hk : Writes k x) (hs : Written pieces s) : Written (.mark k x :: pieces) (x ++ s)

namespace Written

variable {pieces more : List (Piece Construct)} {s t : List Char}

theorem append (hs : Written pieces s) (ht : Written more t) : Written (pieces ++ more) (s ++ t) := by
  induction hs with
  | nil => exact ht
  | char hc _ ih => exact .char hc ih
  | tag hk _ ih =>
    rw [List.append_assoc]
    exact .tag hk ih

/-- A text without an opening brace is written from its characters. -/
theorem of_plain (hs : '{' ∉ s) : Written (s.map .char) s := by
  induction s with
  | nil => exact .nil
  | cons c s ih =>
    rw [List.mem_cons, not_or] at hs
    exact .char (Ne.symm hs.1) (ih hs.2)

theorem of_tag {k : Construct} {x : List Char} (hk : Writes k x) : Written [.mark k x] x := by
  simpa using Written.tag hk .nil

end Written

end Stencil.Target
