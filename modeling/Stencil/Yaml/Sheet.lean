import Stencil.Yaml.Style

/-! The sheet that YAML is written on. It knows the column, and what stands in front of the place: a mark
that needs a blank in front of it gets one unless there is one, and a line is not ended twice. Long lines
are folded at single spaces. -/
namespace Stencil.Yaml

structure Sheet where
  /-- The characters written so far, last first. -/
  written : List Char := []
  column : Nat := 0
  /-- A blank or the begin of a line stands in front of the place. -/
  blank : Bool := true
  /-- Only indentation stands in front of the place. -/
  fresh : Bool := true
  /-- The document ends only with a mark of its end. -/
  openEnded : Bool := false

/-- The column after which lines are folded. -/
def foldWidth : Nat := 80

/-- The name of a part by its number. -/
def partName (n : Nat) : String := "id" ++ String.ofList (padded 3 n)

namespace Sheet

/-- Characters that stay on the line. -/
def put (s : Sheet) (text : List Char) : Sheet :=
  { s with written := text.reverse ++ s.written, column := s.column + text.length }

/-- The end of a line. -/
def feed (s : Sheet) (c : Char := '\n') : Sheet :=
  { s with written := c :: s.written, column := 0, blank := true, fresh := true }

/-- A line that goes on at a column: the present one, if nothing else stands on it. -/
def indentTo (s : Sheet) (indent : Nat) : Sheet :=
  let s := if !s.fresh || indent < s.column || (s.column == indent && !s.blank) then s.feed else s
  if s.column < indent then { s.put (List.replicate (indent - s.column) ' ') with blank := true } else s

/-- A mark, which may need a blank in front of it. `leaves` tells whether a block may begin behind it on
the same line. -/
def mark (s : Sheet) (text : String) (apart : Bool) (leaves : Bool := false) (blank : Bool := false) :
    Sheet :=
  let text := if s.blank || !apart then text.toList else ' ' :: text.toList
  { s.put text with blank, fresh := s.fresh && leaves, openEnded := false }

/-- Text in front of which and after which something else stands. -/
def settled (s : Sheet) : Sheet := { s with blank := false, fresh := false }

/-- What a character is to the folding of lines. -/
inductive Glyph where
  | space
  | feed
  | other
  deriving DecidableEq

def glyphOf (c : Char) : Glyph := if c = ' ' then .space else if isLineFeed c then .feed else .other

/-- A text in stretches of characters of one kind. -/
def stretches (text : List Char) : List (List Char) := text.splitBy fun a b => glyphOf a == glyphOf b

/-- A stretch of a plain scalar. -/
def putPlain (folds : Bool) (indent : Nat) (s : Sheet) (stretch : List Char) : Sheet :=
  if stretch = [' '] ∧ foldWidth < s.column ∧ folds then (s.indentTo indent).settled else s.put stretch

def plain (s : Sheet) (folds : Bool) (indent : Nat) (text : List Char) : Sheet :=
  let s := if s.blank then s else s.put [' ']
  (stretches text).foldl (putPlain folds indent) s.settled

/-- The line ends of a quoted scalar, of which the first one counts twice if it is a line feed. -/
def putFeeds (s : Sheet) (indent : Nat) (feeds : List Char) : Sheet :=
  let s := if feeds.head? = some '\n' then s.feed else s
  (feeds.foldl (fun s c => s.feed c) s).indentTo indent

/-- The stretches of a scalar in single quotes; `first` tells whether none came before. -/
def putSingle (folds : Bool) (indent : Nat) : (first : Bool) → List (List Char) → Sheet → Sheet
  | _, [], s => s
  | first, stretch :: rest, s =>
    let s :=
      match stretch.head?.map glyphOf with
      | some .space =>
        if stretch.length = 1 ∧ foldWidth < s.column ∧ folds ∧ !first ∧ !rest.isEmpty then
          s.indentTo indent
        else s.put stretch
      | some .feed => s.putFeeds indent stretch
      | _ => s.put (stretch.flatMap fun c => if c = '\'' then ['\'', '\''] else [c])
    putSingle folds indent false rest s

def single (s : Sheet) (folds : Bool) (indent : Nat) (text : List Char) : Sheet :=
  (putSingle folds indent true (stretches text) (s.mark "'" true)).mark "'" false

/-- A scalar in double quotes from a character on; `pending` is not written yet. A line is folded at a
space or behind an escape, and a backslash says that it goes on. -/
def putDouble (folds : Bool) (indent : Nat) :
    (first : Bool) → List Char → (pending : List Char) → Sheet → Sheet
  | _, [], pending, s => s.put pending
  | first, c :: rest, pending, s =>
    let escaped := isEscaped c
    let (pending, s) := if escaped then ([], (s.put pending).put (escapeChar c)) else (pending, s)
    let wide :=
      if escaped then foldWidth + 1 < s.column else foldWidth < s.column + pending.length
    let (pending, s) :=
      if folds && wide && !first && !rest.isEmpty && (c == ' ' || pending.isEmpty) then
        let s := ((s.put (pending ++ ['\\'])).indentTo indent).settled
        let next := if escaped then rest.head? else some c
        ([], if next = some ' ' then s.put ['\\'] else s)
      else (pending, s)
    putDouble folds indent false rest (if escaped then pending else pending ++ [c]) s

def double (s : Sheet) (folds : Bool) (indent : Nat) (text : List Char) : Sheet :=
  (putDouble folds indent true text [] (s.mark "\"" true)).mark "\"" false

/-- Lines of their own, each at the column `indent`. -/
def lines (s : Sheet) (indent : Nat) (text : List Char) : Sheet :=
  ((Text.splitOn '\n' text).dropLast).foldl (fun s line => ((s.indentTo indent).put line).feed)
    ((s.mark "|" true).feed)

/-- A text in a style. A key is not folded. -/
def styled (s : Sheet) (folds : Bool) (indent : Nat) (text : List Char) : Style → Sheet
  | .plain => s.plain folds indent text
  | .single => s.single folds indent text
  | .double => s.double folds indent text
  | .lines => s.lines indent text

/-- A scalar. Bytes say so in front. -/
def scalar (s : Sheet) (folds : Bool) (indent : Nat) (v : Scalar) : Sheet :=
  let (text, style, kind) := scalarForm v
  (if kind = "binary" then s.mark "!!binary" true else s).styled folds indent text style

/-- The name of a part in front of it, if it has one. -/
def named (s : Sheet) (name : Option Nat) : Sheet :=
  match name with
  | none => s
  | some n => s.mark ("&" ++ partName n) true

/-- The text on the sheet. -/
def text (s : Sheet) : List Char := s.written.reverse

@[simp] theorem text_put (s : Sheet) (t : List Char) : (s.put t).text = s.text ++ t := by
  simp [text, put]

@[simp] theorem column_put (s : Sheet) (t : List Char) :
    (s.put t).column = s.column + t.length := rfl

end Sheet

end Stencil.Yaml
