import Stencil.Yaml.Token.Basic

/-! The text of scalars: plain ones, quoted ones, and blocks of lines. Line breaks inside a scalar are
folded, each kind in its own way. -/
namespace Stencil.Yaml

/-- What a line break between two parts of a folded scalar comes to, given the breaks that follow it. -/
def folded (first : Char) (more : List Char) : List Char :=
  (if first ≠ '\n' then [first] else if more.isEmpty then [' '] else []) ++ more

/-! ### Plain scalars -/

/-- How many characters a plain scalar goes on for. -/
def plainLength (flow : Bool) : List Char → Nat
  | [] => 0
  | c :: s =>
    if isGap (some c)
      || (c == ':' && (isGap s.head? || (flow && (s.head?.any fun d => ",[]".toList.contains d
        || d == '{' || d == '}'))))
      || (flow && (",?[]".toList.contains c || c == '{' || c == '}')) then 0
    else plainLength flow s + 1

/-- Spaces and line breaks after a break, of which the breaks count; nothing if a document ends. -/
def skipPlainBreaks : (fuel : Nat) → Cursor → Option (List Char) × Cursor
  | 0, c => (some [], c)
  | fuel + 1, c =>
    if c.peek = some ' ' then skipPlainBreaks fuel c.next
    else
      match c.lineBreak? with
      | none => (some [], c)
      | some (b, c) =>
        if c.atDocumentMark then (none, c)
        else
          let (more, c) := skipPlainBreaks fuel c
          (more.map (b :: ·), c)

/-- What stands between two parts of a plain scalar, and whether a line ended there. -/
def plainGap (c : Cursor) : List Char × Bool × Cursor :=
  let (spaces, c) := c.span (· == ' ')
  match c.lineBreak? with
  | none => (spaces, false, c)
  | some (b, c) =>
    if c.atDocumentMark then ([], true, c)
    else
      match skipPlainBreaks c.rest.length c with
      | (none, c) => ([], true, c)
      | (some more, c) => (folded b more, true, c)

/-- A plain scalar after the gap `gap`; whether a line ended after it comes with the answer. Outside of
brackets it goes on only in columns from `indent` on. -/
def readPlain (flow : Bool) (indent : Int) :
    (fuel : Nat) → (gap : List Char) → (broke : Bool) → Cursor → List Char × Bool × Cursor
  | 0, _, broke, c => ([], broke, c)
  | fuel + 1, gap, broke, c =>
    let n := if c.peek = some '#' then 0 else plainLength flow c.rest
    if n = 0 then ([], broke, c)
    else
      let part := gap ++ c.rest.take n
      let (gap, broke, c) := plainGap (c.forward n)
      if gap.isEmpty || c.peek == some '#' || (!flow && Int.ofNat c.column < indent) then
        (part, broke, c)
      else
        let (more, broke, c) := readPlain flow indent fuel gap broke c
        (part ++ more, broke, c)

/-! ### Quoted scalars -/

/-- The character of a backslash and one character. -/
def shortEscape? (c : Char) : Option Char :=
  match c with
  | '0' => some '\x00'
  | 'a' => some '\x07'
  | 'b' => some '\x08'
  | 't' => some '\t'
  | '\t' => some '\t'
  | 'n' => some '\n'
  | 'v' => some '\x0b'
  | 'f' => some '\x0c'
  | 'r' => some '\r'
  | 'e' => some '\x1b'
  | ' ' => some ' '
  | '"' => some '"'
  | '\\' => some '\\'
  | '/' => some '/'
  | 'N' => some '\x85'
  | '_' => some '\xa0'
  | 'L' => some '\u2028'
  | 'P' => some '\u2029'
  | _ => none

/-- The digits that the letter after a backslash announces. -/
def escapeWidth? (c : Char) : Option Nat :=
  if c = 'x' then some 2 else if c = 'u' then some 4 else if c = 'U' then some 8 else none

/-- The character of a code. -/
def charOfCode (n : Nat) : Except Error Char :=
  if n < 0x110000 then .ok (if 0xd800 ≤ n ∧ n < 0xe000 then '\ufffd' else Char.ofNat n)
  else if n < 0x80000000 then .error (.value .noCharacter)
  else .error .noSuchCode

/-- What is being read, as messages about escapes and about all else in quotes say it. -/
def doubleQuoted : String := "scanning a double-quoted scalar"

def quotedScalar : String := "scanning a quoted scalar"

/-- Line breaks with blanks in front of them; a document must not end here. -/
def quotedBreaks (start : Mark) : (fuel : Nat) → Cursor → Reading (List Char × Cursor)
  | 0, c => .ok ([], c)
  | fuel + 1, c =>
    if c.atDocumentMark then c.refuse quotedScalar start "found unexpected document separator"
    else
      let c := (c.span isBlank).2
      match c.lineBreak? with
      | none => .ok ([], c)
      | some (b, c) => do
        let (more, c) ← quotedBreaks start fuel c
        .ok (b :: more, c)

/-- Blanks and line breaks inside quotes. -/
def quotedGap (start : Mark) (c : Cursor) : Reading (List Char × Cursor) :=
  let (blanks, c) := c.span isBlank
  match c.lineBreak? with
  | some (b, c) => do
    let (more, c) ← quotedBreaks start c.rest.length c
    .ok (folded b more, c)
  | none =>
    if c.rest.isEmpty then c.refuse quotedScalar start "found unexpected end of stream"
    else .ok (blanks, c)

/-- The character of `width` hexadecimal digits. -/
def readCode (start : Mark) (width : Nat) (c : Cursor) : Reading (Char × Cursor) := do
  let ds := c.rest.takeWhile fun ch => (Json.hexValue? ch).isSome
  if ds.length < width then
    c.refuseChar doubleQuoted start s!"expected escape sequence of {width} hexadecimal numbers"
      (c.peekAt ds.length)
  else
    let code := (ds.take width).foldl (fun n ch => n * 16 + (Json.hexValue? ch).getD 0) 0
    let out ← Reading.ofExcept (charOfCode code)
    .ok (out, c.forward width)

/-- What a backslash and the characters after it stand for. -/
def readEscape (start : Mark) (c : Cursor) : Reading (List Char × Cursor) :=
  let c := c.next
  match c.peek.bind shortEscape? with
  | some out => .ok ([out], c.next)
  | none =>
    match c.peek.bind escapeWidth? with
    | some width => (readCode start width c.next).map fun (out, c) => ([out], c)
    | none =>
      match c.lineBreak? with
      | some (_, c) => quotedBreaks start c.rest.length c
      | none => c.refuse doubleQuoted start ("found unknown escape character " ++ Cursor.shown c.peek)

/-- A scalar in double or single quotes, from behind the first quote, which stands at `start`. The fuel is
more than the length of the text. -/
def readQuoted (double : Bool) (start : Mark) : (fuel : Nat) → Cursor → Reading (List Char × Cursor)
  | 0, c => .ok ([], c)
  | fuel + 1, c => do
    let quote := if double then '"' else '\''
    match c.rest with
    | [] => c.refuse quotedScalar start "found unexpected end of stream"
    | ch :: rest =>
      if ch = quote then
        if !double && rest.head? == some '\'' then
          let (more, c) ← readQuoted double start fuel (c.forward 2)
          .ok (ch :: more, c)
        else .ok ([], c.next)
      else
        let (part, c) ←
          if isGap (some ch) then quotedGap start c
          else if double && ch == '\\' then readEscape start c
          else .ok ([ch], c.next)
        let (more, c) ← readQuoted double start fuel c
        .ok (part ++ more, c)

/-! ### Blocks of lines -/

/-- What becomes of the line breaks at the end of a block. -/
inductive Chomping where
  | clip
  | strip
  | keep
  deriving DecidableEq

/-- The sign for the line breaks at the end, if there is one. -/
def readChomping (c : Cursor) : Option Chomping × Cursor :=
  match c.peek with
  | some '+' => (some .keep, c.next)
  | some '-' => (some .strip, c.next)
  | _ => (none, c)

/-- What is being read, as messages about blocks of lines say it. -/
def blockScalar : String := "scanning a block scalar"

/-- A digit for the indentation of a block, if there is one; it must not be zero. -/
def readIndentDigit (start : Mark) (c : Cursor) : Reading (Option Nat × Cursor) :=
  match c.peek with
  | some ch =>
    if ch = '0' then
      c.refuse blockScalar start "expected indentation indicator in the range 1-9, but found 0"
    else if ch.isDigit then .ok (some (ch.toNat - 48), c.next)
    else .ok (none, c)
  | none => .ok (none, c)

/-- The signs in the first line of a block, in either order. -/
def readBlockHead (start : Mark) (c : Cursor) : Reading (Chomping × Option Nat × Cursor) := do
  let (early, c) := readChomping c
  let (digit, c) ← readIndentDigit start c
  let (late, c) := if early.isNone && digit.isSome then readChomping c else (none, c)
  if isGapNoTab c.peek then .ok ((early.or late).getD .clip, digit, c)
  else c.refuseChar blockScalar start "expected chomping or indentation indicators" c.peek

/-- Line breaks and spaces in front of the first line of a block, and the widest column reached. -/
def measureIndent : (fuel widest : Nat) → Cursor → List Char × Nat × Cursor
  | 0, widest, c => ([], widest, c)
  | fuel + 1, widest, c =>
    if c.peek = some ' ' then measureIndent fuel (max widest c.next.column) c.next
    else
      match c.lineBreak? with
      | none => ([], widest, c)
      | some (b, c) =>
        let (more, widest, c) := measureIndent fuel widest c
        (b :: more, widest, c)

/-- Spaces up to a column. -/
def skipIndent (indent : Nat) (c : Cursor) : Cursor :=
  c.forward ((c.rest.take (indent - c.column)).takeWhile (· == ' ')).length

/-- Empty lines inside a block. -/
def blockBreaks (indent : Nat) : (fuel : Nat) → Cursor → List Char × Cursor
  | 0, c => ([], c)
  | fuel + 1, c =>
    let c := skipIndent indent c
    match c.lineBreak? with
    | none => ([], c)
    | some (b, c) =>
      let (more, c) := blockBreaks indent fuel c
      (b :: more, c)

/-- The lines of a block after the empty lines `empty`: the text, the last line break if there is one, and
the empty lines after it. -/
def readBlockLines (fold : Bool) (indent : Nat) : (fuel : Nat) → (empty : List Char) → Cursor →
    List Char × List Char × List Char × Cursor
  | 0, empty, c => ([], [], empty, c)
  | fuel + 1, empty, c =>
    if c.column ≠ indent ∨ c.rest = [] then ([], [], empty, c)
    else
      let isText (ch : Option Char) : Bool := !(ch.any isBlank)
      let starts := isText c.peek
      let (line, c) := c.span fun ch => !isBreak ch
      let (last, c) :=
        match c.lineBreak? with
        | some (b, c) => ([b], c)
        | none => ([], c)
      let (more, c) := blockBreaks indent c.rest.length c
      if c.column = indent ∧ c.rest ≠ [] then
        let between :=
          if fold && last == ['\n'] && starts && isText c.peek then
            (if more.isEmpty then [' '] else [])
          else last
        let (text, tail) := readBlockLines fold indent fuel more c
        (empty ++ line ++ between ++ text, tail)
      else (empty ++ line, last, more, c)

/-- A block of lines from its sign on, inside of a block at `outer`. -/
def readBlock (fold : Bool) (outer : Int) (c : Cursor) : Reading (List Char × Cursor) := do
  let start := c.mark
  let (chomping, digit, c) ← readBlockHead start c.next
  let c ← c.endLine blockScalar start
  let least := (max (outer + 1) 1).toNat
  let (empty, indent, c) :=
    match digit with
    | none =>
      let (empty, widest, c) := measureIndent c.rest.length 0 c
      (empty, max least widest, c)
    | some n =>
      let indent := least + n - 1
      let (empty, c) := blockBreaks indent c.rest.length c
      (empty, indent, c)
  let (text, last, more, c) := readBlockLines fold indent c.rest.length empty c
  let tail :=
    match chomping with
    | .strip => []
    | .clip => last
    | .keep => last ++ more
  .ok (text ++ tail, c)

end Stencil.Yaml
