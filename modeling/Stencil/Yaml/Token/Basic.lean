import Stencil.Yaml.Cursor

/-! The tokens of a YAML text, and the names and tags in it. -/
namespace Stencil.Yaml

/-- A directive at the head of a document. Directives of other names mean nothing. -/
inductive Directive where
  | version (major : Nat)
  | tag (handle stem : String)
  | other
  deriving Repr, DecidableEq

/-- A token. The start of a block is a token of its own, and so is its end. -/
inductive Token where
  | directive (d : Directive)
  | documentStart
  | documentEnd
  | streamEnd
  | blockSequenceStart
  | blockMappingStart
  | blockEnd
  | flowSequenceStart
  | flowSequenceEnd
  | flowMappingStart
  | flowMappingEnd
  | entry
  | comma
  | key
  | value
  | alias (name : String)
  | anchor (name : String)
  /-- The suffix of a tag may stand under a handle. -/
  | tag (handle : Option String) (suffix : String)
  | scalar (text : List Char) (plain : Bool)
  deriving Repr, DecidableEq

/-- The word for a token in messages. -/
def Token.name : Token → String
  | .directive _ => "<directive>"
  | .documentStart => "<document start>"
  | .documentEnd => "<document end>"
  | .streamEnd => "<stream end>"
  | .blockSequenceStart => "<block sequence start>"
  | .blockMappingStart => "<block mapping start>"
  | .blockEnd => "<block end>"
  | .flowSequenceStart => "["
  | .flowSequenceEnd => "]"
  | .flowMappingStart => "\x7b"
  | .flowMappingEnd => "\x7d"
  | .entry => "-"
  | .comma => ","
  | .key => "?"
  | .value => ":"
  | .alias _ => "<alias>"
  | .anchor _ => "<anchor>"
  | .tag _ _ => "<tag>"
  | .scalar _ _ => "<scalar>"

/-- A token and the places where it begins and ends. -/
structure Lexeme where
  token : Token
  start : Mark
  stop : Mark
  deriving Repr

/-- Characters of names of anchors, handles and directives. -/
def isNameChar (c : Char) : Bool := c.isAlphanum || c == '-' || c == '_'

/-- What a name is made of, as messages say it. -/
def wantedName : String := "expected alphabetic or numeric character"

/-- A name of an anchor or alias after its sign. `what` says which of the two is read. -/
def readAnchorName (what : String) (c : Cursor) : Reading (String × Cursor) :=
  let (name, after) := c.next.span isNameChar
  let ends :=
    match after.peek with
    | some ch => isGap (some ch) || "?:,]%@".toList.contains ch || ch == '}' || ch.toNat == 0x60
    | none => true
  if name.isEmpty || !ends then after.refuseChar ("scanning an " ++ what) c.mark wantedName after.peek
  else .ok (String.ofList name, after)

/-- The handle of a tag: `!`, `!!`, or a name between two of them. `noun` says what it stands in. -/
def readHandle (noun : String) (start : Mark) (c : Cursor) : Reading (String × Cursor) :=
  let refuse (c : Cursor) := c.refuseChar ("scanning a " ++ noun) start "expected '!'" c.peek
  if c.peek ≠ some '!' then refuse c
  else if c.peekAt 1 = some ' ' then .ok ("!", c.next)
  else
    let (name, after) := c.next.span isNameChar
    if after.peek = some '!' then .ok (String.ofList ('!' :: name ++ ['!']), after.next)
    else refuse after

/-- Characters of tags that stand for themselves. -/
def isTagChar (c : Char) : Bool := c.isAlphanum || "-;/?:@&=+$,_.!~*'()[]".toList.contains c

/-- The value of the hexadecimal digit `n` places further on. -/
def readHexDigit (noun : String) (start : Mark) (c : Cursor) (n : Nat) : Reading Nat :=
  match (c.peekAt n).bind Json.hexValue? with
  | some x => .ok x
  | none =>
    c.refuseChar ("scanning a " ++ noun) start
      "expected URI escape sequence of 2 hexadecimal numbers" (c.peekAt n)

/-- Bytes written as `%` and two hexadecimal digits, one after the other. -/
def readEscapedBytes (noun : String) (start : Mark) :
    (fuel : Nat) → Cursor → Reading (List UInt8 × Cursor)
  | 0, c => .ok ([], c)
  | fuel + 1, c =>
    if c.peek ≠ some '%' then .ok ([], c)
    else do
      let c := c.next
      let high ← readHexDigit noun start c 0
      let low ← readHexDigit noun start c 1
      let (rest, c) ← readEscapedBytes noun start fuel (c.forward 2)
      .ok (UInt8.ofNat (high * 16 + low) :: rest, c)

/-- The text of a tag, which may hold escaped bytes. -/
def readTagText (noun : String) (start : Mark) : (fuel : Nat) → Cursor → Reading (List Char × Cursor)
  | 0, c => .ok ([], c)
  | fuel + 1, c => do
    let (part, c) := c.span isTagChar
    if c.peek = some '%' then
      let (codes, after) ← readEscapedBytes noun start c.rest.length c
      match Text.Utf8.decode codes with
      | .error f => c.refuse ("scanning a " ++ noun) start f.text
      | .ok text =>
        let (more, c) ← readTagText noun start fuel after
        .ok (part ++ text ++ more, c)
    else .ok (part, c)

/-- The text of a tag, of which there must be some. -/
def readUri (noun : String) (start : Mark) (c : Cursor) : Reading (String × Cursor) := do
  let (text, after) ← readTagText noun start c.rest.length c
  if after.index = c.index then c.refuseChar ("parsing a " ++ noun) start "expected URI" c.peek
  else .ok (String.ofList text, after)

/-- A tag: in angle brackets, alone, or under a handle. -/
def readTag (c : Cursor) : Reading (Token × Cursor) := do
  let start := c.mark
  let (tag, c) ←
    if c.peekAt 1 = some '<' then do
      let (suffix, c) ← readUri "tag" start (c.forward 2)
      if c.peek = some '>' then .ok (Token.tag none suffix, c.next)
      else c.refuseChar "parsing a tag" start "expected '>'" c.peek
    else if isGap (c.peekAt 1) then .ok (Token.tag none "!", c.next)
    else do
      let word := c.next.rest.takeWhile fun ch => !isGapNoTab (some ch)
      let (handle, c) ←
        if word.contains '!' then readHandle "tag" start c else .ok ("!", c.next)
      let (suffix, c) ← readUri "tag" start c
      .ok (Token.tag (some handle) suffix, c)
  if isGapNoTab c.peek then .ok (tag, c)
  else c.refuseChar "scanning a tag" start "expected ' '" c.peek

/-- A fault in a directive that begins at `start`. -/
def refuseDirective {α : Type} (c : Cursor) (start : Mark) (wanted : String) : Reading α :=
  c.refuseChar "scanning a directive" start wanted c.peek

/-- A whole number of a version. -/
def readVersionPart (start : Mark) (c : Cursor) : Reading (Nat × Cursor) :=
  let (ds, after) := c.span Char.isDigit
  if ds.isEmpty then refuseDirective c start "expected a digit"
  else .ok (Number.decimalValue ds, after)

/-- What a directive of a name says. -/
def readDirectiveText (start : Mark) (name : List Char) (c : Cursor) :
    Reading (Directive × Cursor) := do
  if name = "YAML".toList then
    let (major, c) ← readVersionPart start c.skipSpaces
    if c.peek ≠ some '.' then refuseDirective c start "expected a digit or '.'"
    else
      let (_, c) ← readVersionPart start c.next
      if isGapNoTab c.peek then .ok (.version major, c)
      else refuseDirective c start "expected a digit or ' '"
  else if name = "TAG".toList then
    let (handle, c) ← readHandle "directive" start c.skipSpaces
    if c.peek ≠ some ' ' then refuseDirective c start "expected ' '"
    else
      let (stem, c) ← readUri "directive" start c.skipSpaces
      if isGapNoTab c.peek then .ok (.tag handle stem, c)
      else refuseDirective c start "expected ' '"
  else .ok (.other, (c.span fun ch => !isBreak ch).2)

/-- A directive after its sign. -/
def readDirective (c : Cursor) : Reading (Token × Cursor) := do
  let start := c.mark
  let (name, c) := c.next.span isNameChar
  if name.isEmpty || !isGapNoTab c.peek then refuseDirective c start wantedName
  else
    let (d, c) ← readDirectiveText start name c
    .ok (.directive d, ← c.endLine "scanning a directive" start)

end Stencil.Yaml
