import Stencil.Yaml.Token.Scalar

/-! The tokens of a whole text, one after the other. Blocks are told by their columns: a column further in
than the block around it opens a block, a column further out closes blocks. Whether a scalar is the key of
a mapping is known only at the colon after it; its tokens are put in front of it then. So a token is given
out only if nothing can be put in front of it any more. -/
namespace Stencil.Yaml

/-- What may turn out to be a key: how many tokens stand in front of it, and where it begins. -/
structure KeyStart where
  number : Nat
  required : Bool
  mark : Mark
  deriving Repr

/-- Reading half done. Tokens that were read but not taken wait in a queue; brackets that are open are
counted; a key may be open for every count of brackets. -/
structure Tokenizer where
  cursor : Cursor
  /-- The length of the text. -/
  size : Nat
  queue : List Lexeme := []
  /-- How many tokens were taken from the queue. -/
  taken : Nat := 0
  atEnd : Bool := false
  /-- The column of the block around the place, and of the blocks around that. -/
  indent : Int := -1
  outer : List Int := []
  flow : Nat := 0
  /-- Whether a key may begin here. -/
  keyAllowed : Bool := true
  keys : List (Nat × KeyStart) := []

/-- The most characters between the begin of a key and its colon. -/
def keyReach : Nat := 1024

namespace Tokenizer

/-- A token without characters of its own. -/
def push (t : Tokenizer) (token : Token) : Tokenizer :=
  { t with queue := t.queue ++ [⟨token, t.cursor.mark, t.cursor.mark⟩] }

/-- A token that goes up to `cursor`. -/
def pushTo (t : Tokenizer) (token : Token) (cursor : Cursor) : Tokenizer :=
  { t with cursor, queue := t.queue ++ [⟨token, t.cursor.mark, cursor.mark⟩] }

/-- A token of `n` characters. -/
def pushNext (t : Tokenizer) (n : Nat) (token : Token) : Tokenizer :=
  t.pushTo token (t.cursor.forward n)

/-- A token put in front of what turned out to be a key. -/
def pushBefore (t : Tokenizer) (k : KeyStart) (token : Token) : Tokenizer :=
  { t with queue := t.queue.insertIdx (k.number - t.taken) ⟨token, k.mark, k.mark⟩ }

/-- A fault at the present place. -/
def refuse {α : Type} (t : Tokenizer) (problem : String) : Reading α :=
  .error (.fault ⟨none, problem, t.cursor.mark⟩)

/-- Blanks, comments and line ends skipped. The fuel is the length of the text. -/
def skipToToken : (fuel : Nat) → Tokenizer → Tokenizer
  | 0, t => t
  | fuel + 1, t =>
    let c := t.cursor.skipSpaces.skipComment
    match c.lineBreak? with
    | none => { t with cursor := c }
    | some (_, c) =>
      skipToToken fuel { t with cursor := c, keyAllowed := t.keyAllowed || t.flow == 0 }

/-- A mark of byte order skipped at the very begin. -/
def skipMark (t : Tokenizer) : Tokenizer :=
  if t.cursor.index = 0 ∧ t.cursor.peek = some byteOrderMark then { t with cursor := t.cursor.next }
  else t

/-- Whether a key that began there cannot be one any more. -/
def isStale (t : Tokenizer) (k : KeyStart) : Bool :=
  k.mark.line != t.cursor.line || keyReach < t.cursor.index - k.mark.index

/-- The fault of a key that has no colon. -/
def refuseKey {α : Type} (t : Tokenizer) (k : KeyStart) : Reading α :=
  t.cursor.refuse "scanning a simple key" k.mark "could not find expected ':'"

/-- Keys that cannot be keys any more are dropped; a key that had to be one is a fault. -/
def dropStale (t : Tokenizer) : Reading Tokenizer :=
  match t.keys.find? fun k => t.isStale k.2 && k.2.required with
  | some (_, k) => t.refuseKey k
  | none => .ok { t with keys := t.keys.filter fun k => !t.isStale k.2 }

/-- No key open at the present count of brackets. -/
def withoutKey (t : Tokenizer) : Tokenizer := { t with keys := t.keys.filter fun k => k.1 != t.flow }

/-- The open key at the present count of brackets dropped. -/
def dropKey (t : Tokenizer) : Reading Tokenizer :=
  match t.keys.lookup t.flow with
  | none => .ok t
  | some k => if k.required then t.refuseKey k else .ok t.withoutKey

/-- Remembers that a key may begin here. -/
def openKey (t : Tokenizer) : Reading Tokenizer :=
  if t.keyAllowed then do
    let required := t.flow == 0 && t.indent == Int.ofNat t.cursor.column
    let t ← t.dropKey
    let k : KeyStart := ⟨t.taken + t.queue.length, required, t.cursor.mark⟩
    .ok { t with keys := (t.flow, k) :: t.keys }
  else .ok t

/-- Blocks that are further in than a column closed. -/
def closeBlocks (t : Tokenizer) (column : Int) : List Int → Tokenizer
  | [] => t
  | indent :: outer =>
    if column < t.indent then closeBlocks ({ t with indent, outer }.push .blockEnd) column outer else t

def unwind (t : Tokenizer) (column : Int) : Tokenizer :=
  if t.flow = 0 then t.closeBlocks column t.outer else t

/-- Whether a column opens a block, and the reading with it open. -/
def openBlock (t : Tokenizer) (column : Int) : Bool × Tokenizer :=
  if t.indent < column then (true, { t with indent := column, outer := t.indent :: t.outer })
  else (false, t)

/-- A block opened at the present column, unless brackets are open; a key must be allowed here. -/
def openHere (t : Tokenizer) (token : Token) (what : String) : Reading Tokenizer :=
  if t.flow ≠ 0 then .ok t
  else if !t.keyAllowed then t.refuse (what ++ " are not allowed here")
  else
    let (opened, t) := t.openBlock t.cursor.column
    .ok (if opened then t.push token else t)

def endStream (t : Tokenizer) : Reading Tokenizer := do
  let t ← (t.unwind (-1)).dropKey
  .ok (({ t with keyAllowed := false, keys := [], atEnd := true } : Tokenizer).push .streamEnd)

/-- A mark that begins or ends a document. -/
def readMark (t : Tokenizer) (token : Token) : Reading Tokenizer := do
  let t ← (t.unwind (-1)).dropKey
  .ok ({ t with keyAllowed := false }.pushNext 3 token)

def openBracket (t : Tokenizer) (token : Token) : Reading Tokenizer := do
  let t ← t.openKey
  .ok ({ t with flow := t.flow + 1, keyAllowed := true }.pushNext 1 token)

def closeBracket (t : Tokenizer) (token : Token) : Reading Tokenizer := do
  let t ← t.dropKey
  .ok ({ t with flow := t.flow - 1, keyAllowed := false }.pushNext 1 token)

def readComma (t : Tokenizer) : Reading Tokenizer := do
  let t ← t.dropKey
  .ok ({ t with keyAllowed := true }.pushNext 1 .comma)

def readEntry (t : Tokenizer) : Reading Tokenizer := do
  let t ← (← t.openHere .blockSequenceStart "sequence entries").dropKey
  .ok ({ t with keyAllowed := true }.pushNext 1 .entry)

def readKey (t : Tokenizer) : Reading Tokenizer := do
  let t ← (← t.openHere .blockMappingStart "mapping keys").dropKey
  .ok ({ t with keyAllowed := t.flow == 0 }.pushNext 1 .key)

/-- A colon: behind an open key, which becomes a key now, or by itself. -/
def readValue (t : Tokenizer) : Reading Tokenizer :=
  match t.keys.lookup t.flow with
  | some k =>
    let t := t.withoutKey.pushBefore k .key
    let (opened, t) := if t.flow = 0 then t.openBlock k.mark.column else (false, t)
    let t := if opened then t.pushBefore k .blockMappingStart else t
    .ok ({ t with keyAllowed := false }.pushNext 1 .value)
  | none => do
    let t ← (← t.openHere .blockMappingStart "mapping values").dropKey
    .ok ({ t with keyAllowed := t.flow == 0 }.pushNext 1 .value)

/-- A token that may begin a key, read by `read`. -/
def readStart (t : Tokenizer) (read : Cursor → Reading (Token × Cursor)) : Reading Tokenizer := do
  let t ← t.openKey
  let (token, cursor) ← read t.cursor
  .ok ({ t with keyAllowed := false }.pushTo token cursor)

def readPlainScalar (t : Tokenizer) : Reading Tokenizer := do
  let t ← t.openKey
  let (text, broke, cursor) := readPlain (t.flow != 0) (t.indent + 1) t.size [] false t.cursor
  .ok ({ t with keyAllowed := broke }.pushTo (.scalar text true) cursor)

def readBlockScalar (t : Tokenizer) (fold : Bool) : Reading Tokenizer := do
  let t ← t.dropKey
  let (text, cursor) ← readBlock fold t.indent t.cursor
  .ok ({ t with keyAllowed := true }.pushTo (.scalar text false) cursor)

def readDirectiveLine (t : Tokenizer) : Reading Tokenizer := do
  let t ← (t.unwind (-1)).dropKey
  let (token, cursor) ← readDirective t.cursor
  .ok ({ t with keyAllowed := false }.pushTo token cursor)

/-- Whether a plain scalar may begin with a character in front of another. -/
def beginsPlain (t : Tokenizer) (c : Char) (next : Option Char) : Bool :=
  if "?:".toList.contains c then t.flow == 0 && !isGap next
  else if c = '-' then !isGap next
  else !(isGap (some c) || c == '{' || c == '}' || c == '\'' || c == '"' || c.toNat == 0x60
    || ",[]#&*!|>%@".toList.contains c)

/-- The token that begins with a character. -/
def readToken (t : Tokenizer) (c : Char) : Reading Tokenizer :=
  let next := t.cursor.peekAt 1
  if c = '%' ∧ t.cursor.column = 0 then t.readDirectiveLine
  else if c = '-' ∧ t.cursor.column = 0 ∧ t.cursor.atDocumentMark then t.readMark .documentStart
  else if c = '.' ∧ t.cursor.column = 0 ∧ t.cursor.atDocumentMark then t.readMark .documentEnd
  else if c = '[' then t.openBracket .flowSequenceStart
  else if c = '{' then t.openBracket .flowMappingStart
  else if c = ']' then t.closeBracket .flowSequenceEnd
  else if c = '}' then t.closeBracket .flowMappingEnd
  else if c = ',' then t.readComma
  else if c = '-' ∧ isGap next then t.readEntry
  else if c = '?' ∧ (t.flow ≠ 0 ∨ isGap next) then t.readKey
  else if c = ':' ∧ (t.flow ≠ 0 ∨ isGap next) then t.readValue
  else if c = '*' then
    t.readStart fun c => (readAnchorName "alias" c).map fun (name, c) => (.alias name, c)
  else if c = '&' then
    t.readStart fun c => (readAnchorName "anchor" c).map fun (name, c) => (.anchor name, c)
  else if c = '!' then t.readStart readTag
  else if c = '|' ∧ t.flow = 0 then t.readBlockScalar false
  else if c = '>' ∧ t.flow = 0 then t.readBlockScalar true
  else if c = '\'' ∨ c = '"' then
    t.readStart fun cursor =>
      (readQuoted (c == '"') cursor.mark (t.size + 1) cursor.next).map fun (text, cursor) =>
        (.scalar text false, cursor)
  else if t.beginsPlain c next then t.readPlainScalar
  else
    .error (.fault ⟨some ("while scanning for the next token", none),
      s!"found character {Cursor.shown (some c)} that cannot start any token", t.cursor.mark⟩)

/-- The queue with at least one more token. -/
def readMore (t : Tokenizer) : Reading Tokenizer := do
  let t ← (skipToToken t.size t.skipMark).dropStale
  let t := t.unwind t.cursor.column
  match t.cursor.peek with
  | none => t.endStream
  | some c => t.readToken c

/-- Reads on until the first token of the queue is there to stay. Every step but the last takes a character
of the text at least. -/
def fill : (fuel : Nat) → Tokenizer → Reading Tokenizer
  | 0, t => .ok t
  | fuel + 1, t =>
    if t.atEnd then .ok t
    else if t.queue.isEmpty then do fill fuel (← t.readMore)
    else do
      let t ← t.dropStale
      if t.keys.any fun k => k.2.number == t.taken then fill fuel (← t.readMore) else .ok t

/-- The next token, which stays in the queue. Behind the end of the text there is nothing but the end. -/
def peek (t : Tokenizer) : Reading (Lexeme × Tokenizer) := do
  let t ← fill (t.size + 2) t
  .ok (t.queue.headD ⟨.streamEnd, t.cursor.mark, t.cursor.mark⟩, t)

/-- The first token of the queue taken. -/
def skip (t : Tokenizer) : Tokenizer := { t with queue := t.queue.tail, taken := t.taken + 1 }

/-- Reading at the begin of a text; of the characters of a text all must be allowed. -/
def start (text : List Char) : Reading Tokenizer :=
  match text.findIdx? fun c => !isAllowed c with
  | some i => .error (.unprintable (text[i]?.getD '\x00') i)
  | none => .ok { cursor := ⟨text, 0, 0, 0⟩, size := text.length }

end Tokenizer

end Stencil.Yaml
