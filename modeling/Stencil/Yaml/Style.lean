import Stencil.Text.Base64
import Stencil.Yaml.Tag
import Stencil.Value.Display

/-! How scalars are written. A text is written plain if a reader takes it for the same text again; else it
stands in single quotes, and in double quotes if it holds what single quotes cannot. Bytes stand in lines of
their own. -/
namespace Stencil.Yaml

inductive Style where
  | plain
  | single
  | double
  | lines
  deriving Repr, DecidableEq

/-- Characters that end a line inside of a scalar. -/
def isLineFeed (c : Char) : Bool := c == '\n' || c == '\x85' || c == '\u2028' || c == '\u2029'

/-- Characters that need an escape. -/
def isSpecial (c : Char) : Bool :=
  let n := c.toNat
  !(c == '\n' || (0x20 ≤ n && n ≤ 0x7e) || n == 0x85 || (0xa0 ≤ n && n ≤ 0xd7ff)
    || (0xe000 ≤ n && n ≤ 0xfffd) || (0x10000 ≤ n && n < 0x10ffff)) || c == byteOrderMark

/-- Characters with which a plain scalar cannot begin. -/
def isIndicator (c : Char) : Bool :=
  "#,[]&*!|>%@'".toList.contains c || c == '"' || c == '{' || c == '}' || c.toNat == 0x60

/-- Whether a colon in front of a gap, or a comment, comes after the character `before`. -/
def breaksOff (before : Char) : List Char → Bool
  | [] => false
  | c :: s =>
    (c == ':' && isGap s.head?) || (c == '#' && isGap (some before)) || breaksOff c s

/-- Whether a text would be taken for something else than a scalar if it was written plain. -/
def looksLikeBlock (s : List Char) : Bool :=
  match s with
  | [] => false
  | c :: rest =>
    "---".toList.isPrefixOf s || "...".toList.isPrefixOf s || isIndicator c
      || ("?:-".toList.contains c && isGap rest.head?) || breaksOff c rest

def isMultiline (s : List Char) : Bool := s.any isLineFeed

/-- Whether a text can be written plain at all. -/
def allowsPlain (s : List Char) : Bool :=
  !isMultiline s && !s.any isSpecial && s.head? != some ' ' && s.getLast? != some ' '
    && !looksLikeBlock s

/-- Whether a space is next to the end of a line, after the character `before`. -/
def spaceAtLineEnd (before : Char) : List Char → Bool
  | [] => false
  | c :: s =>
    (before == ' ' && isLineFeed c) || (isLineFeed before && c == ' ') || spaceAtLineEnd c s

/-- Whether a text can be written in single quotes. -/
def allowsSingle (s : List Char) : Bool := !s.any isSpecial && !spaceAtLineEnd 'x' s

/-- The style of a text. -/
def Style.ofText (s : List Char) : Style :=
  if Tag.ofPlain s = .str ∧ allowsPlain s then .plain
  else if allowsSingle s then .single
  else .double

/-- Bytes as lines, and their style. -/
def bytesForm (b : List UInt8) : List Char × Style :=
  let lines := Text.Base64.lines b.length b
  (lines.flatMap fun line => line ++ ['\n'], if lines.isEmpty then .double else .lines)

/-- The text of a scalar, its style, and the name of its kind. -/
def scalarForm : Scalar → List Char × Style × String
  | .null => ("null".toList, .plain, "null")
  | .bool b => ((if b then "true" else "false").toList, .plain, "bool")
  | .int n => (Number.intText n, .plain, "int")
  | .float x => (Number.floatText .yaml x, .plain, "float")
  | .date d => (d.text, .plain, "timestamp")
  | .moment m => (m.text, .plain, "timestamp")
  | .str s => (s.toList, .ofText s.toList, "str")
  | .bytes b => ((bytesForm b).1, (bytesForm b).2, "binary")

/-- The longest key, together with its tag, that stands in one line with its value. -/
def keyWidth : Nat := 127

/-- Whether a key stands in one line with its value. -/
def isSimpleKey (key : Scalar) : Bool :=
  let (text, _, kind) := scalarForm key
  !text.isEmpty && !isMultiline text && text.length + kind.length + 2 ≤ keyWidth

/-- The letter after the backslash for characters that have one. -/
def escapeLetter? (c : Char) : Option Char :=
  match c with
  | '\x00' => some '0'
  | '\x07' => some 'a'
  | '\x08' => some 'b'
  | '\t' => some 't'
  | '\n' => some 'n'
  | '\x0b' => some 'v'
  | '\x0c' => some 'f'
  | '\r' => some 'r'
  | '\x1b' => some 'e'
  | '"' => some '"'
  | '\\' => some '\\'
  | '\x85' => some 'N'
  | '\xa0' => some '_'
  | '\u2028' => some 'L'
  | '\u2029' => some 'P'
  | _ => none

/-- What the letter of an escape stands for is what it was written for. -/
theorem escapeLetter?_quote : escapeLetter? '"' = some '"' := rfl

/-- A character written by an escape. -/
def escapeChar (c : Char) : List Char :=
  let code (width : Nat) := (Text.hex width c.toNat).map Char.toUpper
  match escapeLetter? c with
  | some letter => ['\\', letter]
  | none =>
    let n := c.toNat
    if n ≤ 0xff then '\\' :: 'x' :: code 2
    else if n ≤ 0xffff then '\\' :: 'u' :: code 4
    else '\\' :: 'U' :: code 8

/-- Whether a character is written by an escape between double quotes. -/
def isEscaped (c : Char) : Bool :=
  let n := c.toNat
  c == '"' || c == '\\' || isLineFeed c || c == byteOrderMark
    || !((0x20 ≤ n && n ≤ 0x7e) || (0xa0 ≤ n && n ≤ 0xd7ff) || (0xe000 ≤ n && n ≤ 0xfffd))

end Stencil.Yaml
