import Stencil.Yaml.Cursor

/-! What kind of value a node stands for. A node says so by its tag; a plain scalar without a tag is
told by its text. -/
namespace Stencil.Yaml

/-- The kinds of values that nodes stand for. Two marks have a meaning in mappings only: `merge` brings
in the pairs of other mappings, and `default` names the scalar that a mapping stands for. -/
inductive Tag where
  | null
  | bool
  | int
  | float
  | str
  | binary
  | time
  | sequence
  | mapping
  | set
  | orderedMapping
  | pairs
  | merge
  | default
  | unknown (name : String)
  deriving Repr, DecidableEq

/-- Where the tags of the common kinds stand. -/
def tagStem : String := "tag:yaml.org,2002:"

def Tag.table : List (String × Tag) :=
  [("null", .null), ("bool", .bool), ("int", .int), ("float", .float), ("str", .str),
   ("binary", .binary), ("timestamp", .time), ("seq", .sequence), ("map", .mapping), ("set", .set),
   ("omap", .orderedMapping), ("pairs", .pairs), ("merge", .merge), ("value", .default)]

/-- The kind that a tag in full length names. -/
def Tag.ofName (name : String) : Tag :=
  ((Tag.table.find? fun p => tagStem ++ p.1 == name).map Prod.snd).getD (.unknown name)

/-- The tag of a kind in full length. -/
def Tag.name : Tag → String
  | .unknown name => name
  | tag => tagStem ++ ((Tag.table.find? fun p => p.2 == tag).map Prod.fst).getD ""

/-! ### The kind of a plain scalar -/

/-- A digit or an underscore. -/
def isSpacedDigit (c : Char) : Bool := c.isDigit || c == '_'

/-- A word in lower case, in upper case, or with a capital in front. -/
def isWordOf (words : List String) (s : List Char) : Bool :=
  words.any fun w =>
    let w := w.toList
    s == w || s == w.map Char.toUpper || s == (w.take 1).map Char.toUpper ++ w.drop 1

def isNullText (s : List Char) : Bool := s.isEmpty || s == ['~'] || isWordOf ["null"] s

def trueWords : List String := ["yes", "true", "on"]

def falseWords : List String := ["no", "false", "off"]

def isBoolText (s : List Char) : Bool := isWordOf (trueWords ++ falseWords) s

/-- The text after a sign, if there is one. -/
def skipSign (s : List Char) : List Char :=
  match s with
  | '-' :: s => s
  | '+' :: s => s
  | s => s

/-- The exponent of a number: absent, or with a sign that must not be missing. -/
def isExponent : List Char → Bool
  | [] => true
  | e :: sign :: ds =>
    (e == 'e' || e == 'E') && (sign == '-' || sign == '+') && !ds.isEmpty && ds.all Char.isDigit
  | _ => false

/-- Parts between colons that count sixtieths: one digit, or two below sixty. -/
def isSixtieth : List Char → Bool
  | [a] => a.isDigit
  | [a, b] => '0' ≤ a && a ≤ '5' && b.isDigit
  | _ => false

/-- A number and its sixtieths, at least one of them. -/
def isSixtieths (leads : Char → Bool) (s : List Char) : Bool :=
  match Text.splitOn ':' s with
  | head :: part :: parts =>
    head.head?.any leads && head.all isSpacedDigit && (part :: parts).all isSixtieth
  | _ => false

def infinityWords : List String := [".inf", ".Inf", ".INF"]

def nanWords : List String := [".nan", ".NaN", ".NAN"]

def isFloatText (s : List Char) : Bool :=
  let t := skipSign s
  let whole := t.takeWhile isSpacedDigit
  let rest := t.dropWhile isSpacedDigit
  match rest with
  | '.' :: r =>
    (whole.head?.any Char.isDigit && isExponent (r.dropWhile isSpacedDigit))
      || (whole.isEmpty && s == t && r.head?.any Char.isDigit
        && isExponent (r.dropWhile isSpacedDigit))
      || infinityWords.any (fun w => t == w.toList)
      || nanWords.any (fun w => s == w.toList)
  | ':' :: _ =>
    let front := t.takeWhile (· != '.')
    isSixtieths Char.isDigit front && t.length != front.length
      && (t.drop (front.length + 1)).all isSpacedDigit
  | _ => false

def isIntText (s : List Char) : Bool :=
  let t := skipSign s
  match t with
  | ['0'] => true
  | '0' :: 'b' :: ds => !ds.isEmpty && ds.all fun c => c == '0' || c == '1' || c == '_'
  | '0' :: 'x' :: ds => !ds.isEmpty && ds.all fun c => (Json.hexValue? c).isSome || c == '_'
  | '0' :: ds => ds.all fun c => ('0' ≤ c && c ≤ '7') || c == '_'
  | c :: ds =>
    c.isDigit && (ds.all isSpacedDigit || isSixtieths (fun c => c.isDigit && c != '0') t)
  | [] => false

/-- The fields of a date, and of a time if there is one; the digits are as they stand in the text. -/
structure TimeText where
  year : List Char
  month : List Char
  day : List Char
  clock : Option (List Char × List Char × List Char)
  fraction : List Char
  /-- `none` for no zone, otherwise the sign and the digits of hours and minutes. -/
  zone : Option (Option (Char × List Char × List Char))
  deriving Repr, DecidableEq

/-- At least `least` and at most `most` digits at the front. -/
def takeDigits (least most : Nat) (s : List Char) : Option (List Char × List Char) :=
  let ds := (s.take most).takeWhile Char.isDigit
  if least ≤ ds.length then some (ds, s.drop ds.length) else none

/-- The zone at the end of a time. -/
def readZone (s : List Char) : Option (Option (Option (Char × List Char × List Char))) :=
  match s.dropWhile isBlank with
  | [] => if s.isEmpty then some none else none
  | ['Z'] => some (some none)
  | sign :: t => do
    if sign ≠ '-' ∧ sign ≠ '+' then none
    else
      let (hours, t) ← takeDigits 1 2 t
      match t with
      | [] => some (some (some (sign, hours, [])))
      | ':' :: t =>
        let (minutes, t) ← takeDigits 2 2 t
        if t.isEmpty then some (some (some (sign, hours, minutes))) else none
      | _ => none

/-- The text of a date or of a time, which has to be nothing else. -/
def readTimeText (s : List Char) : Option TimeText := do
  let (year, s) ← takeDigits 4 4 s
  let s ← Text.expect ['-'] s
  let (month, s) ← takeDigits 1 2 s
  let s ← Text.expect ['-'] s
  let (day, s) ← takeDigits 1 2 s
  if s.isEmpty then some { year, month, day, clock := none, fraction := [], zone := none }
  else
    let gap := s.takeWhile isBlank
    let s ←
      if !gap.isEmpty then some (s.drop gap.length)
      else if s.head? = some 'T' ∨ s.head? = some 't' then some (s.drop 1)
      else none
    let (hour, s) ← takeDigits 1 2 s
    let s ← Text.expect [':'] s
    let (minute, s) ← takeDigits 2 2 s
    let s ← Text.expect [':'] s
    let (second, s) ← takeDigits 2 2 s
    let (fraction, s) :=
      match s with
      | '.' :: s => (s.takeWhile Char.isDigit, s.dropWhile Char.isDigit)
      | s => ([], s)
    let zone ← readZone s
    some { year, month, day, clock := some (hour, minute, second), fraction, zone }

/-- A plain date has all its digits. -/
def isTimeText (s : List Char) : Bool :=
  match readTimeText s with
  | none => false
  | some t => t.clock.isSome || (t.month.length == 2 && t.day.length == 2)

/-- A text without the line break at its end, which is no part of a word. -/
def withoutLastBreak (s : List Char) : List Char :=
  if 1 < s.length ∧ s.getLast? = some '\n' then s.dropLast else s

/-- The kind of a plain scalar. Characters that begin other tokens are no text of a kind. -/
def Tag.ofPlain (s : List Char) : Tag :=
  let s := withoutLastBreak s
  if isBoolText s then .bool
  else if isFloatText s then .float
  else if isIntText s then .int
  else if s = "<<".toList then .merge
  else if isNullText s then .null
  else if isTimeText s then .time
  else if s = ['='] then .default
  else if s = ['!'] ∨ s = ['&'] ∨ s = ['*'] then .unknown (tagStem ++ "yaml")
  else .str

/-- Nothing at all is no value. -/
theorem Tag.ofPlain_nil : Tag.ofPlain [] = .null := by decide

end Stencil.Yaml
