import Stencil.Value.Graph
import Stencil.Number.FloatText
import Stencil.Text.Quoted

/-! Values as text. `shown` of a value shows its structure, with strings in quotes; `display` is what
a reader of the page sees: the text of a string as it is, and nothing for the absence of a value. -/
namespace Stencil

open Number (digits intText floatText)

/-- The complaint about a whole number that is too long to be written. -/
def longNumberMessage : String :=
  "Exceeds the limit (4300 digits) for integer string conversion; use sys.set_int_max_str_digits() to increase the limit"

/-- A whole number on at least `width` places. -/
def padded (width n : Nat) : List Char :=
  let ds := digits n
  List.replicate (width - ds.length) '0' ++ ds

namespace Date

/-- Year, month and day. -/
def text (d : Date) : List Char :=
  padded 4 d.year ++ '-' :: padded 2 d.month ++ '-' :: padded 2 d.day

end Date

namespace Moment

/-- Hours and minutes from universal time, and the seconds if there are any. -/
def offsetText (seconds : Int) : List Char :=
  let n := seconds.natAbs
  (if seconds < 0 then '-' else '+') :: padded 2 (n / 3600) ++ ':' :: padded 2 (n / 60 % 60)
    ++ (if n % 60 = 0 then [] else ':' :: padded 2 (n % 60))

/-- Date and time. -/
def text (m : Moment) : List Char :=
  m.date.text ++ ' ' :: padded 2 m.hour ++ ':' :: padded 2 m.minute ++ ':' :: padded 2 m.second
    ++ (if m.microsecond = 0 then [] else '.' :: padded 6 m.microsecond)
    ++ (match m.offset with
      | none => []
      | some seconds => offsetText seconds)

end Moment

/-- `a, b, c`. -/
def commaSeparated (parts : List (List Char)) : List Char := (", ".toList).intercalate parts

namespace Scalar

/-- The name of a truth value. -/
def boolText (b : Bool) : List Char := (if b then "True" else "False").toList

/-- How far a moment is from universal time, as part of a shown moment. -/
def shownOffset (seconds : Int) : List Char :=
  if seconds = 0 then "datetime.timezone.utc".toList
  else
    "datetime.timezone(datetime.timedelta(".toList
      ++ (if seconds < 0 then "days=-1, seconds=".toList ++ intText (seconds + 86400)
        else "seconds=".toList ++ intText seconds)
      ++ "))".toList

/-- A scalar inside a structure. -/
def shown : Scalar → List Char
  | null => "None".toList
  | bool b => boolText b
  | int n => intText n
  | float x => floatText .display x
  | str s => Text.quoted s.toList
  | bytes b => 'b' :: Text.quotedBytes b
  | date d => "datetime.date(".toList
      ++ commaSeparated [digits d.year, digits d.month, digits d.day] ++ [')']
  | moment m => "datetime.datetime(".toList
      ++ commaSeparated
        ([m.date.year, m.date.month, m.date.day, m.hour, m.minute].map digits
          ++ (if m.second = 0 && m.microsecond = 0 then [] else [digits m.second])
          ++ (if m.microsecond = 0 then [] else [digits m.microsecond])
          ++ (match m.offset with
            | none => []
            | some seconds => ["tzinfo=".toList ++ shownOffset seconds]))
      ++ [')']

end Scalar

/-- The text of a list with the texts of its items. -/
def listText (items : List (List Char)) : List Char := '[' :: commaSeparated items ++ [']']

/-- The text of a tuple; one item alone is followed by a comma. -/
def tupleText : List (List Char) → List Char
  | [item] => '(' :: item ++ [',', ')']
  | items => '(' :: commaSeparated items ++ [')']

/-- The text of a mapping with the texts of its pairs. -/
def dictText (pairs : List (List Char)) : List Char := '{' :: commaSeparated pairs ++ ['}']

/-- The text of a set. -/
def setText : List Scalar → List Char
  | [] => "set()".toList
  | items => '{' :: commaSeparated (items.map Scalar.shown) ++ ['}']

/-- The text of a pair. -/
def pairText (key : Scalar) (value : List Char) : List Char := key.shown ++ ':' :: ' ' :: value

/-- A value of a graph with its structure, inside of the values of the numbers `trail`. One of these stands
again as dots. The fuel is the number of cells. -/
def Graph.shown (g : Graph) : (fuel : Nat) → (trail : List Nat) → Nat → List Char
  | 0, _, _ => []
  | fuel + 1, trail, n =>
    let inner := g.shown fuel (n :: trail)
    let isAgain := trail.contains n
    match g.cell n with
    | .scalar s => s.shown
    | .list items => if isAgain then "[...]".toList else listText (items.map inner)
    | .tuple items => if isAgain then "(...)".toList else tupleText (items.map inner)
    | .dict pairs =>
      if isAgain then "\x7b...\x7d".toList
      else dictText (pairs.map fun p => pairText (g.scalarAt p.1) (inner p.2))
    | .set items => setText (items.map g.scalarAt)

mutual

/-- A value with its structure. -/
def Value.shown : Value → List Char
  | .scalar s => s.shown
  | .list items => listText (shownItems items)
  | .tuple items => tupleText (shownItems items)
  | .dict pairs => dictText (shownPairs pairs)
  | .set items => setText items
  | .knot g n => g.shown (g.size + 2) [] n

def shownItems : List Value → List (List Char)
  | [] => []
  | v :: items => v.shown :: shownItems items

def shownPairs : List (Scalar × Value) → List (List Char)
  | [] => []
  | (k, v) :: pairs => pairText k v.shown :: shownPairs pairs

end

/-- The text of a value: a string is its own text, everything else is its shown form. -/
def Value.text : Value → List Char
  | .scalar (.str s) => s.toList
  | .scalar (.date d) => d.text
  | .scalar (.moment m) => m.text
  | v => v.shown

/-- The text of a value as a string. -/
def Value.toText (v : Value) : String := String.ofList v.text

/-- A character as it is written in markup. -/
def escapeMarkupChar (c : Char) : List Char :=
  if c = '&' then "&amp;".toList
  else if c = '<' then "&lt;".toList
  else if c = '>' then "&gt;".toList
  else if c = '"' then "&#34;".toList
  else if c = '\'' then "&#39;".toList
  else [c]

/-- Text that markup cannot mistake for its own. -/
def escapeMarkup (s : List Char) : List Char := s.flatMap escapeMarkupChar

/-- What a page shows of a value: its text, escaped, and nothing for `null`. -/
def Value.display : Value → List Char
  | .scalar .null => []
  | v => escapeMarkup v.text

end Stencil
