import Stencil.Json.Reader
import Stencil.Unicode.Case
import Stencil.Value.Numeric

/-! The values that the texts of environment variables stand for. The forms are tried in a fixed order:
nothing, truth values, whole numbers, numbers with a point, JSON; what is none of them is text. -/
namespace Stencil.Config

open Text (strip)

/-- The words for nothing. -/
def nullWords : List (List Char) := ["null".toList, "none".toList, "~".toList]

/-- A truth value by its name, whatever the case. -/
def readBool (s : List Char) : Option Bool :=
  let low := Unicode.lower (strip s)
  if low = "true".toList then some true else if low = "false".toList then some false else none

/-- Whether a text is a whole number: digits after at most one sign. -/
def isWhole (s : List Char) : Bool :=
  let ds := (Number.splitSign s).2
  !ds.isEmpty && ds.all Unicode.isDecimal

/-- Whether a text is digits with a point among them or at an end. -/
def isPointed (s : List Char) : Bool :=
  let t := (Number.splitSign s).2
  t.count '.' == 1 && t.any Unicode.isDecimal && t.all fun c => c == '.' || Unicode.isDecimal c

/-- Text between a pair of brackets or braces. -/
def isEnclosed (s : List Char) : Bool :=
  (s.head? == some '{' && s.getLast? == some '}') || (s.head? == some '[' && s.getLast? == some ']')

/-- JSON, if the text looks like a mapping or a list and can be read. One that is nested too deep is not
taken for text. -/
def readEnclosed (s : List Char) : Except Error (Option Value) :=
  if isEnclosed s then
    match Json.parse s with
    | .ok v => .ok (some v)
    | .error .tooDeep => .error .nesting
    | .error _ => .ok none
  else .ok none

/-- The value of a text. -/
def coerce (text : List Char) : Except Error Value :=
  let s := strip text
  if nullWords.contains (Unicode.lower s) then .ok .null
  else
    match readBool s with
    | some b => .ok (.bool b)
    | none =>
      if isWhole s then (Value.intOfText text).map Value.int
      else
        match if isPointed s then Number.floatOfText? s else none with
        | some x => .ok (.float x)
        | none =>
          match readEnclosed s with
          | .error e => .error e
          | .ok (some v) => .ok v
          | .ok none => .ok (.str (String.ofList s))

end Stencil.Config
