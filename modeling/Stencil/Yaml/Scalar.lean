import Stencil.Value.Calendar
import Stencil.Yaml.Tag

/-! The values of scalars, each by the rule of its kind. Whole numbers may be written to the bases two,
eight and sixteen, and numbers of both kinds in sixtieths, with colons in between. -/
namespace Stencil.Yaml

/-- A text as a message shows it. -/
def shownText (s : List Char) : String := String.ofList (Text.quoted s)

/-! ### Numbers -/

/-- The letter after a zero that announces a base. -/
def baseLetter (base : Nat) : Char := if base = 2 then 'b' else if base = 8 then 'o' else 'x'

/-- A whole number to a base, which the text may announce. -/
def intInBase (base : Nat) (s : List Char) : Except Error Int :=
  let (negative, t) := Number.splitSign ((Number.trimMargin s).map Number.plainDigit)
  let ds :=
    match t with
    | '0' :: c :: rest => if c.toLower = baseLetter base then rest else t
    | _ => t
  let value := ds.foldl (fun n c =>
    match n, Json.hexValue? c with
    | some n, some d => if d < base then some (n * base + d) else none
    | _, _ => none) (some 0)
  match value with
  | some n =>
    if ds.isEmpty then .error (.value (.notIntegerInBase base (shownText s)))
    else .ok (Number.signed negative n)
  | none => .error (.value (.notIntegerInBase base (shownText s)))

/-- A sign and the text after it, which has lost its underscores; there must be some text. -/
def signedText (s : List Char) : Except Error (Bool × List Char) :=
  match s.filter (· != '_') with
  | [] => .error .noCharacterThere
  | s => .ok (Number.splitSign s)

/-- Parts that each count sixty times as much as the part after it. -/
def sumSixtieths (parts : List Int) : Int := parts.foldl (fun n part => n * 60 + part) 0

def intOf (s : List Char) : Except Error Int := do
  let (negative, t) ← signedText s
  let n ←
    match t with
    | [] => .error .noCharacterThere
    | ['0'] => .ok 0
    | '0' :: 'b' :: ds => intInBase 2 ds
    | '0' :: 'x' :: ds => intInBase 16 ds
    | '0' :: _ => intInBase 8 t
    | _ =>
      if t.contains ':' then do
        let parts ← (Text.splitOn ':' t).mapM Value.intOfText
        .ok (sumSixtieths parts)
      else Value.intOfText t
  .ok (if negative then -n else n)

def floatOfPart (s : List Char) : Except Error Float :=
  match Number.floatOfText? s with
  | some x => .ok x
  | none => .error (.value (.notNumber (shownText s)))

/-- The same sum from the last part on; `base` is what a part counts. -/
def sumFloatSixtieths : (base : Int) → Float → List Float → Except Error Float
  | _, sum, [] => .ok sum
  | base, sum, part :: parts =>
    match Number.floatOfInt? base with
    | none => .error .tooLarge
    | some b => sumFloatSixtieths (base * 60) (sum + part * b) parts

def floatOf (s : List Char) : Except Error Float := do
  let (negative, t) ← signedText (Unicode.lower s)
  if t = ".nan".toList then .ok Number.floatNan
  else
    let x ←
      if t = ".inf".toList then .ok (Number.floatInfinity false)
      else if t.contains ':' then do
        let parts ← (Text.splitOn ':' t).mapM floatOfPart
        sumFloatSixtieths 1 0 parts.reverse
      else floatOfPart t
    .ok (if negative then -x else x)

/-! ### Truth values -/

def boolOf (s : List Char) : Except Error Bool :=
  let word := String.ofList (Unicode.lower s)
  if trueWords.contains word then .ok true
  else if falseWords.contains word then .ok false
  else .error (.noEntry (shownText word.toList))

/-! ### Dates and times -/

def badTime {α : Type} (reason : String) : Except Error α := .error (.value (.badTime reason))

/-- A day that the calendar has. -/
def dateOf (year month day : Nat) : Except Error Date :=
  if year = 0 then badTime "year 0 is out of range"
  else if month = 0 ∨ 12 < month then badTime "month must be in 1..12"
  else if day = 0 ∨ Date.daysInMonth year month < day then badTime "day is out of range for month"
  else .ok ⟨year, month, day⟩

/-- Seconds as a span of days and seconds, the way a message shows it. -/
def shownSpan (seconds : Int) : List Char :=
  let days := seconds.fdiv 86400
  let rest := seconds.fmod 86400
  let parts :=
    (if days = 0 then [] else ["days=".toList ++ Number.intText days])
      ++ (if rest = 0 then [] else ["seconds=".toList ++ Number.intText rest])
  "datetime.timedelta(".toList ++ (if parts.isEmpty then ['0'] else commaSeparated parts) ++ [')']

/-- The distance of a zone from universal time. It is less than a day. -/
def offsetOf (sign : Char) (hours minutes : List Char) : Except Error Int :=
  let n := Int.ofNat (Number.decimalValue hours * 3600 + Number.decimalValue minutes * 60)
  let n := if sign = '-' then -n else n
  if n.natAbs < 86400 then .ok n
  else
    let span := String.ofList (shownSpan n)
    badTime
      s!"offset must be a timedelta strictly between -timedelta(hours=24) and timedelta(hours=24), not {span}."

/-- Six digits after the point; more are cut off. -/
def microsecondsOf (fraction : List Char) : Nat :=
  let ds := fraction.take 6
  Number.decimalValue (ds ++ List.replicate (6 - ds.length) '0')

/-- A date, or a time if the text has one. -/
def timeOf (s : List Char) : Except Error Scalar := do
  match readTimeText (withoutLastBreak s) with
  | none => .error (.noMember "NoneType" "groupdict")
  | some t =>
    let value := Number.decimalValue
    match t.clock with
    | none =>
      let date ← dateOf (value t.year) (value t.month) (value t.day)
      .ok (.date date)
    | some (hour, minute, second) =>
      let offset ←
        match t.zone with
        | none => .ok none
        | some none => .ok (some 0)
        | some (some (sign, hours, minutes)) => (offsetOf sign hours minutes).map some
      let date ← dateOf (value t.year) (value t.month) (value t.day)
      if 23 < value hour then badTime "hour must be in 0..23"
      else if 59 < value minute then badTime "minute must be in 0..59"
      else if 59 < value second then badTime "second must be in 0..59"
      else
        .ok (.moment ⟨date, value hour, value minute, value second, microsecondsOf t.fraction, offset⟩)

end Stencil.Yaml
