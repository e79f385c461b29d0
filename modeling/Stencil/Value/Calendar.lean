/-! The calendar: days and times, the lengths of months, and days and times counted from the first day of
year one. -/
namespace Stencil

/-- A day of the calendar. -/
structure Date where
  year : Nat
  month : Nat
  day : Nat
  deriving Repr, BEq, DecidableEq

/-- A time of a day, with its distance from universal time in seconds when that is known. -/
structure Moment where
  date : Date
  hour : Nat
  minute : Nat
  second : Nat
  microsecond : Nat
  offset : Option Int
  deriving Repr, BEq, DecidableEq

namespace Date

def isLeapYear (y : Nat) : Bool := y % 4 == 0 && (y % 100 != 0 || y % 400 == 0)

def daysInMonth (year month : Nat) : Nat :=
  if month = 2 then (if isLeapYear year then 29 else 28)
  else if month = 4 ∨ month = 6 ∨ month = 9 ∨ month = 11 then 30
  else 31

theorem daysInMonth_le (year month : Nat) : daysInMonth year month ≤ 31 := by
  unfold daysInMonth
  split
  · split <;> omega
  · split <;> omega

/-- The days of the months before a month. -/
def daysBefore (year : Nat) : (month : Nat) → Nat
  | 0 => 0
  | month + 1 => daysBefore year month + (if month = 0 then 0 else daysInMonth year month)

/-- A day by its number. -/
def number (d : Date) : Nat :=
  let y := d.year - 1
  365 * y + y / 4 - y / 100 + y / 400 + daysBefore d.year d.month + d.day

end Date

/-- The year and the day in it of a day by its number, sought upward from a year. -/
def Date.seekYear : (fuel year day : Nat) → Nat × Nat
  | 0, year, day => (year, day)
  | fuel + 1, year, day =>
    let length := if Date.isLeapYear year then 366 else 365
    if day ≤ length then (year, day) else seekYear fuel (year + 1) (day - length)

/-- The month and the day in it of a day of a year, sought upward from a month. -/
def Date.seekMonth (year : Nat) : (fuel month day : Nat) → Nat × Nat
  | 0, month, day => (month, day)
  | fuel + 1, month, day =>
    let length := Date.daysInMonth year month
    if day ≤ length then (month, day) else seekMonth year fuel (month + 1) (day - length)

/-- The day with a number. -/
def Date.ofNumber (n : Nat) : Date :=
  let (year, day) := Date.seekYear n 1 n
  let (month, day) := Date.seekMonth year 12 1 day
  ⟨year, month, day⟩

/-- The number of the first day of 1970. -/
def firstEpochDay : Nat := 719163

/-- The moment that many seconds after 1970 began, in universal time. -/
def Moment.ofSeconds (seconds : Nat) : Moment :=
  let rest := seconds % 86400
  ⟨Date.ofNumber (firstEpochDay + seconds / 86400), rest / 3600, rest / 60 % 60, rest % 60, 0, none⟩

/-- Microseconds of universal time, or of the place if the distance is not known. -/
def Moment.instant (m : Moment) : Int :=
  let seconds := ((m.date.number * 24 + m.hour) * 60 + m.minute) * 60 + m.second
  (Int.ofNat seconds - m.offset.getD 0) * 1000000 + Int.ofNat m.microsecond

/-- 1970 began on that day. -/
theorem number_firstEpochDay : (Date.mk 1970 1 1).number = firstEpochDay := by decide

end Stencil
