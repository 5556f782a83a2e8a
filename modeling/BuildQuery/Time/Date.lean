/-!
# Calendar dates

Dates of the proleptic Gregorian calendar and their day numbers. Day 0 is the first of January of
the year 1; the year 0 comes before the year 1.
-/

namespace BuildQuery

/-- A date that the calendar has. -/
structure Date where
  year : Int
  month : Nat
  day : Nat
  deriving DecidableEq, Repr

namespace Date

/-- Every fourth year is a leap year, but of the hundredth years only every fourth. -/
def isLeapYear (year : Int) : Bool := year % 4 == 0 && (year % 100 != 0 || year % 400 == 0)

/-- The days of each month of a year, in order. -/
def monthLengths (year : Int) : List Nat :=
  [31, if isLeapYear year then 29 else 28, 31, 30, 31, 30, 31, 31, 30, 31, 30, 31]

/-- The days of a month, if the year has that month. -/
def monthLength? (year : Int) (month : Nat) : Option Nat :=
  if month = 0 then none else (monthLengths year)[month - 1]?

/-- The years that dates can have. -/
def inRange (year : Int) : Bool := decide (-262143 ≤ year) && decide (year ≤ 262142)

/-- The date of a year, a month and a day, if there is one. -/
def ofParts? (year : Int) (month day : Nat) : Option Date :=
  match monthLength? year month with
  | some length =>
    if inRange year && decide (1 ≤ day) && decide (day ≤ length) then some ⟨year, month, day⟩
    else none
  | none => none

/-- The days before the first of January of a year, counted from day 0. -/
def daysBeforeYear (year : Int) : Int :=
  365 * (year - 1) + (year - 1) / 4 - (year - 1) / 100 + (year - 1) / 400

/-- The day number of a date. -/
def dayNumber (d : Date) : Int :=
  daysBeforeYear d.year + ((monthLengths d.year).take (d.month - 1)).foldl Nat.add 0 + d.day - 1

/-- The month and the day of a day of a year, which begins at 0, from the lengths of the months that
are left, of which the first is number `month`. -/
def monthAndDay (month : Nat) : List Nat → Nat → Nat × Nat
  | [], day => (month, day + 1)
  | length :: lengths, day =>
    if day < length then (month, day + 1) else monthAndDay (month + 1) lengths (day - length)

/-- The date of a day number. The days are counted off in cycles of 400 years, then in centuries,
in spans of four years and in years, of which the last may be a day longer than the others. -/
def ofDayNumber (n : Int) : Date :=
  let inCycle := (n % 146097).toNat
  let century := min (inCycle / 36524) 3
  let inCentury := inCycle - century * 36524
  let span := inCentury / 1461
  let inSpan := inCentury - span * 1461
  let single := min (inSpan / 365) 3
  let year : Int := n / 146097 * 400 + (century * 100 + span * 4 + single + 1 : Nat)
  let (month, day) := monthAndDay 1 (monthLengths year) (inSpan - single * 365)
  ⟨year, month, day⟩

end Date

end BuildQuery
