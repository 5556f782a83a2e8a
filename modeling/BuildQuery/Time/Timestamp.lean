import BuildQuery.Time.Date

/-!
# Points in time

A timestamp is a day, a second of that day and a number of nanoseconds, all in universal time. A
leap second is told by nanoseconds beyond the billion in the second before it, so that it comes
after every other moment of that second and before the next one.
-/

namespace BuildQuery

/-- A point in universal time. -/
structure Timestamp where
  day : Int
  second : Nat
  nano : Nat
  deriving DecidableEq, Repr

namespace Timestamp

/-- The earlier of two points in time comes first: days are compared, then seconds, then
nanoseconds. -/
def isBefore (s t : Timestamp) : Bool :=
  decide (s.day < t.day) || (decide (s.day = t.day) &&
    (decide (s.second < t.second) || (decide (s.second = t.second) && decide (s.nano < t.nano))))

/-- The date of a point in time. -/
def date (t : Timestamp) : Date := Date.ofDayNumber t.day

/-- The point in time at which a clock that runs `offset` seconds ahead of universal time shows the
date and the time of day, if the date in universal time is still one that dates can have. -/
def ofLocal? (date : Date) (second nano : Nat) (offset : Int) : Option Timestamp :=
  let seconds := date.dayNumber * 86400 + second - offset
  let t : Timestamp := ⟨seconds / 86400, (seconds % 86400).toNat, nano⟩
  if Date.inRange t.date.year then some t else none

end Timestamp

end BuildQuery
