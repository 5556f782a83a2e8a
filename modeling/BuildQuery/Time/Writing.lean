import BuildQuery.Time.Timestamp

/-!
# Timestamps as text

A timestamp is written in the format of RFC 3339 in universal time. A fraction of a second has
three, six or nine digits, the fewest that are exact, and is left out when it is zero. A year
outside the four-digit ones has a sign and at least four digits. A leap second is the second 60.
-/

namespace BuildQuery.Timestamp

/-- A number with zeros in front of it up to the given width. -/
def padded (width n : Nat) : String :=
  let digits := Nat.toDigits 10 n
  String.ofList (List.replicate (width - digits.length) '0' ++ digits)

/-- A year: four digits, or a sign and at least four digits. -/
def writeYear (year : Int) : String :=
  if 0 ≤ year ∧ year ≤ 9999 then padded 4 year.toNat
  else (if year < 0 then "-" else "+") ++ padded 4 year.natAbs

/-- A date, with hyphens between its parts. -/
def writeDate (d : Date) : String :=
  writeYear d.year ++ "-" ++ padded 2 d.month ++ "-" ++ padded 2 d.day

/-- The fraction of a second with its point. -/
def writeFraction (nano : Nat) : String :=
  if nano = 0 then ""
  else if nano % 1000000 = 0 then "." ++ padded 3 (nano / 1000000)
  else if nano % 1000 = 0 then "." ++ padded 6 (nano / 1000)
  else "." ++ padded 9 nano

/-- The text of a timestamp, which ends in the given name of universal time. -/
def write (t : Timestamp) (zone : String) : String :=
  let leap := t.nano / 1000000000
  writeDate t.date ++ "T" ++ padded 2 (t.second / 3600) ++ ":" ++ padded 2 (t.second / 60 % 60) ++
    ":" ++ padded 2 (t.second % 60 + leap) ++ writeFraction (t.nano - leap * 1000000000) ++ zone

/-- The text of a timestamp with a numeric offset. -/
def rfc3339 (t : Timestamp) : String := t.write "+00:00"

end BuildQuery.Timestamp
