/-!
# Numbers in hexadecimal

Escapes in quoted texts name characters by hexadecimal numbers, in digits of either case.
-/

namespace BuildQuery.Text

/-- The value of a hexadecimal digit. -/
def hexDigit? (c : Char) : Option Nat :=
  if c.isDigit then some (c.toNat - '0'.toNat)
  else if 'a' ≤ c ∧ c ≤ 'f' then some (c.toNat - 'a'.toNat + 10)
  else if 'A' ≤ c ∧ c ≤ 'F' then some (c.toNat - 'A'.toNat + 10)
  else none

/-- The number that hexadecimal digits write. -/
def hexNumber? (cs : List Char) : Option Nat :=
  cs.foldl (fun sofar c => do return 16 * (← sofar) + (← hexDigit? c)) (some 0)

end BuildQuery.Text
