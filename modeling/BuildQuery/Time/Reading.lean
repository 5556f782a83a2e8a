import BuildQuery.Text.Blank
import BuildQuery.Time.Timestamp

/-!
# Timestamps read from text

Three ways to write a point in time. `ofRfc3339?` reads the format of RFC 3339, in which every
number has its full width; `ofLenient?` reads that format with blanks between its parts, signed
years and short numbers; `ofDate?` reads a date alone, which stands for its midnight. Each reads the
whole text or nothing.
-/

namespace BuildQuery.Timestamp

/-- The digits at the front of a text, `most` at most, and what follows them. -/
def spanDigits (most : Nat) (cs : List Char) : List Char × List Char :=
  let digits := (cs.take most).takeWhile Char.isDigit
  (digits, cs.drop digits.length)

/-- A number of at least `least` and at most `most` digits, and what follows it. -/
def number? (least most : Nat) (cs : List Char) : Option (Nat × List Char) :=
  let (digits, rest) := spanDigits most cs
  if digits.length < least then none else some (Nat.ofDigitChars 10 digits 0, rest)

/-- The text after a given character. -/
def after? (c : Char) : List Char → Option (List Char)
  | [] => none
  | d :: cs => if d = c then some cs else none

/-- The text after the character that divides a date from a time of day. -/
def afterDateMark? : List Char → Option (List Char)
  | [] => none
  | c :: cs => if c = 'T' || c = 't' || c = ' ' then some cs else none

/-- The nanoseconds of a fraction of a second, of which digits beyond the ninth are dropped. Without
a point there are none. -/
def fraction? : List Char → Option (Nat × List Char)
  | '.' :: cs =>
    let (digits, rest) := spanDigits 9 cs
    if digits.isEmpty then none
    else some (Nat.ofDigitChars 10 digits 0 * Nat.pow 10 (9 - digits.length),
      rest.dropWhile Char.isDigit)
  | cs => some (0, cs)

/-- The sign of an offset: whether it is negative. -/
def offsetSign? : List Char → Option (Bool × List Char)
  | c :: cs =>
    if c = '+' then some (false, cs)
    else if c = '-' || c = '−' then some (true, cs)
    else none
  | [] => none

/-- The seconds of an offset from universal time, where `separator?` reads what stands between its
hours and its minutes. -/
def offset? (separator? : List Char → Option (List Char)) (cs : List Char) :
    Option (Int × List Char) := do
  if let c :: rest := cs then
    if c = 'Z' || c = 'z' then return (0, rest)
  let (negative, cs) ← offsetSign? cs
  let (hours, cs) ← number? 2 2 cs
  let cs ← separator? cs
  let (minutes, cs) ← number? 2 2 cs
  if 60 ≤ minutes then none
  let seconds : Int := (hours * 3600 + minutes * 60 : Nat)
  return (if negative then -seconds else seconds, cs)

/-- The point in time of a date and the parts of a time of day. The second 60 is a leap second. -/
def ofParts? (date : Date) (hour minute second nano : Nat) (offset : Int) : Option Timestamp :=
  if 24 ≤ hour || 60 ≤ minute || 61 ≤ second then none
  else if second = 60 then
    ofLocal? date (hour * 3600 + minute * 60 + 59) (1000000000 + nano) offset
  else ofLocal? date (hour * 3600 + minute * 60 + second) nano offset

/-- A timestamp in the format of RFC 3339. -/
def ofRfc3339? (cs : List Char) : Option Timestamp := do
  let (year, cs) ← number? 4 4 cs
  let cs ← after? '-' cs
  let (month, cs) ← number? 2 2 cs
  let cs ← after? '-' cs
  let (day, cs) ← number? 2 2 cs
  let cs ← afterDateMark? cs
  let (hour, cs) ← number? 2 2 cs
  let cs ← after? ':' cs
  let (minute, cs) ← number? 2 2 cs
  let cs ← after? ':' cs
  let (second, cs) ← number? 2 2 cs
  let (nano, cs) ← fraction? cs
  let (offset, cs) ← offset? (after? ':') cs
  if 86400 ≤ offset.natAbs || !cs.isEmpty then none
  let date ← Date.ofParts? year month day
  ofParts? date hour minute second nano offset

/-- A year: up to four digits, or a sign and any number of digits. -/
def year? (cs : List Char) : Option (Int × List Char) :=
  match Text.trimLeft cs with
  | '-' :: cs => (number? 1 cs.length cs).map fun (n, cs) => (-(n : Int), cs)
  | '+' :: cs => (number? 1 cs.length cs).map fun (n, cs) => ((n : Int), cs)
  | cs => (number? 1 4 cs).map fun (n, cs) => ((n : Int), cs)

/-- A number of one or two digits after any blanks. -/
def shortNumber? (cs : List Char) : Option (Nat × List Char) := number? 1 2 (Text.trimLeft cs)

/-- A date with blanks allowed before its numbers, and what follows it; `blanks` are dropped before
each hyphen. -/
def date? (blanks : List Char → List Char) (cs : List Char) : Option (Date × List Char) := do
  let (year, cs) ← year? cs
  let cs ← after? '-' (blanks cs)
  let (month, cs) ← shortNumber? cs
  let cs ← after? '-' (blanks cs)
  let (day, cs) ← shortNumber? cs
  let date ← Date.ofParts? year month day
  return (date, cs)

/-- The text after any blanks and colons. -/
def afterColons (cs : List Char) : List Char := cs.dropWhile fun c => c == ':' || Text.isBlank c

/-- The offset of a lenient timestamp, which may also be named `UTC`. -/
def lenientOffset? (cs : List Char) : Option (Int × List Char) :=
  if (cs.take 3).map Char.toUpper = ['U', 'T', 'C'] then some (0, cs.drop 3)
  else offset? (fun cs => some (afterColons cs)) cs

/-- A timestamp in the format of RFC 3339 with blanks around its parts, short numbers and signed
years. -/
def ofLenient? (cs : List Char) : Option Timestamp := do
  let (date, cs) ← date? Text.trimLeft cs
  let cs ← afterDateMark? cs
  let (hour, cs) ← shortNumber? cs
  let cs ← after? ':' (Text.trimLeft cs)
  let (minute, cs) ← shortNumber? cs
  let cs ← after? ':' (Text.trimLeft cs)
  let (second, cs) ← shortNumber? cs
  let (nano, cs) ← fraction? cs
  let (offset, cs) ← lenientOffset? (Text.trimLeft cs)
  if 86400 ≤ offset.natAbs || !(Text.trimLeft cs).isEmpty then none
  ofParts? date hour minute second nano offset

/-- The midnight of a date. -/
def ofDate? (cs : List Char) : Option Timestamp := do
  let (date, cs) ← date? id cs
  if !cs.isEmpty then none
  ofParts? date 0 0 0 0 0

/-- The point in time that an operand of a query writes: an RFC 3339 timestamp or a date. -/
def ofOperand? (s : String) : Option Timestamp := ofRfc3339? s.toList <|> ofDate? s.toList

end BuildQuery.Timestamp
