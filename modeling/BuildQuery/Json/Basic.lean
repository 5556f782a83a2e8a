import BuildQuery.Text.Integer

/-!
# JSON values

A JSON text can escape halves of characters that are written as pairs of 16-bit units. A string is
therefore kept as its code points, of which such halves are some, and is text only when every half
is in its pair. A number is kept as it is written.
-/

namespace BuildQuery

/-- A JSON value. -/
inductive Json where
  | null
  | bool (b : Bool)
  | number (written : List Char)
  | string (points : List Nat)
  | array (elements : List Json)
  | object (members : List (List Nat × Json))

namespace Json

/-- The first halves of pairs. -/
def isLeading (n : Nat) : Bool := decide (0xD800 ≤ n) && decide (n ≤ 0xDBFF)

/-- The second halves of pairs. -/
def isTrailing (n : Nat) : Bool := decide (0xDC00 ≤ n) && decide (n ≤ 0xDFFF)

/-- The characters that code points write, if no half is alone. -/
def chars? : List Nat → Option (List Char)
  | [] => some []
  | [n] => if isLeading n || isTrailing n then none else some [Char.ofNat n]
  | m :: n :: points =>
    if isLeading m then
      if isTrailing n then
        (chars? points).map (Char.ofNat (0x10000 + (m - 0xD800) * 0x400 + (n - 0xDC00)) :: ·)
      else none
    else if isTrailing m then none
    else (chars? (n :: points)).map (Char.ofNat m :: ·)

/-- The text of a string. -/
def text? : Json → Option String
  | string points => (chars? points).map String.ofList
  | _ => none

/-- The 64-bit integer that a number writes without a fraction and an exponent. Minus zero is not
an integer. -/
def int64? : Json → Option Int64
  | number written =>
    if written = ['-', '0'] then none
    else match Text.readInt64 written with
      | .ok n => some n
      | .error _ => none
  | _ => none

end Json

end BuildQuery
