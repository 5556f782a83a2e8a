/-!
# Integers as text

Build numbers are 64-bit integers. One is written in decimal, with an optional sign in front when it
is read. Main statement: what is written is read back (`readInt64_writeInt64`).
-/

namespace BuildQuery.Text

/-- Why a text is not a 64-bit integer. -/
inductive IntegerFault where
  | empty
  | notADigit
  | tooLarge
  | tooSmall
  deriving DecidableEq, Repr

/-- The wording of a fault. -/
def IntegerFault.message : IntegerFault → String
  | empty => "cannot parse integer from empty string"
  | notADigit => "invalid digit found in string"
  | tooLarge => "number too large to fit in target type"
  | tooSmall => "number too small to fit in target type"

/-- The number that `sofar` and the digits after it write, as long as it stays at or below `limit`.
The first character that is no digit or leads beyond the limit decides the fault. -/
def readDigits (limit : Nat) (beyond : IntegerFault) (sofar : Nat) :
    List Char → Except IntegerFault Nat
  | [] => .ok sofar
  | c :: cs =>
    if c.isDigit then
      let next := 10 * sofar + (c.toNat - '0'.toNat)
      if limit < next then .error beyond else readDigits limit beyond next cs
    else .error .notADigit

/-- The integer that a text with an optional sign writes. -/
def readInt64 (cs : List Char) : Except IntegerFault Int64 :=
  match cs with
  | [] => .error .empty
  | ['+'] | ['-'] => .error .notADigit
  | '-' :: digits =>
    (readDigits 0x8000000000000000 .tooSmall 0 digits).map fun n : Nat => Int64.ofInt (-(n : Int))
  | '+' :: digits => (readDigits 0x7FFFFFFFFFFFFFFF .tooLarge 0 digits).map Int64.ofNat
  | digits => (readDigits 0x7FFFFFFFFFFFFFFF .tooLarge 0 digits).map Int64.ofNat

/-- The decimal text of an integer. -/
def writeInt64 (n : Int64) : List Char :=
  if n.toInt < 0 then '-' :: Nat.toDigits 10 n.toInt.natAbs else Nat.toDigits 10 n.toInt.natAbs

/-! ## Reading what is written -/

theorem le_ofDigitChars (cs : List Char) (n : Nat) : n ≤ Nat.ofDigitChars 10 cs n := by
  rw [Nat.ofDigitChars_eq_ofDigitChars_zero]
  exact Nat.le_add_right_of_le (Nat.le_mul_of_pos_left n (Nat.pow_pos (by decide)))

/-- Digits whose number does not pass the limit are read as that number. -/
theorem readDigits_eq_ok {limit : Nat} {beyond : IntegerFault} {cs : List Char} {sofar : Nat}
    (digits : ∀ c ∈ cs, c.isDigit = true) (le : Nat.ofDigitChars 10 cs sofar ≤ limit) :
    readDigits limit beyond sofar cs = .ok (Nat.ofDigitChars 10 cs sofar) := by
  induction cs generalizing sofar with
  | nil => simp [readDigits]
  | cons c cs ih =>
    rw [Nat.ofDigitChars_cons] at le ⊢
    have := le_ofDigitChars cs (10 * sofar + (c.toNat - '0'.toNat))
    rw [readDigits, if_pos (digits c (by simp)), if_neg (by omega)]
    exact ih (fun d hd => digits d (List.mem_cons_of_mem _ hd)) le

theorem readDigits_toDigits {limit n : Nat} (beyond : IntegerFault) (le : n ≤ limit) :
    readDigits limit beyond 0 (Nat.toDigits 10 n) = .ok n := by
  rw [readDigits_eq_ok (fun c => Nat.isDigit_of_mem_toDigits (by decide) (by decide)),
    Nat.ofDigitChars_ten_toDigits]
  rwa [Nat.ofDigitChars_ten_toDigits]

/-- A text that begins with a digit is read without a sign. -/
theorem readInt64_of_digit {c : Char} {cs : List Char} (h : c.isDigit = true) :
    readInt64 (c :: cs) =
      (readDigits 0x7FFFFFFFFFFFFFFF .tooLarge 0 (c :: cs)).map Int64.ofNat := by
  unfold readInt64
  split
  · next e => cases e
  · next e => exact absurd h (by rw [(List.cons.inj e).1]; decide)
  · next e => exact absurd h (by rw [(List.cons.inj e).1]; decide)
  · next e => exact absurd h (by rw [(List.cons.inj e).1]; decide)
  · next e => exact absurd h (by rw [(List.cons.inj e).1]; decide)
  · next e => rfl

@[simp] theorem readInt64_writeInt64 (n : Int64) : readInt64 (writeInt64 n) = .ok n := by
  have lower := n.le_toInt
  have upper := n.toInt_lt
  have ne : Nat.toDigits 10 n.toInt.natAbs ≠ [] := Nat.toDigits_ne_nil
  have digit : ∀ c ∈ Nat.toDigits 10 n.toInt.natAbs, c.isDigit = true :=
    fun c => Nat.isDigit_of_mem_toDigits (by decide) (by decide)
  unfold writeInt64
  split
  · have read : readInt64 ('-' :: Nat.toDigits 10 n.toInt.natAbs) =
        (readDigits 0x8000000000000000 .tooSmall 0 (Nat.toDigits 10 n.toInt.natAbs)).map
          fun k : Nat => Int64.ofInt (-(k : Int)) := by
      unfold readInt64
      split <;> simp_all
    have back : (-(n.toInt.natAbs : Int)) = n.toInt := by omega
    rw [read, readDigits_toDigits _ (by omega)]
    simp only [Except.map, back, Int64.ofInt_toInt]
  · cases e : Nat.toDigits 10 n.toInt.natAbs with
    | nil => exact absurd e ne
    | cons c cs =>
      have back : ((n.toInt.natAbs : Nat) : Int) = n.toInt := by omega
      rw [readInt64_of_digit (digit c (by simp [e])), ← e, readDigits_toDigits _ (by omega)]
      simp only [Except.map, ← Int64.ofInt_eq_ofNat, back, Int64.ofInt_toInt]

end BuildQuery.Text
