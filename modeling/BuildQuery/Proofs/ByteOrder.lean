/-!
# The order of texts by their bytes

Texts are compared by the code points of their characters. The first byte of a character in UTF-8
tells how many bytes follow, and more bytes stand for a higher code point; among characters of as
many bytes each byte carries bits of lower weight than the one before (`append_lastSix_lt`). Main
statement: a text that comes before another one does so in the order of the bytes too (`utf8_lt`).
-/

namespace BuildQuery.Text

/-- The bytes of a text in UTF-8. -/
def utf8 (s : String) : List UInt8 := s.toByteArray.data.toList

theorem utf8_eq_flatMap (s : String) : utf8 s = s.toList.flatMap String.utf8EncodeChar := by
  have encoded : s.toByteArray = s.toList.utf8Encode := by
    rw [← String.toByteArray_ofList, String.ofList_toList]
  rw [utf8, encoded]
  exact List.toList_data_toByteArray

/-! ## Characters -/

theorem ofNat_lt_ofNat {m n : Nat} (h : m < n) (hn : n < 256) : UInt8.ofNat m < UInt8.ofNat n := by
  rw [UInt8.lt_iff_toNat_lt, UInt8.toNat_ofNat_of_lt' hn,
    UInt8.toNat_ofNat_of_lt' (Nat.lt_trans h hn)]
  exact h

theorem cons_lt_cons_of_lt {a b : UInt8} (h : a < b) (xs ys : List UInt8) : a :: xs < b :: ys :=
  List.cons_lt_cons_iff.2 (.inl h)

/-- The byte for the last six bits of a number. -/
def lastSix (n : Nat) : UInt8 := UInt8.ofNat (n % 64 + 128)

/-- Where the bytes for the bits in front differ they decide, and else the last six bits do. -/
theorem append_lastSix_lt {f : Nat → List UInt8} {m n : Nat} (h : m < n)
    (decided : m / 64 < n / 64 → ∀ xs ys, f (m / 64) ++ xs < f (n / 64) ++ ys)
    (xs ys : List UInt8) :
    f (m / 64) ++ lastSix m :: xs < f (n / 64) ++ lastSix n :: ys := by
  rcases Nat.lt_or_eq_of_le (Nat.div_le_div_right (Nat.le_of_lt h)) with lt | same
  · exact decided lt _ _
  · rw [same]
    refine List.append_left_lt (cons_lt_cons_of_lt (ofNat_lt_ofNat ?_ ?_) xs ys) <;> omega

/-! ### Characters of several bytes -/

/-- The bytes of a character with a code point of up to eleven bits. -/
def twoBytes (n : Nat) : List UInt8 := [UInt8.ofNat (n / 64 % 32 + 192), lastSix n]

/-- The bytes of a character with a code point of up to sixteen bits. -/
def threeBytes (n : Nat) : List UInt8 :=
  [UInt8.ofNat (n / 64 / 64 % 16 + 224), lastSix (n / 64), lastSix n]

/-- The bytes of a character with any other code point. -/
def fourBytes (n : Nat) : List UInt8 :=
  [UInt8.ofNat (n / 64 / 64 / 64 % 8 + 240), lastSix (n / 64 / 64), lastSix (n / 64), lastSix n]

theorem utf8EncodeChar_eq (c : Char) :
    String.utf8EncodeChar c =
      if c.val.toNat ≤ 127 then [UInt8.ofNat c.val.toNat]
      else if c.val.toNat ≤ 2047 then twoBytes c.val.toNat
      else if c.val.toNat ≤ 65535 then threeBytes c.val.toNat
      else fourBytes c.val.toNat := by
  simp only [String.utf8EncodeChar, twoBytes, threeBytes, fourBytes, lastSix,
    Nat.div_div_eq_div_mul]

variable {m n : Nat}

theorem twoBytes_append_lt (lt : m < n) (bound : n < 2048) (xs ys : List UInt8) :
    twoBytes m ++ xs < twoBytes n ++ ys := by
  refine append_lastSix_lt (f := fun k => [UInt8.ofNat (k % 32 + 192)]) lt ?_ xs ys
  intro lt
  exact cons_lt_cons_of_lt (ofNat_lt_ofNat (by omega) (by omega))

theorem threeBytes_append_lt (lt : m < n) (bound : n < 65536) (xs ys : List UInt8) :
    threeBytes m ++ xs < threeBytes n ++ ys := by
  refine append_lastSix_lt
    (f := fun k => [UInt8.ofNat (k / 64 % 16 + 224), lastSix k]) lt ?_ xs ys
  intro lt
  refine append_lastSix_lt (f := fun k => [UInt8.ofNat (k % 16 + 224)]) lt ?_
  intro lt
  exact cons_lt_cons_of_lt (ofNat_lt_ofNat (by omega) (by omega))

theorem fourBytes_append_lt (lt : m < n) (bound : n < 2097152) (xs ys : List UInt8) :
    fourBytes m ++ xs < fourBytes n ++ ys := by
  refine append_lastSix_lt
    (f := fun k => [UInt8.ofNat (k / 64 / 64 % 8 + 240), lastSix (k / 64), lastSix k]) lt ?_ xs ys
  intro lt
  refine append_lastSix_lt (f := fun k => [UInt8.ofNat (k / 64 % 8 + 240), lastSix k]) lt ?_
  intro lt
  refine append_lastSix_lt (f := fun k => [UInt8.ofNat (k % 8 + 240)]) lt ?_
  intro lt
  exact cons_lt_cons_of_lt (ofNat_lt_ofNat (by omega) (by omega))

/-- Either two characters have as many bytes, or the first bytes differ. -/
theorem utf8EncodeChar_append_lt {c d : Char} (h : c < d) (xs ys : List UInt8) :
    String.utf8EncodeChar c ++ xs < String.utf8EncodeChar d ++ ys := by
  have lt : c.val.toNat < d.val.toNat := h
  have bound : d.val.toNat < 1114112 := by
    have valid : d.val.toNat.isValidChar := d.valid
    omega
  rw [utf8EncodeChar_eq, utf8EncodeChar_eq]
  generalize c.val.toNat = m at lt
  generalize d.val.toNat = n at lt bound
  split
  · have first {b : Nat} (lt : m < b) (hb : b < 256) {bytes : List UInt8} :
        [UInt8.ofNat m] ++ xs < UInt8.ofNat b :: bytes :=
      cons_lt_cons_of_lt (ofNat_lt_ofNat lt hb) _ _
    split
    · exact first lt (by omega)
    · split
      · exact first (by omega) (by omega)
      · split <;> exact first (by omega) (by omega)
  · rw [if_neg (show ¬ n ≤ 127 by omega)]
    split
    · split
      · exact twoBytes_append_lt lt (by omega) xs ys
      · split <;> exact cons_lt_cons_of_lt (ofNat_lt_ofNat (by omega) (by omega)) _ _
    · rw [if_neg (show ¬ n ≤ 2047 by omega)]
      split
      · split
        · exact threeBytes_append_lt lt (by omega) xs ys
        · exact cons_lt_cons_of_lt (ofNat_lt_ofNat (by omega) (by omega)) _ _
      · rw [if_neg (show ¬ n ≤ 65535 by omega)]
        exact fourBytes_append_lt lt (by omega) xs ys

/-! ## Texts -/

theorem flatMap_utf8EncodeChar_lt {cs ds : List Char} (h : cs < ds) :
    cs.flatMap String.utf8EncodeChar < ds.flatMap String.utf8EncodeChar := by
  induction h with
  | @nil d ds =>
    have some : 0 < (String.utf8EncodeChar d).length := by
      rw [String.length_utf8EncodeChar]
      exact d.utf8Size_pos
    obtain ⟨b, bytes, e⟩ := List.exists_cons_of_length_pos some
    rw [List.flatMap_cons, e]
    exact List.nil_lt_cons b _
  | rel lt =>
    rw [List.flatMap_cons, List.flatMap_cons]
    exact utf8EncodeChar_append_lt lt _ _
  | cons _ ih =>
    rw [List.flatMap_cons, List.flatMap_cons]
    exact List.append_left_lt ih

/-- The order of texts is the order of their bytes. -/
theorem utf8_lt {s t : String} (h : s < t) : utf8 s < utf8 t := by
  rw [utf8_eq_flatMap, utf8_eq_flatMap]
  exact flatMap_utf8EncodeChar_lt (String.lt_iff.1 h)

end BuildQuery.Text
