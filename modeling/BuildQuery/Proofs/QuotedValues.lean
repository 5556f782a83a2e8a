import BuildQuery.Proofs.FaultPlaces

/-!
# Quoted values between other text

A quoted value is closed by the quote that was put behind it and by none of its own, so what comes
after it is read as if it stood alone, except that all places are moved on by the length of what is
before it (`readFrom_add`). A quote also ends any word in front of it, so that what comes before the
value makes no difference either (`ComesTo.readFrom_append`).

Main statement: a value in quotes before a text is read as one token before those of the text, or
moves the fault of the text on (`tokenize_quote_append`).
-/

namespace BuildQuery

/-- The token `n` bytes further on. -/
def Lexeme.shift (n : Nat) (l : Lexeme) : Lexeme := ⟨l.token, l.offset + n⟩

/-- The error with its place, if it has one, `n` bytes further on. -/
def QueryError.shift (n : Nat) : QueryError → QueryError
  | grammar offset fault => grammar (offset + n) fault
  | operand error => operand error
  | unknownField name => unknownField name
  | unmappedField field => unmappedField field

namespace Token

/-- What is read of a text that stands `n` bytes further on, from what is read of it. -/
def shiftRead (n : Nat) : Except QueryError (List Lexeme) → Except QueryError (List Lexeme)
  | .ok ls => .ok (ls.map (Lexeme.shift n))
  | .error e => .error (e.shift n)

section Places

variable {c : Char} {cs rest mid : List Char} {t : Token} {ls : List Lexeme} {offset place n : Nat}

theorem shiftRead_map_cons (n : Nat) (l : Lexeme) (read : Except QueryError (List Lexeme)) :
    shiftRead n (read.map (l :: ·)) = (shiftRead n read).map (l.shift n :: ·) := by
  cases read <;> rfl

/-- A text is read in the same way wherever it stands. -/
theorem readFrom_add (offset n : Nat) (cs : List Char) :
    readFrom (offset + n) cs = shiftRead n (readFrom offset cs) := by
  -- by the recursion of `lexemesFrom`, which goes from token to token as the reader does
  fun_induction lexemesFrom offset cs with
  | case1 => rw [readFrom, readFrom]; rfl
  | case2 offset c cs isBlank ih =>
    rw [readFrom_blank isBlank, readFrom_blank isBlank, ← ih, Nat.add_right_comm]
  | case3 offset c cs notBlank unread =>
    have ink := Bool.eq_false_iff.2 notBlank
    rw [readFrom_cons ink, readFrom_cons ink, unread]
    rfl
  | case4 offset c cs notBlank t mid first _ ih =>
    have ink := Bool.eq_false_iff.2 notBlank
    rw [readFrom_cons ink, readFrom_cons ink, first]
    dsimp only
    rw [shiftRead_map_cons, ← ih, Nat.add_right_comm]
    rfl

theorem readFrom_eq_shiftRead (offset : Nat) (cs : List Char) :
    readFrom offset cs = shiftRead offset (readFrom 0 cs) := by
  rw [← readFrom_add, Nat.zero_add]

/-! ## Text in front -/

/-- A token is read in the same way in front of what does not go on with a word. -/
theorem first?_append (h : first? c cs = some (t, mid)) (ends : Ends rest) :
    first? c (cs ++ rest) = some (t, mid ++ rest) := by
  unfold first? at h
  split at h
  · next ho =>
    obtain ⟨rfl, rfl⟩ := Prod.mk.inj (Option.some.inj h)
    exact if_pos ho
  split at h
  · next ho hc =>
    obtain ⟨rfl, rfl⟩ := Prod.mk.inj (Option.some.inj h)
    rw [first?, if_neg ho, if_pos hc]
  split at h
  · next hq =>
    obtain ⟨⟨value, rest'⟩, found, e⟩ := Option.map_eq_some_iff.1 h
    obtain ⟨rfl, rfl⟩ := Prod.mk.inj e
    have notEscape : c ≠ '\\' := by rintro rfl; exact absurd hq (by decide)
    obtain ⟨used, rfl, any⟩ := unquote?_cut notEscape found
    rw [first?_of_isQuote hq, List.append_assoc, any]
    rfl
  · next ho hc hq =>
    obtain ⟨rfl, rfl⟩ := Prod.mk.inj (Option.some.inj h)
    have letters : ∀ d ∈ cs.takeWhile isWordChar, isWordChar d = true :=
      fun d hd => List.mem_takeWhile_imp hd
    obtain ⟨word, after⟩ := ((ends_dropWhile cs).append ends).span_append letters
    rw [← List.append_assoc, List.takeWhile_append_dropWhile] at word after
    rw [first?, if_neg ho, if_neg hc, if_neg hq, word, after]

theorem comesTo_of_readFrom (h : readFrom offset cs = .ok ls) :
    ComesTo offset cs ls (offset + byteLength cs) [] := by
  obtain ⟨ms, place, rest, way, ⟨rfl, read⟩ | ⟨-, failed⟩⟩ := exists_comesTo_stop offset cs
  · obtain rfl := Except.ok.inj (h.symm.trans read)
    obtain ⟨front, e, rfl, -⟩ := way.front
    rw [e, List.append_nil] at way ⊢
    exact way
  · exact nomatch h.symm.trans failed

/-- When all of a text has been read, what follows it is read from its end on. -/
theorem ComesTo.readFrom_append {stop : List Char} (h : ComesTo offset cs ls place stop)
    (all : stop = []) (ends : Ends rest) :
    readFrom offset (cs ++ rest) = (readFrom place rest).map (ls ++ ·) := by
  induction h with
  | here =>
    rw [all, List.nil_append]
    cases readFrom _ rest <;> rfl
  | blank isBlank _ ih => rw [List.cons_append, readFrom_blank isBlank, ih all]
  | @token offset c used mid t ls place stop notBlank first _ ih =>
    have first := first?_append first ends
    rw [List.append_assoc] at first
    rw [List.cons_append, List.append_assoc, readFrom_first notBlank first, ih all]
    cases readFrom place rest <;> rfl

end Places

/-! ## Quoted values -/

theorem toList_quote (v : String) : (quote v).toList = quoteChars v.toList :=
  String.toList_ofList

theorem byteLength_toList (s : String) : byteLength s.toList = s.utf8ByteSize := by
  rw [← Criteria.utf8ByteSize_ofList_eq_byteLength, String.ofList_toList]

theorem tokenize_append {front : String} {ls : List Lexeme} (h : tokenize front = .ok ls)
    {s : String} (ends : Ends s.toList) :
    tokenize (front ++ s) = (shiftRead front.utf8ByteSize (tokenize s)).map (ls ++ ·) := by
  rw [tokenize, String.toList_append, (comesTo_of_readFrom h).readFrom_append rfl ends,
    Nat.zero_add, byteLength_toList, readFrom_eq_shiftRead, tokenize]

theorem tokenize_quote_append_eq (v r : String) : tokenize (quote v ++ r) =
    (shiftRead (quote v).utf8ByteSize (tokenize r)).map (⟨quoted v, 0⟩ :: ·) := by
  rw [tokenize, String.toList_append, toList_quote, readFrom_quoteChars, Nat.zero_add,
    ← toList_quote, byteLength_toList, readFrom_eq_shiftRead, String.ofList_toList, tokenize]

theorem tokenize_cases (r : String) : (∃ ts, tokenize r = .ok ts) ∨
    ∃ place, tokenize r = .error (.grammar place .unterminatedQuote) := by
  obtain ⟨ls, place, rest, -, ⟨-, read⟩ | ⟨-, failed⟩⟩ := exists_comesTo_stop 0 r.toList
  · exact .inl ⟨ls, read⟩
  · exact .inr ⟨place, failed⟩

theorem ends_quote_append (v r : String) : Ends (quote v ++ r).toList := by
  rw [String.toList_append, toList_quote]
  exact ends_cons (by decide) _

/-- A value in quotes before a text is read as one token with this value, and the tokens of the text
follow with their places moved on by the length of the quoted value in bytes. A text that cannot be
read fails in the same way behind a quoted value, at a place that is moved on as well; there is no
other way to fail than at a quote that is not closed. Text before the quoted value does not change
what is read from there on. -/
theorem tokenize_quote_append (v r : String) :
    (∀ ts, tokenize r = .ok ts → tokenize (quote v ++ r) =
      .ok (⟨quoted v, 0⟩ :: ts.map (Lexeme.shift (quote v).utf8ByteSize))) ∧
    (∀ place fault, tokenize r = .error (.grammar place fault) → tokenize (quote v ++ r) =
      .error (.grammar (place + (quote v).utf8ByteSize) fault)) ∧
    ((∃ ts, tokenize r = .ok ts) ∨
      ∃ place, tokenize r = .error (.grammar place .unterminatedQuote)) ∧
    ∀ front ls, tokenize front = .ok ls → tokenize (front ++ (quote v ++ r)) =
      (shiftRead front.utf8ByteSize (tokenize (quote v ++ r))).map (ls ++ ·) := by
  refine ⟨fun ts read => ?_, fun place fault failed => ?_, tokenize_cases r,
    fun front ls read => ?_⟩
  · rw [tokenize_quote_append_eq, read]
    rfl
  · rw [tokenize_quote_append_eq, failed]
    rfl
  · exact tokenize_append read (ends_quote_append v r)

/-- A value with both characters that are escaped, a parenthesis and a letter of two bytes, which
takes up twelve bytes in quotes: before a word, before a quote that is not closed, and behind a
word. -/
theorem tokenize_quote_append_of_escapes :
    let v := "a\\\"(é\\"
    tokenize " OR 'b'" = .ok [⟨.word "or", 1⟩, ⟨.quoted "b", 4⟩] ∧
      tokenize (quote v ++ " OR 'b'") = .ok [⟨.quoted v, 0⟩, ⟨.word "or", 13⟩, ⟨.quoted "b", 16⟩] ∧
      tokenize "x\"b\\\"" = .error (.grammar 1 .unterminatedQuote) ∧
      tokenize (quote v ++ "x\"b\\\"") = .error (.grammar 13 .unterminatedQuote) ∧
      tokenize "not" = .ok [⟨.word "not", 0⟩] ∧
      tokenize ("not" ++ (quote v ++ " OR 'b'")) =
        .ok [⟨.word "not", 0⟩, ⟨.quoted v, 3⟩, ⟨.word "or", 16⟩, ⟨.quoted "b", 19⟩] := by
  intro v
  have read : tokenize " OR 'b'" = .ok [⟨.word "or", 1⟩, ⟨.quoted "b", 4⟩] := by
    with_unfolding_all rfl
  have failed : tokenize "x\"b\\\"" = .error (.grammar 1 .unterminatedQuote) := by
    with_unfolding_all rfl
  have word : tokenize "not" = .ok [⟨.word "not", 0⟩] := by
    with_unfolding_all rfl
  have size : (quote v).utf8ByteSize = 12 := by
    rw [← byteLength_toList]
    decide
  obtain ⟨ahead, -, -, behind⟩ := tokenize_quote_append v " OR 'b'"
  have quoted := ahead _ read
  have between := behind _ _ word
  have unclosed := (tokenize_quote_append v _).2.1 _ _ failed
  rw [size] at quoted unclosed
  rw [quoted] at between
  exact ⟨read, quoted, failed, unclosed, word, between⟩

end Token

end BuildQuery
