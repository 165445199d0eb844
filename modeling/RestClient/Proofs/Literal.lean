import RestClient.Json.Read

/-!
# Numerals and strings read back

The parts of a text in JSON that hold no other values. An integer is written in its digits, and the
reader of numerals takes them up one by one; it comes to the same integer as long as sixty-four bits
hold it (`signedNumeral_intText`). A string is written character by character, and there are three
ways in which a character can stand in it (`escapedChar_cases`); the reader of strings undoes each
of them (`readString_stringText`).

Both are stated with a rest behind the part. A numeral ends only where the rest does not go on with
it (`EndsNumeral`), a string ends at its quote whatever follows.
-/

namespace RestClient.Json

/-! ## Digits -/

theorem isDigit_of_mem_toDigits {n : Nat} {c : Char} (h : c ∈ Nat.toDigits 10 n) :
    isDigit c = true :=
  Nat.isDigit_of_mem_toDigits (by decide) (by decide) h

/-- Digits only make a number greater. -/
theorem le_ofDigitChars (acc : Nat) (cs : List Char) : acc ≤ Nat.ofDigitChars 10 cs acc := by
  induction cs generalizing acc with
  | nil => exact Nat.le_refl acc
  | cons c cs ih =>
    rw [Nat.ofDigitChars_cons]
    calc
      acc ≤ 10 * acc + (c.toNat - '0'.toNat) := by omega
      _ ≤ _ := ih _

/-- Digits whose number is within the limit are all taken. -/
theorem takeDigits_of_le {limit : Nat} (acc : Nat) (cs : List Char)
    (h : Nat.ofDigitChars 10 cs acc ≤ limit) :
    takeDigits limit acc cs = (Nat.ofDigitChars 10 cs acc, cs.length, []) := by
  induction cs generalizing acc with
  | nil => rfl
  | cons c cs ih =>
    rw [Nat.ofDigitChars_cons] at h
    have hnext : acc * 10 + digitValue c = 10 * acc + (c.toNat - '0'.toNat) := by
      rw [Nat.mul_comm]
      rfl
    have hle : 10 * acc + (c.toNat - '0'.toNat) ≤ limit := Nat.le_trans (le_ofDigitChars _ cs) h
    rw [takeDigits, hnext, if_pos hle, ih _ h]
    rfl

/-- Only zero is written with a zero in front. -/
theorem head_toDigits_ne_zero {n : Nat} (hn : n ≠ 0) {c : Char} {r : List Char}
    (h : Nat.toDigits 10 n = c :: r) : c ≠ '0' := by
  induction n using Nat.strongRecOn generalizing r with
  | ind n ih =>
    rw [Nat.toDigits_eq_if (by decide)] at h
    split at h
    · next hlt =>
      rw [List.cons.injEq] at h
      rw [← h.1, Ne, Nat.digitChar_eq_zero]
      exact hn
    · next hge =>
      -- the front digit is the one of the number without its last digit
      cases hd : Nat.toDigits 10 (n / 10) with
      | nil => exact absurd hd Nat.toDigits_ne_nil
      | cons d ds =>
        rw [hd, List.cons_append, List.cons.injEq] at h
        exact ih (n / 10) (by omega) (by omega) (hd.trans (congrArg (· :: ds) h.1))

/-- A text that does not go on with the numeral in front of it. -/
def EndsNumeral (rest : List Char) : Prop :=
  ∀ c r, rest = c :: r → isDigit c = false ∧ c ≠ '.' ∧ c ≠ 'e' ∧ c ≠ 'E'

theorem afterInteger_of_ends {rest : List Char} (h : EndsNumeral rest) (negative : Bool) (n : Nat) :
    afterInteger negative n 0 rest = .ok (wholeNumber negative n, rest) := by
  unfold afterInteger
  split
  · exact absurd rfl (h _ _ rfl).2.1
  · exact absurd rfl (h _ _ rfl).2.2.1
  · exact absurd rfl (h _ _ rfl).2.2.2
  · rfl

/-- **The digits of a whole number**: there is no zero in front of others. In such a form each
number has one text. -/
structure IsWholeText (cs : List Char) : Prop where
  digits : ∀ c ∈ cs, isDigit c = true
  front : ∃ c r, cs = c :: r ∧ (c = '0' → r = [])

theorem isWholeText_zero : IsWholeText ['0'] :=
  ⟨List.forall_mem_singleton.mpr rfl, '0', [], rfl, fun _ => rfl⟩

theorem IsWholeText.ne_nil {cs : List Char} (h : IsWholeText cs) : cs ≠ [] := by
  obtain ⟨c, r, rfl, -⟩ := h.front
  exact nofun

/-- A text that does not go on with a digit. -/
def EndsDigits (rest : List Char) : Prop := ∀ c r, rest = c :: r → isDigit c = false

theorem EndsNumeral.endsDigits {rest : List Char} (h : EndsNumeral rest) : EndsDigits rest :=
  fun c r hrest => (h c r hrest).1

theorem endsDigits_cons {c : Char} (h : isDigit c = false) (r : List Char) :
    EndsDigits (c :: r) := by
  intro d s heq
  rw [List.cons.injEq] at heq
  rw [← heq.1]
  exact h

theorem EndsDigits.span {ds rest : List Char} (hrest : EndsDigits rest)
    (hds : ∀ c ∈ ds, isDigit c = true) :
    (ds ++ rest).takeWhile isDigit = ds ∧ (ds ++ rest).dropWhile isDigit = rest := by
  have hnone : rest.takeWhile isDigit = [] ∧ rest.dropWhile isDigit = rest := by
    cases rest with
    | nil => exact ⟨rfl, rfl⟩
    | cons c r =>
      have hc := hrest c r rfl
      exact ⟨by simp [hc], by simp [hc]⟩
  rw [List.takeWhile_append_of_pos hds, List.dropWhile_append_of_pos hds, hnone.1, hnone.2]
  exact ⟨List.append_nil ds, rfl⟩

/-- **The digits in front are taken**, and what follows them decides whether the number is an
integer. -/
theorem numeral_of_isWholeText {cs rest : List Char} (h : IsWholeText cs) (hrest : EndsDigits rest)
    (negative : Bool) : numeral negative (cs ++ rest)
      = afterInteger negative (takeDigits maxSignificand 0 cs).1
          (takeDigits maxSignificand 0 cs).2.2.length rest := by
  obtain ⟨hdigits, c, r, rfl, hzero⟩ := h
  by_cases hc : c = '0'
  · subst hc
    obtain rfl := hzero rfl
    show numeral negative ('0' :: rest) = afterInteger negative 0 0 rest
    unfold numeral
    cases rest with
    | nil => rfl
    | cons d s => simp [hrest d s rfl]
  · rw [List.forall_mem_cons] at hdigits
    obtain ⟨htake, hdrop⟩ := hrest.span hdigits.2
    rw [List.cons_append, numeral]
    · simp only [hdigits.1, if_true, htake, hdrop]
    · exact fun heq => absurd heq hc

/-! ## Integers -/

theorem isWholeText_toDigits (n : Nat) : IsWholeText (Nat.toDigits 10 n) := by
  by_cases hn : n = 0
  · rw [hn]
    exact isWholeText_zero
  · refine ⟨fun c => isDigit_of_mem_toDigits, ?_⟩
    cases hd : Nat.toDigits 10 n with
    | nil => exact absurd hd Nat.toDigits_ne_nil
    | cons c r => exact ⟨c, r, rfl, fun hzero => absurd hzero (head_toDigits_ne_zero hn hd)⟩

theorem takeDigits_toDigits {n limit : Nat} (hn : n ≤ limit) :
    takeDigits limit 0 (Nat.toDigits 10 n) = (n, (Nat.toDigits 10 n).length, []) := by
  have hvalue : Nat.ofDigitChars 10 (Nat.toDigits 10 n) 0 = n := Nat.ofDigitChars_ten_toDigits
  rw [takeDigits_of_le 0 _ (Nat.le_trans (Nat.le_of_eq hvalue) hn), hvalue]

/-- **A whole number is read back from its digits**, up to the greatest significand, whatever
follows that does not go on with the numeral. -/
theorem numeral_toDigits {n : Nat} (hn : n ≤ maxSignificand) (negative : Bool) {rest : List Char}
    (h : EndsNumeral rest) :
    numeral negative (Nat.toDigits 10 n ++ rest) = .ok (wholeNumber negative n, rest) := by
  rw [numeral_of_isWholeText (isWholeText_toDigits n) h.endsDigits, takeDigits_toDigits hn]
  exact afterInteger_of_ends h negative n

/-- **Integers of sixty-four bits**, signed or unsigned: the integers that a dynamic value can
hold. -/
def Number.IsWhole : Number → Prop
  | .int k => -Int.pow 2 63 ≤ k ∧ k < Int.pow 2 64
  | .float _ => False

theorem signedNumeral_of_isDigit {c : Char} (h : isDigit c = true) (r : List Char) :
    signedNumeral (c :: r) = numeral false (c :: r) := by
  unfold signedNumeral
  split
  · next heq =>
    rw [List.cons.injEq] at heq
    rw [heq.1] at h
    cases h
  · rfl

/-- A text starts with a digit or a minus. -/
def StartsNumeral (cs : List Char) : Prop := ∃ c r, cs = c :: r ∧ (c = '-' ∨ isDigit c = true)

theorem StartsNumeral.append {cs : List Char} (h : StartsNumeral cs) (rest : List Char) :
    StartsNumeral (cs ++ rest) := by
  obtain ⟨c, r, rfl, hc⟩ := h
  exact ⟨c, r ++ rest, rfl, hc⟩

theorem startsNumeral_toDigits (n : Nat) :
    ∃ c r, Nat.toDigits 10 n = c :: r ∧ isDigit c = true := by
  cases hd : Nat.toDigits 10 n with
  | nil => exact absurd hd Nat.toDigits_ne_nil
  | cons c r => exact ⟨c, r, rfl, isDigit_of_mem_toDigits (by rw [hd]; exact List.mem_cons_self)⟩

theorem startsNumeral_intText (k : Int) : StartsNumeral (intText k) := by
  cases k with
  | ofNat n =>
    obtain ⟨c, r, hd, hc⟩ := startsNumeral_toDigits n
    exact ⟨c, r, hd, .inr hc⟩
  | negSucc n => exact ⟨'-', _, rfl, .inl rfl⟩

/-- The text of an integer is digits, but for its sign. -/
theorem mem_intText {k : Int} {c : Char} (h : c ∈ intText k) : c = '-' ∨ isDigit c = true := by
  cases k with
  | ofNat n => exact .inr (isDigit_of_mem_toDigits h)
  | negSucc n => exact (List.mem_cons.mp h).imp_right isDigit_of_mem_toDigits

/-- **An integer is read back from its text** if sixty-four bits hold it, whatever follows that does
not go on with the numeral. -/
theorem signedNumeral_intText {k : Int} (h : (Number.int k).IsWhole) {rest : List Char}
    (hrest : EndsNumeral rest) : signedNumeral (intText k ++ rest) = .ok (.int k, rest) := by
  obtain ⟨hlow, hhigh⟩ := h
  have hmin : Int.pow 2 63 = 9223372036854775808 := rfl
  have hmax : Int.pow 2 64 = 18446744073709551616 := rfl
  have hsignificand : maxSignificand = 18446744073709551615 := rfl
  cases k with
  | ofNat n =>
    rw [Int.ofNat_eq_natCast] at hhigh
    have hn : n ≤ maxSignificand := by omega
    obtain ⟨c, r, hd, hc⟩ := startsNumeral_toDigits n
    have hread := numeral_toDigits hn false hrest
    show signedNumeral (Nat.toDigits 10 n ++ rest) = _
    rw [hd, List.cons_append] at hread ⊢
    rw [signedNumeral_of_isDigit hc, hread]
    rfl
  | negSucc n =>
    have hn : n + 1 ≤ maxSignificand := by omega
    have hfits : ¬Nat.pow 2 63 < n + 1 := by
      have hlimit : Nat.pow 2 63 = 9223372036854775808 := rfl
      omega
    have hwhole : wholeNumber true (n + 1) = .int (Int.negSucc n) := by
      simp only [wholeNumber, hfits]
      rfl
    show numeral true (Nat.toDigits 10 (n + 1) ++ rest) = _
    rw [numeral_toDigits hn true hrest, hwhole]

/-! ## Strings -/

theorem hexValue_digitChar {n : Nat} (h : n < 16) : hexValue (Nat.digitChar n) = some n := by
  have hall : ∀ n < 16, hexValue (Nat.digitChar n) = some n := by decide
  exact hall n h

theorem stringFrom_plain_cons (strict : Bool) {c : Char} (cs : List Char) (hquote : c ≠ '"')
    (hslash : c ≠ '\\') (hcontrol : 0x20 ≤ c.toNat) :
    stringFrom strict .plain (c :: cs) = prepend c (stringFrom strict .plain cs) := by
  rw [stringFrom, if_neg hquote, if_neg hslash, if_neg (Nat.not_lt.mpr hcontrol)]

theorem stringFrom_plain_escape (strict : Bool) {c d : Char} (cs : List Char) (hu : c ≠ 'u')
    (hd : simpleEscape c = some d) :
    stringFrom strict .plain ('\\' :: c :: cs) = prepend d (stringFrom strict .plain cs) := by
  rw [stringFrom, if_neg (by decide), if_pos rfl, stringFrom, if_neg hu, hd]

/-- A digit to base sixteen that is not the last of its unit. -/
theorem stringFrom_hex_cons {read value d : Nat} {high : Option Nat} {c : Char} (cs : List Char)
    (hread : read < 3) (hd : hexValue c = some d) (strict : Bool) :
    stringFrom strict (.hex read value high) (c :: cs)
      = stringFrom strict (.hex (read + 1) (value * 16 + d) high) cs := by
  rw [stringFrom, hd]
  exact if_pos hread

theorem stringFrom_plain_hex {n : Nat} (h : n < 0x20) (cs : List Char) :
    stringFrom true .plain ('\\' :: 'u' :: '0' :: '0' :: (twoHex n ++ cs))
      = prepend (Char.ofNat n) (stringFrom true .plain cs) := by
  have hhigh := hexValue_digitChar (n := n / 16) (by omega)
  have hlow := hexValue_digitChar (n := n % 16) (by omega)
  have hzero : hexValue '0' = some 0 := by decide
  have hn : (((0 * 16 + 0) * 16 + 0) * 16 + n / 16) * 16 + n % 16 = n := by omega
  show stringFrom true .plain ('\\' :: 'u' :: '0' :: '0' :: Nat.digitChar (n / 16) ::
    Nat.digitChar (n % 16) :: cs) = _
  rw [stringFrom, if_neg (by decide), if_pos rfl, stringFrom, if_pos rfl,
    stringFrom_hex_cons _ (by decide) hzero, stringFrom_hex_cons _ (by decide) hzero,
    stringFrom_hex_cons _ (by decide) hhigh, stringFrom, hlow]
  dsimp only
  rw [hn, if_neg (by decide), if_neg (by decide), if_neg (by simp; omega), if_neg (by simp; omega)]

/-- **The three ways in which a character stands in a string**: as it is, behind a backslash by a
letter, or by its number. -/
theorem escapedChar_cases (c : Char) :
    (escapedChar c = [c] ∧ c ≠ '"' ∧ c ≠ '\\' ∧ 0x20 ≤ c.toNat) ∨
    (∃ d, escapedChar c = ['\\', d] ∧ d ≠ 'u' ∧ simpleEscape d = some c) ∨
    (escapedChar c = '\\' :: 'u' :: '0' :: '0' :: twoHex c.toNat ∧ c.toNat < 0x20) := by
  unfold escapedChar
  by_cases hquote : c = '"'
  · rw [if_pos hquote]
    exact .inr (.inl ⟨'"', rfl, by decide, by rw [hquote]; decide⟩)
  by_cases hslash : c = '\\'
  · rw [if_neg hquote, if_pos hslash]
    exact .inr (.inl ⟨'\\', rfl, by decide, by rw [hslash]; decide⟩)
  rw [if_neg hquote, if_neg hslash]
  by_cases hcontrol : 0x20 ≤ c.toNat
  · rw [if_pos hcontrol]
    exact .inl ⟨rfl, hquote, hslash, hcontrol⟩
  rw [if_neg hcontrol]
  right
  -- of the control characters five have a letter
  split
  · next h => exact .inl ⟨'n', rfl, by decide, by rw [h]; decide⟩
  · split
    · next h => exact .inl ⟨'r', rfl, by decide, by rw [h]; decide⟩
    · split
      · next h => exact .inl ⟨'t', rfl, by decide, by rw [h]; decide⟩
      · split
        · next h => exact .inl ⟨'b', rfl, by decide, by rw [h]; decide⟩
        · split
          · next h => exact .inl ⟨'f', rfl, by decide, by rw [h]; decide⟩
          · exact .inr ⟨rfl, Nat.lt_of_not_le hcontrol⟩

theorem stringFrom_escapedChar (c : Char) (cs : List Char) :
    stringFrom true .plain (escapedChar c ++ cs) = prepend c (stringFrom true .plain cs) := by
  rcases escapedChar_cases c with ⟨h, hquote, hslash, hc⟩ | ⟨d, h, hu, hd⟩ | ⟨h, hc⟩
  · rw [h]
    exact stringFrom_plain_cons true cs hquote hslash hc
  · rw [h]
    exact stringFrom_plain_escape true cs hu hd
  · rw [h]
    simpa using stringFrom_plain_hex hc cs

theorem stringFrom_flatMap (s : List Char) (rest : List Char) :
    stringFrom true .plain (s.flatMap escapedChar ++ '"' :: rest) = .ok (s, rest) := by
  induction s with
  | nil => rw [List.flatMap_nil, List.nil_append, stringFrom, if_pos rfl]
  | cons c s ih =>
    rw [List.flatMap_cons, List.append_assoc, stringFrom_escapedChar, ih]
    rfl

/-- **A string is read back from its text**, after its opening quote. Every character has one of
three forms there, and each is read as the character. -/
theorem readString_stringText (s : String) (rest : List Char) :
    readString (s.toList.flatMap escapedChar ++ '"' :: rest) = .ok (s, rest) := by
  unfold readString
  rw [stringFrom_flatMap]
  show Except.ok (String.ofList s.toList, rest) = _
  rw [String.ofList_toList]

end RestClient.Json
