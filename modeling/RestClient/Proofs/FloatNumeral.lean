import RestClient.Proofs.Literal
import RestClient.Proofs.Rounding

/-!
# Numerals with a point or an exponent

The reader of numerals takes digits into a significand as long as sixty-four bits hold it, and moves
the point for the others. What it takes is never more than what the digits stand for
(`takeDigits_spec`), so a numeral that stands for something within reach is read
(`numeral_scientific`), however many digits it has; and a numeral with a point and without an
exponent is always read (`numeral_pointed`), for the digits behind the point only make the exponent
smaller.
-/

namespace RestClient.Json

/-! ## Digits -/

theorem mul_pow_le_ofDigitChars (acc : Nat) (cs : List Char) :
    acc * 10 ^ cs.length ≤ Nat.ofDigitChars 10 cs acc := by
  rw [Nat.ofDigitChars_eq_ofDigitChars_zero, Nat.mul_comm]
  exact Nat.le_add_right _ _

theorem digitValue_le {c : Char} (h : isDigit c = true) : digitValue c ≤ 9 := by
  simp only [isDigit, Bool.and_eq_true, decide_eq_true_eq] at h
  have hhigh : c.toNat ≤ '9'.toNat := h.2
  have hnine : '9'.toNat = 57 := rfl
  have hzero : '0'.toNat = 48 := rfl
  unfold digitValue
  omega

theorem ofDigitChars_lt {cs : List Char} (h : ∀ c ∈ cs, isDigit c = true) (acc : Nat) :
    Nat.ofDigitChars 10 cs acc < (acc + 1) * 10 ^ cs.length := by
  induction cs generalizing acc with
  | nil => simp
  | cons c cs ih =>
    obtain ⟨hc, hcs⟩ := List.forall_mem_cons.mp h
    have hvalue : c.toNat - '0'.toNat ≤ 9 := digitValue_le hc
    rw [Nat.ofDigitChars_cons, List.length_cons, Nat.pow_succ]
    calc Nat.ofDigitChars 10 cs (10 * acc + (c.toNat - '0'.toNat))
        < (10 * acc + (c.toNat - '0'.toNat) + 1) * 10 ^ cs.length := ih hcs _
      _ ≤ 10 * (acc + 1) * 10 ^ cs.length := Nat.mul_le_mul_right _ (by omega)
      _ = (acc + 1) * (10 ^ cs.length * 10) := by ring

theorem takeDigits_cons {limit acc : Nat} {c : Char} (h : acc * 10 + digitValue c ≤ limit)
    (cs : List Char) : takeDigits limit acc (c :: cs)
      = ((takeDigits limit (acc * 10 + digitValue c) cs).1,
        (takeDigits limit (acc * 10 + digitValue c) cs).2.1 + 1,
        (takeDigits limit (acc * 10 + digitValue c) cs).2.2) := by
  rw [takeDigits]
  exact if_pos h

/-- **What is taken of digits**: it is within the limit, and it does not stand for more than the
digits do, so leaving digits out cannot make a number overflow. -/
theorem takeDigits_spec {limit acc : Nat} (hacc : acc ≤ limit) (cs : List Char) :
    (takeDigits limit acc cs).1 ≤ limit ∧
    (takeDigits limit acc cs).2.1 + (takeDigits limit acc cs).2.2.length = cs.length ∧
    (takeDigits limit acc cs).1 * 10 ^ (takeDigits limit acc cs).2.2.length
      ≤ Nat.ofDigitChars 10 cs acc := by
  induction cs generalizing acc with
  | nil => exact ⟨hacc, rfl, by simp [takeDigits]⟩
  | cons c cs ih =>
    have hnext : acc * 10 + digitValue c = 10 * acc + (c.toNat - '0'.toNat) := by
      rw [Nat.mul_comm]
      rfl
    rw [takeDigits]
    dsimp only
    split
    · next hle =>
      obtain ⟨hlimit, hlength, hvalue⟩ := ih hle
      refine ⟨hlimit, ?_, ?_⟩
      · show (takeDigits limit (acc * 10 + digitValue c) cs).2.1 + 1
          + (takeDigits limit (acc * 10 + digitValue c) cs).2.2.length = cs.length + 1
        omega
      · rw [Nat.ofDigitChars_cons, ← hnext]
        exact hvalue
    · exact ⟨hacc, Nat.zero_add _, mul_pow_le_ofDigitChars acc (c :: cs)⟩

/-! ## Behind the point -/

/-- An exponent is written with its sign. -/
def signedExponent (e : Int) : List Char :=
  (if e < 0 then '-' else '+') :: Nat.toDigits 10 e.natAbs

theorem exponentPart_signedExponent {e : Int} (he : e.natAbs ≤ maxExponent) (negative : Bool)
    (significand : Nat) (shift : Int) {rest : List Char} (hrest : EndsDigits rest) :
    exponentPart negative significand shift (signedExponent e ++ rest)
      = (scaled negative significand (shift + e)).map (·, rest) := by
  obtain ⟨htake, hdrop⟩ := hrest.span
    fun c (hc : c ∈ Nat.toDigits 10 e.natAbs) => isDigit_of_mem_toDigits hc
  have hfits := takeDigits_toDigits he
  have hne : Nat.toDigits 10 e.natAbs ≠ [] := Nat.toDigits_ne_nil
  by_cases hsign : e < 0
  · have hshift : shift - (e.natAbs : Int) = shift + e := by omega
    rw [signedExponent, if_pos hsign, List.cons_append, exponentPart]
    dsimp only
    rw [htake, hdrop]
    split
    · exact absurd ‹_› hne
    · simp only [hfits, List.isEmpty_nil, if_true]
      rw [hshift]
  · have hshift : shift + (e.natAbs : Int) = shift + e := by omega
    rw [signedExponent, if_neg hsign, List.cons_append, exponentPart]
    dsimp only
    rw [htake, hdrop]
    split
    · exact absurd ‹_› hne
    · simp only [hfits, List.isEmpty_nil, if_true, Bool.false_eq_true, if_false]
      rw [hshift]

/-- What follows a fraction: an exponent, or nothing of the numeral. -/
theorem fractionPart_of_digits {ds : List Char} (hne : ds ≠ []) (hds : ∀ c ∈ ds, isDigit c = true)
    (negative : Bool) (significand : Nat) (shift : Int) {rest : List Char}
    (hrest : EndsNumeral rest) :
    fractionPart negative significand shift (ds ++ rest)
      = (scaled negative (takeDigits maxSignificand significand ds).1
          (shift - (takeDigits maxSignificand significand ds).2.1)).map (·, rest) := by
  obtain ⟨htake, hdrop⟩ := hrest.endsDigits.span hds
  unfold fractionPart
  dsimp only
  rw [htake, hdrop]
  split
  · exact absurd rfl hne
  · split
    · exact absurd rfl (hrest _ _ rfl).2.2.1
    · exact absurd rfl (hrest _ _ rfl).2.2.2
    · rfl

theorem fractionPart_of_exponent {ds : List Char} (hne : ds ≠ [])
    (hds : ∀ c ∈ ds, isDigit c = true) (negative : Bool) (significand : Nat) (shift : Int)
    (rest : List Char) :
    fractionPart negative significand shift (ds ++ 'e' :: rest)
      = exponentPart negative (takeDigits maxSignificand significand ds).1
          (shift - (takeDigits maxSignificand significand ds).2.1) rest := by
  obtain ⟨htake, hdrop⟩ := (endsDigits_cons (c := 'e') (by decide) rest).span hds
  unfold fractionPart
  dsimp only
  rw [htake, hdrop]
  split
  · exact absurd rfl hne
  · rfl

/-! ## Whole numerals -/

/-- **A text is a numeral**, and what it is read as does not depend on what follows. Which number
that is is left open. -/
structure IsNumeral (negative : Bool) (cs : List Char) : Prop where
  front : ∃ c r, cs = c :: r ∧ isDigit c = true
  reads : ∃ m, ∀ rest, EndsNumeral rest → numeral negative (cs ++ rest) = .ok (m, rest)

theorem IsWholeText.front_append {cs : List Char} (h : IsWholeText cs) (rest : List Char) :
    ∃ c r, cs ++ rest = c :: r ∧ isDigit c = true := by
  obtain ⟨c, r, rfl, -⟩ := h.front
  exact ⟨c, r ++ rest, rfl, h.digits c List.mem_cons_self⟩

theorem maxSignificand_le_reach : (maxSignificand : ℚ) ≤ reach := by
  have hmax : (maxSignificand : ℚ) = 18446744073709551615 := rfl
  have hpow : (2 : ℚ) ^ (53 : ℤ) ≤ 2 ^ (971 : ℤ) := zpow_le_zpow_right₀ (by norm_num) (by norm_num)
  calc (maxSignificand : ℚ) ≤ (2 ^ 53 - 7 / 2) * 2 ^ (53 : ℤ) := by
        rw [hmax]
        norm_num
    _ ≤ reach := mul_le_mul_of_nonneg_left hpow (by norm_num)

/-- **A numeral with a point** and no exponent is read, as the digits in front of the point are few
enough to be within reach. -/
theorem numeral_pointed {whole fraction : List Char} (hwhole : IsWholeText whole)
    (hlength : whole.length ≤ 16) (hne : fraction ≠ [])
    (hfraction : ∀ c ∈ fraction, isDigit c = true) (negative : Bool) :
    IsNumeral negative (whole ++ '.' :: fraction) := by
  have hvalue : Nat.ofDigitChars 10 whole 0 ≤ maxSignificand := by
    have hlt := ofDigitChars_lt hwhole.digits 0
    have hpow : 10 ^ whole.length ≤ 10 ^ 16 := Nat.pow_le_pow_right (by norm_num) hlength
    have hmax : maxSignificand = 18446744073709551615 := rfl
    omega
  have htaken := takeDigits_of_le 0 whole hvalue
  obtain ⟨hlimit, -⟩ := takeDigits_spec hvalue fraction
  have hreach : ((takeDigits maxSignificand (Nat.ofDigitChars 10 whole 0) fraction).1 : ℚ)
      * 10 ^ (0 - ((takeDigits maxSignificand (Nat.ofDigitChars 10 whole 0) fraction).2.1 : Int))
      ≤ reach := by
    have hsignificand : ((takeDigits maxSignificand (Nat.ofDigitChars 10 whole 0) fraction).1 : ℚ)
        ≤ maxSignificand := by exact_mod_cast hlimit
    refine (mul_le_of_le_one_right (by positivity) ?_).trans
      (hsignificand.trans maxSignificand_le_reach)
    exact zpow_le_one_of_nonpos₀ (by norm_num) (by omega)
  obtain ⟨m, hm⟩ := exists_scaled_eq_ok negative hreach
  refine ⟨hwhole.front_append _, m, fun rest hrest => ?_⟩
  have hpoint : EndsDigits ('.' :: (fraction ++ rest)) := endsDigits_cons (by decide) _
  rw [List.append_assoc, List.cons_append, numeral_of_isWholeText hwhole hpoint, htaken]
  show fractionPart negative _ _ (fraction ++ rest) = _
  rw [fractionPart_of_digits hne hfraction negative _ _ hrest]
  show (scaled negative _ (0 - _)).map _ = _
  rw [hm]
  rfl

/-- What is taken of digits, and how often ten goes into what they stand for with it. -/
theorem takeDigits_mul_le {ds : List Char} (point : Int) :
    ((takeDigits maxSignificand 0 ds).1 : ℚ)
        * 10 ^ (point - (takeDigits maxSignificand 0 ds).2.1)
      ≤ Nat.ofDigitChars 10 ds 0 * 10 ^ (point - ds.length) := by
  obtain ⟨-, hlength, hvalue⟩ := takeDigits_spec (Nat.zero_le maxSignificand) ds
  have hexponent : point - (takeDigits maxSignificand 0 ds).2.1
      = ((takeDigits maxSignificand 0 ds).2.2.length : Int) + (point - ds.length) := by omega
  rw [hexponent, zpow_add₀ (by norm_num), zpow_natCast, ← mul_assoc]
  have hvalue' : ((takeDigits maxSignificand 0 ds).1 : ℚ)
      * 10 ^ (takeDigits maxSignificand 0 ds).2.2.length ≤ Nat.ofDigitChars 10 ds 0 := by
    exact_mod_cast hvalue
  gcongr

theorem scientific_append {c : Char} {r : List Char} (point : Int) (rest : List Char) :
    FloatLayout.scientific true (c :: r) point ++ rest
      = [c] ++ ((if r = [] then [] else '.' :: r) ++
          'e' :: (signedExponent (point - 1) ++ rest)) := by
  unfold FloatLayout.scientific signedExponent
  by_cases hsign : point - 1 < 0 <;> cases r <;> simp [hsign]

/-- **The text of digits with an exponent**: the point stands behind the first digit, and the reader
comes to the same significand and power of ten as if it stood behind the last that it takes. -/
theorem numeral_scientific {c : Char} {r : List Char} (hds : ∀ d ∈ c :: r, isDigit d = true)
    {point : Int} (hpoint : (point - 1).natAbs ≤ maxExponent) (negative : Bool) {rest : List Char}
    (hrest : EndsNumeral rest) :
    numeral negative (FloatLayout.scientific true (c :: r) point ++ rest)
      = (scaled negative (takeDigits maxSignificand 0 (c :: r)).1
          (point - (takeDigits maxSignificand 0 (c :: r)).2.1)).map (·, rest) := by
  obtain ⟨hc, hr⟩ := List.forall_mem_cons.mp hds
  have hfirst : IsWholeText [c] := ⟨by simpa using hc, c, [], rfl, fun _ => rfl⟩
  have hfits : 0 * 10 + digitValue c ≤ maxSignificand := by
    have hdigit := digitValue_le hc
    have hmax : maxSignificand = 18446744073709551615 := rfl
    omega
  rw [scientific_append, takeDigits_cons hfits]
  by_cases hnil : r = []
  · subst hnil
    rw [if_pos rfl, List.nil_append,
      numeral_of_isWholeText hfirst (endsDigits_cons (by decide) _), takeDigits_cons hfits]
    show exponentPart negative (0 * 10 + digitValue c) 0 _ = _
    rw [exponentPart_signedExponent hpoint _ _ _ hrest.endsDigits]
    have hexponent : 0 + (point - 1) = point - ((0 + 1 : Nat) : Int) := by omega
    rw [hexponent]
    rfl
  · rw [if_neg hnil]
    show numeral negative ([c] ++ '.' :: (r ++ _)) = _
    rw [numeral_of_isWholeText hfirst (endsDigits_cons (by decide) _), takeDigits_cons hfits]
    show fractionPart negative (0 * 10 + digitValue c) 0 (r ++ _) = _
    rw [fractionPart_of_exponent hnil hr, exponentPart_signedExponent hpoint _ _ _ hrest.endsDigits]
    dsimp only
    generalize takeDigits maxSignificand (0 * 10 + digitValue c) r = taken
    have hexponent : 0 - (taken.2.1 : Int) + (point - 1)
        = point - ((taken.2.1 + 1 : Nat) : Int) := by
      omega
    rw [hexponent]

end RestClient.Json
