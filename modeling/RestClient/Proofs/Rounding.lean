import Mathlib.Algebra.Order.Field.Power
import Mathlib.Data.Nat.Cast.Order.Field
import Mathlib.Tactic.FieldSimp
import Mathlib.Tactic.GCongr
import Mathlib.Tactic.Linarith
import Mathlib.Tactic.NormNum
import Mathlib.Tactic.Positivity
import Mathlib.Tactic.Ring
import RestClient.Json.Numeral

/-!
# How far rounding goes

All arithmetic on floating-point numbers is exact arithmetic and one rounding. Here the exact part
is that of rational numbers: a fraction of natural numbers is its quotient (`quotient`), and a
finite number is its significand times a power of two (`value`).

Rounding takes the grid that belongs to the greatest power of two in the quotient
(`binaryExponent_spec`), goes to a neighbour on it, and so moves by half a step of the grid at most.
Two things follow. What does not exceed the greatest finite number is rounded to a finite one
(`isFinite_nearest`), and a whole number grows by no more than its part in `2 ^ 53`
(`value_ofNat_le`). Together they say that reading a numeral with an exponent does not overflow, if
what it stands for keeps a small distance from the greatest number (`exists_scaled_eq_ok`).
-/

namespace RestClient.Binary64

/-! ## Fractions as quotients -/

/-- The quotient of a fraction. -/
def quotient (p : Nat × Nat) : ℚ := p.1 / p.2

theorem powTwo_pos (e : Int) : 0 < (powTwo e).1 ∧ 0 < (powTwo e).2 := by
  cases e <;> simp [powTwo]

theorem quotient_powTwo (e : Int) : quotient (powTwo e) = 2 ^ e := by
  cases e <;> simp [quotient, powTwo]

/-- Multiples of fractions are compared by their cross products. -/
theorem mul_quotient_le_iff {a c : Nat} {p r : Nat × Nat} (hp : 0 < p.2) (hr : 0 < r.2) :
    a * p.1 * r.2 ≤ c * r.1 * p.2 ↔ a * quotient p ≤ c * quotient r := by
  have hp' : (0 : ℚ) < p.2 := by exact_mod_cast hp
  have hr' : (0 : ℚ) < r.2 := by exact_mod_cast hr
  rw [quotient, quotient, ← mul_div_assoc, ← mul_div_assoc, div_le_div_iff₀ hp' hr']
  exact_mod_cast Iff.rfl

theorem quotient_le_iff {p r : Nat × Nat} (hp : 0 < p.2) (hr : 0 < r.2) :
    p.1 * r.2 ≤ r.1 * p.2 ↔ quotient p ≤ quotient r := by
  simpa using mul_quotient_le_iff (a := 1) (c := 1) hp hr

/-! ## The grid -/

variable {num den : Nat}

/-- **The binary exponent is that of the greatest power of two in a quotient.** The logarithms of
the two parts give it up to one, and a comparison decides. -/
theorem binaryExponent_spec (hnum : 0 < num) (hden : 0 < den) :
    2 ^ binaryExponent num den ≤ quotient (num, den) ∧
    quotient (num, den) < 2 ^ (binaryExponent num den + 1) := by
  have hden' : (0 : ℚ) < den := by exact_mod_cast hden
  have hnumLow : (2 : ℚ) ^ (num.log2 : ℤ) ≤ num := by
    exact_mod_cast Nat.log2_self_le hnum.ne'
  have hnumHigh : (num : ℚ) < 2 ^ ((num.log2 : ℤ) + 1) := by
    exact_mod_cast Nat.lt_log2_self (n := num)
  have hdenLow : (2 : ℚ) ^ (den.log2 : ℤ) ≤ den := by
    exact_mod_cast Nat.log2_self_le hden.ne'
  have hdenHigh : (den : ℚ) < 2 ^ ((den.log2 : ℤ) + 1) := by
    exact_mod_cast Nat.lt_log2_self (n := den)
  unfold binaryExponent
  dsimp only
  have hcross := quotient_le_iff (p := powTwo ((num.log2 : ℤ) - den.log2)) (r := (num, den))
    (powTwo_pos _).2 hden
  rw [quotient_powTwo] at hcross
  split
  · next h =>
    refine ⟨hcross.mp h, ?_⟩
    rw [quotient, div_lt_iff₀ hden']
    calc (num : ℚ) < 2 ^ ((num.log2 : ℤ) + 1) := hnumHigh
      _ = 2 ^ ((num.log2 : ℤ) - den.log2 + 1) * 2 ^ (den.log2 : ℤ) := by
        rw [← zpow_add₀ (by norm_num)]
        congr 1
        ring
      _ ≤ 2 ^ ((num.log2 : ℤ) - den.log2 + 1) * den := by gcongr
  · next h =>
    rw [sub_add_cancel]
    refine ⟨?_, lt_of_not_ge (mt hcross.mpr h)⟩
    rw [quotient, le_div_iff₀ hden']
    calc (2 : ℚ) ^ ((num.log2 : ℤ) - den.log2 - 1) * den
        ≤ 2 ^ ((num.log2 : ℤ) - den.log2 - 1) * 2 ^ ((den.log2 : ℤ) + 1) := by gcongr
      _ = 2 ^ (num.log2 : ℤ) := by
        rw [← zpow_add₀ (by norm_num)]
        congr 1
        ring
      _ ≤ num := hnumLow

/-! ## One rounding -/

/-- A whole number that a quotient does not exceed is not exceeded after rounding. -/
theorem roundedQuotient_le {bound : Nat} (hden : 0 < den) (h : quotient (num, den) ≤ bound) :
    roundedQuotient num den ≤ bound := by
  have hden' : (0 : ℚ) < den := by exact_mod_cast hden
  rw [quotient, div_le_iff₀ hden'] at h
  have hnat : num ≤ den * bound := by
    rw [Nat.mul_comm]
    exact_mod_cast h
  have hdiv : num / den ≤ bound := Nat.div_le_of_le_mul hnat
  unfold roundedQuotient
  dsimp only
  rcases Nat.lt_or_eq_of_le hdiv with hlt | heq
  · repeat' split
    all_goals omega
  · -- at the bound itself nothing is left over
    have hrest : num % den = 0 := by
      have hsum := Nat.div_add_mod num den
      rw [heq] at hsum
      omega
    rw [hrest, if_pos (by omega)]
    exact hdiv

theorem le_roundedQuotient {bound : Nat} (hden : 0 < den) (h : bound ≤ quotient (num, den)) :
    bound ≤ roundedQuotient num den := by
  have hden' : (0 : ℚ) < den := by exact_mod_cast hden
  rw [quotient, le_div_iff₀ hden'] at h
  have hdiv : bound ≤ num / den := (Nat.le_div_iff_mul_le hden).mpr (by exact_mod_cast h)
  unfold roundedQuotient
  dsimp only
  repeat' split
  all_goals omega

/-- **Rounding goes up by half at most**, and this half is all that the bounds below need to know of
it. -/
theorem roundedQuotient_le_add (hden : 0 < den) :
    (roundedQuotient num den : ℚ) ≤ quotient (num, den) + 1 / 2 := by
  have hnat : 2 * (roundedQuotient num den * den) ≤ 2 * num + den := by
    have hsum := Nat.div_add_mod num den
    rw [Nat.mul_comm] at hsum
    unfold roundedQuotient
    dsimp only
    repeat' split
    all_goals
      try rw [Nat.add_mul]
      omega
  have hrat : 2 * ((roundedQuotient num den : ℚ) * den) ≤ 2 * num + den := by exact_mod_cast hnat
  have hden' : (0 : ℚ) < den := by exact_mod_cast hden
  have hsum : quotient (num, den) + 1 / 2 = (2 * num + den) / (2 * den) := by
    rw [quotient]
    field_simp
  rw [hsum, le_div_iff₀ (by positivity)]
  linarith

/-- The exponent of the grid on which a quotient is rounded. -/
def gridExponent (num den : Nat) : Int := max (binaryExponent num den - 52) (-1074)

/-- The point of the grid to which a quotient is rounded, counted in steps. -/
def gridPoint (num den : Nat) : Nat :=
  let p := powTwo (gridExponent num den)
  roundedQuotient (num * p.2) (den * p.1)

/-- The sixty-three bits of a point of a grid. -/
def pointBits (point : Nat) (exponent : Int) : Nat :=
  if point < Nat.pow 2 52 then point
  else (exponent + 1075).toNat * Nat.pow 2 52 + (point - Nat.pow 2 52)

theorem nearest_eq (neg : Bool) (hnum : num ≠ 0) : nearest neg num den
    = if infinityBits ≤ pointBits (gridPoint num den) (gridExponent num den) then infinity neg
      else ofFields neg (pointBits (gridPoint num den) (gridExponent num den)) :=
  if_neg hnum

theorem quotient_mul_powTwo (hden : 0 < den) (e : Int) :
    quotient (num * (powTwo e).2, den * (powTwo e).1) = quotient (num, den) / 2 ^ e := by
  obtain ⟨hp, hp'⟩ := powTwo_pos e
  have hden' : (den : ℚ) ≠ 0 := by exact_mod_cast hden.ne'
  rw [← quotient_powTwo]
  simp only [quotient]
  push_cast
  field_simp

section

variable (hden : 0 < den)

include hden

/-- A bound on the quotient in steps of the grid is a bound on the point. -/
theorem gridPoint_le {bound : Nat} (h : quotient (num, den) ≤ bound * 2 ^ gridExponent num den) :
    gridPoint num den ≤ bound := by
  refine roundedQuotient_le (Nat.mul_pos hden (powTwo_pos _).1) ?_
  rw [quotient_mul_powTwo hden]
  exact (div_le_iff₀ (by positivity)).mpr h

theorem le_gridPoint {bound : Nat} (h : bound * 2 ^ gridExponent num den ≤ quotient (num, den)) :
    bound ≤ gridPoint num den := by
  refine le_roundedQuotient (Nat.mul_pos hden (powTwo_pos _).1) ?_
  rw [quotient_mul_powTwo hden]
  exact (le_div_iff₀ (by positivity)).mpr h

/-- A point is above its quotient by half a step at most. -/
theorem gridPoint_le_add :
    (gridPoint num den : ℚ) ≤ quotient (num, den) / 2 ^ gridExponent num den + 1 / 2 := by
  rw [← quotient_mul_powTwo hden]
  exact roundedQuotient_le_add (Nat.mul_pos hden (powTwo_pos _).1)

end

/-! ## Bits -/

theorem pow_11 : Nat.pow 2 11 = 2048 := rfl
theorem pow_52 : Nat.pow 2 52 = 4503599627370496 := rfl
theorem pow_53 : Nat.pow 2 53 = 9007199254740992 := rfl
theorem pow_63 : Nat.pow 2 63 = 9223372036854775808 := rfl
theorem infinityBits_eq : infinityBits = 9218868437227405312 := rfl

theorem toNat_bits_ofFields (neg : Bool) {m : Nat} (h : m < infinityBits) :
    (ofFields neg m).bits.toNat = (if neg then Nat.pow 2 63 else 0) + m := by
  rw [infinityBits_eq] at h
  rw [ofFields, UInt64.toNat_ofNat', Nat.mod_eq_of_lt]
  rw [pow_63]
  split <;> omega

section

variable (neg : Bool) {m : Nat} (h : m < infinityBits)

include h

theorem exponentField_ofFields : (ofFields neg m).exponentField = m / Nat.pow 2 52 := by
  rw [exponentField, toNat_bits_ofFields neg h]
  rw [infinityBits_eq] at h
  rw [pow_63, pow_52, pow_11]
  split <;> omega

theorem fractionField_ofFields : (ofFields neg m).fractionField = m % Nat.pow 2 52 := by
  rw [fractionField, toNat_bits_ofFields neg h]
  rw [pow_63, pow_52]
  split <;> omega

theorem isFinite_ofFields : (ofFields neg m).isFinite = true := by
  rw [isFinite, exponentField_ofFields neg h, bne_iff_ne, pow_52]
  rw [infinityBits_eq] at h
  omega

end

/-- **The magnitude of a finite number**, as a rational number. Signs play no part in how numbers
are rounded. -/
def value (x : Binary64) : ℚ := x.significand * 2 ^ x.scale

theorem quotient_ratio (x : Binary64) : quotient x.ratio = x.value := by
  rw [value, ← quotient_powTwo]
  simp only [quotient, ratio]
  push_cast
  ring

/-- The bits of a point stand for the point. -/
theorem value_ofFields_pointBits (neg : Bool) {point : Nat} {exponent : Int}
    (hlow : Nat.pow 2 52 ≤ point) (hhigh : point ≤ Nat.pow 2 53) (hexponent : -1074 ≤ exponent)
    (hbits : pointBits point exponent < infinityBits) :
    (ofFields neg (pointBits point exponent)).value = point * 2 ^ exponent := by
  have hfields : pointBits point exponent
      = (exponent + 1075).toNat * Nat.pow 2 52 + (point - Nat.pow 2 52) :=
    if_neg (Nat.not_lt.mpr hlow)
  unfold value significand scale
  rw [exponentField_ofFields neg hbits, fractionField_ofFields neg hbits, hfields]
  rw [pow_52] at *
  rw [pow_53] at hhigh
  rcases Nat.lt_or_eq_of_le hhigh with hlt | heq
  · have hexp : ((exponent + 1075).toNat * 4503599627370496 + (point - 4503599627370496))
        / 4503599627370496 = (exponent + 1075).toNat := by omega
    have hfrac : 4503599627370496 + ((exponent + 1075).toNat * 4503599627370496
        + (point - 4503599627370496)) % 4503599627370496 = point := by omega
    have hscale : ((max (exponent + 1075).toNat 1 : Nat) : Int) - 1075 = exponent := by omega
    rw [hexp, if_neg (by omega), hfrac, hscale]
  · -- the point is the first one of the next grid
    have hexp : ((exponent + 1075).toNat * 4503599627370496 + (point - 4503599627370496))
        / 4503599627370496 = (exponent + 1076).toNat := by omega
    have hfrac : ((exponent + 1075).toNat * 4503599627370496
        + (point - 4503599627370496)) % 4503599627370496 = 0 := by omega
    have hscale : ((max (exponent + 1076).toNat 1 : Nat) : Int) - 1075 = exponent + 1 := by omega
    rw [hexp, if_neg (by omega), hfrac, hscale, heq, zpow_add_one₀ (by norm_num)]
    push_cast
    ring

/-! ## What stays finite -/

/-- The greatest finite number. -/
def greatest : ℚ := (2 ^ 53 - 1) * 2 ^ (971 : ℤ)

theorem greatest_lt : greatest < 2 ^ (1024 : ℤ) := by
  have hsplit : (2 : ℚ) ^ (1024 : ℤ) = 2 ^ 53 * 2 ^ (971 : ℤ) := by
    rw [← zpow_natCast, ← zpow_add₀ (by norm_num)]
    norm_num
  rw [hsplit, greatest]
  have hpos : (0 : ℚ) < 2 ^ (971 : ℤ) := by positivity
  gcongr
  norm_num

theorem gridExponent_le (hnum : 0 < num) (hden : 0 < den)
    (h : quotient (num, den) ≤ greatest) : gridExponent num den ≤ 971 := by
  have hpow : (2 : ℚ) ^ binaryExponent num den < 2 ^ (1024 : ℤ) :=
    ((binaryExponent_spec hnum hden).1.trans h).trans_lt greatest_lt
  have hlt : binaryExponent num den < 1024 := (zpow_lt_zpow_iff_right₀ (by norm_num)).mp hpow
  unfold gridExponent
  omega

/-- Fifty-three bits are enough for a point. -/
theorem gridPoint_le_pow (hnum : 0 < num) (hden : 0 < den) : gridPoint num den ≤ Nat.pow 2 53 := by
  refine gridPoint_le hden ((binaryExponent_spec hnum hden).2.le.trans ?_)
  have hexponent : binaryExponent num den + 1 ≤ 53 + gridExponent num den := by
    unfold gridExponent
    omega
  calc (2 : ℚ) ^ (binaryExponent num den + 1) ≤ 2 ^ (53 + gridExponent num den) :=
        zpow_le_zpow_right₀ (by norm_num) hexponent
    _ = ((Nat.pow 2 53 : ℕ) : ℚ) * 2 ^ gridExponent num den := by
        rw [zpow_add₀ (by norm_num), pow_53]
        norm_num

theorem pointBits_lt (hnum : 0 < num) (hden : 0 < den) (h : quotient (num, den) ≤ greatest) :
    pointBits (gridPoint num den) (gridExponent num den) < infinityBits := by
  have hpoint := gridPoint_le_pow hnum hden
  rw [pow_53] at hpoint
  unfold pointBits
  rw [infinityBits_eq, pow_52]
  rcases Int.lt_or_eq_of_le (gridExponent_le hnum hden h) with hlt | heq
  · split <;> omega
  · -- on the greatest grid the greatest number bounds the point
    have hbound : gridPoint num den ≤ 9007199254740991 := by
      refine gridPoint_le hden (h.trans_eq ?_)
      rw [heq, greatest]
      norm_num
    rw [heq]
    split <;> omega

/-- **What does not exceed the greatest finite number is rounded to a finite number.** That number
is a point of its grid, and rounding does not go past a point. -/
theorem isFinite_nearest (neg : Bool) (hden : 0 < den) (h : quotient (num, den) ≤ greatest) :
    (nearest neg num den).isFinite = true := by
  by_cases hnum : num = 0
  · unfold nearest
    rw [if_pos hnum]
    exact isFinite_ofFields neg (by decide)
  · have hbits := pointBits_lt (Nat.pos_of_ne_zero hnum) hden h
    rw [nearest_eq neg hnum, if_neg (Nat.not_le.mpr hbits)]
    exact isFinite_ofFields neg hbits

/-- **What is a point of its grid already is not rounded**, if the grid is not that of the least
exponent. A product of few bits with a power of two is such a point. -/
theorem value_nearest (neg : Bool) (hnum : 0 < num) (hden : 0 < den)
    (hnormal : -1022 ≤ binaryExponent num den) (hgreatest : quotient (num, den) ≤ greatest)
    {point : Nat} (h : quotient (num, den) = point * 2 ^ gridExponent num den) :
    (nearest neg num den).value = quotient (num, den) := by
  have hpoint : gridPoint num den = point :=
    Nat.le_antisymm (gridPoint_le hden h.le) (le_gridPoint hden h.ge)
  have hgrid : gridExponent num den = binaryExponent num den - 52 := by
    unfold gridExponent
    omega
  have hlow : Nat.pow 2 52 ≤ gridPoint num den := by
    refine le_gridPoint hden ((binaryExponent_spec hnum hden).1.trans' (le_of_eq ?_))
    rw [hgrid, zpow_sub₀ (by norm_num), pow_52]
    norm_num
    ring
  have hbits := pointBits_lt hnum hden hgreatest
  rw [nearest_eq neg hnum.ne', if_neg (Nat.not_le.mpr hbits),
    value_ofFields_pointBits neg hlow (gridPoint_le_pow hnum hden) (by omega) hbits, hpoint, h]

/-- **A whole number grows by its part in `2 ^ 53` at most** when it is rounded, for half a step of
its grid is no more than that. -/
theorem value_ofNat_le {n : Nat} (h : (n : ℚ) ≤ greatest) :
    (ofNat n).value ≤ n * (1 + 1 / 2 ^ 53) := by
  by_cases hn : n = 0
  · have hzero : (ofNat n).significand = 0 := by rw [hn]; rfl
    rw [value, hzero, hn]
    norm_num
  have hpos : 0 < n := Nat.pos_of_ne_zero hn
  have hquotient : quotient (n, 1) = n := by simp [quotient]
  have hbits := pointBits_lt hpos Nat.one_pos (hquotient.trans_le h)
  obtain ⟨hlow, hhigh⟩ := binaryExponent_spec hpos Nat.one_pos
  rw [hquotient] at hlow hhigh
  have hexponent : gridExponent n 1 = binaryExponent n 1 - 52 := by
    have hone : (2 : ℚ) ^ (0 : ℤ) < 2 ^ (binaryExponent n 1 + 1) :=
      lt_of_le_of_lt (by rw [zpow_zero]; exact_mod_cast hpos) hhigh
    have hnonneg := (zpow_lt_zpow_iff_right₀ (by norm_num)).mp hone
    unfold gridExponent
    omega
  have hstep : (2 : ℚ) ^ 52 * 2 ^ gridExponent n 1 ≤ n := by
    refine Eq.trans_le ?_ hlow
    rw [← zpow_natCast, ← zpow_add₀ (by norm_num), hexponent]
    congr 1
    norm_num
  have hpoint : Nat.pow 2 52 ≤ gridPoint n 1 := by
    refine le_gridPoint Nat.one_pos ?_
    rw [hquotient]
    refine Eq.trans_le ?_ hstep
    rw [pow_52]
    norm_num
  have hround : (gridPoint n 1 : ℚ) ≤ quotient (n, 1) / 2 ^ gridExponent n 1 + 1 / 2 :=
    gridPoint_le_add Nat.one_pos
  rw [hquotient] at hround
  have hpow : (0 : ℚ) < 2 ^ gridExponent n 1 := by positivity
  unfold ofNat
  rw [nearest_eq false hn, if_neg (Nat.not_le.mpr hbits),
    value_ofFields_pointBits false hpoint (gridPoint_le_pow hpos Nat.one_pos) (by
      unfold gridExponent; omega) hbits]
  calc (gridPoint n 1 : ℚ) * 2 ^ gridExponent n 1
      ≤ (n / 2 ^ gridExponent n 1 + 1 / 2) * 2 ^ gridExponent n 1 := by gcongr
    _ = n + 2 ^ 52 * 2 ^ gridExponent n 1 / 2 ^ 53 := by
      rw [add_mul, div_mul_cancel₀ _ hpow.ne']
      ring
    _ ≤ n + n / 2 ^ 53 := by gcongr
    _ = n * (1 + 1 / 2 ^ 53) := by ring

theorem ratio_pos (x : Binary64) : 0 < x.ratio.2 := (powTwo_pos x.scale).2

theorem isFinite_mul {x y : Binary64} (h : x.value * y.value ≤ greatest) :
    (x.mul y).isFinite = true := by
  refine isFinite_nearest _ (Nat.mul_pos (ratio_pos x) (ratio_pos y)) ?_
  rw [← quotient_ratio, ← quotient_ratio] at h
  refine Eq.trans_le ?_ h
  simp only [quotient]
  push_cast
  rw [div_mul_div_comm]

end RestClient.Binary64

namespace RestClient.Json

open Binary64

/-- What is this far from the greatest finite number can be rounded three times. -/
def reach : ℚ := (2 ^ 53 - 7 / 2) * 2 ^ (971 : ℤ)

theorem reach_mul_le : reach * (1 + 1 / 2 ^ 53) ^ 2 ≤ greatest := by
  have hpos : (0 : ℚ) < 2 ^ (971 : ℤ) := by positivity
  rw [reach, greatest, mul_right_comm]
  gcongr
  norm_num

theorem reach_le : reach ≤ greatest := by
  have hpos : (0 : ℚ) < 2 ^ (971 : ℤ) := by positivity
  rw [reach, greatest]
  gcongr
  norm_num

theorem greatest_lt_pow : greatest < 10 ^ 309 := by
  have hnat : 2 ^ 1024 ≤ 10 ^ 309 := by decide +kernel
  calc greatest < 2 ^ (1024 : ℤ) := greatest_lt
    _ ≤ 10 ^ 309 := by exact_mod_cast hnat

theorem pow_le_greatest {n : Nat} (h : n ≤ 308) : (10 : ℚ) ^ n ≤ greatest := by
  have hnat : 10 ^ 308 ≤ 9007199254740991 * 2 ^ 971 := by decide +kernel
  have hcast : ((10 ^ 308 : ℕ) : ℚ) ≤ ((9007199254740991 * 2 ^ 971 : ℕ) : ℚ) :=
    Nat.cast_le.mpr hnat
  rw [Nat.cast_mul, Nat.cast_pow, Nat.cast_pow, Nat.cast_ofNat, Nat.cast_ofNat,
    Nat.cast_ofNat] at hcast
  have hgreatest : (9007199254740991 : ℚ) * 2 ^ 971 = greatest := by
    rw [greatest, zpow_ofNat]
    norm_num
  exact (pow_le_pow_right₀ (by norm_num) h).trans (hcast.trans_eq hgreatest)

/-- **What a numeral stands for is a finite number**, if it is within reach: each of the roundings
on the way to it may go up by a part in `2 ^ 53`, and there is room for all of them. -/
theorem exists_scaled_eq_ok (negative : Bool) {significand : Nat} {exponent : Int}
    (h : (significand : ℚ) * 10 ^ exponent ≤ reach) :
    ∃ m, scaled negative significand exponent = .ok m := by
  cases exponent with
  | negSucc n => exact ⟨_, rfl⟩
  | ofNat n =>
    rw [Int.ofNat_eq_natCast, zpow_natCast] at h
    have hpow : (1 : ℚ) ≤ 10 ^ n := one_le_pow₀ (by norm_num)
    unfold scaled
    dsimp only
    split
    · next hn =>
      have hsignificand : (significand : ℚ) ≤ greatest :=
        (le_mul_of_one_le_right (by positivity) hpow).trans (h.trans reach_le)
      have hleft := value_ofNat_le hsignificand
      have hright := value_ofNat_le (n := Nat.pow 10 n) (by exact_mod_cast pow_le_greatest hn)
      have hfinite : ((ofNat significand).mul (powerOfTen n)).isFinite = true := by
        refine isFinite_mul ?_
        calc (ofNat significand).value * (powerOfTen n).value
            ≤ significand * (1 + 1 / 2 ^ 53) * (10 ^ n * (1 + 1 / 2 ^ 53)) := by
              refine mul_le_mul hleft (by exact_mod_cast hright) ?_ (by positivity)
              unfold Binary64.value
              positivity
          _ = significand * 10 ^ n * (1 + 1 / 2 ^ 53) ^ 2 := by ring
          _ ≤ reach * (1 + 1 / 2 ^ 53) ^ 2 := by gcongr
          _ ≤ greatest := reach_mul_le
      rw [if_pos hfinite]
      exact ⟨_, rfl⟩
    · next hn =>
      -- only nothing is within reach with such an exponent
      have hzero : significand = 0 := by
        by_contra hne
        have hone : (1 : ℚ) ≤ significand := by exact_mod_cast Nat.one_le_iff_ne_zero.mpr hne
        have hhigh : (10 : ℚ) ^ 309 ≤ 10 ^ n := pow_le_pow_right₀ (by norm_num) (by omega)
        have hreach : (10 : ℚ) ^ n ≤ greatest :=
          (le_mul_of_one_le_left (by positivity) hone).trans (h.trans reach_le)
        exact absurd (hhigh.trans hreach) (not_le.mpr greatest_lt_pow)
      subst hzero
      exact ⟨_, rfl⟩

end RestClient.Json
