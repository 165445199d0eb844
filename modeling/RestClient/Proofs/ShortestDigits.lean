import RestClient.Number.Shortest
import RestClient.Proofs.Rounding

/-!
# The digits of a number are found

The search for the digits of a number goes through grids of decimals, from one that is not above the
number down to one that is finer by seventeen digits, and takes the first point that reads back. On
the last grid there is one: the neighbour below is closer to the number than a quarter of the gap
between numbers, since `10 ^ 17` exceeds `2 ^ 56`. So there are always digits (`shortest_spec`),
they do not stand for nothing, and what they stand for is above the number by half a gap at most
(`value_shortest_le`).

All of this is said of the interval that rounds to the number. It needs a bound on the significand
and on the exponents (`RoundingInterval.Bounded`), which are those of sixty-four bits; numbers of
thirty-two bits stay far within them, so both widths have digits for the same reasons.

That the first grid is not above the number is a statement about logarithms: `0.30103` is slightly
more than the one of two to base ten, and over the exponents that there are the difference does not
add up to the two powers that are taken off (`startExponent_le`).
-/

namespace RestClient

/-- What a decimal stands for. -/
def Decimal.value (d : Decimal) : ℚ := d.digits * 10 ^ d.exponent

namespace Binary64

/-! ## Powers of ten -/

theorem powTen_pos (e : Int) : 0 < (powTen e).1 ∧ 0 < (powTen e).2 := by
  cases e <;> simp [powTen]

theorem quotient_powTen (e : Int) : quotient (powTen e) = 10 ^ e := by
  cases e <;> simp [quotient, powTen]

variable {num den : Nat}

/-- Raising an exponent does not go past the quotient. -/
theorem raiseExponent_spec (hden : 0 < den) (tries : Nat) {e : Int}
    (h : 10 ^ e ≤ quotient (num, den)) :
    10 ^ raiseExponent num den tries e ≤ quotient (num, den) ∧
    e ≤ raiseExponent num den tries e := by
  induction tries generalizing e with
  | zero => exact ⟨h, Int.le_refl e⟩
  | succ tries ih =>
    unfold raiseExponent
    dsimp only
    split
    · next hle =>
      have hnext := (quotient_le_iff (r := (num, den)) (powTen_pos (e + 1)).2 hden).mp hle
      rw [quotient_powTen] at hnext
      obtain ⟨hbelow, habove⟩ := ih hnext
      exact ⟨hbelow, by omega⟩
    · exact ⟨h, Int.le_refl e⟩

/-- The exponent from which raising starts. -/
def startExponent (binary : Int) : Int := (binary * 30103).fdiv 100000 - 2

/-- Powers of ten and of two are compared by powers of them. -/
theorem ten_zpow_le_two_zpow {e b p q : Int} {k : Nat} (hk : k ≠ 0) (hexponent : e * k ≤ p)
    (h : (10 : ℚ) ^ p ≤ 2 ^ q) (hq : q = b * k) : (10 : ℚ) ^ e ≤ 2 ^ b := by
  rw [← pow_le_pow_iff_left₀ (by positivity) (by positivity) hk, ← zpow_natCast, ← zpow_natCast,
    ← zpow_mul, ← zpow_mul, ← hq]
  exact (zpow_le_zpow_right₀ (by norm_num) hexponent).trans h

/-- **The first power of ten is not above the power of two**, for all exponents of numbers. So the
search for the exponent can only go up, and it does not have to go far. -/
theorem startExponent_le {b : Int} (hlow : -1074 ≤ b) (hhigh : b ≤ 1023) :
    (10 : ℚ) ^ startExponent b ≤ 2 ^ b := by
  have hstart : startExponent b = b * 30103 / 100000 - 2 := by
    rw [startExponent, Int.fdiv_eq_ediv_of_nonneg _ (by norm_num)]
  rcases le_total 0 b with hb | hb
  · -- a thousand is less than `2 ^ 10`
    refine ten_zpow_le_two_zpow (k := 10) (p := 3 * b) (q := 10 * b) (by norm_num) (by omega) ?_
      (by ring)
    rw [zpow_mul, zpow_mul]
    exact zpow_le_zpow_left₀ hb (by norm_num) (by norm_num)
  · -- and `10 ^ 13` is more than `2 ^ 43`
    refine ten_zpow_le_two_zpow (k := 43) (p := 13 * b) (q := 43 * b) (by norm_num) (by omega) ?_
      (by ring)
    obtain ⟨a, rfl⟩ : ∃ a : Nat, b = -a := ⟨b.natAbs, by omega⟩
    rw [zpow_mul, zpow_mul, zpow_neg, zpow_neg, zpow_natCast, zpow_natCast]
    exact inv_anti₀ (by positivity) (pow_le_pow_left₀ (by norm_num) (by norm_num) a)

/-! ## The widths -/

variable {x : Binary64}

theorem fractionField_lt (x : Binary64) : x.fractionField < Nat.pow 2 52 := Nat.mod_lt _ (by decide)

theorem exponentField_le (hfinite : x.isFinite = true) : x.exponentField ≤ 2046 := by
  have hlt : x.exponentField < 2048 := Nat.mod_lt _ (by decide)
  rw [isFinite, bne_iff_ne] at hfinite
  omega

end Binary64

namespace RoundingInterval

open Binary64

/-- **The intervals that have digits**: there is a number in them, and it has a significand and an
exponent of sixty-four bits. -/
structure Bounded (i : RoundingInterval) : Prop where
  pos : 0 < i.significand
  le : i.significand ≤ 9007199254740991
  margin : 1 ≤ i.lowerMargin
  low : -1074 ≤ i.scale
  high : i.scale ≤ 971

end RoundingInterval

theorem Binary64.bounded {x : Binary64} (hfinite : x.isFinite = true) (hzero : x.isZero = false) :
    x.interval.Bounded := by
  have hfraction := fractionField_lt x
  have hexponent := exponentField_le hfinite
  have hfields : ¬(x.exponentField = 0 ∧ x.fractionField = 0) := by
    simpa [isZero] using hzero
  rw [pow_52] at hfraction
  constructor <;> dsimp only [interval, significand, scale]
  · rw [pow_52]
    split <;> omega
  · rw [pow_52]
    split <;> omega
  · split <;> omega
  · omega
  · omega

namespace Binary32

variable {x : Binary32}

theorem significand_lt (x : Binary32) : x.significand < 16777216 := by
  have hfraction : x.fractionField < 8388608 := Nat.mod_lt _ (by decide)
  have hpow : Nat.pow 2 23 = 8388608 := rfl
  unfold significand
  rw [hpow]
  split <;> omega

theorem significand_eq_zero_iff : x.significand = 0 ↔ x.isZero = true := by
  have hpow : Nat.pow 2 23 = 8388608 := rfl
  rw [isZero, Bool.and_eq_true, beq_iff_eq, beq_iff_eq, significand, hpow]
  split <;> omega

theorem le_scale (x : Binary32) : -149 ≤ x.scale := by
  unfold scale
  omega

theorem scale_le (hfinite : x.isFinite = true) : x.scale ≤ 104 := by
  have hexponent : x.exponentField < 256 := Nat.mod_lt _ (by decide)
  rw [isFinite, bne_iff_ne] at hfinite
  unfold scale
  omega

theorem bounded (hfinite : x.isFinite = true) (hzero : x.isZero = false) :
    x.interval.Bounded where
  pos := Nat.pos_of_ne_zero (mt significand_eq_zero_iff.mp (by rw [hzero]; exact nofun))
  le := (significand_lt x).le.trans (by decide)
  margin := by
    dsimp only [interval]
    split <;> omega
  low := (le_scale x).trans' (by decide)
  high := (scale_le hfinite).trans (by decide)

end Binary32

namespace RoundingInterval

open Binary64

/-! ## Numbers -/

variable {i : RoundingInterval}

/-- The number that an interval belongs to. -/
def value (i : RoundingInterval) : ℚ := i.significand * 2 ^ i.scale

theorem ratio_pos (i : RoundingInterval) : 0 < i.ratio.2 := (powTwo_pos i.scale).2

theorem quotient_ratio (i : RoundingInterval) : quotient i.ratio = i.value := by
  rw [ratio, value, ← quotient_powTwo, quotient, quotient]
  push_cast
  rw [mul_div_assoc]

theorem value_le_greatest (hle : i.significand ≤ 9007199254740991) (hhigh : i.scale ≤ 971) :
    i.value ≤ greatest := by
  have hsignificand : (i.significand : ℚ) ≤ 9007199254740991 := by
    exact_mod_cast hle
  have hscale : (2 : ℚ) ^ i.scale ≤ 2 ^ (971 : ℤ) :=
    zpow_le_zpow_right₀ (by norm_num) hhigh
  calc i.significand * (2 : ℚ) ^ i.scale ≤ 9007199254740991 * 2 ^ (971 : ℤ) :=
        mul_le_mul hsignificand hscale (by positivity) (by positivity)
    _ = greatest := by
        rw [greatest]
        norm_num

/-- The binary exponent of a number is its scale or above it, by less than its significand has
bits. -/
theorem binaryExponent_mem (hpos : 0 < i.significand) {n : Nat} (hlt : i.significand < 2 ^ n) :
    i.scale ≤ binaryExponent i.ratio.1 i.ratio.2 ∧
    binaryExponent i.ratio.1 i.ratio.2 < n + i.scale := by
  have hnum : 0 < i.ratio.1 := Nat.mul_pos hpos (powTwo_pos i.scale).1
  obtain ⟨hlow, hhigh⟩ := binaryExponent_spec hnum i.ratio_pos
  change _ ≤ quotient i.ratio at hlow
  change quotient i.ratio < _ at hhigh
  rw [quotient_ratio] at hlow hhigh
  have hone : (1 : ℚ) ≤ i.significand := by exact_mod_cast hpos
  have hbits : (i.significand : ℚ) < 2 ^ (n : ℤ) := by exact_mod_cast hlt
  constructor
  · have hpow : (2 : ℚ) ^ i.scale < 2 ^ (binaryExponent i.ratio.1 i.ratio.2 + 1) :=
      (le_mul_of_one_le_left (by positivity) hone).trans_lt hhigh
    exact Int.le_of_lt_add_one ((zpow_lt_zpow_iff_right₀ (by norm_num)).mp hpow)
  · have hpow : (2 : ℚ) ^ binaryExponent i.ratio.1 i.ratio.2 < 2 ^ (n + i.scale) :=
      calc (2 : ℚ) ^ binaryExponent i.ratio.1 i.ratio.2 ≤ i.significand * 2 ^ i.scale := hlow
        _ < 2 ^ (n : ℤ) * 2 ^ i.scale := mul_lt_mul_of_pos_right hbits (by positivity)
        _ = 2 ^ (n + i.scale) := (zpow_add₀ (by norm_num) _ _).symm
    exact (zpow_lt_zpow_iff_right₀ (by norm_num)).mp hpow

/-- **The first grid is not above the number**, and not far below all of them, so that the last grid
of the search is known. -/
theorem decimalExponent_spec (h : i.Bounded) :
    10 ^ decimalExponent i.ratio.1 i.ratio.2 ≤ i.value ∧
    -326 ≤ decimalExponent i.ratio.1 i.ratio.2 := by
  have hnum : 0 < i.ratio.1 := Nat.mul_pos h.pos (powTwo_pos i.scale).1
  have hbits : i.significand < 2 ^ 53 := h.le.trans_lt (by norm_num)
  obtain ⟨hlow, hhigh⟩ := binaryExponent_mem h.pos hbits
  have hscale : -1074 ≤ i.scale ∧ i.scale ≤ 971 := ⟨h.low, h.high⟩
  have hstart : 10 ^ startExponent (binaryExponent i.ratio.1 i.ratio.2) ≤ quotient i.ratio :=
    (startExponent_le (by omega) (by omega)).trans (binaryExponent_spec hnum i.ratio_pos).1
  obtain ⟨hbelow, habove⟩ := raiseExponent_spec i.ratio_pos 5 hstart
  refine ⟨hbelow.trans_eq i.quotient_ratio, le_trans ?_ habove⟩
  rw [startExponent, Int.fdiv_eq_ediv_of_nonneg _ (by norm_num)]
  omega

/-! ## Decimals that read back -/

/-- Multiples of a power of two and of a power of ten are compared without fractions. -/
theorem mul_two_zpow_le_iff {a c : Nat} (e k : Int) :
    a * ((powTen k).2 * (powTwo e).1) ≤ c * (powTen k).1 * (powTwo e).2 ↔
      a * (2 : ℚ) ^ e ≤ c * 10 ^ k := by
  have hcross := mul_quotient_le_iff (a := a) (c := c) (powTwo_pos e).2 (powTen_pos k).2
  rwa [quotient_powTwo, quotient_powTen, Nat.mul_assoc, Nat.mul_comm (powTwo e).1] at hcross

theorem mul_ten_zpow_le_iff {a c : Nat} (e k : Int) :
    c * (powTen k).1 * (powTwo e).2 ≤ a * ((powTen k).2 * (powTwo e).1) ↔
      c * (10 : ℚ) ^ k ≤ a * 2 ^ e := by
  have hcross := mul_quotient_le_iff (a := c) (c := a) (powTen_pos k).2 (powTwo_pos e).2
  rwa [quotient_powTwo, quotient_powTen, Nat.mul_assoc a, Nat.mul_comm (powTwo e).1] at hcross

variable {c : Nat} {k : Int}

/-- What is between the ends of the interval of a number reads back. -/
theorem readsBack_of_lt
    (hlow : (4 * i.significand - i.lowerMargin : ℕ) * (2 : ℚ) ^ (i.scale - 2) < c * 10 ^ k)
    (hhigh : c * (10 : ℚ) ^ k < (4 * i.significand + 2 : ℕ) * 2 ^ (i.scale - 2)) :
    i.readsBack c k = true := by
  have hlow' := Nat.not_le.mp (mt (mul_ten_zpow_le_iff (i.scale - 2) k).mp (not_le.mpr hlow))
  have hhigh' := Nat.not_le.mp (mt (mul_two_zpow_le_iff (i.scale - 2) k).mp (not_le.mpr hhigh))
  unfold readsBack
  dsimp only
  split
  · simpa using ⟨hlow'.le, hhigh'.le⟩
  · simpa using ⟨hlow', hhigh'⟩

theorem le_of_readsBack (h : i.readsBack c k = true) :
    c * (10 : ℚ) ^ k ≤ (4 * i.significand + 2 : ℕ) * 2 ^ (i.scale - 2) := by
  rw [← mul_ten_zpow_le_iff]
  unfold readsBack at h
  dsimp only at h
  split at h
  · simp only [Bool.and_eq_true, decide_eq_true_eq] at h
    exact h.2
  · simp only [Bool.and_eq_true, decide_eq_true_eq] at h
    exact h.2.le

/-- The neighbour below on a grid, or the one above it, is what a grid gives. -/
theorem onGrid_eq_some (h : i.onGrid k = some c) : i.readsBack c k = true ∧
    i.ratio.1 * (powTen k).2 / (i.ratio.2 * (powTen k).1) ≤ c := by
  unfold onGrid at h
  dsimp only at h
  split at h
  · cases h
  · cases h
    exact ⟨‹_›, le_refl _⟩
  · cases h
    exact ⟨‹_›, Nat.le_succ _⟩
  · next hbelow habove =>
    repeat' split at h
    all_goals
      cases h
      first
      | exact ⟨hbelow, le_refl _⟩
      | exact ⟨habove, Nat.le_succ _⟩

theorem onGrid_ne_none
    (h : i.readsBack (i.ratio.1 * (powTen k).2 / (i.ratio.2 * (powTen k).1)) k = true) :
    i.onGrid k ≠ none := by
  intro hnone
  unfold onGrid at hnone
  dsimp only at hnone
  rw [h] at hnone
  split at hnone
  · cases ‹true = false›
  · cases hnone
  · cases ‹true = false›
  · repeat' split at hnone
    all_goals cases hnone

/-- **The neighbour below** on a grid is less than a step away, so on a grid that is fine enough it
is within the interval. -/
theorem below_spec (i : RoundingInterval) (k : Int) :
    (i.ratio.1 * (powTen k).2 / (i.ratio.2 * (powTen k).1) : ℕ) * (10 : ℚ) ^ k ≤ i.value ∧
    i.value < (i.ratio.1 * (powTen k).2 / (i.ratio.2 * (powTen k).1) : ℕ) * 10 ^ k + 10 ^ k := by
  have hquotient : quotient (i.ratio.1 * (powTen k).2, i.ratio.2 * (powTen k).1)
      = i.value / 10 ^ k := by
    rw [← quotient_ratio, ← quotient_powTen]
    simp only [quotient]
    push_cast
    rw [div_div_div_eq]
  have hden : 0 < i.ratio.2 * (powTen k).1 := Nat.mul_pos i.ratio_pos (powTen_pos k).1
  generalize i.ratio.1 * (powTen k).2 = num at *
  generalize i.ratio.2 * (powTen k).1 = den at *
  have hden' : (0 : ℚ) < den := by exact_mod_cast hden
  have hpow : (0 : ℚ) < 10 ^ k := by positivity
  have hlow : ((num / den : ℕ) : ℚ) ≤ i.value / 10 ^ k := by
    rw [← hquotient, quotient, le_div_iff₀ hden']
    exact_mod_cast Nat.div_mul_le_self num den
  have hhigh : i.value / 10 ^ k < (num / den : ℕ) + 1 := by
    rw [← hquotient, quotient, div_lt_iff₀ hden', mul_comm]
    exact_mod_cast Nat.lt_mul_div_succ num hden
  refine ⟨(le_div_iff₀ hpow).mp hlow, ?_⟩
  have hlt := (div_lt_iff₀ hpow).mp hhigh
  linarith

/-! ## The search -/

/-- **The last grid has a point that reads back**, as its steps are smaller than the interval; so a
search that comes to it does not end in vain. -/
theorem onGrid_ne_none_of_le (h : i.Bounded) {e : Int} (he : 10 ^ e ≤ i.value) :
    i.onGrid (e - 17) ≠ none := by
  obtain ⟨hlow, hhigh⟩ := below_spec i (e - 17)
  refine onGrid_ne_none ?_
  generalize i.ratio.1 * (powTen (e - 17)).2 / (i.ratio.2 * (powTen (e - 17)).1) = c at *
  have hpos := h.pos
  have hmargin := h.margin
  have hunit : (0 : ℚ) < 2 ^ (i.scale - 2) := by positivity
  have hvalue : i.value = 4 * i.significand * 2 ^ (i.scale - 2) := by
    rw [value, zpow_sub₀ (by norm_num)]
    ring
  -- a step of this grid is less than a quarter of the gap
  have hstep : (10 : ℚ) ^ (e - 17) < 2 ^ (i.scale - 2) := by
    have hsignificand : (i.significand : ℚ) ≤ 9007199254740991 := by
      exact_mod_cast h.le
    calc (10 : ℚ) ^ (e - 17) = 10 ^ e / 10 ^ 17 := by
          rw [zpow_sub₀ (by norm_num)]
          norm_num
      _ ≤ 4 * i.significand * 2 ^ (i.scale - 2) / 10 ^ 17 := by
          rw [← hvalue]
          gcongr
      _ ≤ 4 * 9007199254740991 * 2 ^ (i.scale - 2) / 10 ^ 17 := by gcongr
      _ < 2 ^ (i.scale - 2) := by
          rw [div_lt_iff₀ (by norm_num)]
          nlinarith
  refine readsBack_of_lt ?_ ?_
  · have hsub : ((4 * i.significand - i.lowerMargin : ℕ) : ℚ) ≤ 4 * i.significand - 1 := by
      rw [le_sub_iff_add_le]
      exact_mod_cast (by omega : 4 * i.significand - i.lowerMargin + 1 ≤ 4 * i.significand)
    calc ((4 * i.significand - i.lowerMargin : ℕ) : ℚ) * 2 ^ (i.scale - 2)
        ≤ (4 * i.significand - 1) * 2 ^ (i.scale - 2) := by gcongr
      _ = i.value - 2 ^ (i.scale - 2) := by rw [hvalue]; ring
      _ < c * 10 ^ (e - 17) := by linarith
  · push_cast
    linarith

/-- A search that comes to a grid with a point stops at a point. -/
theorem searchGrids_spec {tries j : Nat} (hj : j < tries) (h : i.onGrid (k - j) ≠ none) :
    i.onGrid (i.searchGrids tries k).exponent = some (i.searchGrids tries k).digits ∧
    k - j ≤ (i.searchGrids tries k).exponent ∧ (i.searchGrids tries k).exponent ≤ k := by
  induction tries generalizing k j with
  | zero => cases hj
  | succ tries ih =>
    unfold searchGrids
    split
    · next c hc => exact ⟨hc, show k - (j : Int) ≤ k by omega, Int.le_refl k⟩
    · next hnone =>
      cases j with
      | zero =>
        rw [Int.natCast_zero, Int.sub_zero] at h
        exact absurd hnone h
      | succ j =>
        have hnext : k - (j + 1 : Nat) = k - 1 - j := by omega
        rw [hnext] at h ⊢
        obtain ⟨hfound, hlow, hhigh⟩ := ih (Nat.lt_of_succ_lt_succ hj) h
        exact ⟨hfound, hlow, by omega⟩

/-- **What the shortest digits are**: they read back, they do not stand for nothing, and the point
is not too far away. That there are no shorter ones is not needed here. -/
theorem shortest_spec (h : i.Bounded) :
    i.readsBack i.shortest.digits i.shortest.exponent = true ∧ 0 < i.shortest.digits ∧
    -343 ≤ i.shortest.exponent := by
  obtain ⟨hbelow, hmin⟩ := decimalExponent_spec h
  obtain ⟨hfound, hlow, hhigh⟩ :=
    searchGrids_spec (by norm_num : 17 < 18) (onGrid_ne_none_of_le h hbelow)
  change i.onGrid i.shortest.exponent = some i.shortest.digits at hfound
  change _ ≤ i.shortest.exponent at hlow
  change i.shortest.exponent ≤ _ at hhigh
  obtain ⟨hreads, hdigits⟩ := onGrid_eq_some hfound
  refine ⟨hreads, Nat.lt_of_lt_of_le ?_ hdigits, by omega⟩
  -- the neighbour below is not zero, for one step of the grid is not above the number
  obtain ⟨-, hnext⟩ := below_spec i i.shortest.exponent
  have hstep : (10 : ℚ) ^ i.shortest.exponent ≤ i.value :=
    (zpow_le_zpow_right₀ (by norm_num) hhigh).trans hbelow
  refine Nat.pos_of_ne_zero fun hnone => ?_
  rw [hnone, Nat.cast_zero, zero_mul, zero_add] at hnext
  exact absurd hstep (not_le.mpr hnext)

/-- What the shortest digits stand for is above the number by half a gap at most. -/
theorem value_shortest_le (h : i.Bounded) :
    i.shortest.value ≤ (i.significand + 1 / 2) * 2 ^ i.scale := by
  refine (le_of_readsBack (shortest_spec h).1).trans_eq ?_
  rw [zpow_sub₀ (by norm_num)]
  push_cast
  ring

end RoundingInterval
end RestClient
