import Mathlib.Data.List.TakeWhile
import RestClient.Json.Basic
import RestClient.Proofs.FloatNumeral
import RestClient.Proofs.Rereading
import RestClient.Proofs.ShortestDigits

/-!
# Floating-point numbers are written as numerals

The text of a finite number is a numeral, and it is read wherever it stands
(`Number.isReadable_float`). Not that it is read as the same number: the digits are those that would
be read back by one rounding, while the reader of numerals rounds more than once.

A number from `10 ^ -5` up to `10 ^ 16` has its point written out, and a numeral with a point is
always read. Any other number has an exponent, and then its numeral must not overflow. The digits
stand for less than the number and half a gap (`RoundingInterval.value_shortest_le`), which is
within reach of the reader but for the three greatest numbers (`value_shortest_le_reach`). The
numerals of these are evaluated.

Numbers of single precision are numerals by their own digits as well (`exists_readsAs_singleText`),
and none of them is near the end of the reach. What is read from such a numeral is the number
nearest to the digits, and that need not be the single, widened (`Binary32.WritesAlike`).
-/

namespace RestClient

/-! ## Digits of a decimal -/

namespace FloatLayout

open Binary64 Json

/-- **What the digits of a decimal are**, without the zeros at its end: they and the place of the
point stand for the decimal. -/
structure Spells (ds : List Char) (point : Int) (d : Decimal) : Prop where
  digits : ∀ c ∈ ds, isDigit c = true
  front : ∃ c r, ds = c :: r ∧ c ≠ '0'
  value : (Nat.ofDigitChars 10 ds 0 : ℚ) * 10 ^ (point - ds.length) = d.value
  low : d.exponent < point
  high : (10 : ℚ) ^ (point - 1) ≤ d.value

theorem exists_trimmed (cs : List Char) :
    ∃ n, cs = (cs.reverse.dropWhile (· = '0')).reverse ++ List.replicate n '0' := by
  have hzeros : ∀ c ∈ cs.reverse.takeWhile (· = '0'), c = '0' := by
    intro c hc
    simpa using List.mem_takeWhile_imp hc
  refine ⟨(cs.reverse.takeWhile (· = '0')).length, ?_⟩
  have happend := List.takeWhile_append_dropWhile (p := (· = '0')) (l := cs.reverse)
  rw [List.eq_replicate_of_mem hzeros] at happend
  have hreverse := congrArg List.reverse happend
  rw [List.reverse_append, List.reverse_reverse, List.reverse_replicate] at hreverse
  exact hreverse.symm

theorem pow_le_of_toDigits {n : Nat} (hn : n ≠ 0) : 10 ^ ((Nat.toDigits 10 n).length - 1) ≤ n := by
  have hvalue : Nat.ofDigitChars 10 (Nat.toDigits 10 n) 0 = n := Nat.ofDigitChars_ten_toDigits
  cases hd : Nat.toDigits 10 n with
  | nil => exact absurd hd Nat.toDigits_ne_nil
  | cons c r =>
    have hc : c ≠ '0' := head_toDigits_ne_zero hn hd
    have hdigit : isDigit c = true := isDigit_of_mem_toDigits (hd ▸ List.mem_cons_self)
    have hfirst : 1 ≤ c.toNat - '0'.toNat := by
      have hbounds : '0'.toNat ≤ c.toNat := by
        simp only [isDigit, Bool.and_eq_true, decide_eq_true_eq] at hdigit
        exact hdigit.1
      have hne : c.toNat ≠ '0'.toNat := fun heq => hc (Char.toNat_inj.mp heq)
      omega
    rw [hd, Nat.ofDigitChars_cons, Nat.mul_zero, Nat.zero_add] at hvalue
    rw [List.length_cons, Nat.add_sub_cancel]
    calc 10 ^ r.length ≤ (c.toNat - '0'.toNat) * 10 ^ r.length := Nat.le_mul_of_pos_left _ hfirst
      _ ≤ Nat.ofDigitChars 10 r (c.toNat - '0'.toNat) := mul_pow_le_ofDigitChars _ r
      _ = n := hvalue

theorem spells_digitsAndPoint {d : Decimal} (h : 0 < d.digits) :
    Spells (digitsAndPoint d).1 (digitsAndPoint d).2 d := by
  obtain ⟨n, hn⟩ := exists_trimmed (Nat.toDigits 10 d.digits)
  have hdigits : ∀ c ∈ Nat.toDigits 10 d.digits, isDigit c = true :=
    fun c => isDigit_of_mem_toDigits
  have hvalue : Nat.ofDigitChars 10 (Nat.toDigits 10 d.digits) 0 = d.digits :=
    Nat.ofDigitChars_ten_toDigits
  have hpow := pow_le_of_toDigits h.ne'
  have hpositive : 0 < (Nat.toDigits 10 d.digits).length :=
    List.length_pos_iff.mpr Nat.toDigits_ne_nil
  show Spells ((Nat.toDigits 10 d.digits).reverse.dropWhile (· = '0')).reverse
    ((Nat.toDigits 10 d.digits).length + d.exponent) d
  generalize ((Nat.toDigits 10 d.digits).reverse.dropWhile (· = '0')).reverse = ds at *
  refine ⟨fun c hc => hdigits c ?_, ?_, ?_, by omega, ?_⟩
  · rw [hn]
    exact List.mem_append_left _ hc
  · cases ds with
    | nil =>
      -- only zero has nothing but zeros
      cases n with
      | zero => exact absurd hn Nat.toDigits_ne_nil
      | succ n => exact absurd rfl (head_toDigits_ne_zero h.ne' hn)
    | cons c r => exact ⟨c, r, rfl, head_toDigits_ne_zero h.ne' hn⟩
  · rw [hn, Nat.ofDigitChars_append, Nat.ofDigitChars_replicate_zero] at hvalue
    have hexponent : ((Nat.toDigits 10 d.digits).length : Int) + d.exponent - ds.length
        = n + d.exponent := by
      rw [hn, List.length_append, List.length_replicate]
      push_cast
      ring
    rw [hexponent, zpow_add₀ (by norm_num), zpow_natCast, Decimal.value, ← hvalue]
    push_cast
    ring
  · have hexponent : ((Nat.toDigits 10 d.digits).length : Int) + d.exponent - 1
        = ((Nat.toDigits 10 d.digits).length - 1 : Nat) + d.exponent := by omega
    rw [hexponent, zpow_add₀ (by norm_num), zpow_natCast, Decimal.value]
    have hpow' : (10 : ℚ) ^ ((Nat.toDigits 10 d.digits).length - 1) ≤ d.digits := by
      exact_mod_cast hpow
    gcongr

/-! ## The two layouts -/

variable {ds : List Char} {point : Int} {d : Decimal}

theorem isDigit_of_mem_replicate {n : Nat} {c : Char} (h : c ∈ List.replicate n '0') :
    isDigit c = true := by
  rw [(List.mem_replicate.mp h).2]
  rfl

/-- **Digits with the point in its place are a numeral**, whether zeros have to be put in front of
them, behind them, or the point goes between them. -/
theorem isNumeral_inPlace (h : Spells ds point d) (hpoint : point ≤ 16) (negative : Bool) :
    IsNumeral negative (inPlace true ds point) := by
  obtain ⟨c, r, hfront, hc⟩ := h.front
  unfold inPlace
  split
  · -- zeros stand in front of the digits
    have hfraction : ∀ e ∈ List.replicate point.natAbs '0' ++ ds, isDigit e = true := by
      intro e he
      exact (List.mem_append.mp he).elim isDigit_of_mem_replicate (h.digits e)
    have hnumeral :=
      numeral_pointed isWholeText_zero (by decide) (by simp [hfront]) hfraction negative
    simpa using hnumeral
  · next hhigh =>
    obtain ⟨n, rfl⟩ : ∃ n : Nat, point = n + 1 := ⟨(point - 1).toNat, by omega⟩
    have hplace : ((n : Int) + 1).toNat = n + 1 := rfl
    dsimp only
    rw [hplace]
    split
    · -- zeros stand behind the digits, and the point behind them
      have hwhole : IsWholeText (ds ++ List.replicate (n + 1 - ds.length) '0') := by
        refine ⟨fun e he => ?_, c, _, by rw [hfront]; rfl, fun heq => absurd heq hc⟩
        exact (List.mem_append.mp he).elim (h.digits e) isDigit_of_mem_replicate
      have hlength : (ds ++ List.replicate (n + 1 - ds.length) '0').length ≤ 16 := by
        rw [List.length_append, List.length_replicate]
        omega
      exact numeral_pointed hwhole hlength isWholeText_zero.ne_nil isWholeText_zero.digits negative
    · next hlength =>
      have hwhole : IsWholeText (ds.take (n + 1)) := by
        refine ⟨fun e he => h.digits e (List.mem_of_mem_take he), c, r.take n, ?_,
          fun heq => absurd heq hc⟩
        rw [hfront, List.take_succ_cons]
      have hrest : ds.drop (n + 1) ≠ [] := by
        rw [Ne, List.drop_eq_nil_iff]
        exact hlength
      have hnumeral := numeral_pointed hwhole (by rw [List.length_take]; omega) hrest
        (fun e he => h.digits e (List.mem_of_mem_drop he)) negative
      simpa using hnumeral

/-- Digits with an exponent are a numeral, if the numeral does not overflow. -/
theorem isNumeral_scientific (h : Spells ds point d) (hpoint : (point - 1).natAbs ≤ maxExponent)
    {negative : Bool} (hfits : ∃ m, scaled negative (takeDigits maxSignificand 0 ds).1
      (point - (takeDigits maxSignificand 0 ds).2.1) = .ok m) :
    IsNumeral negative (scientific true ds point) := by
  obtain ⟨c, r, rfl, -⟩ := h.front
  obtain ⟨m, hm⟩ := hfits
  constructor
  · have hfirst := scientific_append (c := c) (r := r) point []
    rw [List.append_nil] at hfirst
    exact ⟨c, _, hfirst, h.digits c List.mem_cons_self⟩
  · refine ⟨m, fun rest hrest => ?_⟩
    rw [numeral_scientific h.digits hpoint negative hrest, hm]
    rfl

/-- The numeral of the digits of a decimal, with what the reader takes of it. -/
def reading (negative : Bool) (d : Decimal) : Except Fault Number :=
  scaled negative (takeDigits maxSignificand 0 (digitsAndPoint d).1).1
    ((digitsAndPoint d).2 - (takeDigits maxSignificand 0 (digitsAndPoint d).1).2.1)

/-- **The layouts of numerals**: a whole number keeps its point, a positive exponent has its sign,
and only so many digits stand in front of a point as are taken without loss. -/
structure IsNumeric (f : FloatLayout) : Prop where
  pointZero : f.pointZero = true
  plusSign : f.plusSign = true
  high : ∃ b, f.high = some b ∧ b ≤ 16

theorem isNumeral_magnitude {f : FloatLayout} (hf : f.IsNumeric) (hdigits : 0 < d.digits)
    (hpoint : ((digitsAndPoint d).2 - 1).natAbs ≤ maxExponent) {negative : Bool}
    (hreading : ∃ m, reading negative d = .ok m) : IsNumeral negative (f.magnitude d) := by
  have hspells := spells_digitsAndPoint hdigits
  obtain ⟨b, hb, hmax⟩ := hf.high
  unfold magnitude
  rw [hf.pointZero, hf.plusSign]
  dsimp only
  split
  · next hplace =>
    have hbelow : (digitsAndPoint d).2 - 1 < b := by
      simpa [hb] using (Bool.and_eq_true_iff.mp hplace).2
    exact isNumeral_inPlace hspells (by omega) negative
  · exact isNumeral_scientific hspells hpoint hreading

theorem isNumeral_zero (negative : Bool) : IsNumeral negative ['0', '.', '0'] :=
  numeral_pointed isWholeText_zero (by decide) isWholeText_zero.ne_nil isWholeText_zero.digits
    negative

end FloatLayout

/-! ## Digits within reach -/

namespace RoundingInterval

open Binary64 Json FloatLayout

variable {i : RoundingInterval}

/-- **The digits of all but the greatest numbers are within reach.** They stand for more than the
number by half a gap at most, and a few gaps below the greatest number there is room for that. -/
theorem value_shortest_le_reach (hb : i.Bounded)
    (h : i.scale ≤ 970 ∨ i.significand ≤ 9007199254740988) : i.shortest.value ≤ reach := by
  refine (value_shortest_le hb).trans ?_
  have hscale := hb.high
  have hsignificand : (i.significand : ℚ) ≤ 9007199254740991 := by
    exact_mod_cast hb.le
  rcases h with h | h
  · have hpow : (2 : ℚ) ^ i.scale ≤ 2 ^ (970 : ℤ) := zpow_le_zpow_right₀ (by norm_num) h
    have hsplit : (2 : ℚ) ^ (971 : ℤ) = 2 ^ (970 : ℤ) * 2 := zpow_add_one₀ (by norm_num) 970
    have hpositive : (0 : ℚ) < 2 ^ (970 : ℤ) := by positivity
    calc (i.significand + 1 / 2 : ℚ) * 2 ^ i.scale
        ≤ (9007199254740991 + 1 / 2) * 2 ^ (970 : ℤ) :=
          mul_le_mul (by linarith) hpow (by positivity) (by norm_num)
      _ ≤ (2 ^ 53 - 7 / 2) * 2 * 2 ^ (970 : ℤ) :=
          mul_le_mul_of_nonneg_right (by norm_num) hpositive.le
      _ = reach := by
          rw [reach, hsplit]
          ring
  · have hle : (i.significand : ℚ) ≤ 9007199254740988 := by exact_mod_cast h
    have hpow : (2 : ℚ) ^ i.scale ≤ 2 ^ (971 : ℤ) := zpow_le_zpow_right₀ (by norm_num) hscale
    have hbound : (9007199254740988 + 1 / 2 : ℚ) = 2 ^ 53 - 7 / 2 := by norm_num
    calc (i.significand + 1 / 2 : ℚ) * 2 ^ i.scale
        ≤ (9007199254740988 + 1 / 2) * 2 ^ (971 : ℤ) :=
          mul_le_mul (by linarith) hpow (by positivity) (by norm_num)
      _ = reach := by rw [reach, hbound]

theorem exists_reading_eq_ok (hb : i.Bounded)
    (h : i.scale ≤ 970 ∨ i.significand ≤ 9007199254740988) (negative : Bool) :
    ∃ m, reading negative i.shortest = .ok m := by
  have hspells := spells_digitsAndPoint (shortest_spec hb).2.1
  have hvalue := hspells.value.trans_le (value_shortest_le_reach hb h)
  exact exists_scaled_eq_ok negative ((takeDigits_mul_le _).trans hvalue)

/-- The point is within the exponents that are read. -/
theorem natAbs_point_le (hb : i.Bounded) :
    ((digitsAndPoint i.shortest).2 - 1).natAbs ≤ maxExponent := by
  obtain ⟨-, hdigits, hexponent⟩ := shortest_spec hb
  have hspells := spells_digitsAndPoint hdigits
  have hlow := hspells.low
  have hhigh : (digitsAndPoint i.shortest).2 - 1 < 310 := by
    have hone : (1 : ℚ) ≤ i.significand := by exact_mod_cast hb.pos
    have hgreatest := value_le_greatest hb.le hb.high
    have hpow : (10 : ℚ) ^ ((digitsAndPoint i.shortest).2 - 1) < 10 ^ (310 : ℤ) :=
      calc (10 : ℚ) ^ ((digitsAndPoint i.shortest).2 - 1)
          ≤ i.shortest.value := hspells.high
        _ ≤ (i.significand + 1 / 2) * 2 ^ i.scale := value_shortest_le hb
        _ ≤ (2 * i.significand) * 2 ^ i.scale :=
            mul_le_mul_of_nonneg_right (by linarith) (by positivity)
        _ = 2 * i.value := by rw [value, mul_assoc]
        _ < 2 * 10 ^ 309 :=
            mul_lt_mul_of_pos_left (hgreatest.trans_lt greatest_lt_pow) (by norm_num)
        _ ≤ 10 * 10 ^ 309 := mul_le_mul_of_nonneg_right (by norm_num) (by positivity)
        _ = 10 ^ (310 : ℤ) := by rw [← pow_succ']; rfl
    exact (zpow_lt_zpow_iff_right₀ (by norm_num)).mp hpow
  have hmax : maxExponent = 2147483647 := rfl
  omega

end RoundingInterval

/-! ## Numbers of sixty-four bits -/

namespace Binary64

open Json FloatLayout

theorem isNaN_eq_false {x : Binary64} (h : x.isFinite = true) : x.isNaN = false := by
  rw [isFinite, bne_iff_ne] at h
  simp [isNaN, h]

/-- A number is put together from its fields. -/
theorem eq_ofFields (x : Binary64) :
    x = ofFields x.negative (x.exponentField * Nat.pow 2 52 + x.fractionField) := by
  obtain ⟨bits⟩ := x
  rw [ofFields, Binary64.mk.injEq, ← UInt64.toNat_inj, UInt64.toNat_ofNat']
  have hbits : bits.toNat < 18446744073709551616 := bits.toNat_lt
  simp only [negative, exponentField, fractionField, pow_52, pow_63, pow_11, decide_eq_true_eq]
  split <;> omega

/-- The three greatest numbers of either sign do not overflow. -/
theorem isOk_reading_of_greatest : ∀ negative : Bool, ∀ n < 3,
    (reading negative (ofFields negative (infinityBits - 1 - n)).interval.shortest).isOk
      = true := by
  decide +kernel

variable {x : Binary64}

/-- **The numeral of the digits of a finite number does not overflow.** For all but the three
greatest numbers there is room enough for the roundings of the reader; of these three it is
computed. -/
theorem exists_reading_eq_ok (hfinite : x.isFinite = true) (hzero : x.isZero = false) :
    ∃ m, reading x.negative x.interval.shortest = .ok m := by
  by_cases h : x.scale ≤ 970 ∨ x.significand ≤ 9007199254740988
  · exact RoundingInterval.exists_reading_eq_ok (bounded hfinite hzero) h x.negative
  · obtain ⟨n, hn, hx⟩ : ∃ n < 3, x = ofFields x.negative (infinityBits - 1 - n) := by
      have hfields := eq_ofFields x
      have hexponent := exponentField_le hfinite
      have hfraction := fractionField_lt x
      refine ⟨infinityBits - 1 - (x.exponentField * Nat.pow 2 52 + x.fractionField), ?_, ?_⟩
      · unfold scale significand at h
        rw [pow_52] at *
        rw [infinityBits_eq]
        split at h <;> omega
      · have heq : infinityBits - 1 - (infinityBits - 1 -
            (x.exponentField * Nat.pow 2 52 + x.fractionField))
            = x.exponentField * Nat.pow 2 52 + x.fractionField := by
          rw [pow_52] at *
          rw [infinityBits_eq]
          omega
        rw [heq]
        exact hfields
    have hok := isOk_reading_of_greatest x.negative n hn
    rw [← hx] at hok
    cases hreading : reading x.negative x.interval.shortest with
    | error e =>
      rw [hreading] at hok
      cases hok
    | ok m => exact ⟨m, rfl⟩

end Binary64

/-! ## Texts of finite numbers -/

namespace Json

/-- A numeral is read behind its sign. -/
theorem exists_readsAs_signed {negative : Bool} {cs : List Char} (h : IsNumeral negative cs) :
    ∃ m, ReadsAs (FloatLayout.signed negative cs) m := by
  obtain ⟨c, r, rfl, hc⟩ := h.front
  obtain ⟨m, hm⟩ := h.reads
  refine ⟨m, ?_, fun rest hrest => ?_⟩
  · cases negative with
    | true => exact ⟨'-', _, rfl, .inl rfl⟩
    | false => exact ⟨c, r, rfl, .inr hc⟩
  · rw [← hm rest hrest]
    cases negative with
    | true => rfl
    | false => exact signedNumeral_of_isDigit hc (r ++ rest)

/-- What is written of a finite number: zero, or digits that do not overflow. -/
theorem exists_readsAs_text {f : FloatLayout} (hf : f.IsNumeric) {negative zero : Bool}
    {i : RoundingInterval} (hdigits : zero = false → i.Bounded ∧
      ∃ m, FloatLayout.reading negative i.shortest = .ok m) :
    ∃ m, ReadsAs (f.text (if zero then .zero negative else .digits negative i.shortest)) m := by
  cases zero with
  | true =>
    have hnumeral := FloatLayout.isNumeral_zero negative
    rw [if_pos rfl, FloatLayout.text, if_pos hf.pointZero]
    exact exists_readsAs_signed hnumeral
  | false =>
    obtain ⟨hbounded, hreading⟩ := hdigits rfl
    rw [if_neg nofun]
    exact exists_readsAs_signed (FloatLayout.isNumeral_magnitude hf
      (RoundingInterval.shortest_spec hbounded).2.1 (RoundingInterval.natAbs_point_le hbounded)
      hreading)

theorem isNumeric_floatLayout : floatLayout.IsNumeric := ⟨rfl, rfl, 16, rfl, Int.le_refl 16⟩

theorem isNumeric_singleLayout : singleLayout.IsNumeric := ⟨rfl, rfl, 13, rfl, by decide⟩

/-- **A finite number can be read from its text.** Which number it is read as is left open here: the
reader may come to a neighbour. -/
theorem Number.isReadable_float {x : Binary64} (h : x.isFinite = true) :
    (Number.float x).IsReadable := by
  have htext : (Number.float x).text = floatLayout.text
      (if x.isZero then .zero x.negative else .digits x.negative x.interval.shortest) := by
    simp [Number.text, floatText, Binary64.numeric, h, Binary64.isNaN_eq_false h]
  obtain ⟨m, hm⟩ : ∃ m, ReadsAs (Number.float x).text m := by
    rw [htext]
    exact exists_readsAs_text isNumeric_floatLayout fun hzero =>
      ⟨Binary64.bounded h hzero, Binary64.exists_reading_eq_ok h hzero⟩
  exact hm.isReadable

end Json

/-! ## Numbers of single precision -/

theorem Binary32.isNaN_eq_false {x : Binary32} (h : x.isFinite = true) : x.isNaN = false := by
  rw [isFinite, bne_iff_ne] at h
  simp [isNaN, h]

namespace Json

/-- **A finite number of single precision can be read** from its own digits, which are those of a
number of sixty-four bits near to it. -/
theorem exists_readsAs_singleText {x : Binary32} (h : x.isFinite = true) :
    ∃ m, ReadsAs (singleText x) m := by
  have htext : singleText x = singleLayout.text
      (if x.isZero then .zero x.negative else .digits x.negative x.interval.shortest) := by
    simp [singleText, Binary32.numeric, h, Binary32.isNaN_eq_false h]
  rw [htext]
  refine exists_readsAs_text isNumeric_singleLayout fun hzero => ?_
  have hbounded := Binary32.bounded h hzero
  have hreach : x.interval.scale ≤ 970 := (Binary32.scale_le h).trans (by decide)
  exact ⟨hbounded, RoundingInterval.exists_reading_eq_ok hbounded (.inl hreach) x.negative⟩

end Json

namespace Binary32

open Json
open Binary64 (nearest quotient powTwo_pos gridExponent value_nearest isFinite_nearest)

/-- **A number of single precision is written alike** in both ways: its own digits are read as the
number that the digits of the widened number are read as. Those that are not finite are, for they
are the null in both. A half is written alike; a tenth is not, since the number nearest to `0.1`
among those of sixty-four bits is not the single that is nearest to it. -/
def WritesAlike (x : Binary32) : Prop :=
  x.isFinite = true →
    signedNumeral (singleText x) = .ok ((Number.float x.widen).reread, [])

instance : DecidablePred WritesAlike := fun x =>
  inferInstanceAs (Decidable (x.isFinite = true → _))

theorem WritesAlike.readsAs {x : Binary32} (h : x.WritesAlike) (hfinite : x.isFinite = true) :
    ReadsAs (singleText x) (Number.float x.widen).reread := by
  obtain ⟨m, hm⟩ := exists_readsAs_singleText hfinite
  have heq := hm.signedNumeral_eq.symm.trans (h hfinite)
  obtain rfl : m = (Number.float x.widen).reread := congrArg Prod.fst (Except.ok.inj heq)
  exact hm

/-! ### Widening -/

/-- What is widened is the quotient that the digits are found from. -/
theorem widen_of_isFinite {x : Binary32} (h : x.isFinite = true) :
    x.widen = nearest x.negative x.interval.ratio.1 x.interval.ratio.2 := by
  rw [widen, isNaN_eq_false h, if_neg Bool.false_ne_true, if_pos h]
  rfl

theorem value_le_greatest {x : Binary32} (h : x.isFinite = true) :
    x.interval.value ≤ Binary64.greatest :=
  RoundingInterval.value_le_greatest ((significand_lt x).le.trans (by decide))
    ((scale_le h).trans (by decide))

/-- **Widening keeps what is finite**, as the greatest number of single precision is far below that
of the wider format. -/
theorem isFinite_widen {x : Binary32} (h : x.isFinite = true) : x.widen.isFinite = true := by
  rw [widen_of_isFinite h]
  exact isFinite_nearest _ x.interval.ratio_pos
    (x.interval.quotient_ratio.trans_le (value_le_greatest h))

/-- **Widening is exact**: the wider format has the very number. So the two ways to write a number
of single precision differ in the digits and not in the number. -/
theorem value_widen {x : Binary32} (h : x.isFinite = true) : x.widen.value = x.interval.value := by
  rw [widen_of_isFinite h, ← x.interval.quotient_ratio]
  rcases Nat.eq_zero_or_pos x.significand with hzero | hpos
  · have hnum : x.interval.ratio.1 = 0 := by
      show x.significand * _ = 0
      rw [hzero, Nat.zero_mul]
    rw [nearest, if_pos hnum, quotient, hnum, Nat.cast_zero, zero_div]
    cases x.negative <;> exact mul_eq_zero_of_left (by rfl) _
  · have hbits : x.interval.significand < 2 ^ 24 := (significand_lt x).trans_eq (by norm_num)
    obtain ⟨hlow, hhigh⟩ := RoundingInterval.binaryExponent_mem hpos hbits
    have hscale : -149 ≤ x.interval.scale := le_scale x
    -- so the significand has places to spare on the grid of the wider format
    obtain ⟨n, hn⟩ : ∃ n : Nat, x.interval.scale
        = n + gridExponent x.interval.ratio.1 x.interval.ratio.2 := by
      refine ⟨(x.interval.scale - gridExponent x.interval.ratio.1 x.interval.ratio.2).toNat, ?_⟩
      unfold gridExponent
      omega
    have hpoint : quotient x.interval.ratio = ((x.interval.significand * 2 ^ n : Nat) : ℚ)
        * 2 ^ gridExponent x.interval.ratio.1 x.interval.ratio.2 := by
      rw [x.interval.quotient_ratio, RoundingInterval.value, hn, zpow_add₀ (by norm_num),
        zpow_natCast]
      push_cast
      ring
    exact value_nearest _ (Nat.mul_pos hpos (powTwo_pos x.scale).1) x.interval.ratio_pos (by omega)
      (x.interval.quotient_ratio.trans_le (value_le_greatest h)) hpoint

end Binary32
end RestClient
