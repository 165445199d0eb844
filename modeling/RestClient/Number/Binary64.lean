/-!
# Binary floating point of sixty-four bits

A number is its sixty-four bits: a sign, eleven bits of exponent and fifty-two of fraction. All
that is computed here is exact arithmetic on natural numbers followed by one rounding, to the
nearest number with ties to the even fraction (`Binary64.nearest`), so every result can be
reasoned about without an appeal to the machine.
-/

namespace RestClient

/-- **A binary floating-point number of sixty-four bits**, known by its bits. Two zeros and many
that are no number are told apart, as they are in memory. -/
structure Binary64 where
  /-- The sign, exponent and fraction, from the most significant bit down. -/
  bits : UInt64
  deriving DecidableEq, Repr, Inhabited

namespace Binary64

/-- Whether the sign bit is set. -/
def negative (x : Binary64) : Bool :=
  Nat.pow 2 63 ≤ x.bits.toNat

/-- The eleven bits of the exponent. -/
def exponentField (x : Binary64) : Nat :=
  x.bits.toNat / Nat.pow 2 52 % Nat.pow 2 11

/-- The fifty-two bits of the fraction. -/
def fractionField (x : Binary64) : Nat :=
  x.bits.toNat % Nat.pow 2 52

/-- Neither an infinity nor a NaN. -/
def isFinite (x : Binary64) : Bool :=
  x.exponentField != 2047

/-- The exponent is the greatest one and the fraction is not zero. -/
def isNaN (x : Binary64) : Bool :=
  x.exponentField == 2047 && x.fractionField != 0

/-- The whole number that a power of two scales: the fraction, with the leading bit that a
normal number does not store. -/
def significand (x : Binary64) : Nat :=
  if x.exponentField = 0 then x.fractionField else Nat.pow 2 52 + x.fractionField

/-- The power of two that scales the significand. Numbers without a leading one have the same scale
as the smallest that have one. -/
def scale (x : Binary64) : Int :=
  (max x.exponentField 1 : Nat) - 1075

/-- Zero of either sign. -/
def isZero (x : Binary64) : Bool :=
  x.exponentField == 0 && x.fractionField == 0

/-- Assembles a number from its sign and the sixty-three bits below it. -/
def ofFields (neg : Bool) (magnitude : Nat) : Binary64 :=
  ⟨UInt64.ofNat ((if neg then Nat.pow 2 63 else 0) + magnitude)⟩

/-- The sixty-three bits of an infinity. -/
def infinityBits : Nat := 2047 * Nat.pow 2 52

/-- The infinity of a sign. -/
def infinity (neg : Bool) : Binary64 := ofFields neg infinityBits

/-- The quiet NaN without a payload. -/
def nan : Binary64 := ofFields false (infinityBits + Nat.pow 2 51)

/-- Zero of a sign. -/
def zero (neg : Bool) : Binary64 := ofFields neg 0

/-- A quotient rounded to the nearest whole number, a half going to the even neighbour. -/
def roundedQuotient (num den : Nat) : Nat :=
  let q := num / den
  let r := num % den
  if 2 * r < den then q
  else if den < 2 * r then q + 1
  else if q % 2 = 0 then q else q + 1

/-- A power of two as a fraction, so that exponents of either sign need no cases later. -/
def powTwo (e : Int) : Nat × Nat :=
  match e with
  | .ofNat n => (Nat.pow 2 n, 1)
  | .negSucc n => (1, Nat.pow 2 (n + 1))

/-- The greatest `e` with `2 ^ e ≤ num / den`, for positive `num` and `den`. -/
def binaryExponent (num den : Nat) : Int :=
  let e : Int := (num.log2 : Int) - (den.log2 : Int)
  let p := powTwo e
  if p.1 * den ≤ num * p.2 then e else e - 1

/-- **The number nearest to a quotient.** The significand gets fifty-three bits, or as many as the
least exponent leaves, and a half goes to the even neighbour; past the greatest finite number lies
the infinity. -/
def nearest (neg : Bool) (num den : Nat) : Binary64 :=
  if num = 0 then zero neg
  else
    let q : Int := max (binaryExponent num den - 52) (-1074)
    let p := powTwo q
    let m := roundedQuotient (num * p.2) (den * p.1)
    let magnitude :=
      if m < Nat.pow 2 52 then m
      else (q + 1075).toNat * Nat.pow 2 52 + (m - Nat.pow 2 52)
    if infinityBits ≤ magnitude then infinity neg else ofFields neg magnitude

/-- The magnitude of a finite number as a quotient, which is exact: all rounding is in `nearest`. -/
def ratio (x : Binary64) : Nat × Nat :=
  let p := powTwo x.scale
  (x.significand * p.1, p.2)

/-- The number nearest to a whole number. -/
def ofNat (n : Nat) : Binary64 := nearest false n 1

/-- The number nearest to an integer. Zero is positive. -/
def ofInt (n : Int) : Binary64 := nearest (n < 0) n.natAbs 1

/-- The product of two finite numbers, rounded once: the exact product is a quotient, and the result
is the number nearest to it. -/
def mul (x y : Binary64) : Binary64 :=
  let a := x.ratio
  let b := y.ratio
  nearest (x.negative != y.negative) (a.1 * b.1) (a.2 * b.2)

/-- The quotient of two finite numbers, rounded once: the exact one is a quotient, and the result is
the number nearest to it. -/
def div (x y : Binary64) : Binary64 :=
  let a := x.ratio
  let b := y.ratio
  nearest (x.negative != y.negative) (a.1 * b.2) (a.2 * b.1)

/-- The number with the other sign. -/
def neg (x : Binary64) : Binary64 :=
  ofFields (!x.negative) (x.bits.toNat % Nat.pow 2 63)

/-- The number nearest to a decimal `digits · 10 ^ exponent`, rounded once from the exact
quotient. -/
def ofDecimal (neg : Bool) (digits : Nat) (exponent : Int) : Binary64 :=
  match exponent with
  | .ofNat n => nearest neg (digits * Nat.pow 10 n) 1
  | .negSucc n => nearest neg digits (Nat.pow 10 (n + 1))

end Binary64
end RestClient
