import RestClient.Number.Binary64

/-!
# Binary floating point of thirty-two bits

A number of single precision is its thirty-two bits: a sign, eight bits of exponent and twenty-three
of fraction. Nothing is computed in this format. A single is either written by digits of its own,
which are those that no other single is nearer to, or it is widened first (`Binary32.widen`), and
then it has the digits of a `Binary64`. So `0.1` in single precision is `0.1` by its own digits and
`0.10000000149011612` once it is widened.
-/

namespace RestClient

/-- **A binary floating-point number of thirty-two bits**, known by its bits. It is only ever given
to be written; what is read is read in double precision. -/
structure Binary32 where
  /-- The sign, exponent and fraction, from the most significant bit down. -/
  bits : UInt32
  deriving DecidableEq, Repr, Inhabited

namespace Binary32

/-- Whether the sign bit is set. -/
def negative (x : Binary32) : Bool :=
  Nat.pow 2 31 ≤ x.bits.toNat

/-- The eight bits of the exponent. -/
def exponentField (x : Binary32) : Nat :=
  x.bits.toNat / Nat.pow 2 23 % Nat.pow 2 8

/-- The twenty-three bits of the fraction. -/
def fractionField (x : Binary32) : Nat :=
  x.bits.toNat % Nat.pow 2 23

/-- Neither an infinity nor a NaN. -/
def isFinite (x : Binary32) : Bool :=
  x.exponentField != 255

/-- The exponent is the greatest one and the fraction is not zero. -/
def isNaN (x : Binary32) : Bool :=
  x.exponentField == 255 && x.fractionField != 0

/-- Zero of either sign. -/
def isZero (x : Binary32) : Bool :=
  x.exponentField == 0 && x.fractionField == 0

/-- The whole number that a power of two scales: the fraction, with the leading bit that a
normal number does not store. -/
def significand (x : Binary32) : Nat :=
  if x.exponentField = 0 then x.fractionField else Nat.pow 2 23 + x.fractionField

/-- The power of two that scales the significand. -/
def scale (x : Binary32) : Int :=
  (max x.exponentField 1 : Nat) - 150

/-- **The same number in sixty-four bits.** Twenty-four bits of significand fit into fifty-three and
the exponents are among those of the wider format, so that rounding leaves the number as it is. A
NaN loses its payload, which no format writes. -/
def widen (x : Binary32) : Binary64 :=
  if x.isNaN then Binary64.nan
  else if x.isFinite then
    let p := Binary64.powTwo x.scale
    Binary64.nearest x.negative (x.significand * p.1) p.2
  else Binary64.infinity x.negative

end Binary32
end RestClient
