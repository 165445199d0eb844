import RestClient.Number.Shortest

/-!
# Layouts of floating-point text

The digits of a number are `RoundingInterval.shortest`; a layout says how they stand: in which range
the point is written out, whether a whole number keeps a point, how an exponent is marked, and what
the numbers without digits are called. One layout value per format that writes numbers, and another
one for numbers of thirty-two bits where the range is not the same for them.

What a layout is given of a number is a `Numeric`: its kind, its sign and its digits. It is made
from either width, and past it the width is forgotten.
-/

namespace RestClient

/-- **What there is to write of a floating-point number**, whatever its width. A NaN has no sign
here, for none is written. -/
inductive Numeric where
  | nan
  | infinity (negative : Bool)
  | zero (negative : Bool)
  /-- A finite number other than zero, by its shortest digits. -/
  | digits (negative : Bool) (d : Decimal)
  deriving DecidableEq, Repr

/-- A number of sixty-four bits, by the fewest digits that read back as it. -/
def Binary64.numeric (x : Binary64) : Numeric :=
  if x.isNaN then .nan
  else if !x.isFinite then .infinity x.negative
  else if x.isZero then .zero x.negative
  else .digits x.negative x.interval.shortest

/-- A number of thirty-two bits, by the fewest digits that read back as it in that width. Widened,
the same number may need more of them. -/
def Binary32.numeric (x : Binary32) : Numeric :=
  if x.isNaN then .nan
  else if !x.isFinite then .infinity x.negative
  else if x.isZero then .zero x.negative
  else .digits x.negative x.interval.shortest

/-- How a format writes a floating-point number: where the point is written out, how an exponent
looks, and what stands for numbers that are not finite. -/
structure FloatLayout where
  /-- Numbers from `10 ^ low` are written with the point in its place, if there is a bound. -/
  low : Option Int
  /-- Numbers below `10 ^ high` are written with the point in its place, if there is a bound. -/
  high : Option Int
  /-- Whether a whole number written in place ends in a point and a zero. -/
  pointZero : Bool
  /-- Whether a positive exponent has a sign. -/
  plusSign : Bool
  /-- The text of a NaN. -/
  nan : String
  /-- The text of the positive infinity. -/
  infinity : String

namespace FloatLayout

/-- The decimal digits of a number, without the zeros at the end, and the place of the point
counted from their start. -/
def digitsAndPoint (d : Decimal) : List Char × Int :=
  let ds := Nat.toDigits 10 d.digits
  let trimmed := (ds.reverse.dropWhile (· = '0')).reverse
  (trimmed, ds.length + d.exponent)

/-- Digits with the point in its place, zeros filled in on either side as the place of the point
asks for them. A whole number ends in a point and a zero only in the layouts that want it. -/
def inPlace (pointZero : Bool) (ds : List Char) (point : Int) : List Char :=
  if point ≤ 0 then
    ['0', '.'] ++ List.replicate point.natAbs '0' ++ ds
  else
    let n := point.toNat
    if ds.length ≤ n then
      ds ++ List.replicate (n - ds.length) '0' ++ (if pointZero then ['.', '0'] else [])
    else
      ds.take n ++ ['.'] ++ ds.drop n

/-- Digits with the point after the first one and the exponent written out. -/
def scientific (plusSign : Bool) (ds : List Char) (point : Int) : List Char :=
  let e := point - 1
  let mantissa := match ds with
    | [] => ['0']
    | [d] => [d]
    | d :: rest => d :: '.' :: rest
  let sign := if e < 0 then ['-'] else if plusSign then ['+'] else []
  mantissa ++ ['e'] ++ sign ++ Nat.toDigits 10 e.natAbs

/-- Whether digits with a point at this place are written out, and not with an exponent. Without a
bound on either side they always are. -/
def reaches (f : FloatLayout) (point : Int) : Bool :=
  f.low.all (· ≤ point - 1) && f.high.all (point - 1 < ·)

/-- The text of digits in a layout. -/
def magnitude (f : FloatLayout) (d : Decimal) : List Char :=
  let (ds, point) := digitsAndPoint d
  if f.reaches point then inPlace f.pointZero ds point
  else scientific f.plusSign ds point

/-- A minus in front of what is negative. -/
def signed (negative : Bool) (cs : List Char) : List Char :=
  (if negative then ['-'] else []) ++ cs

/-- **The text of a number in a layout.** The sign comes first, of an infinity and of a zero too; a
NaN is written without one. -/
def text (f : FloatLayout) : Numeric → List Char
  | .nan => f.nan.toList
  | .infinity negative => signed negative f.infinity.toList
  | .zero negative => signed negative (if f.pointZero then ['0', '.', '0'] else ['0'])
  | .digits negative d => signed negative (f.magnitude d)

end FloatLayout
end RestClient
