import RestClient.Number.Binary32

/-!
# The fewest digits that read back

A finite number is written with the fewest decimal digits whose nearest number is the number
itself; among the decimals of that length the nearest is taken. The reals that round to a number
form an interval, whose ends belong to it when the significand is even. On the grid of decimals
with a given count of digits, if any point lies in the interval then one of the two neighbours of
the number does, so only those two are tried, for one digit, then two, up to seventeen.

The interval is all that the search needs to know of a number (`RoundingInterval`). Numbers of
thirty-two and of sixty-four bits differ in how wide it is, and so the same real may have fewer
digits in the narrower format.
-/

namespace RestClient

/-- A decimal `digits · 10 ^ exponent`. One number has many such forms; the search for the shortest
one ends with a form whose digits are as few as can be. -/
structure Decimal where
  digits : Nat
  exponent : Int
  deriving DecidableEq, Repr, Inhabited

namespace Binary64

/-- A power of ten as a fraction. -/
def powTen (e : Int) : Nat × Nat :=
  match e with
  | .ofNat n => (Nat.pow 10 n, 1)
  | .negSucc n => (1, Nat.pow 10 (n + 1))

/-- Raises `e` while `10 ^ (e + 1) ≤ num / den`, at most `tries` times. -/
def raiseExponent (num den : Nat) : Nat → Int → Int
  | 0, e => e
  | tries + 1, e =>
    let p := powTen (e + 1)
    if p.1 * den ≤ num * p.2 then raiseExponent num den tries (e + 1) else e

/-- The greatest `e` with `10 ^ e ≤ num / den`, for positive `num` and `den`: a multiple of the
binary exponent gives a lower bound that is at most a few too small. -/
def decimalExponent (num den : Nat) : Int :=
  raiseExponent num den 5 ((binaryExponent num den * 30103).fdiv 100000 - 2)

end Binary64

/-- **The reals that round to a number** `significand · 2 ^ scale`. Above the number they go up to
half of its last place, and below it down to `lowerMargin` quarters of that place: half of it again,
or a quarter where the numbers below lie twice as close. -/
structure RoundingInterval where
  significand : Nat
  scale : Int
  lowerMargin : Nat
  deriving DecidableEq, Repr, Inhabited

namespace RoundingInterval

open Binary64 (powTen powTwo decimalExponent)

/-- The number in the interval as a quotient. -/
def ratio (i : RoundingInterval) : Nat × Nat :=
  let p := powTwo i.scale
  (i.significand * p.1, p.2)

/-- Whether `c · 10 ^ k` rounds to the number. The ends of the interval lie halfway to a neighbour,
so they belong to it just when the significand is even. -/
def readsBack (i : RoundingInterval) (c : Nat) (k : Int) : Bool :=
  let p := powTen k
  let q := powTwo (i.scale - 2)
  let point := c * p.1 * q.2
  let unit := p.2 * q.1
  let low := (4 * i.significand - i.lowerMargin) * unit
  let high := (4 * i.significand + 2) * unit
  if i.significand % 2 = 0 then low ≤ point && point ≤ high
  else low < point && point < high

/-- The better of the two neighbours of the number on the grid of multiples of `10 ^ k`, if either
reads back: the nearer one, and of two equally near ones the even one. -/
def onGrid (i : RoundingInterval) (k : Int) : Option Nat :=
  let p := powTen k
  let r := i.ratio
  let num := r.1 * p.2
  let den := r.2 * p.1
  let c := num / den
  let rest := num % den
  let below := i.readsBack c k
  let above := i.readsBack (c + 1) k
  match below, above with
  | false, false => none
  | true, false => some c
  | false, true => some (c + 1)
  | true, true =>
    if 2 * rest < den then some c
    else if den < 2 * rest then some (c + 1)
    else if c % 2 = 0 then some c else some (c + 1)

/-- Tries the grids from `k` downwards, `tries` of them. They get finer, so the first one that has a
number in the interval gives the fewest digits. -/
def searchGrids (i : RoundingInterval) : Nat → Int → Decimal
  | 0, k => ⟨0, k⟩
  | tries + 1, k =>
    match i.onGrid k with
    | some c => ⟨c, k⟩
    | none => searchGrids i tries (k - 1)

/-- **The shortest decimal that rounds to the number.** The first grid tried is that of the greatest
power of ten in the number, and the last one is finer by seventeen digits; the first that has a
multiple in the interval gives the fewest digits. -/
def shortest (i : RoundingInterval) : Decimal :=
  let r := i.ratio
  i.searchGrids 18 (decimalExponent r.1 r.2)

end RoundingInterval

/-- What rounds to a finite number of sixty-four bits, or to its magnitude. -/
def Binary64.interval (x : Binary64) : RoundingInterval :=
  ⟨x.significand, x.scale, if x.fractionField = 0 ∧ 1 < x.exponentField then 1 else 2⟩

/-- What rounds to a finite number of thirty-two bits, or to its magnitude. -/
def Binary32.interval (x : Binary32) : RoundingInterval :=
  ⟨x.significand, x.scale, if x.fractionField = 0 ∧ 1 < x.exponentField then 1 else 2⟩

end RestClient
