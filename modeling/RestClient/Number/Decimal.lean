import RestClient.Number.Binary64

/-!
# Decimal texts of floating-point numbers

A number in decimal notation: digits with an optional point among them or at either end, and an
optional exponent. The number read is the one nearest to the value of the text
(`Binary64.ofDigits?`), whatever the count of digits and the size of the exponent. The words for
the infinities and for what is not a number are added by `Binary64.ofText?`, in any case of letters.
-/

namespace RestClient.Binary64

/-- A decimal digit. -/
def isDecimalDigit (c : Char) : Bool := '0' ≤ c && c ≤ '9'

/-- The value of a row of decimal digits. -/
def decimalValue (cs : List Char) : Nat :=
  cs.foldl (fun n c => n * 10 + (c.toNat - '0'.toNat)) 0

/-- **The number nearest to `digits · 10 ^ exponent`**, decided at once where it is zero or past
the greatest number: `count` is the number of digits. -/
def ofScaled (neg : Bool) (digits count : Nat) (exponent : Int) : Binary64 :=
  if digits = 0 then zero neg
  else if 400 < exponent then infinity neg
  else if exponent + count < -400 then zero neg
  else ofDecimal neg digits exponent

/-- A sign and what follows it. -/
def splitSign (cs : List Char) : Bool × List Char :=
  match cs with
  | '-' :: r => (true, r)
  | '+' :: r => (false, r)
  | _ => (false, cs)

/-- An exponent: nothing, or a mark with a signed row of digits. -/
def exponent? (cs : List Char) : Option Int :=
  match cs with
  | [] => some 0
  | c :: r =>
    if c = 'e' || c = 'E' then
      let (down, ds) := splitSign r
      if !ds.isEmpty && ds.all isDecimalDigit then
        some (if down then -(decimalValue ds : Int) else decimalValue ds)
      else none
    else none

/-- The digits after a point, if there is one, and what follows. -/
def fractionDigits (cs : List Char) : List Char × List Char :=
  match cs with
  | '.' :: r => (r.takeWhile isDecimalDigit, r.dropWhile isDecimalDigit)
  | _ => ([], cs)

/-- **A number in decimal notation**, after its sign. There has to be a digit before the point or
behind it, and all digits count, however many they are. -/
def ofDigits? (neg : Bool) (cs : List Char) : Option Binary64 :=
  let whole := cs.takeWhile isDecimalDigit
  let (fraction, rest) := fractionDigits (cs.dropWhile isDecimalDigit)
  let digits := whole ++ fraction
  if digits.isEmpty then none
  else (exponent? rest).map fun e =>
    ofScaled neg (decimalValue digits) digits.length (e - fraction.length)

/-- **The number that a text stands for**: a sign, and a word or a number in decimal notation. Words
may have letters of either case, digits may be missing on one side of the point, and the whole text
has to be used up. -/
def ofText? (cs : List Char) : Option Binary64 :=
  let (neg, cs) := splitSign cs
  let word := String.ofList (cs.map Char.toLower)
  if word = "inf" || word = "infinity" then some (infinity neg)
  else if word = "nan" then some (if neg then nan.neg else nan)
  else ofDigits? neg cs

end RestClient.Binary64
