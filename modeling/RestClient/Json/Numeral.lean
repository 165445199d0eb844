import RestClient.Json.Error

/-!
# Numerals of JSON

A numeral is an integer if it has neither fraction nor exponent and fits sixty-four bits, signed or
unsigned; minus zero is not an integer. Every other numeral is a floating-point number. Its digits
are collected into a significand as long as they fit sixty-four bits, further digits only move the
point; the significand is rounded to a floating-point number, which is then multiplied or divided
by a power of ten, rounding again.
-/

namespace RestClient.Json

/-- A decimal digit. -/
def isDigit (c : Char) : Bool := '0' ≤ c && c ≤ '9'

/-- The value of a decimal digit. -/
def digitValue (c : Char) : Nat := c.toNat - '0'.toNat

/-- The greatest significand. -/
def maxSignificand : Nat := Nat.pow 2 64 - 1

/-- The greatest exponent. -/
def maxExponent : Nat := Nat.pow 2 31 - 1

/-- Appends digits to a significand while it fits `limit`, and counts the digits that were taken;
the rest are those from the first that did not fit. Digits past the limit count for the place of the
point at most. -/
def takeDigits (limit : Nat) : Nat → List Char → Nat × Nat × List Char
  | acc, [] => (acc, 0, [])
  | acc, c :: rest =>
    let next := acc * 10 + digitValue c
    if next ≤ limit then
      let (s, n, left) := takeDigits limit next rest
      (s, n + 1, left)
    else (acc, 0, c :: rest)

/-- A power of ten as a floating-point number. -/
def powerOfTen (n : Nat) : Binary64 := Binary64.ofNat (Nat.pow 10 n)

/-- Divides by `10 ^ n`, in steps of the greatest power of ten that is finite. -/
def divideByTen (x : Binary64) (n : Nat) : Binary64 :=
  if n ≤ 308 then x.div (powerOfTen n)
  else if x.isZero then x
  else divideByTen (x.div (powerOfTen 308)) (n - 308)
termination_by n

/-- A significand scaled by a power of ten. The significand and the power are floating-point numbers
themselves, so the result may have been rounded more than once; of few digits and a small power it
is still the nearest number. -/
def scaled (negative : Bool) (significand : Nat) (exponent : Int) : Except Fault Number :=
  let x := Binary64.ofNat significand
  let signed (y : Binary64) : Number := .float (if negative then y.neg else y)
  match exponent with
  | .ofNat n =>
    if n ≤ 308 then
      let y := x.mul (powerOfTen n)
      if y.isFinite then .ok (signed y) else .error .numberOutOfRange
    else if x.isZero then .ok (signed x) else .error .numberOutOfRange
  | .negSucc n => .ok (signed (divideByTen x (n + 1)))

/-- The exponent after its mark. An exponent past the greatest one leaves zero if the number is
zero or the exponent negative. -/
def exponentPart (negative : Bool) (significand : Nat) (shift : Int) (cs : List Char) :
    Except Fault (Number × List Char) :=
  let (down, cs) := match cs with
    | '+' :: r => (false, r)
    | '-' :: r => (true, r)
    | _ => (false, cs)
  let digits := cs.takeWhile isDigit
  let rest := cs.dropWhile isDigit
  match digits with
  | [] => .error (if cs.isEmpty then .endInValue else .invalidNumber)
  | _ =>
    let (e, _, left) := takeDigits maxExponent 0 digits
    if left.isEmpty then
      (scaled negative significand (if down then shift - e else shift + e)).map (·, rest)
    else if significand ≠ 0 && !down then .error .numberOutOfRange
    else .ok (.float (Binary64.zero negative), rest)

/-- The fraction after its point, and the exponent if there is one. -/
def fractionPart (negative : Bool) (significand : Nat) (shift : Int) (cs : List Char) :
    Except Fault (Number × List Char) :=
  let digits := cs.takeWhile isDigit
  let rest := cs.dropWhile isDigit
  match digits with
  | [] => .error (if cs.isEmpty then .endInValue else .invalidNumber)
  | _ =>
    let (s, taken, _) := takeDigits maxSignificand significand digits
    let shift := shift - taken
    match rest with
    | 'e' :: r => exponentPart negative s shift r
    | 'E' :: r => exponentPart negative s shift r
    | _ => (scaled negative s shift).map (·, rest)

/-- A whole number, as an integer where sixty-four bits hold it. The negative zero and negative
numbers past `2 ^ 63` are floating-point numbers. -/
def wholeNumber (negative : Bool) (significand : Nat) : Number :=
  if negative then
    if significand = 0 || Nat.pow 2 63 < significand then .float (Binary64.ofNat significand).neg
    else .int (-significand)
  else .int significand

/-- What follows the digits before the point: a fraction, an exponent, or the end. Without either,
and with all digits in the significand, the numeral stays a whole number. -/
def afterInteger (negative : Bool) (significand : Nat) (shift : Int) (cs : List Char) :
    Except Fault (Number × List Char) :=
  match cs with
  | '.' :: r => fractionPart negative significand shift r
  | 'e' :: r => exponentPart negative significand shift r
  | 'E' :: r => exponentPart negative significand shift r
  | _ =>
    if shift = 0 then .ok (wholeNumber negative significand, cs)
    else (scaled negative significand shift).map (·, cs)

/-- **A numeral**, after its sign. It starts with a zero alone or with a digit that is not zero. A
number with a fraction, with an exponent or with too many digits is a floating-point number. -/
def numeral (negative : Bool) (cs : List Char) : Except Fault (Number × List Char) :=
  match cs with
  | [] => .error .endInValue
  | '0' :: r =>
    match r with
    | c :: _ => if isDigit c then .error .invalidNumber else afterInteger negative 0 0 r
    | [] => afterInteger negative 0 0 r
  | c :: r =>
    if isDigit c then
      let digits := c :: r.takeWhile isDigit
      let rest := r.dropWhile isDigit
      let (s, _, left) := takeDigits maxSignificand 0 digits
      afterInteger negative s left.length rest
    else .error .invalidNumber

/-! ## Numerals that are passed over

Only their form is looked at. -/

/-- Passes over an exponent after its mark. -/
def skipExponent (cs : List Char) : Except Fault (List Char) :=
  let cs := match cs with
    | '+' :: r => r
    | '-' :: r => r
    | _ => cs
  match cs.takeWhile isDigit with
  | [] => .error .invalidNumber
  | _ => .ok (cs.dropWhile isDigit)

/-- Passes over what follows the digits before the point. -/
def skipFraction (cs : List Char) : Except Fault (List Char) :=
  match cs with
  | '.' :: r =>
    match r.takeWhile isDigit with
    | [] => .error .invalidNumber
    | _ =>
      match r.dropWhile isDigit with
      | 'e' :: r => skipExponent r
      | 'E' :: r => skipExponent r
      | r => .ok r
  | 'e' :: r => skipExponent r
  | 'E' :: r => skipExponent r
  | _ => .ok cs

/-- Passes over a numeral, after its sign. -/
def skipNumeral (cs : List Char) : Except Fault (List Char) :=
  match cs with
  | '0' :: r =>
    match r with
    | c :: _ => if isDigit c then .error .invalidNumber else skipFraction r
    | [] => .ok r
  | c :: r =>
    if isDigit c then skipFraction (r.dropWhile isDigit) else .error .invalidNumber
  | [] => .error .invalidNumber

end RestClient.Json
