import RestClient.Data.Shape
import RestClient.Number.Decimal
import RestClient.Number.Layout

/-!
# Plain scalars

In YAML the text of a plain scalar decides what it stands for: the null, a truth value, an integer
to one of four bases, a floating-point number, or itself. `Yaml.resolve` is the rule when nothing
is known about the type; the readers for one type each (`Yaml.int?`, `Yaml.float?`, …) are its
parts. A writer has to quote a text that would not stand for itself.
-/

namespace RestClient.Yaml

/-- The spellings of the null. -/
def isNull (s : String) : Bool := s = "null" || s = "Null" || s = "NULL" || s = "~"

/-- The spellings of the truth values: in small letters, in capitals, or with a capital in front,
and no others. -/
def bool? (s : String) : Option Bool :=
  if s = "true" || s = "True" || s = "TRUE" then some true
  else if s = "false" || s = "False" || s = "FALSE" then some false
  else none

/-! ## Numbers -/

/-- The value of a digit to a base of at most sixteen. -/
def digit? (base : Nat) (c : Char) : Option Nat :=
  let v :=
    if '0' ≤ c && c ≤ '9' then c.toNat - '0'.toNat
    else if 'a' ≤ c && c ≤ 'f' then c.toNat - 'a'.toNat + 10
    else if 'A' ≤ c && c ≤ 'F' then c.toNat - 'A'.toNat + 10
    else base
  if v < base then some v else none

/-- The value of a row of digits. -/
def natural? (base : Nat) (cs : List Char) : Option Nat :=
  if cs.isEmpty then none
  else cs.foldlM (fun n c => (digit? base c).map (n * base + ·)) 0

/-- Zeros in front of digits make a text of them: `007` is no number, whether it is read or
written. -/
def hasLeadingZero (cs : List Char) : Bool :=
  match (Binary64.splitSign cs).2 with
  | '0' :: c :: rest => (c :: rest).all Binary64.isDecimalDigit
  | _ => false

/-- The magnitude of an integer, after its sign: the base is sixteen, eight or two after `0x`,
`0o` or `0b`, and else ten. -/
def magnitude? (cs : List Char) : Option Nat :=
  match cs with
  | '0' :: 'x' :: r => natural? 16 r
  | '0' :: 'o' :: r => natural? 8 r
  | '0' :: 'b' :: r => natural? 2 r
  | _ => if hasLeadingZero cs then none else natural? 10 cs

/-- **The integer that a text stands for**: a sign of either kind, then a magnitude to one of four
bases. -/
def int? (cs : List Char) : Option Int :=
  let (down, r) := Binary64.splitSign cs
  (magnitude? r).map fun n => if down then -(n : Int) else n

/-- The integers that are told from floating-point numbers when the type is open. -/
def isInteger (n : Int) : Bool := -Int.pow 2 127 ≤ n && n < Int.pow 2 128

/-- A number in decimal notation that is not past the greatest one. -/
def finite? (neg : Bool) (cs : List Char) : Option Binary64 :=
  match Binary64.ofDigits? neg cs with
  | some x => if x.isFinite then some x else none
  | none => none

/-- **The floating-point number that a text stands for**: an infinity or the NaN, which take a point
and then the word, or a decimal number that is not past the greatest one. The NaN takes no sign. -/
def float? (cs : List Char) : Option Binary64 :=
  let (neg, r) := Binary64.splitSign cs
  let word := String.ofList r
  if word = ".inf" || word = ".Inf" || word = ".INF" then some (Binary64.infinity neg)
  else if r.length = cs.length && (word = ".nan" || word = ".NaN" || word = ".NAN") then
    some Binary64.nan
  else finite? neg r

/-- **What a plain scalar stands for** when its type is open. The null comes first, then the truth
values, then integers of at most a hundred and twenty-eight bits, then floating-point numbers, and
what is none of these is a text. -/
def resolve (s : String) : Scalar :=
  let cs := s.toList
  if s.isEmpty || isNull s then .unit
  else
    match bool? s with
    | some b => .bool b
    | none =>
      match (int? cs).filter isInteger with
      | some n => .int n
      | none =>
        match if hasLeadingZero cs then none else float? cs with
        | some x => .float x
        | none => .text s

/-- Floating-point numbers in YAML: a point in the same range as in JSON, no sign before a positive
exponent, and words of their own for the numbers without digits. -/
def floatLayout : FloatLayout := ⟨some (-5), some 16, true, false, ".nan", ".inf"⟩

/-- Numbers of single precision in YAML: a point in the range that it has for them in JSON. -/
def singleLayout : FloatLayout := { floatLayout with low := some (-6), high := some 13 }

end RestClient.Yaml
