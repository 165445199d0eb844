/-!
# Labels in ASCII

The encoding by which a label of a domain name that is not ASCII is written in ASCII: its ASCII
characters, a hyphen, and then the other characters in order of their numbers, each as the distance
from the one before in a number system of thirty-six digits whose thresholds adapt.
-/

namespace RestClient.Url.Punycode

/-- A digit: the letters, then the decimal digits. -/
def digit (d : Nat) : Char := if d < 26 then Char.ofNat (97 + d) else Char.ofNat (22 + d)

/-- The value of a digit, in either case. -/
def digitValue? (c : Char) : Option Nat :=
  if 'a' ≤ c && c ≤ 'z' then some (c.toNat - 97)
  else if 'A' ≤ c && c ≤ 'Z' then some (c.toNat - 65)
  else if '0' ≤ c && c ≤ '9' then some (c.toNat - 22)
  else none

/-- The threshold of the digit at a position. -/
def threshold (k bias : Nat) : Nat :=
  if k ≤ bias then 1 else if bias + 26 ≤ k then 26 else k - bias

/-- Divides by thirty-five while the number is large, and counts the positions. -/
def shrink (delta k : Nat) : Nat × Nat :=
  if 455 < delta then shrink (delta / 35) (k + 36) else (delta, k)
termination_by delta
decreasing_by exact Nat.div_lt_self (by omega) (by omega)

/-- The bias after a distance. It follows the size of the distances, so that those to come take few
digits. -/
def adapt (delta count : Nat) (first : Bool) : Nat :=
  let d := if first then delta / 700 else delta / 2
  let (d, k) := shrink (d + d / count) 0
  k + 36 * d / (d + 38)

theorem threshold_pos (k bias : Nat) : 1 ≤ threshold k bias := by
  unfold threshold
  split
  · omega
  · split <;> omega

theorem threshold_le (k bias : Nat) : threshold k bias ≤ 26 := by
  unfold threshold
  split
  · omega
  · split <;> omega

/-- The digits of a distance. -/
def distanceDigits (q bias k : Nat) : List Char :=
  let t := threshold k bias
  if q < t then [digit q]
  else digit (t + (q - t) % (36 - t)) :: distanceDigits ((q - t) / (36 - t)) bias (k + 36)
termination_by q
decreasing_by
  have h1 := threshold_pos k bias
  have h2 := threshold_le k bias
  exact Nat.lt_of_le_of_lt (Nat.div_le_self _ _) (by omega)

/-- Where the encoding stands between two characters that are not ASCII. -/
structure State where
  delta : Nat
  bias : Nat
  /-- The number of characters that were encoded. -/
  handled : Nat
  first : Bool
  output : List Char

/-- Passes over the label for the character of number `m`. -/
def encodeRound (m : Nat) (s : State) : List Nat → State
  | [] => s
  | c :: cs =>
    if c < m then encodeRound m { s with delta := s.delta + 1 } cs
    else if c = m then
      encodeRound m
        { delta := 0
          bias := adapt s.delta (s.handled + 1) s.first
          handled := s.handled + 1
          first := false
          output := s.output ++ distanceDigits s.delta s.bias 36 } cs
    else encodeRound m s cs

/-- Encodes the characters of the given numbers, which are in increasing order and all above the
number `n - 1`. -/
def encodeRounds (label : List Nat) (n : Nat) (s : State) : List Nat → State
  | [] => s
  | m :: ms =>
    let s := { s with delta := s.delta + (m - n) * (s.handled + 1) }
    let s := encodeRound m s label
    encodeRounds label (m + 1) { s with delta := s.delta + 1 } ms

/-- Puts a number in its place, unless it is there. -/
def insertOnce (n : Nat) : List Nat → List Nat
  | [] => [n]
  | m :: ms => if n < m then n :: m :: ms else if n = m then m :: ms else m :: insertOnce n ms

/-- **A label in ASCII**, without its mark: its ASCII characters and a hyphen if there are any, then
the places of all others as distances. -/
def encode (label : List Char) : List Char :=
  let basic := label.filter fun c => c.toNat < 128
  let points := label.map Char.toNat
  let others := (points.filter (128 ≤ ·)).foldr insertOnce []
  let front := if basic.isEmpty then [] else basic ++ ['-']
  let s : State := ⟨0, 72, basic.length, true, []⟩
  front ++ (encodeRounds points 128 s others).output

/-! ## Decoding -/

/-- One distance: its value, and the digits after it. -/
def distance? (bias : Nat) : Nat → Nat → Nat → List Char → Option (Nat × List Char)
  | _, _, _, [] => none
  | i, w, k, c :: cs =>
    match digitValue? c with
    | none => none
    | some d =>
      let i := i + d * w
      let t := threshold k bias
      if Nat.pow 2 31 ≤ i then none
      else if d < t then some (i, cs)
      else distance? bias i (w * (36 - t)) (k + 36) cs

/-- Decodes distances; the first argument bounds their number. Each says how far the next character
is from the last one, over all places where it could be put in. -/
def decodeDistances : Nat → Nat → Nat → Nat → List Char → List Char → Option (List Char)
  | 0, _, _, _, out, cs => if cs.isEmpty then some out else none
  | fuel + 1, n, i, bias, out, cs =>
    if cs.isEmpty then some out
    else
      match distance? bias i 1 36 cs with
      | none => none
      | some (j, rest) =>
        let count := out.length + 1
        let m := n + j / count
        let place := j % count
        if m < 0x110000 && !(0xD800 ≤ m && m ≤ 0xDFFF) then
          decodeDistances fuel m (place + 1) (adapt (j - i) count (i = 0))
            (out.take place ++ Char.ofNat m :: out.drop place) rest
        else none

/-- The text before the last hyphen, if there is one, and what follows. -/
def atLastHyphen (cs : List Char) : List Char × List Char :=
  let tail := (cs.reverse.takeWhile (· ≠ '-')).reverse
  if tail.length = cs.length then ([], cs) else (cs.take (cs.length - tail.length - 1), tail)

/-- **The label that a text in ASCII stands for**, without its mark; nothing if the text is no such
encoding. -/
def decode? (cs : List Char) : Option (List Char) :=
  let (basic, rest) := atLastHyphen cs
  if basic.all fun c => c.toNat < 128 then decodeDistances rest.length 128 0 72 basic rest
  else none

end RestClient.Url.Punycode
