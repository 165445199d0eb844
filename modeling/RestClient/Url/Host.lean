import RestClient.Url.Basic

/-!
# Numbers as hosts

The hosts that are numbers: four parts with dots between them, each decimal, octal or hexadecimal,
the last one filling the bytes that are left; and eight pieces with colons between them, of which
one run of zeros may be left out.
-/

namespace RestClient.Url

/-! ## Four bytes -/

/-- The value of digits to a base, if they are digits of it. -/
def digitsValue? (base : Nat) (cs : List Char) : Option Nat :=
  let digit? (c : Char) : Option Nat := (hexDigitValue c).filter (· < base)
  cs.foldlM (fun n c => (digit? c).map (n * base + ·)) 0

/-- A part of an address: hexadecimal after `0x`, octal after another zero, else decimal. -/
def ipv4Number? (cs : List Char) : Option Nat :=
  match cs with
  | [] => none
  | '0' :: 'x' :: r => digitsValue? 16 r
  | '0' :: 'X' :: r => digitsValue? 16 r
  | '0' :: c :: r => digitsValue? 8 (c :: r)
  | _ => digitsValue? 10 cs

/-- The parts between the dots; a dot at the end separates nothing. -/
def dottedParts (cs : List Char) : List (List Char) :=
  let ps := Text.split '.' cs
  match ps.getLast? with
  | some [] => if 1 < ps.length then ps.dropLast else ps
  | _ => ps

/-- **Whether a host is to be read as a number**: its last part is one, or is made of digits. Such a
host is an address of four bytes or none at all. -/
def endsInNumber (cs : List Char) : Bool :=
  match (dottedParts cs).getLast? with
  | none => false
  | some last =>
    (!last.isEmpty && last.all Char.isDigit) || (ipv4Number? last).isSome

/-- The bytes in front of the last part, each below 256, as the high bytes of a number. -/
def highBytes? : Nat → List Nat → Option Nat
  | _, [] => some 0
  | place, b :: rest =>
    if b < 256 then (highBytes? (place - 1) rest).map (b * Nat.pow 2 (8 * place) + ·) else none

/-- An address of four bytes, from four parts or fewer: the last part fills the bytes that the
others leave. -/
def ipv4? (cs : List Char) : Option Nat := do
  let parts := dottedParts cs
  if 4 < parts.length then none
  else
    let numbers ← parts.mapM ipv4Number?
    let last ← numbers.getLast?
    let front := numbers.dropLast
    if last < Nat.pow 2 (32 - 8 * front.length) then
      return (← highBytes? 3 front) + last
    else none

/-! ## Eight pieces -/

/-- Four decimal bytes without leading zeros, as two pieces. -/
def embeddedIpv4? (cs : List Char) : Option (List Nat) := do
  let parts := Text.split '.' cs
  let byte? (p : List Char) : Option Nat :=
    match p with
    | [] => none
    | ['0'] => some 0
    | '0' :: _ => none
    | _ => (digitsValue? 10 p).bind fun n => if n < 256 then some n else none
  match ← parts.mapM byte? with
  | [a, b, c, d] => some [a * 256 + b, c * 256 + d]
  | _ => none

/-- A piece: one to four digits to base sixteen. -/
def piece? (cs : List Char) : Option Nat :=
  if cs.isEmpty || 4 < cs.length then none else digitsValue? 16 cs

/-- The pieces between single colons; the last may be written as four bytes. -/
def pieces? : List (List Char) → Option (List Nat)
  | [] => some []
  | [p] => if p.contains '.' then embeddedIpv4? p else (piece? p).map ([·])
  | p :: rest => do
    let n ← piece? p
    let ns ← pieces? rest
    return n :: ns

/-- The pieces of a text, none of an empty one. -/
def piecesOf? (cs : List Char) : Option (List Nat) :=
  if cs.isEmpty then some [] else pieces? (Text.split ':' cs)

/-- What stands before and after the first double colon. -/
def atDoubleColon : List Char → Option (List Char × List Char)
  | [] => none
  | [_] => none
  | a :: b :: rest =>
    if a = ':' && b = ':' then some ([], rest)
    else (atDoubleColon (b :: rest)).map fun p => (a :: p.1, p.2)

/-- **An address of eight pieces**, without its brackets. A double colon stands for the pieces that
are missing, of which there has to be one. -/
def ipv6? (cs : List Char) : Option (List Nat) := do
  match atDoubleColon cs with
  | none =>
    let ps ← piecesOf? cs
    if ps.length = 8 then some ps else none
  | some (front, back) =>
    if front.contains '.' then none
    else
      let fs ← piecesOf? front
      let bs ← piecesOf? back
      if fs.length + bs.length < 8 then
        some (fs ++ List.replicate (8 - fs.length - bs.length) 0 ++ bs)
      else none

end RestClient.Url
