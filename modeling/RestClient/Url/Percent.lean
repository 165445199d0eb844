/-!
# Percent-encoding

A part of an address that may not hold a character holds its bytes instead, a percent sign and two
digits to base sixteen each. Which characters those are depends on the part; all characters outside
of ASCII are among them. `percentDecode` reads the bytes back.
-/

namespace RestClient.Url

/-- The bytes of characters. -/
def bytesOf (cs : List Char) : List UInt8 := cs.flatMap String.utf8EncodeChar

/-- A digit to base sixteen, in capitals. -/
def upperHexDigit (n : Nat) : Char := if n < 10 then Char.ofNat (48 + n) else Char.ofNat (55 + n)

/-- A byte as a percent sign and two digits. -/
def percentByte (b : UInt8) : List Char :=
  ['%', upperHexDigit (b.toNat / 16), upperHexDigit (b.toNat % 16)]

/-- A character as its bytes. -/
def percentChar (c : Char) : List Char := (String.utf8EncodeChar c).flatMap percentByte

/-- Encodes the characters that `reserved` names, each as the bytes of its UTF-8 form; all others
stay. A percent sign is encoded only where it is reserved itself. -/
def percentEncode (reserved : Char → Bool) (cs : List Char) : List Char :=
  cs.flatMap fun c => if reserved c then percentChar c else [c]

/-! ## The characters that a part may not hold -/

/-- Control characters and all that is not ASCII. -/
def isControl (c : Char) : Bool := c.toNat < 0x20 || 0x7F ≤ c.toNat

/-- A control character or one of some others. -/
def isControlOr (others : String) (c : Char) : Bool := isControl c || others.toList.contains c

/-- Reserved in a fragment. -/
def inFragment : Char → Bool := isControlOr " \"<>`"

/-- Reserved in a path. -/
def inPath : Char → Bool := isControlOr " \"<>`#?\x7b\x7d"

/-- Reserved in a segment that is put into a path. -/
def inSegment : Char → Bool := isControlOr " \"<>`#?\x7b\x7d/%"

/-- Reserved in such a segment where a backslash separates segments as well. -/
def inSpecialSegment : Char → Bool := isControlOr " \"<>`#?\x7b\x7d/%\\"

/-- Reserved in the name and password of a user. -/
def inUserinfo : Char → Bool := isControlOr " \"<>`#?\x7b\x7d/:;=@[\\]^|"

/-- Reserved in a query. -/
def inQuery : Char → Bool := isControlOr " \"#<>"

/-- Reserved in the query of a special scheme. -/
def inSpecialQuery : Char → Bool := isControlOr " \"#<>'"

/-! ## Decoding -/

/-- The value of a digit to base sixteen. -/
def hexDigitValue (c : Char) : Option Nat :=
  if '0' ≤ c && c ≤ '9' then some (c.toNat - 48)
  else if 'A' ≤ c && c ≤ 'F' then some (c.toNat - 55)
  else if 'a' ≤ c && c ≤ 'f' then some (c.toNat - 87)
  else none

/-- The byte of two digits. -/
def hexByte? (a b : Char) : Option UInt8 := do
  let x ← hexDigitValue a
  let y ← hexDigitValue b
  return UInt8.ofNat (x * 16 + y)

/-- **The bytes of a percent-encoded text.** A percent sign without two digits stands for itself,
and a character that is not encoded for its own bytes. -/
def percentDecode : List Char → List UInt8
  | [] => []
  | [c] => String.utf8EncodeChar c
  | [c, d] => String.utf8EncodeChar c ++ String.utf8EncodeChar d
  | c :: a :: b :: rest =>
    match c, hexByte? a b with
    | '%', some byte => byte :: percentDecode rest
    | _, _ => String.utf8EncodeChar c ++ percentDecode (a :: b :: rest)

/-- The text of some bytes, if they are the bytes of a text. -/
def decodeUtf8? (bs : List UInt8) : Option String := String.fromUTF8? ⟨bs.toArray⟩

end RestClient.Url
