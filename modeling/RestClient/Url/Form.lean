import RestClient.Url.Basic

/-!
# Queries as pairs

A query holds pairs of a name and a value: ampersands between the pairs, an equals sign between
name and value, spaces as plus signs, and the bytes of all but a few characters percent-encoded.
`Url.appendPairs` puts pairs behind a query; `Form.decode` reads them.
-/

namespace RestClient.Url

namespace Form

/-- The characters that stand for themselves. -/
def isPlain (c : Char) : Bool := c.isAlphanum || "*-._".toList.contains c

/-- A character of a name or value. -/
def encodeChar (c : Char) : List Char :=
  if c = ' ' then ['+'] else if isPlain c then [c] else percentChar c

/-- A name or value. -/
def encode (s : String) : List Char := s.toList.flatMap encodeChar

/-- A pair. -/
def pairText (p : String × String) : List Char := encode p.1 ++ '=' :: encode p.2

/-- Pairs behind a text that may already hold some. -/
def append (text : List Char) (pairs : List (String × String)) : List Char :=
  pairs.foldl
    (fun acc p => if acc.isEmpty then pairText p else acc ++ '&' :: pairText p) text

/-! ## Decoding -/

/-- The bytes of a name or value. -/
def decodeBytes (cs : List Char) : List UInt8 :=
  percentDecode (cs.map fun c => if c = '+' then ' ' else c)

/-- A name or value, as bytes, cut at the first equals sign. -/
def decodePair (cs : List Char) : List UInt8 × List UInt8 :=
  (decodeBytes (cs.takeWhile (· ≠ '=')), decodeBytes ((cs.dropWhile (· ≠ '=')).drop 1))

/-- **The pairs of a query**, names and values as bytes. Empty parts are no pairs, and a part
without a sign between name and value is a name with the empty value. -/
def decode (cs : List Char) : List (List UInt8 × List UInt8) :=
  ((Text.split '&' cs).filter fun p => !p.isEmpty).map decodePair

end Form

/-- **An address with pairs behind its query.** Without pairs it stays as it is, and no query is
begun. -/
def appendPairs (u : Url) (pairs : List (String × String)) : Url :=
  if pairs.isEmpty then u
  else
    let text := (u.query?.getD "").toList
    { u with query? := some (String.ofList (Form.append text pairs)) }

end RestClient.Url
