import RestClient.Url.Percent
import RestClient.Text.Split

/-!
# Addresses

A `Url` is an address cut into its parts. The path of a hierarchical address is a list of segments;
other addresses (`mailto:` and the like) have a path that is only a text and cannot be extended. All
parts are kept in the form in which they stand in the text of the address.
-/

namespace RestClient

/-- The host of an address: a name, an address of four bytes as one number, or one of eight pieces
of two bytes. -/
inductive Url.Host where
  | domain (name : String)
  | ipv4 (address : Nat)
  | ipv6 (pieces : List Nat)
  deriving DecidableEq, Repr

/-- What stands between the two slashes and the path: a user with a password, the host, and the port
where it is not the one that the scheme takes for granted. -/
structure Url.Authority where
  username : String := ""
  password? : Option String := none
  host : Url.Host
  port? : Option Nat := none
  deriving DecidableEq, Repr

/-- The path of an address. -/
inductive Url.Path where
  /-- A text that has no segments. -/
  | flat (text : String)
  /-- Segments, a slash in front of each. -/
  | segments (list : List String)
  deriving DecidableEq, Repr

/-- An address in its parts, each in the form in which it stands in the text: encoded, without its
mark, and with dot segments resolved. -/
structure Url where
  scheme : String
  authority? : Option Url.Authority := none
  path : Url.Path
  query? : Option String := none
  fragment? : Option String := none
  deriving DecidableEq, Repr

namespace Url

/-! ## Schemes -/

/-- The schemes whose addresses follow special rules: slashes of either kind separate segments and
a host is needed. -/
def isSpecial (scheme : String) : Bool :=
  ["http", "https", "ws", "wss", "ftp", "file"].contains scheme

/-- The port that a scheme takes for granted. -/
def defaultPort? (scheme : String) : Option Nat :=
  if scheme = "http" || scheme = "ws" then some 80
  else if scheme = "https" || scheme = "wss" then some 443
  else if scheme = "ftp" then some 21
  else none

/-! ## Text -/

/-- A number in decimal digits. -/
def decimal (n : Nat) : List Char := Nat.toDigits 10 n

/-- The text of an address of four bytes. -/
def ipv4Text (a : Nat) : List Char :=
  decimal (a / Nat.pow 2 24 % 256) ++ '.' :: (decimal (a / Nat.pow 2 16 % 256) ++
    '.' :: (decimal (a / Nat.pow 2 8 % 256) ++ '.' :: decimal (a % 256)))

/-- The length of the run of zeros at the front of a list. -/
def zeroRun (ps : List Nat) : Nat := (ps.takeWhile (· = 0)).length

/-- Where the longest run of zeros starts, the first of equally long ones, and its length. -/
def longestZeroRun : Nat → List Nat → Nat × Nat
  | _, [] => (0, 0)
  | i, p :: ps =>
    let here := zeroRun (p :: ps)
    let later := longestZeroRun (i + 1) ps
    if later.2 ≤ here then (i, here) else later

/-- Numbers to base sixteen with colons between them. -/
def pieceText (ps : List Nat) : List Char := Text.join ':' (ps.map (Nat.toDigits 16))

/-- The text of an address of eight pieces; the longest run of two zeros or more is left out. -/
def ipv6Text (ps : List Nat) : List Char :=
  let (start, length) := longestZeroRun 0 ps
  if length < 2 then pieceText ps
  else pieceText (ps.take start) ++ ':' :: ':' :: pieceText (ps.drop (start + length))

/-- The text of a host. -/
def Host.text : Host → List Char
  | .domain name => name.toList
  | .ipv4 a => ipv4Text a
  | .ipv6 ps => '[' :: (ipv6Text ps ++ [']'])

/-- The name and password of a user, with the sign that ends them. -/
def Authority.userText (a : Authority) : List Char :=
  match a.password? with
  | some pw => a.username.toList ++ ':' :: (pw.toList ++ ['@'])
  | none => if a.username.isEmpty then [] else a.username.toList ++ ['@']

/-- The text of an authority, without the slashes in front of it. -/
def Authority.text (a : Authority) : List Char :=
  a.userText ++ a.host.text ++
    (match a.port? with
    | some p => ':' :: decimal p
    | none => [])

/-- The text of segments, a slash in front of each. -/
def segmentsText (ss : List String) : List Char := ss.flatMap fun s => '/' :: s.toList

/-- The text of a path. Without an authority, a path that starts with an empty segment would look
like one, so a dot stands in front of it. -/
def Path.text (hasAuthority : Bool) : Path → List Char
  | .flat t => t.toList
  | .segments ss =>
    match ss with
    | "" :: _ :: _ => if hasAuthority then segmentsText ss else '/' :: '.' :: segmentsText ss
    | _ => segmentsText ss

/-- A part with its mark in front, if there is one. -/
def marked (mark : Char) : Option String → List Char
  | some s => mark :: s.toList
  | none => []

/-- **The text of an address**, its parts one behind the other with their marks. Nothing is encoded
here, as every part already is. -/
def chars (u : Url) : List Char :=
  u.scheme.toList ++ ':' ::
    ((match u.authority? with
      | some a => '/' :: '/' :: a.text
      | none => []) ++
    u.path.text u.authority?.isSome ++ marked '?' u.query? ++ marked '#' u.fragment?)

/-- The text of an address as a string. -/
def text (u : Url) : String := String.ofList u.chars

/-- Whether the path can be extended, which it can if it has segments. An address of a mail box has
a text in place of segments. -/
def isHierarchical (u : Url) : Bool :=
  match u.path with
  | .flat _ => false
  | .segments _ => true

end Url
end RestClient
