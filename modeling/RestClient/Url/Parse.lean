import RestClient.Url.Domain

/-!
# Reading addresses

`Url.parse` reads the text of an absolute address. Blanks around it and line ends inside it are
dropped. Parts are encoded as they are read; dot segments are resolved; the port that the scheme
takes for granted is left out.
-/

namespace RestClient.Url

/-- Why a text is not an address. A path, a query and a fragment are never at fault, as what cannot
stand in them is encoded. -/
inductive Fault where
  | noScheme
  | emptyHost
  | domain
  | domainCharacter
  | port
  | ipv4
  | ipv6
  deriving DecidableEq, Repr

/-- The message of a fault. -/
def Fault.message : Fault → String
  | .noScheme => "relative URL without a base"
  | .emptyHost => "empty host"
  | .domain => "invalid international domain name"
  | .domainCharacter => "invalid domain character"
  | .port => "invalid port number"
  | .ipv4 => "invalid IPv4 address"
  | .ipv6 => "invalid IPv6 address"

/-! ## The text -/

/-- A tab or a line end. -/
def isDropped (c : Char) : Bool := c = '\t' || c = '\n' || c = '\r'

/-- A control character or the space. -/
def isOuterBlank (c : Char) : Bool := c.toNat ≤ 0x20

/-- The text without blanks around it and without tabs and line ends, which are dropped wherever
they stand. -/
def cleaned (cs : List Char) : List Char :=
  let front := cs.dropWhile isOuterBlank
  let both := (front.reverse.dropWhile isOuterBlank).reverse
  both.filter fun c => !isDropped c

/-- Cuts a text before the first character with a property. -/
def cutAt (p : Char → Bool) (cs : List Char) : List Char × List Char :=
  (cs.takeWhile fun c => !p c, cs.dropWhile fun c => !p c)

/-- The scheme and what follows the colon, if the text starts with a letter and then has only
characters of a scheme up to a colon. The scheme is put in lower case. -/
def scheme? (cs : List Char) : Option (String × List Char) :=
  match cutAt (· = ':') cs with
  | (name@(first :: _), _ :: rest) =>
    if first.isAlpha && name.all fun c => c.isAlphanum || c = '+' || c = '-' || c = '.' then
      some (String.ofList (name.map Char.toLower), rest)
    else none
  | _ => none

/-! ## Paths -/

/-- A segment that stands for the one it is in, also where the dot is encoded. -/
def isSingleDot (segment : List Char) : Bool :=
  ["." , "%2e"].contains (String.ofList (segment.map Char.toLower))

/-- A segment that stands for the one above, also where one dot or both are encoded. -/
def isDoubleDot (segment : List Char) : Bool :=
  ["..", ".%2e", "%2e.", "%2e%2e"].contains (String.ofList (segment.map Char.toLower))

/-- A letter and a colon. -/
def isDrive (segment : List Char) : Bool :=
  match segment with
  | [a, ':'] => a.isAlpha
  | _ => false

/-- A letter and a colon or a bar. -/
def isDriveLetter (segment : List Char) : Bool :=
  match segment with
  | [a, ':'] => a.isAlpha
  | [a, '|'] => a.isAlpha
  | _ => false

/-- Takes away the last segment; a drive at the end of a file's path stays. -/
def shorten (file : Bool) (ss : List (List Char)) : List (List Char) :=
  match ss.getLast? with
  | some s => if file && isDrive s then ss else ss.dropLast
  | none => ss

/-- **One more segment of a path.** A dot segment is resolved; if it is the last one, an empty
segment takes its place, so that the path ends in a slash. In the path of a file a drive in front
keeps its letter and gets a colon. -/
def push (file last : Bool) (ss : List (List Char)) (segment : List Char) : List (List Char) :=
  if isDoubleDot segment then
    let up := shorten file ss
    if last then up ++ [[]] else up
  else if isSingleDot segment then
    if last then ss ++ [[]] else ss
  else if file && ss.isEmpty && isDriveLetter segment then
    ss ++ [segment.take 1 ++ [':']]
  else ss ++ [segment]

/-- Pushes segments in order. -/
def pushAll (file : Bool) : List (List Char) → List (List Char) → List (List Char)
  | ss, [] => ss
  | ss, [s] => push file true ss s
  | ss, s :: rest => pushAll file (push file false ss s) rest

/-- A path without the empty segments in front. -/
def dropLeadingEmpty : List (List Char) → List (List Char)
  | [] :: s :: rest => dropLeadingEmpty (s :: rest)
  | ss => ss

/-- The segments of a path's text, a slash in front of it not counted. In addresses of the web a
backslash is a slash. The segments are encoded before they are pushed, so an encoded dot is a dot as
well. -/
def segmentsOf (scheme : String) (cs : List Char) : List String :=
  let special := isSpecial scheme
  let file := scheme = "file"
  let raw := Text.split '/' (if special then cs.map fun c => if c = '\\' then '/' else c else cs)
  let ss := pushAll file [] (raw.map (percentEncode inPath))
  (if file then dropLeadingEmpty ss else ss).map String.ofList

/-- A text without the slash in front of it. -/
def withoutSlash (special : Bool) (cs : List Char) : List Char :=
  match cs with
  | '/' :: r => r
  | '\\' :: r => if special then r else cs
  | _ => cs

/-- The path after an authority. Only a special scheme's is never empty: nothing is read as one
empty segment there, and as no segments elsewhere. -/
def pathAfterAuthority (scheme : String) (cs : List Char) : Path :=
  if cs.isEmpty && !isSpecial scheme then .segments []
  else .segments (segmentsOf scheme (withoutSlash (isSpecial scheme) cs))

/-! ## Authorities -/

/-- The end of an authority. -/
def endsAuthority (special : Bool) (c : Char) : Bool :=
  c = '/' || c = '?' || c = '#' || (special && c = '\\')

/-- The text before the last `@`, if there is one, and the text after it. -/
def atUser (cs : List Char) : Option (List Char) × List Char :=
  let tail := (cs.reverse.takeWhile (· ≠ '@')).reverse
  if tail.length = cs.length then (none, cs)
  else (some (cs.take (cs.length - tail.length - 1)), tail)

/-- The name and the password before the `@`. An empty password is none. -/
def userOf (cs : List Char) : String × Option String :=
  let (name, rest) := cutAt (· = ':') cs
  let encoded (t : List Char) := String.ofList (percentEncode inUserinfo t)
  match rest with
  | _ :: pw => (encoded name, if pw.isEmpty then none else some (encoded pw))
  | [] => (encoded name, none)

/-- Cuts a host from the port; a colon inside of brackets is the host's. -/
def cutHost : Bool → List Char → List Char × List Char
  | _, [] => ([], [])
  | bracketed, c :: cs =>
    if c = ':' && !bracketed then ([], c :: cs)
    else
      let inside := if c = '[' then true else if c = ']' then false else bracketed
      let r := cutHost inside cs
      (c :: r.1, r.2)

/-- The characters that the host of a scheme that is not special cannot hold. -/
def isForbiddenHost (c : Char) : Bool :=
  c = Char.ofNat 0 || "\t\n\r #/:<>?@[\\]^|".toList.contains c

/-- A host in brackets. -/
def bracketedHost (cs : List Char) : Except Fault Host :=
  match cs.getLast? with
  | some ']' =>
    match ipv6? cs.dropLast with
    | some ps => .ok (.ipv6 ps)
    | none => .error .ipv6
  | _ => .error .ipv6

/-- The host of a special scheme. It is decoded and made an internationalised name, and a name that
ends in a number has to be an address of four bytes. -/
def specialHost (cs : List Char) : Except Fault Host :=
  match cs with
  | '[' :: r => bracketedHost r
  | _ =>
    match (decodeUtf8? (percentDecode cs)).bind Domain.toAscii? with
    | none => .error .domain
    | some [] => .error .emptyHost
    | some name =>
      if endsInNumber name then
        match ipv4? name with
        | some a => .ok (.ipv4 a)
        | none => .error .ipv4
      else .ok (.domain (String.ofList name))

/-- The host of a scheme that is not special, which is kept as it stands but for control characters
and for what lies past ASCII. -/
def plainHost (cs : List Char) : Except Fault Host :=
  match cs with
  | '[' :: r => bracketedHost r
  | _ =>
    if cs.any isForbiddenHost then .error .domainCharacter
    else .ok (.domain (String.ofList (percentEncode isControl cs)))

/-- A port after its colon. -/
def port (scheme : String) (cs : List Char) : Except Fault (Option Nat) :=
  if cs.isEmpty then .ok none
  else
    match digitsValue? 10 cs with
    | some n =>
      if 65535 < n then .error .port
      else .ok (if defaultPort? scheme = some n then none else some n)
    | none => .error .port

/-- Whether a host is no host. -/
def Host.isEmpty : Host → Bool
  | .domain "" => true
  | _ => false

/-- **The authority of an address.** The user ends at the last `@`, the host at the first colon
outside of brackets. A special scheme needs a host, and a user or a port needs one under any
scheme. -/
def authority (scheme : String) (cs : List Char) : Except Fault Authority := do
  let special := isSpecial scheme
  let (user?, rest) := atUser cs
  let (hostText, portText) := cutHost false rest
  match user? with
  | some [] => if rest.isEmpty then .error .emptyHost
  | _ => pure ()
  if special && hostText.isEmpty then .error .emptyHost
  let host ← if special then specialHost hostText else plainHost hostText
  if host.isEmpty && (special || !portText.isEmpty) then .error .emptyHost
  let port? ← port scheme (portText.drop 1)
  let (name, password?) := userOf (user?.getD [])
  if host.isEmpty && (name ≠ "" || password?.isSome) then .error .emptyHost
  return ⟨name, password?, host, port?⟩

/-! ## Files -/

/-- The authority and path of a file, from after the scheme. A host that is a drive belongs to the
path, and the local host goes without saying. -/
def filePart (cs : List Char) : Except Fault (Authority × Path) := do
  let slash (c : Char) : Bool := c = '/' || c = '\\'
  let path (cs : List Char) : Path := .segments (segmentsOf "file" cs)
  let noHost : Authority := { host := .domain "" }
  match cs with
  | a :: b :: rest =>
    if slash a && slash b then
      let (hostText, pathText) := cutAt slash rest
      if isDriveLetter hostText then return (noHost, path rest)
      else if hostText.isEmpty then return (noHost, path (withoutSlash true pathText))
      else
        let host ← specialHost hostText
        let host := if host = .domain "localhost" then .domain "" else host
        return ({ host := host }, path (withoutSlash true pathText))
    else return (noHost, path (withoutSlash true cs))
  | _ => return (noHost, path (withoutSlash true cs))

/-! ## Addresses -/

/-- **The path with its authority**, from after the scheme. Special schemes have an authority
however many slashes there are, others only after two of them; without any slash a path is flat. -/
def hierarchy (scheme : String) (cs : List Char) : Except Fault (Option Authority × Path) :=
  if scheme = "file" then (filePart cs).map fun p => (some p.1, p.2)
  else if isSpecial scheme then do
    let rest := cs.dropWhile fun c => c = '/' || c = '\\'
    let (authorityText, pathText) := cutAt (endsAuthority true) rest
    let a ← authority scheme authorityText
    return (some a, pathAfterAuthority scheme pathText)
  else
    match cs with
    | '/' :: '/' :: rest => do
      let (authorityText, pathText) := cutAt (endsAuthority false) rest
      let a ← authority scheme authorityText
      return (some a, pathAfterAuthority scheme pathText)
    | '/' :: rest => .ok (none, .segments (segmentsOf scheme rest))
    | _ => .ok (none, .flat (String.ofList (percentEncode isControl cs)))

/-- A part after its mark. -/
def markedPart (reserved : Char → Bool) (cs : List Char) : Option String :=
  match cs with
  | _ :: r => some (String.ofList (percentEncode reserved r))
  | [] => none

/-- **An address from its text**, which has to name its scheme. The fragment is cut off first, then
the query, and what is left is read by the rules of the scheme. -/
def parse (s : String) : Except Fault Url := do
  match scheme? (cleaned s.toList) with
  | none => .error .noScheme
  | some (scheme, rest) =>
    let (rest, fragmentText) := cutAt (· = '#') rest
    let (rest, queryText) := cutAt (· = '?') rest
    let (authority?, path) ← hierarchy scheme rest
    return {
      scheme := scheme
      authority? := authority?
      path := path
      query? := markedPart (if isSpecial scheme then inSpecialQuery else inQuery) queryText
      fragment? := markedPart inFragment fragmentText }

end RestClient.Url
