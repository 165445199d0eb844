import RestClient.Xml.Error

/-!
# The markup of a document

A document is a row of pieces: tags, text between them, references to entities in the text, and
what says nothing about the content – comments, instructions and the document type.
`Piece.next` cuts off the first piece and does not look further, so that what follows a value never
matters to it.
-/

namespace RestClient.Xml

/-- The blanks of a document. -/
def isBlank (c : Char) : Bool := c = ' ' || c = '\t' || c = '\n' || c = '\r'

/-- A text without the blanks around it. -/
def trimmed (cs : List Char) : List Char :=
  ((cs.dropWhile isBlank).reverse.dropWhile isBlank).reverse

/-- The text before the first occurrence of a row of characters, and the text after it. -/
def cutAt? (mark : List Char) : List Char → Option (List Char × List Char)
  | [] => if mark.isEmpty then some ([], []) else none
  | c :: cs =>
    if mark.isPrefixOf (c :: cs) then some ([], (c :: cs).drop mark.length)
    else (cutAt? mark cs).map fun p => (c :: p.1, p.2)

/-- **A piece of a document**, as it stands in the text. References are pieces of their own, since
what they stand for is not looked for markup. -/
inductive Piece where
  /-- A tag that opens an element and may close it at once. -/
  | opens (name attributes : List Char) (closed : Bool)
  | closes (name : List Char)
  | text (cs : List Char)
  /-- Text in which nothing is markup. -/
  | literal (cs : List Char)
  | reference (name : List Char)
  /-- A piece without content. -/
  | remark
  | finish
  deriving DecidableEq, Repr

/-- The text of a tag up to its closing bracket, which may not stand between quotes. -/
def tagText? : Option Char → List Char → Option (List Char × List Char)
  | _, [] => none
  | quote?, c :: cs =>
    match quote? with
    | none =>
      if c = '>' then some ([], cs)
      else
        let quote? := if c = '"' || c = '\'' then some c else none
        (tagText? quote? cs).map fun p => (c :: p.1, p.2)
    | some q =>
      (tagText? (if c = q then none else some q) cs).map fun p => (c :: p.1, p.2)

/-- The document type, whose angle brackets come in pairs; `depth` pairs are open. -/
def skipDoctype : Nat → List Char → Option (List Char)
  | _, [] => none
  | depth, c :: cs =>
    if c = '<' then skipDoctype (depth + 1) cs
    else if c = '>' then
      match depth with
      | 0 => some cs
      | depth + 1 => skipDoctype depth cs
    else skipDoctype depth cs

/-- The name and the attributes in a tag. -/
def tagParts (cs : List Char) : List Char × List Char := cs.span fun c => !isBlank c

namespace Piece

/-- A tag that opens an element, from the text in it. -/
def ofTag (cs : List Char) : Piece :=
  match cs.reverse with
  | '/' :: r =>
    let (name, attributes) := tagParts r.reverse
    .opens name attributes true
  | _ =>
    let (name, attributes) := tagParts cs
    .opens name attributes false

/-- A piece without content, if what it needs is there. -/
def remarkBefore (rest? : Option (List Char)) : Except Error (Piece × List Char) :=
  match rest? with
  | some rest => .ok (.remark, rest)
  | none => .error .malformed

/-- What begins with an exclamation mark. -/
def declaration (cs : List Char) : Except Error (Piece × List Char) :=
  match cs with
  | '-' :: '-' :: r => remarkBefore ((cutAt? ['-', '-', '>'] r).map (·.2))
  | '[' :: r =>
    if "CDATA[".toList.isPrefixOf r then
      match cutAt? [']', ']', '>'] (r.drop 6) with
      | some (content, rest) => .ok (.literal content, rest)
      | none => .error .malformed
    else .error .malformed
  | _ =>
    let isDoctype := (cs.take 7).map Char.toUpper = "DOCTYPE".toList
    let named := ((cs.drop 7).dropWhile isBlank).head?.any (· ≠ '>')
    if isDoctype && named then remarkBefore (skipDoctype 0 (cs.drop 7)) else .error .malformed

/-- An instruction, from after its question mark. -/
def instruction (cs : List Char) : Except Error (Piece × List Char) :=
  if cs.head? = some '>' then .error .malformed
  else remarkBefore ((cutAt? ['?', '>'] cs).map (·.2))

/-- What begins with an opening angle bracket: a remark, a tag that closes or one that opens. A tag
ends at the first closing bracket that is not in quotes. -/
def markup (cs : List Char) : Except Error (Piece × List Char) :=
  match cs with
  | [] => .error .malformed
  | '!' :: r => declaration r
  | '?' :: r => instruction r
  | '/' :: r =>
    match tagText? none r with
    | some (name, rest) => .ok (.closes (name.reverse.dropWhile isBlank).reverse, rest)
    | none => .error .malformed
  | cs =>
    match tagText? none cs with
    | some (tag, rest) => .ok (ofTag tag, rest)
    | none => .error .malformed

/-- A reference, from after its ampersand: it ends in a semicolon before other markup. -/
def referenceAt (cs : List Char) : Except Error (Piece × List Char) :=
  let (name, rest) := cs.span fun c => c ≠ ';' && c ≠ '&' && c ≠ '<'
  match rest with
  | ';' :: rest => .ok (.reference name, rest)
  | _ => .error .malformed

/-- **The first piece of a document**, and what follows it. Whether tags match is no question of
pieces; they are read one after the other, and the stream keeps the open elements. -/
def next (cs : List Char) : Except Error (Piece × List Char) :=
  match cs with
  | [] => .ok (.finish, [])
  | '<' :: r => markup r
  | '&' :: r => referenceAt r
  | cs =>
    let (content, rest) := cs.span fun c => c ≠ '<' && c ≠ '&'
    .ok (.text content, rest)

end Piece

/-! ## References -/

/-- The value of a row of digits to a base of ten or sixteen. -/
def digitsValue? (base : Nat) (cs : List Char) : Option Nat :=
  let digit? (c : Char) : Option Nat :=
    if '0' ≤ c && c ≤ '9' then some (c.toNat - '0'.toNat)
    else if base = 16 && 'a' ≤ c && c ≤ 'f' then some (c.toNat - 'a'.toNat + 10)
    else if base = 16 && 'A' ≤ c && c ≤ 'F' then some (c.toNat - 'A'.toNat + 10)
    else none
  if cs.isEmpty then none else cs.foldlM (fun n c => (digit? c).map (n * base + ·)) 0

/-- A character by its number, which is neither zero nor half of a pair. -/
def charOfNumber? (n : Nat) : Option Char :=
  if n = 0 || (0xD800 ≤ n && n ≤ 0xDFFF) || 0x10FFFF < n then none else some (Char.ofNat n)

/-- The entities that need no declaration. -/
def predefined : List (String × Char) :=
  [("lt", '<'), ("gt", '>'), ("amp", '&'), ("apos", '\''), ("quot", '"')]

/-- **The character that a reference stands for**: by its number to one of two bases, or by one of
the five names that need no declaration. -/
def resolve (name : List Char) : Except Error Char :=
  let c? := match name with
    | '#' :: 'x' :: ds => (digitsValue? 16 ds).bind charOfNumber?
    | '#' :: ds => (digitsValue? 10 ds).bind charOfNumber?
    | _ => predefined.lookup (String.ofList name)
  match c? with
  | some c => .ok c
  | none => .error .unknownEntity

/-- A text with its references replaced by what they stand for. A reference that is not ended or not
known is an error, wherever it stands. -/
def unescaped : Nat → List Char → Except Error (List Char)
  | 0, _ => .error .malformed
  | _ + 1, [] => .ok []
  | fuel + 1, '&' :: r => do
    let (name, rest) := r.span fun c => c ≠ ';' && c ≠ '&'
    match rest with
    | ';' :: rest => return (← resolve name) :: (← unescaped fuel rest)
    | _ => .error .malformed
  | fuel + 1, c :: r => (unescaped fuel r).map (c :: ·)

/-- A text with every end of line written as the same character. Two characters that end a line
together count once. -/
def withLineEnds : List Char → List Char
  | [] => []
  | '\r' :: '\n' :: r => '\n' :: withLineEnds r
  | '\r' :: c :: r =>
    if c = Char.ofNat 0x85 then '\n' :: withLineEnds r else '\n' :: withLineEnds (c :: r)
  | c :: r =>
    (if c = '\r' || c = Char.ofNat 0x85 || c = Char.ofNat 0x2028 then '\n' else c) ::
      withLineEnds r

/-! ## Attributes -/

/-- The attributes of a tag up to the first that is not well formed, and whether all are. No name
stands twice. -/
def attributesFrom : Nat → List (List Char) → List Char → List (List Char × List Char) × Bool
  | 0, _, _ => ([], false)
  | fuel + 1, seen, cs =>
    match cs.dropWhile isBlank with
    | [] => ([], true)
    | c :: cs =>
      let (tail, rest) := cs.span fun d => d ≠ '=' && !isBlank d
      let name := c :: tail
      match rest.dropWhile isBlank with
      | '=' :: rest =>
        match rest.dropWhile isBlank with
        | q :: rest =>
          if seen.contains name || (q ≠ '"' && q ≠ '\'') then ([], false)
          else
            match cutAt? [q] rest with
            | some (value, rest) =>
              let (more, fine) := attributesFrom fuel (name :: seen) rest
              ((name, value) :: more, fine)
            | none => ([], false)
        | [] => ([], false)
      | _ => ([], false)

/-- The well-formed attributes of a tag, and whether these are all. -/
def attributesIn (cs : List Char) : List (List Char × List Char) × Bool :=
  attributesFrom (cs.length + 1) [] cs

/-- A name without the part up to its first colon. -/
def localName (cs : List Char) : List Char :=
  match cs.dropWhile (· ≠ ':') with
  | _ :: rest => rest
  | [] => cs

end RestClient.Xml
