import RestClient.Yaml.Scalar
import RestClient.Yaml.Token

/-!
# From characters to tokens

`tokens` cuts a stream into tokens. Two things make this more than a matter of characters.

*Columns.* A token in a column further in than the collection around it opens a new one if it is
an entry of a collection, and a token further out closes all collections that it stands outside
of. Inside of brackets columns do not matter.

*Keys.* That something is a key shows only at the colon after it. So the place where a key may have
begun is remembered as a `Candidate`, one for every level of brackets, and the colon puts the key
token there. A candidate is given up at the end of its line; where the columns leave no other
reading than a key, that is an error.
-/

namespace RestClient.Yaml

/-- **A place where a key may have begun.** Only the colon behind it tells; its token is then put in
front of those that were read since. -/
structure Candidate where
  /-- Whether nothing but a key can stand there. -/
  required : Bool
  /-- The count of tokens before it. -/
  position : Nat
  start : Cursor

/-- What is known at a place in a stream. A key is recognised only by the colon after it, so places
where one may have begun are remembered, and its token is put in front of them later. -/
structure Scanner where
  cursor : Cursor
  /-- The column of the collection in block form, or minus one. -/
  indent : Int := -1
  /-- The columns of the collections around it, the innermost first. -/
  outerIndents : List Int := []
  candidate? : Option Candidate := none
  /-- The candidates outside of the brackets around the place, the innermost first. -/
  outerCandidates : List (Option Candidate) := []
  /-- Whether a key may begin here. -/
  keyAllowed : Bool := true
  tokens : Array Token := #[]

namespace Scanner

/-- Whether the place is inside of brackets. -/
def inFlow (s : Scanner) : Bool := !s.outerCandidates.isEmpty

/-- Adds a token. -/
def push (s : Scanner) (t : Token) : Scanner := { s with tokens := s.tokens.push t }

/-- Adds a token of some characters. -/
def take (s : Scanner) (t : Token) (n : Nat) : Scanner :=
  { s.push t with cursor := s.cursor.skip n }

/-! ## Columns -/

/-- Opens a collection at a column, unless the place is inside of brackets or of a collection that
is as far in. The token goes to the given position. -/
def openBlock (s : Scanner) (c : Collection) (column position : Nat) : Scanner :=
  if !s.inFlow && s.indent < column then
    { s with
      indent := column
      outerIndents := s.indent :: s.outerIndents
      tokens := s.tokens.insertIdxIfInBounds position (.opens c) }
  else s

/-- Closes the collections that a column is outside of, the innermost first. Inside brackets columns
mean nothing. -/
def closeBlocks (s : Scanner) (column : Int) : Scanner :=
  if s.inFlow then s
  else
    let closed := (s.indent :: s.outerIndents).takeWhile (column < ·)
    let left := (s.indent :: s.outerIndents).dropWhile (column < ·)
    { s with
      indent := left.headD (-1)
      outerIndents := left.tail
      tokens := s.tokens ++ List.replicate closed.length Token.blockEnd }

/-! ## Keys -/

/-- The greatest length of a key before its colon. -/
def maxKeySpan : Nat := 1024

/-- Gives up a candidate, for another one or for none. Where only a key could stand, that is an
error. -/
def dropCandidate (s : Scanner) : Except Error Scanner :=
  if s.candidate?.any (·.required) then .error .malformed
  else .ok { s with candidate? := none }

/-- Remembers the place as one where a key may begin. It has to be one when it stands in the column
of the mapping around it. -/
def markCandidate (s : Scanner) : Except Error Scanner :=
  if s.keyAllowed then
    s.dropCandidate.map fun s =>
      let required := !s.inFlow && s.indent = s.cursor.column
      { s with candidate? := some ⟨required, s.tokens.size, s.cursor⟩ }
  else .ok s

/-- Whether a candidate is too far back, by lines or by characters. -/
def isStale (c : Cursor) (k : Candidate) : Bool :=
  k.start.line < c.line || k.start.index + maxKeySpan < c.index

/-- Gives up the candidates that are too far back: on an earlier line, or further away than
`maxKeySpan`. -/
def dropStale (s : Scanner) : Except Error Scanner :=
  let keep (k? : Option Candidate) : Option Candidate :=
    k?.filter fun k => !isStale s.cursor k
  if (s.candidate? :: s.outerCandidates).any fun k? =>
      k?.any fun k => k.required && isStale s.cursor k then .error .malformed
  else .ok { s with candidate? := keep s.candidate?, outerCandidates := s.outerCandidates.map keep }

/-! ## Blanks -/

/-- Moves over blanks, comments and ends of lines. Tabs may not stand where a key may begin in
block form. -/
def skipBlanks : Nat → Scanner → Scanner
  | 0, s => s
  | fuel + 1, s =>
    let c := s.cursor
    let c := if c.index = 0 && c.rest.head? = some (Char.ofNat 0xFEFF) then c.skip 1 else c
    let tabs := s.inFlow || !s.keyAllowed
    let c := c.skipWhile fun d => d = ' ' || (tabs && d = '\t')
    let c := if c.rest.head? = some '#' then c.skipWhile (fun d => !isBreak d) else c
    if c.atBreak then
      skipBlanks fuel
        { s with cursor := c.takeBreak.2, keyAllowed := s.keyAllowed || !s.inFlow }
    else { s with cursor := c }

/-! ## Directives -/

/-- The decimal number that comes next, of at most nine digits. -/
def number (c : Cursor) : Except Error (Nat × Cursor) :=
  let ds := c.rest.takeWhile Binary64.isDecimalDigit
  if ds.isEmpty || 9 < ds.length then .error .malformed
  else .ok (Binary64.decimalValue ds, c.skip ds.length)

/-- The characters of tags besides those of words. -/
def isTagMark (verbatim : Bool) (c : Char) : Bool :=
  ";/?:@&=+$.!~*'()".toList.contains c || (verbatim && ",[]".toList.contains c)

/-- The octets that are written with percent signs, up to the end of their character. -/
def escapedOctet? (cs : List Char) : Option Nat :=
  match cs with
  | '%' :: a :: b :: _ => hexValue? [a, b]
  | _ => none

/-- The count of octets of a character, by the first of them. -/
def octetCount (n : Nat) : Nat :=
  if n < 0x80 then 1 else if n < 0xC0 then 0 else if n < 0xE0 then 2 else if n < 0xF0 then 3
  else if n < 0xF8 then 4 else 0

/-- A character that is written as octets, with the count of its octets. -/
def escapedChar? (cs : List Char) : Option (Char × Nat) := do
  let first ← escapedOctet? cs
  let width := octetCount first
  let rest ← (List.range (width - 1)).mapM fun i => escapedOctet? (cs.drop (3 * (i + 1)))
  if width = 0 || rest.any (fun n => n < 0x80 || 0xBF < n) then none
  else
    let s ← String.fromUTF8? (ByteArray.mk ((first :: rest).map UInt8.ofNat).toArray)
    return (← s.toList.head?, width)

/-- The characters of a tag or of what a handle stands for. -/
def tagChars (verbatim : Bool) : Nat → List Char → Cursor → Except Error (List Char × Cursor)
  | 0, acc, c => .ok (acc, c)
  | fuel + 1, acc, c =>
    match c.rest with
    | [] => .ok (acc, c)
    | d :: _ =>
      if d = '%' then
        match escapedChar? c.rest with
        | some (e, n) => tagChars verbatim fuel (acc ++ [e]) (c.skip (3 * n))
        | none => .error .malformed
      else if isWordChar d || isTagMark verbatim d then
        tagChars verbatim fuel (acc ++ [d]) (c.skip 1)
      else .ok (acc, c)

/-- An exclamation mark with what may follow it in a handle. -/
def handleChars (c : Cursor) : Except Error (List Char × Cursor) :=
  match c.rest with
  | '!' :: rest =>
    let word := rest.takeWhile isWordChar
    let c := c.skip (word.length + 1)
    if c.rest.head? = some '!' then .ok ('!' :: (word ++ ['!']), c.skip 1) else .ok ('!' :: word, c)
  | _ => .error .malformed

/-- Whether characters are a handle: one exclamation mark, or a word between two. -/
def isHandle (cs : List Char) : Bool := cs = ['!'] || (1 < cs.length && cs.getLast? = some '!')

/-- Moves over the blanks that have to come next. -/
def blanks (c : Cursor) : Except Error Cursor :=
  if c.atSpaceOrTab then .ok (c.skipWhile isSpaceOrTab) else .error .malformed

/-- The version of a document. -/
def versionDirective (c : Cursor) : Except Error (Directive × Cursor) := do
  let (major, c) ← number (c.skipWhile isSpaceOrTab)
  if c.rest.head? ≠ some '.' then .error .malformed
  let (minor, c) ← number (c.skip 1)
  return (.version major minor, c)

/-- A handle and what it stands for. -/
def handleDirective (c : Cursor) : Except Error (Directive × Cursor) := do
  let (handle, c) ← handleChars (c.skipWhile isSpaceOrTab)
  if !isHandle handle then .error .malformed
  let c ← blanks c
  let (expansion, c) ← tagChars true (c.rest.length + 1) [] c
  if expansion.isEmpty || !startsBlank c.rest then .error .malformed
  return (.handle (String.ofList handle) (String.ofList expansion), c)

/-- A directive, from after its percent sign. -/
def directive (c : Cursor) : Except Error (Directive × Cursor) := do
  let name := c.rest.takeWhile isWordChar
  let c := c.skip name.length
  if !startsBlank c.rest then .error .malformed
  let (d, c) ←
    if name = "YAML".toList then versionDirective c
    else if name = "TAG".toList then handleDirective c
    else .error .malformed
  return (d, ← c.closeLine)

/-! ## Tokens -/

/-- Ends all collections in block form, as a document does. -/
def leaveAll (s : Scanner) : Except Error Scanner :=
  (s.closeBlocks (-1)).dropCandidate.map fun s => { s with keyAllowed := false }

/-- A bracket that opens. -/
def openFlow (s : Scanner) (c : Collection) : Except Error Scanner := do
  let s ← s.markCandidate
  return { s.take (.opens c) 1 with
    outerCandidates := s.candidate? :: s.outerCandidates
    candidate? := none
    keyAllowed := true }

/-- A bracket that closes. -/
def closeFlow (s : Scanner) (c : Collection) : Except Error Scanner := do
  let s ← s.dropCandidate
  return { s.take (.closes c) 1 with
    candidate? := if s.inFlow then s.outerCandidates.headD none else s.candidate?
    outerCandidates := s.outerCandidates.tail
    keyAllowed := false }

/-- A comma inside of brackets. -/
def comma (s : Scanner) : Except Error Scanner :=
  s.dropCandidate.map fun s => { s.take .comma 1 with keyAllowed := true }

/-- A dash. -/
def item (s : Scanner) : Except Error Scanner := do
  if !s.inFlow && !s.keyAllowed then .error .malformed
  let s ← (s.openBlock .blockSeq s.cursor.column s.tokens.size).dropCandidate
  return { s.take .item 1 with keyAllowed := true }

/-- A question mark before a key. -/
def explicitKey (s : Scanner) : Except Error Scanner := do
  if !s.inFlow && !s.keyAllowed then .error .malformed
  let s ← (s.openBlock .blockMap s.cursor.column s.tokens.size).dropCandidate
  return { s.take .key 1 with keyAllowed := !s.inFlow }

/-- The key token at the place of a candidate, in a mapping that is opened there if need be. -/
def insertKey (s : Scanner) (k : Candidate) : Scanner :=
  let s := { s with tokens := s.tokens.insertIdxIfInBounds k.position .key, candidate? := none }
  s.openBlock .blockMap k.start.column k.position

/-- **A colon after a key.** If a candidate was remembered, the key begins there, in a mapping that
is opened in front of it; if none was, the key was marked before or is empty. -/
def value (s : Scanner) : Except Error Scanner := do
  match s.candidate? with
  | some k => return { (s.insertKey k).take .value 1 with keyAllowed := false }
  | none =>
    if !s.inFlow && !s.keyAllowed then .error .malformed
    let s := s.openBlock .blockMap s.cursor.column s.tokens.size
    return { s.take .value 1 with keyAllowed := !s.inFlow }

/-- Whether a name of an anchor may end before these characters. -/
def endsAnchor (cs : List Char) : Bool :=
  startsBlank cs || cs.head?.any fun c => "?:,]\x7d%@`".toList.contains c

/-- An anchor or an alias, from its mark on. -/
def anchor (s : Scanner) (token : String → Token) : Except Error Scanner := do
  let s ← s.markCandidate
  let name := (s.cursor.rest.drop 1).takeWhile isWordChar
  if name.isEmpty || !endsAnchor (s.cursor.rest.drop (name.length + 1)) then .error .malformed
  return { s.take (token (String.ofList name)) (name.length + 1) with keyAllowed := false }

/-- The handle and the suffix of a tag, from its exclamation mark on. -/
def tagParts (c : Cursor) : Except Error (List Char × List Char × Cursor) := do
  if c.rest.take 2 = ['!', '<'] then
    let (suffix, c) ← tagChars true (c.rest.length + 1) [] (c.skip 2)
    if suffix.isEmpty || c.rest.head? ≠ some '>' then .error .malformed
    return ([], suffix, c.skip 1)
  let (handle, c) ← handleChars c
  let (rest, c) ← tagChars false (c.rest.length + 1) [] c
  if 1 < handle.length && isHandle handle then
    if rest.isEmpty then .error .malformed
    return (handle, rest, c)
  match handle.tail ++ rest with
  | [] => return ([], ['!'], c)
  | suffix => return (['!'], suffix, c)

/-- A tag. -/
def tag (s : Scanner) : Except Error Scanner := do
  let s ← s.markCandidate
  let (handle, suffix, c) ← tagParts s.cursor
  if !startsBlank c.rest && !(s.inFlow && c.rest.head? = some ',') then .error .malformed
  let t := Token.tag (String.ofList handle) (String.ofList suffix)
  return { s.push t with cursor := c, keyAllowed := false }

/-- A block scalar. -/
def block (s : Scanner) (style : Style) : Except Error Scanner := do
  let s ← s.dropCandidate
  let (text, c) ← readBlock (style = .literal) s.indent (s.cursor.skip 1)
  return { s.push (.scalar style (String.ofList text)) with cursor := c, keyAllowed := true }

/-- A quoted scalar. -/
def quoted (s : Scanner) (style : Style) : Except Error Scanner := do
  let s ← s.markCandidate
  let (text, c) ← readQuoted (style = .doubleQuoted) (s.cursor.rest.length + 1) [] (s.cursor.skip 1)
  return { s.push (.scalar style (String.ofList text)) with cursor := c, keyAllowed := false }

/-- A plain scalar. -/
def plain (s : Scanner) : Except Error Scanner := do
  let s ← s.markCandidate
  let p ← readPlain s.inFlow (s.indent + 1) (s.cursor.rest.length + 1) [] {} s.cursor
  let t := Token.scalar .plain (String.ofList p.text)
  return { s.push t with cursor := p.cursor, keyAllowed := p.lineEnded }

/-- Whether a plain scalar begins with these characters. -/
def startsPlain (inFlow : Bool) : List Char → Bool
  | [] => false
  | c :: rest =>
    !(isBlank c || "-?:,[]\x7b\x7d#&*!|>'\"%@`".toList.contains c) ||
      (c = '-' && !rest.head?.any isSpaceOrTab) ||
      (!inFlow && (c = '?' || c = ':') && !startsBlank rest)

/-- **The token at the cursor.** What it is depends on its first character, on what comes behind
that, and on whether the place is inside of brackets. -/
def next (s : Scanner) : Except Error Scanner :=
  match s.cursor.rest with
  | [] => .ok s
  | c :: rest =>
    let atStart := s.cursor.column = 0
    if atStart && c = '%' then do
      let s ← s.leaveAll
      let (d, cursor) ← directive (s.cursor.skip 1)
      return { s.push (.directive d) with cursor := cursor }
    else if s.cursor.atDocumentMark then
      s.leaveAll.map (·.take (if c = '-' then .documentStart else .documentEnd) 3)
    else if c = '[' then s.openFlow .flowSeq
    else if c = Char.ofNat 0x7B then s.openFlow .flowMap
    else if c = ']' then s.closeFlow .flowSeq
    else if c = Char.ofNat 0x7D then s.closeFlow .flowMap
    else if c = ',' then s.comma
    else if c = '-' && startsBlank rest then s.item
    else if c = '?' && (s.inFlow || startsBlank rest) then s.explicitKey
    else if c = ':' && (s.inFlow || startsBlank rest) then s.value
    else if c = '*' then s.anchor .alias
    else if c = '&' then s.anchor .anchor
    else if c = '!' then s.tag
    else if c = '|' && !s.inFlow then s.block .literal
    else if c = '>' && !s.inFlow then s.block .folded
    else if c = '\'' then s.quoted .singleQuoted
    else if c = '"' then s.quoted .doubleQuoted
    else if startsPlain s.inFlow (c :: rest) then s.plain
    else .error .malformed

/-- Moves to the next token and closes the collections that it is outside of. -/
def approach (s : Scanner) : Except Error Scanner :=
  (skipBlanks (s.cursor.rest.length + 1) s).dropStale.map fun s => s.closeBlocks s.cursor.column

/-- **All tokens up to the end of the stream.** Every round reads one token, so the length of the
text bounds their number. -/
def run : Nat → Scanner → Except Error (Array Token)
  | 0, _ => .error .malformed
  | fuel + 1, s => do
    let s ← s.approach
    if s.cursor.rest.isEmpty then return (← s.leaveAll).tokens
    run fuel (← s.next)

end Scanner

/-- **The tokens of a stream**, every character of which has to be one that a stream may hold. -/
def tokens (cs : List Char) : Except Error (List Token) := do
  if !cs.all isReadable then .error .malformed
  let ts ← Scanner.run (cs.length + 2) { cursor := { rest := cs } }
  return ts.toList

end RestClient.Yaml
