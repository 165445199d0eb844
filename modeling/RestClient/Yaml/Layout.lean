import RestClient.Yaml.Character
import RestClient.Yaml.Node

/-!
# The layout of nodes

`Node.text` writes a node as a document in block form: an item of a sequence after a dash, an entry
of a mapping after its key, each on lines of its own; only empty collections are written between
brackets. Nested collections stand two columns further in, except a sequence that is the value of
an entry, which stays in the column of its key.

A scalar is written in its own style as far as its text allows it (`Text.style`): what is not
printable forces double quotes, and a text that could be taken for the punctuation of a document
is not written plainly.
-/

namespace RestClient.Yaml

/-! ## Choosing a style -/

/-- The characters that no plain scalar begins with. -/
def opensPunctuation (c : Char) : Bool := "#,[]\x7b\x7d&*!|>'\"%@`".toList.contains c

/-- Whether a text, from its second character on, has punctuation of a document in it: a colon
before a blank or a number sign after one. -/
def innerPunctuation : Bool → List Char → Bool
  | _, [] => false
  | afterBlank, c :: rest =>
    (c = ':' && startsBlank rest) || (c = '#' && afterBlank) || innerPunctuation (isBlank c) rest

/-- **Whether a text could be taken for punctuation** where a node of a block is expected. Such a
text is not written plain. -/
def looksLikePunctuation : List Char → Bool
  | [] => false
  | c :: rest =>
    ['-', '-', '-'].isPrefixOf (c :: rest) || ['.', '.', '.'].isPrefixOf (c :: rest) ||
      opensPunctuation c || ((c = '?' || c = ':' || c = '-') && startsBlank rest) ||
      innerPunctuation (isBlank c) rest

/-- Whether two characters in a row have two properties. -/
def hasAdjacent (p q : Char → Bool) : List Char → Bool
  | a :: b :: rest => (p a && q b) || hasAdjacent p q (b :: rest)
  | _ => false

/-- A space. -/
def isSpace (c : Char) : Bool := c = ' '

/-- Whether the text stands on more than one line. -/
def isMultiline (cs : List Char) : Bool := cs.any isBreak

/-- The text has something that only double quotes can hold. -/
def needsEscapes (cs : List Char) : Bool :=
  !cs.all isPrintable || hasAdjacent isSpace isBreak cs

/-- Whether a text may be written without quotes: on one line, without blanks at its ends and
without marks that mean something. -/
def plainAllowed (cs : List Char) : Bool :=
  !(needsEscapes cs || isMultiline cs || looksLikePunctuation cs ||
    cs.head?.any isSpace || cs.getLast?.any isSpace)

/-- Whether a text may be written between single quotes. -/
def singleAllowed (cs : List Char) : Bool :=
  !(needsEscapes cs || hasAdjacent isBreak isSpace cs)

/-- Whether a text may be written on lines of its own. -/
def blockAllowed (cs : List Char) : Bool :=
  !(needsEscapes cs || cs.isEmpty || cs.getLast?.any isSpace)

/-- **The style in which a text is written** where another one may have been asked for. Double
quotes are the last resort, as every character has an escape there. -/
def Style.allowed (style : Style) (cs : List Char) : Style :=
  match style with
  | .plain =>
    if plainAllowed cs then .plain else if singleAllowed cs then .singleQuoted else .doubleQuoted
  | .singleQuoted => if singleAllowed cs then .singleQuoted else .doubleQuoted
  | .doubleQuoted => .doubleQuoted
  | .literal | .folded => if blockAllowed cs then .literal else .doubleQuoted

/-! ## Scalars -/

/-- A row of spaces. -/
def pad (n : Nat) : List Char := List.replicate n ' '

/-- A text between single quotes, without the quotes: quotes are doubled, and so is the first of
several line ends. -/
def singleBody (indent : Nat) : Bool → List Char → List Char
  | afterBreak, [] => if afterBreak then pad indent else []
  | afterBreak, c :: rest =>
    if isBreak c then
      (if !afterBreak && c = '\n' then ['\n', c] else [c]) ++ singleBody indent true rest
    else
      (if afterBreak then pad indent else []) ++ (if c = '\'' then ['\'', '\''] else [c]) ++
        singleBody indent false rest

/-- The letters that stand for characters after a backslash. -/
def escapeLetters : List (Nat × Char) := [
  (0x00, '0'), (0x07, 'a'), (0x08, 'b'), (0x09, 't'), (0x0A, 'n'), (0x0B, 'v'), (0x0C, 'f'),
  (0x0D, 'r'), (0x1B, 'e'), (0x22, '"'), (0x5C, '\\'), (0x85, 'N'), (0xA0, '_'), (0x2028, 'L'),
  (0x2029, 'P')]

/-- A number in a fixed count of digits to base sixteen, in upper case. -/
def hexFixed (width n : Nat) : List Char :=
  let ds := (Nat.toDigits 16 n).map Char.toUpper
  List.replicate (width - ds.length) '0' ++ ds

/-- A character between double quotes. -/
def doubleChar (c : Char) : List Char :=
  if isPrintable c && !isBreak c && c ≠ '"' && c ≠ '\\' then [c]
  else
    match escapeLetters.lookup c.toNat with
    | some l => ['\\', l]
    | none =>
      if c.toNat ≤ 0xFF then '\\' :: 'x' :: hexFixed 2 c.toNat
      else if c.toNat ≤ 0xFFFF then '\\' :: 'u' :: hexFixed 4 c.toNat
      else '\\' :: 'U' :: hexFixed 8 c.toNat

/-- What stands after the bar of a literal scalar: the indentation if the text begins with a blank,
a minus if no line end closes the text, a plus if more than one does. -/
def literalHints (cs : List Char) : List Char :=
  (if cs.head?.any (fun c => isSpace c || isBreak c) then ['2'] else []) ++
    match cs.reverse with
    | [] => ['-']
    | [c] => if isBreak c then ['+'] else ['-']
    | c :: d :: _ => if !isBreak c then ['-'] else if isBreak d then ['+'] else []

/-- The lines of a literal scalar, all but the empty ones indented. -/
def literalBody (indent : Nat) : Bool → List Char → List Char
  | _, [] => []
  | atStart, c :: rest =>
    if isBreak c then c :: literalBody indent true rest
    else (if atStart then pad indent else []) ++ c :: literalBody indent false rest

/-- Closes the line, unless a literal scalar has done so. -/
def endLine (cs : List Char) : List Char :=
  if cs.getLast?.any isBreak then cs else cs ++ ['\n']

/-- A scalar on the rest of its line and the lines that it needs, `indent` columns in. -/
def scalarText (indent : Nat) (style : Style) (cs : List Char) : List Char :=
  match style.allowed cs with
  | .plain => cs
  | .singleQuoted => ['\''] ++ singleBody indent false cs ++ ['\'']
  | .doubleQuoted => ['"'] ++ cs.flatMap doubleChar ++ ['"']
  | .literal | .folded => ['|'] ++ literalHints cs ++ ['\n'] ++ literalBody indent true cs

/-! ## Collections -/

/-- **What stands before a node on its line.** It decides whether a collection begins on the same
line and whether a blank is needed in front. -/
inductive Place where
  /-- Nothing: the document begins. -/
  | start
  /-- A dash, a question mark, or the colon after a key on lines of its own. A collection may begin
  on the same line. -/
  | marker
  /-- The colon after a key on the same line, or a tag. A collection begins on the next line. -/
  | label
  deriving DecidableEq, Repr

/-- What keeps a text apart from what stands before it. -/
def Place.gap : Place → List Char
  | .start => []
  | _ => [' ']

/-- A tag where there is one, apart from what stands before it. -/
def tagText (place : Place) : Option String → List Char
  | none => []
  | some tag => place.gap ++ '!' :: tag.toList

/-- The place after a tag. -/
def Place.after (place : Place) : Option String → Place
  | none => place
  | some _ => .label

/-- What stands between a place and the first line of a collection. -/
def Place.lead (place : Place) (indent : Nat) : List Char :=
  match place with
  | .start => []
  | .marker => [' ']
  | .label => '\n' :: pad indent

/-- A reference to an anchor. -/
def aliasText (n : Nat) : List Char := '*' :: Nat.toDigits 10 n

/-- The greatest length of a key on one line, in octets. -/
def maxKeyLength : Nat := 128

/-- A key that fits on one line before its colon: a short scalar, an empty collection or a
reference. Any other key is put behind a question mark. -/
def simpleKey? : Node → Option (List Char)
  | .scalar tag style s =>
    if isMultiline s.toList || maxKeyLength < s.utf8ByteSize then none
    else
      let place := Place.start.after tag
      some (tagText .start tag ++ place.gap ++ scalarText 0 style s.toList)
  | .seq none [] => some ['[', ']']
  | .map none [] => some [Char.ofNat 0x7B, Char.ofNat 0x7D]
  | .alias n => some (aliasText n)
  | _ => none

/-- The columns that the lines of a scalar are indented inside a collection. -/
def scalarIndent : Option Nat → Nat
  | none => 2
  | some n => n + 2

/-- The column of a collection inside another one, two further in than the outer one unless it is a
sequence that may share the column of its mapping. -/
def blockIndent (outer : Option Nat) (sameColumn : Bool) : Nat :=
  match outer with
  | none => 0
  | some n => if sameColumn then n else n + 2

mutual

/-- A node after what stands before it, up to the end of its last line; `outer` is the column of the
collection around it and `isValue` whether that is a mapping. -/
def nodeText (outer : Option Nat) (place : Place) (isValue : Bool) : Node → List Char
  | .scalar tag style s =>
    let place' := place.after tag
    endLine (tagText place tag ++ place'.gap ++ scalarText (scalarIndent outer) style s.toList)
  | .seq tag [] => tagText place tag ++ (place.after tag).gap ++ ['[', ']', '\n']
  | .map tag [] =>
    tagText place tag ++ (place.after tag).gap ++ [Char.ofNat 0x7B, Char.ofNat 0x7D, '\n']
  | .alias n => place.gap ++ aliasText n ++ ['\n']
  | .seq tag (item :: items) =>
    let place' := place.after tag
    let indent := blockIndent outer (isValue && place' = .label)
    tagText place tag ++ place'.lead indent ++ '-' :: nodeText (some indent) .marker false item ++
      itemsText indent items
  | .map tag ((key, value) :: entries) =>
    let place' := place.after tag
    let indent := blockIndent outer false
    tagText place tag ++ place'.lead indent ++
      (match simpleKey? key with
        | some k => k ++ ':' :: nodeText (some indent) .label true value
        | none =>
          '?' :: nodeText (some indent) .marker true key ++ pad indent ++
            ':' :: nodeText (some indent) .marker true value) ++
      entriesText indent entries

/-- The items of a sequence after the first one. -/
def itemsText (indent : Nat) : List Node → List Char
  | [] => []
  | item :: items =>
    pad indent ++ '-' :: nodeText (some indent) .marker false item ++ itemsText indent items

/-- The entries of a mapping after the first one. -/
def entriesText (indent : Nat) : List (Node × Node) → List Char
  | [] => []
  | (key, value) :: entries =>
    pad indent ++
      (match simpleKey? key with
        | some k => k ++ ':' :: nodeText (some indent) .label true value
        | none =>
          '?' :: nodeText (some indent) .marker true key ++ pad indent ++
            ':' :: nodeText (some indent) .marker true value) ++
      entriesText indent entries

end

/-- **A node as a document**, laid out in blocks from the first column on. -/
def Node.text (node : Node) : List Char := nodeText none .start false node

end RestClient.Yaml
