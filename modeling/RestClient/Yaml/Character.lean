/-!
# Characters of a stream

The classes of characters that readers and writers of YAML tell apart: the ends of lines, the
blanks, what may stand in a stream at all, and what can be written without an escape.
-/

namespace RestClient.Yaml

/-- The ends of lines. -/
def isBreak (c : Char) : Bool :=
  c = '\n' || c = '\r' || c = Char.ofNat 0x85 || c = Char.ofNat 0x2028 || c = Char.ofNat 0x2029

/-- Spaces, tabs, the ends of lines, and the character without a width. -/
def isBlank (c : Char) : Bool := c = ' ' || c = '\t' || isBreak c || c = Char.ofNat 0

/-- The characters that may stand in a document as they are. A text with any other is written
between double quotes, where it has an escape. -/
def isPrintable (c : Char) : Bool :=
  let n := c.toNat
  n = 0x0A || (0x20 ≤ n && n ≤ 0x7E) || (0xA0 ≤ n && n ≠ 0xFEFF && n ≠ 0xFFFE && n ≠ 0xFFFF)

/-- Spaces and tabs. -/
def isSpaceOrTab (c : Char) : Bool := c = ' ' || c = '\t'

/-- The characters that a stream may hold. -/
def isReadable (c : Char) : Bool :=
  let n := c.toNat
  n = 0x09 || n = 0x0A || n = 0x0D || n = 0x85 || (0x20 ≤ n && n ≤ 0x7E) ||
    (0xA0 ≤ n && n ≠ 0xFFFE && n ≠ 0xFFFF)

/-- The characters of the names of anchors and of the handles of tags. -/
def isWordChar (c : Char) : Bool := c.isAlphanum || c = '_' || c = '-'

/-- Whether a blank or the end comes first. -/
def startsBlank : List Char → Bool
  | [] => true
  | c :: _ => isBlank c

end RestClient.Yaml
