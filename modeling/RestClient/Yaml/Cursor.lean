import RestClient.Yaml.Character
import RestClient.Yaml.Error

/-!
# Places in a stream

A cursor is the rest of a stream with the line, the column and the count of characters before it:
in YAML the column of a token says which collection it belongs to. Everything here moves a cursor
forward, `Cursor.gap` over blanks and the ends of lines, which a scalar folds into a space or into
fewer ends of lines.
-/

namespace RestClient.Yaml

/-- A place in a stream: what is left of it, and where that begins. The column decides about blocks,
and the line and the index about how far a key may reach. -/
structure Cursor where
  rest : List Char
  line : Nat := 0
  column : Nat := 0
  index : Nat := 0
  deriving Repr

namespace Cursor

/-- Moves over some characters of a line. -/
def skip (c : Cursor) (n : Nat) : Cursor :=
  { c with rest := c.rest.drop n, column := c.column + n, index := c.index + n }

/-- Moves over the characters of a line that have a property. -/
def skipWhile (c : Cursor) (p : Char → Bool) : Cursor := c.skip (c.rest.takeWhile p).length

/-- The next line, after an end of line of some characters. -/
def nextLine (c : Cursor) (n : Nat) : Cursor :=
  ⟨c.rest.drop n, c.line + 1, 0, c.index + n⟩

/-- Moves over an end of line and tells how it reads: the separators of lines and paragraphs are
kept, all others become one character. -/
def takeBreak (c : Cursor) : List Char × Cursor :=
  match c.rest with
  | '\r' :: '\n' :: _ => (['\n'], c.nextLine 2)
  | b :: _ =>
    if b = Char.ofNat 0x2028 || b = Char.ofNat 0x2029 then ([b], c.nextLine 1)
    else if isBreak b then (['\n'], c.nextLine 1)
    else ([], c)
  | [] => ([], c)

/-- Whether an end of line comes next. -/
def atBreak (c : Cursor) : Bool := c.rest.head?.any isBreak

/-- Whether a space or a tab comes next. -/
def atSpaceOrTab (c : Cursor) : Bool := c.rest.head?.any isSpaceOrTab

/-- Whether nothing is left of the line. -/
def atLineEnd (c : Cursor) : Bool := c.rest.isEmpty || c.atBreak

/-- Whether three dashes or three points stand at the beginning of a line, alone or before a
blank. -/
def atDocumentMark (c : Cursor) : Bool :=
  c.column = 0 &&
    match c.rest with
    | '-' :: '-' :: '-' :: r => startsBlank r
    | '.' :: '.' :: '.' :: r => startsBlank r
    | _ => false

/-- Moves over the rest of a line that may hold nothing but a comment. -/
def closeLine (c : Cursor) : Except Error Cursor :=
  let c := c.skipWhile isSpaceOrTab
  let c := if c.rest.head? = some '#' then c.skipWhile (fun b => !isBreak b) else c
  if c.atLineEnd then .ok c.takeBreak.2 else .error .malformed

end Cursor

/-! ## Gaps -/

/-- Blanks inside a scalar: on one line, or around ends of lines. -/
structure Gap where
  /-- Whether there is an end of line among them. -/
  broken : Bool := false
  spaces : List Char := []
  /-- The first end of line, unless it is escaped. -/
  first : List Char := []
  /-- The ends of lines after the first one. -/
  more : List Char := []

namespace Gap

/-- **What a gap reads as.** Blanks on a line are kept; a single end of line is a space, and of
several the first is dropped. -/
def text (g : Gap) : List Char :=
  if !g.broken then g.spaces
  else if g.first = ['\n'] then (if g.more.isEmpty then [' '] else g.more)
  else g.first ++ g.more

/-- The gap with one more end of line. -/
def addBreak (g : Gap) (b : List Char) : Gap :=
  if g.broken then { g with more := g.more ++ b }
  else { broken := true, first := b }

/-- The gap with one more blank on a line. -/
def addSpace (g : Gap) (s : Char) : Gap :=
  if g.broken then g else { g with spaces := g.spaces ++ [s] }

end Gap

/-- Moves over blanks and ends of lines. No tab may stand on a new line before the column
`indent`. -/
def Cursor.gap (indent : Int) : Nat → Gap → Cursor → Except Error (Gap × Cursor)
  | 0, g, c => .ok (g, c)
  | fuel + 1, g, c =>
    match c.rest with
    | [] => .ok (g, c)
    | s :: _ =>
      if isSpaceOrTab s then
        if g.broken && c.column < indent && s = '\t' then .error .malformed
        else c.skip 1 |>.gap indent fuel (g.addSpace s)
      else if isBreak s then
        let (b, c) := c.takeBreak
        c.gap indent fuel (g.addBreak b)
      else .ok (g, c)

end RestClient.Yaml
