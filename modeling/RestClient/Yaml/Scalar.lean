import RestClient.Yaml.Cursor
import RestClient.Yaml.Node

/-!
# Scalars of a stream

The text of a scalar, from its first character on: plain, between single or double quotes, or on
lines of its own. Each reader moves the cursor behind the scalar.
-/

namespace RestClient.Yaml

/-! ## Plain scalars -/

/-- Brackets and the comma, which end a plain scalar inside of brackets. -/
def isFlowMark (c : Char) : Bool := ",[]\x7b\x7d".toList.contains c

/-- The characters of a plain scalar up to a blank, a colon before a blank or, inside of brackets,
a mark of the collection. There a colon may not stand before such a mark. -/
def plainRun (inFlow : Bool) : List Char → Except Error (List Char)
  | [] => .ok []
  | c :: rest =>
    if isBlank c then .ok []
    else if inFlow && c = ':' && rest.head?.any (fun d => isFlowMark d || d = '?') then
      .error .malformed
    else if (c = ':' && startsBlank rest) || (inFlow && isFlowMark c) then .ok []
    else (plainRun inFlow rest).map (c :: ·)

/-- What is read of a plain scalar. Blanks behind it were passed over to see whether it goes on, so
the cursor may be on a later line. -/
structure PlainText where
  text : List Char
  /-- Whether the cursor is on a later line than the end of the text. -/
  lineEnded : Bool
  cursor : Cursor

/-- **A plain scalar.** It goes on over ends of lines as long as the lines are indented to the
column `indent`, which does not matter inside of brackets. A comment and the mark of a document end
it. -/
def readPlain (inFlow : Bool) (indent : Int) :
    Nat → List Char → Gap → Cursor → Except Error PlainText
  | 0, acc, g, c => .ok ⟨acc, g.broken, c⟩
  | fuel + 1, acc, g, c => do
    if c.atDocumentMark || c.rest.head? = some '#' then return ⟨acc, g.broken, c⟩
    let run ← plainRun inFlow c.rest
    let (acc, g) := if run.isEmpty then (acc, g) else (acc ++ g.text ++ run, {})
    let c := c.skip run.length
    if c.atSpaceOrTab || c.atBreak then
      let (g, c) ← c.gap indent (c.rest.length + 1) {}
      if !inFlow && c.column < indent then return ⟨acc, g.broken, c⟩
      readPlain inFlow indent fuel acc g c
    else return ⟨acc, g.broken, c⟩

/-! ## Quoted scalars -/

/-- The value of a row of digits to base sixteen. -/
def hexValue? (cs : List Char) : Option Nat :=
  cs.foldlM (fun n c => (digit? 16 c).map (n * 16 + ·)) 0

/-- The characters that letters stand for after a backslash. -/
def unescapeLetters : List (Char × Nat) := [
  ('0', 0x00), ('a', 0x07), ('b', 0x08), ('t', 0x09), ('\t', 0x09), ('n', 0x0A), ('v', 0x0B),
  ('f', 0x0C), ('r', 0x0D), ('e', 0x1B), (' ', 0x20), ('"', 0x22), ('/', 0x2F), ('\\', 0x5C),
  ('N', 0x85), ('_', 0xA0), ('L', 0x2028), ('P', 0x2029)]

/-- The letters before a number of a character, with the count of its digits. -/
def numberLetters : List (Char × Nat) := [('x', 2), ('u', 4), ('U', 8)]

/-- A character by its number, which is not half of a pair and not too great. -/
def charOfNumber? (n : Nat) : Option Char :=
  if (0xD800 ≤ n && n ≤ 0xDFFF) || 0x10FFFF < n then none else some (Char.ofNat n)

/-- The character of an escape, from after the backslash, and the length of the escape there. -/
def readEscape (cs : List Char) : Except Error (Char × Nat) :=
  match cs with
  | [] => .error .malformed
  | l :: rest =>
    match unescapeLetters.lookup l with
    | some n => .ok (Char.ofNat n, 1)
    | none =>
      match numberLetters.lookup l with
      | none => .error .malformed
      | some width =>
        if rest.length < width then .error .malformed
        else
          match (hexValue? (rest.take width)).bind charOfNumber? with
          | some c => .ok (c, width + 1)
          | none => .error .malformed

/-- What stops a run of characters inside quotes. -/
inductive QuoteStop where
  | blank
  | quote
  /-- An end of line after a backslash. -/
  | escapedBreak
  deriving DecidableEq

/-- The characters between quotes up to a blank, the closing quote, or an escaped end of line. -/
def quotedRun (double : Bool) : Nat → List Char → Cursor →
    Except Error (List Char × QuoteStop × Cursor)
  | 0, _, _ => .error .malformed
  | fuel + 1, acc, c =>
    match c.rest with
    | [] => .ok (acc, .blank, c)
    | d :: rest =>
      if isBlank d then .ok (acc, .blank, c)
      else if !double && d = '\'' && rest.head? = some '\'' then
        quotedRun double fuel (acc ++ ['\'']) (c.skip 2)
      else if d = (if double then '"' else '\'') then .ok (acc, .quote, c)
      else if double && d = '\\' then
        if rest.head?.any isBreak then .ok (acc, .escapedBreak, (c.skip 1).takeBreak.2)
        else do
          let (e, n) ← readEscape rest
          quotedRun double fuel (acc ++ [e]) (c.skip (n + 1))
      else quotedRun double fuel (acc ++ [d]) (c.skip 1)

/-- **A quoted scalar**, from after its opening quote. Ends of lines are folded as in a plain one,
and between the quotes no line may begin like a document. -/
def readQuoted (double : Bool) : Nat → List Char → Cursor → Except Error (List Char × Cursor)
  | 0, _, _ => .error .malformed
  | fuel + 1, acc, c => do
    if c.atDocumentMark || c.rest.isEmpty then .error .malformed
    let (acc, stop, c) ← quotedRun double (c.rest.length + 1) acc c
    match stop with
    | .quote => return (acc, c.skip 1)
    | _ =>
      let (g, c) ← c.gap 0 (c.rest.length + 1) { broken := stop = .escapedBreak }
      readQuoted double fuel (acc ++ g.text) c

/-! ## Block scalars -/

/-- What becomes of the ends of lines at the end of a block scalar. -/
inductive Chomping where
  /-- All are dropped. -/
  | strip
  /-- The first one is kept. -/
  | clip
  /-- All are kept. -/
  | keep
  deriving DecidableEq

/-- The chomping that a character asks for. -/
def chomping? (c : Char) : Option Chomping :=
  if c = '+' then some .keep else if c = '-' then some .strip else none

/-- The indentation that a character asks for. -/
def increment? (c : Char) : Option Nat :=
  if '0' ≤ c && c ≤ '9' then some (c.toNat - '0'.toNat) else none

/-- The signs after the mark of a block scalar, at most one of each kind in either order. -/
def readHints (c : Cursor) : Except Error (Chomping × Option Nat × Cursor) :=
  let checked (ch : Chomping) (i : Option Nat) (c : Cursor) :
      Except Error (Chomping × Option Nat × Cursor) :=
    if i = some 0 then .error .malformed else .ok (ch, i, c)
  match c.rest with
  | a :: rest =>
    match chomping? a with
    | some ch =>
      match rest.head?.bind increment? with
      | some i => checked ch (some i) (c.skip 2)
      | none => checked ch none (c.skip 1)
    | none =>
      match increment? a with
      | some i =>
        match rest.head?.bind chomping? with
        | some ch => checked ch (some i) (c.skip 2)
        | none => checked .clip (some i) (c.skip 1)
      | none => .ok (.clip, none, c)
  | [] => .ok (.clip, none, c)

/-- Empty lines and the indentation of the next line: what the ends of lines read as, the greatest
column, and the cursor. While the indentation is not known (`indent?` is empty) all spaces belong
to it; a tab may not take the place of one. -/
def emptyLines (indent? : Option Nat) : Nat → List Char → Nat → Cursor →
    Except Error (List Char × Nat × Cursor)
  | 0, _, _, _ => .error .malformed
  | fuel + 1, acc, deepest, c =>
    let inIndent (c : Cursor) : Bool := indent?.all (c.column < ·)
    let spaces := (c.rest.takeWhile (· = ' ')).length
    let c := c.skip (match indent? with
      | some n => min spaces (n - c.column)
      | none => spaces)
    let deepest := max deepest c.column
    if inIndent c && c.rest.head? = some '\t' then .error .malformed
    else if c.atBreak then
      let (b, c) := c.takeBreak
      emptyLines indent? fuel (acc ++ b) deepest c
    else .ok (acc, deepest, c)

/-- The lines of a block scalar. `pending` is the end of the line before, `empty` what the empty
lines since read as, and `wasBlank` whether that line began with a blank: lines that begin with a
blank are not folded. Answers with the text, and the two that are left at the end. -/
def blockLines (literal : Bool) (indent : Nat) : Nat → List Char → List Char → List Char → Bool →
    Cursor → Except Error (List Char × List Char × List Char × Cursor)
  | 0, _, _, _, _, _ => .error .malformed
  | fuel + 1, acc, pending, empty, wasBlank, c => do
    if c.column ≠ indent || c.rest.isEmpty then return (acc, pending, empty, c)
    let isBlank := c.atSpaceOrTab
    let acc :=
      if !literal && pending = ['\n'] && !wasBlank && !isBlank then
        acc ++ (if empty.isEmpty then [' '] else [])
      else acc ++ pending
    let line := c.rest.takeWhile fun d => !isBreak d
    let (pending, c') := (c.skip line.length).takeBreak
    let (more, _, c') ← emptyLines (some indent) (c'.rest.length + 1) [] 0 c'
    blockLines literal indent fuel (acc ++ empty ++ line) pending more isBlank c'

/-- **A block scalar**, from after its mark, inside of a collection at the column `parent`. The
indentation is that of the first line that is not empty, unless the mark gives it. -/
def readBlock (literal : Bool) (parent : Int) (c : Cursor) :
    Except Error (List Char × Cursor) := do
  let (chomping, increment, c) ← readHints c
  let c ← c.closeLine
  let fixed := increment.map fun n => if 0 ≤ parent then parent.toNat + n else n
  let (empty, deepest, c) ← emptyLines fixed (c.rest.length + 1) [] 0 c
  let indent := fixed.getD (max (max deepest (parent + 1).toNat) 1)
  let (text, pending, empty, c) ←
    blockLines literal indent (c.rest.length + 1) [] [] empty false c
  return (text ++ (if chomping = .strip then [] else pending) ++
    (if chomping = .keep then empty else []), c)

end RestClient.Yaml
