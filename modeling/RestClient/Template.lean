import RestClient.Text.Split
import RestClient.Text.Quoted

/-!
# Path templates

A template is a path whose segments may hold placeholders, a name in braces each. It is read one
segment at a time: `Template.pieces` cuts a segment into literal text and placeholders, and
`Template.fill` puts values in their places. A value never leaves its segment, so a segment that a
value has turned into a dot segment is refused.
-/

namespace RestClient

/-- A piece of a template's segment: text that stays as it is, or the name of a placeholder, without
its braces. -/
inductive Template.Piece where
  | literal (text : List Char)
  | placeholder (name : List Char)
  deriving DecidableEq, Repr

/-- What is wrong with the braces of a segment. -/
inductive Template.Fault where
  /-- A closing brace without an opening one. -/
  | unmatched
  /-- An opening brace without a closing one. -/
  | unclosed
  /-- Braces around nothing, or around another opening brace. -/
  | badName
  deriving DecidableEq, Repr

/-- Why a template cannot be filled. -/
inductive Template.Error where
  | malformed (fault : Template.Fault) (segment : String)
  | missing (name : String)
  /-- The segment is a dot segment; the name is that of its last placeholder. -/
  | dotSegment (name segment : String)
  deriving DecidableEq, Repr

namespace Template

/-- Literal text in front of other pieces, unless it is empty. -/
def literalBefore (text : List Char) (rest : List Piece) : List Piece :=
  if text.isEmpty then rest else .literal text :: rest

/-- A placeholder's name is not empty and holds no opening brace. -/
def goodName (name : List Char) : Bool := !name.isEmpty && !name.contains '{'

mutual

/-- The pieces from outside of braces; `text` is the literal text since the last piece. A closing
brace is refused here, as there is no opening one that it could belong to. -/
def outside (text : List Char) : List Char → Except Fault (List Piece)
  | [] => .ok (literalBefore text [])
  | c :: cs =>
    if c = '}' then .error .unmatched
    else if c = '{' then (inside [] cs).map (literalBefore text)
    else outside (text ++ [c]) cs

/-- The pieces from inside of braces; `name` is the text since the opening brace. Whether the name
is good is asked only at the closing brace, so a brace that is never closed is reported before a
name that would be refused. -/
def inside (name : List Char) : List Char → Except Fault (List Piece)
  | [] => .error .unclosed
  | c :: cs =>
    if c = '}' then
      if goodName name then (outside [] cs).map (.placeholder name :: ·) else .error .badName
    else inside (name ++ [c]) cs

end

/-- **The pieces of a segment**, in order, by one pass from left to right that stops at the first
fault. -/
def pieces (segment : List Char) : Except Fault (List Piece) := outside [] segment

/-- The segments of a template; a slash at its start separates nothing. Every other slash does, so a
template with a slash at its end has an empty last segment. -/
def segments (template : String) : List (List Char) :=
  match template.toList with
  | '/' :: rest => Text.split '/' rest
  | cs => Text.split '/' cs

/-- The pieces of a segment, with the segment in the error. -/
def segmentPieces (segment : List Char) : Except Error (List Piece) :=
  (pieces segment).mapError fun f => .malformed f (String.ofList segment)

/-- The names of the placeholders among pieces. -/
def names : List Piece → List String
  | [] => []
  | .literal _ :: rest => names rest
  | .placeholder n :: rest => String.ofList n :: names rest

/-- The names in the placeholders of some segments, in order. -/
def placeholdersOf : List (List Char) → Except Error (List String)
  | [] => .ok []
  | s :: rest => do
    let ps ← segmentPieces s
    let more ← placeholdersOf rest
    return names ps ++ more

/-- **The names of a template's placeholders**, in order of appearance and with repetitions. Each
segment is taken apart by itself, so braces cannot reach over a slash, and the first segment with a
fault decides. -/
def placeholders (template : String) : Except Error (List String) :=
  placeholdersOf (segments template)

/-- The pieces with the placeholders replaced; of two values of one name the first counts. A value
is put in as it is and not taken apart again, so braces in a value stand for themselves. -/
def fill (values : List (String × String)) : List Piece → Except Error (List Char)
  | [] => .ok []
  | .literal t :: rest => do
    let more ← fill values rest
    return t ++ more
  | .placeholder n :: rest =>
    match values.lookup (String.ofList n) with
    | none => .error (.missing (String.ofList n))
    | some v => do
      let more ← fill values rest
      return v.toList ++ more

/-- A segment that a path does not keep as it is. Only the two dot segments as they are written are
tested for, and not texts that become one on the way into a path. -/
def isDotSegment (segment : List Char) : Bool := segment = ['.'] || segment = ['.', '.']

/-- A segment with the placeholders replaced. A dot segment is refused if a placeholder made it,
under the name of the last placeholder; one that stands in the template itself is let through. -/
def renderSegment (values : List (String × String)) (segment : List Char) :
    Except Error String := do
  let ps ← segmentPieces segment
  let text ← fill values ps
  match (names ps).getLast? with
  | some name =>
    if isDotSegment text then .error (.dotSegment name (String.ofList text))
    else return String.ofList text
  | none => return String.ofList text

/-- Renders segments in order; the first that fails decides. -/
def renderSegments (values : List (String × String)) :
    List (List Char) → Except Error (List String)
  | [] => .ok []
  | s :: rest => do
    let t ← renderSegment values s
    let ts ← renderSegments values rest
    return t :: ts

/-- **The segments of a path**: those of the template with the placeholders replaced. The values
come as pairs, and pairs that no placeholder names are ignored. -/
def render (template : String) (values : List (String × String)) : Except Error (List String) :=
  renderSegments values (segments template)

/-- The message of a fault. -/
def Fault.message (f : Fault) (segment : String) : String :=
  match f with
  | .unmatched => "unmatched '\x7d' in segment '" ++ segment ++ "'"
  | .unclosed => "unclosed '\x7b' in segment '" ++ segment ++ "'"
  | .badName => "empty or nested placeholder in segment '" ++ segment ++ "'"

end Template
end RestClient
