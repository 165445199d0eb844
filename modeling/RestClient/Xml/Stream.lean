import RestClient.Xml.Markup

/-!
# Events of a document

A stream is what is left of a document with the elements that are open. Its events are the
beginnings and ends of elements and the texts between them: pieces of text that only remarks stand
between are one text, with references resolved and ends of lines made equal. Tags have to match.

Reading an event looks no further than the event; only a text ends where the next piece is not part
of it, whatever that piece is.
-/

namespace RestClient.Xml

/-- **An element that is open**, with its attributes as they were written: who reads the element
splits them, and a fault in them shows only then. -/
structure Tag where
  name : List Char
  attributes : List Char
  /-- The names that stand for namespaces, the innermost first. -/
  namespaces : List (List Char × List Char) := []
  deriving DecidableEq, Repr

/-- What is left of a document, with the elements that are open there. A stream is read event by
event, and no tree is built of it. -/
structure Stream where
  rest : List Char
  /-- The open elements, the innermost first. -/
  opened : List Tag := []
  /-- Whether the innermost element is closed by the tag that opened it. -/
  selfClosed : Bool := false
  deriving Repr

/-- A piece of a document in its element. -/
inductive Part where
  | start (tag : Tag)
  | close
  | text (cs : List Char)
  | reference (name : List Char)
  | finish
  deriving Repr

/-- **An event of a document**: an element opens or closes, a text, or the end. Remarks are passed
over, and texts in a row are one. -/
inductive Event where
  | start (tag : Tag)
  | close
  | text (cs : List Char)
  | finish
  deriving Repr

/-- The namespaces that attributes declare. -/
def declared (attributes : List (List Char × List Char)) : List (List Char × List Char) :=
  attributes.filterMap fun a =>
    if "xmlns:".toList.isPrefixOf a.1 then some (a.1.drop 6, a.2) else none

namespace Stream

/-- Opens an element. -/
def push (s : Stream) (name attrs rest : List Char) (closed : Bool) : Tag × Stream :=
  let outer := match s.opened with
    | [] => []
    | t :: _ => t.namespaces
  let tag : Tag := ⟨name, attrs, declared (attributesIn attrs).1 ++ outer⟩
  (tag, ⟨rest, tag :: s.opened, closed⟩)

/-- The next part that is not a remark. An element that closes at once gives two parts, and a tag
that closes has to name the innermost open element. -/
def part : Nat → Stream → Except Error (Part × Stream)
  | 0, _ => .error .malformed
  | fuel + 1, s =>
    if s.selfClosed then .ok (.close, { s with opened := s.opened.tail, selfClosed := false })
    else do
      let (p, rest) ← Piece.next s.rest
      match p with
      | .opens name attrs closed =>
        let (tag, s) := s.push name attrs rest closed
        return (.start tag, s)
      | .closes name =>
        match s.opened with
        | t :: outer =>
          if t.name = name then return (.close, ⟨rest, outer, false⟩) else .error .malformed
        | [] => .error .malformed
      | .text cs => return (.text cs, { s with rest := rest })
      | .literal cs => return (.text cs, { s with rest := rest })
      | .reference name => return (.reference name, { s with rest := rest })
      | .remark => part fuel { s with rest := rest }
      | .finish => return (.finish, s)

/-- The number of parts that may be left. -/
def bound (s : Stream) : Nat := s.rest.length + 2

/-- A text with the pieces of text that follow it. -/
def drain : Nat → List Char → Stream → Except Error (List Char × Stream)
  | 0, acc, s => .ok (acc, s)
  | fuel + 1, acc, s =>
    match s.part s.bound with
    | .ok (.text cs, s) => drain fuel (acc ++ withLineEnds cs) s
    | .ok (.reference name, s) => do drain fuel (acc ++ [← resolve name]) s
    | _ => .ok (acc, s)

/-- **The next event.** Texts and references in a row are one text, and comments and instructions
between them are none. -/
def event (s : Stream) : Except Error (Event × Stream) := do
  let (p, s') ← s.part s.bound
  match p with
  | .start tag => return (.start tag, s')
  | .close => return (.close, s')
  | .finish => return (.finish, s')
  | .text _ | .reference _ =>
    let (cs, s) ← s.drain s.bound []
    return (.text cs, s)

/-- Passes over the content of an element and its end; `depth` elements are open inside of it. -/
def skipContent : Nat → Nat → Stream → Except Error Stream
  | 0, _, _ => .error .malformed
  | fuel + 1, depth, s => do
    let (p, s) ← s.part s.bound
    match p with
    | .start _ => skipContent fuel (depth + 1) s
    | .close =>
      match depth with
      | 0 => return s
      | depth + 1 => skipContent fuel depth s
    | .finish => .error .unfinished
    | _ => skipContent fuel depth s

/-- The stream of a document. A mark of the order of octets at the beginning is no part of it. -/
def ofString (doc : String) : Stream :=
  match doc.toList with
  | c :: cs => if c = Char.ofNat 0xFEFF then { rest := cs } else { rest := c :: cs }
  | [] => { rest := [] }

end Stream

/-! ## Nil elements -/

/-- The namespace of the attribute that marks an element as nil. -/
def instanceNamespace : String := "http://www.w3.org/2001/XMLSchema-instance"

/-- Whether an attribute marks its element as nil. -/
def marksNil (namespaces : List (List Char × List Char)) (a : List Char × List Char) : Bool :=
  let (space, rest) := a.1.span (· ≠ ':')
  rest = [':', 'n', 'i', 'l'] && namespaces.lookup space = some instanceNamespace.toList &&
    (a.2 = "true".toList || a.2 = ['1'])

/-- **Whether an element is marked as nil**: by an attribute of that name in the namespace of schema
instances whose value is true. -/
def Tag.isNil (t : Tag) : Bool := (attributesIn t.attributes).1.any (marksNil t.namespaces)

end RestClient.Xml
