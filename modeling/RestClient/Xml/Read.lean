import RestClient.Data.Shape
import RestClient.Json.Basic
import RestClient.Number.Decimal
import RestClient.Xml.Stream

/-!
# Reading a typed value from a document

`Shape.ofXml` reads a value of a type from the beginning of a document; what follows the value is
not looked at, and the name of the root does not matter unless the type is a choice. A value stands
in one of three places (`Place`): at the root, in a child that is named for its field, or in an item
of a list. A record is an element: its attributes are the fields whose names start with `@`, its
text the field `$text`, its children the others; a list that is a field is its children of one name
in a row. Blank text between elements is passed over, and blanks around numbers, truth values and
single characters do not count, but a text keeps its own.
-/

namespace RestClient.Xml

/-- Reading from a stream. -/
abbrev Reader := StateT Stream (Except Error)

namespace Reader

/-- Something else than the type needs stands here. -/
def unexpected {α : Type} : Reader α := throw .unexpected

/-- The next event. -/
def next : Reader Event := fun s => s.event

/-- The next event, which stays. -/
def peek : Reader Event := fun s => return ((← s.event).1, s)

/-- Passes over a text that is blank, if one comes next. -/
def skipBlank : Reader Unit := do
  match ← peek with
  | .text cs => if cs.all isBlank then discard next
  | _ => pure ()

/-- Passes over the content of the element that was opened last, and its end. -/
def skipRest : Reader Unit := fun s => return ((), ← s.skipContent s.bound 0)

/-- The count of steps that what is left of the document allows. -/
def bound : Reader Nat := return (← get).bound

/-- What was read, or a complaint. -/
def lift {α : Type} (r : Except Error α) : Reader α := fun s => r.map (·, s)

/-- A mismatch is an error. -/
def unfit {α : Type} (r : Except Mismatch α) : Reader α := lift (r.mapError Error.mismatch)

end Reader

/-! ## Values of one text -/

/-- The integer of a type that a text stands for. -/
def int? (k : IntKind) (cs : List Char) : Option Int :=
  let (down, ds) := Binary64.splitSign cs
  if ds.isEmpty || !ds.all Binary64.isDecimalDigit || (!k.signed && cs.head? = some '-') then none
  else
    let n : Int := Binary64.decimalValue ds
    (some (if down then -n else n)).filter k.contains

/-- The truth value that a text stands for. -/
def bool? (cs : List Char) : Option Bool :=
  if cs = "true".toList || cs = ['1'] then some true
  else if cs = "false".toList || cs = ['0'] then some false
  else none

/-- A single character, of a text that may have blanks around it. -/
def char? (cs : List Char) : Option Char :=
  match trimmed cs, cs with
  | [c], _ => some c
  | _, [c] => some c
  | _, _ => none

/-- A value, if the text was one. -/
def orBad (cs : List Char) (d? : Option Datum) : Except Error Datum :=
  match d? with
  | some d => .ok d
  | none => .error (.badText (String.ofList cs))

/-- **A value of a type without parts**, from its text; nothing for types with parts. Blanks around
a number, a truth value or a character do not count, and a text keeps its own. -/
def leaf? (shape : Shape) (cs : List Char) : Option (Except Error Datum) :=
  match shape with
  | .bool => some (orBad cs ((bool? (trimmed cs)).map .bool))
  | .int k => some (orBad cs ((int? k (trimmed cs)).map (.int k)))
  | .float => some (orBad cs ((Binary64.ofText? (trimmed cs)).map .float))
  | .char => some (orBad cs ((char? cs).map .char))
  | .text => some (.ok (.text (String.ofList cs)))
  | _ => none

/-- The items of a list that is written as one text. -/
def words (cs : List Char) : List (List Char) := (cs.splitOnP isBlank).filter (!·.isEmpty)

/-- A variant that is given by its name. -/
def bareVariant (choice : String) (variants : List (String × VariantBody Shape)) (v : String) :
    Except Error Datum :=
  match variants.lookup v with
  | some .unit => .ok (.unitVariant choice v)
  | _ => .error .unexpected

/-! ## The text of an attribute or of an element -/

/-- A text that stands as an attribute's value, where references are still to be resolved, or as
the text of an element. -/
structure Words where
  text : List Char
  isEscaped : Bool

/-- The text with its references resolved. -/
def Words.resolved (w : Words) : Except Error (List Char) :=
  if w.isEscaped then unescaped (w.text.length + 1) w.text else .ok w.text

end RestClient.Xml

namespace RestClient.Shape

open RestClient.Xml

mutual

/-- **A value of a type from one text.** A list is written as words with blanks between them.
References may stand in texts, not in numbers. -/
def ofWords : Shape → Words → Except Error Datum
  | .any, w => w.resolved.map fun cs => .text (String.ofList cs)
  | .unit, _ => .ok .unit
  | .unitRecord name, _ => .ok (.unitRecord name)
  | .bool, w => leafOfWords .bool w
  | .int k, w => leafOfWords (.int k) w
  | .float, w => leafOfWords .float w
  | .char, w => leafOfWords .char w
  | .text, w => w.resolved.map fun cs => .text (String.ofList cs)
  | .option inner, w =>
    if w.text.isEmpty then .ok .absent else (ofWords inner w).map .present
  | .wrapper name inner, w => (ofWords inner w).map (.wrapper name)
  | .seq item, w =>
    ((words w.text).mapM fun cs => ofWords item { w with text := cs }).map .seq
  | .tuple shapes, w => (ofEachWord shapes w.isEscaped (words w.text)).map .tuple
  | .choice name variants, w => do bareVariant name variants (String.ofList (← w.resolved))
  | .map _ _, _ => .error .unexpected
  | .record _ _ _, _ => .error .unexpected

/-- The items of a tuple that is written as one text. -/
def ofEachWord : List Shape → Bool → List (List Char) → Except Error (List Datum)
  | [], _, [] => .ok []
  | s :: rest, isEscaped, cs :: more => do
    let d ← ofWords s ⟨cs, isEscaped⟩
    let ds ← ofEachWord rest isEscaped more
    return d :: ds
  | _, _, _ => .error .unexpected

/-- A value of a type without parts. -/
def leafOfWords (shape : Shape) (w : Words) : Except Error Datum :=
  match leaf? shape w.text with
  | some r => r
  | none => .error .unexpected

end

end RestClient.Shape

namespace RestClient.Xml

open Reader

/-! ## Places -/

/-- **Where a value stands.** The same type is read in another way at the root, as a child and in an
element that is open. -/
inductive Place where
  | root
  /-- In the child that comes next; whether the element around it is marked as nil. -/
  | child (parentNil : Bool)
  /-- In an element that is already opened. -/
  | item (tag : Tag)

/-- The text of an element that is already opened, which holds nothing else. -/
def textOfElement : Reader (List Char) := do
  match ← next with
  | .close => return []
  | .text cs =>
    match ← next with
    | .close => return cs
    | _ => unexpected
  | _ => unexpected

/-- The text at a place: a text, or that of an element. -/
def Place.text (p : Place) : Reader (List Char) := do
  match p with
  | .item _ => textOfElement
  | _ =>
    match ← next with
    | .text cs => return cs
    | .start _ => textOfElement
    | _ => unexpected

/-- Passes over the value at a place. -/
def Place.skip (p : Place) : Reader Unit := do
  match p with
  | .item _ => skipRest
  | _ =>
    match ← next with
    | .start _ => skipRest
    | .text _ => pure ()
    | _ => unexpected

/-- The element at a place. -/
def Place.element (p : Place) : Reader Tag := do
  match p with
  | .item tag => return tag
  | _ =>
    skipBlank
    match ← next with
    | .start tag => return tag
    | _ => unexpected

/-- **Whether an optional value is absent at a place**: nothing is there, or the element is marked
as nil. An element that is passed over this way is read to its end. -/
def Place.isAbsent (p : Place) : Reader Bool := do
  match p with
  | .item tag => if tag.isNil then skipRest; return true else return false
  | .root =>
    match ← peek with
    | .text [] | .finish => return true
    | .start tag => if tag.isNil then p.skip; return true else return false
    | _ => return false
  | .child parentNil =>
    match ← peek with
    | .start tag => if parentNil || tag.isNil then p.skip; return true else return false
    | _ => return false

/-! ## The members of an element -/

/-- **Where the value of a member is found**: in an attribute, in the text of the element, or in a
child. The first is read as a text that was split off before. -/
inductive Source where
  | attr (value : List Char)
  | text
  | child

/-- A text that comes next. -/
def nextText : Reader (List Char) := do
  match ← next with
  | .text cs => return cs
  | _ => unexpected

/-- Members in the content of an element, up to its end, each given to a step. The name of a child
is that of its element without a prefix, and text between children has the name `$text`. -/
def contentMembers {α : Type} (step : α → String → Source → Reader α) : Nat → α → Reader α
  | 0, _ => unexpected
  | fuel + 1, acc => do
    skipBlank
    match ← peek with
    | .text _ => contentMembers step fuel (← step acc "$text" .text)
    | .start tag =>
      let name := String.ofList (localName tag.name)
      contentMembers step fuel (← step acc name .child)
    | .close =>
      let _ ← next
      return acc
    | .finish => throw .unfinished

/-- The name of the member that an attribute is. -/
def attributeMember (name : List Char) : String :=
  let kept := "xmlns:".toList.isPrefixOf name || "xml:".toList.isPrefixOf name
  String.ofList ('@' :: (if kept then name else localName name))

/-- **The members of an element**: its attributes, then its content. The step decides what is kept,
so records, maps and open types are all read this way. -/
def members {α : Type} (tag : Tag) (step : α → String → Source → Reader α) (acc : α) :
    Reader α := do
  let (attrs, fine) := attributesIn tag.attributes
  let acc ← attrs.foldlM (fun acc a => step acc (attributeMember a.1) (.attr a.2)) acc
  unless fine do throw .malformed
  contentMembers step (← bound) acc

/-- Passes over the value of a member. -/
def Source.skip : Source → Reader Unit
  | .attr _ => pure ()
  | .text => discard nextText
  | .child => (Place.child false).skip

/-! ## Lists -/

/-- Values at the root up to the end of the document. An element that closes there is out of
place. -/
def rootItems (item : Reader Datum) : Nat → Reader (List Datum)
  | 0 => unexpected
  | fuel + 1 => do
    skipBlank
    match ← peek with
    | .finish => return []
    | .close => unexpected
    | _ => return (← item) :: (← rootItems item fuel)

/-- **Children of one name in a row** are the items of a list. The list ends with the first child of
another name, so a list cannot be continued later on. -/
def childItems (name : List Char) (item : Tag → Reader Datum) : Nat → Reader (List Datum)
  | 0 => unexpected
  | fuel + 1 => do
    skipBlank
    match ← peek with
    | .start tag =>
      if tag.name = name then
        let _ ← next
        return (← item tag) :: (← childItems name item fuel)
      else return []
    | .finish => throw .unfinished
    | _ => return []

/-- The name of the child that comes next. -/
def childName : Reader (List Char) := do
  match ← peek with
  | .start tag => return tag.name
  | _ => unexpected

/-- The item of a list of fixed length at the root. -/
def rootItem (item : Reader Datum) : Reader Datum := do
  skipBlank
  match ← peek with
  | .finish | .close => unexpected
  | _ => item

/-- The item of a list of fixed length among the children of one name. -/
def childItem (name : List Char) (item : Tag → Reader Datum) : Reader Datum := do
  skipBlank
  match ← peek with
  | .start tag =>
    if tag.name = name then
      let _ ← next
      item tag
    else unexpected
  | _ => unexpected

/-! ## Open types -/

/-- An entry put in its place. -/
def insertMember (acc : List (String × Datum)) (name : String) (d : Datum) :
    List (String × Datum) :=
  Json.insert name d acc

/-- An element of an open type: its members by name, the last of each name. -/
def openElement : Nat → Tag → Reader Datum
  | 0, _ => unexpected
  | fuel + 1, tag => do
    let step (acc : List (String × Datum)) (name : String) (source : Source) :
        Reader (List (String × Datum)) := do
      match source with
      | .attr value => return insertMember acc name (← lift (Shape.any.ofWords ⟨value, true⟩))
      | .text => return insertMember acc name (.text (String.ofList (← nextText)))
      | .child =>
        let tag ← (Place.child false).element
        return insertMember acc name (← openElement fuel tag)
    let ms ← members tag step []
    return .map (ms.map fun m => (.text m.1, m.2))

/-- A value of an open type: a text, or an element with all that is in it. -/
def openValue (p : Place) : Reader Datum := do
  match p with
  | .item tag => openElement (← bound) tag
  | _ =>
    match ← peek with
    | .text _ => return .text (String.ofList (← nextText))
    | _ =>
      let tag ← p.element
      openElement (← bound) tag

/-! ## Records and maps -/

/-- A key of a map from the name of a member. -/
def keyOf (k : KeyShape) (name : String) : Reader Datum :=
  let cs := name.toList
  lift (match k with
    | .text => .ok (.text name)
    | .int kind => orBad cs ((int? kind cs).map (.int kind))
    | .bool => orBad cs ((bool? cs).map .bool))

/-- A member of a record, put in front of those that were read. A known name that comes again is
refused, and one that is not known is passed over unless the record is strict. -/
def givenStep (strict : Bool) (known : String → Source → Option (Reader Datum))
    (given : List (String × Datum)) (name : String) (source : Source) :
    Reader (List (String × Datum)) := do
  match known name source with
  | some read =>
    if (given.lookup name).isSome then throw (.mismatch (.duplicateField name))
    return (name, ← read) :: given
  | none =>
    if strict then unexpected
    source.skip
    return given

/-- A value without parts at a place. -/
def leafAt (shape : Shape) (p : Place) : Reader Datum := do
  let cs ← p.text
  match leaf? shape cs with
  | some r => lift r
  | none => unexpected

end RestClient.Xml

namespace RestClient.Shape

open RestClient.Xml Reader

mutual

/-- **A value of a type at a place**, by recursion on the type. Lists take several elements of one
name in a row, and everything else one element or one text. -/
def atPlace : Shape → Place → Reader Datum
  | .any, p => openValue p
  | .unit, p => do
    p.skip
    return .unit
  | .unitRecord name, p => do
    p.skip
    return .unitRecord name
  | .bool, p => leafAt .bool p
  | .int k, p => leafAt (.int k) p
  | .float, p => leafAt .float p
  | .char, p => leafAt .char p
  | .text, p => leafAt .text p
  | .option inner, p => do
    if ← p.isAbsent then return .absent
    return .present (← atPlace inner p)
  | .wrapper name inner, p => return .wrapper name (← atPlace inner p)
  | .seq item, p => do
    match p with
    | .root => return .seq (← rootItems (atPlace item .root) (← bound))
    | .child _ =>
      let name ← childName
      return .seq (← childItems name (fun t => atPlace item (.item t)) (← bound))
    | .item _ =>
      let cs ← textOfElement
      return .seq (← (words cs).mapM fun cs => lift (ofWords item ⟨cs, false⟩))
  | .tuple shapes, p => do
    match p with
    | .root => return .tuple (← atRootEach shapes)
    | .child _ => return .tuple (← atChildEach shapes (← childName))
    | .item _ =>
      let cs ← textOfElement
      return .tuple (← lift (ofEachWord shapes false (words cs)))
  | .map key item, p => do
    let tag ← p.element
    let entries ← members tag (fun acc name source => do
      let k ← keyOf key name
      let d ← ofSource item tag source
      return Datum.insertEntry k d acc) []
    return .map entries
  | .record name strict fields, p => do
    let tag ← p.element
    let given ← members tag (givenStep strict (fieldAt fields tag)) []
    return .record name (← unfit (Field.assemble fields given))
  | .choice name variants, p => do
    match p with
    | .root =>
      skipBlank
      match ← peek with
      | .start tag => variantAt name variants (String.ofList (localName tag.name)) .root
      | _ => unexpected
    | .child _ =>
      let cs ← p.text
      lift (bareVariant name variants (String.ofList cs))
    | .item tag => variantAt name variants (String.ofList (localName tag.name)) p

/-- A value of a type from the source of a member. -/
def ofSource (shape : Shape) (parent : Tag) (source : Source) : Reader Datum := do
  match source with
  | .attr value => lift (ofWords shape ⟨value, true⟩)
  | .text => lift (ofWords shape ⟨← nextText, false⟩)
  | .child => atPlace shape (.child parent.isNil)

/-- The items of a tuple at the root. -/
def atRootEach : List Shape → Reader (List Datum)
  | [] => pure []
  | s :: rest => return (← rootItem (atPlace s .root)) :: (← atRootEach rest)

/-- The items of a tuple among the children of one name. -/
def atChildEach : List Shape → List Char → Reader (List Datum)
  | [], _ => pure []
  | s :: rest, name =>
    return (← childItem name fun t => atPlace s (.item t)) :: (← atChildEach rest name)

/-- The value of the field of a name; nothing if no field has the name. -/
def fieldAt : List (Field Shape) → Tag → String → Source → Option (Reader Datum)
  | [], _, _, _ => none
  | ⟨fieldName, shape, _, _⟩ :: rest, parent, name, source =>
    if fieldName = name then some (ofSource shape parent source)
    else fieldAt rest parent name source

/-- **A variant with its content**, which is named for the variant. A tuple is read from one text
with blanks, except at the root, where its items follow each other. -/
def variantAt (choice : String) : List (String × VariantBody Shape) → String → Place → Reader Datum
  | [], _, _ => unexpected
  | (name, .unit) :: rest, v, p =>
    if name = v then do
      p.skip
      return .unitVariant choice name
    else variantAt choice rest v p
  | (name, .wrapper inner) :: rest, v, p =>
    if name = v then return .wrapperVariant choice name (← atPlace inner p)
    else variantAt choice rest v p
  | (name, .tuple shapes) :: rest, v, p =>
    if name = v then
      match p with
      | .root => return .tupleVariant choice name (← atRootEach shapes)
      | _ => do
        let cs ← p.text
        return .tupleVariant choice name (← lift (ofEachWord shapes false (words cs)))
    else variantAt choice rest v p
  | (name, .record fields) :: rest, v, p =>
    if name = v then do
      let tag ← p.element
      let given ← members tag (givenStep false (fieldAt fields tag)) []
      return .recordVariant choice name (← unfit (Field.assemble fields given))
    else variantAt choice rest v p

end

/-- **A value of a type from a document.** What comes after the value in the document is not looked
at. -/
def ofXml (shape : Shape) (doc : String) : Except Error Datum :=
  ((atPlace shape .root).run (Stream.ofString doc)).map (·.1)

end RestClient.Shape
