import RestClient.Data.Datum
import RestClient.Json.Write

/-!
# Writing typed values as XML

A value becomes an element named for its type, its fields the elements inside. A list is its items,
an element of the field's name each; an absent value and an empty text are empty elements; a field
whose name starts with `@` is an attribute, and the field `$text` is the text of its element. At
the root only values whose type has a name can be written.
-/

namespace RestClient.Xml

/-- **Why a value cannot be written as XML.** The format has names only where elements are, so some
values have no form at the root, in a child or in an attribute. -/
inductive Unwritable where
  /-- The type of the value gives no name to the root. -/
  | rootless (what : String)
  /-- A variant with content stands inside an element. -/
  | contentVariant (what choice variant : String)
  /-- The value of an attribute or of a text has parts. -/
  | notSimple (what : String)
  | refused (reason : String)
  deriving DecidableEq, Repr

/-- The message of the reason. -/
def Unwritable.message : Unwritable → String
  | .rootless what =>
    "unsupported value: cannot serialize " ++ what ++ " without defined root tag"
  | .contentVariant what choice variant =>
    "unsupported value: cannot serialize enum " ++ what ++ " variant `" ++ choice ++ "::" ++
      variant ++ "`"
  | .notSimple what => "unsupported value: cannot serialize " ++ what ++ " as text content value"
  | .refused reason => reason

/-- Floating-point numbers in XML: always in place, and a whole number has no point. -/
def floatLayout : FloatLayout := ⟨none, none, false, false, "NaN", "inf"⟩

/-- How a character stands in the text of an element. -/
def escapedChar (c : Char) : List Char :=
  if c = '&' then "&amp;".toList
  else if c = '<' then "&lt;".toList
  else if c = '>' then "&gt;".toList
  else [c]

/-- The text of an element. -/
def escaped (cs : List Char) : List Char := cs.flatMap escapedChar

/-- How a character stands in the value of an attribute. -/
def escapedAttributeChar (c : Char) : List Char :=
  if c = '"' then "&quot;".toList
  else if c = '\t' then "&#9;".toList
  else if c = '\n' then "&#10;".toList
  else if c = '\r' then "&#13;".toList
  else escapedChar c

/-- An element without content. -/
def emptyElement (name : String) : List Char := '<' :: (name.toList ++ ['/', '>'])

/-- An element around its content. -/
def wrapped (name : String) (content : List Char) : List Char :=
  '<' :: (name.toList ++ '>' :: (content ++ '<' :: '/' :: (name.toList ++ ['>'])))

/-- An element with attributes; without content it has no end of its own. -/
def element (name : String) (attributes content : List Char) : List Char :=
  if content.isEmpty then '<' :: (name.toList ++ attributes ++ ['/', '>'])
  else
    '<' :: (name.toList ++ attributes ++ '>' :: (content ++ '<' :: '/' :: (name.toList ++ ['>'])))

/-- The text of a value that has no parts, each character written by `escape`, which is one way for
attributes and another for elements. Variants with content and values with parts have no such
text. -/
def simpleText (escape : Char → List Char) : Datum → Except Unwritable (List Char)
  | .unit => .ok []
  | .bool b => .ok (if b then "true" else "false").toList
  | .int _ n => .ok (Json.intText n)
  | .float x => .ok (floatLayout.text x.numeric)
  | .float32 x => .ok (floatLayout.text x.numeric)
  | .char c => .ok (escape c)
  | .text s => .ok (s.toList.flatMap escape)
  | .absent => .ok []
  | .present inner => simpleText escape inner
  | .wrapper _ inner => simpleText escape inner
  | .unitRecord _ => .ok []
  | .unitVariant _ variant => .ok (variant.toList.flatMap escape)
  | .refused reason => .error (.refused reason)
  | .seq _ => .error (.notSimple "sequence")
  | .tuple _ => .error (.notSimple "tuple")
  | .map _ => .error (.notSimple "map")
  | .record name _ => .error (.notSimple ("struct `" ++ name ++ "`"))
  | .wrapperVariant choice variant _ => .error (.contentVariant "newtype" choice variant)
  | .tupleVariant choice variant _ => .error (.contentVariant "tuple" choice variant)
  | .recordVariant choice variant _ => .error (.contentVariant "struct" choice variant)

/-- **What a field of a record is in XML**: an attribute, the text of the element or a child. Its
name alone decides. -/
inductive FieldRole where
  | attr (name : String)
  | text
  | child

/-- The role of a field, by its name. -/
def roleOf (name : String) : FieldRole :=
  match name.toList with
  | '@' :: rest => .attr (String.ofList rest)
  | _ => if name = "$text" then .text else .child

/-- An attribute with its value. -/
def attributeText (name : String) (value : List Char) : List Char :=
  ' ' :: (name.toList ++ '=' :: '"' :: (value ++ ['"']))

mutual

/-- **A value as elements of a name.** A list becomes one element for each of its items and an empty
list none at all; an absent value and the empty text become an empty element. -/
def elements (name : String) : Datum → Except Unwritable (List Char)
  | .unit => .ok (emptyElement name)
  | .absent => .ok (emptyElement name)
  | .unitRecord _ => .ok (emptyElement name)
  | .present inner => elements name inner
  | .wrapper _ inner => elements name inner
  | .text s => .ok (if s.isEmpty then emptyElement name else wrapped name (escaped s.toList))
  | .seq items => itemElements name items
  | .tuple items => itemElements name items
  | .map entries => do
    let content ← entryElements entries
    return element name [] content
  | .record _ fields => do
    let (attributes, content) ← fieldParts fields
    return element name attributes content
  | d => (simpleText escapedChar d).map (wrapped name)

/-- The items of a list, an element each. -/
def itemElements (name : String) : List Datum → Except Unwritable (List Char)
  | [] => .ok []
  | d :: rest => do
    let t ← elements name d
    let ts ← itemElements name rest
    return t ++ ts

/-- The entries of a map, an element named for the key each. -/
def entryElements : List (Datum × Datum) → Except Unwritable (List Char)
  | [] => .ok []
  | (k, d) :: rest => do
    let key ← simpleText escapedChar k
    let t ← elements (String.ofList key) d
    let ts ← entryElements rest
    return t ++ ts

/-- The attributes of a record and its content. A field whose name begins with an at sign is an
attribute, the field `$text` is text between the children, and every other field is a child. -/
def fieldParts : List (String × Datum) → Except Unwritable (List Char × List Char)
  | [] => .ok ([], [])
  | (name, d) :: rest =>
    match roleOf name with
    | .attr attrName => do
      let value ← simpleText escapedAttributeChar d
      let (attributes, content) ← fieldParts rest
      return (attributeText attrName value ++ attributes, content)
    | .text => do
      let t ← simpleText escapedChar d
      let (attributes, content) ← fieldParts rest
      return (attributes, t ++ content)
    | .child => do
      let t ← elements name d
      let (attributes, content) ← fieldParts rest
      return (attributes, t ++ content)

end

/-- **A value as a document.** The root is named for the type of the value, or for the variant that
it is. A value whose type has no name has no document. -/
def document : Datum → Except Unwritable (List Char)
  | .unit => .error (.rootless "`()`")
  | .bool _ => .error (.rootless "`bool`")
  | .int k _ => .error (.rootless ("`" ++ k.name ++ "`"))
  | .float _ => .error (.rootless "`f64`")
  | .float32 _ => .error (.rootless "`f32`")
  | .char _ => .error (.rootless "`char`")
  | .text _ => .error (.rootless "`&str`")
  | .absent => .ok []
  | .present inner => document inner
  | .seq _ => .error (.rootless "sequence")
  | .tuple _ => .error (.rootless "unnamed tuple")
  | .map _ => .error (.rootless "map")
  | .unitRecord name => .ok (emptyElement name)
  | .wrapper name inner => elements name inner
  | .record name fields => elements name (.record name fields)
  | .unitVariant _ variant => .ok (emptyElement variant)
  | .wrapperVariant _ variant inner => elements variant inner
  | .tupleVariant _ variant items => elements variant (.tuple items)
  | .recordVariant _ variant fields => elements variant (.record variant fields)
  | .refused reason => .error (.refused reason)

end RestClient.Xml
