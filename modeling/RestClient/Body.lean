import RestClient.Error
import RestClient.Json.Tree
import RestClient.Xml.Read
import RestClient.Xml.Write
import RestClient.Yaml.Read
import RestClient.Yaml.Write

/-!
# Bodies

The body of a request is a text that a `BodyWriter` makes of a typed value, and the body of a
response a text that a `BodyReader` makes a typed value of. There is one of each for every format,
one for texts that are sent and taken as they are, and readers made of a function.
-/

namespace RestClient

/-- Writes the body of a request. A writer is any function, so one that is given by hand may write
anything, and may fail with any error. -/
abbrev BodyWriter := Datum → Except ValidationError String

/-- Reads the body of a response under a shape, from its text and status. A reader is any function,
and one that is given by hand may look at the status too. -/
abbrev BodyReader := Shape → String → Nat → Except ValidationError Datum

namespace Body

/-- Writes a value as JSON, fields in the order of their declaration and members of a map in the
order in which they come. The text is made straight from the value and not from its dynamic form. -/
def writeJson : BodyWriter := fun d => d.toJsonText.mapError .jsonSerialize

/-- Writes a value as XML, under a root named for the type of the value or for the variant that it
is. A value whose type gives no name, such as a number or a list, is not written. -/
def writeXml : BodyWriter := fun d =>
  ((Xml.document d).map String.ofList).mapError fun e => .xmlSerialize e.message

/-- Writes a value as YAML, in block style and as one document. That it cannot be written has the
same constructor as that a text cannot be read. -/
def writeYaml : BodyWriter := fun d => ((Yaml.document d).map String.ofList).mapError .yaml

/-- **Writes a value as a text where it is one**, and else as JSON. The value is made dynamic first,
so a text is any value whose dynamic form is one, and the JSON is that of the dynamic form, with the
members of every object in order of their names. -/
def writeText : BodyWriter := fun d =>
  match d.toJson with
  | .error e => .error (.jsonSerialize e)
  | .ok (.string s) => .ok s
  | .ok j => .ok j.render

/-- Reads a value from JSON, straight from the text: the shape decides what is read at each place,
and nothing but space may follow. -/
def readJson : BodyReader := fun shape text _ => (shape.parse text).mapError .jsonParse

/-- Takes the text as the value, for shapes that have values which are texts. Any other shape has no
value of a text, and it is not tried whether the text is its JSON. -/
def readText : BodyReader := fun shape text _ => (shape.ofText text).mapError .textMismatch

/-- Reads a value from the dynamic value that a function makes of the text and status. The function
may fail with any error; that the dynamic value does not fit the shape is an error of reading JSON,
whatever the text was. -/
def readThrough (f : String → Nat → Except ValidationError Json) : BodyReader :=
  fun shape text status => do
    let j ← f text status
    (shape.ofJson j).mapError .jsonParse

/-- Reads a value from XML. The shape is read from the root; what stands behind it in the text is
not looked at. -/
def readXml : BodyReader := fun shape text _ => (shape.ofXml text).mapError .xmlParse

/-- Reads a value from YAML. A stream of several documents is refused; one without a document is
read as the value of nothing, by the shapes that have one. -/
def readYaml : BodyReader := fun shape text _ => (shape.ofYaml text).mapError .yaml

end Body

end RestClient
