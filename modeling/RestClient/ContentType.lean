import RestClient.Body

/-!
# Content types

A content type has a name and a rule for the bodies written and read under it. Only JSON translates
values; under every other content type a text is sent as it is, any other value in JSON, and a
response is taken as the text that it is.
-/

namespace RestClient

/-- The default translation of bodies under a content type: JSON in both directions, or texts as
they are. -/
inductive BodyRule where
  | json
  | text
  deriving DecidableEq, Repr

/-- A content type: the name that it has in headers, and the rule by which bodies are translated
where no writer or reader is given by hand. -/
structure ContentType where
  /-- The value of the header that announces it. -/
  mime : String
  rule : BodyRule := .text
  deriving DecidableEq, Repr

namespace ContentType

/-- The default writer of a content type. -/
def write (ct : ContentType) : BodyWriter :=
  match ct.rule with
  | .json => Body.writeJson
  | .text => Body.writeText

/-- The default reader of a content type. -/
def read (ct : ContentType) : BodyReader :=
  match ct.rule with
  | .json => Body.readJson
  | .text => Body.readText

/-! ## Common content types -/

def json : ContentType := ⟨"application/json", .json⟩
def xml : ContentType := { mime := "application/xml" }
def yaml : ContentType := { mime := "application/yaml" }
def plainText : ContentType := { mime := "text/plain" }
def html : ContentType := { mime := "text/html" }
def formUrlEncoded : ContentType := { mime := "application/x-www-form-urlencoded" }
def octetStream : ContentType := { mime := "application/octet-stream" }

end ContentType
end RestClient
