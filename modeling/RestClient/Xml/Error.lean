import RestClient.Data.Mismatch

/-!
# What is wrong with a document
-/

namespace RestClient.Xml

/-- Why a value could not be read from a document. The place in the document is not kept. -/
inductive Error where
  /-- The document is not well formed. -/
  | malformed
  /-- The document ended inside an element, or before one. -/
  | unfinished
  /-- A reference to an entity that is not predefined. -/
  | unknownEntity
  /-- Something else than the type needs stands in this place. -/
  | unexpected
  /-- A text is not the text of a value of its type. -/
  | badText (text : String)
  | mismatch (m : Mismatch)
  deriving DecidableEq, Repr

/-- The message of an error. -/
def Error.message : Error → String
  | .malformed => "the document is not well formed"
  | .unfinished => "the document is not complete"
  | .unknownEntity => "reference to an unknown entity"
  | .unexpected => "the content of an element is not of its type"
  | .badText text => "no value of the type is written " ++ Text.quoted text
  | .mismatch m => m.message

end RestClient.Xml
