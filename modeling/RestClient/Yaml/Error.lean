import RestClient.Data.Mismatch

/-!
# What is wrong with a stream in YAML
-/

namespace RestClient.Yaml

/-- Why a value could not be read from a stream, or written to one. Both have one type, as they have
one constructor among the errors of bodies. -/
inductive Error where
  /-- The stream is not well formed. -/
  | malformed
  /-- An alias has no anchor before it. -/
  | unknownAnchor
  /-- The stream holds more than one document. -/
  | moreDocuments
  /-- Collections stand inside each other too deep, or aliases repeat too much. -/
  | tooDeep
  /-- A node is not of the type that is read. -/
  | unfit
  | mismatch (m : Mismatch)
  /-- A variant with content is the content of another one. -/
  | nestedVariants
  /-- A value refuses to be written. -/
  | refused (reason : String)
  deriving DecidableEq, Repr

/-- The message of an error. -/
def Error.message : Error → String
  | .malformed => "the stream is not well formed"
  | .unknownAnchor => "unknown anchor"
  | .moreDocuments => "the stream holds more than one document"
  | .tooDeep => "collections or aliases go too deep"
  | .unfit => "the content of a node is not of its type"
  | .mismatch m => m.message
  | .nestedVariants => "a node has one tag at most"
  | .refused reason => reason

end RestClient.Yaml
