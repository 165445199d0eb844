import RestClient.Http.Header
import RestClient.Json.Write
import RestClient.Json.Error
import RestClient.Params
import RestClient.Template
import RestClient.Url.Parse
import RestClient.Xml.Error
import RestClient.Yaml.Error

/-!
# Errors

An error belongs to one of three layers: the configuration of a client or a request, the
translation of bodies, and the exchange itself. Each constructor is a cause, with the message in
one place.
-/

namespace RestClient

/-- A client or a request is not set up right. These errors come before anything is handed to a
transport. -/
inductive ConfigError where
  | invalidUrl (fault : Url.Fault)
  /-- The base address has a path that cannot be extended. -/
  | notHierarchical (url : String)
  | invalidHeader (name : String) (fault : HeaderFault)
  | template (error : Template.Error)
  | invalidParams (kind : ParamKind) (fault : Params.Fault)
  deriving Repr

/-- A body could not be translated: not written for a request, not read from a response, or not read
at all as the status was not declared. -/
inductive ValidationError where
  | jsonParse (error : Json.Error)
  | jsonSerialize (error : Json.Unwritable)
  /-- A body was not read from YAML, or not written in it. -/
  | yaml (error : Yaml.Error)
  | xmlParse (error : Xml.Error)
  | xmlSerialize (reason : String)
  | undeclaredStatus (status : Nat) (body : String)
  /-- The type of a body takes no text as it is. -/
  | textMismatch (mismatch : Mismatch)
  deriving DecidableEq, Repr

/-- The exchange failed: the request could not be carried out, the transport gave a reason of its
own, or the time was up. -/
inductive ClientError where
  /-- The standard transport failed with a request, before there was a connection. The reason is
  that of the library underneath, and nothing of it is kept. -/
  | request
  | transport (reason : String)
  | timeout (milliseconds : Nat)
  deriving DecidableEq, Repr

/-- What can go wrong with a call, by the layer that it comes from. Each constructor keeps the error
of its layer as it is. -/
inductive ApiError where
  | config (error : ConfigError)
  | validation (error : ValidationError)
  | client (error : ClientError)
  deriving Repr

/-- The message of an error in setting up. -/
def ConfigError.message : ConfigError → String
  | .invalidUrl f => "Invalid URL: " ++ f.message
  | .notHierarchical url => "Base URL cannot be a base: " ++ url
  | .invalidHeader name f => "Invalid header " ++ name ++ ": " ++ f.message
  | .template (.malformed f segment) => "Invalid path template: " ++ f.message segment
  | .template (.missing name) => "Missing path parameter: " ++ name
  | .template (.dotSegment name segment) =>
    "Invalid path parameter " ++ name ++ ": segment " ++ Text.quoted segment ++
      " would change the request path"
  | .invalidParams kind f => "Invalid " ++ kind.label ++ ": " ++ f.message

namespace ValidationError

/-- The message of an error in translating a body. -/
def message : ValidationError → String
  | .jsonParse e => "JSON parse error: " ++ e.message
  | .jsonSerialize e => "JSON serialize error: " ++ e.message
  | .yaml e => "YAML error: " ++ e.message
  | .xmlParse e => "XML parse error: " ++ e.message
  | .xmlSerialize reason => "XML serialize error: " ++ reason
  | .undeclaredStatus status _ =>
    "Status " ++ String.ofList (Nat.toDigits 10 status) ++ " is not declared for this operation"
  | .textMismatch m => "Unexpected content type: expected a text body type, got " ++ m.message

/-- The body of a response could not be read. Only errors of the three formats count, and an
undeclared status and a shape that takes no text do not. -/
def isParseError : ValidationError → Bool
  | .jsonParse _ | .yaml _ | .xmlParse _ => true
  | _ => false

/-- The body of a request could not be written. A value that could not be written as YAML has the
constructor of texts that are no YAML, and is not counted here. -/
def isSerializeError : ValidationError → Bool
  | .jsonSerialize _ | .xmlSerialize _ => true
  | _ => false

end ValidationError

namespace ClientError

/-- The message of an error in the exchange. Of a failed request it is only what stands in front of
the reason. -/
def message : ClientError → String
  | .request => "HTTP request failed: "
  | .transport reason => "Transport failed: " ++ reason
  | .timeout ms => "Request timeout after " ++ String.ofList (Nat.toDigits 10 ms) ++ "ms"

/-- Whether the same request may succeed later. A failed request may if it timed out or found no
connection; the failures that are kept here come before that. -/
def isRetryable : ClientError → Bool
  | .timeout _ => true
  | _ => false

end ClientError

namespace ApiError

/-- The message of an error. -/
def message : ApiError → String
  | .config e => e.message
  | .validation e => e.message
  | .client e => e.message

/-- Whether the error reports another one as its cause: an address that is none, a text that was not
read, or a request that the network failed. -/
def hasSource : ApiError → Bool
  | .config (.invalidUrl _) => true
  | .validation e => e.isParseError
  | .client .request => true
  | _ => false

end ApiError
end RestClient
