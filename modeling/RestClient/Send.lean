import RestClient.Exchange
import RestClient.Request

/-!
# Sending

`Draft.exchange` prepares a request, hands it to the transport once, and decodes the response by the
union of the operation; `Draft.send` runs it with a transport. The outcome holds what the transport
received and what was reported.
-/

namespace RestClient

/-- How a response is to be read: the content type that is accepted, its union, and the reader of
its bodies. -/
structure Acceptance where
  contentType : ContentType
  union : Union
  reader : BodyReader

/-- The outcome of a call. -/
abbrev Outcome := Exchange.Run (Except ApiError Response)

/-- How reports call the kind of a status. -/
def statusClass (status : Nat) : String :=
  if 200 ≤ status && status ≤ 299 then "OK"
  else if 500 ≤ status && status ≤ 599 then "ERROR"
  else "UNSET"

namespace Event

/-- A request is handed to the transport. The path is that of the template and not that of the
address, so no value of a parameter is reported, and of the body only whether there is one. -/
def dispatching (r : Draft) (request : TransportRequest) : Event where
  level := .debug
  message := "dispatching request"
  fields := [
    ("path", .text r.operation.route.template),
    ("content_type", .text r.contentType.mime),
    ("has_body", .flag request.body?.isSome)]

/-- A response was decoded. -/
def decoded (accept : ContentType) (status : Nat) : Event where
  level := .debug
  message := "decoded response"
  fields := [("status", .number status), ("accept", .text accept.mime)]

/-- A response has a status that was not declared. Beside the status stand all those that the
operation declares, whichever content type is accepted. -/
def undeclared (declared : List Nat) (status : Nat) : Event where
  level := .warn
  message := "response status is not declared for this operation"
  fields := [
    ("status", .number status),
    ("declared", .text (Text.bracketed (declared.map fun n => String.ofList (Nat.toDigits 10 n))))]

end Event

namespace Draft

/-- The fields of a call's span that are known before anything is done. -/
def spanStart (r : Draft) : List (String × TraceValue) :=
  [("otel.kind", .text "client"), ("http.method", .text r.operation.method.name)]

/-- The fields of a status, which the span gets as soon as there is a response, whether its text can
be read or not. -/
def spanStatus (status : Nat) : List (String × TraceValue) :=
  [("http.status_code", .number status), ("otel.status_code", .text (statusClass status))]

/-- What is reported of a decoded response or of why there is none. A status that is not declared is
reported as such; any other error is in the outcome of the call and not reported besides. -/
def closing (r : Draft) (accept : Acceptance) (status : Nat) :
    Except ValidationError Response → List Event
  | .ok _ => [Event.decoded accept.contentType status]
  | .error (.undeclaredStatus s _) => [Event.undeclared r.operation.statuses s]
  | .error _ => []

/-- What follows an answer: errors of the transport are passed on, whether the request failed or
only the text of the response, and a response with its text is decoded. -/
def receive (r : Draft) (accept : Acceptance) : Reply → Exchange (Except ApiError Response)
  | .failure e => return .error (.client e)
  | .response status text => do
    .noteAll (spanStatus status)
    match text with
    | .error e => return .error (.client e)
    | .ok text =>
      let result := accept.union.decode accept.reader status text
      .reportAll (r.closing accept status result)
      return result.mapError .validation

/-- **What sending does.** The request is prepared, handed to the transport once, and the answer is
decoded. Nothing is handed to the transport if the request cannot be prepared, and nothing is tried
again. -/
def exchange (r : Draft) (client : Client) (sendOptions : Options) (accept : Acceptance) :
    Exchange (Except ApiError Response) := do
  .noteAll r.spanStart
  match r.prepare client sendOptions with
  | .error e => return .error e
  | .ok request =>
    .noteAll [("http.url", .text request.url.text)]
    .reportAll [Event.dispatching r request]
    let reply ← .ask request
    r.receive accept reply

/-- **Sends a request** with a transport: the exchange of the call, run on its own with nothing
received before it. -/
def send (r : Draft) (client : Client) (transport : Transport) (sendOptions : Options)
    (accept : Acceptance) : Outcome :=
  (r.exchange client sendOptions accept).run (fun _ => transport) []

end Draft
end RestClient
