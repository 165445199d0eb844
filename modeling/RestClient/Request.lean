import RestClient.Client
import RestClient.Operation

/-!
# Requests

A `Draft` is a request that is being put together: for an operation and a content type, with the
parameters, the query, the body and the options that were given last. `Draft.prepare` makes the
request that the transport receives. Its stages come in a fixed order, and the first that fails
decides: the path parameters, the template, the path, the query, the content type, the body.
-/

namespace RestClient

/-- A request that is being put together: what was chosen when it was started, what its steps have
set since, and nothing that depends on the client or on the options of the sending. -/
structure Draft where
  operation : Operation
  contentType : ContentType
  writer : BodyWriter
  params? : Option Datum := none
  query? : Option Datum := none
  /-- The body in writing, or why it could not be written. -/
  body? : Option (Except ValidationError String) := none
  options : Options := {}

/-- A step in putting a request together. A header can be set by itself; a timeout and passthrough
options come with a layer of options. -/
inductive DraftStep where
  | params (d : Datum)
  | query (d : Datum)
  | body (d : Datum)
  | options (layer : Options)
  | header (name value : String)

namespace Draft

/-- A request in the content type that the operation takes where none is chosen. -/
def start (op : Operation) : Draft :=
  { operation := op, contentType := op.requestType, writer := op.requestType.write }

/-- A request in a content type, whose bodies are written by its rule. -/
def startAs (op : Operation) (ct : ContentType) : Draft :=
  { operation := op, contentType := ct, writer := ct.write }

/-- A request in a content type, with a writer for its bodies. -/
def startWith (op : Operation) (ct : ContentType) (writer : BodyWriter) : Draft :=
  { operation := op, contentType := ct, writer := writer }

/-- One step. Parameters, the query and the body replace what was given before, and options are put
over those already given. The body is written at once, but that it could not be written shows only
when the request is prepared; a header that is no header shows at once. -/
def step (r : Draft) : DraftStep → Except ConfigError Draft
  | .params d => .ok { r with params? := some d }
  | .query d => .ok { r with query? := some d }
  | .body d => .ok { r with body? := some (r.writer d) }
  | .options layer => .ok { r with options := r.options.merge layer }
  | .header name value => (r.options.withHeader name value).map fun o => { r with options := o }

/-- Steps in order. The first one that fails decides, and the steps after it are not looked at. -/
def steps (r : Draft) : List DraftStep → Except ConfigError Draft
  | [] => .ok r
  | s :: rest => do
    let r ← r.step s
    r.steps rest

/-! ## Preparing -/

/-- The pairs of parameters, none where none were given. A failure names the kind of the parameters,
as path parameters and the query are refused with different words. -/
def pairs (kind : ParamKind) (d? : Option Datum) : Except ConfigError (List (String × String)) :=
  match d? with
  | none => .ok []
  | some d => (Params.toPairs d).mapError (.invalidParams kind)

/-- The base address with the segments of the request behind its path. A client has a base whose
path can be extended, but an address alone may have none. -/
def joined (base : Url) (segments : List String) : Except ConfigError Url :=
  match base.join? segments with
  | some u => .ok u
  | none => .error (.notHierarchical base.text)

/-- **The address of the request.** The template is filled before the query is looked at, so of a
template that cannot be filled and a query without pairs it is the template that is refused. -/
def url (r : Draft) (client : Client) : Except ConfigError Url := do
  let values ← pairs .path r.params?
  let segments ← (Template.render r.operation.route.template values).mapError .template
  let u ← joined client.base segments
  let query ← pairs .query r.query?
  return u.appendPairs query

/-- The header that announces the content type, the only one that the request itself brings. The
name of a content type may be any text, so it may be no value of a header. -/
def contentTypeHeader (r : Draft) : Except ConfigError HeaderMap :=
  match HeaderMap.value? r.contentType.mime with
  | some v => .ok (HeaderMap.empty.insert .contentType v)
  | none => .error (.invalidHeader "content-type" .value)

/-- The headers of the request: over those given, those of the client, of the call and of the
sending, each a layer over the ones before it. What is given is the announcement of the content
type, which every layer may replace. -/
def headers (r : Draft) (client : Client) (sendOptions : Options) (base : HeaderMap) :
    HeaderMap :=
  ((base.merge client.defaults.headers).merge r.options.headers).merge sendOptions.headers

/-- The timeout that was set last: when sending, for the call, or for the client. -/
def timeout? (r : Draft) (client : Client) (sendOptions : Options) : Option Nat :=
  (sendOptions.timeout?.or r.options.timeout?).or client.defaults.timeout?

/-- The passthrough options of the client, under those of the call, under those of the sending. -/
def passthrough (r : Draft) (client : Client) (sendOptions : Options) : Passthrough :=
  (client.defaults.passthrough.merge r.options.passthrough).merge sendOptions.passthrough

/-- The body, for a method that carries one. For any other method there is none, and a body that
could not be written is then no failure either. -/
def body (r : Draft) : Except ValidationError (Option String) :=
  if r.operation.method.hasBody then
    match r.body? with
    | none => .ok none
    | some b => b.map some
  else .ok none

/-- **The request as the transport receives it**: the address, the headers, the body, the timeout
and the passthrough options. The address comes first, then the announcement of the content type,
then the body, and the first that fails decides. -/
def prepare (r : Draft) (client : Client) (sendOptions : Options) :
    Except ApiError TransportRequest := do
  let url ← (r.url client).mapError .config
  let contentType ← r.contentTypeHeader.mapError .config
  let body? ← r.body.mapError .validation
  return {
    url := url
    method := r.operation.method
    headers := r.headers client sendOptions contentType
    body? := body?
    timeout? := r.timeout? client sendOptions
    passthrough := r.passthrough client sendOptions }

end Draft
end RestClient
