import RestClient.Http.Method
import RestClient.Options
import RestClient.Url.Form
import RestClient.Url.Join

/-!
# Transports

A transport takes a finished request and answers with a failure or with a response, whose text may
fail to be read. What goes on during a call is reported as a span with its fields and as events.
-/

namespace RestClient

/-- A request as the transport receives it: everything that the call has decided, with nothing left
to look up in the client. -/
structure TransportRequest where
  url : Url
  method : Method
  headers : HeaderMap
  body? : Option String
  timeout? : Option Nat
  passthrough : Passthrough
  deriving Repr

/-- The answer of a transport: that the request failed, or a response, whose text is fetched later
and may fail by itself. -/
inductive Reply where
  | failure (error : ClientError)
  | response (status : Nat) (text : Except ClientError String)
  deriving Repr

/-! ## Reports -/

/-- The value of a field of a report. -/
inductive TraceValue where
  | text (s : String)
  | number (n : Nat)
  | flag (b : Bool)
  deriving DecidableEq, Repr

/-- How much an event matters. -/
inductive Level where
  | debug
  | warn
  deriving DecidableEq, Repr

/-- An event of a call. -/
structure Event where
  level : Level
  message : String
  fields : List (String × TraceValue)
  deriving DecidableEq, Repr

/-- What was reported during a call: the fields of its span in the order in which they became known,
and its events in the order in which they were reported. -/
structure Trace where
  span : List (String × TraceValue)
  events : List Event
  deriving DecidableEq, Repr

/-! ## Transports -/

/-- A transport: its answer to a request, and what it reports itself. Both are functions of the
request; what a transport has received before comes in only when exchanges are run. -/
structure Transport where
  answer : TransportRequest → Reply
  events : TransportRequest → List Event := fun _ => []

/-- The event of options that a transport does not understand. -/
def Event.ignoredPassthrough (names : List String) : Event where
  level := .debug
  message := "reqwest transport ignores passthrough options"
  fields := [("ignored", .text (Text.bracketed (names.map Text.quoted)))]

/-- **A stand-in for the transport of a client that was given none.** Exchanges over a network are
no part of this library, so it fails every request, as the transport it stands for fails one whose
address is not of the web. What comes before the exchange is as there: passthrough options are not
understood, and are reported if there are any. -/
def Transport.standard : Transport where
  answer _ := .failure .request
  events request :=
    let names := request.passthrough.members.map Prod.fst
    if names.isEmpty then [] else [Event.ignoredPassthrough names]

end RestClient
