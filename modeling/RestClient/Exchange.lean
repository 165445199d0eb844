import RestClient.Transport

/-!
# Exchanges

An `Exchange` is what a call does, written down before anything is done: the requests that it hands
to the transport, each with what follows for every reply, and the reports that it makes. Only
`Exchange.run` meets a transport. There is no other way to a reply than a request, and a run keeps
every request, so the requests of a run are all that the transport received.

A transport may answer by what it has received before, so a run takes a `Transport` for each
history of requests. `Exchange.run_bind` is how runs of exchanges in a row fit together.
-/

namespace RestClient

/-- What a call does: a tree whose leaves are results and whose branches are the replies to the
requests on the way. As a transport may answer with anything, there is a branch for every reply. -/
inductive Exchange (α : Type) where
  /-- Nothing more is done. -/
  | done (result : α)
  /-- A request is handed to the transport; the reply decides what follows. -/
  | fetch (request : TransportRequest) (next : Reply → Exchange α)
  /-- A field of the span becomes known. -/
  | note (field : String × TraceValue) (next : Exchange α)
  /-- An event is reported. -/
  | report (event : Event) (next : Exchange α)

/-- What came of an exchange: the requests that the transport received, in order, the result, and
what was reported on the way. -/
structure Exchange.Run (α : Type) where
  /-- The requests that the transport received. -/
  requests : List TransportRequest
  result : α
  trace : Trace

namespace Exchange

variable {α β : Type}

/-- One exchange after another, which may depend on the result of the first. It takes the place of
every leaf of the first one, so all that the first one does stands in front of it. -/
def bind (x : Exchange α) (f : α → Exchange β) : Exchange β :=
  match x with
  | .done a => f a
  | .fetch request next => .fetch request fun reply => (next reply).bind f
  | .note field next => .note field (next.bind f)
  | .report event next => .report event (next.bind f)

instance : Monad Exchange where
  pure := done
  bind := bind

/-- Hands a request to the transport, and the reply is the result. It is the only exchange that
reaches the transport. -/
def ask (request : TransportRequest) : Exchange Reply := .fetch request .done

/-- Notes fields of the span, in order. -/
def noteAll : List (String × TraceValue) → Exchange Unit
  | [] => .done ()
  | f :: rest => .note f (noteAll rest)

/-- Reports events, in order. -/
def reportAll : List Event → Exchange Unit
  | [] => .done ()
  | e :: rest => .report e (reportAll rest)

/-- **Runs an exchange** with a transport that knows what it has received. The requests of the run
are those that it has handed over itself, without the ones received before. -/
def run (transport : List TransportRequest → Transport) (received : List TransportRequest) :
    Exchange α → Run α
  | .done a => ⟨[], a, ⟨[], []⟩⟩
  | .fetch request next =>
    -- The answer may depend on what came before, and what comes later on this request too.
    let reply := (transport received).answer request
    let rest := run transport (received ++ [request]) (next reply)
    let events := (transport received).events request ++ rest.trace.events
    ⟨request :: rest.requests, rest.result, ⟨rest.trace.span, events⟩⟩
  | .note field next =>
    let rest := run transport received next
    ⟨rest.requests, rest.result, ⟨field :: rest.trace.span, rest.trace.events⟩⟩
  | .report event next =>
    let rest := run transport received next
    ⟨rest.requests, rest.result, ⟨rest.trace.span, event :: rest.trace.events⟩⟩

/-! ## Runs in a row -/

/-- A run and what came of the exchange after it: requests and reports are put one behind the other,
and the result is that of the second. -/
def Run.followedBy (first : Run α) (second : Run β) : Run β where
  requests := first.requests ++ second.requests
  result := second.result
  trace := ⟨first.trace.span ++ second.trace.span, first.trace.events ++ second.trace.events⟩

variable (transport : List TransportRequest → Transport) (received : List TransportRequest)

@[simp] theorem run_pure (a : α) :
    (pure a : Exchange α).run transport received = ⟨[], a, ⟨[], []⟩⟩ := rfl

/-- **Exchanges in a row run one after the other**: the second one starts with what the transport
received during the first. -/
theorem run_bind (x : Exchange α) (f : α → Exchange β) :
    (x >>= f).run transport received
      = (x.run transport received).followedBy
        ((f (x.run transport received).result).run transport
          (received ++ (x.run transport received).requests)) := by
  show (x.bind f).run transport received = _
  induction x generalizing received with
  | done a => simp [bind, run, Run.followedBy]
  | fetch request next ih => simp [bind, run, Run.followedBy, ih]
  | note field next ih => simp [bind, run, Run.followedBy, ih]
  | report event next ih => simp [bind, run, Run.followedBy, ih]

/-- Asking is one request, the result is the reply, and the reports are those of the transport
itself. -/
@[simp] theorem run_ask (request : TransportRequest) :
    (ask request).run transport received
      = ⟨[request], (transport received).answer request,
          ⟨[], (transport received).events request⟩⟩ := by
  simp [ask, run]

@[simp] theorem run_noteAll (fields : List (String × TraceValue)) :
    (noteAll fields).run transport received = ⟨[], (), ⟨fields, []⟩⟩ := by
  induction fields with
  | nil => rfl
  | cons f rest ih => simp [noteAll, run, ih]

@[simp] theorem run_reportAll (events : List Event) :
    (reportAll events).run transport received = ⟨[], (), ⟨[], events⟩⟩ := by
  induction events with
  | nil => rfl
  | cons e rest ih => simp [reportAll, run, ih]

end Exchange
end RestClient
