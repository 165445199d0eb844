import RestClient.Proofs.Preparation
import RestClient.Sample.Schema
import RestClient.Send

/-!
# What reaches the transport

A call that can be prepared hands its request to the transport once, and what the transport answers
decides what the call comes to (`Draft.run_exchange_of_ok`); a call that cannot be prepared fails
without the transport (`Draft.run_exchange_of_error`). Calls on one client follow one another, and
the transport may answer each request by all that it received before. Whatever it answers, it
receives the requests of the calls that can be prepared, each once and in the order of the calls,
and every such call comes to what the answer to its own request says (`Client.run_exchanges`).

Calls are a plain list. A program may choose a call by how the earlier ones ended; what it did in
the end is a list of calls again, and the statement holds of that list.
-/

namespace RestClient

/-! ## One call -/

/-- **What an answer comes to**: an error of the transport is passed on as it is, and otherwise the
union decodes the status and the text. It is a function of the answer alone, and nothing of the
request comes in. -/
def Acceptance.verdict (a : Acceptance) : Reply → Except ApiError Response
  | .failure e => .error (.client e)
  | .response _ (.error e) => .error (.client e)
  | .response status (.ok text) => (a.union.decode a.reader status text).mapError .validation

namespace Draft

/-- The fields of the span that an answer adds. -/
def answerSpan : Reply → List (String × TraceValue)
  | .failure _ => []
  | .response status _ => spanStatus status

/-- The events that an answer adds. -/
def answerEvents (r : Draft) (a : Acceptance) : Reply → List Event
  | .response status (.ok text) => r.closing a status (a.union.decode a.reader status text)
  | _ => []

variable {r : Draft} {client : Client} {sendOptions : Options} {a : Acceptance}
  {transport : List TransportRequest → Transport} {received : List TransportRequest}

/-- Nothing reaches the transport of a request that cannot be prepared. -/
theorem run_exchange_of_error {e : ApiError} (h : r.prepare client sendOptions = .error e) :
    (r.exchange client sendOptions a).run transport received
      = ⟨[], .error e, ⟨r.spanStart, []⟩⟩ := by
  unfold exchange
  simp [h, Exchange.run_bind, Exchange.Run.followedBy]

theorem run_receive (reply : Reply) :
    (r.receive a reply).run transport received
      = ⟨[], a.verdict reply, ⟨answerSpan reply, r.answerEvents a reply⟩⟩ := by
  cases reply with
  | failure e => rfl
  | response status text =>
    unfold receive
    rw [Exchange.run_bind, Exchange.run_noteAll]
    cases text with
    | error e => rfl
    | ok text =>
      simp [Exchange.run_bind, Exchange.Run.followedBy, Acceptance.verdict, answerSpan,
        answerEvents]

/-- **A prepared request reaches the transport once**, and the answer decides. The equation has all
of the run: the one request, the result, the fields of the span and the events, with those of the
transport between those of the call. -/
theorem run_exchange_of_ok {request : TransportRequest}
    (h : r.prepare client sendOptions = .ok request) :
    (r.exchange client sendOptions a).run transport received
      = ⟨[request], a.verdict ((transport received).answer request),
          ⟨r.spanStart ++ ("http.url", .text request.url.text) ::
              answerSpan ((transport received).answer request),
            Event.dispatching r request :: ((transport received).events request ++
              r.answerEvents a ((transport received).answer request))⟩⟩ := by
  unfold exchange
  simp [h, Exchange.run_bind, Exchange.Run.followedBy, run_receive]

end Draft

/-! ## Calls in a row -/

/-- A call: how its request is put together, and how the response is to be read. -/
structure Call where
  start : Draft
  steps : List DraftStep
  sendOptions : Options
  accept : Acceptance

namespace Call

variable (c : Call) (client : Client)

/-- What a call does. A step that fails ends it before anything is sent. -/
def exchange : Exchange (Except ApiError Response) :=
  match c.start.steps c.steps with
  | .error e => return .error (.config e)
  | .ok r => r.exchange client c.sendOptions c.accept

/-- The request of a call that can be prepared. -/
def request? : Option TransportRequest :=
  match c.start.steps c.steps with
  | .error _ => none
  | .ok r => (r.prepare client c.sendOptions).toOption

/-- **What a call comes to**, with the requests that the transport received of it: none if a step or
the preparing fails, and one otherwise. -/
inductive Comes (transport : Transport) :
    List TransportRequest → Except ApiError Response → Prop where
  /-- A step fails, and there is nothing to send. -/
  | unbuilt {e} (failed : c.start.steps c.steps = .error e) :
    Comes transport [] (.error (.config e))
  /-- The request cannot be prepared; the first stage that fails decides. -/
  | unsent {r e} (built : c.start.steps c.steps = .ok r)
    (failed : r.prepare client c.sendOptions = .error e) (first : r.Fails client e) :
    Comes transport [] (.error e)
  /-- The request is sent once, and the answer decides. -/
  | sent {r request} (built : c.start.steps c.steps = .ok r)
    (prepared : r.prepare client c.sendOptions = .ok request) :
    Comes transport [request] (c.accept.verdict (transport.answer request))

variable (transport : List TransportRequest → Transport) (received : List TransportRequest)

theorem comes_run_exchange :
    c.Comes client (transport received) ((c.exchange client).run transport received).requests
      ((c.exchange client).run transport received).result := by
  unfold exchange
  cases hsteps : c.start.steps c.steps with
  | error e => exact .unbuilt hsteps
  | ok r =>
    cases hprepare : r.prepare client c.sendOptions with
    | error e =>
      simp only [Draft.run_exchange_of_error hprepare]
      exact .unsent hsteps hprepare (Draft.prepare_eq_error_iff.mp hprepare)
    | ok request =>
      simp only [Draft.run_exchange_of_ok hprepare]
      exact .sent hsteps hprepare

/-- A call has a request if its steps and the preparing succeed. -/
theorem request?_eq_some_iff {request : TransportRequest} :
    c.request? client = some request ↔
      ∃ r, c.start.steps c.steps = .ok r ∧ r.prepare client c.sendOptions = .ok request := by
  unfold request?
  cases c.start.steps c.steps with
  | error e => simp
  | ok r => simp [Except.toOption_eq_some]

/-- A call hands over its request, if it has one, and no other. -/
theorem requests_run_exchange :
    ((c.exchange client).run transport received).requests = (c.request? client).toList := by
  unfold exchange request?
  cases hsteps : c.start.steps c.steps with
  | error e => rfl
  | ok r =>
    cases hprepare : r.prepare client c.sendOptions with
    | error e => simp [Draft.run_exchange_of_error hprepare, hprepare, Except.toOption]
    | ok request => simp [Draft.run_exchange_of_ok hprepare, hprepare, Except.toOption]

end Call

namespace Client

variable (client : Client) (transport : List TransportRequest → Transport)
  (received : List TransportRequest)

/-- Calls on a client, one after the other. -/
def exchanges : List Call → Exchange (List (Except ApiError Response))
  | [] => return []
  | c :: rest => do
    let result ← c.exchange client
    let results ← exchanges rest
    return result :: results

/-- The requests of those calls that can be prepared. -/
def requests (calls : List Call) : List TransportRequest := calls.filterMap (·.request? client)

theorem run_exchanges_cons (c : Call) (rest : List Call) :
    ((client.exchanges (c :: rest)).run transport received).requests
      = (c.request? client).toList ++
        ((client.exchanges rest).run transport (received ++ (c.request? client).toList)).requests ∧
    ((client.exchanges (c :: rest)).run transport received).result
      = ((c.exchange client).run transport received).result ::
        ((client.exchanges rest).run transport
          (received ++ (c.request? client).toList)).result := by
  rw [exchanges, Exchange.run_bind, Exchange.run_bind, Call.requests_run_exchange]
  simp [Exchange.Run.followedBy, Call.requests_run_exchange]

theorem requests_cons (c : Call) (rest : List Call) :
    client.requests (c :: rest) = (c.request? client).toList ++ client.requests rest := by
  unfold requests
  rw [List.filterMap_cons]
  cases c.request? client <;> rfl

/-- **The transport receives the requests of the calls that can be prepared**, each once and in
order, and each call comes to what its own answer says. A transport may answer by all that it has
received before; what has been received when a call is made are the requests of the calls before it,
and the calls after it do not matter. A call whose request cannot be prepared sends nothing, and no
failure keeps the later calls from being made. -/
theorem run_exchanges (calls : List Call) :
    ((client.exchanges calls).run transport received).requests = client.requests calls ∧
    ((client.exchanges calls).run transport received).result.length = calls.length ∧
    ∀ before c after, calls = before ++ c :: after → ∃ result,
      ((client.exchanges calls).run transport received).result[before.length]? = some result ∧
      c.Comes client (transport (received ++ client.requests before))
        (c.request? client).toList result := by
  induction calls generalizing received with
  | nil =>
    refine ⟨rfl, rfl, fun before c after h => ?_⟩
    cases before <;> cases h
  | cons first rest ih =>
    obtain ⟨hrequests, hlength, hcalls⟩ := ih (received ++ (first.request? client).toList)
    obtain ⟨hrun, hresult⟩ := run_exchanges_cons client transport received first rest
    refine ⟨?_, ?_, fun before c after h => ?_⟩
    · rw [hrun, hrequests, requests_cons]
    · rw [hresult, List.length_cons, hlength, List.length_cons]
    · rw [hresult]
      -- The first call is answered after what was received before, a later one after it as well.
      cases before with
      | nil =>
        rw [List.nil_append, List.cons.injEq] at h
        obtain ⟨rfl, -⟩ := h
        refine ⟨_, rfl, ?_⟩
        have hcomes := first.comes_run_exchange client transport received
        rw [Call.requests_run_exchange] at hcomes
        simpa [requests] using hcomes
      | cons head before =>
        rw [List.cons_append, List.cons.injEq] at h
        obtain ⟨rfl, hrest⟩ := h
        obtain ⟨result, hget, hcomes⟩ := hcalls before c after hrest
        refine ⟨result, ?_, ?_⟩
        · rw [List.length_cons, List.getElem?_cons_succ, hget]
        · rw [requests_cons, ← List.append_assoc]
          exact hcomes

/-- A client whose base is the root of a host. -/
def gateway : Client where
  base := {
    scheme := "https"
    authority? := some { host := .domain "h.example" }
    path := .segments [""] }
  defaults := {}

/-- A call on the shelf of a name. -/
def shelving (name : Datum) : Call where
  start := Draft.start (Sample.free Sample.shelf .get)
  steps := [.params (.record "Shelf" [("name", name)])]
  sendOptions := {}
  accept := ⟨.json, Sample.echoResponse, ContentType.json.read⟩

/-- A transport that fails at first. -/
def waking (received : List TransportRequest) : Transport where
  answer _ := if received.isEmpty then .failure .request else .response 204 (.ok "")

/-- Of four calls one has a header that is none and one names no shelf. The other two reach the
transport, which fails at the first of them and answers the second. -/
theorem run_exchanges_waking :
    let unbuilt := { shelving (.text "a") with steps := [.header "no name" "1"] }
    let before := [unbuilt, shelving (.text "a"), shelving .absent]
    let last := shelving (.text "b")
    (gateway.requests before).length = 1 ∧
    ∃ result, ((gateway.exchanges (before ++ [last])).run waking []).result[3]? = some result ∧
      last.Comes gateway (waking (gateway.requests before)) (last.request? gateway).toList
        result := by
  intro unbuilt before last
  exact ⟨rfl, (run_exchanges gateway waking [] (before ++ [last])).2.2 before last [] rfl⟩

end Client
end RestClient
