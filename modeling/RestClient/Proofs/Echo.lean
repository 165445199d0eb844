import RestClient.Proofs.AsGiven
import RestClient.Proofs.Bodies
import RestClient.Proofs.Coverage
import RestClient.Proofs.Rendering

/-!
# A value that comes back

A dynamic value is sent as a body in JSON, a transport answers with the body that it received, and
the answer is read as a dynamic value again. Then it is the value that was sent
(`Call.run_exchange_of_echo`). The text that is sent is that of the value
(`Json.jsonChars_toDatum`), and it reads back as the value (`Json.parse_render`), so that what is
left to follow is the way through the draft, the transport and the union.

A value is sent and received as a typed one, and these are different for different values
(`Json.eq_of_toDatum_eq`). So what comes back says of every value that it is the one, or not.
-/

namespace RestClient

open DraftStep

namespace Json

/-! ## Dynamic values as typed ones -/

/-- The sign of an integer decides about its type. -/
theorem Number.toDatum_int (k : Int) :
    (Number.int k).toDatum = .int (if k < 0 then .i64 else .u64) k := by
  show (if k < 0 then Datum.int .i64 k else .int .u64 k) = _
  split <;> rfl

theorem Number.eq_of_toDatum_eq {m n : Number} (h : m.toDatum = n.toDatum) : m = n := by
  cases m with
  | int k =>
    rw [toDatum_int] at h
    cases n with
    | int l =>
      rw [toDatum_int, Datum.int.injEq] at h
      rw [h.2]
    | float x => cases h
  | float x =>
    cases n with
    | int l =>
      rw [toDatum_int] at h
      cases h
    | float y =>
      cases h
      rfl

/-- Only a number is a number as a typed value. -/
theorem eq_number_of_toDatum_eq {j : Json} {n : Number} (h : j.toDatum = n.toDatum) :
    j = .number n := by
  cases j with
  | number m =>
    have hm : m.toDatum = n.toDatum := h
    rw [Number.eq_of_toDatum_eq hm]
  | null | bool b | string s | array items | object members =>
    cases n with
    | int k =>
      rw [Number.toDatum_int] at h
      cases h
    | float x => cases h

theorem eq_of_toData_eq {items others : List Json}
    (h : ∀ j ∈ items, ∀ {k : Json}, j.toDatum = k.toDatum → j = k)
    (heq : toData items = toData others) : items = others := by
  induction items generalizing others with
  | nil =>
    cases others with
    | nil => rfl
    | cons k ks => cases heq
  | cons j rest ih =>
    obtain ⟨hj, hrest⟩ := List.forall_mem_cons.mp h
    cases others with
    | nil => cases heq
    | cons k ks =>
      rw [toData, toData, List.cons.injEq] at heq
      rw [hj heq.1, ih hrest heq.2]

theorem eq_of_toEntries_eq {members others : List (String × Json)}
    (h : ∀ m ∈ members, ∀ {k : Json}, m.2.toDatum = k.toDatum → m.2 = k)
    (heq : toEntries members = toEntries others) : members = others := by
  induction members generalizing others with
  | nil =>
    cases others with
    | nil => rfl
    | cons k ks => cases heq
  | cons m rest ih =>
    obtain ⟨hm, hrest⟩ := List.forall_mem_cons.mp h
    cases others with
    | nil => cases heq
    | cons k ks =>
      rw [toEntries, toEntries, List.cons.injEq, Prod.mk.injEq, Datum.text.injEq] at heq
      rw [Prod.ext heq.1.1 (hm heq.1.2), ih hrest heq.2]

/-- **Different values are different as typed values**, so what is read under the shape of any value
tells which value it was. -/
theorem eq_of_toDatum_eq {j k : Json} (h : j.toDatum = k.toDatum) : j = k := by
  induction j using induction generalizing k with
  | number n => exact (eq_number_of_toDatum_eq h.symm).symm
  | null | bool b | string s =>
    cases k with
    | number n => exact eq_number_of_toDatum_eq h
    | null | bool b | string s | array items | object members =>
      cases h <;> rfl
  | array items ih =>
    cases k with
    | number n => exact eq_number_of_toDatum_eq h
    | array others => rw [eq_of_toData_eq ih (Datum.seq.inj h)]
    | null | bool b | string s | object members => cases h
  | object members ih =>
    cases k with
    | number n => exact eq_number_of_toDatum_eq h
    | object others => rw [eq_of_toEntries_eq ih (Datum.map.inj h)]
    | null | bool b | string s | array items => cases h

/-! ## The text of the typed value -/

theorem Number.jsonChars_toDatum (n : Number) : n.toDatum.jsonChars = .ok n.text := by
  cases n with
  | int k =>
    rw [toDatum_int]
    rfl
  | float x => rfl

theorem itemsChars_toData {items : List Json} (h : ∀ j ∈ items, j.toDatum.jsonChars = .ok j.text) :
    Datum.itemsChars (toData items) = .ok (items.map text) := by
  induction items with
  | nil => rfl
  | cons j rest ih =>
    obtain ⟨hj, hrest⟩ := List.forall_mem_cons.mp h
    rw [toData, Datum.itemsChars, hj, ih hrest]
    rfl

theorem entriesChars_toEntries {members : List (String × Json)}
    (h : ∀ m ∈ members, m.2.toDatum.jsonChars = .ok m.2.text) :
    Datum.entriesChars (toEntries members) = .ok (members.map memberText) := by
  induction members with
  | nil => rfl
  | cons m rest ih =>
    obtain ⟨hm, hrest⟩ := List.forall_mem_cons.mp h
    rw [toEntries, Datum.entriesChars, hm, ih hrest]
    rfl

/-- **A value is written as its own text**: under the shape of any value the writer for typed values
and the one for dynamic values are one. -/
theorem jsonChars_toDatum (j : Json) : j.toDatum.jsonChars = .ok j.text := by
  induction j using induction with
  | null => rfl
  | bool b => cases b <;> rfl
  | number n => exact n.jsonChars_toDatum
  | string s => rfl
  | array items ih =>
    rw [toDatum, Datum.jsonChars, itemsChars_toData ih]
    exact congrArg Except.ok (enclosed_items items)
  | object members ih =>
    rw [toDatum, Datum.jsonChars, entriesChars_toEntries ih]
    exact congrArg Except.ok (enclosed_members members)

/-! ## Writing and reading -/

/-- **A value that comes back**: its keys are in order, its numbers are integers of sixty-four bits,
and its arrays and objects stand in one another at most a hundred and twenty-seven times, since a
reader goes no deeper. -/
structure RoundTrips (v : Json) : Prop where
  ordered : v.Ordered
  numbers : v.Numbers Number.IsWhole
  nesting : v.nesting ≤ 127

theorem RoundTrips.parse_render {v : Json} (h : v.RoundTrips) : parse v.render = .ok v := by
  rw [Json.parse_render (h.numbers.mono Number.IsWhole.isReadable) (Nat.lt_succ_of_le h.nesting),
    settle_eq_self h.ordered (h.numbers.mono Number.IsWhole.reread_eq)]

theorem write_toDatum (v : Json) : ContentType.json.write v.toDatum = .ok v.render := by
  show (v.toDatum.jsonChars.map String.ofList).mapError _ = _
  rw [jsonChars_toDatum]
  rfl

end Json

/-- Under the shape of any value a text is read as a dynamic value. -/
theorem Shape.parse_any (s : String) : Shape.any.parse s = (Json.parse s).map Json.toDatum := by
  show (Shape.any.read Json.levels s.toList >>= Json.whole)
    = (Json.value (s.toList.length + 1) Json.levels s.toList >>= Json.whole).map _
  rw [Shape.read]
  cases Json.value (s.toList.length + 1) Json.levels s.toList with
  | error e => rfl
  | ok p =>
    show Json.whole (p.1.toDatum, p.2) = (Json.whole p).map Json.toDatum
    unfold Json.whole
    cases Json.skipBlanks p.2 <;> rfl

theorem Json.RoundTrips.read {v : Json} (h : v.RoundTrips) (status : Nat) :
    ContentType.json.read .any v.render status = .ok v.toDatum := by
  show (Shape.any.parse v.render).mapError _ = _
  rw [Shape.parse_any, h.parse_render]
  rfl

/-! ## Through a call -/

/-- **A transport that echoes**: it answers with status 200, and the text of the answer is the body
that it received. What it answers to a request without a body is left open. -/
def Transport.Echoes (t : Transport) : Prop :=
  ∀ request text, request.body? = some text → t.answer request = .response 200 (.ok text)

/-- **A call that sends a value as JSON** and takes any value back: the method carries a body, the
value is the body that is given last, bodies are written and read by the rule of JSON, and the arm
of the status 200 has a body of any value. -/
structure Call.Sends (c : Call) (v : Json) (arm : Arm) : Prop where
  start : c.start = Draft.startAs c.start.operation .json
  method : c.start.operation.method = .post ∨ c.start.operation.method = .put ∨
    c.start.operation.method = .patch
  body : last? bodyGiven? c.steps = some v.toDatum
  reader : c.accept.reader = ContentType.json.read
  declared : c.accept.union.arm? 200 = some arm
  shape : arm.body? = some .any

/-- An answer that is read is the arm of its status with what was read. -/
theorem Acceptance.verdict_of_read {accept : Acceptance} {status : Nat} {arm : Arm} {shape : Shape}
    {text : String} {d : Datum} (declared : accept.union.arm? status = some arm)
    (hshape : arm.body? = some shape) (hread : accept.reader shape text status = .ok d) :
    accept.verdict (.response status (.ok text)) = .ok ⟨status, arm.variant, some d⟩ := by
  show (accept.union.decode accept.reader status text).mapError _ = _
  unfold Union.decode
  rw [declared]
  show (Union.decodeArm arm _ status text).mapError _ = _
  unfold Union.decodeArm
  rw [hshape, Union.status_of_arm? declared]
  show ((accept.reader shape text status).map _).mapError _ = _
  rw [hread]
  rfl

/-- The answer with the text of a value is the arm of status 200 with this value. -/
theorem Call.Sends.verdict {c : Call} {v : Json} {arm : Arm} (h : c.Sends v arm)
    (hv : v.RoundTrips) :
    c.accept.verdict (.response 200 (.ok v.render)) = .ok ⟨200, arm.variant, some v.toDatum⟩ :=
  Acceptance.verdict_of_read h.declared h.shape (by rw [h.reader, hv.read])

/-- The request of a call has the text of the body that is given last, if the method carries a body,
this body can be written, and its content type can be announced. -/
theorem Call.prepare_of_written {c : Call} {d : Datum} {text : String}
    (hmethod : c.start.operation.method.hasBody = true)
    (hmime : HeaderMap.value? c.start.contentType.mime = some c.start.contentType.mime)
    (hgiven : last? bodyGiven? c.steps = some d) (hwritten : c.start.writer d = .ok text)
    {client : Client} {q : Draft} {u : Url} (hsteps : c.start.steps c.steps = .ok q)
    (hurl : q.url client = .ok u) :
    ∃ request, q.prepare client c.sendOptions = .ok request ∧ request.url = u ∧
      request.body? = some text := by
  rw [Draft.steps_eq, Except.map_eq_ok] at hsteps
  obtain ⟨o, -, rfl⟩ := hsteps
  have hcarries : (c.start.leave c.steps o).operation.method.hasBody = true := hmethod
  have hbody : (c.start.leave c.steps o).body? = some (.ok text) := by
    show ((last? bodyGiven? c.steps).map c.start.writer).or _ = _
    rw [hgiven, Option.map_some, hwritten]
    rfl
  exact ⟨_, Draft.prepare_eq_ok_iff.mpr ⟨u, _, some text, hurl,
    Draft.contentTypeHeader_eq_ok_iff.mpr ⟨hmime, rfl⟩,
    (Draft.body_eq_ok_iff hcarries).mpr hbody, rfl⟩, rfl, rfl⟩

/-- **A body that is written comes back as the text of the answer**, which decides. There is one
request, its address is the one that the request has, and its body is the text. -/
theorem Call.run_exchange_of_written {c : Call} {d : Datum} {text : String}
    (hmethod : c.start.operation.method.hasBody = true)
    (hmime : HeaderMap.value? c.start.contentType.mime = some c.start.contentType.mime)
    (hgiven : last? bodyGiven? c.steps = some d) (hwritten : c.start.writer d = .ok text)
    {client : Client} {q : Draft} {u : Url} (hsteps : c.start.steps c.steps = .ok q)
    (hurl : q.url client = .ok u) {transport : List TransportRequest → Transport}
    {received : List TransportRequest} (echoes : (transport received).Echoes) :
    ∃ request, request.url = u ∧ request.body? = some text ∧
      ((c.exchange client).run transport received).requests = [request] ∧
      ((c.exchange client).run transport received).result
        = c.accept.verdict (.response 200 (.ok text)) := by
  obtain ⟨request, hprepare, hto, hbody⟩ :=
    Call.prepare_of_written hmethod hmime hgiven hwritten hsteps hurl
  refine ⟨request, hto, hbody, ?_⟩
  unfold exchange
  rw [hsteps]
  simp only [Draft.run_exchange_of_ok hprepare, echoes request text hbody, and_self]

/-- **What becomes of a call that sends a value**: the value comes back, or there is no address to
send it to. That it cannot be written or read is not among the cases. -/
inductive Call.ComesBack (c : Call) (client : Client) (v : Json) (arm : Arm) :
    List TransportRequest → Except ApiError Response → Prop where
  /-- The text of the value is sent once, and the answer is the value. -/
  | back {q u request} (built : c.start.steps c.steps = .ok q) (addressed : q.url client = .ok u)
    (url : request.url = u) (body : request.body? = some v.render) :
    ComesBack c client v arm [request] (.ok ⟨200, arm.variant, some v.toDatum⟩)
  /-- A step fails before there is a request. -/
  | unbuilt {e} (failed : c.start.steps c.steps = .error e) :
    ComesBack c client v arm [] (.error (.config e))
  /-- The request has no address. -/
  | unaddressed {q e} (built : c.start.steps c.steps = .ok q) (failed : q.url client = .error e) :
    ComesBack c client v arm [] (.error (.config e))

theorem Call.Sends.comesBack {c : Call} {v : Json} {arm : Arm} (h : c.Sends v arm)
    (hv : v.RoundTrips) (client : Client) {transport : List TransportRequest → Transport}
    {received : List TransportRequest} (echoes : (transport received).Echoes) :
    c.ComesBack client v arm ((c.exchange client).run transport received).requests
      ((c.exchange client).run transport received).result := by
  cases hsteps : c.start.steps c.steps with
  | error e =>
    unfold exchange
    rw [hsteps]
    exact .unbuilt hsteps
  | ok q =>
    cases hurl : q.url client with
    | error e =>
      have hfails : q.prepare client c.sendOptions = .error (.config e) := by
        unfold Draft.prepare
        rw [hurl]
        rfl
      unfold exchange
      simp only [hsteps, Draft.run_exchange_of_error hfails]
      exact .unaddressed hsteps hurl
    | ok u =>
      have hmime : HeaderMap.value? c.start.contentType.mime = some c.start.contentType.mime := by
        rw [h.start]
        show HeaderMap.value? ContentType.json.mime = some ContentType.json.mime
        rfl
      have hwritten : c.start.writer v.toDatum = .ok v.render := by
        rw [h.start]
        exact v.write_toDatum
      obtain ⟨request, hto, hbody, hrequests, hresult⟩ :=
        Call.run_exchange_of_written (Draft.hasBody_iff.mpr h.method) hmime h.body hwritten hsteps
          hurl echoes
      rw [hrequests, hresult, h.verdict hv]
      exact .back hsteps hurl hto hbody

/-- A literal path behind a base address that can be extended is an address. -/
theorem Draft.url_of_literal {q : Draft} {client : Client} (hparams : q.params? = none)
    (hquery : q.query? = none)
    (hliteral : ∀ s ∈ Template.segments q.operation.route.template, Template.IsLiteral s)
    (hbase : client.base.isHierarchical = true) : ∃ u, q.url client = .ok u := by
  obtain ⟨u, hu⟩ : ∃ u, client.base.join?
      ((Template.segments q.operation.route.template).map String.ofList) = some u := by
    refine Option.ne_none_iff_exists'.mp fun hnone => ?_
    rw [Url.join?_eq_none_iff, hbase] at hnone
    cases hnone
  refine ⟨_, Draft.url_eq_ok_iff.mpr ⟨[], _, u, [], pairs_eq_ok_iff.mpr (.inl ⟨hparams, rfl⟩),
    Template.render_of_literal hliteral [], hu, pairs_eq_ok_iff.mpr (.inl ⟨hquery, rfl⟩), rfl⟩⟩

/-- **A value that is sent as JSON comes back.** It is written and read back as itself, and no other
value is the same typed value. A call that sends it to a transport that echoes comes to the arm of
the status 200 with this very value, if it has an address to send it to; and with nothing but a body
given, to a path without placeholders, it always has one. -/
theorem Call.run_exchange_of_echo {v : Json} (hv : v.RoundTrips) :
    (∃ text, ContentType.json.write v.toDatum = .ok text ∧
      (∀ status, ContentType.json.read .any text status = .ok v.toDatum) ∧
      Json.parse text = .ok v ∧ ∀ w : Json, w.toDatum = v.toDatum → w = v) ∧
    ∀ (c : Call) (arm : Arm), c.Sends v arm → ∀ client transport received,
      (transport received).Echoes →
      let run := (c.exchange client).run transport received
      c.ComesBack client v arm run.requests run.result ∧
      (c.steps = [.body v.toDatum] →
        (∀ s ∈ Template.segments c.start.operation.route.template, Template.IsLiteral s) →
        client.base.isHierarchical = true →
        run.result = .ok ⟨200, arm.variant, some v.toDatum⟩) := by
  refine ⟨⟨v.render, Json.write_toDatum v, hv.read, hv.parse_render,
    fun w hw => Json.eq_of_toDatum_eq hw⟩, fun c arm h client transport received echoes => ?_⟩
  have hback := h.comesBack hv client echoes
  refine ⟨hback, fun hsteps hliteral hbase => ?_⟩
  have hbuilt : c.start.steps c.steps = .ok (c.start.leave c.steps c.start.options) := by
    rw [Draft.steps_eq, hsteps]
    rfl
  have haddressed : ∃ u, (c.start.leave c.steps c.start.options).url client = .ok u := by
    refine Draft.url_of_literal ?_ ?_ hliteral hbase
    · rw [hsteps, h.start]
      rfl
    · rw [hsteps, h.start]
      rfl
  obtain ⟨u, hu⟩ := haddressed
  generalize ((c.exchange client).run transport received).requests = requests at hback
  generalize ((c.exchange client).run transport received).result = result at hback
  cases hback with
  | back => rfl
  | unbuilt failed =>
    rw [hbuilt] at failed
    cases failed
  | unaddressed built failed =>
    rw [hbuilt, Except.ok.injEq] at built
    rw [← built, hu] at failed
    cases failed

/-! ## A value that is hard to write -/

/-- Quotes, control characters and characters of several octets, the least and the greatest integer,
and containers without content. -/
def awkward : Json := .object [
  ("", .array []),
  ("\"\\", .array [
    .number (.int (-9223372036854775808)), .number (.int 18446744073709551615), .object [], .null]),
  ("😀", .string "\u0000\n\uFFFF")]

/-- A value posted to a path that takes any. -/
def posting (v : Json) : Call where
  start := Draft.start (Sample.echoing .post)
  steps := [.body v.toDatum]
  sendOptions := {}
  accept := ⟨.json, Sample.echoResponse, ContentType.json.read⟩

/-- A transport that answers every request with its own body. -/
def parrot (_ : List TransportRequest) : Transport where
  answer request := .response 200 (.ok (request.body?.getD ""))

theorem echoes_parrot (received : List TransportRequest) : (parrot received).Echoes := by
  intro request text h
  show Reply.response 200 (.ok (request.body?.getD "")) = _
  rw [h]
  rfl

theorem awkward_roundTrips : awkward.RoundTrips where
  ordered :=
    ⟨by decide, trivial, ⟨trivial, trivial, ⟨.nil, trivial⟩, trivial, trivial⟩, trivial, trivial⟩
  numbers := by
    refine ⟨trivial, ⟨⟨?_, ?_⟩, ⟨?_, ?_⟩, trivial, trivial, trivial⟩, trivial, trivial⟩ <;> decide
  nesting := by decide

/-- It is posted and comes back. -/
theorem Call.run_exchange_of_echo_awkward :
    awkward.RoundTrips ∧ (posting awkward).Sends awkward ⟨200, "Ok", some .any⟩ ∧
    (parrot []).Echoes ∧
    (((posting awkward).exchange Client.gateway).run parrot []).result
      = .ok ⟨200, "Ok", some awkward.toDatum⟩ := by
  have sends : (posting awkward).Sends awkward ⟨200, "Ok", some .any⟩ :=
    ⟨rfl, .inl rfl, rfl, rfl, rfl, rfl⟩
  have hliteral : ∀ s ∈ Template.segments (Sample.echoing .post).route.template,
      Template.IsLiteral s := by
    intro s hs
    obtain rfl := List.mem_singleton.mp hs
    exact ⟨_, rfl, rfl⟩
  obtain ⟨-, hcalls⟩ := run_exchange_of_echo awkward_roundTrips
  obtain ⟨-, hplain⟩ := hcalls (posting awkward) _ sends Client.gateway parrot [] (echoes_parrot [])
  exact ⟨awkward_roundTrips, sends, echoes_parrot [], hplain rfl hliteral rfl⟩

end RestClient
