import RestClient.Proofs.Bodies

/-!
# Bodies that cannot be written

An error about a body belongs to one of two sides: the body of a request could not be written
(`ValidationError.isSerializeError`), or the body of a response could not be read
(`ValidationError.isParseError`). Each writer has one kind of errors of its own, whatever the value
and the reason, so the side is that of the writer (`Body.Format.side`).

Four of the five kinds of writers are on the side of requests. YAML has one kind of errors for both
directions, which counts as a failure to read: a value that refuses to be written in YAML is
reported as a response that could not be read (`Body.Format.not_saysUnwritten_yaml`).

A draft keeps the error of the body that was given last, and a call that comes to it ends with this
very error before anything is sent. So what is said of the writer is said of the call
(`Draft.run_exchange_of_unwritten`).
-/

namespace RestClient

open DraftStep

namespace ValidationError

/-- **An error says that a body could not be written**, and not that one could not be read, by the
two questions that can be asked of it. -/
structure SaysUnwritten (e : ValidationError) : Prop where
  serialize : e.isSerializeError = true
  parse : e.isParseError = false

/-- **An error says that a body could not be read**, and not that one could not be written, by the
same two questions. -/
structure SaysUnread (e : ValidationError) : Prop where
  serialize : e.isSerializeError = false
  parse : e.isParseError = true

end ValidationError

namespace Body

/-! ## Writers -/

/-- The writers that there are for bodies: one for each format, one for values as texts, and the one
that a content type has by default. A writer that is made of a function given by hand is none of
them, as it may fail with any error. -/
inductive Format where
  | json
  | xml
  | yaml
  | text
  | default (ct : ContentType)

/-- The writer of a format. -/
def Format.write : Format → BodyWriter
  | .json => writeJson
  | .xml => writeXml
  | .yaml => writeYaml
  | .text => writeText
  | .default ct => ct.write

variable {d : Datum} {e : ValidationError}

theorem writeJson_eq_error (h : writeJson d = .error e) : ∃ reason, e = .jsonSerialize reason := by
  obtain ⟨reason, -, rfl⟩ := Except.mapError_eq_error.mp h
  exact ⟨reason, rfl⟩

theorem writeXml_eq_error (h : writeXml d = .error e) : ∃ reason, e = .xmlSerialize reason := by
  obtain ⟨reason, -, rfl⟩ := Except.mapError_eq_error.mp h
  exact ⟨reason.message, rfl⟩

theorem writeYaml_eq_error (h : writeYaml d = .error e) : ∃ reason, e = .yaml reason := by
  obtain ⟨reason, -, rfl⟩ := Except.mapError_eq_error.mp h
  exact ⟨reason, rfl⟩

theorem writeText_eq_error (h : writeText d = .error e) : ∃ reason, e = .jsonSerialize reason := by
  unfold writeText at h
  split at h
  · next reason _ =>
    cases h
    exact ⟨reason, rfl⟩
  all_goals cases h

theorem write_eq_error {ct : ContentType} (h : ct.write d = .error e) :
    ∃ reason, e = .jsonSerialize reason := by
  unfold ContentType.write at h
  cases hrule : ct.rule with
  | json =>
    rw [hrule] at h
    exact writeJson_eq_error h
  | text =>
    rw [hrule] at h
    exact writeText_eq_error h

/-! ## Their errors -/

/-- **The side of an error is that of its writer**, whatever the value: all writers but that of YAML
fail with an error that says that a body could not be written, and that of YAML fails with one that
says that a body could not be read. -/
theorem Format.side {f : Format} (h : f.write d = .error e) :
    (f ≠ .yaml → e.SaysUnwritten) ∧ (f = .yaml → e.SaysUnread) := by
  cases f with
  | json =>
    obtain ⟨reason, rfl⟩ := writeJson_eq_error h
    exact ⟨fun _ => ⟨rfl, rfl⟩, nofun⟩
  | xml =>
    obtain ⟨reason, rfl⟩ := writeXml_eq_error h
    exact ⟨fun _ => ⟨rfl, rfl⟩, nofun⟩
  | yaml =>
    obtain ⟨reason, rfl⟩ := writeYaml_eq_error h
    exact ⟨fun hne => absurd rfl hne, fun _ => ⟨rfl, rfl⟩⟩
  | text =>
    obtain ⟨reason, rfl⟩ := writeText_eq_error h
    exact ⟨fun _ => ⟨rfl, rfl⟩, nofun⟩
  | default ct =>
    obtain ⟨reason, rfl⟩ := write_eq_error h
    exact ⟨fun _ => ⟨rfl, rfl⟩, nofun⟩

/-- A value that refuses is reported in YAML as a text that could not be read. -/
theorem Format.not_saysUnwritten_yaml :
    Format.yaml.write (.refused "no thanks") = .error (.yaml (.refused "no thanks")) ∧
    ¬(ValidationError.yaml (.refused "no thanks")).SaysUnwritten :=
  ⟨rfl, fun h => nomatch h.serialize⟩

end Body

/-! ## Through a call -/

/-- **A body that cannot be written ends the call with the error of its writer**, and nothing is
sent. It has to be the body that is given last, to a method that carries one, and the address and
the content type of the request have to be in order, as their failures come first. In every format
but YAML the error says that a body could not be written; in YAML it says that one could not be
read. -/
theorem Draft.run_exchange_of_unwritten (f : Body.Format) :
    (∀ d e, f.write d = .error e →
      (f ≠ .yaml → e.SaysUnwritten) ∧ (f = .yaml → e.SaysUnread)) ∧
    ∀ (op : Operation) (ct : ContentType) (chain : List DraftStep) (client : Client)
      (sendOptions : Options) (accept : Acceptance)
      (transport : List TransportRequest → Transport) (received : List TransportRequest),
      (op.method = .post ∨ op.method = .put ∨ op.method = .patch) →
      ∀ q d e, (startWith op ct f.write).steps chain = .ok q →
        (∃ u, q.url client = .ok u) → (∃ h, q.contentTypeHeader = .ok h) →
        last? bodyGiven? chain = some d → f.write d = .error e →
        let call : Call := ⟨startWith op ct f.write, chain, sendOptions, accept⟩
        let run := (call.exchange client).run transport received
        run.requests = [] ∧ run.result = .error (.validation e) ∧
          (f ≠ .yaml → e.SaysUnwritten) ∧ (f = .yaml → e.SaysUnread) := by
  refine ⟨fun d e h => Body.Format.side h, ?_⟩
  intro op ct chain client sendOptions accept transport received hmethod q d e hsteps hurl hheader
    hlast hfailed call run
  have hq : q.operation.method.hasBody = true := by
    rw [Draft.operation_of_steps hsteps]
    exact hasBody_iff.mpr hmethod
  have hbody : q.body? = some (.error e) := by
    rw [steps_eq, Except.map_eq_ok] at hsteps
    obtain ⟨o, -, rfl⟩ := hsteps
    show ((last? bodyGiven? chain).map f.write).or none = _
    rw [hlast, Option.map_some, hfailed, Option.or_none]
  have hprepare : q.prepare client sendOptions = .error (.validation e) :=
    (prepare_eq_validation_iff hq).mpr ⟨hurl, hheader, hbody⟩
  have hrun : run = ⟨[], .error (.validation e), ⟨q.spanStart, []⟩⟩ := by
    show (call.exchange client).run transport received = _
    unfold Call.exchange
    rw [hsteps]
    exact run_exchange_of_error hprepare
  rw [hrun]
  exact ⟨rfl, rfl, Body.Format.side hfailed⟩

/-- What the bodies leave of a draft that puts them in a format. -/
def Draft.puttingAs (f : Body.Format) : Draft := {
  startWith (Sample.echoing .put) .json f.write with body? := some (f.write (.refused "no")) }

/-- A value that refuses is put in XML, after one that does not, and then in YAML. -/
theorem Draft.run_exchange_of_unwritten_refused :
    let put (f : Body.Format) : Call :=
      ⟨startWith (Sample.echoing .put) .json f.write, refusedLast, {},
        ⟨.json, Sample.echoResponse, ContentType.json.read⟩⟩
    (((put .xml).exchange Client.gateway).run Client.waking []).result
        = .error (.validation (.xmlSerialize "no")) ∧
      (ValidationError.xmlSerialize "no").SaysUnwritten ∧
      (((put .yaml).exchange Client.gateway).run Client.waking []).result
        = .error (.validation (.yaml (.refused "no"))) ∧
      (ValidationError.yaml (.refused "no")).SaysUnread := by
  intro put
  obtain ⟨-, hxml, hsays, -⟩ :=
    (run_exchange_of_unwritten .xml).2 (Sample.echoing .put) .json refusedLast Client.gateway {}
      ⟨.json, Sample.echoResponse, ContentType.json.read⟩ Client.waking [] (.inr (.inl rfl))
      (puttingAs .xml) (.refused "no") _ rfl ⟨_, rfl⟩ ⟨_, rfl⟩ rfl rfl
  obtain ⟨-, hyaml, -, hreads⟩ :=
    (run_exchange_of_unwritten .yaml).2 (Sample.echoing .put) .json refusedLast Client.gateway {}
      ⟨.json, Sample.echoResponse, ContentType.json.read⟩ Client.waking [] (.inr (.inl rfl))
      (puttingAs .yaml) (.refused "no") _ rfl ⟨_, rfl⟩ ⟨_, rfl⟩ rfl rfl
  exact ⟨hxml, hsays nofun, hyaml, hreads rfl⟩

end RestClient
