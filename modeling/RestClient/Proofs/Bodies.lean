import RestClient.Proofs.Chain
import RestClient.Proofs.Session

/-!
# Bodies that are sent, and bodies that are not

A body is written in the step that gives it, and the draft keeps the text or the reason why there is
none. Nothing looks at it before the last stage of preparing, and there the method decides. Under
the three methods that carry a body, a prepared request has what the writer made of the body given
last, and a body that could not be written fails the request if nothing else did.

Under the other five methods the body is not looked at, whatever it is. This is a statement about
two chains: one with bodies, and the same one without (`DraftStep.withoutBodies`). A call comes to
the same run with either of them, that is to the same requests, the same result and the same reports
(`Draft.body_carried_or_ignored`).
-/

namespace RestClient

open DraftStep

/-! ## Chains without bodies -/

namespace DraftStep

/-- A chain without the steps that give a body. -/
def withoutBodies (chain : List DraftStep) : List DraftStep :=
  chain.filter fun s => (bodyGiven? s).isNone

/-- What bodies do not give is given without them. -/
theorem last?_withoutBodies {f : DraftStep → Option Datum} (hf : ∀ d, f (.body d) = none)
    (chain : List DraftStep) : last? f (withoutBodies chain) = last? f chain := by
  refine last?_filter f (fun s hs => ?_) chain
  cases s with
  | body d => exact hf d
  | params d | query d | options layer | header name value => cases hs

theorem last?_body_withoutBodies (chain : List DraftStep) :
    last? bodyGiven? (withoutBodies chain) = none := by
  unfold last? withoutBodies
  rw [List.getLast?_eq_none_iff, List.filterMap_eq_nil_iff]
  intro s hs
  exact Option.isNone_iff_eq_none.mp (List.mem_filter.mp hs).2

end DraftStep

theorem Options.follow_withoutBodies (o : Options) (chain : List DraftStep) :
    o.follow (withoutBodies chain) = o.follow chain := by
  rw [← follow_filter o chain, ← follow_filter o (withoutBodies chain)]
  congr 1
  unfold withoutBodies
  rw [List.filter_filter]
  refine List.filter_congr fun s _ => ?_
  cases s <;> rfl

namespace Draft

/-- Without its bodies a chain leaves the same, apart from the body, and it fails where it failed
with them: giving a body never fails. -/
theorem steps_withoutBodies (r : Draft) (chain : List DraftStep) :
    r.steps (withoutBodies chain) = (r.steps chain).map fun q => { q with body? := r.body? } := by
  rw [steps_eq, steps_eq, Options.follow_withoutBodies]
  cases r.options.follow chain with
  | error e => rfl
  | ok o =>
    show Except.ok (r.leave (withoutBodies chain) o)
      = Except.ok { r.leave chain o with body? := r.body? }
    unfold leave
    rw [last?_body_withoutBodies, last?_withoutBodies fun _ => rfl,
      last?_withoutBodies fun _ => rfl]
    rfl

/-! ## Methods that carry no body -/

theorem hasBody_eq_false_iff {m : Method} :
    m.hasBody = false ↔ m = .get ∨ m = .delete ∨ m = .head ∨ m = .options ∨ m = .trace := by
  cases m <;> decide

variable {q : Draft} {client : Client} {sendOptions : Options}

theorem body_of_not_hasBody (h : q.operation.method.hasBody = false) : q.body = .ok none := by
  unfold body
  rw [h]
  rfl

theorem prepare_with_body (h : q.operation.method.hasBody = false)
    (b : Option (Except ValidationError String)) :
    { q with body? := b }.prepare client sendOptions = q.prepare client sendOptions := by
  have hbody : { q with body? := b }.body = .ok none := body_of_not_hasBody h
  unfold prepare
  rw [hbody, body_of_not_hasBody h]
  rfl

/-- A call whose method carries no body does the same with another body. -/
theorem exchange_with_body (h : q.operation.method.hasBody = false)
    (b : Option (Except ValidationError String)) (accept : Acceptance) :
    { q with body? := b }.exchange client sendOptions accept
      = q.exchange client sendOptions accept := by
  unfold exchange
  rw [prepare_with_body h]
  rfl

end Draft

theorem Call.exchange_withoutBodies {c : Call} (h : c.start.operation.method.hasBody = false)
    (client : Client) :
    { c with steps := withoutBodies c.steps }.exchange client = c.exchange client := by
  unfold exchange
  rw [Draft.steps_withoutBodies]
  cases hsteps : c.start.steps c.steps with
  | error e => rfl
  | ok q =>
    have hq : q.operation.method.hasBody = false := by
      rw [Draft.operation_of_steps hsteps]
      exact h
    exact Draft.exchange_with_body hq _ c.accept

theorem Call.body?_of_request? {c : Call} {client : Client} {request : TransportRequest}
    (h : c.start.operation.method.hasBody = false) (hrequest : c.request? client = some request) :
    request.body? = none := by
  obtain ⟨q, hsteps, hprepare⟩ := (c.request?_eq_some_iff client).mp hrequest
  obtain ⟨u, contentType, body?, -, -, hbody, rfl⟩ := Draft.prepare_eq_ok_iff.mp hprepare
  have hq : q.operation.method.hasBody = false := by
    rw [Draft.operation_of_steps hsteps]
    exact h
  rw [Draft.body_of_not_hasBody hq] at hbody
  exact (Except.ok.inj hbody).symm

namespace Draft

variable {q : Draft} {client : Client} {sendOptions : Options}

/-! ## Methods that carry a body -/

/-- A body goes through if it is there in writing, or not at all. -/
theorem body_eq_ok_iff (h : q.operation.method.hasBody = true) {body? : Option String} :
    q.body = .ok body? ↔ q.body? = body?.map .ok := by
  unfold body
  rw [if_pos h]
  cases q.body? with
  | none => cases body? <;> simp
  | some written => cases written <;> cases body? <;> simp [Except.map]

/-- The body is the last thing that may fail. -/
theorem prepare_eq_validation_iff (h : q.operation.method.hasBody = true) {e : ValidationError} :
    q.prepare client sendOptions = .error (.validation e) ↔
      (∃ u, q.url client = .ok u) ∧ (∃ h, q.contentTypeHeader = .ok h) ∧
      q.body? = some (.error e) := by
  rw [prepare_eq_error_iff]
  constructor
  -- The stages before the body fail with errors of other kinds.
  · rintro (_ | _ | _ | _ | _ | ⟨hu, hmime, -, hfailed⟩)
    exact ⟨⟨_, hu⟩, ⟨_, contentTypeHeader_eq_ok_iff.mpr ⟨hmime, rfl⟩⟩, hfailed⟩
  · rintro ⟨⟨u, hu⟩, ⟨m, hm⟩, hfailed⟩
    exact .body hu (contentTypeHeader_eq_ok_iff.mp hm).1 (hasBody_iff.mp h) hfailed

/-! ## What becomes of a body -/

/-- **A body is carried as it was written, or it does not matter at all.** With a method that
carries one, a prepared request has the body that was given last as its writer has written it, or
none if none was given; and the error of a writer is the outcome exactly if the address and the
content type are in order. With any other method no request has a body, and the whole run of the
call, its requests, its result and its reports, is that of the call without the steps that give
bodies. -/
theorem body_carried_or_ignored (op : Operation) (ct : ContentType) (writer : BodyWriter)
    (chain : List DraftStep) (client : Client) (sendOptions : Options) :
    (op.method = .post ∨ op.method = .put ∨ op.method = .patch →
      ∀ q, (startWith op ct writer).steps chain = .ok q →
        (∀ request, q.prepare client sendOptions = .ok request →
          (last? bodyGiven? chain).map writer = request.body?.map .ok) ∧
        ∀ e, q.prepare client sendOptions = .error (.validation e) ↔
          (∃ u, q.url client = .ok u) ∧ (∃ h, q.contentTypeHeader = .ok h) ∧
          ∃ d, last? bodyGiven? chain = some d ∧ writer d = .error e) ∧
    (op.method = .get ∨ op.method = .delete ∨ op.method = .head ∨ op.method = .options ∨
        op.method = .trace →
      ∀ accept transport received,
        let call : Call := ⟨startWith op ct writer, chain, sendOptions, accept⟩
        let bare : Call := { call with steps := withoutBodies chain }
        (∀ request ∈ ((call.exchange client).run transport received).requests,
          request.body? = none) ∧
        (call.exchange client).run transport received
          = (bare.exchange client).run transport received) := by
  constructor
  · intro hmethod q hq
    rw [steps_eq, Except.map_eq_ok] at hq
    obtain ⟨o, -, rfl⟩ := hq
    have hcarries : op.method.hasBody = true := hasBody_iff.mpr hmethod
    have hwritten : ((startWith op ct writer).leave chain o).body?
        = (last? bodyGiven? chain).map writer := Option.or_none
    refine ⟨fun request hrequest => ?_, fun e => ?_⟩
    · obtain ⟨_, _, body?, -, -, hbody, rfl⟩ := prepare_eq_ok_iff.mp hrequest
      exact hwritten.symm.trans ((body_eq_ok_iff hcarries).mp hbody)
    · rw [prepare_eq_validation_iff hcarries, hwritten, Option.map_eq_some_iff]
  · intro hmethod accept transport received call bare
    have hcarries : call.start.operation.method.hasBody = false :=
      hasBody_eq_false_iff.mpr hmethod
    refine ⟨fun request hrequest => ?_, ?_⟩
    · rw [Call.requests_run_exchange, Option.mem_toList] at hrequest
      exact Call.body?_of_request? hcarries hrequest
    · rw [← Call.exchange_withoutBodies hcarries client]

/-! ## A body that is refused in the end -/

/-- A body that can be written gives way to one that cannot. -/
def refusedLast : List DraftStep := [.body (.text "tea"), .body (.refused "no")]

/-- What the bodies leave of a draft that puts them. -/
def putting : Draft := {
  startWith (Sample.echoing .put) .json Body.writeJson with
  body? := some (Body.writeJson (.refused "no")) }

/-- Putting the bodies fails by the second one. Getting does not look at them. -/
theorem body_carried_or_ignored_refusedLast :
    (∃ e, (startWith (Sample.echoing .put) .json Body.writeJson).steps refusedLast = .ok putting ∧
      Body.writeJson (.refused "no") = .error e ∧
      putting.prepare Client.gateway {} = .error (.validation e)) ∧
    let accept : Acceptance := ⟨.json, Sample.echoResponse, ContentType.json.read⟩
    let call : Call :=
      ⟨startWith (Sample.echoing .get) .json Body.writeJson, refusedLast, {}, accept⟩
    (call.exchange Client.gateway).run Client.waking []
      = ({ call with steps := [] }.exchange Client.gateway).run Client.waking [] := by
  constructor
  · obtain ⟨hcarried, -⟩ :=
      body_carried_or_ignored (Sample.echoing .put) .json Body.writeJson refusedLast
        Client.gateway {}
    obtain ⟨-, hfails⟩ := hcarried (.inr (.inl rfl)) putting rfl
    obtain ⟨e, he⟩ : ∃ e, Body.writeJson (.refused "no") = .error e := ⟨_, rfl⟩
    exact ⟨e, rfl, he, (hfails e).mpr ⟨⟨_, rfl⟩, ⟨_, rfl⟩, .refused "no", rfl, he⟩⟩
  · intro accept call
    obtain ⟨-, hignored⟩ :=
      body_carried_or_ignored (Sample.echoing .get) .json Body.writeJson refusedLast
        Client.gateway {}
    exact (hignored (.inl rfl) accept Client.waking []).2

end Draft
end RestClient
