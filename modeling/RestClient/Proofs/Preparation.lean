import RestClient.Proofs.Except
import RestClient.Request

/-!
# When a request can be prepared

`Draft.prepare` goes through its stages in order. It succeeds when all of them do, and the request
is put together from what they give (`prepare_eq_ok_iff`). It fails with the first stage that fails
(`prepare_eq_error_iff`): `Draft.Fails` has one rule for each stage, and a rule asks for all stages
before it to succeed.
-/

namespace RestClient

/-- Only a path without segments cannot be extended. -/
theorem Url.join?_eq_none_iff {base : Url} (segments : List String) :
    base.join? segments = none ↔ base.isHierarchical = false := by
  cases h : base.path <;> simp [join?, isHierarchical, h]

namespace Draft

variable {r : Draft} {client : Client} {sendOptions : Options}

/-! ## The stages -/

theorem pairs_eq_ok_iff {kind : ParamKind} {d? : Option Datum} {ps : List (String × String)} :
    pairs kind d? = .ok ps ↔
      (d? = none ∧ ps = []) ∨ ∃ d, d? = some d ∧ Params.toPairs d = .ok ps := by
  unfold pairs
  cases d? with
  | none => simp [eq_comm]
  | some d => simp [Except.mapError_eq_ok]

theorem pairs_eq_error_iff {kind : ParamKind} {d? : Option Datum} {e : ConfigError} :
    pairs kind d? = .error e ↔
      ∃ d f, d? = some d ∧ Params.toPairs d = .error f ∧ .invalidParams kind f = e := by
  unfold pairs
  cases d? with
  | none => simp
  | some d => simp [Except.mapError_eq_error]

theorem joined_eq_ok_iff {base u : Url} {segments : List String} :
    joined base segments = .ok u ↔ base.join? segments = some u := by
  unfold joined
  split <;> simp_all

theorem joined_eq_error_iff {base : Url} {segments : List String} {e : ConfigError} :
    joined base segments = .error e ↔
      base.isHierarchical = false ∧ .notHierarchical base.text = e := by
  rw [← Url.join?_eq_none_iff segments]
  unfold joined
  split <;> simp_all

theorem contentTypeHeader_eq_ok_iff {h : HeaderMap} :
    r.contentTypeHeader = .ok h ↔ HeaderMap.value? r.contentType.mime = some r.contentType.mime ∧
      HeaderMap.empty.insert .contentType r.contentType.mime = h := by
  unfold contentTypeHeader HeaderMap.value?
  by_cases hmime : r.contentType.mime.toList.all HeaderMap.isValueChar = true <;> simp [hmime]

theorem contentTypeHeader_eq_error_iff {e : ConfigError} :
    r.contentTypeHeader = .error e ↔
      HeaderMap.value? r.contentType.mime = none ∧ .invalidHeader "content-type" .value = e := by
  unfold contentTypeHeader
  split <;> simp_all

/-- Which methods carry a body. -/
theorem hasBody_iff {m : Method} : m.hasBody = true ↔ m = .post ∨ m = .put ∨ m = .patch := by
  cases m <;> decide

theorem body_eq_error_iff {e : ValidationError} :
    r.body = .error e ↔ r.operation.method.hasBody = true ∧ r.body? = some (.error e) := by
  unfold body
  split
  · next h =>
    rw [h]
    split
    · next hb => simp [hb]
    · next b hb =>
      rw [hb]
      cases b <;> simp [Except.map]
  · next h => simp [h]

/-! ## Success -/

/-- The address of a request that has one. -/
theorem url_eq_ok_iff {u : Url} :
    r.url client = .ok u ↔ ∃ values segments base query,
      pairs .path r.params? = .ok values ∧
      Template.render r.operation.route.template values = .ok segments ∧
      client.base.join? segments = some base ∧
      pairs .query r.query? = .ok query ∧ base.appendPairs query = u := by
  unfold url
  simp only [Except.bind_eq_ok, Except.mapError_eq_ok, joined_eq_ok_iff]
  constructor
  · rintro ⟨values, hv, segments, hs, base, hb, query, hq, hu⟩
    exact ⟨values, segments, base, query, hv, hs, hb, hq, Except.ok.inj hu⟩
  · rintro ⟨values, segments, base, query, hv, hs, hb, hq, rfl⟩
    exact ⟨values, hv, segments, hs, base, hb, query, hq, rfl⟩

/-- **A request is prepared from what the stages give**: the address, the announcement of the
content type and the body each have to succeed, and the rest of the request cannot fail. -/
theorem prepare_eq_ok_iff {request : TransportRequest} :
    r.prepare client sendOptions = .ok request ↔ ∃ u contentType body?,
      r.url client = .ok u ∧ r.contentTypeHeader = .ok contentType ∧ r.body = .ok body? ∧
      { url := u, method := r.operation.method,
        headers := r.headers client sendOptions contentType, body? := body?,
        timeout? := r.timeout? client sendOptions,
        passthrough := r.passthrough client sendOptions } = request := by
  unfold prepare
  simp only [Except.bind_eq_ok, Except.mapError_eq_ok]
  constructor
  · rintro ⟨u, hu, contentType, hc, body?, hb, h⟩
    exact ⟨u, contentType, body?, hu, hc, hb, Except.ok.inj h⟩
  · rintro ⟨u, contentType, body?, hu, hc, hb, rfl⟩
    exact ⟨u, hu, contentType, hc, body?, hb, rfl⟩

/-! ## Failure -/

/-- **Why a request cannot be prepared**: one rule for each stage, in order, with all stages before
it done. So of several things that are wrong with a request exactly one is the reason. -/
inductive Fails (r : Draft) (client : Client) : ApiError → Prop where
  /-- The path parameters are not an object. -/
  | params {d f} (given : r.params? = some d) (failed : Params.toPairs d = .error f) :
    Fails r client (.config (.invalidParams .path f))
  /-- The template is malformed, a value is missing, or a value makes a dot segment. -/
  | template {values e} (params : pairs .path r.params? = .ok values)
    (failed : Template.render r.operation.route.template values = .error e) :
    Fails r client (.config (.template e))
  /-- The base address has no segments to put others behind. -/
  | join {values segments} (params : pairs .path r.params? = .ok values)
    (template : Template.render r.operation.route.template values = .ok segments)
    (failed : client.base.isHierarchical = false) :
    Fails r client (.config (.notHierarchical client.base.text))
  /-- The query is not an object. -/
  | query {values segments u d f} (params : pairs .path r.params? = .ok values)
    (template : Template.render r.operation.route.template values = .ok segments)
    (join : client.base.join? segments = some u)
    (given : r.query? = some d) (failed : Params.toPairs d = .error f) :
    Fails r client (.config (.invalidParams .query f))
  /-- The content type is no header value. -/
  | contentType {u} (url : r.url client = .ok u)
    (failed : HeaderMap.value? r.contentType.mime = none) :
    Fails r client (.config (.invalidHeader "content-type" .value))
  /-- The body could not be written, and the method carries one. -/
  | body {u e} (url : r.url client = .ok u)
    (contentType : HeaderMap.value? r.contentType.mime = some r.contentType.mime)
    (method : r.operation.method = .post ∨ r.operation.method = .put ∨
      r.operation.method = .patch)
    (failed : r.body? = some (.error e)) :
    Fails r client (.validation e)

/-- The address fails with the first of its stages that fails. -/
theorem url_eq_error_iff {e : ConfigError} :
    r.url client = .error e ↔
      pairs .path r.params? = .error e ∨
      ∃ values, pairs .path r.params? = .ok values ∧
        ((∃ t, Template.render r.operation.route.template values = .error t ∧ .template t = e) ∨
        ∃ segments, Template.render r.operation.route.template values = .ok segments ∧
          ((client.base.isHierarchical = false ∧ .notHierarchical client.base.text = e) ∨
          ∃ u, client.base.join? segments = some u ∧ pairs .query r.query? = .error e)) := by
  have hlast : ∀ (u : Url) (query : List (String × String)),
      (pure (u.appendPairs query) : Except ConfigError Url) ≠ .error e := nofun
  unfold url
  simp only [Except.bind_eq_error, Except.mapError_eq_error, Except.mapError_eq_ok,
    joined_eq_ok_iff, joined_eq_error_iff, hlast, and_false, exists_false, or_false]

/-- **The first stage that fails decides why a request cannot be prepared**, and a request that
cannot be prepared has such a stage. -/
theorem prepare_eq_error_iff {e : ApiError} :
    r.prepare client sendOptions = .error e ↔ r.Fails client e := by
  have hstages : r.prepare client sendOptions = .error e ↔
      (∃ c, r.url client = .error c ∧ .config c = e) ∨ ∃ u, r.url client = .ok u ∧
        ((∃ c, r.contentTypeHeader = .error c ∧ .config c = e) ∨
        ∃ h, r.contentTypeHeader = .ok h ∧ ∃ v, r.body = .error v ∧ .validation v = e) := by
    unfold prepare
    simp only [Except.bind_eq_error, Except.mapError_eq_error, Except.mapError_eq_ok]
    simp [pure, Except.pure]
  rw [hstages]
  -- A failure is followed down to its stage, and a rule leads back to the failure.
  constructor
  · rintro (⟨c, hc, rfl⟩ | ⟨u, hu, ⟨c, hc, rfl⟩ | ⟨h, hh, v, hv, rfl⟩⟩)
    · rcases url_eq_error_iff.mp hc with hp | ⟨values, hp, ⟨t, ht, rfl⟩ | ⟨segments, ht, hj⟩⟩
      · obtain ⟨d, f, hd, hf, rfl⟩ := pairs_eq_error_iff.mp hp
        exact .params hd hf
      · exact .template hp ht
      · rcases hj with ⟨hbase, rfl⟩ | ⟨u, hu, hq⟩
        · exact .join hp ht hbase
        · obtain ⟨d, f, hd, hf, rfl⟩ := pairs_eq_error_iff.mp hq
          exact .query hp ht hu hd hf
    · obtain ⟨hmime, rfl⟩ := contentTypeHeader_eq_error_iff.mp hc
      exact .contentType hu hmime
    · obtain ⟨hmethod, hbody⟩ := body_eq_error_iff.mp hv
      exact .body hu (contentTypeHeader_eq_ok_iff.mp hh).1 (hasBody_iff.mp hmethod) hbody
  · intro h
    cases h with
    | params hd hf =>
      exact .inl ⟨_, url_eq_error_iff.mpr (.inl (pairs_eq_error_iff.mpr ⟨_, _, hd, hf, rfl⟩)), rfl⟩
    | template hp ht =>
      exact .inl ⟨_, url_eq_error_iff.mpr (.inr ⟨_, hp, .inl ⟨_, ht, rfl⟩⟩), rfl⟩
    | join hp ht hbase =>
      exact .inl ⟨_, url_eq_error_iff.mpr (.inr ⟨_, hp, .inr ⟨_, ht, .inl ⟨hbase, rfl⟩⟩⟩), rfl⟩
    | query hp ht hu hd hf =>
      have hq : pairs .query r.query? = .error _ := pairs_eq_error_iff.mpr ⟨_, _, hd, hf, rfl⟩
      exact .inl ⟨_, url_eq_error_iff.mpr (.inr ⟨_, hp, .inr ⟨_, ht, .inr ⟨_, hu, hq⟩⟩⟩), rfl⟩
    | contentType hu hmime =>
      exact .inr ⟨_, hu, .inl ⟨_, contentTypeHeader_eq_error_iff.mpr ⟨hmime, rfl⟩, rfl⟩⟩
    | body hu hmime hmethod hbody =>
      have hb := body_eq_error_iff.mpr ⟨hasBody_iff.mpr hmethod, hbody⟩
      exact .inr ⟨_, hu, .inr ⟨_, contentTypeHeader_eq_ok_iff.mpr ⟨hmime, rfl⟩, _, hb, rfl⟩⟩

end Draft
end RestClient
