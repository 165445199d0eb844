import RestClient.Proofs.Preparation
import RestClient.Sample.Schema

/-!
# Which layer of options decides

A request is prepared under three layers of options: those of the client, over them those of the
call, and over these those of the sending. Preparing merges headers, timeouts and passthrough
options each in their own way, and all three ways come to the same: whatever the highest layer says
that says anything is what the request has (`layers_of_prepare`).

For headers this means all values of a name together, in their order. No request is without a
content type, since the one of the draft lies under all layers.
-/

namespace RestClient.Draft

variable (r : Draft) (client : Client) (sendOptions : Options)

/-- The layers of options, the highest first. -/
def layers : List Options := [sendOptions, r.options, client.defaults]

/-! ## Layer by layer -/

/-- **The values of a name are those of the highest layer that has it**, and those of what is given
underneath if none has. -/
theorem valuesOf_headers (base : HeaderMap) (name : String) :
    (r.headers client sendOptions base).valuesOf name
      = match (r.layers client sendOptions).find? (·.headers.has name) with
        | some layer => layer.headers.valuesOf name
        | none => base.valuesOf name := by
  unfold headers layers
  rw [HeaderMap.valuesOf_merge, HeaderMap.valuesOf_merge, HeaderMap.valuesOf_merge]
  simp only [List.find?_cons, List.find?_nil]
  -- The layer merged last is asked first.
  cases sendOptions.headers.has name with
  | true => rfl
  | false =>
    cases r.options.headers.has name with
    | true => rfl
    | false => cases client.defaults.headers.has name <;> rfl

theorem findSome?_layers {α : Type} (f : Options → Option α) :
    (r.layers client sendOptions).findSome? f
      = ((f sendOptions).or (f r.options)).or (f client.defaults) := by
  unfold layers
  simp only [List.findSome?_cons, List.findSome?_nil]
  cases f sendOptions <;> cases f r.options <;> cases f client.defaults <;> rfl

theorem timeout?_eq_findSome? :
    r.timeout? client sendOptions = (r.layers client sendOptions).findSome? (·.timeout?) :=
  (findSome?_layers r client sendOptions _).symm

theorem get?_passthrough (key : String) :
    (r.passthrough client sendOptions).get? key
      = (r.layers client sendOptions).findSome? (·.passthrough.get? key) := by
  unfold passthrough
  rw [Passthrough.get?_merge, Passthrough.get?_merge, findSome?_layers, Option.or_assoc]

/-! ## The request -/

variable {r client sendOptions}

/-- **The highest layer that says anything decides** about each header, about the timeout and about
each passthrough option, and the content type of the draft is the lowest layer of all. The layers
are those of the sending, of the call and of the client, in this order. Names of headers are
compared without regard to case, a layer decides about all values of a name at once, and a
passthrough option is taken whole, whatever it has inside. -/
theorem layers_of_prepare {request : TransportRequest}
    (h : r.prepare client sendOptions = .ok request) :
    (∀ name, request.headers.valuesOf name =
      match (r.layers client sendOptions).find? (·.headers.has name) with
      | some layer => layer.headers.valuesOf name
      | none =>
        if HeaderName.lowered name = "content-type".toList then [r.contentType.mime] else []) ∧
    request.headers.has "content-type" = true ∧
    request.timeout? = (r.layers client sendOptions).findSome? (·.timeout?) ∧
    ∀ key, request.passthrough.get? key
      = (r.layers client sendOptions).findSome? (·.passthrough.get? key) := by
  obtain ⟨u, contentType, body?, -, hc, -, rfl⟩ := prepare_eq_ok_iff.mp h
  obtain ⟨-, rfl⟩ := contentTypeHeader_eq_ok_iff.mp hc
  let base := HeaderMap.empty.insert .contentType r.contentType.mime
  have hheaders : ∀ name, (r.headers client sendOptions base).valuesOf name =
        match (r.layers client sendOptions).find? (·.headers.has name) with
        | some layer => layer.headers.valuesOf name
        | none =>
          if HeaderName.lowered name = "content-type".toList then [r.contentType.mime] else [] := by
    intro name
    rw [valuesOf_headers, HeaderMap.valuesOf_insert, HeaderMap.valuesOf_empty]
    rfl
  refine ⟨hheaders, ?_, timeout?_eq_findSome? r client sendOptions,
    get?_passthrough r client sendOptions⟩
  show (r.headers client sendOptions _).has "content-type" = true
  rw [← HeaderMap.valuesOf_ne_nil_iff, hheaders]
  split
  · next layer hlayer =>
    have hhas := List.find?_some hlayer
    exact HeaderMap.valuesOf_ne_nil_iff.mpr hhas
  · rw [if_pos (by decide)]
    exact List.cons_ne_nil _ _

/-! ## Two languages under one -/

/-- The header of the languages that are wanted. -/
def languages : HeaderName := ⟨"accept-language", by decide⟩

/-- A client that wants one of two languages, and waits for a while. -/
def patient : Client where
  base := {
    scheme := "https"
    authority? := some { host := .domain "h.example" }
    path := .segments [""] }
  defaults := {
    headers := (HeaderMap.empty.append languages "en").append languages "de"
    timeout? := some 30 }

/-- A call that wants another language. -/
def wanting : Draft :=
  { Draft.start (Sample.free Sample.root .get) with
    options := { headers := HeaderMap.empty.append languages "fr" } }

/-- The language of the call replaces both of the client, and the sending names the content type. -/
theorem layers_of_prepare_wanting :
    let sendOptions : Options := { headers := HeaderMap.empty.insert .contentType "text/plain" }
    ∃ request, wanting.prepare patient sendOptions = .ok request ∧
      request.headers.valuesOf "Accept-Language" = ["fr"] ∧
      request.headers.valuesOf "CONTENT-TYPE" = ["text/plain"] ∧
      request.headers.valuesOf "Accept" = [] ∧ request.timeout? = some 30 := by
  intro sendOptions
  obtain ⟨request, hrequest⟩ : ∃ request, wanting.prepare patient sendOptions = .ok request :=
    ⟨_, rfl⟩
  obtain ⟨hheaders, -, htimeout, -⟩ := layers_of_prepare hrequest
  refine ⟨request, hrequest, ?_, ?_, ?_, htimeout⟩
  · exact (hheaders _).trans (by decide)
  · exact (hheaders _).trans (by decide)
  · exact (hheaders _).trans (by decide)

end RestClient.Draft
