import RestClient.Proofs.Preparation
import RestClient.Proofs.Query
import RestClient.Sample.Schema

/-!
# The address of a request

A prepared request goes to the base address with another path and more pairs in its query; nothing
else of the base changes. Without pairs the query is the one of the base, also when the base has
none. With pairs it is decoded to the pairs of the base and then those of the draft
(`address_of_prepare`).

A query without pairs is one that was not given, or an object whose members are all null
(`pairs_eq_nil_iff`).
-/

namespace RestClient

/-! ## Extending the path -/

/-- Only the path changes. -/
theorem Url.eq_of_join? {base u : Url} {segments : List String}
    (h : base.join? segments = some u) : ∃ path, u = { base with path := path } := by
  unfold join? at h
  split at h
  · cases h
  · rw [Option.some.injEq] at h
    exact ⟨_, h.symm⟩

open Url

namespace Draft

/-- **Which queries have no pairs**: those that were not given, and objects all of whose members are
null. In both cases nothing is put behind the address, not even a question mark. -/
theorem pairs_eq_nil_iff (kind : ParamKind) {d? : Option Datum} :
    pairs kind d? = .ok [] ↔ ∀ d, d? = some d →
      ∃ members, d.toJson = .ok (.object members) ∧ ∀ m ∈ members, m.2 = .null := by
  cases d? with
  | none => simp [pairs]
  | some d => simp [pairs_eq_ok_iff, Params.toPairs_eq_ok_iff, Params.pairsOf_eq_nil_iff]

/-! ## The address -/

/-- **The base address with another path and with pairs behind its query.** Nothing else of the base
changes, and what is behind the query is said by reading it back, so that no detail of how pairs are
written comes in. -/
structure IsAddress (base joined : Url) (query : List (String × String)) (u : Url) : Prop where
  /-- The scheme, the user, the host, the port and the fragment are those of the base. -/
  frame : u = { base with path := joined.path, query? := u.query? }
  /-- Without pairs no query is begun. -/
  kept : query = [] → u.query? = base.query?
  /-- Pairs are read back behind those of the base, and none of them ends the query. -/
  added : query ≠ [] → ∃ text more, u.query? = some text ∧
    Form.decode text.toList = Form.decode (base.query?.getD "").toList ++ more ∧
    more.map Form.readPair = query.map some ∧
    ('#' ∉ (base.query?.getD "").toList → '#' ∉ text.toList)

theorem isAddress_appendPairs {base joined : Url} {segments : List String}
    (h : base.join? segments = some joined) (query : List (String × String)) :
    IsAddress base joined query (joined.appendPairs query) := by
  obtain ⟨path, rfl⟩ := Url.eq_of_join? h
  refine ⟨Url.appendPairs_eq _ query, ?_, ?_⟩
  · rintro rfl
    rfl
  · -- the path is new, but the query behind which the pairs go is the one of the base
    intro hne
    refine ⟨_, query.map Form.pairBytes, Url.query?_appendPairs _ hne, ?_, ?_, ?_⟩
    · rw [String.toList_ofList, Form.decode_append]
    · rw [List.map_map]
      exact List.map_congr_left fun p _ => Form.readPair_pairBytes p
    · intro hhash
      rw [String.toList_ofList]
      exact Form.hash_not_mem_append hhash query

/-- **Where a prepared request goes.** Its address is that of the client with the path that the
template leads to and with the pairs of the query behind those that the base had, so the scheme, the
user, the host, the port and the fragment are those of the base. The path is the one that the
rendered segments have when they are joined to the base; the pairs are read back as they were given,
in order, behind all that was there; and where there are none, which is so for a query of nulls as
well, the query of the base stays as it is. -/
theorem address_of_prepare {r : Draft} {client : Client} {sendOptions : Options}
    {request : TransportRequest} (h : r.prepare client sendOptions = .ok request) :
    ∃ values segments joined query,
      pairs .path r.params? = .ok values ∧
      Template.render r.operation.route.template values = .ok segments ∧
      client.base.join? segments = some joined ∧
      pairs .query r.query? = .ok query ∧
      (query = [] ↔ ∀ d, r.query? = some d →
        ∃ members, d.toJson = .ok (.object members) ∧ ∀ m ∈ members, m.2 = .null) ∧
      IsAddress client.base joined query request.url := by
  obtain ⟨u, contentType, body?, hu, -, -, rfl⟩ := prepare_eq_ok_iff.mp h
  obtain ⟨values, segments, joined, query, hvalues, hsegments, hjoin, hquery, rfl⟩ :=
    url_eq_ok_iff.mp hu
  refine ⟨values, segments, joined, query, hvalues, hsegments, hjoin, hquery, ?_,
    isAddress_appendPairs hjoin query⟩
  rw [← pairs_eq_nil_iff .query, hquery, Except.ok.injEq]

/-- A client whose base has all that an address can have. -/
def archive : Client where
  base := {
    scheme := "https"
    authority? := some { username := "ada", host := .domain "h.example", port? := some 8443 }
    path := .segments ["v1", ""]
    query? := some "key=1"
    fragment? := some "top" }
  defaults := {}

/-- A search with a text, a list and a null. -/
def searching : Draft :=
  { Draft.start (Sample.free Sample.findByStatus .get) with
    query? := some (.record "Search"
      [("text", .text "a&b=c+ü#"), ("tags", .seq [.text "x", .unit]), ("none", .absent)]) }

theorem pairs_searching :
    pairs .query searching.query? = .ok [("tags", "x"), ("text", "a&b=c+ü#")] := rfl

/-- The signs of a query in a text do not take it apart. -/
theorem address_of_prepare_searching :
    ∃ request, searching.prepare archive {} = .ok request ∧
      request.url.authority? = archive.base.authority? ∧ request.url.fragment? = some "top" ∧
      ∃ text more, request.url.query? = some text ∧
        Form.decode text.toList = Form.decode "key=1".toList ++ more ∧
        more.map Form.readPair = [some ("tags", "x"), some ("text", "a&b=c+ü#")] := by
  obtain ⟨request, hrequest⟩ : ∃ request, searching.prepare archive {} = .ok request := ⟨_, rfl⟩
  obtain ⟨-, -, joined, query, -, -, -, hquery, -, frame, -, added⟩ := address_of_prepare hrequest
  rw [pairs_searching, Except.ok.injEq] at hquery
  subst hquery
  obtain ⟨text, more, htext, hdecode, hread, -⟩ := added (by decide)
  refine ⟨request, hrequest, ?_, ?_, text, more, htext, hdecode, hread⟩
  · rw [frame]
  · rw [frame]
    rfl

end Draft
end RestClient
