import RestClient.Proofs.Chain
import RestClient.Proofs.Merging
import RestClient.Proofs.Preparation

/-!
# Where options are given

The same option steps may be given to a client, to its calls and when sending: some of them here and
some there, in a row. `Cut` says that a list of steps was cut in three like this, and `Draft.Gives`
that the steps of the middle part came to a call, in options that were built of some of them and in
single headers, with other steps of the call in between. Wherever the cuts are, preparing gives the
same request, or the same error (`Draft.prepareChain_agree_of_cuts`).

Behind it stands that preparing puts the three layers over one another by hand, header by header
and key by key, and that this is what merging them does (`Draft.same_headers`).
-/

namespace RestClient

open DraftStep

/-- **Two requests are the same** to a transport, up to the place of a header among the others. The
values of one name stand in the same order. -/
structure TransportRequest.Same (a b : TransportRequest) : Prop where
  url : a.url = b.url
  method : a.method = b.method
  headers : a.headers.Same b.headers
  body : a.body? = b.body?
  timeout : a.timeout? = b.timeout?
  passthrough : a.passthrough = b.passthrough

theorem TransportRequest.Same.symm {a b : TransportRequest} (h : a.Same b) : b.Same a :=
  ⟨h.url.symm, h.method.symm, h.headers.symm, h.body.symm, h.timeout.symm, h.passthrough.symm⟩

namespace Draft

/-! ## The layers of a request -/

/-- The layers of options of a request, put over one another. -/
def layered (r : Draft) (client : Client) (sendOptions : Options) : Options :=
  (client.defaults.merge r.options).merge sendOptions

variable (r : Draft) (client : Client) (sendOptions : Options)

/-- **The headers are those of the merged layers**, over the lowest ones, so it does not matter
whether the layers are put over these one by one or together. -/
theorem same_headers (base : HeaderMap) :
    (r.headers client sendOptions base).Same
      (base.merge (r.layered client sendOptions).headers) := by
  show (((base.merge client.defaults.headers).merge r.options.headers).merge
      sendOptions.headers).Same
    (base.merge ((client.defaults.headers.merge r.options.headers).merge sendOptions.headers))
  refine .trans ?_ (HeaderMap.same_merge_merge _ _ _)
  exact (HeaderMap.same_merge_merge _ _ _).merge (.refl _)

theorem timeout?_eq_layered :
    r.timeout? client sendOptions = (r.layered client sendOptions).timeout? :=
  Option.or_assoc

theorem passthrough_eq_layered :
    r.passthrough client sendOptions = (r.layered client sendOptions).passthrough := rfl

/-- **Only what the layers say together matters** of the options of a request: if the three layers
of two requests say the same when they are put over one another, preparing comes to the same request
or to the same error. -/
theorem prepare_agree (base : Url) {c₁ o₁ s₁ c₂ o₂ s₂ : Options}
    (h : ((c₁.merge o₁).merge s₁).Same ((c₂.merge o₂).merge s₂)) :
    Except.Agree TransportRequest.Same ({ r with options := o₁ }.prepare ⟨base, c₁⟩ s₁)
      ({ r with options := o₂ }.prepare ⟨base, c₂⟩ s₂) := by
  unfold prepare
  -- The stages that may fail do not look at options.
  show Except.Agree _
    ((r.url ⟨base, c₁⟩).mapError _ >>= fun u => r.contentTypeHeader.mapError _ >>= fun h =>
      r.body.mapError _ >>= fun b => _)
    ((r.url ⟨base, c₁⟩).mapError _ >>= fun u => r.contentTypeHeader.mapError _ >>= fun h =>
      r.body.mapError _ >>= fun b => _)
  cases r.url ⟨base, c₁⟩ with
  | error e => exact .error _
  | ok u =>
    cases r.contentTypeHeader with
    | error e => exact .error _
    | ok contentType =>
      cases r.body with
      | error e => exact .error _
      | ok body? =>
        refine .ok ⟨rfl, rfl, ?_, rfl, ?_, h.passthrough⟩
        · refine (same_headers _ _ _ contentType).trans (.trans ?_ (same_headers _ _ _ _).symm)
          exact (HeaderMap.Same.refl contentType).merge h.headers
        · show Draft.timeout? _ _ _ = Draft.timeout? _ _ _
          rw [timeout?_eq_layered, timeout?_eq_layered]
          exact h.timeout

/-! ## Option steps of a call -/

/-- **A chain gives option steps to its call**, in order: through options that were built of some of
them, and through single headers. How the steps are grouped is up to the chain. -/
inductive Gives : List DraftStep → List OptionStep → Prop where
  | nil : Gives [] []
  /-- Options built of a group of steps. -/
  | options {layer group chain rest} (built : Options.build group = .ok layer)
    (later : Gives chain rest) : Gives (.options layer :: chain) (group ++ rest)
  | header {name value chain rest} (later : Gives chain rest) :
    Gives (.header name value :: chain) (.header name value :: rest)
  /-- Steps that are not on options. -/
  | other {s chain rest} (kind : s.isOption = false) (later : Gives chain rest) :
    Gives (s :: chain) rest

/-- **The groups do not matter**: the chain makes of options what the steps make of them. -/
theorem Gives.agree {chain : List DraftStep} {steps : List OptionStep} (h : Gives chain steps)
    (o : Options) : Except.Agree Options.Same (o.follow chain) (o.steps steps) := by
  induction h generalizing o with
  | nil => exact .ok (.refl o)
  | @options layer group chain rest built later ih =>
    -- The chain merges the layer of the group, the steps of the group are taken one by one.
    have hgroup := Options.steps_agree o group
    rw [built] at hgroup
    obtain ⟨o', ho', hsame⟩ := Except.agree_ok_iff.mp hgroup
    rw [Options.follow_cons, Options.steps_append, ho']
    exact (ih (o.merge layer)).trans (Options.steps_congr hsame.symm rest) Options.Same.trans
  | @header name value chain rest later ih =>
    rw [Options.follow_cons]
    show Except.Agree _ (o.withHeader name value >>= fun o => o.follow chain)
      (o.withHeader name value >>= fun o => o.steps rest)
    cases o.withHeader name value with
    | error e => exact .error e
    | ok o' => exact ih o'
  | other kind later ih =>
    rw [Options.follow_cons, onOptions_of_not_isOption o kind]
    exact ih o

end Draft

/-! ## Cuts -/

/-- **Option steps in three parts**: those of the client, those of a call, which its chain gives,
and those of the sending. Each part may be empty. -/
inductive Cut : List OptionStep → Options → List DraftStep → Options → Prop where
  | mk {first second third context chain sendOptions}
    (client : Options.build first = .ok context) (call : Draft.Gives chain second)
    (sending : Options.build third = .ok sendOptions) :
    Cut (first ++ second ++ third) context chain sendOptions

/-- **What the parts say together is what is built of all steps**, and what fails is the same: of
the parts only the chain can still fail here, with the first of its headers that is refused. -/
theorem Cut.agree {steps : List OptionStep} {context sendOptions : Options}
    {chain : List DraftStep} (h : Cut steps context chain sendOptions) :
    Except.Agree (fun o all => ((context.merge o).merge sendOptions).Same all)
      (({} : Options).follow chain) (Options.build steps) := by
  cases h with
  | @mk first second third _ _ _ client call sending =>
    have hcall : Except.Agree Options.Same (({} : Options).follow chain) (Options.build second) :=
      call.agree {}
    have hfront := Options.build_append_of_left client second
    have hall := Options.build_append_of_right sending (first ++ second)
    -- Failures agree at each link, and these are not the ones of the outer parts, which are built.
    have hfollowed : Except.Agree (fun o front => front.Same (context.merge o))
        (({} : Options).follow chain) (Options.build (first ++ second)) :=
      hcall.trans (hfront.symm id) fun hsame hfront =>
        hfront.trans ((Options.Same.refl context).merge hsame.symm)
    exact hfollowed.trans (hall.symm id) fun hfront hall =>
      (hfront.symm.merge (.refl sendOptions)).trans hall.symm

namespace Draft

/-- **Where options are given does not matter**, as long as their order stays. Merging what was
built in two parts is building in one go; merging is associative, and empty options change nothing;
so for every two ways to cut the same steps into those of the client, of a call and of the sending,
preparing comes to the same request or the same error. It is the request that has the headers, the
timeout and the passthrough options of the merged layers. The chains may group their steps on
options in any way, and need to agree only in the parameters, the query and the body that they give
last. -/
theorem prepareChain_agree_of_cuts :
    (∀ s t, Except.Agree Options.Same (Options.build (s ++ t))
      (do return (← Options.build s).merge (← Options.build t))) ∧
    (∀ a b c : Options, ((a.merge b).merge c).Same (a.merge (b.merge c)) ∧
      (({} : Options).merge a).Same a ∧ (a.merge {}).Same a) ∧
    (∀ (r : Draft) (base : Url) {steps context₁ chain₁ send₁ context₂ chain₂ send₂},
      r.options = {} → Cut steps context₁ chain₁ send₁ → Cut steps context₂ chain₂ send₂ →
      SameLast chain₁ chain₂ →
      Except.Agree TransportRequest.Same (r.prepareChain chain₁ ⟨base, context₁⟩ send₁)
        (r.prepareChain chain₂ ⟨base, context₂⟩ send₂)) ∧
    ∀ (r : Draft) (client : Client) (sendOptions : Options) {request contentType},
      r.prepare client sendOptions = .ok request → r.contentTypeHeader = .ok contentType →
      request.headers.Same (contentType.merge (r.layered client sendOptions).headers) ∧
      request.timeout? = (r.layered client sendOptions).timeout? ∧
      request.passthrough = (r.layered client sendOptions).passthrough := by
  refine ⟨Options.build_append, ?_, ?_, ?_⟩
  · intro a b c
    exact ⟨Options.same_merge_merge a b c, Options.same_empty_merge a, .refl a⟩
  · intro r base steps context₁ chain₁ send₁ context₂ chain₂ send₂ hr h₁ h₂ hlast
    rw [prepareChain_eq, prepareChain_eq, hr, leave_congr r hlast]
    -- Both chains make of no options what the steps in the middle make of them.
    have hcuts := h₁.agree.trans (h₂.agree.symm id) fun h₁ h₂ => h₁.trans h₂.symm
    exact (hcuts.mapError .config).bind fun h => (r.leave chain₂ {}).prepare_agree base h
  · intro r client sendOptions request contentType hrequest hcontentType
    obtain ⟨u, h, body?, -, hh, -, rfl⟩ := prepare_eq_ok_iff.mp hrequest
    obtain rfl := Except.ok.inj (hcontentType.symm.trans hh)
    exact ⟨same_headers r client sendOptions contentType, timeout?_eq_layered r client sendOptions,
      passthrough_eq_layered r client sendOptions⟩

/-! ## One list, two cuts -/

/-- The root of a host. -/
def site : Url where
  scheme := "https"
  authority? := some { host := .domain "h.example" }
  path := .segments [""]

/-- A call on the root. -/
def browsing : Draft := Draft.start (Sample.free Sample.root .get)

/-- The header of the formats that are wanted. -/
def formats : HeaderName := ⟨"accept", by decide⟩

/-- A timeout, a header that is set twice, and other options put over these. -/
def tuning : List OptionStep :=
  [.timeout 30, .header "Accept" "text/csv", .header "accept" "text/html",
    .merge [.timeout 5, .passthrough "cache" (.bool true)]]

/-- The steps in the middle: the header is first among options that are built apart. -/
def tuned : List DraftStep :=
  [.options { headers := HeaderMap.empty.insert formats "text/csv" }, .query (.record "Page" []),
    .header "accept" "text/html"]

/-- Given in three places, or all to the client, the steps come to one request. -/
theorem prepareChain_agree_of_cuts_tuning :
    let early : Options := { timeout? := some 30 }
    let late : Options :=
      { timeout? := some 5, passthrough := Passthrough.empty.set "cache" (.bool true) }
    let page : List DraftStep := [.query (.record "Page" [])]
    ∃ all, Options.build tuning = .ok all ∧
      Cut tuning early tuned late ∧ Cut tuning all page {} ∧ ∃ a b,
        browsing.prepareChain tuned ⟨site, early⟩ late = .ok a ∧
        browsing.prepareChain page ⟨site, all⟩ {} = .ok b ∧ a.Same b := by
  intro early late page
  obtain ⟨all, hall⟩ : ∃ all, Options.build tuning = .ok all := ⟨_, rfl⟩
  have hgives : Gives tuned ([.header "Accept" "text/csv"] ++ [.header "accept" "text/html"]) :=
    .options rfl (.other rfl (.header .nil))
  have hparts : Cut ([.timeout 30] ++ ([.header "Accept" "text/csv"] ++
      [.header "accept" "text/html"]) ++
      [.merge [.timeout 5, .passthrough "cache" (.bool true)]]) early tuned late :=
    .mk rfl hgives rfl
  have hwhole : Cut (tuning ++ [] ++ []) all page {} := .mk hall (.other rfl .nil) rfl
  obtain ⟨-, -, hcuts, -⟩ := prepareChain_agree_of_cuts
  have hagree := hcuts browsing site rfl hwhole hparts ⟨rfl, rfl, rfl⟩
  obtain ⟨a, ha⟩ : ∃ a, browsing.prepareChain tuned ⟨site, early⟩ late = .ok a := ⟨_, rfl⟩
  rw [ha] at hagree
  obtain ⟨b, hb, hsame⟩ := Except.agree_ok_iff.mp hagree
  exact ⟨all, hall, hparts, hwhole, a, b, ha, hb, hsame.symm⟩

end Draft
end RestClient
