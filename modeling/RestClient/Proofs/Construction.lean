import RestClient.Proofs.Grouping
import RestClient.Proofs.Session

/-!
# Making a client

There are four ways to make a client from a base address (`Making`), and all of them come down to
one: the address is read, the options are put together, and `ClientBuilder.build` looks at the path
(`Making.make_eq`). From this equation follows what can go wrong and in which order: an address that
cannot be read, then a header that is refused, then a path that cannot be extended.

The last is looked at once, when the client is made, while every call extends the path again. That
this is enough is `Client.run_exchange_of_make`: on a client that was made, no call comes to an
error about the base address, whatever it sends and wherever it fails.

A builder sets the options of a client step by step, a context brings them along. This makes no
difference either: the same steps make the same client, and options that say the same make clients
that prepare the same requests (`Making.prepareChain_agree`).
-/

namespace RestClient

/-! ## Steps of a builder -/

/-- A step in setting up a client is a step in building options. -/
def ClientStep.toOptionStep : ClientStep → OptionStep
  | .defaultHeader name value => .header name value
  | .timeout ms => .timeout ms

/-- Why a step is refused. -/
def ClientStep.refusal? : ClientStep → Option ConfigError
  | .defaultHeader name value =>
    match HeaderMap.parseHeader name value with
    | .error f => some (.invalidHeader name f)
    | .ok _ => none
  | .timeout _ => none

namespace ClientBuilder

theorem step_eq (b : ClientBuilder) (s : ClientStep) :
    b.step s = (b.defaults.step s.toOptionStep).map fun o => ⟨b.base, o⟩ := by
  cases s with
  | defaultHeader name value => rfl
  | timeout ms => rfl

/-- **A builder builds options**, and keeps the base address. So all that is known of building
options is known of setting up a client. -/
theorem steps_eq (b : ClientBuilder) (ss : List ClientStep) :
    b.steps ss = (b.defaults.steps (ss.map ClientStep.toOptionStep)).map fun o => ⟨b.base, o⟩ := by
  induction ss generalizing b with
  | nil => rfl
  | cons s rest ih =>
    show (b.step s >>= fun b => b.steps rest) = _
    rw [step_eq, List.map_cons]
    show _ = (b.defaults.step s.toOptionStep >>= fun o =>
      o.steps (rest.map ClientStep.toOptionStep)).map _
    cases b.defaults.step s.toOptionStep with
    | error e => rfl
    | ok o => exact ih ⟨b.base, o⟩

end ClientBuilder

namespace ClientStep

/-- A step fails if it is refused. -/
theorem step_eq_error_iff {s : ClientStep} {o : Options} {e : ConfigError} :
    o.step s.toOptionStep = .error e ↔ s.refusal? = some e := by
  cases s with
  | defaultHeader name value =>
    show o.withHeader name value = .error e ↔ refusal? (.defaultHeader name value) = some e
    unfold Options.withHeader refusal?
    cases h : HeaderMap.parseHeader name value <;> simp [h]
  | timeout ms => exact ⟨nofun, nofun⟩

/-- **The first step that is refused decides**, and nothing else fails: whether a step is refused
does not depend on the steps before it. -/
theorem steps_eq_error_iff {ss : List ClientStep} {o : Options} {e : ConfigError} :
    o.steps (ss.map toOptionStep) = .error e ↔ ss.findSome? refusal? = some e := by
  induction ss generalizing o with
  | nil => exact ⟨nofun, nofun⟩
  | cons s rest ih =>
    show (o.step s.toOptionStep >>= fun o => o.steps (rest.map toOptionStep)) = .error e ↔ _
    rw [List.findSome?_cons]
    cases hs : o.step s.toOptionStep with
    | error d =>
      rw [step_eq_error_iff.mp hs]
      show Except.error d = .error e ↔ some d = some e
      rw [Except.error.injEq, Option.some.injEq]
    | ok o' =>
      have hnone : s.refusal? = none := by
        refine Option.eq_none_iff_forall_not_mem.mpr fun d hd => ?_
        rw [step_eq_error_iff.mpr (Option.mem_def.mp hd)] at hs
        cases hs
      rw [hnone]
      exact ih

end ClientStep

/-! ## The ways to make a client -/

/-- **A way to make a client** from a base address: by a builder, from a context of options, from
the address alone, or from its text. -/
inductive Making where
  /-- By a builder, in steps. -/
  | builder (steps : List ClientStep)
  /-- From a context with options. -/
  | context (options : Options)
  /-- From the address alone. -/
  | new
  /-- From the text of the address. -/
  | parse

namespace Making

/-- The client that is made from the text of a base address. -/
def make (m : Making) (base : String) : Except ConfigError Client :=
  match m with
  | .builder ss => do
    let u ← Client.parseBase base
    let b ← ClientBuilder.steps { base := u } ss
    b.build
  | .context o => do
    let u ← Client.parseBase base
    Client.withContext u o
  | .new => do
    let u ← Client.parseBase base
    Client.new u
  | .parse => Client.parse base

/-- The options of the client, if no step is refused. -/
def defaults : Making → Except ConfigError Options
  | .builder ss => Options.build (ss.map ClientStep.toOptionStep)
  | .context o => .ok o
  | .new | .parse => .ok {}

/-- Why the first step is refused that is. -/
def refusal? : Making → Option ConfigError
  | .builder ss => ss.findSome? ClientStep.refusal?
  | .context _ | .new | .parse => none

/-- **All ways come down to one**: the address, then the options, then the path. Whichever is wrong
first is the reason that there is no client. -/
theorem make_eq (m : Making) (base : String) :
    m.make base = Client.parseBase base >>= fun u => m.defaults >>= fun o =>
      ClientBuilder.build ⟨u, o⟩ := by
  cases m with
  | builder ss =>
    show (Client.parseBase base >>= fun u =>
      ClientBuilder.steps { base := u } ss >>= ClientBuilder.build) = _
    congr 1
    funext u
    rw [ClientBuilder.steps_eq]
    show ((Options.build (ss.map ClientStep.toOptionStep)).map _ >>= _) = (Options.build _ >>= _)
    cases Options.build (ss.map ClientStep.toOptionStep) <;> rfl
  | context o => rfl
  | new => rfl
  | parse => rfl

theorem defaults_eq_error_iff {m : Making} {e : ConfigError} :
    m.defaults = .error e ↔ m.refusal? = some e := by
  cases m with
  | builder ss => exact ClientStep.steps_eq_error_iff
  | context o => exact ⟨nofun, nofun⟩
  | new => exact ⟨nofun, nofun⟩
  | parse => exact ⟨nofun, nofun⟩

theorem refusal?_eq_none {m : Making} {o : Options} (h : m.defaults = .ok o) :
    m.refusal? = none := by
  refine Option.eq_none_iff_forall_not_mem.mpr fun e he => ?_
  rw [defaults_eq_error_iff.mpr (Option.mem_def.mp he)] at h
  cases h

theorem exists_defaults {m : Making} (h : m.refusal? = none) : ∃ o, m.defaults = .ok o := by
  cases hdefaults : m.defaults with
  | error e =>
    rw [defaults_eq_error_iff.mp hdefaults] at h
    cases h
  | ok o => exact ⟨o, rfl⟩

/-- What is refused is a header. -/
theorem exists_of_refusal? {m : Making} {e : ConfigError} (h : m.refusal? = some e) :
    ∃ name f, e = .invalidHeader name f := by
  cases m with
  | builder ss =>
    obtain ⟨s, -, hs⟩ := List.exists_of_findSome?_eq_some h
    cases s with
    | defaultHeader name value =>
      unfold ClientStep.refusal? at hs
      dsimp only at hs
      split at hs
      · cases hs
        exact ⟨name, _, rfl⟩
      · cases hs
    | timeout ms => cases hs
  | context o | new | parse => cases h

end Making

theorem ClientBuilder.build_eq_ok_iff {b : ClientBuilder} {client : Client} :
    b.build = .ok client ↔ b.base.isHierarchical = true ∧ ⟨b.base, b.defaults⟩ = client := by
  unfold build
  split <;> simp_all

theorem ClientBuilder.build_eq_error_iff {b : ClientBuilder} {e : ConfigError} :
    b.build = .error e ↔ b.base.isHierarchical = false ∧ .notHierarchical b.base.text = e := by
  unfold build
  split <;> simp_all

theorem Client.parseBase_eq_error_iff {base : String} {e : ConfigError} :
    parseBase base = .error e ↔ ∃ f, Url.parse base = .error f ∧ .invalidUrl f = e :=
  Except.mapError_eq_error

theorem Client.parseBase_eq_ok_iff {base : String} {u : Url} :
    parseBase base = .ok u ↔ Url.parse base = .ok u :=
  Except.mapError_eq_ok

namespace Making

/-- **What making a client comes to**: one rule for each reason to fail, with what comes before it
in order, and one for the client that is made. -/
inductive Comes (m : Making) (base : String) : Except ConfigError Client → Prop where
  /-- The text is no address. -/
  | invalidUrl {f} (failed : Url.parse base = .error f) : Comes m base (.error (.invalidUrl f))
  /-- A header is refused. -/
  | invalidHeader {u name f} (address : Url.parse base = .ok u)
    (refused : m.refusal? = some (.invalidHeader name f)) :
    Comes m base (.error (.invalidHeader name f))
  /-- The path of the address cannot be extended. -/
  | notHierarchical {u} (address : Url.parse base = .ok u) (accepted : m.refusal? = none)
    (flat : u.isHierarchical = false) : Comes m base (.error (.notHierarchical u.text))
  /-- The client has the address and the options. -/
  | made {u o} (address : Url.parse base = .ok u) (accepted : m.defaults = .ok o)
    (extensible : u.isHierarchical = true) : Comes m base (.ok ⟨u, o⟩)

theorem comes_make (m : Making) (base : String) : m.Comes base (m.make base) := by
  rw [make_eq]
  cases hbase : Client.parseBase base with
  | error e =>
    obtain ⟨f, hf, rfl⟩ := Client.parseBase_eq_error_iff.mp hbase
    exact .invalidUrl hf
  | ok u =>
    have hu := Client.parseBase_eq_ok_iff.mp hbase
    show m.Comes base (m.defaults >>= fun o => ClientBuilder.build ⟨u, o⟩)
    cases hdefaults : m.defaults with
    | error e =>
      have hrefusal := defaults_eq_error_iff.mp hdefaults
      obtain ⟨name, f, rfl⟩ := exists_of_refusal? hrefusal
      exact .invalidHeader hu hrefusal
    | ok o =>
      show m.Comes base (ClientBuilder.build ⟨u, o⟩)
      cases hbuild : ClientBuilder.build ⟨u, o⟩ with
      | error e =>
        obtain ⟨hflat, rfl⟩ := ClientBuilder.build_eq_error_iff.mp hbuild
        exact .notHierarchical hu (refusal?_eq_none hdefaults) hflat
      | ok client =>
        obtain ⟨hextensible, rfl⟩ := ClientBuilder.build_eq_ok_iff.mp hbuild
        exact .made hu hdefaults hextensible

variable {m : Making} {base : String}

theorem make_eq_invalidUrl_iff {f : Url.Fault} :
    m.make base = .error (.invalidUrl f) ↔ Url.parse base = .error f := by
  constructor
  · intro h
    have hcomes := m.comes_make base
    rw [h] at hcomes
    cases hcomes with
    | invalidUrl failed => exact failed
  · intro h
    rw [make_eq, Client.parseBase_eq_error_iff.mpr ⟨f, h, rfl⟩]
    rfl

theorem make_eq_notHierarchical_iff {t : String} :
    m.make base = .error (.notHierarchical t) ↔ ∃ u, Url.parse base = .ok u ∧
      u.isHierarchical = false ∧ u.text = t ∧ m.refusal? = none := by
  constructor
  · intro h
    have hcomes := m.comes_make base
    rw [h] at hcomes
    cases hcomes with
    | notHierarchical address accepted flat => exact ⟨_, address, flat, rfl, accepted⟩
  · rintro ⟨u, hu, hflat, rfl, haccepted⟩
    obtain ⟨o, ho⟩ := exists_defaults haccepted
    rw [make_eq, Client.parseBase_eq_ok_iff.mpr hu, ho]
    exact ClientBuilder.build_eq_error_iff.mpr ⟨hflat, rfl⟩

/-- A header that is refused is complained about, whatever the path of the address. -/
theorem make_eq_of_refusal? {u : Url} {e : ConfigError} (hu : Url.parse base = .ok u)
    (h : m.refusal? = some e) : m.make base = .error e := by
  rw [make_eq, Client.parseBase_eq_ok_iff.mpr hu, defaults_eq_error_iff.mpr h]
  rfl

theorem isHierarchical_of_make {client : Client} (h : m.make base = .ok client) :
    client.base.isHierarchical = true := by
  have hcomes := m.comes_make base
  rw [h] at hcomes
  cases hcomes with
  | made address accepted extensible => exact extensible

end Making

/-! ## Calls on a client that was made -/

/-- An error about the base address. -/
def ApiError.IsAboutBase : ApiError → Prop
  | .config (.invalidUrl _) | .config (.notHierarchical _) => True
  | _ => False

/-- A chain fails with a header that is refused. -/
theorem Options.exists_of_follow {o : Options} {chain : List DraftStep} {e : ConfigError}
    (h : o.follow chain = .error e) : ∃ name f, e = .invalidHeader name f := by
  induction chain generalizing o with
  | nil => cases h
  | cons s rest ih =>
    rw [follow_cons, Except.bind_eq_error] at h
    rcases h with h | ⟨o', -, h⟩
    · cases s with
      | header name value =>
        have hset : o.withHeader name value = .error e := h
        unfold withHeader at hset
        split at hset
        · cases hset
          exact ⟨name, _, rfl⟩
        · cases hset
      | params d | query d | body d | options layer => cases h
    · exact ih h

/-- An answer is never about the base address. -/
theorem Acceptance.not_isAboutBase {a : Acceptance} {reply : Reply} {e : ApiError}
    (h : a.verdict reply = .error e) : ¬e.IsAboutBase := by
  unfold verdict at h
  split at h
  · cases h
    exact nofun
  · cases h
    exact nofun
  · obtain ⟨v, -, rfl⟩ := Except.mapError_eq_error.mp h
    exact nofun

/-- **On a base address that can be extended no call fails for the base address.** Its steps fail
for headers only, and joining segments to such an address always succeeds, so the check when the
client is made is enough. -/
theorem Call.not_isAboutBase {client : Client} (hbase : client.base.isHierarchical = true)
    (c : Call) (transport : List TransportRequest → Transport) (received : List TransportRequest)
    {e : ApiError} (h : ((c.exchange client).run transport received).result = .error e) :
    ¬e.IsAboutBase := by
  have hcomes := c.comes_run_exchange client transport received
  rw [h] at hcomes
  generalize ((c.exchange client).run transport received).requests = requests at hcomes
  generalize hresult : Except.error e = result at hcomes
  cases hcomes with
  | unbuilt failed =>
    cases hresult
    rw [Draft.steps_eq, Except.map_eq_error] at failed
    obtain ⟨name, f, rfl⟩ := Options.exists_of_follow failed
    exact nofun
  | unsent built failed first =>
    cases hresult
    -- Of the stages of preparing only the join is about the base address.
    cases first with
    | join params template flat =>
      rw [hbase] at flat
      cases flat
    | params | template | query | contentType | body => exact nofun
  | sent built prepared => exact Acceptance.not_isAboutBase hresult.symm

namespace Draft

/-! ## Two ways with the same options -/

/-- **Options that say the same make clients that prepare the same**, request or error, for every
chain and every sending. -/
theorem prepareChain_agree_of_same (u : Url) {o₁ o₂ : Options} (h : o₁.Same o₂) (r : Draft)
    (chain : List DraftStep) (sendOptions : Options) :
    Except.Agree TransportRequest.Same (r.prepareChain chain ⟨u, o₁⟩ sendOptions)
      (r.prepareChain chain ⟨u, o₂⟩ sendOptions) := by
  rw [prepareChain_eq, prepareChain_eq]
  cases r.options.follow chain with
  | error e => exact .error (ApiError.config e)
  | ok o =>
    exact (r.leave chain o).prepare_agree u ((h.merge (.refl o)).merge (.refl sendOptions))

end Draft

namespace Making

/-- The same steps make the same client, or the same error, by a builder and in a context. -/
theorem build_steps_eq (u : Url) (ss : List ClientStep) :
    (ClientBuilder.steps { base := u } ss >>= ClientBuilder.build)
      = Options.build (ss.map ClientStep.toOptionStep) >>= Client.withContext u := by
  rw [ClientBuilder.steps_eq]
  show ((Options.build _).map _ >>= _) = _
  cases Options.build (ss.map ClientStep.toOptionStep) <;> rfl

/-- **What is guaranteed of clients.** Making one fails for the text of the address just when it is
none, whatever else is wrong, and for the path just when it cannot be extended and no header was
refused before; a header that is refused ends the making. On a client that was made no call, with
whatever it is put together and however it ends, fails for the base address. And a builder and a
context with options that say the same make clients that prepare the same requests. -/
theorem construction_guarantees :
    (∀ (m : Making) (base : String),
      (∀ f, m.make base = .error (.invalidUrl f) ↔ Url.parse base = .error f) ∧
      (∀ t, m.make base = .error (.notHierarchical t) ↔ ∃ u, Url.parse base = .ok u ∧
        u.isHierarchical = false ∧ u.text = t ∧ m.refusal? = none) ∧
      (∀ u e, Url.parse base = .ok u → m.refusal? = some e →
        m.make base = .error e ∧ ∃ name f, e = .invalidHeader name f) ∧
      ∀ client, m.make base = .ok client →
        ∀ (c : Call) (transport : List TransportRequest → Transport) received e,
          ((c.exchange client).run transport received).result = .error e → ¬e.IsAboutBase) ∧
    ∀ (u : Url) (ss : List ClientStep),
      (ClientBuilder.steps { base := u } ss >>= ClientBuilder.build)
        = (Options.build (ss.map ClientStep.toOptionStep) >>= Client.withContext u) ∧
      ∀ (b : ClientBuilder) (o : Options) (built inContext : Client),
        ClientBuilder.steps { base := u } ss = .ok b → b.defaults.Same o →
        b.build = .ok built → Client.withContext u o = .ok inContext →
        ∀ (r : Draft) (chain : List DraftStep) (sendOptions : Options),
          Except.Agree TransportRequest.Same (r.prepareChain chain built sendOptions)
            (r.prepareChain chain inContext sendOptions) := by
  constructor
  · intro m base
    refine ⟨fun f => make_eq_invalidUrl_iff, fun t => make_eq_notHierarchical_iff,
      fun u e hu he => ⟨make_eq_of_refusal? hu he, exists_of_refusal? he⟩, ?_⟩
    intro client hclient c transport received e he
    exact c.not_isAboutBase (isHierarchical_of_make hclient) transport received he
  · intro u ss
    refine ⟨build_steps_eq u ss, fun b o built inContext hb hsame hbuilt hcontext => ?_⟩
    rw [ClientBuilder.steps_eq, Except.map_eq_ok] at hb
    obtain ⟨o', -, rfl⟩ := hb
    obtain ⟨-, rfl⟩ := ClientBuilder.build_eq_ok_iff.mp hbuilt
    obtain ⟨-, rfl⟩ := ClientBuilder.build_eq_ok_iff.mp hcontext
    exact Draft.prepareChain_agree_of_same u hsame

/-- A builder whose header is refused. -/
def refusing : Making := .builder [.defaultHeader "bad name" "x"]

/-- The path of the address cannot be extended, and it is the header that is complained about. -/
theorem not_notHierarchical_of_refusing :
    (∃ u, Url.parse "mailto:a@b" = .ok u ∧ u.isHierarchical = false) ∧
    refusing.make "mailto:a@b" = .error (.invalidHeader "bad name" .name) ∧
    ∀ t, refusing.make "mailto:a@b" ≠ .error (.notHierarchical t) :=
  ⟨⟨_, rfl, rfl⟩, rfl, nofun⟩

/-- A timeout that is set twice, and a key in between. -/
def keyed : List ClientStep := [.timeout 3, .defaultHeader "X-Key" "1", .timeout 9]

/-- The key and the last timeout. -/
def withKey : Options where
  headers := HeaderMap.empty.insert ⟨"x-key", by decide⟩ "1"
  timeout? := some 9

/-- A client is built of the steps, and the transport fails at its first call. The same client
comes of the options in a context. -/
theorem construction_guarantees_keyed :
    (∃ client, (builder keyed).make "app://h.example/v1" = .ok client ∧
      (((Client.shelving (.text "a")).exchange client).run Client.waking []).result
        = .error (.client .request) ∧ ¬(ApiError.client .request).IsAboutBase) ∧
    ∃ built inContext a b,
      (ClientBuilder.steps { base := Draft.site } keyed >>= ClientBuilder.build) = .ok built ∧
      Client.withContext Draft.site withKey = .ok inContext ∧
      Draft.browsing.prepareChain [] built {} = .ok a ∧
      Draft.browsing.prepareChain [] inContext {} = .ok b ∧ a.Same b := by
  obtain ⟨hmaking, hsame⟩ := construction_guarantees
  constructor
  · obtain ⟨-, -, -, hcalls⟩ := hmaking (builder keyed) "app://h.example/v1"
    exact ⟨_, rfl, rfl, hcalls _ rfl (Client.shelving (.text "a")) Client.waking [] _ rfl⟩
  · obtain ⟨b, hb⟩ : ∃ b, ClientBuilder.steps { base := Draft.site } keyed = .ok b := ⟨_, rfl⟩
    obtain ⟨built, hbuilt⟩ : ∃ built, b.build = .ok built := by
      cases hb
      exact ⟨_, rfl⟩
    obtain ⟨inContext, hcontext⟩ : ∃ c, Client.withContext Draft.site withKey = .ok c := ⟨_, rfl⟩
    have hoptions : b.defaults.Same withKey := by
      cases hb
      exact .refl withKey
    obtain ⟨-, hagree⟩ := hsame Draft.site keyed
    have hrequests := hagree b withKey built inContext hb hoptions hbuilt hcontext
      Draft.browsing [] {}
    obtain ⟨y, hy⟩ : ∃ y, Draft.browsing.prepareChain [] inContext {} = .ok y := by
      cases hcontext
      exact ⟨_, rfl⟩
    rw [hy] at hrequests
    obtain ⟨x, hx, hxy⟩ := Except.agree_ok_iff.mp hrequests
    refine ⟨built, inContext, x, y, ?_, hcontext, hx, hy, hxy⟩
    rw [hb]
    exact hbuilt

end Making
end RestClient
