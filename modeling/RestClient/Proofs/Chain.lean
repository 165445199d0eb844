import RestClient.Proofs.Except
import RestClient.Request
import RestClient.Sample.Schema

/-!
# What a chain of steps leaves

Parameters, query and body are each replaced as a whole, so of the steps of one kind only the last
counts. Options build up: a step on them depends on the steps on options before it, and on no
others. `Draft.steps_eq` says both at once. A chain comes to the draft that it began with, in which
the parameters, the query and the body are those given last, and the options are what the steps on
options alone make of them; it fails just when one of these fails.

Two chains that give the same last parameters, query and body, and that have the same steps on
options in the same order, are therefore the same to whoever prepares a request
(`Draft.prepareChain_eq_of_sameLast`). That holds also of what goes wrong: a body is written in the
step that gives it and a query is read only when the request is prepared, but neither leaves
anything behind once it is replaced.
-/

namespace RestClient

namespace DraftStep

/-! ## Kinds of steps -/

/-- The parameters that a step gives. -/
def paramsGiven? : DraftStep → Option Datum
  | .params d => some d
  | _ => none

/-- The query that a step gives. -/
def queryGiven? : DraftStep → Option Datum
  | .query d => some d
  | _ => none

/-- The body that a step gives. -/
def bodyGiven? : DraftStep → Option Datum
  | .body d => some d
  | _ => none

/-- Whether a step is one on options. -/
def isOption : DraftStep → Bool
  | .options _ | .header _ _ => true
  | _ => false

/-- Whether a step puts something in the place of what another step gave. -/
def replaces : DraftStep → DraftStep → Bool
  | .params _, .params _ | .query _, .query _ | .body _, .body _ => true
  | _, _ => false

/-- What a step makes of options. Steps that give parameters, a query or a body leave them alone, so
only two kinds of steps remain. -/
def onOptions (o : Options) : DraftStep → Except ConfigError Options
  | .options layer => .ok (o.merge layer)
  | .header name value => o.withHeader name value
  | _ => .ok o

theorem onOptions_of_not_isOption (o : Options) {s : DraftStep} (h : s.isOption = false) :
    s.onOptions o = .ok o := by
  cases s with
  | params d | query d | body d => rfl
  | options layer | header name value => cases h

/-- Options build up and are never replaced. -/
theorem isOption_of_replaces {s t : DraftStep} (h : t.replaces s = true) : s.isOption = false := by
  cases s with
  | params d | query d | body d => rfl
  | options layer | header name value => cases t <;> cases h

/-! ## The last step of a kind -/

/-- **What is given last** by the steps of a kind, if there is such a step. Parameters, queries and
bodies are the kinds of which only this counts. -/
def last? (f : DraftStep → Option Datum) (chain : List DraftStep) : Option Datum :=
  (chain.filterMap f).getLast?

variable (f : DraftStep → Option Datum)

theorem last?_append (before after : List DraftStep) :
    last? f (before ++ after) = (last? f after).or (last? f before) := by
  unfold last?
  rw [List.filterMap_append, List.getLast?_append]

theorem last?_cons (s : DraftStep) (rest : List DraftStep) :
    last? f (s :: rest) = (last? f rest).or (f s) := by
  rw [← List.singleton_append, last?_append]
  congr 1
  unfold last?
  cases h : f s <;> simp [h]

/-- Steps of other kinds may be left out. -/
theorem last?_filter {p : DraftStep → Bool} (hp : ∀ s, p s = false → f s = none)
    (chain : List DraftStep) : last? f (chain.filter p) = last? f chain := by
  induction chain with
  | nil => rfl
  | cons s rest ih =>
    cases hs : p s with
    | true => rw [List.filter_cons_of_pos hs, last?_cons, last?_cons, ih]
    | false =>
      rw [List.filter_cons_of_neg (by simp [hs]), last?_cons, ih, hp s hs,
        Option.or_none]

theorem last?_ne_none {t : DraftStep} {chain : List DraftStep} (ht : t ∈ chain)
    (hf : f t ≠ none) : last? f chain ≠ none := by
  unfold last?
  rw [Ne, List.getLast?_eq_none_iff, List.filterMap_eq_nil_iff]
  exact fun h => hf (h t ht)

/-- A step counts for nothing if one of its kind follows. -/
theorem last?_of_replaced {before after : List DraftStep} {s : DraftStep}
    (h : f s ≠ none → last? f after ≠ none) :
    last? f (before ++ s :: after) = last? f (before ++ after) := by
  rw [last?_append, last?_append, last?_cons]
  cases hs : f s with
  | none => rw [Option.or_none]
  | some d =>
    obtain ⟨e, he⟩ := Option.ne_none_iff_exists'.mp (h (by simp [hs]))
    rw [he]
    rfl

end DraftStep

open DraftStep

/-- **Two chains that end alike** in what they give, whatever came before: the same parameters, the
same query and the same body, each given last or not at all. -/
structure SameLast (c₁ c₂ : List DraftStep) : Prop where
  params : last? paramsGiven? c₁ = last? paramsGiven? c₂
  query : last? queryGiven? c₁ = last? queryGiven? c₂
  body : last? bodyGiven? c₁ = last? bodyGiven? c₂

/-- A replaced step leaves nothing behind. -/
theorem SameLast.of_replaced {before after : List DraftStep} {s t : DraftStep} (ht : t ∈ after)
    (h : t.replaces s = true) : SameLast (before ++ s :: after) (before ++ after) := by
  constructor
  all_goals
    refine last?_of_replaced _ fun hs => last?_ne_none _ ht ?_
    -- the two steps are of one kind
    cases s <;> cases t <;> simp_all [replaces, paramsGiven?, queryGiven?, bodyGiven?]

/-! ## Steps on options -/

namespace Options

/-- **What the steps on options of a chain make of options**, in the order of the chain. It stops
with the first header that is refused. -/
def follow (o : Options) (chain : List DraftStep) : Except ConfigError Options :=
  chain.foldlM onOptions o

theorem follow_cons (o : Options) (s : DraftStep) (rest : List DraftStep) :
    o.follow (s :: rest) = s.onOptions o >>= fun o => o.follow rest :=
  List.foldlM_cons

/-- The other steps may be left out. -/
theorem follow_filter (o : Options) (chain : List DraftStep) :
    o.follow (chain.filter isOption) = o.follow chain := by
  induction chain generalizing o with
  | nil => rfl
  | cons s rest ih =>
    cases hs : s.isOption with
    | true =>
      rw [List.filter_cons_of_pos hs, follow_cons, follow_cons]
      exact bind_congr fun o => ih o
    | false =>
      rw [List.filter_cons_of_neg (by simp [hs]), ih, follow_cons,
        onOptions_of_not_isOption o hs]
      rfl

end Options

/-! ## The draft -/

namespace Draft

/-- **What a chain leaves of a draft**, apart from the options, which are given. The content type
and the writer are those of the draft, so the body is written by the same writer wherever it is
given. -/
def leave (r : Draft) (chain : List DraftStep) (o : Options) : Draft :=
  { r with
    params? := (last? paramsGiven? chain).or r.params?
    query? := (last? queryGiven? chain).or r.query?
    body? := ((last? bodyGiven? chain).map r.writer).or r.body?
    options := o }

/-- One chain after another leaves what both in a row leave. -/
theorem leave_leave (r : Draft) (c₁ c₂ : List DraftStep) (o₁ o₂ : Options) :
    (r.leave c₁ o₁).leave c₂ o₂ = r.leave (c₁ ++ c₂) o₂ := by
  unfold leave
  simp only [last?_append, Option.or_assoc, Option.map_or]

theorem step_eq (r : Draft) (s : DraftStep) :
    r.step s = (s.onOptions r.options).map (r.leave [s]) := by
  cases s <;> rfl

/-- **A chain fails only in its options**, and leaves what it gives last. The two go their own ways,
so the order of a step on options and one of another kind does not matter. -/
theorem steps_eq (r : Draft) (chain : List DraftStep) :
    r.steps chain = (r.options.follow chain).map (r.leave chain) := by
  induction chain generalizing r with
  | nil => rfl
  | cons s rest ih =>
    show (r.step s >>= fun r => r.steps rest) = _
    rw [step_eq, Options.follow_cons]
    cases s.onOptions r.options with
    | error e => rfl
    | ok o =>
      -- The rest starts from what the first step left, so what is kept of it is the first step's.
      show (r.leave [s] o).steps rest = (o.follow rest).map (r.leave (s :: rest))
      rw [ih]
      show (o.follow rest).map ((r.leave [s] o).leave rest) = _
      congr 1
      funext o'
      exact leave_leave r [s] rest o o'

/-- A chain does not change what is called. -/
theorem operation_of_steps {r q : Draft} {chain : List DraftStep} (h : r.steps chain = .ok q) :
    q.operation = r.operation := by
  rw [steps_eq, Except.map_eq_ok] at h
  obtain ⟨o, -, rfl⟩ := h
  rfl

theorem leave_congr (r : Draft) {c₁ c₂ : List DraftStep} (h : SameLast c₁ c₂) :
    r.leave c₁ = r.leave c₂ := by
  unfold leave
  rw [h.params, h.query, h.body]

/-- Chains that end alike and do the same to options are one chain. -/
theorem steps_congr (r : Draft) {c₁ c₂ : List DraftStep} (hlast : SameLast c₁ c₂)
    (hoptions : c₁.filter isOption = c₂.filter isOption) : r.steps c₁ = r.steps c₂ := by
  rw [steps_eq, steps_eq, leave_congr r hlast, ← Options.follow_filter _ c₁, hoptions,
    Options.follow_filter]

/-! ## The request -/

/-- **What comes of preparing** the request at the end of a chain: the error of the first step that
fails, or what preparing comes to. -/
def prepareChain (r : Draft) (chain : List DraftStep) (client : Client) (sendOptions : Options) :
    Except ApiError TransportRequest := do
  let r ← (r.steps chain).mapError .config
  r.prepare client sendOptions

/-- The options decide whether there is a request to prepare. -/
theorem prepareChain_eq (r : Draft) (chain : List DraftStep) (client : Client)
    (sendOptions : Options) :
    r.prepareChain chain client sendOptions
      = (r.options.follow chain).mapError .config >>= fun o =>
        (r.leave chain o).prepare client sendOptions := by
  unfold prepareChain
  rw [steps_eq]
  cases r.options.follow chain <;> rfl

/-- **The last of each kind wins**, and the order across kinds does not matter. The draft has what
was given last; chains that end alike and have the same steps on options come to the same request or
the same error; and a step that is replaced later might as well be left out. This is so as well of
parameters that have no pairs and of bodies that cannot be written: once they are replaced nothing
is left of them, and if they are not both chains fail with the same error. -/
theorem prepareChain_eq_of_sameLast {c₁ c₂ : List DraftStep} (hlast : SameLast c₁ c₂)
    (hoptions : c₁.filter isOption = c₂.filter isOption) (r : Draft) (client : Client)
    (sendOptions : Options) :
    (∀ q, r.steps c₁ = .ok q →
      q.params? = (last? paramsGiven? c₁).or r.params? ∧
      q.query? = (last? queryGiven? c₁).or r.query? ∧
      q.body? = ((last? bodyGiven? c₁).map r.writer).or r.body? ∧
      r.options.follow (c₁.filter isOption) = .ok q.options) ∧
    r.prepareChain c₁ client sendOptions = r.prepareChain c₂ client sendOptions ∧
    ∀ before s after, (∃ t ∈ after, t.replaces s = true) →
      r.prepareChain (before ++ s :: after) client sendOptions
        = r.prepareChain (before ++ after) client sendOptions := by
  refine ⟨fun q hq => ?_, ?_, ?_⟩
  · rw [steps_eq, Except.map_eq_ok] at hq
    obtain ⟨o, ho, rfl⟩ := hq
    rw [Options.follow_filter]
    exact ⟨rfl, rfl, rfl, ho⟩
  · unfold prepareChain
    rw [steps_congr r hlast hoptions]
  · rintro before s after ⟨t, ht, hreplaces⟩
    have hs : s.isOption = false := isOption_of_replaces hreplaces
    have hfilter : (before ++ s :: after).filter isOption = (before ++ after).filter isOption := by
      rw [List.filter_append, List.filter_append, List.filter_cons_of_neg (by simp [hs])]
    unfold prepareChain
    rw [steps_congr r (.of_replaced ht hreplaces) hfilter]

/-! ## A chain with second thoughts -/

/-- A shelf that takes a body. -/
def restocking : Draft :=
  Draft.start { Sample.free Sample.shelf .patch with bodies := [(.json, .any)] }

/-- The parameters of a shelf. -/
def shelfNamed (name : String) : Datum := .record "Shelf" [("name", .text name)]

/-- Parameters that are no object and a body that cannot be written are given and replaced, and it
does not show. -/
theorem prepareChain_eq_of_sameLast_restocking :
    let hesitant : List DraftStep := [.params (.text "top"), .body (.refused "no"),
      .options { timeout? := some 5 }, .query .unit, .header "X-Shelf" "1",
      .params (shelfNamed "top"), .query (.record "Page" []), .body (.text "tea")]
    let plain : List DraftStep := [.body (.text "tea"), .options { timeout? := some 5 },
      .params (shelfNamed "top"), .header "X-Shelf" "1", .query (.record "Page" [])]
    let client : Client := ⟨{
      scheme := "https"
      authority? := some { host := .domain "h.example" }
      path := .segments [""] }, {}⟩
    ∃ request, restocking.prepareChain plain client {} = .ok request ∧
      restocking.prepareChain hesitant client {} = .ok request ∧
      request.body? = some "\"tea\"" ∧ request.timeout? = some 5 := by
  intro hesitant plain client
  have hlast : SameLast hesitant plain := ⟨rfl, rfl, rfl⟩
  obtain ⟨-, hsame, -⟩ := prepareChain_eq_of_sameLast hlast rfl restocking client {}
  obtain ⟨request, hplain, hbody, htimeout⟩ :
      ∃ request, restocking.prepareChain plain client {} = .ok request ∧
        request.body? = some "\"tea\"" ∧ request.timeout? = some 5 := ⟨_, rfl, rfl, rfl⟩
  exact ⟨request, hplain, hsame.trans hplain, hbody, htimeout⟩

end Draft
end RestClient
