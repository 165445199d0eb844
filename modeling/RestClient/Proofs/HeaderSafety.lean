import RestClient.Proofs.Construction
import RestClient.Proofs.HeaderLines

/-!
# Safe headers

A header map is safe (`HeaderMap.Safe`) if no two of its names differ in case alone, if each name is
a token in lower case and has a value, and if no value has a control character of ASCII other than
the tab. The first three come with the types of names and of maps. The last is a matter of how maps
are made: by setting a header, which looks at the value, and by putting maps over maps, which makes
no new values. So it is shown once for each of these two (`HeaderMap.Plain.insert`,
`HeaderMap.Plain.merge`), and from there for every step in building options, by induction on how
steps stand in one another, for every way to make a client, and for every request.

What setting a header looks at is also all that it refuses (`Options.SetsHeader`). Safe headers are
read by a receiver as they were sent (`HeaderMap.map_readField?_lines`), so none of the texts that
are accepted puts a header next to its own.
-/

namespace RestClient

namespace HeaderName

/-- A name is its text. -/
theorem eq_of_text_eq {n m : HeaderName} (h : n.text = m.text) : n = m := by
  cases n
  cases m
  cases h
  rfl

end HeaderName

/-! ## Maps -/

namespace HeaderMap

/-- **A map of safe headers**: what a receiver makes of it is what was put into it. The first three
are part of the types; only that values have no control characters has to be shown. -/
structure Safe (h : HeaderMap) : Prop where
  /-- No two names differ in case alone. -/
  once : h.entries.Pairwise fun a b => HeaderName.lowered a.1.text ≠ HeaderName.lowered b.1.text
  /-- A name has a value. -/
  valued : ∀ e ∈ h.entries, e.2 ≠ []
  /-- A name is a token in lower case. -/
  named : ∀ e ∈ h.entries, HeaderName.IsToken e.1.text ∧
    HeaderName.lowered e.1.text = e.1.text.toList
  /-- A value has no control characters. -/
  plain : ∀ e ∈ h.entries, ∀ v ∈ e.2, HeaderValue.IsPlain v

/-- The values of all names are without control characters. -/
def Plain (h : HeaderMap) : Prop := ∀ n, ∀ v ∈ h.values n, HeaderValue.IsPlain v

theorem valuesIn_of_mem {es : List (HeaderName × List String)} (hd : (es.map Prod.fst).Nodup)
    {e : HeaderName × List String} (he : e ∈ es) : valuesIn es e.1 = e.2 := by
  induction es with
  | nil => cases he
  | cons first rest ih =>
    rw [List.map_cons, List.nodup_cons] at hd
    rw [valuesIn_cons]
    rcases List.mem_cons.mp he with rfl | he
    · exact if_pos rfl
    · have hne : e.1 ≠ first.1 := by
        intro heq
        exact hd.1 (heq ▸ List.mem_map_of_mem he)
      rw [if_neg hne, ih hd.2 he]

/-- The values of a name are those at its place. -/
theorem exists_of_mem_valuesIn {es : List (HeaderName × List String)} {n : HeaderName} {v : String}
    (hv : v ∈ valuesIn es n) : ∃ e ∈ es, v ∈ e.2 := by
  induction es with
  | nil => cases hv
  | cons first rest ih =>
    rw [valuesIn_cons] at hv
    split at hv
    · exact ⟨first, List.mem_cons_self, hv⟩
    · obtain ⟨e, he, hv⟩ := ih hv
      exact ⟨e, List.mem_cons_of_mem first he, hv⟩

/-- **Only values can be unsafe**; the rest is said by the types. So for safety it is enough to
follow the values through all that is done to a map. -/
theorem safe_iff_plain {h : HeaderMap} : h.Safe ↔ h.Plain := by
  constructor
  · intro safe n v hv
    obtain ⟨e, he, hv⟩ := exists_of_mem_valuesIn hv
    exact safe.plain e he v hv
  · intro plain
    refine ⟨?_, h.valued, fun e _ => e.1.isToken, fun e he v hv => ?_⟩
    · refine (List.pairwise_map.mp h.distinct).imp fun {a b} hab hlower => hab ?_
      rw [a.1.isToken.2, b.1.isToken.2, String.toList_inj] at hlower
      exact HeaderName.eq_of_text_eq hlower
    · refine plain e.1 v ?_
      rw [← valuesIn_of_mem h.distinct he] at hv
      exact hv

theorem plain_empty : empty.Plain := fun _ _ hv => by cases hv

theorem Plain.insert {h : HeaderMap} (plain : h.Plain) (n : HeaderName) {value : String}
    (hvalue : HeaderValue.IsPlain value) : (h.insert n value).Plain := by
  intro m v hv
  rw [values_insert] at hv
  split at hv
  · rw [List.mem_singleton.mp hv]
    exact hvalue
  · exact plain m v hv

theorem Plain.append {h : HeaderMap} (plain : h.Plain) (n : HeaderName) {value : String}
    (hvalue : HeaderValue.IsPlain value) : (h.append n value).Plain := by
  intro m v hv
  rw [values_append] at hv
  split at hv
  · rcases List.mem_append.mp hv with hv | hv
    · exact plain n v hv
    · rw [List.mem_singleton.mp hv]
      exact hvalue
  · exact plain m v hv

theorem Plain.merge {target layer : HeaderMap} (ht : target.Plain) (hl : layer.Plain) :
    (target.merge layer).Plain := by
  intro n v hv
  rw [values_merge] at hv
  split at hv
  · exact hl n v hv
  · exact ht n v hv

/-! ## Setting a header -/

/-- **Which texts are taken for a header**: a token that is not too long, in lower case, and a value
without control characters as it is. A text that is no name is refused as one whatever the value
is. -/
theorem parseHeader_cases (name value : String) :
    (HeaderName.IsToken name ∧ name.length ≤ HeaderName.maxLength ∧ HeaderValue.IsPlain value ∧
      ∃ n, HeaderName.ofText? name = some n ∧ parseHeader name value = .ok (n, value)) ∨
    (¬(HeaderName.IsToken name ∧ name.length ≤ HeaderName.maxLength) ∧
      parseHeader name value = .error .name) ∨
    (HeaderName.IsToken name ∧ name.length ≤ HeaderName.maxLength ∧
      ¬HeaderValue.IsPlain value ∧ parseHeader name value = .error .value) := by
  unfold parseHeader
  by_cases hname : HeaderName.IsToken name ∧ name.length ≤ HeaderName.maxLength
  · have hn : ∃ n, HeaderName.ofText? name = some n := by
      unfold HeaderName.ofText?
      rw [dif_pos (HeaderName.isNormal_lowered_iff.mpr hname)]
      exact ⟨_, rfl⟩
    obtain ⟨n, hn⟩ := hn
    rw [hn]
    dsimp only
    by_cases hvalue : HeaderValue.IsPlain value
    · rw [value?_eq_some_iff.mpr ⟨hvalue, rfl⟩]
      exact .inl ⟨hname.1, hname.2, hvalue, n, rfl, rfl⟩
    · rw [value?_eq_none_iff.mpr hvalue]
      exact .inr (.inr ⟨hname.1, hname.2, hvalue, rfl⟩)
  · have hn : HeaderName.ofText? name = none := by
      unfold HeaderName.ofText?
      exact dif_neg fun h => hname (HeaderName.isNormal_lowered_iff.mp h)
    rw [hn]
    exact .inr (.inl ⟨hname, rfl⟩)

end HeaderMap

namespace Options

/-- **What setting a header comes to**: the value stands alone under its name and nothing else has
changed, or the error says which of the two was refused, with the name as it was given. -/
inductive SetsHeader (o : Options) (name value : String) : Except ConfigError Options → Prop where
  /-- The value is set as it is, whatever the case of the name, and nothing else changes. -/
  | set {o'} (token : HeaderName.IsToken name) (length : name.length ≤ HeaderName.maxLength)
    (plain : HeaderValue.IsPlain value) (only : o'.headers.valuesOf name = [value])
    (others : ∀ m, HeaderName.lowered m ≠ HeaderName.lowered name →
      o'.headers.valuesOf m = o.headers.valuesOf m)
    (timeout : o'.timeout? = o.timeout?) (passthrough : o'.passthrough = o.passthrough) :
    SetsHeader o name value (.ok o')
  /-- The name is none. -/
  | badName (refused : ¬(HeaderName.IsToken name ∧ name.length ≤ HeaderName.maxLength)) :
    SetsHeader o name value (.error (.invalidHeader name .name))
  /-- The value has a control character. -/
  | badValue (token : HeaderName.IsToken name) (length : name.length ≤ HeaderName.maxLength)
    (refused : ¬HeaderValue.IsPlain value) :
    SetsHeader o name value (.error (.invalidHeader name .value))

theorem setsHeader_withHeader (o : Options) (name value : String) :
    o.SetsHeader name value (o.withHeader name value) := by
  unfold withHeader
  rcases HeaderMap.parseHeader_cases name value with
    ⟨htoken, hlength, hplain, n, hn, h⟩ | ⟨hname, h⟩ | ⟨htoken, hlength, hvalue, h⟩
  · rw [h]
    have hlower := HeaderName.ofText?_eq_some_iff.mp hn
    refine .set htoken hlength hplain ?_ (fun m hm => ?_) rfl rfl
    · show (o.headers.insert n value).valuesOf name = _
      rw [HeaderMap.valuesOf_insert, if_pos hlower]
    · show (o.headers.insert n value).valuesOf m = _
      rw [HeaderMap.valuesOf_insert, if_neg (hlower ▸ hm)]
  · rw [h]
    exact .badName hname
  · rw [h]
    exact .badValue htoken hlength hvalue

theorem plain_of_withHeader {o o' : Options} {name value : String} (plain : o.headers.Plain)
    (h : o.withHeader name value = .ok o') : o'.headers.Plain := by
  unfold withHeader at h
  rcases HeaderMap.parseHeader_cases name value with
    ⟨-, -, hplain, n, -, hparse⟩ | ⟨-, hparse⟩ | ⟨-, -, -, hparse⟩
  · rw [hparse] at h
    cases h
    exact plain.insert n hplain
  · rw [hparse] at h
    cases h
  · rw [hparse] at h
    cases h

end Options

/-! ## Steps in building options -/

mutual

/-- The header maps of a step are safe, at every depth. -/
def OptionStep.Sound : OptionStep → Prop
  | .headers layer => layer.Safe
  | .merge steps => OptionStep.AllSound steps
  | .header _ _ | .timeout _ | .passthrough _ _ => True

/-- The header maps of all steps are safe. -/
def OptionStep.AllSound : List OptionStep → Prop
  | [] => True
  | s :: rest => OptionStep.Sound s ∧ OptionStep.AllSound rest

end

theorem OptionStep.allSound_iff {steps : List OptionStep} :
    AllSound steps ↔ ∀ s ∈ steps, s.Sound := by
  induction steps with
  | nil => simp [AllSound]
  | cons s rest ih => rw [AllSound, ih, List.forall_mem_cons]

/-- **Induction on steps**: of a step that builds other options its steps may be assumed, which may
build other options again. -/
theorem OptionStep.induction {P : OptionStep → Prop} (header : ∀ name value, P (.header name value))
    (headers : ∀ layer, P (.headers layer)) (timeout : ∀ ms, P (.timeout ms))
    (passthrough : ∀ name value, P (.passthrough name value))
    (merge : ∀ steps, (∀ s ∈ steps, P s) → P (.merge steps)) (s : OptionStep) : P s :=
  OptionStep.rec (motive_1 := P) (motive_2 := fun steps => ∀ s ∈ steps, P s)
    header headers timeout passthrough merge nofun
    (fun _ _ hs hrest => List.forall_mem_cons.mpr ⟨hs, hrest⟩) s

namespace Options

/-- What each step keeps, a run of them keeps. -/
theorem plain_of_steps {steps : List OptionStep}
    (hstep : ∀ s ∈ steps, ∀ {o o' : Options}, o.headers.Plain → o.step s = .ok o' →
      o'.headers.Plain)
    {o o' : Options} (plain : o.headers.Plain) (h : o.steps steps = .ok o') :
    o'.headers.Plain := by
  induction steps generalizing o with
  | nil =>
    cases h
    exact plain
  | cons s rest ih =>
    obtain ⟨hs, hrest⟩ := List.forall_mem_cons.mp hstep
    obtain ⟨mid, hmid, h⟩ := Except.bind_eq_ok.mp h
    exact ih hrest (hs plain hmid) h

/-- **A step keeps values without control characters**, however deep it builds. A header that is set
has been looked at, and a header map that is put over the others is safe itself. -/
theorem plain_of_step {s : OptionStep} (sound : s.Sound) {o o' : Options}
    (plain : o.headers.Plain) (h : o.step s = .ok o') : o'.headers.Plain := by
  induction s using OptionStep.induction generalizing o o' with
  | header name value => exact plain_of_withHeader plain h
  | headers layer =>
    cases h
    exact plain.merge (HeaderMap.safe_iff_plain.mp sound)
  | timeout ms =>
    cases h
    exact plain
  | passthrough name value =>
    cases h
    exact plain
  | merge steps ih =>
    -- The other options are built from nothing, and put over those there are.
    obtain ⟨inner, hinner, rfl⟩ := Except.map_eq_ok.mp h
    have hsound := OptionStep.allSound_iff.mp sound
    refine plain.merge (plain_of_steps (fun s hs => ?_) HeaderMap.plain_empty hinner)
    intro o o' plain h
    exact ih s hs (hsound s hs) plain h

/-- **Options that are built have safe headers**, if the header maps that their steps bring along
have. -/
theorem safe_of_build {steps : List OptionStep} (sound : OptionStep.AllSound steps) {o : Options}
    (h : build steps = .ok o) : o.headers.Safe := by
  have hsound := OptionStep.allSound_iff.mp sound
  exact HeaderMap.safe_iff_plain.mpr
    (plain_of_steps (fun s hs => plain_of_step (hsound s hs)) HeaderMap.plain_empty h)

end Options

/-! ## Clients and requests -/

/-- The options that a way to make a client brings along have safe headers. -/
def Making.Sound : Making → Prop
  | .context o => o.headers.Safe
  | .builder _ | .new | .parse => True

/-- **A client has safe headers**, whatever steps its builder took. Options of a context are the
only headers that are not looked at on the way. -/
theorem Making.safe_of_make {m : Making} (sound : m.Sound) {base : String} {client : Client}
    (h : m.make base = .ok client) : client.defaults.headers.Safe := by
  have hcomes := m.comes_make base
  rw [h] at hcomes
  cases hcomes with
  | @made u o address accepted extensible =>
    show o.headers.Safe
    cases m with
    | builder ss =>
      refine Options.safe_of_build (OptionStep.allSound_iff.mpr fun s hs => ?_) accepted
      obtain ⟨t, -, rfl⟩ := List.mem_map.mp hs
      cases t <;> trivial
    | context layer =>
      cases accepted
      exact sound
    | new | parse =>
      cases accepted
      exact HeaderMap.safe_iff_plain.mpr HeaderMap.plain_empty

/-- The header maps of a step are safe. -/
def DraftStep.Sound : DraftStep → Prop
  | .options layer => layer.headers.Safe
  | .params _ | .query _ | .body _ | .header _ _ => True

namespace Draft

theorem plain_of_onOptions {s : DraftStep} (sound : s.Sound) {o o' : Options}
    (plain : o.headers.Plain) (h : s.onOptions o = .ok o') : o'.headers.Plain := by
  cases s with
  | options layer =>
    cases h
    exact plain.merge (HeaderMap.safe_iff_plain.mp sound)
  | header name value => exact Options.plain_of_withHeader plain h
  | params d | query d | body d =>
    cases h
    exact plain

theorem plain_of_follow {chain : List DraftStep} (sound : ∀ s ∈ chain, s.Sound) {o o' : Options}
    (plain : o.headers.Plain) (h : o.follow chain = .ok o') : o'.headers.Plain := by
  induction chain generalizing o with
  | nil =>
    cases h
    exact plain
  | cons s rest ih =>
    obtain ⟨hs, hrest⟩ := List.forall_mem_cons.mp sound
    rw [Options.follow_cons] at h
    obtain ⟨mid, hmid, h⟩ := Except.bind_eq_ok.mp h
    exact ih hrest (plain_of_onOptions hs plain hmid) h

/-- **A request has safe headers** if all that was put into it has: the options of the draft and of
its chain, the defaults of the client and the options of the sending. What the request brings itself
is looked at when it is prepared. -/
theorem safe_of_prepare {r q : Draft} {chain : List DraftStep} {client : Client}
    {sendOptions : Options} {request : TransportRequest} (start : r.options.headers.Safe)
    (sound : ∀ s ∈ chain, s.Sound) (defaults : client.defaults.headers.Safe)
    (sending : sendOptions.headers.Safe) (built : r.steps chain = .ok q)
    (prepared : q.prepare client sendOptions = .ok request) : request.headers.Safe := by
  rw [steps_eq, Except.map_eq_ok] at built
  obtain ⟨o, ho, rfl⟩ := built
  obtain ⟨u, contentType, body?, -, hcontentType, -, rfl⟩ := prepare_eq_ok_iff.mp prepared
  obtain ⟨hmime, rfl⟩ := contentTypeHeader_eq_ok_iff.mp hcontentType
  obtain ⟨hplain, -⟩ := HeaderMap.value?_eq_some_iff.mp hmime
  rw [HeaderMap.safe_iff_plain] at start defaults sending
  -- The content type is the lowest layer, and the others are put over it.
  have hlowest := HeaderMap.plain_empty.insert HeaderName.contentType hplain
  exact HeaderMap.safe_iff_plain.mpr
    (((hlowest.merge defaults).merge (plain_of_follow sound start ho)).merge sending)

end Draft

namespace HeaderMap

/-- **Headers are safe wherever they come together**: in options that were built, however deep, in
the defaults of every client and in every request. A header is set as it is given, or refused by the
name as given; and a receiver reads from the lines of safe headers the names with their values, and
nothing else, so no value can end a line early or begin another header. -/
theorem headers_safe :
    (∀ steps o, OptionStep.AllSound steps → Options.build steps = .ok o → o.headers.Safe) ∧
    (∀ (m : Making) base client, m.Sound → m.make base = .ok client →
      client.defaults.headers.Safe) ∧
    (∀ (r q : Draft) chain (client : Client) (sendOptions : Options) request,
      r.options.headers.Safe → (∀ s ∈ chain, DraftStep.Sound s) → client.defaults.headers.Safe →
      sendOptions.headers.Safe → r.steps chain = .ok q →
      q.prepare client sendOptions = .ok request → request.headers.Safe) ∧
    (∀ (o : Options) (b : ClientBuilder) (r : Draft) (name value : String),
      o.SetsHeader name value (o.withHeader name value) ∧
      b.defaults.SetsHeader name value ((b.defaultHeader name value).map (·.defaults)) ∧
      r.options.SetsHeader name value ((r.step (.header name value)).map (·.options))) ∧
    ∀ h : HeaderMap, h.Safe →
      (lines (wire h.fields)).map readField? = h.fields.map fun f => some (f.1.text, f.2) := by
  refine ⟨fun steps o sound => Options.safe_of_build sound,
    fun m base client sound => Making.safe_of_make sound,
    fun r q chain client sendOptions request => Draft.safe_of_prepare, ?_, ?_⟩
  · intro o b r name value
    refine ⟨o.setsHeader_withHeader name value, ?_, ?_⟩
    · unfold ClientBuilder.defaultHeader
      rw [Except.map_map_of_leftInverse fun _ => rfl]
      exact b.defaults.setsHeader_withHeader name value
    · unfold Draft.step
      rw [Except.map_map_of_leftInverse fun _ => rfl]
      exact r.options.setsHeader_withHeader name value
  · intro h safe
    refine map_readField?_lines fun f hf => ?_
    obtain ⟨e, he, hf⟩ := List.mem_flatMap.mp hf
    obtain ⟨v, hv, rfl⟩ := List.mem_map.mp hf
    exact safe.plain e he v hv

/-- A control character, in ASCII or behind it. -/
def IsControl (c : Char) : Prop := c.toNat < 0x20 ∨ (0x7F ≤ c.toNat ∧ c.toNat ≤ 0x9F)

/-- A control character behind ASCII is taken for a part of a value: the sign for a next line. -/
theorem nextLine_accepted :
    ∃ o, Options.build [.header "X-Note" "\u0085"] = .ok o ∧
      o.headers.valuesOf "x-note" = ["\u0085"] ∧ ∃ c ∈ "\u0085".toList, IsControl c ∧ c ≠ '\t' :=
  ⟨_, rfl, rfl, '\u0085', List.mem_singleton.mpr rfl, .inr (by decide), by decide⟩

/-- Two formats that are accepted. -/
def accepting : HeaderMap := (empty.append Draft.formats "text/csv").append Draft.formats "text/tab"

/-- A header map within options within options, and a header that is set in several cases. -/
def layering : List OptionStep :=
  [.header "Accept" "text/html", .merge [.merge [.headers accepting, .header "x-note" "a\tb"]],
    .header "X-NOTE" "\u00E9"]

/-- The options are safe, so is a client with them, and so is a request of it that says more. -/
theorem headers_safe_layering :
    ∃ o client q request, OptionStep.AllSound layering ∧ Options.build layering = .ok o ∧
      o.headers.Safe ∧ (Making.context o).make "app://h.example/" = .ok client ∧
      client.defaults.headers.Safe ∧ Draft.browsing.steps [.header "Range" "bytes=0-1"] = .ok q ∧
      q.prepare client {} = .ok request ∧ request.headers.Safe ∧
      (lines (wire request.headers.fields)).map readField? = [
        some ("content-type", "application/json"), some ("accept", "text/csv"),
        some ("accept", "text/tab"), some ("x-note", "\u00E9"), some ("range", "bytes=0-1")] := by
  obtain ⟨hbuild, hmake, hprepare, -, hlines⟩ := headers_safe
  have hempty : empty.Safe := safe_iff_plain.mpr plain_empty
  have haccepting : accepting.Safe := safe_iff_plain.mpr
    ((plain_empty.append Draft.formats (by decide)).append Draft.formats (by decide))
  have hsound : OptionStep.AllSound layering :=
    ⟨trivial, ⟨⟨haccepting, trivial, trivial⟩, trivial⟩, trivial, trivial⟩
  have hoptions := hbuild layering _ hsound rfl
  have hclient := hmake (.context _) "app://h.example/" _ hoptions rfl
  have hchain : ∀ s ∈ [DraftStep.header "Range" "bytes=0-1"], s.Sound := by
    intro s hs
    obtain rfl := List.mem_singleton.mp hs
    trivial
  have hrequest := hprepare Draft.browsing _ _ _ {} _ hempty hchain hclient hempty rfl rfl
  exact ⟨_, _, _, _, hsound, rfl, hoptions, rfl, hclient, rfl, rfl, hrequest,
    (hlines _ hrequest).trans rfl⟩

end HeaderMap
end RestClient
