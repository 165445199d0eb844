import RestClient.Options
import RestClient.Proofs.Except

/-!
# Layers over layers

Putting a layer of options over another is an operation with a unit: the empty options change
nothing, neither over others nor under them, and of three layers it does not matter which two are
put together first. Every step in building options is such a layer, put over what was built so far
(`Options.step_agree`). So a list of steps may be built in one go or in parts, each part from
nothing, that are put over one another (`Options.build_append`). A failure is kept as well: it is
the one of the first step that fails, however the steps are grouped.

What a header map says is the values of each name. The place of a name among the others says
nothing, and a merge may change it, so maps are compared by `HeaderMap.Same`. The timeout and the
passthrough options are compared as they are; the names of passthrough options stand in order, so
that there the values determine the whole (`Passthrough.eq_of_get?_eq`).
-/

namespace RestClient

/-! ## Header maps -/

namespace HeaderMap

/-- **Two maps say the same**: they have the same values under every name, in the same order. Only
the places of the names among each other may differ, which no receiver can rely on. -/
def Same (a b : HeaderMap) : Prop := ∀ n, a.values n = b.values n

variable {a a' b b' : HeaderMap}

theorem Same.refl (a : HeaderMap) : a.Same a := fun _ => rfl

theorem Same.symm (h : a.Same b) : b.Same a := fun n => (h n).symm

theorem Same.trans {c : HeaderMap} (hab : a.Same b) (hbc : b.Same c) : a.Same c :=
  fun n => (hab n).trans (hbc n)

/-- A name has the values of the layer if it has any there. -/
theorem values_merge_eq_ite (target layer : HeaderMap) (n : HeaderName) :
    (target.merge layer).values n
      = if layer.values n = [] then target.values n else layer.values n := by
  rw [values_merge]
  by_cases h : layer.values n = []
  · rw [if_pos h, if_neg fun hn => values_ne_nil_iff.mpr hn h]
  · rw [if_neg h, if_pos (values_ne_nil_iff.mp h)]

theorem Same.merge (ha : a.Same a') (hb : b.Same b') : (a.merge b).Same (a'.merge b') := by
  intro n
  rw [values_merge_eq_ite, values_merge_eq_ite, ha n, hb n]

/-- **Of three maps any two may be put together first.** The results say the same, though a name may
stand at another place. -/
theorem same_merge_merge (a b c : HeaderMap) :
    ((a.merge b).merge c).Same (a.merge (b.merge c)) := by
  intro n
  simp only [values_merge_eq_ite]
  by_cases hc : c.values n = []
  · simp only [if_pos hc]
  · simp only [if_neg hc]

theorem same_empty_merge (a : HeaderMap) : (empty.merge a).Same a := by
  intro n
  rw [values_merge_eq_ite]
  split
  · next h => rw [values_empty, h]
  · rfl

/-- Setting a header is putting a map of this header alone over the others. -/
theorem same_insert (a : HeaderMap) (n : HeaderName) (v : String) :
    (a.insert n v).Same (a.merge (empty.insert n v)) := by
  intro m
  rw [values_merge_eq_ite, values_insert, values_insert, values_empty]
  by_cases hm : m = n <;> simp [hm]

end HeaderMap

/-! ## Passthrough options -/

namespace Passthrough

theorem merge_assoc (p q r : Passthrough) : (p.merge q).merge r = p.merge (q.merge r) := by
  refine eq_of_get?_eq fun key => ?_
  rw [get?_merge, get?_merge, get?_merge, get?_merge, Option.or_assoc]

theorem empty_merge (p : Passthrough) : empty.merge p = p := by
  refine eq_of_get?_eq fun key => ?_
  rw [get?_merge]
  exact Option.or_none

end Passthrough

/-! ## Options -/

namespace Options

/-- **Two layers say the same**, headers up to the places of their names and all else exactly. -/
structure Same (a b : Options) : Prop where
  headers : a.headers.Same b.headers
  timeout : a.timeout? = b.timeout?
  passthrough : a.passthrough = b.passthrough

variable {a a' b b' : Options}

theorem Same.refl (a : Options) : a.Same a := ⟨.refl _, rfl, rfl⟩

theorem Same.symm (h : a.Same b) : b.Same a :=
  ⟨h.headers.symm, h.timeout.symm, h.passthrough.symm⟩

theorem Same.trans {c : Options} (hab : a.Same b) (hbc : b.Same c) : a.Same c :=
  ⟨hab.headers.trans hbc.headers, hab.timeout.trans hbc.timeout,
    hab.passthrough.trans hbc.passthrough⟩

instance : Trans Same Same Same := ⟨Same.trans⟩

theorem Same.merge (ha : a.Same a') (hb : b.Same b') : (a.merge b).Same (a'.merge b') where
  headers := ha.headers.merge hb.headers
  timeout := by
    show b.timeout?.or a.timeout? = b'.timeout?.or a'.timeout?
    rw [ha.timeout, hb.timeout]
  passthrough := by
    show a.passthrough.merge b.passthrough = a'.passthrough.merge b'.passthrough
    rw [ha.passthrough, hb.passthrough]

/-- **Of three layers any two may be put together first**, as this is so of the headers, of the
timeouts and of the passthrough options. -/
theorem same_merge_merge (a b c : Options) : ((a.merge b).merge c).Same (a.merge (b.merge c)) where
  headers := HeaderMap.same_merge_merge _ _ _
  timeout := (Option.or_assoc).symm
  passthrough := Passthrough.merge_assoc _ _ _

theorem same_empty_merge (a : Options) : (({} : Options).merge a).Same a where
  headers := HeaderMap.same_empty_merge _
  timeout := Option.or_none
  passthrough := Passthrough.empty_merge _

@[simp] theorem merge_empty (a : Options) : a.merge {} = a := rfl

/-! ## Steps are layers -/

/-- **A step puts a layer over the options**: the one that it makes of the empty options. It fails
on all options or on none, so the same steps may be taken here or be built elsewhere and merged. -/
theorem step_agree (o : Options) (s : OptionStep) :
    Except.Agree (fun o' layer => o'.Same (o.merge layer)) (o.step s) (Options.step {} s) := by
  cases s with
  | header name value =>
    unfold Options.step withHeader
    cases HeaderMap.parseHeader name value with
    | error f => exact .error _
    | ok parsed => exact .ok ⟨HeaderMap.same_insert _ _ _, rfl, rfl⟩
  | headers layer =>
    exact .ok ⟨(HeaderMap.Same.refl _).merge (HeaderMap.same_empty_merge layer).symm, rfl, rfl⟩
  | timeout ms => exact .ok ⟨.refl _, rfl, rfl⟩
  | passthrough name value => exact .ok ⟨.refl _, rfl, rfl⟩
  | merge steps =>
    -- The inner options are built from nothing either way, so how deep they nest does not matter.
    unfold Options.step
    cases Options.steps {} steps with
    | error e => exact .error e
    | ok inner => exact .ok ((Same.refl o).merge (same_empty_merge inner).symm)

theorem steps_append (o : Options) (s t : List OptionStep) :
    o.steps (s ++ t) = o.steps s >>= fun o => o.steps t := by
  induction s generalizing o with
  | nil => rfl
  | cons first rest ih =>
    show o.step first >>= (fun o => o.steps (rest ++ t)) = _
    simp only [ih, Options.steps, bind_assoc]

/-- **Steps put a layer over the options**: the one that is built of the same steps, which fails
where they fail. -/
theorem steps_agree (o : Options) (s : List OptionStep) :
    Except.Agree (fun o' layer => o'.Same (o.merge layer)) (o.steps s) (build s) := by
  induction s generalizing o with
  | nil => exact .ok (.refl o)
  | cons first rest ih =>
    -- The induction is used twice, for it speaks of the rest over any options.
    refine (step_agree o first).bind fun {o' layer} hfirst => ?_
    -- Both go on with the layer of the rest: over the options, and over the first layer.
    refine (ih o').trans ((ih layer).symm id) fun {p last q} hover hunder => ?_
    calc
      p.Same (o'.merge last) := hover
      Same _ ((o.merge layer).merge last) := hfirst.merge (.refl last)
      Same _ (o.merge (layer.merge last)) := same_merge_merge o layer last
      Same _ (o.merge q) := (Same.refl o).merge hunder.symm

/-- What options say decides what steps make of them say. -/
theorem steps_congr (h : a.Same b) (s : List OptionStep) :
    Except.Agree Same (a.steps s) (b.steps s) :=
  (steps_agree a s).trans ((steps_agree b s).symm id)
    fun ha hb => ha.trans ((h.merge (.refl _)).trans hb.symm)

/-! ## Building in parts -/

theorem build_append_eq (s t : List OptionStep) :
    build (s ++ t) = build s >>= fun o => o.steps t :=
  steps_append {} s t

theorem build_append_of_left {s : List OptionStep} {first : Options} (hs : build s = .ok first)
    (t : List OptionStep) :
    Except.Agree (fun o second => o.Same (first.merge second)) (build (s ++ t)) (build t) := by
  rw [build_append_eq, hs]
  exact steps_agree first t

theorem build_append_of_right {t : List OptionStep} {second : Options}
    (ht : build t = .ok second) (s : List OptionStep) :
    Except.Agree (fun o first => o.Same (first.merge second)) (build (s ++ t)) (build s) := by
  rw [build_append_eq]
  cases build s with
  | error e => exact .error e
  | ok first =>
    have hlayer := steps_agree first t
    rw [ht] at hlayer
    obtain ⟨o, ho, hsame⟩ := Except.agree_ok_iff.mp hlayer
    show Except.Agree _ (first.steps t) (.ok first)
    rw [ho]
    exact .ok hsame

/-- Building in two parts is building from each and putting the second over the first. -/
theorem build_append (s t : List OptionStep) :
    Except.Agree Same (build (s ++ t)) (do return (← build s).merge (← build t)) := by
  cases hs : build s with
  | error e =>
    rw [build_append_eq, hs]
    exact .error e
  | ok first =>
    show Except.Agree Same _ (build t >>= fun second => pure (first.merge second))
    rw [bind_pure_comp]
    exact (build_append_of_left hs t).map_right id

end Options
end RestClient
