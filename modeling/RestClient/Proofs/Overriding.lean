import RestClient.Proofs.Merging

/-!
# Headers over headers

A header map over another decides about the names in it and about no others, whatever the case of
their letters: such a name has the values of the upper map, all of them and in their order, every
other name keeps those of the lower one, and no name comes in addition (`has_merge`).

That is all there is to it, for maps are compared by what they say (`HeaderMap.Same`). So the laws
of putting maps over one another are read off the values of a single name: it does not matter which
two of three maps are put together first, a map that is put over another twice is put over it once,
the empty map changes nothing, and maps without a common name may change places
(`merge_overrides`).
-/

namespace RestClient.HeaderMap

variable {a b : HeaderMap}

instance : Trans Same Same Same := ⟨Same.trans⟩

/-- **Two maps without a common name.** Only of such maps the order does not matter, since of a name
that both have the upper map decides. -/
def Apart (a b : HeaderMap) : Prop := ∀ n ∈ a.names, n ∉ b.names

instance (a b : HeaderMap) : Decidable (a.Apart b) :=
  inferInstanceAs (Decidable (∀ n ∈ a.names, n ∉ b.names))

theorem Apart.values_eq_nil (h : a.Apart b) (n : HeaderName) :
    a.values n = [] ∨ b.values n = [] := by
  by_cases ha : a.values n = []
  · exact .inl ha
  · right
    by_contra hb
    exact h n (values_ne_nil_iff.mp ha) (values_ne_nil_iff.mp hb)

/-- The names of a map over another are those of both. -/
theorem has_merge (target layer : HeaderMap) (name : String) :
    (target.merge layer).has name = (layer.has name || target.has name) := by
  rw [Bool.eq_iff_iff, Bool.or_eq_true, ← valuesOf_ne_nil_iff, ← valuesOf_ne_nil_iff (h := target),
    valuesOf_merge]
  by_cases h : layer.has name = true
  · simp [h, valuesOf_ne_nil_iff]
  · simp [h]

/-- A map that is already over another changes nothing when it is put over it again. -/
theorem same_merge_self (a b : HeaderMap) : ((a.merge b).merge b).Same (a.merge b) := by
  intro n
  rw [values_merge_eq_ite (a.merge b), values_merge_eq_ite]
  split
  · rfl
  · rfl

/-- **Maps without a common name may change places**, over whatever they are put: no name is decided
about twice. -/
theorem Apart.same_merge_comm (h : a.Apart b) (base : HeaderMap) :
    ((base.merge a).merge b).Same ((base.merge b).merge a) := by
  intro n
  simp only [values_merge_eq_ite]
  rcases h.values_eq_nil n with ha | hb
  · simp only [if_pos ha]
  · simp only [if_pos hb]

/-- **A map over another overrides it name by name**: each name of the upper map has the values that
it has there, every other name those of the lower map, and there is no further name. Hence the laws
of layers, with the empty map as the one that changes nothing: putting maps over one another is
associative, doing it twice is doing it once, and maps without a common name may change places, over
whatever they are put. -/
theorem merge_overrides (target layer : HeaderMap) :
    (∀ name, layer.has name = true →
      (target.merge layer).valuesOf name = layer.valuesOf name) ∧
    (∀ name, layer.has name = false →
      (target.merge layer).valuesOf name = target.valuesOf name) ∧
    (∀ name, (target.merge layer).has name = (layer.has name || target.has name)) ∧
    (∀ top, ((target.merge layer).merge top).Same (target.merge (layer.merge top))) ∧
    ((target.merge layer).merge layer).Same (target.merge layer) ∧
    (target.merge empty).Same target ∧ (empty.merge target).Same target ∧
    (target.Apart layer → (target.merge layer).Same (layer.merge target) ∧
      ∀ base : HeaderMap,
        ((base.merge target).merge layer).Same ((base.merge layer).merge target)) := by
  refine ⟨fun name h => ?_, fun name h => ?_, has_merge target layer,
    same_merge_merge target layer, same_merge_self target layer, .refl target,
    same_empty_merge target, fun h => ⟨?_, h.same_merge_comm⟩⟩
  · rw [valuesOf_merge, if_pos h]
  · rw [valuesOf_merge, h]
    rfl
  · -- Over the empty map both orders are the maps themselves.
    calc
      (target.merge layer).Same ((empty.merge target).merge layer) :=
        (same_empty_merge target).symm.merge (.refl layer)
      Same _ ((empty.merge layer).merge target) := h.same_merge_comm empty
      Same _ (layer.merge target) := (same_empty_merge layer).merge (.refl target)

/-! ## Two values under one -/

/-- The name of the header that says what a response depends on. -/
def vary : HeaderName := ⟨"vary", by decide⟩

/-- The name of a header that nothing else speaks of. -/
def kept : HeaderName := ⟨"x-kept", by decide⟩

/-- Two values of one name under a single other one: the name loses both, whatever the case of its
letters, and another header stays. Put over that header alone, they may change places with it. -/
theorem merge_overrides_vary :
    let target := ((empty.append vary "accept").append vary "origin").insert kept "yes"
    let layer := empty.insert vary "cookie"
    let other := empty.insert kept "no"
    layer.has "Vary" = true ∧ (target.merge layer).valuesOf "VARY" = ["cookie"] ∧
    layer.has "X-Kept" = false ∧ (target.merge layer).valuesOf "x-kept" = ["yes"] ∧
    (target.merge layer).has "x-other" = false ∧
    other.Apart layer ∧ (other.merge layer).Same (layer.merge other) := by
  intro target layer other
  obtain ⟨hlayer, htarget, hnames, -⟩ := merge_overrides target layer
  obtain ⟨-, -, -, -, -, -, -, happart⟩ := merge_overrides other layer
  have apart : other.Apart layer := by decide
  refine ⟨by decide, ?_, by decide, ?_, ?_, apart, (happart apart).1⟩
  · exact (hlayer "VARY" (by decide)).trans (by decide)
  · exact (htarget "x-kept" (by decide)).trans (by decide)
  · exact (hnames "x-other").trans (by decide)

end RestClient.HeaderMap
