import Mathlib.Data.List.Find
import RestClient.Proofs.Grammar

/-!
# Rendering is substitution

Rendering puts values in the places of names, once: a value is not looked at again, whatever braces
and slashes it holds. `substituted value ps` is the text of pieces whose names stand for values, and
`Renders` says of a segment that its text is one of these. It speaks of any row of pieces that
spells the segment, since all of them give one text (`substituted_merged`).

A segment that is not rendered is refused for one of three reasons (`Refuses`). The reasons exclude
each other: a value can only be missing in a segment that is a row of pieces, and only a text in
which no value is missing can be a dot segment. So it is fixed which of them is reported
(`renderSegment_eq_error_iff`), and over all segments the first one that is refused decides
(`render_substitutes`).
-/

namespace RestClient.Template

/-! ## Values in the places of names -/

/-- The value of a name, which is the first one if there are several. -/
def firstValue (values : List (String × String)) (name : String) : String :=
  (values.lookup name).getD ""

/-- **The text of pieces whose names stand for values**, one behind the other. It is made in one
pass, so nothing in a value is replaced again. -/
def substituted (value : String → String) (ps : List Piece) : List Char :=
  ps.flatMap fun
    | .literal text => text
    | .placeholder name => (value (String.ofList name)).toList

/-- A name that has a value. -/
def IsKnown (values : List (String × String)) (name : String) : Prop :=
  name ∈ values.map Prod.fst

theorem isKnown_iff {values : List (String × String)} {name : String} :
    IsKnown values name ↔ (values.lookup name).isSome = true := by
  unfold IsKnown
  rw [List.lookup_isSome_iff, List.mem_map]
  simp only [beq_iff_eq]
  exact exists_congr fun _ => and_congr_right fun _ => eq_comm

theorem not_isKnown_iff {values : List (String × String)} {name : String} :
    ¬IsKnown values name ↔ (values.lookup name).isNone = true := by
  rw [isKnown_iff, Bool.not_eq_true, Option.isSome_eq_false_iff]

theorem substituted_cons_literal (value : String → String) (t : List Char) (ps : List Piece) :
    substituted value (.literal t :: ps) = t ++ substituted value ps := rfl

theorem substituted_cons_placeholder (value : String → String) (n : List Char) (ps : List Piece) :
    substituted value (.placeholder n :: ps)
      = (value (String.ofList n)).toList ++ substituted value ps := rfl

theorem substituted_literalBefore (value : String → String) (text : List Char) (ps : List Piece) :
    substituted value (literalBefore text ps) = text ++ substituted value ps := by
  unfold literalBefore
  split
  · next h => rw [List.isEmpty_iff.mp h, List.nil_append]
  · rfl

/-- However literal text is cut, the text is the same. -/
theorem substituted_merged (value : String → String) (text : List Char) (ps : List Piece) :
    substituted value (merged text ps) = text ++ substituted value ps := by
  induction ps generalizing text with
  | nil => rw [merged, substituted_literalBefore]
  | cons p ps ih =>
    cases p with
    | literal t => rw [merged, ih, substituted_cons_literal, List.append_assoc]
    | placeholder n =>
      rw [merged, substituted_literalBefore, substituted_cons_placeholder, ih,
        substituted_cons_placeholder, List.nil_append]

theorem substituted_of_spells {value : String → String} {ps qs : List Piece} {segment : List Char}
    (hps : Spells ps segment) (hqs : Spells qs segment) :
    substituted value ps = substituted value qs := by
  have hread := (pieces_of_spells hps).symm.trans (pieces_of_spells hqs)
  have htext := substituted_merged value [] ps
  rw [Except.ok.inj hread, substituted_merged] at htext
  exact htext.symm

/-- The text depends on the values of the placeholders alone. -/
theorem substituted_congr {value other : String → String} {ps : List Piece}
    (h : ∀ n ∈ names ps, value n = other n) : substituted value ps = substituted other ps := by
  induction ps with
  | nil => rfl
  | cons p ps ih =>
    cases p with
    | literal t => rw [substituted_cons_literal, substituted_cons_literal, ih h]
    | placeholder n =>
      rw [names, List.forall_mem_cons] at h
      rw [substituted_cons_placeholder, substituted_cons_placeholder, h.1, ih h.2]

/-- **Filling pieces substitutes the values**, unless a name has none: then the first of these names
is reported, whether or not the segment would be a dot segment. -/
theorem fill_eq (values : List (String × String)) (ps : List Piece) :
    fill values ps =
      match (names ps).find? fun n => (values.lookup n).isNone with
      | none => .ok (substituted (firstValue values) ps)
      | some n => .error (.missing n) := by
  induction ps with
  | nil => rfl
  | cons p ps ih =>
    cases p with
    | literal t =>
      rw [fill, ih, names, substituted_cons_literal]
      cases (names ps).find? fun n => (values.lookup n).isNone <;> rfl
    | placeholder n =>
      rw [fill, ih, names, List.find?_cons, substituted_cons_placeholder, firstValue]
      cases values.lookup (String.ofList n) with
      | none => rfl
      | some v =>
        cases (names ps).find? fun n => (values.lookup n).isNone <;> rfl

/-! ## Segments -/

/-- **A segment becomes a text**: each name in it has a value, and stands for it. What a name stands
in does not become a dot segment. -/
inductive Renders (values : List (String × String)) (segment : List Char) : String → Prop where
  | intro {ps} (spells : Spells ps segment) (known : ∀ n ∈ names ps, IsKnown values n)
      (kept : names ps ≠ [] → isDotSegment (substituted (firstValue values) ps) = false) :
      Renders values segment (String.ofList (substituted (firstValue values) ps))

/-- **A segment is refused**: it is no row of pieces, or a name has no value, or names have turned
it into a dot segment. It is the first name without a value that is reported, and of a dot segment
the last name. -/
inductive Refuses (values : List (String × String)) (segment : List Char) : Error → Prop where
  | malformed {f} (fault : HasFault f segment) :
      Refuses values segment (.malformed f (String.ofList segment))
  | missing {ps front n back} (spells : Spells ps segment) (split : names ps = front ++ n :: back)
      (known : ∀ m ∈ front, IsKnown values m) (unknown : ¬IsKnown values n) :
      Refuses values segment (.missing n)
  | dotSegment {ps front n} (spells : Spells ps segment) (known : ∀ m ∈ names ps, IsKnown values m)
      (last : names ps = front ++ [n])
      (dots : isDotSegment (substituted (firstValue values) ps) = true) :
      Refuses values segment
        (.dotSegment n (String.ofList (substituted (firstValue values) ps)))

variable {values : List (String × String)} {segment : List Char}

theorem fill_merged_of_known {ps : List Piece} (h : ∀ n ∈ names ps, IsKnown values n) :
    fill values (merged [] ps) = .ok (substituted (firstValue values) ps) := by
  have hnone : (names ps).find? (fun n => (values.lookup n).isNone) = none := by
    rw [List.find?_eq_none]
    intro n hn
    rw [Bool.not_eq_true, Option.isNone_eq_false_iff]
    exact isKnown_iff.mp (h n hn)
  rw [fill_eq, names_merged, hnone, substituted_merged, List.nil_append]

theorem segmentPieces_of_spells {ps : List Piece} (h : Spells ps segment) :
    segmentPieces segment = .ok (merged [] ps) :=
  segmentPieces_eq_ok.mpr (pieces_of_spells h)

theorem Renders.isSegment {text : String} (h : Renders values segment text) :
    IsSegment segment := by
  obtain ⟨spells, -, -⟩ := h
  exact ⟨_, spells⟩

/-- What is left to decide where no value is missing. -/
theorem renderSegment_of_known {ps : List Piece} (spells : Spells ps segment)
    (known : ∀ n ∈ names ps, IsKnown values n) :
    renderSegment values segment =
      match (names ps).getLast? with
      | some n =>
        if isDotSegment (substituted (firstValue values) ps) then
          .error (.dotSegment n (String.ofList (substituted (firstValue values) ps)))
        else .ok (String.ofList (substituted (firstValue values) ps))
      | none => .ok (String.ofList (substituted (firstValue values) ps)) := by
  unfold renderSegment
  rw [segmentPieces_of_spells spells]
  show (fill values _ >>= _) = _
  rw [fill_merged_of_known known, names_merged]
  rfl

theorem renderSegment_of_renders {text : String} (h : Renders values segment text) :
    renderSegment values segment = .ok text := by
  obtain ⟨spells, known, kept⟩ := h
  rw [renderSegment_of_known spells known]
  split
  · next hlast =>
    have hne : names _ ≠ [] := fun he => by rw [he] at hlast; cases hlast
    rw [kept hne, if_neg Bool.false_ne_true]
  · rfl

theorem renderSegment_of_refuses {e : Error} (h : Refuses values segment e) :
    renderSegment values segment = .error e := by
  cases h with
  | malformed fault =>
    unfold renderSegment
    rw [segmentPieces_eq_error_iff.mpr ⟨_, fault, rfl⟩]
    rfl
  | @missing ps front n back spells split known unknown =>
    have hfirst : (names (merged [] ps)).find? (fun n => (values.lookup n).isNone) = some n := by
      rw [names_merged, List.find?_eq_some_iff_append]
      refine ⟨not_isKnown_iff.mp unknown, front, back, split, fun m hm => ?_⟩
      simpa using isKnown_iff.mp (known m hm)
    unfold renderSegment
    rw [segmentPieces_of_spells spells]
    show (fill values _ >>= _) = _
    rw [fill_eq, hfirst]
    rfl
  | dotSegment spells known last dots =>
    rw [renderSegment_of_known spells known, last, List.getLast?_concat]
    exact if_pos dots

/-- **A segment becomes a text, or it is refused**, so the rules for the two leave no segment
out. -/
theorem renders_or_refuses (values : List (String × String)) (segment : List Char) :
    (∃ text, Renders values segment text) ∨ ∃ e, Refuses values segment e := by
  rcases isSegment_or_hasFault segment with ⟨ps, spells⟩ | ⟨f, fault⟩
  · by_cases known : ∀ n ∈ names ps, IsKnown values n
    · by_cases kept : names ps ≠ [] → isDotSegment (substituted (firstValue values) ps) = false
      · exact .inl ⟨_, .intro spells known kept⟩
      · rw [Classical.not_imp, Bool.not_eq_false] at kept
        obtain ⟨hne, dots⟩ := kept
        have last := (List.dropLast_append_getLast hne).symm
        exact .inr ⟨_, .dotSegment spells known last dots⟩
    · -- the first name without a value is the one that is reported
      cases hfirst : (names ps).find? fun n => (values.lookup n).isNone with
      | none =>
        refine absurd (fun n hn => isKnown_iff.mpr ?_) known
        simpa using List.find?_eq_none.mp hfirst n hn
      | some n =>
        obtain ⟨hn, front, back, split, hfront⟩ := List.find?_eq_some_iff_append.mp hfirst
        refine .inr ⟨_, .missing spells split (fun m hm => ?_) (not_isKnown_iff.mpr hn)⟩
        exact isKnown_iff.mpr (by simpa using hfront m hm)
  · exact .inr ⟨_, .malformed fault⟩

theorem renderSegment_eq_ok_iff {text : String} :
    renderSegment values segment = .ok text ↔ Renders values segment text := by
  refine ⟨fun h => ?_, renderSegment_of_renders⟩
  rcases renders_or_refuses values segment with ⟨t, ht⟩ | ⟨e, he⟩
  · rw [renderSegment_of_renders ht] at h
    cases h
    exact ht
  · rw [renderSegment_of_refuses he] at h
    cases h

theorem renderSegment_eq_error_iff {e : Error} :
    renderSegment values segment = .error e ↔ Refuses values segment e := by
  refine ⟨fun h => ?_, renderSegment_of_refuses⟩
  rcases renders_or_refuses values segment with ⟨t, ht⟩ | ⟨d, hd⟩
  · rw [renderSegment_of_renders ht] at h
    cases h
  · rw [renderSegment_of_refuses hd] at h
    cases h
    exact hd

/-- It does not matter in which row of pieces a segment is taken. -/
theorem exists_renders_iff {ps : List Piece} (spells : Spells ps segment) :
    (∃ text, Renders values segment text) ↔ (∀ n ∈ names ps, IsKnown values n) ∧
      (names ps ≠ [] → isDotSegment (substituted (firstValue values) ps) = false) := by
  refine ⟨fun ⟨text, h⟩ => ?_, fun ⟨known, kept⟩ => ⟨_, .intro spells known kept⟩⟩
  obtain ⟨others, known, kept⟩ := h
  rw [names_of_spells spells others, substituted_of_spells spells others]
  exact ⟨known, kept⟩

/-- Other values give the same, if each name that stands in the segment has the same one. -/
theorem renderSegment_congr {others : List (String × String)}
    (h : ∀ ps, Spells ps segment → ∀ n ∈ names ps, values.lookup n = others.lookup n) :
    renderSegment values segment = renderSegment others segment := by
  rcases isSegment_or_hasFault segment with ⟨ps, spells⟩ | ⟨f, fault⟩
  · have hlookup := h ps spells
    have hfind : (names ps).find? (fun n => (values.lookup n).isNone)
        = (names ps).find? fun n => (others.lookup n).isNone :=
      List.find?_congr fun n hn => by rw [hlookup n hn]
    have htext : substituted (firstValue values) ps = substituted (firstValue others) ps :=
      substituted_congr fun n hn => by rw [firstValue, hlookup n hn, firstValue]
    unfold renderSegment
    rw [segmentPieces_of_spells spells]
    show (fill values _ >>= _) = (fill others _ >>= _)
    rw [fill_eq, fill_eq, names_merged, hfind, substituted_merged, substituted_merged, htext]
  · rw [renderSegment_of_refuses (.malformed fault), renderSegment_of_refuses (.malformed fault)]

/-! ## Templates -/

variable {template : String}

theorem render_eq_ok_iff_renders {texts : List String} :
    render template values = .ok texts ↔
      List.Forall₂ (Renders values) (segments template) texts := by
  rw [render_eq_ok_iff]
  simp only [renderSegment_eq_ok_iff]

theorem render_eq_error_iff {e : Error} :
    render template values = .error e ↔
      ∃ front bad back, segments template = front ++ bad :: back ∧
        (∀ s ∈ front, ∃ text, Renders values s text) ∧ Refuses values bad e := by
  unfold render
  rw [renderSegments_eq_mapM, Except.mapM_eq_error_iff]
  simp only [renderSegment_eq_ok_iff, renderSegment_eq_error_iff]

theorem exists_render_iff :
    (∃ texts, render template values = .ok texts) ↔
      ∀ s ∈ segments template, ∃ text, Renders values s text := by
  unfold render
  rw [renderSegments_eq_mapM, Except.exists_mapM_eq_ok_iff]
  simp only [renderSegment_eq_ok_iff]

/-- A template lists the names that stand in its segments. -/
theorem mem_flatMap_names_iff {rows : List (List Piece)} {ss : List (List Char)}
    (h : List.Forall₂ Spells rows ss) {n : String} :
    n ∈ rows.flatMap names ↔ ∃ s ∈ ss, ∃ ps, Spells ps s ∧ n ∈ names ps := by
  induction h with
  | nil => simp
  | @cons ps s rows ss hps _ ih =>
    rw [List.flatMap_cons, List.mem_append, ih, List.exists_mem_cons_iff]
    refine or_congr_left ⟨fun hn => ⟨ps, hps, hn⟩, ?_⟩
    rintro ⟨qs, hqs, hn⟩
    rwa [names_of_spells hps hqs]

theorem mem_placeholders_iff {ns : List String} (h : placeholders template = .ok ns) {n : String} :
    n ∈ ns ↔ ∃ s ∈ segments template, ∃ ps, Spells ps s ∧ n ∈ names ps := by
  obtain ⟨rows, hrows, rfl⟩ := placeholders_eq_ok_iff.mp h
  exact mem_flatMap_names_iff hrows

theorem render_congr {others : List (String × String)}
    (h : ∀ s ∈ segments template, ∀ ps, Spells ps s → ∀ n ∈ names ps,
      values.lookup n = others.lookup n) :
    render template values = render template others := by
  unfold render
  generalize segments template = ss at h
  induction ss with
  | nil => rfl
  | cons s ss ih =>
    rw [List.forall_mem_cons] at h
    rw [renderSegments, renderSegments, renderSegment_congr h.1, ih h.2]

/-- **Rendering is substitution in one pass.** It succeeds just when the template can be read, each
of the names that it lists has a value, and no segment with a name comes out as a dot segment. Then
each segment of the template gives one text, in which the first value of a name stands for it, and
what looks like a placeholder in a value stays as it is. Otherwise the first segment that is refused
decides, with the reason for which it is. What the names of the template have no part in does not
count. -/
theorem render_substitutes :
    (∀ template values, (∃ texts, render template values = .ok texts) ↔
      ∃ ns, placeholders template = .ok ns ∧ (∀ n ∈ ns, IsKnown values n) ∧
        ∀ s ∈ segments template, ∀ ps, Spells ps s → names ps ≠ [] →
          isDotSegment (substituted (firstValue values) ps) = false) ∧
    (∀ template values texts, render template values = .ok texts ↔
      List.Forall₂ (Renders values) (segments template) texts) ∧
    (∀ template values texts, render template values = .ok texts →
      texts.length = (segments template).length) ∧
    (∀ template values e, render template values = .error e ↔
      ∃ front bad back, segments template = front ++ bad :: back ∧
        (∀ s ∈ front, ∃ text, Renders values s text) ∧ Refuses values bad e) ∧
    (∀ template values others, (∀ s ∈ segments template, ∀ ps, Spells ps s → ∀ n ∈ names ps,
        values.lookup n = others.lookup n) →
      render template values = render template others) ∧
    ∀ template ns values others, placeholders template = .ok ns →
      (∀ n ∈ ns, values.lookup n = others.lookup n) →
      render template values = render template others := by
  refine ⟨fun template values => ?_, fun _ _ _ => render_eq_ok_iff_renders,
    fun template values texts h => (render_eq_ok_iff_renders.mp h).length_eq.symm,
    fun _ _ _ => render_eq_error_iff, fun _ _ _ => render_congr,
    fun template ns values others hns hlookup => ?_⟩
  · rw [exists_render_iff]
    constructor
    · intro h
      obtain ⟨ns, hns⟩ := exists_placeholders_iff.mpr fun s hs =>
        (h s hs).elim fun _ hs => hs.isSegment
      refine ⟨ns, hns, fun n hn => ?_, fun s hs ps hps =>
        ((exists_renders_iff hps).mp (h s hs)).2⟩
      obtain ⟨s, hs, ps, hps, hn⟩ := (mem_placeholders_iff hns).mp hn
      exact ((exists_renders_iff hps).mp (h s hs)).1 n hn
    · rintro ⟨ns, hns, known, kept⟩ s hs
      obtain ⟨ps, hps⟩ := exists_placeholders_iff.mp ⟨ns, hns⟩ s hs
      refine (exists_renders_iff hps).mpr ⟨fun n hn => known n ?_, kept s hs ps hps⟩
      exact (mem_placeholders_iff hns).mpr ⟨s, hs, ps, hps, hn⟩
  · refine render_congr fun s hs ps hps n hn => hlookup n ?_
    exact (mem_placeholders_iff hns).mpr ⟨s, hs, ps, hps, hn⟩

/-- Values one of which looks like a piece of a template. -/
def lookalikes : List (String × String) :=
  [("name", "a/\x7bext\x7d"), ("ext", "json"), ("name", "..")]

/-- A value that looks like a placeholder stays as it is. A later value of a name counts for
nothing, in a template that cannot be read as well, and neither does a value of another name. -/
theorem render_substitutes_lookalikes :
    render "/files/\x7bname\x7d.\x7bext\x7d" lookalikes
        = .ok ["files", "a/\x7bext\x7d.json"] ∧
      ["files", "a/\x7bext\x7d.json"].length
        = (segments "/files/\x7bname\x7d.\x7bext\x7d").length ∧
      render "/files/\x7bname\x7d.\x7bext\x7d" lookalikes
        = render "/files/\x7bname\x7d.\x7bext\x7d"
          [("other", "."), ("ext", "json"), ("name", "a/\x7bext\x7d")] ∧
      render "/\x7bname\x7d/\x7b" lookalikes = render "/\x7bname\x7d/\x7b" (lookalikes.take 2) := by
  obtain ⟨-, -, hlength, -, hany, hlisted⟩ := render_substitutes
  have hns : placeholders "/files/\x7bname\x7d.\x7bext\x7d" = .ok ["name", "ext"] := rfl
  have hrender : render "/files/\x7bname\x7d.\x7bext\x7d" lookalikes
      = .ok ["files", "a/\x7bext\x7d.json"] := rfl
  have hlater : ∀ n, lookalikes.lookup n = (lookalikes.take 2).lookup n := fun n => by
    by_cases hn : n = "name"
    · subst hn
      rfl
    · simp [lookalikes, List.lookup_cons, beq_false_of_ne hn]
  exact ⟨hrender, hlength _ _ _ hrender, hlisted _ _ _ _ hns (by decide),
    hany _ _ _ fun _ _ _ _ n _ => hlater n⟩

end RestClient.Template
