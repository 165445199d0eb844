import RestClient.Proofs.Except
import RestClient.Template

/-!
# What rendering a template gives

Rendering gives one text for each segment of the template, in order
(`render_eq_ok_iff`). A segment without placeholders is its own text (`renderSegment_of_literal`),
because the pieces of a segment written back are the segment (`written_pieces`). And a text that a
placeholder went into is not a dot segment (`not_isDotSegment_of_renderSegment`).
-/

namespace RestClient.Template

/-! ## Pieces written back -/

/-- A piece as it stands in a template. -/
def Piece.written : Piece → List Char
  | .literal text => text
  | .placeholder name => '{' :: (name ++ ['}'])

/-- Pieces as they stand in a template. -/
def written (ps : List Piece) : List Char := ps.flatMap Piece.written

@[simp] theorem written_cons (p : Piece) (ps : List Piece) :
    written (p :: ps) = p.written ++ written ps := rfl

@[simp] theorem written_literalBefore (text : List Char) (ps : List Piece) :
    written (literalBefore text ps) = text ++ written ps := by
  unfold literalBefore
  split
  · next h => simp [List.isEmpty_iff.mp h]
  · rfl

/-- The two states of the reader lose nothing: outside of braces the text since the last piece and
the rest are written back, inside of braces the opening brace as well. -/
theorem written_outside_inside (cs : List Char) :
    (∀ text ps, outside text cs = .ok ps → written ps = text ++ cs) ∧
    (∀ name ps, inside name cs = .ok ps → written ps = '{' :: (name ++ cs)) := by
  induction cs with
  | nil =>
    constructor
    · intro text ps h
      rw [outside] at h
      cases h
      rw [written_literalBefore]
      rfl
    · intro name ps h
      rw [inside] at h
      cases h
  | cons c cs ih =>
    constructor
    · intro text ps h
      rw [outside] at h
      split at h
      · cases h
      · split at h
        · next hc =>
          obtain ⟨qs, hq, rfl⟩ := Except.map_eq_ok.mp h
          rw [written_literalBefore, ih.2 [] qs hq, hc, List.nil_append]
        · rw [ih.1 _ ps h, List.append_assoc, List.singleton_append]
    · intro name ps h
      rw [inside] at h
      split at h
      · next hc =>
        split at h
        · obtain ⟨qs, hq, rfl⟩ := Except.map_eq_ok.mp h
          rw [written_cons, ih.1 [] qs hq, hc]
          simp [Piece.written]
        · cases h
      · rw [ih.2 _ ps h, List.append_assoc, List.singleton_append]

/-- **The pieces of a segment, written back, are the segment.** Nothing is lost in taking a segment
apart, and nothing is added. -/
theorem written_pieces {segment : List Char} {ps : List Piece} (h : pieces segment = .ok ps) :
    written ps = segment :=
  (written_outside_inside segment).1 [] ps h

/-! ## Filling -/

/-- Without placeholders there is nothing to fill. -/
theorem fill_of_names_nil (values : List (String × String)) {ps : List Piece}
    (h : names ps = []) : fill values ps = .ok (written ps) := by
  induction ps with
  | nil => rfl
  | cons p ps ih =>
    cases p with
    | literal t =>
      rw [fill, ih h]
      rfl
    | placeholder n => cases h

/-! ## Segments -/

/-- A segment of literal text alone: it can be read, and it has no placeholders. A segment with a
fault is not meant, although it has none either. -/
def IsLiteral (segment : List Char) : Prop := ∃ ps, pieces segment = .ok ps ∧ names ps = []

theorem segmentPieces_eq_ok {segment : List Char} {ps : List Piece} :
    segmentPieces segment = .ok ps ↔ pieces segment = .ok ps :=
  Except.mapError_eq_ok

/-- **Literal text is rendered as it is**, even if it is a dot segment: only what came of a
placeholder is looked at. -/
theorem renderSegment_of_literal (values : List (String × String)) {segment : List Char}
    (h : IsLiteral segment) : renderSegment values segment = .ok (String.ofList segment) := by
  obtain ⟨ps, hps, hnames⟩ := h
  unfold renderSegment
  rw [segmentPieces_eq_ok.mpr hps, ← written_pieces hps]
  show (fill values ps >>= _) = _
  rw [fill_of_names_nil values hnames, hnames]
  rfl

/-- **What a placeholder went into is not a dot segment**, whatever literal text stands around the
placeholder. -/
theorem not_isDotSegment_of_renderSegment {values : List (String × String)}
    {segment : List Char} {text : String} (hlit : ¬IsLiteral segment)
    (h : renderSegment values segment = .ok text) : isDotSegment text.toList = false := by
  unfold renderSegment at h
  obtain ⟨ps, hps, h⟩ := Except.bind_eq_ok.mp h
  obtain ⟨cs, -, h⟩ := Except.bind_eq_ok.mp h
  have hnames : names ps ≠ [] := fun hn => hlit ⟨ps, segmentPieces_eq_ok.mp hps, hn⟩
  rw [List.getLast?_eq_some_getLast hnames] at h
  dsimp only at h
  split at h
  · cases h
  · next hdot =>
    cases h
    simpa using hdot

/-- Rendering segments renders each of them. -/
theorem renderSegments_eq_mapM (values : List (String × String)) (ss : List (List Char)) :
    renderSegments values ss = ss.mapM (renderSegment values) := by
  induction ss with
  | nil => rfl
  | cons s ss ih => rw [renderSegments, List.mapM_cons, ih]

/-- **Rendering gives one text for each segment of the template**, in order, and each of them is
that of its own segment, whatever the others are. -/
theorem render_eq_ok_iff {template : String} {values : List (String × String)}
    {texts : List String} :
    render template values = .ok texts ↔
      List.Forall₂ (fun s t => renderSegment values s = .ok t) (segments template) texts := by
  unfold render
  rw [renderSegments_eq_mapM, Except.mapM_eq_ok_iff]

/-- A template without placeholders is rendered as it is, whatever the values. -/
theorem render_of_literal {template : String} (h : ∀ s ∈ segments template, IsLiteral s)
    (values : List (String × String)) :
    render template values = .ok ((segments template).map String.ofList) := by
  rw [render_eq_ok_iff, List.forall₂_map_right_iff, List.forall₂_same]
  exact fun s hs => renderSegment_of_literal values (h s hs)

/-- A template has a segment. -/
theorem segments_ne_nil (template : String) : segments template ≠ [] := by
  unfold segments
  split <;> exact Text.split_ne_nil _ _

end RestClient.Template
