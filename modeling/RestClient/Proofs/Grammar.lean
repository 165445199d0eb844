import Mathlib.Data.List.Chain
import Mathlib.Data.List.TakeWhile
import RestClient.Proofs.Rendering

/-!
# The grammar of templates

A segment of a template is a row of pieces written one after the other: literal text without
braces, and names in braces, which are not empty and hold no braces themselves. `Spells ps segment`
says that the segment is such a row. A segment that is none of them has one of three faults, and
`HasFault` says where: behind a row of pieces, at the first brace that does not fit.

A segment may be a row in several ways, since literal text can be cut anywhere. Reading it finds the
row in which nothing can be put together any more (`pieces_eq_ok_iff`), and all rows have the same
placeholders. So a template can be read just when each of its segments is a row, and if it cannot,
the first one that is none is to blame (`placeholders_grammar`).

`pieces` reads character by character. `scan` reads in turns instead, each from one brace to the
end of the placeholder that it opens. What is left gets shorter in every turn, so the turns come to
an end, with the same pieces (`scan_eq_some`).
-/

namespace RestClient.Template

/-! ## Rows of pieces -/

/-- A text without braces. -/
def IsBraceless (cs : List Char) : Prop := '{' ∉ cs ∧ '}' ∉ cs

/-- **What a template may hold**: literal text without braces, and names without braces that are not
empty. There is no way to write a brace that stands for itself. -/
def Piece.IsSound : Piece → Prop
  | .literal text => IsBraceless text
  | .placeholder name => name ≠ [] ∧ IsBraceless name

/-- **The segment is the row of these pieces**, one written behind the other, each of them sound.
The grammar of templates is this relation; the reader of pieces does not come in. -/
structure Spells (ps : List Piece) (segment : List Char) : Prop where
  sound : ∀ p ∈ ps, p.IsSound
  written_eq : written ps = segment

/-- **A segment that is a row of pieces**, without a word about how it is read. By `Spells` it has
no brace that is not around a name. -/
def IsSegment (segment : List Char) : Prop := ∃ ps, Spells ps segment

/-- A piece that is literal text. -/
def Piece.IsLiteralText (p : Piece) : Prop := ∃ text, p = .literal text

/-- **Pieces that cannot be fewer**: no literal text is empty, and no two stand side by side. Of the
rows that spell a segment one is of this kind. -/
structure IsMerged (ps : List Piece) : Prop where
  noEmpty : .literal [] ∉ ps
  noneBeside : ps.IsChain fun p q => ¬(p.IsLiteralText ∧ q.IsLiteralText)

/-- **What stands where a segment stops being a row of pieces**: a brace that closes nothing, one
that is not closed, or a pair around what is no name. -/
def Fault.Stands : Fault → List Char → Prop
  | .unmatched, cs => ∃ rest, cs = '}' :: rest
  | .unclosed, cs => ∃ rest, cs = '{' :: rest ∧ '}' ∉ rest
  | .badName, cs => ∃ name rest, cs = '{' :: (name ++ '}' :: rest) ∧ '}' ∉ name ∧
      (name = [] ∨ '{' ∈ name)

/-- **A segment with a fault**: behind a row of pieces a brace does not fit, and which fault it is
depends on the brace and on what follows it. -/
def HasFault (f : Fault) (segment : List Char) : Prop :=
  ∃ ps rest, (∀ p ∈ ps, p.IsSound) ∧ segment = written ps ++ rest ∧ f.Stands rest

theorem goodName_eq_true_iff {name : List Char} :
    goodName name = true ↔ name ≠ [] ∧ '{' ∉ name := by
  unfold goodName
  rw [Bool.and_eq_true, Bool.not_eq_true', Bool.not_eq_true', List.isEmpty_eq_false_iff,
    ← Bool.not_eq_true, List.contains_iff_mem]

theorem goodName_eq_false_iff {name : List Char} :
    goodName name = false ↔ name = [] ∨ '{' ∈ name := by
  rw [← Bool.not_eq_true, goodName_eq_true_iff, not_and_or, not_not, not_not]

/-! ## Putting literal text together -/

/-- The same pieces behind some text, with literal text that stands together as one piece. -/
def merged (text : List Char) : List Piece → List Piece
  | [] => literalBefore text []
  | .literal t :: ps => merged (text ++ t) ps
  | .placeholder n :: ps => literalBefore text (.placeholder n :: merged [] ps)

@[simp] theorem names_literalBefore (text : List Char) (ps : List Piece) :
    names (literalBefore text ps) = names ps := by
  unfold literalBefore
  split <;> rfl

theorem mem_literalBefore {text : List Char} {ps : List Piece} {p : Piece} :
    p ∈ literalBefore text ps ↔ text ≠ [] ∧ p = .literal text ∨ p ∈ ps := by
  unfold literalBefore
  split
  · next h => simp [List.isEmpty_iff.mp h]
  · next h =>
    rw [List.isEmpty_iff] at h
    simp [h]

theorem names_merged (text : List Char) (ps : List Piece) : names (merged text ps) = names ps := by
  induction ps generalizing text with
  | nil => rw [merged, names_literalBefore]
  | cons p ps ih =>
    cases p with
    | literal t => rw [merged, ih, names]
    | placeholder n => rw [merged, names_literalBefore, names, names, ih]

theorem written_merged (text : List Char) (ps : List Piece) :
    written (merged text ps) = text ++ written ps := by
  induction ps generalizing text with
  | nil => rw [merged, written_literalBefore]
  | cons p ps ih =>
    cases p with
    | literal t => rw [merged, ih, written_cons, List.append_assoc, Piece.written]
    | placeholder n => rw [merged, written_literalBefore, written_cons, ih, written_cons,
        List.nil_append]

theorem IsBraceless.append {s t : List Char} (hs : IsBraceless s) (ht : IsBraceless t) :
    IsBraceless (s ++ t) := by
  simp only [IsBraceless, List.mem_append, not_or]
  exact ⟨⟨hs.1, ht.1⟩, hs.2, ht.2⟩

theorem sound_merged {text : List Char} {ps : List Piece} (htext : IsBraceless text)
    (hps : ∀ p ∈ ps, p.IsSound) : ∀ p ∈ merged text ps, p.IsSound := by
  induction ps generalizing text with
  | nil =>
    intro p hp
    rw [merged, mem_literalBefore] at hp
    obtain ⟨-, rfl⟩ | hp := hp
    · exact htext
    · cases hp
  | cons q ps ih =>
    rw [List.forall_mem_cons] at hps
    cases q with
    | literal t =>
      rw [merged]
      exact ih (htext.append hps.1) hps.2
    | placeholder n =>
      intro p hp
      rw [merged, mem_literalBefore, List.mem_cons] at hp
      obtain ⟨-, rfl⟩ | rfl | hp := hp
      · exact htext
      · exact hps.1
      · exact ih ⟨List.not_mem_nil, List.not_mem_nil⟩ hps.2 p hp

/-- Literal text in front of a placeholder. -/
theorem IsMerged.literalBefore_placeholder {ps : List Piece} (h : IsMerged ps)
    (text name : List Char) : IsMerged (literalBefore text (.placeholder name :: ps)) := by
  have hplaceholder : ¬(Piece.placeholder name).IsLiteralText := fun ⟨_, ht⟩ => nomatch ht
  constructor
  · rw [mem_literalBefore, List.mem_cons]
    rintro (⟨hne, he⟩ | he | he)
    · exact hne (Piece.literal.inj he).symm
    · cases he
    · exact h.noEmpty he
  · have hrest : (Piece.placeholder name :: ps).IsChain
        fun p q => ¬(p.IsLiteralText ∧ q.IsLiteralText) :=
      List.isChain_cons.mpr ⟨fun _ _ hq => hplaceholder hq.1, h.noneBeside⟩
    unfold literalBefore
    split
    · exact hrest
    · exact List.isChain_cons_cons.mpr ⟨fun hq => hplaceholder hq.2, hrest⟩

theorem isMerged_literalBefore_nil (text : List Char) : IsMerged (literalBefore text []) := by
  constructor
  · rw [mem_literalBefore]
    rintro (⟨hne, he⟩ | he)
    · exact hne (Piece.literal.inj he).symm
    · cases he
  · unfold literalBefore
    split
    · exact .nil
    · exact .singleton _

theorem isMerged_merged (text : List Char) (ps : List Piece) : IsMerged (merged text ps) := by
  induction ps generalizing text with
  | nil => exact isMerged_literalBefore_nil text
  | cons p ps ih =>
    cases p with
    | literal t => exact ih (text ++ t)
    | placeholder n => exact (ih []).literalBefore_placeholder text n

/-- **Where nothing can be put together, nothing is**, so the merged row is the only one of its kind
that spells a segment. -/
theorem merged_eq_self {ps : List Piece} (h : IsMerged ps) : merged [] ps = ps := by
  induction ps with
  | nil => rfl
  | cons p ps ih =>
    obtain ⟨hne, hchain⟩ := h
    rw [List.mem_cons, not_or] at hne
    have ih := ih ⟨hne.2, hchain.of_cons⟩
    cases p with
    | placeholder n => rw [merged, ih]; rfl
    | literal t =>
      have ht : t ≠ [] := fun he => hne.1 (by rw [he])
      cases ps with
      | nil => simp [merged, literalBefore, ht]
      | cons q ps =>
        -- the next piece is a placeholder, so the text ends here
        cases q with
        | literal u => exact absurd ⟨⟨t, rfl⟩, u, rfl⟩ (List.isChain_cons_cons.mp hchain).1
        | placeholder n =>
          rw [merged, literalBefore, List.isEmpty_nil, if_pos rfl, List.cons.injEq] at ih
          simp [merged, literalBefore, ht, ih.2]

/-! ## Reading a row -/

/-- Reading goes over text without braces. -/
theorem outside_append {t : List Char} (h : IsBraceless t) (text rest : List Char) :
    outside text (t ++ rest) = outside (text ++ t) rest := by
  induction t generalizing text with
  | nil => rw [List.nil_append, List.append_nil]
  | cons c t ih =>
    obtain ⟨hopen, hclose⟩ := h
    rw [List.mem_cons, not_or] at hopen hclose
    rw [List.cons_append, outside, if_neg (Ne.symm hclose.1), if_neg (Ne.symm hopen.1),
      ih ⟨hopen.2, hclose.2⟩, List.append_assoc, List.singleton_append]

/-- Inside of braces reading goes to the closing brace. -/
theorem inside_append {n : List Char} (h : '}' ∉ n) (name rest : List Char) :
    inside name (n ++ '}' :: rest) =
      if goodName (name ++ n) then (outside [] rest).map (.placeholder (name ++ n) :: ·)
      else .error .badName := by
  induction n generalizing name with
  | nil => rw [List.nil_append, inside, if_pos rfl, List.append_nil]
  | cons c n ih =>
    rw [List.mem_cons, not_or] at h
    rw [List.cons_append, inside, if_neg (Ne.symm h.1), ih h.2, List.append_assoc,
      List.singleton_append]

/-- Without a closing brace, reading stays inside to the end. -/
theorem inside_of_not_mem {cs : List Char} (h : '}' ∉ cs) (name : List Char) :
    inside name cs = .error .unclosed := by
  induction cs generalizing name with
  | nil => rw [inside]
  | cons c cs ih =>
    rw [List.mem_cons, not_or] at h
    rw [inside, if_neg (Ne.symm h.1), ih h.2]

theorem outside_brace (text rest : List Char) :
    outside text ('{' :: rest) = (inside [] rest).map (literalBefore text) := by
  rw [outside, if_neg (by decide), if_pos rfl]

/-- A placeholder is read as one. -/
theorem outside_placeholder {n : List Char} (hn : (Piece.placeholder n).IsSound)
    (text rest : List Char) :
    outside text ('{' :: (n ++ '}' :: rest))
      = (outside [] rest).map fun ps => literalBefore text (.placeholder n :: ps) := by
  have hgood : goodName n = true := goodName_eq_true_iff.mpr ⟨hn.1, hn.2.1⟩
  rw [outside_brace, inside_append hn.2.2, List.nil_append, if_pos hgood]
  cases outside [] rest <;> rfl

/-- **A row of pieces is read as its pieces**, with literal text put together. The induction is on
the row, with the text that was read since the last placeholder. -/
theorem outside_written {ps : List Piece} (hps : ∀ p ∈ ps, p.IsSound) (text : List Char) :
    outside text (written ps) = .ok (merged text ps) := by
  induction ps generalizing text with
  | nil => rfl
  | cons p ps ih =>
    rw [List.forall_mem_cons] at hps
    rw [written_cons]
    cases p with
    | literal t => rw [Piece.written, outside_append hps.1, ih hps.2, merged]
    | placeholder n =>
      rw [Piece.written, List.cons_append, List.append_assoc, List.singleton_append,
        outside_placeholder hps.1, ih hps.2]
      rfl

/-- Where a fault stands, reading fails. -/
theorem outside_of_stands {f : Fault} {cs : List Char} (h : f.Stands cs) (text : List Char) :
    outside text cs = .error f := by
  cases f with
  | unmatched =>
    obtain ⟨rest, rfl⟩ := h
    rw [outside, if_pos rfl]
  | unclosed =>
    obtain ⟨rest, rfl, hrest⟩ := h
    rw [outside_brace, inside_of_not_mem hrest]
    rfl
  | badName =>
    obtain ⟨name, rest, rfl, hclose, hbad⟩ := h
    rw [outside_brace, inside_append hclose, List.nil_append,
      if_neg (Bool.not_eq_true _ ▸ goodName_eq_false_iff.mpr hbad)]
    rfl

/-- Pieces in front of a fault do not help. -/
theorem outside_written_append {f : Fault} {ps : List Piece} {rest : List Char}
    (hps : ∀ p ∈ ps, p.IsSound) (h : f.Stands rest) (text : List Char) :
    outside text (written ps ++ rest) = .error f := by
  induction ps generalizing text with
  | nil => exact outside_of_stands h text
  | cons p ps ih =>
    rw [List.forall_mem_cons] at hps
    rw [written_cons, List.append_assoc]
    cases p with
    | literal t => rw [Piece.written, outside_append hps.1, ih hps.2]
    | placeholder n =>
      rw [Piece.written, List.cons_append, List.append_assoc, List.singleton_append,
        outside_placeholder hps.1, ih hps.2]
      rfl

theorem pieces_of_spells {ps : List Piece} {segment : List Char} (h : Spells ps segment) :
    pieces segment = .ok (merged [] ps) := by
  rw [← h.written_eq]
  exact outside_written h.sound []

/-- All rows that spell a segment have the same placeholders. -/
theorem names_of_spells {ps qs : List Piece} {segment : List Char} (hps : Spells ps segment)
    (hqs : Spells qs segment) : names ps = names qs := by
  have hread := (pieces_of_spells hps).symm.trans (pieces_of_spells hqs)
  rw [← names_merged [] ps, Except.ok.inj hread, names_merged]

theorem pieces_of_hasFault {f : Fault} {segment : List Char} (h : HasFault f segment) :
    pieces segment = .error f := by
  obtain ⟨ps, rest, hps, rfl, hrest⟩ := h
  exact outside_written_append hps hrest []

/-! ## Turns -/

/-- **What one turn of reading comes to.** The reader cuts a segment at its first pair of braces, so
it is a run of such turns. -/
inductive Turn where
  /-- No brace is left. -/
  | done
  | fault (fault : Fault)
  /-- The text up to a brace, the name in the braces, and what is left behind them. -/
  | placeholder (text name rest : List Char)

/-- Whether a character is no brace. -/
def isNoBrace (c : Char) : Bool := c ≠ '{' && c ≠ '}'

/-- **One turn**: on to the next brace and behind the placeholder that it opens. Turns are what the
reader does between two placeholders, and what is left gets shorter with each. -/
def turn (cs : List Char) : Turn :=
  match cs.dropWhile isNoBrace with
  | [] => .done
  | brace :: behind =>
    if brace = '}' then .fault .unmatched
    else
      match behind.dropWhile (· ≠ '}') with
      | [] => .fault .unclosed
      | _ :: rest =>
        let name := behind.takeWhile (· ≠ '}')
        if goodName name then .placeholder (cs.takeWhile isNoBrace) name rest
        else .fault .badName

/-- **What a turn finds in a text**: no brace, a brace that does not fit, or a placeholder, each
with the text in front of it. -/
inductive Turn.Finds : List Char → Turn → Prop where
  | done {cs} (braceless : IsBraceless cs) : Finds cs .done
  | fault {text rest f} (braceless : IsBraceless text) (stands : f.Stands rest) :
      Finds (text ++ rest) (.fault f)
  | placeholder {text name rest} (braceless : IsBraceless text)
      (sound : (Piece.placeholder name).IsSound) :
      Finds (text ++ '{' :: (name ++ '}' :: rest)) (.placeholder text name rest)

/-- A text is cut before the first character without a property. -/
theorem eq_append_of_dropWhile {p : Char → Bool} {cs rest : List Char} {c : Char}
    (h : cs.dropWhile p = c :: rest) : cs = cs.takeWhile p ++ c :: rest ∧ p c = false := by
  constructor
  · rw [← h, List.takeWhile_append_dropWhile]
  · have hhead := List.head?_dropWhile_not p cs
    rw [h] at hhead
    exact hhead

theorem isBraceless_iff {cs : List Char} : IsBraceless cs ↔ ∀ c ∈ cs, isNoBrace c = true := by
  simp only [IsBraceless, isNoBrace, Bool.and_eq_true, decide_eq_true_eq]
  constructor
  · rintro ⟨hopen, hclose⟩ c hc
    exact ⟨fun he => hopen (he ▸ hc), fun he => hclose (he ▸ hc)⟩
  · intro h
    exact ⟨fun hc => (h _ hc).1 rfl, fun hc => (h _ hc).2 rfl⟩

theorem turn_finds (cs : List Char) : Turn.Finds cs (turn cs) := by
  have htext : IsBraceless (cs.takeWhile isNoBrace) :=
    isBraceless_iff.mpr fun _ => List.mem_takeWhile_imp
  unfold turn
  split
  · next h => exact .done (isBraceless_iff.mpr (List.dropWhile_eq_nil_iff.mp h))
  · next brace behind h =>
    obtain ⟨hcs, hbrace⟩ := eq_append_of_dropWhile h
    split
    · next hclose =>
      subst hclose
      rw [hcs]
      exact .fault htext ⟨behind, rfl⟩
    · next hclose =>
      have hopen : brace = '{' := by
        simpa [isNoBrace, hclose] using hbrace
      subst hopen
      split
      · next h =>
        rw [hcs]
        refine .fault htext ⟨behind, rfl, fun hmem => ?_⟩
        simpa using List.dropWhile_eq_nil_iff.mp h _ hmem
      · next close rest h =>
        obtain ⟨hbehind, hclose⟩ := eq_append_of_dropWhile h
        obtain rfl : close = '}' := by simpa using hclose
        have hname : '}' ∉ behind.takeWhile (· ≠ '}') := fun hmem => by
          simpa using List.mem_takeWhile_imp hmem
        dsimp only
        split
        · next hgood =>
          obtain ⟨hne, hopen⟩ := goodName_eq_true_iff.mp hgood
          have hfound : Turn.Finds _ (.placeholder _ _ rest) :=
            .placeholder htext ⟨hne, hopen, hname⟩
          rwa [← hbehind, ← hcs] at hfound
        · next hbad =>
          rw [Bool.not_eq_true, goodName_eq_false_iff] at hbad
          rw [hcs]
          exact .fault htext ⟨_, rest, by rw [← hbehind], hname, hbad⟩

/-- **A turn that finds a placeholder leaves less**, by its two braces at least, so there cannot be
more turns than characters. -/
theorem length_lt_of_turn {cs text name rest : List Char}
    (h : turn cs = .placeholder text name rest) : rest.length < cs.length := by
  have hfinds := turn_finds cs
  rw [h] at hfinds
  cases hfinds
  simp only [List.length_append, List.length_cons]
  omega

/-- **What holds of every text, by its turns**: of a text that begins with a placeholder it may be
assumed of what follows the placeholder. -/
theorem turn_induction {motive : List Char → Prop}
    (done : ∀ cs, IsBraceless cs → motive cs)
    (fault : ∀ text rest (f : Fault), IsBraceless text → f.Stands rest → motive (text ++ rest))
    (placeholder : ∀ text name rest, IsBraceless text → (Piece.placeholder name).IsSound →
      motive rest → motive (text ++ '{' :: (name ++ '}' :: rest)))
    (cs : List Char) : motive cs := by
  induction hlen : cs.length using Nat.strong_induction_on generalizing cs with
  | _ n ih =>
    have hfinds := turn_finds cs
    cases hturn : turn cs with
    | done =>
      rw [hturn] at hfinds
      cases hfinds with
      | done braceless => exact done cs braceless
    | fault f =>
      rw [hturn] at hfinds
      cases hfinds with
      | fault braceless stands => exact fault _ _ f braceless stands
    | placeholder text name rest =>
      have hlt := length_lt_of_turn hturn
      rw [hturn] at hfinds
      cases hfinds with
      | placeholder braceless sound =>
        exact placeholder text name rest braceless sound (ih _ (hlen ▸ hlt) rest rfl)

/-! ## What can be read -/

theorem hasFault_of_stands {f : Fault} {text rest : List Char} (htext : IsBraceless text)
    (h : f.Stands rest) : HasFault f (text ++ rest) :=
  ⟨[.literal text], rest, List.forall_mem_singleton.mpr htext,
    by simp [written, Piece.written], h⟩

/-- Text and a placeholder in front of other pieces. -/
theorem written_text_placeholder (text name : List Char) (ps : List Piece) (rest : List Char) :
    written (.literal text :: .placeholder name :: ps) ++ rest
      = text ++ '{' :: (name ++ '}' :: (written ps ++ rest)) := by
  simp [Piece.written]

/-- **A segment is a row of pieces, or it has a fault**, by its turns; it cannot be both, as the
reader gives one answer. -/
theorem isSegment_or_hasFault (segment : List Char) :
    IsSegment segment ∨ ∃ f, HasFault f segment := by
  induction segment using turn_induction with
  | done cs braceless =>
    refine .inl ⟨[.literal cs], List.forall_mem_singleton.mpr braceless, ?_⟩
    simp [written, Piece.written]
  | fault text rest f braceless stands => exact .inr ⟨f, hasFault_of_stands braceless stands⟩
  | placeholder text name rest braceless sound ih =>
    have hsound : ∀ ps : List Piece, (∀ p ∈ ps, p.IsSound) →
        ∀ p ∈ Piece.literal text :: .placeholder name :: ps, p.IsSound := fun ps hps =>
      List.forall_mem_cons.mpr ⟨braceless, List.forall_mem_cons.mpr ⟨sound, hps⟩⟩
    rcases ih with ⟨ps, hps, rfl⟩ | ⟨f, ps, later, hps, rfl, hlater⟩
    · have hrow := written_text_placeholder text name ps []
      rw [List.append_nil, List.append_nil] at hrow
      exact .inl ⟨_, hsound ps hps, hrow⟩
    · exact .inr ⟨f, _, later, hsound ps hps, (written_text_placeholder text name ps later).symm,
        hlater⟩

/-- **The pieces that are read spell the segment**, and no others do without being cut finer.
Reading is sound and complete for the grammar. -/
theorem pieces_eq_ok_iff {segment : List Char} {ps : List Piece} :
    pieces segment = .ok ps ↔ Spells ps segment ∧ IsMerged ps := by
  constructor
  · intro h
    rcases isSegment_or_hasFault segment with ⟨qs, hqs⟩ | ⟨f, hf⟩
    · rw [pieces_of_spells hqs] at h
      cases h
      refine ⟨⟨sound_merged ⟨List.not_mem_nil, List.not_mem_nil⟩ hqs.sound, ?_⟩,
        isMerged_merged [] qs⟩
      rw [written_merged, List.nil_append, hqs.written_eq]
    · rw [pieces_of_hasFault hf] at h
      cases h
  · rintro ⟨hps, hmerged⟩
    rw [pieces_of_spells hps, merged_eq_self hmerged]

/-- **A segment cannot be read for the fault that it has**, and for no other: of the faults in a
segment the first counts. -/
theorem pieces_eq_error_iff {segment : List Char} {f : Fault} :
    pieces segment = .error f ↔ HasFault f segment := by
  constructor
  · intro h
    rcases isSegment_or_hasFault segment with ⟨ps, hps⟩ | ⟨g, hg⟩
    · rw [pieces_of_spells hps] at h
      cases h
    · rw [pieces_of_hasFault hg] at h
      cases h
      exact hg
  · exact pieces_of_hasFault

theorem isSegment_iff {segment : List Char} :
    IsSegment segment ↔ ∃ ps, pieces segment = .ok ps := by
  constructor
  · rintro ⟨ps, hps⟩
    exact ⟨_, pieces_of_spells hps⟩
  · rintro ⟨ps, hps⟩
    exact ⟨ps, (pieces_eq_ok_iff.mp hps).1⟩

/-- A segment with a fault is no row of pieces. -/
theorem HasFault.not_isSegment {f : Fault} {segment : List Char} (h : HasFault f segment) :
    ¬IsSegment segment := by
  rintro ⟨ps, hps⟩
  have hread := pieces_of_spells hps
  rw [pieces_of_hasFault h] at hread
  cases hread

/-! ## Reading in turns -/

/-- Reads in at most so many turns. What was found in earlier turns is put in front. -/
def scan : Nat → List Piece → List Char → Option (Except Fault (List Piece))
  | 0, _, _ => none
  | turns + 1, found, cs =>
    match turn cs with
    | .done => some (.ok (found ++ literalBefore cs []))
    | .fault f => some (.error f)
    | .placeholder text name rest =>
      scan turns (found ++ literalBefore text [.placeholder name]) rest

theorem literalBefore_append (text : List Char) (ps qs : List Piece) :
    literalBefore text (ps ++ qs) = literalBefore text ps ++ qs := by
  unfold literalBefore
  split <;> rfl

theorem pieces_of_braceless {cs : List Char} (h : IsBraceless cs) :
    pieces cs = .ok (literalBefore cs []) := by
  have hread := outside_append h [] []
  rwa [List.append_nil, List.nil_append] at hread

theorem pieces_text_placeholder {text name : List Char} (htext : IsBraceless text)
    (hname : (Piece.placeholder name).IsSound) (rest : List Char) :
    pieces (text ++ '{' :: (name ++ '}' :: rest))
      = (pieces rest).map fun ps => literalBefore text (.placeholder name :: ps) := by
  unfold pieces
  rw [outside_append htext, outside_placeholder hname, List.nil_append]

/-- **The turns come to an end**, since every one of them leaves less, and they find the pieces. One
turn more than there are characters is enough. -/
theorem scan_eq_some {turns : Nat} {cs : List Char} (h : cs.length < turns) (found : List Piece) :
    scan turns found cs = some ((pieces cs).map (found ++ ·)) := by
  induction turns generalizing cs found with
  | zero => exact absurd h (Nat.not_lt_zero _)
  | succ turns ih =>
    have hfinds := turn_finds cs
    rw [scan]
    cases hturn : turn cs with
    | done =>
      rw [hturn] at hfinds
      cases hfinds with
      | done braceless => rw [pieces_of_braceless braceless]; rfl
    | fault f =>
      rw [hturn] at hfinds
      cases hfinds with
      | fault braceless stands =>
        rw [pieces_of_hasFault (hasFault_of_stands braceless stands)]
        rfl
    | placeholder text name rest =>
      have hlt := length_lt_of_turn hturn
      rw [hturn] at hfinds
      cases hfinds with
      | placeholder braceless sound =>
        dsimp only
        rw [ih (by omega), pieces_text_placeholder braceless sound]
        cases pieces rest with
        | error f => rfl
        | ok ps =>
          refine congrArg (some ∘ Except.ok) ?_
          dsimp only
          rw [List.append_assoc, ← literalBefore_append, List.singleton_append]

/-! ## Templates -/

theorem segmentPieces_eq_error_iff {segment : List Char} {e : Error} :
    segmentPieces segment = .error e ↔
      ∃ f, HasFault f segment ∧ e = .malformed f (String.ofList segment) := by
  unfold segmentPieces
  rw [Except.mapError_eq_error]
  exact exists_congr fun f => and_congr pieces_eq_error_iff eq_comm

theorem placeholdersOf_eq_mapM (ss : List (List Char)) :
    placeholdersOf ss = (ss.mapM segmentPieces).map fun rows => rows.flatMap names := by
  induction ss with
  | nil => rfl
  | cons s ss ih =>
    rw [placeholdersOf, List.mapM_cons, ih]
    cases segmentPieces s with
    | error e => rfl
    | ok ps =>
      cases ss.mapM segmentPieces <;> rfl

/-- The rows that are read have the same placeholders as any other rows that spell the segments. -/
theorem forall₂_segmentPieces_of_spells {rows : List (List Piece)} {ss : List (List Char)}
    (h : List.Forall₂ Spells rows ss) :
    List.Forall₂ (fun s ps => segmentPieces s = .ok ps) ss (rows.map (merged [])) := by
  rw [List.forall₂_map_right_iff]
  exact h.flip.imp fun _ _ hps => segmentPieces_eq_ok.mpr (pieces_of_spells hps)

theorem placeholders_eq_ok_iff {template : String} {ns : List String} :
    placeholders template = .ok ns ↔
      ∃ rows, List.Forall₂ Spells rows (segments template) ∧ ns = rows.flatMap names := by
  unfold placeholders
  rw [placeholdersOf_eq_mapM, Except.map_eq_ok]
  constructor
  · rintro ⟨rows, hrows, rfl⟩
    refine ⟨rows, (Except.mapM_eq_ok_iff.mp hrows).flip.imp fun _ _ hps => ?_, rfl⟩
    exact (pieces_eq_ok_iff.mp (segmentPieces_eq_ok.mp hps)).1
  · rintro ⟨rows, hrows, rfl⟩
    refine ⟨_, Except.mapM_eq_ok_iff.mpr (forall₂_segmentPieces_of_spells hrows), ?_⟩
    rw [List.flatMap_map]
    exact List.flatMap_congr fun ps _ => names_merged [] ps

theorem placeholders_eq_error_iff {template : String} {e : Error} :
    placeholders template = .error e ↔
      ∃ front bad back f, segments template = front ++ bad :: back ∧
        (∀ s ∈ front, IsSegment s) ∧ HasFault f bad ∧ e = .malformed f (String.ofList bad) := by
  unfold placeholders
  rw [placeholdersOf_eq_mapM, Except.map_eq_error, Except.mapM_eq_error_iff]
  refine exists_congr fun front => exists_congr fun bad => exists_congr fun back => ?_
  have hfront : (∀ s ∈ front, ∃ ps, segmentPieces s = .ok ps) ↔ ∀ s ∈ front, IsSegment s :=
    forall₂_congr fun s _ => by
      rw [isSegment_iff]
      exact exists_congr fun ps => segmentPieces_eq_ok
  rw [hfront, segmentPieces_eq_error_iff]
  constructor
  · rintro ⟨hsegments, hgood, f, hf, he⟩
    exact ⟨f, hsegments, hgood, hf, he⟩
  · rintro ⟨f, hsegments, hgood, hf, he⟩
    exact ⟨hsegments, hgood, f, hf, he⟩

theorem exists_placeholders_iff {template : String} :
    (∃ ns, placeholders template = .ok ns) ↔ ∀ s ∈ segments template, IsSegment s := by
  have hmap : (∃ ns, placeholders template = .ok ns) ↔
      ∃ rows, (segments template).mapM segmentPieces = .ok rows := by
    unfold placeholders
    rw [placeholdersOf_eq_mapM]
    simp only [Except.map_eq_ok]
    exact ⟨fun ⟨_, rows, hrows, _⟩ => ⟨rows, hrows⟩, fun ⟨rows, hrows⟩ => ⟨_, rows, hrows, rfl⟩⟩
  rw [hmap, Except.exists_mapM_eq_ok_iff]
  refine forall₂_congr fun s _ => ?_
  rw [isSegment_iff]
  exact exists_congr fun ps => segmentPieces_eq_ok

/-- **Templates are read by their grammar.** A template can be read just when each of its segments
is a row of pieces, and then its placeholders are those of the rows, in order and with repetitions,
however literal text is cut. The pieces that are read are the only row in which nothing can be put
together. Otherwise the first segment that is no row decides, with the fault that it has. Reading
in turns ends, after at most one turn more than there are characters. -/
theorem placeholders_grammar :
    (∀ template, (∃ ns, placeholders template = .ok ns) ↔
      ∀ s ∈ segments template, IsSegment s) ∧
    (∀ template ns, placeholders template = .ok ns ↔
      ∃ rows, List.Forall₂ Spells rows (segments template) ∧ ns = rows.flatMap names) ∧
    (∀ segment ps, pieces segment = .ok ps ↔ Spells ps segment ∧ IsMerged ps) ∧
    (∀ segment, IsSegment segment ↔ ∃! ps, Spells ps segment ∧ IsMerged ps) ∧
    (∀ template e, placeholders template = .error e ↔
      ∃ front bad back f, segments template = front ++ bad :: back ∧
        (∀ s ∈ front, IsSegment s) ∧ ¬IsSegment bad ∧ HasFault f bad ∧
        e = .malformed f (String.ofList bad)) ∧
    ∀ segment, scan (segment.length + 1) [] segment = some (pieces segment) := by
  refine ⟨fun _ => exists_placeholders_iff, fun _ _ => placeholders_eq_ok_iff,
    fun _ _ => pieces_eq_ok_iff, fun segment => ?_, fun template e => ?_, fun segment => ?_⟩
  · rw [isSegment_iff]
    simp only [← pieces_eq_ok_iff]
    constructor
    · rintro ⟨ps, hps⟩
      exact ⟨ps, hps, fun qs hqs => Except.ok.inj (hqs.symm.trans hps)⟩
    · rintro ⟨ps, hps, -⟩
      exact ⟨ps, hps⟩
  · rw [placeholders_eq_error_iff]
    constructor
    · rintro ⟨front, bad, back, f, hsegments, hfront, hf, he⟩
      exact ⟨front, bad, back, f, hsegments, hfront, hf.not_isSegment, hf, he⟩
    · rintro ⟨front, bad, back, f, hsegments, hfront, -, hf, he⟩
      exact ⟨front, bad, back, f, hsegments, hfront, hf, he⟩
  · rw [scan_eq_some (Nat.lt_succ_self _) []]
    cases pieces segment <;> rfl

end RestClient.Template
