import Mathlib.Data.List.TakeDrop
import RestClient.Xml.Stream
import RestClient.Xml.Write

/-!
# Elements read back

An element is written as a tag that opens it, its content and a tag that closes it. As a stream of
events it is the same again: a start, a text if there is any, and the close (`event_open`,
`event_escaped`, `event_close`).

Of the text of an element three characters are written as references, and the reader cuts it at
these: a piece of text up to the next reference, the reference, a piece of text, and so on. The
pieces are put together again (`drain_escaped`), each with its ends of lines made equal; that this
comes to the same as making them equal in the whole text is because a reference never stands for a
part of an end of line (`withLineEnds_append`). So the text that is read is the text that was
written, up to its ends of lines, which nothing in the document keeps apart.
-/

namespace RestClient.Xml

/-! ## Characters -/

/-- The characters that stand for themselves in the text of an element. -/
def isPlain (c : Char) : Bool := c ≠ '&' && c ≠ '<' && c ≠ '>'

/-- **A character stands for itself, or a reference stands for it**, and then the name of the
reference ends before the semicolon and is resolved to the character. -/
theorem escapedChar_cases (c : Char) :
    (isPlain c = true ∧ escapedChar c = [c]) ∨
    isPlain c = false ∧ ∃ name, escapedChar c = '&' :: (name ++ [';']) ∧ resolve name = .ok c ∧
      ∀ d ∈ name, (d ≠ ';' && d ≠ '&' && d ≠ '<') = true := by
  unfold escapedChar isPlain
  by_cases hamp : c = '&'
  · exact .inr ⟨by simp [hamp], "amp".toList, by simp [hamp], by rw [hamp]; rfl,
      List.all_eq_true.mp rfl⟩
  by_cases hlt : c = '<'
  · exact .inr ⟨by simp [hlt], "lt".toList, by simp [hlt], by rw [hlt]; rfl,
      List.all_eq_true.mp rfl⟩
  by_cases hgt : c = '>'
  · exact .inr ⟨by simp [hgt], "gt".toList, by simp [hgt], by rw [hgt]; rfl,
      List.all_eq_true.mp rfl⟩
  · exact .inl ⟨by simp [hamp, hlt, hgt], by simp [hamp, hlt, hgt]⟩

theorem not_isPlain {c : Char} (h : isPlain c = false) : (c = '&' ∨ c = '<') ∨ c = '>' := by
  simpa [isPlain, or_iff_not_imp_left] using h

theorem escaped_cons (c : Char) (cs : List Char) :
    escaped (c :: cs) = escapedChar c ++ escaped cs := List.flatMap_cons

theorem length_le_escaped (cs : List Char) : cs.length ≤ (escaped cs).length := by
  induction cs with
  | nil => exact Nat.le_refl 0
  | cons c cs ih =>
    have hc : 1 ≤ (escapedChar c).length := by
      rcases escapedChar_cases c with ⟨-, h⟩ | ⟨-, name, h, -⟩ <;> simp [h]
    rw [escaped_cons, List.length_append, List.length_cons]
    omega

/-- Characters that stand for themselves are written as they are. -/
theorem escaped_of_isPlain {cs : List Char} (h : ∀ c ∈ cs, isPlain c = true) : escaped cs = cs := by
  induction cs with
  | nil => rfl
  | cons c cs ih =>
    obtain ⟨hc, hcs⟩ := List.forall_mem_cons.mp h
    rcases escapedChar_cases c with ⟨-, heq⟩ | ⟨hplain, -⟩
    · rw [escaped_cons, heq, ih hcs]
      rfl
    · rw [hc] at hplain
      cases hplain

/-! ## Ends of lines -/

/-- A text that does not begin with the second half of an end of line. -/
def EndsLine (cs : List Char) : Prop :=
  ∀ c r, cs = c :: r → c ≠ '\n' ∧ c ≠ Char.ofNat 0x85

/-- A character as it stands in a text whose ends of lines are equal. -/
def lineChar (c : Char) : Char :=
  if c = '\r' || c = Char.ofNat 0x85 || c = Char.ofNat 0x2028 then '\n' else c

theorem withLineEnds_cons_of_ne {c : Char} (hc : c ≠ '\r') (r : List Char) :
    withLineEnds (c :: r) = lineChar c :: withLineEnds r :=
  withLineEnds.eq_4 c r (fun _ h _ => hc h) (fun _ _ h _ => hc h)

theorem withLineEnds_return {r : List Char} (h : EndsLine r) :
    withLineEnds ('\r' :: r) = '\n' :: withLineEnds r := by
  cases r with
  | nil => rfl
  | cons c r =>
    obtain ⟨hfeed, hnext⟩ := h c r rfl
    rw [withLineEnds.eq_3 c r hfeed, if_neg hnext]

/-- **Ends of lines are made equal in parts**, if no part takes one apart: a carriage return and the
line feed behind it are one end of line. -/
theorem withLineEnds_append (cs : List Char) {more : List Char} (h : EndsLine more) :
    withLineEnds (cs ++ more) = withLineEnds cs ++ withLineEnds more := by
  fun_induction withLineEnds cs with
  | case1 => rfl
  | case2 r ih =>
    rw [List.cons_append, List.cons_append, withLineEnds, ih]
    rfl
  | case3 r hne ih =>
    rw [List.cons_append, List.cons_append, withLineEnds.eq_3 _ _ hne, if_pos rfl, ih]
    rfl
  | case4 c r hfeed hnext ih =>
    rw [List.cons_append, List.cons_append, withLineEnds.eq_3 _ _ hfeed, if_neg hnext,
      ← List.cons_append, ih]
    rfl
  | case5 c r _ hlast ih =>
    by_cases hc : c = '\r'
    · -- a return that is followed by anything is one of the cases before
      subst hc
      obtain rfl : r = [] := by
        cases r with
        | nil => rfl
        | cons d r => exact (hlast d r rfl rfl).elim
      exact withLineEnds_return h
    · rw [List.cons_append, withLineEnds_cons_of_ne hc, ih]
      rfl

/-- A character that is no part of an end of line, but for the line feed itself. -/
def isKept (c : Char) : Bool :=
  c ≠ '\r' && c ≠ Char.ofNat 0x85 && c ≠ Char.ofNat 0x2028

theorem isKept_lineChar (c : Char) : isKept (lineChar c) = true := by
  unfold lineChar
  split
  · rfl
  · next h => simpa [isKept, and_assoc] using h

theorem isKept_of_mem_withLineEnds {cs : List Char} {c : Char} (h : c ∈ withLineEnds cs) :
    isKept c = true := by
  fun_induction withLineEnds cs with
  | case1 => cases h
  | case2 r ih | case3 r _ ih | case4 d r _ _ ih =>
    rcases List.mem_cons.mp h with rfl | h
    · rfl
    · exact ih h
  | case5 d r _ _ ih =>
    rcases List.mem_cons.mp h with rfl | h
    · exact isKept_lineChar d
    · exact ih h

/-- **The texts that stay as they are** are those without other ends of lines than line feeds.
Nothing else of a text is changed on its way through a document. -/
theorem withLineEnds_eq_self_iff {cs : List Char} :
    withLineEnds cs = cs ↔ ∀ c ∈ cs, isKept c = true := by
  constructor
  · intro h c hc
    rw [← h] at hc
    exact isKept_of_mem_withLineEnds hc
  · intro h
    induction cs with
    | nil => rfl
    | cons c cs ih =>
      obtain ⟨hc, hcs⟩ := List.forall_mem_cons.mp h
      simp only [isKept, ne_eq, Bool.and_eq_true, decide_eq_true_eq] at hc
      obtain ⟨⟨hreturn, hnext⟩, hseparator⟩ := hc
      rw [withLineEnds_cons_of_ne hreturn, ih hcs]
      simp [lineChar, hreturn, hnext, hseparator]

/-- The characters that references are written for have no part in an end of line. -/
theorem lineChar_of_not_isPlain {c : Char} (h : isPlain c = false) :
    c ≠ '\r' ∧ lineChar c = c := by
  rcases not_isPlain h with (rfl | rfl) | rfl <;> exact ⟨by decide, rfl⟩

theorem endsLine_dropWhile (cs : List Char) : EndsLine (cs.dropWhile isPlain) := by
  induction cs with
  | nil => exact nofun
  | cons c cs ih =>
    cases hc : isPlain c with
    | true =>
      rw [List.dropWhile_cons_of_pos hc]
      exact ih
    | false =>
      rw [List.dropWhile_cons_of_neg (by simp [hc])]
      rintro d r heq
      obtain ⟨rfl, -⟩ := List.cons.inj heq
      constructor
      · rintro rfl
        cases hc
      · rintro rfl
        cases hc

/-! ## Pieces of text -/

/-- The characters that a piece of text may hold. -/
def isText (c : Char) : Bool := c ≠ '<' && c ≠ '&'

theorem isText_of_isPlain {c : Char} (h : isPlain c = true) : isText c = true := by
  simp only [isPlain, ne_eq, Bool.and_eq_true, decide_eq_true_eq] at h
  simp [isText, h]

/-- The run of plain characters in front of a text is written as it is, up to the first reference
or to the end. -/
theorem span_escaped (cs r : List Char) : (escaped cs ++ '<' :: r).span isText
    = (cs.takeWhile isPlain, escaped (cs.dropWhile isPlain) ++ '<' :: r) := by
  rw [List.span_eq_takeWhile_dropWhile]
  induction cs with
  | nil => rfl
  | cons c cs ih =>
    rw [Prod.mk.injEq] at ih
    rcases escapedChar_cases c with ⟨hc, h⟩ | ⟨hc, name, h, -⟩
    · have htext := isText_of_isPlain hc
      rw [escaped_cons, h, List.append_assoc, List.singleton_append,
        List.takeWhile_cons_of_pos htext, List.dropWhile_cons_of_pos htext, ih.1, ih.2,
        List.takeWhile_cons_of_pos hc, List.dropWhile_cons_of_pos hc]
    · have hstop : ¬isPlain c = true := by simp [hc]
      rw [List.takeWhile_cons_of_neg hstop, List.dropWhile_cons_of_neg hstop, escaped_cons, h]
      rfl

theorem next_of_isPlain {c : Char} (hc : isPlain c = true) (cs r : List Char) :
    Piece.next (escaped (c :: cs) ++ '<' :: r)
      = .ok (.text ((c :: cs).takeWhile isPlain),
          escaped ((c :: cs).dropWhile isPlain) ++ '<' :: r) := by
  have hspan := span_escaped (c :: cs) r
  obtain ⟨t, ht⟩ : ∃ t, escaped (c :: cs) ++ '<' :: r = c :: t := by
    rcases escapedChar_cases c with ⟨-, h⟩ | ⟨hplain, -⟩
    · exact ⟨escaped cs ++ '<' :: r, by rw [escaped_cons, h]; rfl⟩
    · rw [hc] at hplain
      cases hplain
  have hfront := isText_of_isPlain hc
  rw [ht] at hspan ⊢
  unfold Piece.next
  split
  · next heq => cases heq
  · next heq =>
    obtain rfl := (List.cons.inj heq).1
    cases hfront
  · next heq =>
    obtain rfl := (List.cons.inj heq).1
    cases hfront
  · exact congrArg (fun p => Except.ok (Piece.text p.1, p.2)) hspan

theorem next_of_not_isPlain {c : Char} (hc : isPlain c = false) (cs r : List Char) :
    ∃ name, Piece.next (escaped (c :: cs) ++ r) = .ok (.reference name, escaped cs ++ r) ∧
      resolve name = .ok c := by
  rcases escapedChar_cases c with ⟨hplain, -⟩ | ⟨-, name, h, hresolve, hname⟩
  · rw [hc] at hplain
    cases hplain
  · refine ⟨name, ?_, hresolve⟩
    rw [escaped_cons, h]
    show Piece.referenceAt ((name ++ [';']) ++ escaped cs ++ r) = _
    rw [List.append_assoc, List.append_assoc, List.singleton_append, Piece.referenceAt,
      List.span_eq_takeWhile_dropWhile, List.takeWhile_append_of_pos hname,
      List.dropWhile_append_of_pos hname]
    simp

/-- What begins with a closing tag is neither a text nor a reference. -/
theorem exists_closes {r rest : List Char} {p : Piece}
    (h : Piece.next ('<' :: '/' :: r) = .ok (p, rest)) : ∃ name, p = .closes name := by
  change Piece.markup ('/' :: r) = _ at h
  unfold Piece.markup at h
  simp only at h
  split at h
  · cases h
    exact ⟨_, rfl⟩
  · cases h

/-! ## The text of an element -/

namespace Stream

/-- A stream inside open elements, none of which is closed by its own tag. -/
def inside (opened : List Tag) (rest : List Char) : Stream := ⟨rest, opened, false⟩

variable {opened : List Tag} {rest r : List Char}

theorem part_of_text {cs : List Char} (h : Piece.next rest = .ok (.text cs, r)) :
    (inside opened rest).part (inside opened rest).bound = .ok (.text cs, inside opened r) := by
  show (Piece.next rest >>= _) = _
  rw [h]
  rfl

theorem part_of_reference {name : List Char} (h : Piece.next rest = .ok (.reference name, r)) :
    (inside opened rest).part (inside opened rest).bound
      = .ok (.reference name, inside opened r) := by
  show (Piece.next rest >>= _) = _
  rw [h]
  rfl

theorem part_of_opens (opened : List Tag) {name attrs : List Char} {closed : Bool}
    (h : Piece.next rest = .ok (.opens name attrs closed, r)) :
    (inside opened rest).part (inside opened rest).bound
      = .ok (.start ((inside opened rest).push name attrs r closed).1,
          ((inside opened rest).push name attrs r closed).2) := by
  show (Piece.next rest >>= _) = _
  rw [h]
  rfl

theorem part_of_closes {name : List Char} (h : Piece.next rest = .ok (.closes name, r)) :
    (inside opened rest).part (inside opened rest).bound = match opened with
      | t :: outer => if t.name = name then .ok (.close, inside outer r) else .error .malformed
      | [] => .error .malformed := by
  show (Piece.next rest >>= _) = _
  rw [h]
  rfl

/-- **A text ends before a closing tag**, whether or not there is an element to close, so what
follows the text is left to whoever reads on. -/
theorem drain_of_closing (fuel : Nat) (acc : List Char) (opened : List Tag) (r : List Char) :
    (inside opened ('<' :: '/' :: r)).drain fuel acc
      = .ok (acc, inside opened ('<' :: '/' :: r)) := by
  cases fuel with
  | zero => rfl
  | succ fuel =>
    rw [drain]
    cases hnext : Piece.next ('<' :: '/' :: r) with
    | error e =>
      have hpart : (inside opened ('<' :: '/' :: r)).part
          (inside opened ('<' :: '/' :: r)).bound = .error e := by
        show (Piece.next ('<' :: '/' :: r) >>= _) = _
        rw [hnext]
        rfl
      rw [hpart]
    | ok p =>
      obtain ⟨piece, rest⟩ := p
      obtain ⟨name, rfl⟩ := exists_closes hnext
      rw [part_of_closes hnext]
      cases opened with
      | nil => rfl
      | cons t outer =>
        by_cases ht : t.name = name
        · simp only [if_pos ht]
        · simp only [if_neg ht]

/-- **The pieces of a text are put together again**, up to its ends of lines. References stand
between them where the text has markup, and each piece is normalised on its own. -/
theorem drain_escaped (cs : List Char) {fuel : Nat} (hfuel : cs.length ≤ fuel) (acc : List Char)
    (opened : List Tag) (r : List Char) :
    (inside opened (escaped cs ++ '<' :: '/' :: r)).drain fuel acc
      = .ok (acc ++ withLineEnds cs, inside opened ('<' :: '/' :: r)) := by
  induction fuel generalizing cs acc with
  | zero =>
    obtain rfl := List.eq_nil_of_length_eq_zero (Nat.le_zero.mp hfuel)
    rw [withLineEnds, List.append_nil]
    exact drain_of_closing 0 acc opened r
  | succ fuel ih =>
    cases cs with
    | nil =>
      rw [withLineEnds, List.append_nil]
      exact drain_of_closing (fuel + 1) acc opened r
    | cons c cs =>
      rw [List.length_cons] at hfuel
      cases hc : isPlain c with
      | false =>
        obtain ⟨name, hnext, hresolve⟩ := next_of_not_isPlain hc cs ('<' :: '/' :: r)
        obtain ⟨hne, hchar⟩ := lineChar_of_not_isPlain hc
        rw [drain, part_of_reference hnext]
        show (resolve name >>= _) = _
        rw [hresolve]
        show (inside opened _).drain fuel (acc ++ [c]) = _
        rw [ih cs (by omega), withLineEnds_cons_of_ne hne, hchar, List.append_assoc]
        rfl
      | true =>
        have hsplit : (c :: cs).takeWhile isPlain ++ (c :: cs).dropWhile isPlain = c :: cs :=
          List.takeWhile_append_dropWhile
        have hlength : ((c :: cs).dropWhile isPlain).length ≤ fuel := by
          rw [List.dropWhile_cons_of_pos hc]
          have hle := (List.dropWhile_sublist isPlain (l := cs)).length_le
          omega
        rw [drain, part_of_text (next_of_isPlain hc cs ('/' :: r))]
        show (inside opened _).drain fuel _ = _
        rw [ih _ hlength, List.append_assoc, ← withLineEnds_append _ (endsLine_dropWhile _), hsplit]

end Stream

/-! ## Blanks -/

theorem dropWhile_isBlank {cs : List Char} (h : ∀ c ∈ cs, isBlank c = false) :
    cs.dropWhile isBlank = cs := by
  cases cs with
  | nil => rfl
  | cons c cs => exact List.dropWhile_cons_of_neg (by simp [h c List.mem_cons_self])

theorem dropWhile_isBlank_reverse {cs : List Char} (h : ∀ c ∈ cs, isBlank c = false) :
    (cs.reverse.dropWhile isBlank).reverse = cs := by
  rw [dropWhile_isBlank fun c hc => h c (List.mem_reverse.mp hc), List.reverse_reverse]

/-- A text without blanks has none around it. -/
theorem trimmed_eq_self {cs : List Char} (h : ∀ c ∈ cs, isBlank c = false) : trimmed cs = cs := by
  unfold trimmed
  rw [dropWhile_isBlank h, dropWhile_isBlank_reverse h]

/-! ## Tags -/

/-- The characters of the names that are written: none of them has a meaning in a tag, or in the
name of a field. -/
def isNameChar (c : Char) : Bool :=
  !isBlank c && c ≠ '>' && c ≠ '/' && c ≠ '!' && c ≠ '?' && c ≠ ':' && c ≠ '"' && c ≠ '\'' &&
    c ≠ '@' && c ≠ '$'

/-- **A name of an element** that is written for a field: none of its characters ends the name, has
a meaning in a tag, or gives the field another role. -/
structure IsTagName (name : List Char) : Prop where
  ne_nil : name ≠ []
  chars : ∀ c ∈ name, isNameChar c = true

instance (name : List Char) : Decidable (IsTagName name) :=
  decidable_of_iff (name ≠ [] ∧ name.all isNameChar = true)
    ⟨fun h => ⟨h.1, List.all_eq_true.mp h.2⟩, fun h => ⟨h.1, List.all_eq_true.mpr h.2⟩⟩

theorem tagText?_append {cs : List Char} (h : ∀ c ∈ cs, c ≠ '>' ∧ c ≠ '"' ∧ c ≠ '\'')
    (r : List Char) : tagText? none (cs ++ '>' :: r) = some (cs, r) := by
  induction cs with
  | nil => rfl
  | cons c cs ih =>
    obtain ⟨⟨hclose, hdouble, hsingle⟩, hcs⟩ := List.forall_mem_cons.mp h
    have hquote : (c = '"' || c = '\'') = false := by simp [hdouble, hsingle]
    rw [List.cons_append, tagText?]
    simp only [hclose, hquote, if_false, Bool.false_eq_true, ih hcs]
    rfl

namespace IsTagName

variable {name : List Char}

theorem notBlank (h : IsTagName name) : ∀ c ∈ name, isBlank c = false := by
  intro c hc
  have hchar := h.chars c hc
  simp only [isNameChar, Bool.and_eq_true, Bool.not_eq_true'] at hchar
  simp [hchar]

theorem unquoted (h : IsTagName name) : ∀ c ∈ name, c ≠ '>' ∧ c ≠ '"' ∧ c ≠ '\'' := by
  intro c hc
  have hchar := h.chars c hc
  simp only [isNameChar, ne_eq, Bool.and_eq_true, decide_eq_true_eq] at hchar
  simp [hchar]

theorem localName_eq (h : IsTagName name) : localName name = name := by
  have hnone : name.dropWhile (· ≠ ':') = [] := by
    rw [← List.append_nil name, List.dropWhile_append_of_pos, List.dropWhile_nil]
    intro c hc
    have hchar := h.chars c hc
    simp only [isNameChar, ne_eq, Bool.and_eq_true, decide_eq_true_eq] at hchar
    simp [hchar]
  unfold localName
  rw [hnone]

theorem slash_not_mem (h : IsTagName name) : '/' ∉ name := by
  intro hmem
  cases h.chars '/' hmem

theorem tagParts_eq (h : IsTagName name) : tagParts name = (name, []) := by
  have hname : ∀ c ∈ name, (!isBlank c) = true := by simpa using h.notBlank
  have hspan : (name ++ []).span (fun c => !isBlank c) = (name, []) := by
    rw [List.span_eq_takeWhile_dropWhile, List.takeWhile_append_of_pos hname,
      List.dropWhile_append_of_pos hname, List.takeWhile_nil, List.append_nil, List.dropWhile_nil]
  rw [List.append_nil] at hspan
  exact hspan

theorem ofTag_eq (h : IsTagName name) : Piece.ofTag name = .opens name [] false := by
  unfold Piece.ofTag
  split
  · next r heq =>
    have hmem : '/' ∈ name := by
      rw [← List.mem_reverse, heq]
      exact List.mem_cons_self
    exact absurd hmem h.slash_not_mem
  · rw [h.tagParts_eq]

theorem ofTag_closed (h : IsTagName name) : Piece.ofTag (name ++ ['/']) = .opens name [] true := by
  have hreverse : (name ++ ['/']).reverse = '/' :: name.reverse := List.reverse_concat ..
  unfold Piece.ofTag
  rw [hreverse]
  simp only [List.reverse_reverse, h.tagParts_eq]

/-- What begins with a name is a tag that opens an element. -/
theorem markup_append (h : IsTagName name) (r : List Char) :
    Piece.markup (name ++ r) = match tagText? none (name ++ r) with
      | some (tag, rest) => .ok (Piece.ofTag tag, rest)
      | none => .error .malformed := by
  obtain ⟨hne, hchars⟩ := h
  cases name with
  | nil => exact absurd rfl hne
  | cons c cs =>
    have hc := hchars c List.mem_cons_self
    rw [List.cons_append]
    unfold Piece.markup
    split
    case h_1 heq => cases heq
    case h_5 => rfl
    -- the other rows are for characters that no name holds
    all_goals
      next heq =>
        cases heq
        cases hc

theorem next_open (h : IsTagName name) (r : List Char) :
    Piece.next ('<' :: (name ++ '>' :: r)) = .ok (.opens name [] false, r) := by
  show Piece.markup (name ++ '>' :: r) = _
  rw [h.markup_append, tagText?_append h.unquoted]
  simp only [h.ofTag_eq]

theorem next_empty (h : IsTagName name) (r : List Char) :
    Piece.next ('<' :: (name ++ '/' :: '>' :: r)) = .ok (.opens name [] true, r) := by
  have hslash : ∀ c ∈ name ++ ['/'], c ≠ '>' ∧ c ≠ '"' ∧ c ≠ '\'' :=
    List.forall_mem_append.mpr ⟨h.unquoted, by simp⟩
  have htext := tagText?_append hslash r
  rw [List.append_assoc, List.singleton_append] at htext
  show Piece.markup (name ++ '/' :: '>' :: r) = _
  rw [h.markup_append, htext]
  simp only [h.ofTag_closed]

theorem next_close (h : IsTagName name) (r : List Char) :
    Piece.next ('<' :: '/' :: (name ++ '>' :: r)) = .ok (.closes name, r) := by
  show Piece.markup ('/' :: (name ++ '>' :: r)) = _
  unfold Piece.markup
  simp only [tagText?_append h.unquoted, dropWhile_isBlank_reverse h.notBlank]

end IsTagName

/-! ## The events of an element -/

/-- The tag of an element without attributes. -/
def bare (name : List Char) : Tag := ⟨name, [], []⟩

namespace Stream

/-- A stream inside elements without attributes, whose names are given. -/
def within (names : List (List Char)) (rest : List Char) : Stream := inside (names.map bare) rest

/-- The element that a tag opens without attributes inside of others. -/
theorem push_within (names : List (List Char)) (rest name r : List Char) (closed : Bool) :
    (within names rest).push name [] r closed
      = (bare name, ⟨r, bare name :: names.map bare, closed⟩) := by
  cases names <;> rfl

/-- **The text of an element is one event**, however many references stand in it. -/
theorem event_escaped (c : Char) (cs : List Char) (names : List (List Char)) (r : List Char) :
    (within names (escaped (c :: cs) ++ '<' :: '/' :: r)).event
      = .ok (.text (withLineEnds (c :: cs)), within names ('<' :: '/' :: r)) := by
  unfold within
  have hbound : (c :: cs).length
      ≤ (inside (names.map bare) (escaped (c :: cs) ++ '<' :: '/' :: r)).bound := by
    have hle := length_le_escaped (c :: cs)
    show _ ≤ (escaped (c :: cs) ++ '<' :: '/' :: r).length + 2
    rw [List.length_append]
    omega
  have hdrain := drain_escaped (c :: cs) hbound [] (names.map bare) r
  rw [event]
  cases hc : isPlain c with
  | false =>
    obtain ⟨name, hnext, -⟩ := next_of_not_isPlain hc cs ('<' :: '/' :: r)
    rw [part_of_reference hnext]
    show (drain _ [] _ >>= _) = _
    rw [hdrain]
    rfl
  | true =>
    rw [part_of_text (next_of_isPlain hc cs ('/' :: r))]
    show (drain _ [] _ >>= _) = _
    rw [hdrain]
    rfl

variable {name : List Char} (names : List (List Char)) (r : List Char)

/-- **A tag that opens an element** is its start, and the element is open then, inside of those that
were. -/
theorem event_open (h : IsTagName name) :
    (within names ('<' :: (name ++ '>' :: r))).event
      = .ok (.start (bare name), within (name :: names) r) := by
  have hpart := part_of_opens (names.map bare) (h.next_open r)
  rw [← within, push_within] at hpart
  rw [event, hpart]
  rfl

/-- **A tag that closes its own element** is its start, and the close follows, as if there were an
end tag right behind it. -/
theorem event_empty (h : IsTagName name) :
    (within names ('<' :: (name ++ '/' :: '>' :: r))).event
      = .ok (.start (bare name), ⟨r, bare name :: names.map bare, true⟩) := by
  have hpart := part_of_opens (names.map bare) (h.next_empty r)
  rw [← within, push_within] at hpart
  rw [event, hpart]
  rfl

theorem event_selfClosed (t : Tag) :
    (⟨r, t :: names.map bare, true⟩ : Stream).event = .ok (.close, within names r) := rfl

/-- **A tag that closes the innermost element** is its end, and the elements around it stay open. -/
theorem event_close (h : IsTagName name) :
    (within (name :: names) ('<' :: '/' :: (name ++ '>' :: r))).event
      = .ok (.close, within names r) := by
  have hpart : (within (name :: names) ('<' :: '/' :: (name ++ '>' :: r))).part
      (within (name :: names) ('<' :: '/' :: (name ++ '>' :: r))).bound
        = .ok (.close, within names r) := by
    rw [within, part_of_closes (h.next_close r)]
    exact if_pos rfl
  rw [event, hpart]
  rfl

end Stream

end RestClient.Xml
