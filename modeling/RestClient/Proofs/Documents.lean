import RestClient.Proofs.ElementText
import RestClient.Proofs.Literal
import RestClient.Xml.Read

/-!
# Records read back from documents

A record is written as an element with a child for each field, and a field whose value has a single
text, a `Line`, as a child around this text. Such a child is read back (`Line.atPlace_child`), the
children are read one after the other (`contentMembers_children`), and what was read makes up the
record again (`ofXml_record`).

What comes back of a text is the text with its ends of lines made equal, so the reading side speaks
of the lines that values have then.
-/

namespace RestClient.Xml

open Reader Xml.Stream

/-! ## Readers in a row -/

namespace Reader

variable {α β : Type} {s s' : Stream}

/-- After a reader that succeeds, the next one goes on where it stopped. -/
theorem bind_of_ok {x : Reader α} {f : α → Reader β} {a : α} (h : x s = .ok (a, s')) :
    (x >>= f) s = f a s' := by
  show (x s >>= fun p => f p.1 p.2) = _
  rw [h]
  rfl

theorem next_of_event {e : Event} (h : s.event = .ok (e, s')) : next s = .ok (e, s') := h

theorem peek_of_event {e : Event} (h : s.event = .ok (e, s')) : peek s = .ok (e, s) := by
  show (s.event >>= fun p => .ok (p.1, s)) = _
  rw [h]
  rfl

/-- Only a text may be passed over as blank. -/
theorem skipBlank_of_event {e : Event} (h : s.event = .ok (e, s')) (he : ∀ cs, e ≠ .text cs) :
    skipBlank s = .ok ((), s) := by
  unfold skipBlank
  rw [bind_of_ok (peek_of_event h)]
  cases e with
  | text cs => exact absurd rfl (he cs)
  | start t | close | finish => rfl

end Reader

/-! ## A child around a text -/

/-- An element of a name around a text; without a text it closes itself. -/
def textElement (name : String) (cs : List Char) : List Char :=
  if cs.isEmpty then emptyElement name else wrapped name (escaped cs)

variable {name : String} {names : List (List Char)}

theorem emptyElement_append (name : String) (r : List Char) :
    emptyElement name ++ r = '<' :: (name.toList ++ '/' :: '>' :: r) := by
  simp [emptyElement]

theorem wrapped_append (name : String) (content r : List Char) :
    wrapped name content ++ r
      = '<' :: (name.toList ++ '>' :: (content ++ '<' :: '/' :: (name.toList ++ '>' :: r))) := by
  simp [wrapped]

theorem exists_textElement (name : String) (cs : List Char) :
    ∃ r, textElement name cs = '<' :: r := by
  unfold textElement
  split
  · exact ⟨_, rfl⟩
  · exact ⟨_, rfl⟩

/-- An element around a text begins with its start. -/
theorem exists_event_textElement (names : List (List Char)) (h : IsTagName name.toList)
    (cs r : List Char) :
    ∃ s, (within names (textElement name cs ++ r)).event = .ok (.start (bare name.toList), s) := by
  unfold textElement
  split
  · rw [emptyElement_append]
    exact ⟨_, event_empty names r h⟩
  · rw [wrapped_append]
    exact ⟨_, event_open names _ h⟩

/-- **The text of a child is read**, up to its ends of lines, whatever else stands in the document
behind it. -/
theorem text_child (names : List (List Char)) (h : IsTagName name.toList) (parentNil : Bool)
    (cs r : List Char) :
    (Place.child parentNil).text (within names (textElement name cs ++ r))
      = .ok (withLineEnds cs, within names r) := by
  cases cs with
  | nil =>
    have hopen := event_empty names r h
    rw [← emptyElement_append] at hopen
    show (next >>= _) (within names (emptyElement name ++ r)) = _
    rw [bind_of_ok (next_of_event hopen)]
    show (next >>= _) _ = _
    rw [bind_of_ok (next_of_event (event_selfClosed names r _))]
    rfl
  | cons c cs =>
    have hopen := event_open names
      (escaped (c :: cs) ++ '<' :: '/' :: (name.toList ++ '>' :: r)) h
    rw [← wrapped_append] at hopen
    show (next >>= _) (within names (wrapped name (escaped (c :: cs)) ++ r)) = _
    rw [bind_of_ok (next_of_event hopen)]
    show (next >>= _) _ = _
    rw [bind_of_ok (next_of_event (event_escaped c cs _ _))]
    show (next >>= _) _ = _
    rw [bind_of_ok (next_of_event (event_close names r h))]
    rfl

/-- Nothing is absent where a child stands. -/
theorem isAbsent_child (h : IsTagName name.toList) (cs r : List Char) :
    (Place.child false).isAbsent (within names (textElement name cs ++ r))
      = .ok (false, within names (textElement name cs ++ r)) := by
  obtain ⟨s, hs⟩ := exists_event_textElement names h cs r
  show (peek >>= _) _ = _
  rw [bind_of_ok (peek_of_event hs)]
  rfl

/-! ## Values of one line -/

/-- **A value that stands as a single text**: a text itself, an integer, and what is optional around
one of these. -/
inductive Line : Shape → Datum → List Char → Prop where
  | text (s : String) : Line .text (.text s) s.toList
  | int {k : WordKind} {n : Int} (fits : k.contains n = true) :
    Line (.int k) (.int k n) (Json.intText n)
  | present {inner : Shape} {d : Datum} {cs : List Char} (value : Line inner d cs) :
    Line (.option inner) (.present d) cs

/-- The text of an integer stands for itself, whatever is done to texts. -/
theorem isPlain_of_mem_intText {n : Int} {c : Char} (h : c ∈ Json.intText n) :
    isPlain c = true ∧ isBlank c = false ∧ isKept c = true := by
  rcases Json.mem_intText h with rfl | hc
  · decide
  · refine ⟨?_, ?_, ?_⟩
    · cases hplain : isPlain c with
      | true => rfl
      | false => rcases not_isPlain hplain with (rfl | rfl) | rfl <;> cases hc
    · cases hblank : isBlank c with
      | false => rfl
      | true =>
        simp only [isBlank, Bool.or_eq_true, decide_eq_true_eq] at hblank
        rcases hblank with ((rfl | rfl) | rfl) | rfl <;> cases hc
    · cases hkept : isKept c with
      | true => rfl
      | false =>
        have hbreak : (c = '\r' ∨ c = Char.ofNat 0x85) ∨ c = Char.ofNat 0x2028 := by
          simpa [isKept, or_iff_not_imp_left] using hkept
        rcases hbreak with (rfl | rfl) | rfl <;> cases hc

/-- A value of one line is written as a child around its text. -/
theorem Line.elements_eq {shape : Shape} {d : Datum} {cs : List Char} (h : Line shape d cs)
    (name : String) : elements name d = .ok (textElement name cs) := by
  induction h with
  | text s =>
    have hempty : s.isEmpty = s.toList.isEmpty := by
      rw [Bool.eq_iff_iff, String.isEmpty_iff, List.isEmpty_iff, String.toList_eq_nil_iff]
    rw [elements, hempty]
    rfl
  | @int k n fits =>
    have hplain : escaped (Json.intText n) = Json.intText n :=
      escaped_of_isPlain fun c hc => (isPlain_of_mem_intText hc).1
    have hne : (Json.intText n).isEmpty = false := by
      obtain ⟨c, r, h, -⟩ := Json.startsNumeral_intText n
      rw [h]
      rfl
    show Except.ok (wrapped name (Json.intText n)) = _
    rw [textElement, hne, hplain]
    rfl
  | present value ih => exact ih

theorem decimalValue_eq (cs : List Char) :
    Binary64.decimalValue cs = Nat.ofDigitChars 10 cs 0 := by
  have hfold : ∀ acc, cs.foldl (fun n c => n * 10 + (c.toNat - '0'.toNat)) acc
      = Nat.ofDigitChars 10 cs acc := by
    induction cs with
    | nil => exact fun acc => rfl
    | cons c cs ih =>
      intro acc
      rw [List.foldl_cons, ih, Nat.ofDigitChars_cons, Nat.mul_comm]
  exact hfold 0

theorem decimalValue_toDigits (n : Nat) : Binary64.decimalValue (Nat.toDigits 10 n) = n :=
  (decimalValue_eq _).trans Nat.ofDigitChars_ten_toDigits

/-- What a sign and digits stand for. -/
theorem int?_of_splitSign {k : IntKind} {cs : List Char} {down : Bool} {n : Nat}
    (hsplit : Binary64.splitSign cs = (down, Nat.toDigits 10 n))
    (hsign : k.signed = false → cs.head? ≠ some '-') :
    int? k cs = (some (if down then -(n : Int) else n)).filter k.contains := by
  have hempty : (Nat.toDigits 10 n).isEmpty = false := by
    rw [List.isEmpty_eq_false_iff]
    exact Nat.toDigits_ne_nil
  have hall : (Nat.toDigits 10 n).all Binary64.isDecimalDigit = true :=
    List.all_eq_true.mpr fun c hc => Json.isDigit_of_mem_toDigits hc
  have hrefused : (!k.signed && decide (cs.head? = some '-')) = false := by
    cases hk : k.signed with
    | true => rfl
    | false => simpa using hsign hk
  unfold int?
  simp only [hsplit, hempty, hall, hrefused, decimalValue_toDigits]
  rfl

/-- **An integer of a type is read back from its text**, with its sign if it is negative, also when
blanks around the text are taken away. -/
theorem int?_intText {k : IntKind} {n : Int} (h : k.contains n = true) :
    int? k (trimmed (Json.intText n)) = some n := by
  rw [trimmed_eq_self fun c hc => (isPlain_of_mem_intText hc).2.1]
  cases n with
  | ofNat n =>
    obtain ⟨c, r, hd, hc⟩ := Json.startsNumeral_toDigits n
    have hminus : c ≠ '-' := by
      rintro rfl
      cases hc
    have hsplit : Binary64.splitSign (Nat.toDigits 10 n) = (false, Nat.toDigits 10 n) := by
      rw [hd]
      unfold Binary64.splitSign
      split
      · next heq => exact absurd (List.cons.inj heq).1 hminus
      · next heq =>
        obtain ⟨rfl, -⟩ := List.cons.inj heq
        cases hc
      · rfl
    have hsign : (Nat.toDigits 10 n).head? ≠ some '-' := by
      rw [hd]
      exact fun heq => hminus (Option.some.inj heq)
    rw [Json.intText, int?_of_splitSign hsplit fun _ => hsign]
    exact Option.filter_some_pos h
  | negSucc n =>
    have hsigned : k.signed = true := by
      cases hk : k.signed with
      | true => rfl
      | false =>
        rw [IntKind.contains, hk] at h
        cases h
    have hsplit : Binary64.splitSign ('-' :: Nat.toDigits 10 (n + 1))
        = (true, Nat.toDigits 10 (n + 1)) := rfl
    rw [Json.intText, int?_of_splitSign hsplit (by simp [hsigned])]
    exact Option.filter_some_pos h

/-- **A value of one line is read back from a child**, if this is the line it has when ends of lines
are equal. An integer has none, so it is always read back. -/
theorem Line.atPlace_child {shape : Shape} {d : Datum} {cs : List Char}
    (hline : Line shape d (withLineEnds cs)) (h : IsTagName name.toList) (r : List Char) :
    shape.atPlace (.child false) (within names (textElement name cs ++ r))
      = .ok (d, within names r) := by
  have htext := text_child names h false cs r
  generalize hcs : withLineEnds cs = line at hline htext
  induction hline with
  | text s =>
    rw [Shape.atPlace, leafAt, bind_of_ok htext]
    show Except.ok (Datum.text (String.ofList s.toList), within names r) = _
    rw [String.ofList_toList]
  | int fits =>
    rw [Shape.atPlace, leafAt, bind_of_ok htext]
    show (orBad _ ((int? _ (trimmed (Json.intText _))).map _)).map _ = _
    rw [int?_intText fits]
    rfl
  | present value ih =>
    rw [Shape.atPlace, bind_of_ok (isAbsent_child h cs r)]
    show (Shape.atPlace _ _ >>= _) _ = _
    rw [bind_of_ok (ih hcs htext)]
    rfl

/-! ## Children of a record -/

/-- A field whose name is one of an element is a child. -/
theorem roleOf_eq (h : IsTagName name.toList) : roleOf name = .child := by
  unfold roleOf
  split
  · next heq =>
    have hchar := h.chars '@' (by rw [heq]; exact List.mem_cons_self)
    cases hchar
  · rw [if_neg]
    rintro rfl
    have hchar := h.chars '$' (by decide)
    cases hchar

variable {fields : List (Field Shape)} {children : List (String × List Char)}
  {ms : List (String × Datum)}

/-- **A child that stands for a field**: it is named for the field, and its text is the line that
the value of the field has. -/
structure StandsFor (fields : List (Field Shape)) (child : String × List Char)
    (m : String × Datum) : Prop where
  name : m.1 = child.1
  tag : IsTagName child.1.toList
  line : ∃ f, fields.find? (·.name = child.1) = some f ∧ Line f.shape m.2 child.2

/-- Children as they are written. -/
def childrenText (children : List (String × List Char)) : List Char :=
  children.flatMap fun c => textElement c.1 c.2

/-- A child whose ends of lines are equal. -/
def linedChild (child : String × List Char) : String × List Char := (child.1, withLineEnds child.2)

theorem fieldParts_eq (h : List.Forall₂ (StandsFor fields) children ms) :
    fieldParts ms = .ok ([], childrenText children) := by
  induction h with
  | nil => rfl
  | @cons child m children ms hm _ ih =>
    obtain ⟨key, d⟩ := m
    obtain ⟨name, cs⟩ := child
    obtain ⟨rfl, htag, f, -, hline⟩ := hm
    rw [fieldParts, roleOf_eq htag]
    show (elements key d >>= _) = _
    rw [hline.elements_eq, ih]
    rfl

/-- **A record is written as an element around its children**, in the order of its fields, with
nothing between them. -/
theorem document_record (h : List.Forall₂ (StandsFor fields) children ms) (hne : children ≠ [])
    (name : String) :
    document (.record name ms) = .ok (wrapped name (childrenText children)) := by
  have hcontent : (childrenText children).isEmpty = false := by
    cases children with
    | nil => exact absurd rfl hne
    | cons child rest =>
      obtain ⟨cs, hcs⟩ := exists_textElement child.1 child.2
      rw [childrenText, List.flatMap_cons, hcs]
      rfl
  rw [document, elements, fieldParts_eq h]
  show Except.ok (element name [] (childrenText children)) = _
  rw [element, hcontent]
  simp [wrapped]

theorem contentMembers_of_start {α : Type} {step : α → String → Source → Reader α} {acc acc' : α}
    {s s' s'' : Stream} (h : IsTagName name.toList)
    (hevent : s.event = .ok (.start (bare name.toList), s'))
    (hstep : step acc name .child s = .ok (acc', s'')) (n : Nat) :
    contentMembers step (n + 1) acc s = contentMembers step n acc' s'' := by
  rw [contentMembers, bind_of_ok (skipBlank_of_event hevent nofun),
    bind_of_ok (peek_of_event hevent)]
  show (step acc (String.ofList (localName name.toList)) .child >>= _) s = _
  rw [h.localName_eq, String.ofList_toList, bind_of_ok hstep]

theorem contentMembers_of_close {α : Type} {step : α → String → Source → Reader α} {acc : α}
    {s s' : Stream} (hevent : s.event = .ok (.close, s')) (n : Nat) :
    contentMembers step (n + 1) acc s = .ok (acc, s') := by
  rw [contentMembers, bind_of_ok (skipBlank_of_event hevent nofun),
    bind_of_ok (peek_of_event hevent)]
  show (next >>= _) s = _
  rw [bind_of_ok (next_of_event hevent)]
  rfl

theorem fieldAt_eq (fields : List (Field Shape)) (tag : Tag) (name : String) (source : Source) :
    Shape.fieldAt fields tag name source
      = (fields.find? (·.name = name)).map fun f => f.shape.ofSource tag source := by
  induction fields with
  | nil => rw [Shape.fieldAt, List.find?_nil, Option.map_none]
  | cons f rest ih =>
    rw [Shape.fieldAt, List.find?_cons]
    by_cases hname : f.name = name
    · rw [if_pos hname, decide_eq_true hname]
      rfl
    · rw [if_neg hname, decide_eq_false hname]
      exact ih

/-- A child that stands for a field is read as this field, unless there was one before. -/
theorem givenStep_child {strict : Bool} {root : List Char} {child : String × List Char}
    {m : String × Datum} (h : StandsFor fields (linedChild child) m)
    {given : List (String × Datum)} (hnew : given.lookup child.1 = none) (r : List Char) :
    givenStep strict (Shape.fieldAt fields (bare root)) given child.1 .child
        (within names (textElement child.1 child.2 ++ r))
      = .ok (m :: given, within names r) := by
  obtain ⟨hname, htag, f, hfind, hline⟩ := h
  obtain ⟨key, d⟩ := m
  obtain rfl : key = child.1 := hname
  have hfield : Shape.fieldAt fields (bare root) child.1 .child
      = some (f.shape.ofSource (bare root) .child) := by
    rw [fieldAt_eq]
    exact congrArg (Option.map _) hfind
  have hread : f.shape.ofSource (bare root) .child (within names (textElement child.1 child.2 ++ r))
      = .ok (d, within names r) := by
    rw [Shape.ofSource]
    exact hline.atPlace_child htag r
  unfold givenStep
  simp only [hfield, hnew]
  exact bind_of_ok hread

/-- **The children of an element are read one after the other**, up to its end. The induction is on
the children; each step reads one and leaves the stream in front of the next. -/
theorem contentMembers_children (strict : Bool) (names : List (List Char)) {root : List Char}
    (hroot : IsTagName root)
    (h : List.Forall₂ (fun child => StandsFor fields (linedChild child)) children ms)
    {given : List (String × Datum)} (hnodup : (ms.map Prod.fst ++ given.map Prod.fst).Nodup)
    {n : Nat} (hn : children.length < n) (r : List Char) :
    contentMembers (givenStep strict (Shape.fieldAt fields (bare root))) n given
        (within (root :: names) (childrenText children ++ '<' :: '/' :: (root ++ '>' :: r)))
      = .ok (ms.reverse ++ given, within names r) := by
  induction h generalizing given n with
  | nil =>
    cases n with
    | zero => cases hn
    | succ n => exact contentMembers_of_close (event_close names r hroot) n
  | @cons child m children ms hm _ ih =>
    cases n with
    | zero => cases hn
    | succ n =>
      have hname : m.1 = child.1 := hm.name
      have htag : IsTagName child.1.toList := hm.tag
      rw [List.map_cons, List.cons_append, List.nodup_cons, hname] at hnodup
      obtain ⟨hfresh, hrest⟩ := hnodup
      have hnew : given.lookup child.1 = none := by
        refine List.lookup_eq_none_iff.mpr fun p hp => bne_iff_ne.mpr fun hname => ?_
        exact hfresh (List.mem_append_right _ (List.mem_map.mpr ⟨p, hp, hname.symm⟩))
      obtain ⟨s, hs⟩ := exists_event_textElement (root :: names) htag child.2
        (childrenText children ++ '<' :: '/' :: (root ++ '>' :: r))
      rw [childrenText, List.flatMap_cons, List.append_assoc, ← childrenText,
        contentMembers_of_start htag hs (givenStep_child hm hnew _),
        ih _ (Nat.lt_of_succ_lt_succ hn)]
      · simp
      · rw [List.map_cons, hname]
        exact List.perm_middle.nodup_iff.mpr (List.nodup_cons.mpr ⟨hfresh, hrest⟩)

/-! ## A record -/

/-- Each child of a record takes a step of the reader, and the text around it allows for it. -/
theorem length_le_childrenText (children : List (String × List Char)) :
    children.length ≤ (childrenText children).length := by
  induction children with
  | nil => exact Nat.le_refl 0
  | cons child rest ih =>
    obtain ⟨cs, hcs⟩ := exists_textElement child.1 child.2
    rw [childrenText, List.flatMap_cons, ← childrenText, hcs, List.length_append, List.length_cons,
      List.length_cons]
    omega

theorem ofString_wrapped (name : String) (content : List Char) :
    Stream.ofString (String.ofList (wrapped name content)) = within [] (wrapped name content) := by
  unfold Stream.ofString
  rw [String.toList_ofList]
  rfl

/-- An element without attributes has the members of its content. -/
theorem members_bare {α : Type} (name : List Char) (step : α → String → Source → Reader α)
    (acc : α) (s : Stream) :
    members (bare name) step acc s = contentMembers step s.bound acc s := rfl

/-- **A record is read back from the element around its children**: the fields are what the children
stand for, whatever the name of the root is. No name may stand twice. -/
theorem ofXml_record (strict : Bool) {root : String} (hroot : IsTagName root.toList)
    (h : List.Forall₂ (fun child => StandsFor fields (linedChild child)) children ms)
    (hnodup : (ms.map Prod.fst).Nodup) (name : String) :
    (Shape.record name strict fields).ofXml (String.ofList (wrapped root (childrenText children)))
      = ((Field.assemble fields ms.reverse).mapError Error.mismatch).map (.record name) := by
  have hopen := event_open [] (childrenText children ++ '<' :: '/' :: (root.toList ++ ['>'])) hroot
  have hn : children.length
      < (within [root.toList]
          (childrenText children ++ '<' :: '/' :: (root.toList ++ ['>']))).bound := by
    have hle := length_le_childrenText children
    show _ < (childrenText children ++ _).length + 2
    rw [List.length_append]
    omega
  have hnew : (ms.map Prod.fst ++ ([] : List (String × Datum)).map Prod.fst).Nodup := by
    simpa using hnodup
  have hmembers := contentMembers_children strict [] hroot h hnew hn []
  rw [List.append_nil] at hmembers
  have helement : Place.root.element (within [] (wrapped root (childrenText children)))
      = .ok (bare root.toList, within [root.toList]
          (childrenText children ++ '<' :: '/' :: (root.toList ++ ['>']))) := by
    show (skipBlank >>= _) _ = _
    rw [← List.append_nil (wrapped root _), wrapped_append,
      bind_of_ok (skipBlank_of_event hopen nofun)]
    show (next >>= _) _ = _
    rw [bind_of_ok (next_of_event hopen)]
    rfl
  unfold Shape.ofXml
  rw [ofString_wrapped, Shape.atPlace]
  show Except.map _ ((Place.root.element >>= _) _) = _
  rw [bind_of_ok helement]
  rw [← members_bare] at hmembers
  rw [bind_of_ok hmembers]
  cases Field.assemble fields ms.reverse with
  | error e => rfl
  | ok fs => rfl

end RestClient.Xml
