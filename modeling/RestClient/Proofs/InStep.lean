import RestClient.Proofs.NamedFields

/-!
# Types whose values are read in step

`Shape.read` goes over a text, and so does the reader of dynamic values, whose result `Shape.ofJson`
reads. A type is read in step (`Shape.InStep`) if the two stop at the same place wherever both come
through, and the typed value is then what is read from the dynamic one, as `Shape.Reads` has it.

Both begin with the front of the text (`front_together`). From there on each form of a type is in
step if the types of its parts are. An optional value is absent where the front is the null, and
nothing else is null (`exists_skipBlanks_of_value`). The parts of a tuple are read where the items
of the array are (`nextOfFixed_together`), and so are the fields of a record that is written as an
array, except that fields may be missing at its end: they have their defaults on either side
(`readPositions_of_ended`).
-/

namespace RestClient

open Except (Together)
open Json

namespace Shape

/-- **A type whose values are read in step**: straight from a text, and from the dynamic value that
the text begins with, whatever the bounds on the work and on the nesting. Where both readers succeed
they stop at the same place. -/
def InStep (shape : Shape) : Prop :=
  ∀ n depth depth' cs,
    Together (SameRest shape.Reads) (shape.read depth cs) (value n depth' cs)

/-! ## From the front on -/

/-- **What is read from the front on is in step** if each of the three kinds of front is: scalars,
lists and objects. -/
theorem front_together {R : Datum → Json → Prop} {f : Front → Except Error (Datum × List Char)}
    (hscalar : ∀ s r, Together (SameRest R) (f (.scalar s r))
      (.ok (Json.ofScalar s, r) : Except Error _))
    (hlist : ∀ n depth r, Together (SameRest fun d js => R d (.array js)) (f (.list r))
      (listOf (value n depth) n true r))
    (hobject : ∀ n depth r, Together (SameRest fun d ms => R d (.object ms)) (f (.object r))
      (members (memberOf (value n depth)) n true [] r)) (n depth : Nat) (cs : List Char) :
    Together (SameRest R) (front cs >>= f) (value n depth cs) := by
  cases n with
  | zero => exact .error_right _ _
  | succ n =>
    rw [value_succ]
    refine (Together.refl _).bind ?_
    rintro front _ rfl
    cases front with
    | scalar s r => exact hscalar s r
    | list r =>
      refine .bind_right fun depth _ => (hlist n depth r).map_right fun _ _ h => ?_
      exact h.map_right id
    | object r =>
      refine .bind_right fun depth _ => (hobject n depth r).map_right fun _ _ h => ?_
      exact h.map_right id

theorem openList_together {R : Datum → Json → Prop} (expected : String)
    {f : List Char → Except Error (Datum × List Char)}
    (h : ∀ n depth r, Together (SameRest fun d js => R d (.array js)) (f r)
      (listOf (value n depth) n true r)) (n depth : Nat) (cs : List Char) :
    Together (SameRest R) (openList expected cs >>= f) (value n depth cs) := by
  unfold openList
  rw [bind_assoc]
  exact front_together (fun _ _ => .error_left _ _) h (fun _ _ _ => .error_left _ _) n depth cs

theorem openObject_together {R : Datum → Json → Prop} (expected : String)
    {f : List Char → Except Error (Datum × List Char)}
    (h : ∀ n depth r, Together (SameRest fun d ms => R d (.object ms)) (f r)
      (members (memberOf (value n depth)) n true [] r)) (n depth : Nat) (cs : List Char) :
    Together (SameRest R) (openObject expected cs >>= f) (value n depth cs) := by
  unfold openObject
  rw [bind_assoc]
  exact front_together (fun _ _ => .error_left _ _) (fun _ _ _ => .error_left _ _) h n depth cs

/-! ## Values without parts -/

theorem scalarOf_ofScalar (shape : Shape) (s : Scalar) :
    scalarOf shape (Json.ofScalar s) = unfit (shape.ofScalar s) := by
  cases s <;> rfl

theorem readScalar_together (shape : Shape) (n depth : Nat) (cs : List Char) :
    Together (SameRest fun d j => scalarOf shape j = .ok d) (readScalar shape cs)
      (value n depth cs) := by
  unfold readScalar
  refine front_together ?_ (fun _ _ _ => .error_left _ _) (fun _ _ _ => .error_left _ _) n depth cs
  intro s r
  refine .bind_left fun d hd => .ok ⟨rfl, ?_⟩
  exact (scalarOf_ofScalar shape s).trans hd

theorem inStep_of_isScalar {shape : Shape} (h : shape.IsScalar) : shape.InStep := by
  intro n depth depth' cs
  rw [read_of_isScalar h]
  refine (readScalar_together shape n depth' cs).mono fun _ _ hp => hp.imp fun hd => ?_
  exact .of_ok ((ofJson_of_isScalar h _).trans hd) (namesFields_of_isScalar h _)

theorem inStep_any : InStep .any := by
  intro n depth depth' cs
  refine (value_together (cs.length + 1) n depth depth' cs).map_left fun p q hp => ?_
  refine hp.map_left fun hj => .of_ok ?_ rfl
  rw [hj]
  rfl

/-! ## Values around another -/

theorem inStep_wrapper {name : String} {inner : Shape} (h : inner.InStep) :
    InStep (.wrapper name inner) := by
  intro n depth depth' cs
  refine (h n depth depth' cs).map_left fun _ _ hp => hp.map_left fun hd => ?_
  exact hd.map (Datum.wrapper name)

/-- What the scalar at the front of a text is read from: the null from its word, a text from
between its quotes. -/
theorem front_eq_scalar {cs r : List Char} {s : Scalar} (h : front cs = .ok (.scalar s r)) :
    (s = .unit ∧ ∃ r', skipBlanks cs = 'n' :: r') ∨
    (∃ v r', s = .text v ∧ skipBlanks cs = '"' :: r' ∧ readString r' = .ok (v, r)) ∨
    (∃ b, s = .bool b) ∨ ∃ n : Number, s = n.toScalar := by
  have hnumeral : ∀ x : Except Error (Number × List Char),
      x.map (fun p => Front.scalar p.1.toScalar p.2) = .ok (.scalar s r) →
        ∃ n : Number, s = n.toScalar := by
    intro x hx
    obtain ⟨p, -, heq⟩ := Except.map_eq_ok.mp hx
    exact ⟨p.1, (Front.scalar.inj heq).1.symm⟩
  unfold front at h
  split at h
  · cases h
  · next r' hcs =>
    obtain ⟨_, -, heq⟩ := Except.map_eq_ok.mp h
    exact .inl ⟨(Front.scalar.inj heq).1.symm, r', hcs⟩
  · obtain ⟨_, -, heq⟩ := Except.map_eq_ok.mp h
    exact .inr (.inr (.inl ⟨true, (Front.scalar.inj heq).1.symm⟩))
  · obtain ⟨_, -, heq⟩ := Except.map_eq_ok.mp h
    exact .inr (.inr (.inl ⟨false, (Front.scalar.inj heq).1.symm⟩))
  · exact .inr (.inr (.inr (hnumeral _ h)))
  · next r' hcs =>
    obtain ⟨⟨v, _⟩, hv, heq⟩ := Except.map_eq_ok.mp h
    cases heq
    exact .inr (.inl ⟨v, r', rfl, hcs, Except.mapError_eq_ok.mp hv⟩)
  · cases h
  · cases h
  · split at h
    · exact .inr (.inr (.inr (hnumeral _ h)))
    · cases h

/-- The null is found only where a text begins as its word does. -/
theorem exists_skipBlanks_of_value {n depth : Nat} {cs r : List Char}
    (h : value n depth cs = .ok (.null, r)) : ∃ r', skipBlanks cs = 'n' :: r' := by
  cases n with
  | zero => cases h
  | succ n =>
    rw [value_succ] at h
    obtain ⟨f, hfront, hvalue⟩ := Except.bind_eq_ok.mp h
    cases f with
    | scalar s r' =>
      cases s <;> cases hvalue
      rcases front_eq_scalar hfront with ⟨-, h⟩ | ⟨_, _, h, -⟩ | ⟨_, h⟩ | ⟨m, h⟩
      · exact h
      · cases h
      · cases h
      · cases m <;> cases h
    | list r' =>
      obtain ⟨_, -, h⟩ := Except.bind_eq_ok.mp hvalue
      obtain ⟨_, -, heq⟩ := Except.map_eq_ok.mp h
      cases heq
    | object r' =>
      obtain ⟨_, -, h⟩ := Except.bind_eq_ok.mp hvalue
      obtain ⟨_, -, heq⟩ := Except.map_eq_ok.mp h
      cases heq

theorem reads_option {inner : Shape} {d : Datum} {j : Json} (hj : j ≠ .null)
    (h : inner.Reads d j) : (Shape.option inner).Reads (.present d) j := by
  have hof : (Shape.option inner).ofJson j = (inner.ofJson j).map .present := by
    cases j <;> first | rfl | exact absurd rfl hj
  have hnames : (Shape.option inner).namesFields j = inner.namesFields j := by
    cases j <;> first | rfl | exact absurd rfl hj
  unfold Reads
  rw [hof, hnames]
  exact h.map Datum.present

theorem inStep_option {inner : Shape} (h : inner.InStep) : InStep (.option inner) := by
  intro n depth depth' cs
  by_cases hn : ∃ r, skipBlanks cs = 'n' :: r
  · obtain ⟨r, hr⟩ := hn
    have hread : read (.option inner) depth cs =
        (lift (word ['u', 'l', 'l'] r)).map (.absent, ·) := by
      rw [read, hr]
      rfl
    have hfront : front cs = (lift (word ['u', 'l', 'l'] r)).map (.scalar .unit) := by
      rw [front, hr]
      rfl
    rw [hread]
    cases n with
    | zero => exact .error_right _ _
    | succ n =>
      rw [value_succ, hfront]
      cases lift (word ['u', 'l', 'l'] r) with
      | error e => exact .error_left _ _
      | ok r' => exact .ok ⟨rfl, .of_ok rfl rfl⟩
  · have hread : read (.option inner) depth cs =
        (inner.read depth (skipBlanks cs)).map fun p => (.present p.1, p.2) := by
      rw [read]
      split
      · next r hr => exact absurd ⟨r, hr⟩ hn
      · rfl
    rw [hread, ← value_skipBlanks]
    rintro p ⟨j, r⟩ hp hj
    have hnull : j ≠ .null := by
      rintro rfl
      rw [value_skipBlanks] at hj
      exact hn (exists_skipBlanks_of_value hj)
    obtain ⟨⟨d, r'⟩, hd, rfl⟩ := Except.map_eq_ok.mp hp
    obtain ⟨hrest, hreads⟩ := h n depth depth' (skipBlanks cs) hd hj
    exact ⟨hrest, reads_option hnull hreads⟩

/-! ## Lists -/

theorem reads_seq {item : Shape} {ds : List Datum} {js : List Json}
    (h : List.Forall₂ item.Reads ds js) : (Shape.seq item).Reads (.seq ds) (.array js) := by
  have hitems : (js.mapM fun j => item.ofJson j).Yields ds (∀ j ∈ js, item.namesFields j = true) :=
    .mapM h.flip
  exact (hitems.map Datum.seq).congr List.all_eq_true.symm

theorem inStep_seq {item : Shape} (h : item.InStep) : InStep (.seq item) := by
  intro n depth depth' cs
  refine openList_together _ (fun n depth' r => .bind_left fun depth _ => ?_) n depth' cs
  exact closeList_together (listOf_together (h n depth depth') _ _ true r)
    fun _ _ hds => reads_seq hds

/-! ## Parts by their places -/

/-- **The next part of a list of fixed length is in step** with the next item of a list, if the
part is and if what is done with it is in step with the items behind it. -/
theorem nextOfFixed_together {α : Type} {R : Datum → Json → Prop} {T : α → List Json → Prop}
    {part : List Char → Except Error (Datum × List Char)}
    {item : List Char → Except Error (Json × List Char)}
    {f : Option Datum × List Char → Except Error (α × List Char)} {first : Bool} {cs : List Char}
    (hpart : ∀ cs, Together (SameRest R) (part cs) (item cs))
    (hnone : ∀ r n, nextItem first cs = .ok (false, r) →
      Together (SameRest T) (f (none, r)) (listOf item n first cs))
    (hsome : ∀ d j r n, R d j →
      Together (SameRest fun a js => T a (j :: js)) (f (some d, r)) (listOf item n false r))
    (n : Nat) :
    Together (SameRest T) (nextOfFixed first cs part >>= f) (listOf item n first cs) := by
  cases n with
  | zero => exact .error_right _ _
  | succ n =>
    cases hnext : nextItem first cs with
    | error e =>
      rw [nextOfFixed, hnext]
      exact .error_left _ _
    | ok p =>
      obtain ⟨more, r⟩ := p
      cases more with
      | false =>
        rw [nextOfFixed, hnext]
        exact hnone r (n + 1) hnext
      | true =>
        rw [nextOfFixed, listOf_succ, hnext]
        show Together _ ((part r >>= _) >>= f) (item r >>= _)
        rw [bind_assoc]
        refine (hpart r).bind ?_
        rintro ⟨d, r⟩ ⟨j, _⟩ ⟨rfl, hd⟩
        exact (hsome d j r n hd).map_right fun _ _ h => h.map_right id

theorem skipBlanks_of_closeList {cs r : List Char} (h : closeList cs = .ok r) :
    skipBlanks cs = ']' :: r := by
  unfold closeList at h
  split at h
  · cases h
  · next hcs =>
    cases h
    exact hcs
  · split at h <;> cases h
  · cases h

theorem skipBlanks_of_nextItem {first : Bool} {cs r : List Char}
    (h : nextItem first cs = .ok (false, r)) : ∃ r', skipBlanks cs = ']' :: r' := by
  unfold nextItem at h
  split at h
  · cases h
  · next r' hcs => exact ⟨r', hcs⟩
  · split at h
    · cases h
    · split at h
      · split at h <;> cases h
      · cases h

theorem nextItem_of_ended {cs r : List Char} (h : skipBlanks cs = ']' :: r) (first : Bool) :
    nextItem first cs = .ok (false, ']' :: r) := by
  rw [nextItem, h]
  rfl

/-- At the end of a list there are no items. -/
theorem listOf_of_ended {α : Type} (item : List Char → Except Error (α × List Char)) {n : Nat}
    {first : Bool} {cs r : List Char} (h : skipBlanks cs = ']' :: r) {p : List α × List Char}
    (hp : listOf item n first cs = .ok p) : p = ([], r) := by
  cases n with
  | zero => cases hp
  | succ n =>
    rw [listOf_succ, nextItem_of_ended h] at hp
    cases hp
    rfl

/-- Where nothing more is wanted no items are left. -/
theorem closed_together_nil {α : Type} (a : α) (item : List Char → Except Error (Json × List Char))
    (n : Nat) (first : Bool) (cs : List Char) :
    Together (SameRest fun b js => b = a ∧ js = []) (closed (a, cs)) (listOf item n first cs) := by
  intro p q hclosed hlist
  obtain ⟨r, hr, rfl⟩ := Except.map_eq_ok.mp hclosed
  obtain rfl := listOf_of_ended item
    (skipBlanks_of_closeList (Except.mapError_eq_ok.mp hr)) hlist
  exact ⟨rfl, rfl, rfl⟩

/-! ### Tuples -/

theorem itemsOf_yields_cons {s : Shape} {rest : List Shape} {expected : String} {i : Nat}
    {d : Datum} {ds : List Datum} {j : Json} {js : List Json} (hd : s.Reads d j)
    (hds : (itemsOf rest expected (i + 1) js).Yields (ds, []) (namesItems rest js = true)) :
    (itemsOf (s :: rest) expected i (j :: js)).Yields (d :: ds, [])
      (namesItems (s :: rest) (j :: js) = true) := by
  refine (hd.bind (hds.bind_ok (b := (d :: ds, [])) ?_)).congr (Bool.and_eq_true _ _).symm.to_iff
  rfl

/-- **The items of a tuple are in step**, if those of each type are, by induction on the types; one
side has read all items when the other stops at the last that it wants. -/
theorem readItems_together {shapes : List Shape} (h : ∀ s ∈ shapes, s.InStep) (expected : String)
    (i n m depth depth' : Nat) (cs : List Char) :
    Together
      (SameRest fun ds js =>
        (itemsOf shapes expected i js).Yields (ds, []) (namesItems shapes js = true))
      (readItems shapes depth expected i cs >>= closed)
      (listOf (value n depth') m (i = 0) cs) := by
  induction shapes generalizing i m cs with
  | nil =>
    refine (closed_together_nil [] _ m _ cs).mono ?_
    rintro ⟨_, r⟩ ⟨_, _⟩ ⟨rfl, rfl, rfl⟩
    exact ⟨rfl, .of_ok rfl rfl⟩
  | cons s rest ih =>
    obtain ⟨hs, hrest⟩ := List.forall_mem_cons.mp h
    rw [readItems, bind_assoc]
    refine nextOfFixed_together (hs n depth depth') (fun _ _ _ => .error_left _ _) ?_ m
    intro d j r m hd
    show Together _
      ((readItems rest depth expected (i + 1) r >>= fun p => pure (d :: p.1, p.2)) >>= closed) _
    rw [bind_pure_closed (d :: ·)]
    refine (ih hrest (i + 1) m r).map_left fun _ _ h => h.map_left fun hds => ?_
    exact itemsOf_yields_cons hd hds

theorem inStep_tuple {shapes : List Shape} (h : ∀ s ∈ shapes, s.InStep) :
    InStep (.tuple shapes) := by
  intro n depth depth' cs
  refine openList_together _ (fun n depth' r => .bind_left fun depth _ => ?_) n depth' cs
  exact closeList_together (readItems_together h _ 0 n n depth depth' r)
    fun _ _ hds => hds.bind_ok rfl

/-! ### Records that are written as arrays -/

/-- Behind the end of a list all fields have their defaults. -/
theorem readPositions_of_ended (fields : List (Field Shape)) (depth : Nat) (expected : String)
    (i : Nat) {cs r : List Char} (h : skipBlanks cs = ']' :: r) :
    readPositions fields depth expected i cs >>= closed =
      (positionsOf fields expected i []).map fun p => (p.1, r) := by
  induction fields generalizing i cs with
  | nil =>
    show (lift (closeList cs)).map _ = _
    rw [closeList, h]
    rfl
  | cons f rest ih =>
    obtain ⟨name, shape, default?, skipAbsent⟩ := f
    rw [readPositions, nextOfFixed, nextItem_of_ended h]
    cases default? with
    | none => rfl
    | some d =>
      have hnext : skipBlanks (']' :: r) = ']' :: r := rfl
      show (readPositions rest depth expected (i + 1) (']' :: r) >>=
        fun p => pure (Field.place _ d p.1, p.2)) >>= closed = _
      rw [bind_pure_closed (Field.place _ d), ih (i + 1) hnext, positionsOf]
      cases positionsOf rest expected (i + 1) [] <;> rfl

theorem positionsOf_nil_eq_ok {fields : List (Field Shape)} {expected : String} {i : Nat}
    {p : List (String × Datum) × List Json} (h : positionsOf fields expected i [] = .ok p) :
    p.2 = [] := by
  induction fields generalizing i p with
  | nil =>
    cases h
    rfl
  | cons f rest ih =>
    obtain ⟨name, shape, default?, skipAbsent⟩ := f
    cases default? with
    | none => cases h
    | some d =>
      obtain ⟨q, hq, heq⟩ := Except.bind_eq_ok.mp h
      cases heq
      show q.2 = []
      exact ih hq

theorem positionsOf_yields_cons {f : Field Shape} {rest : List (Field Shape)} {expected : String}
    {i : Nat} {d : Datum} {ds : List (String × Datum)} {j : Json} {js : List Json}
    (hd : f.shape.Reads d j)
    (hds : (positionsOf rest expected (i + 1) js).Yields (ds, [])
      (namesPositions rest js = true)) :
    (positionsOf (f :: rest) expected i (j :: js)).Yields (f.place d ds, [])
      (namesPositions (f :: rest) (j :: js) = true) := by
  refine (hd.bind (hds.bind_ok (b := (f.place d ds, [])) ?_)).congr
    (Bool.and_eq_true _ _).symm.to_iff
  rfl

/-- **The fields of a record that is written as an array are in step**, if those of each type
are. -/
theorem readPositions_together {fields : List (Field Shape)} (h : ∀ f ∈ fields, f.shape.InStep)
    (expected : String) (i n m depth depth' : Nat) (cs : List Char) :
    Together
      (SameRest fun ds js =>
        (positionsOf fields expected i js).Yields (ds, []) (namesPositions fields js = true))
      (readPositions fields depth expected i cs >>= closed)
      (listOf (value n depth') m (i = 0) cs) := by
  induction fields generalizing i m cs with
  | nil =>
    refine (closed_together_nil [] _ m _ cs).mono ?_
    rintro ⟨_, r⟩ ⟨_, _⟩ ⟨rfl, rfl, rfl⟩
    exact ⟨rfl, .of_ok rfl rfl⟩
  | cons f rest ih =>
    obtain ⟨hf, hrest⟩ := List.forall_mem_cons.mp h
    by_cases hend : ∃ r, skipBlanks cs = ']' :: r
    · obtain ⟨r, hr⟩ := hend
      rw [readPositions_of_ended _ _ _ _ hr]
      intro _ _ hread hlist
      obtain ⟨⟨ds, left⟩, hpositions, rfl⟩ := Except.map_eq_ok.mp hread
      obtain rfl := positionsOf_nil_eq_ok hpositions
      obtain rfl := listOf_of_ended _ hr hlist
      exact ⟨rfl, .of_ok hpositions rfl⟩
    · rw [readPositions, bind_assoc]
      refine nextOfFixed_together (hf n depth depth')
        (fun r m hnext => absurd (skipBlanks_of_nextItem hnext) hend) ?_ m
      intro d j r m hd
      show Together _
        ((readPositions rest depth expected (i + 1) r >>= fun p => pure (f.place d p.1, p.2)) >>=
          closed) _
      rw [bind_pure_closed (f.place d)]
      refine (ih hrest (i + 1) m r).map_left fun _ _ h => h.map_left fun hds => ?_
      exact positionsOf_yields_cons hd hds

end Shape

end RestClient
