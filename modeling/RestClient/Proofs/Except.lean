import Mathlib.Data.List.Forall2

/-!
# Steps that may fail

When a sequence of steps succeeds, and when it fails with which error. With these, a sequence is
taken apart one step at a time.

Two programs may be told apart by their results and still come to the same: `Except.Agree` compares
outcomes up to a relation between results, and asks for the very same error where one fails.
`Except.Together` asks for nothing where one fails, and relates the results where both succeed. Of a
single outcome `Except.Yields` says both, which result it is and when there is one.
-/

namespace Except

variable {ε δ α β : Type}

/-- A sequence succeeds when both of its steps do. -/
theorem bind_eq_ok {x : Except ε α} {f : α → Except ε β} {b : β} :
    (x >>= f) = .ok b ↔ ∃ a, x = .ok a ∧ f a = .ok b := by
  cases x with
  | error e => exact ⟨nofun, nofun⟩
  | ok a => exact ⟨fun h => ⟨a, rfl, h⟩, fun ⟨_, h, hf⟩ => by cases h; exact hf⟩

/-- **The first step that fails decides.** The second one can fail only with the result of the
first. -/
theorem bind_eq_error {x : Except ε α} {f : α → Except ε β} {e : ε} :
    (x >>= f) = .error e ↔ x = .error e ∨ ∃ a, x = .ok a ∧ f a = .error e := by
  cases x with
  | error d =>
    constructor
    · intro h
      cases h
      exact .inl rfl
    · rintro (h | ⟨a, h, -⟩)
      · cases h
        rfl
      · cases h
  | ok a =>
    constructor
    · exact fun h => .inr ⟨a, rfl, h⟩
    · rintro (h | ⟨b, h, hf⟩)
      · cases h
      · cases h
        exact hf

theorem map_eq_ok {x : Except ε α} {f : α → β} {b : β} :
    x.map f = .ok b ↔ ∃ a, x = .ok a ∧ f a = b := by
  cases x with
  | error e => exact ⟨nofun, nofun⟩
  | ok a => simp [Except.map]

theorem map_eq_error {x : Except ε α} {f : α → β} {e : ε} :
    x.map f = .error e ↔ x = .error e := by
  cases x with
  | error d => simp [Except.map]
  | ok a => exact ⟨nofun, nofun⟩

theorem map_map {γ : Type} (f : α → β) (g : β → γ) (x : Except ε α) :
    (x.map f).map g = x.map (g ∘ f) := by
  cases x <;> rfl

/-- What is put around a result may be taken off again. -/
theorem map_map_of_leftInverse {f : α → β} {g : β → α} (h : ∀ a, g (f a) = a) (x : Except ε α) :
    (x.map f).map g = x := by
  cases x with
  | error e => rfl
  | ok a => exact congrArg Except.ok (h a)

theorem mapError_eq_ok {x : Except ε α} {f : ε → δ} {a : α} :
    x.mapError f = .ok a ↔ x = .ok a := by
  cases x with
  | error e => exact ⟨nofun, nofun⟩
  | ok b =>
    constructor
    · exact fun h => congrArg Except.ok (Except.ok.inj h)
    · exact fun h => congrArg Except.ok (Except.ok.inj h)

theorem mapError_eq_error {x : Except ε α} {f : ε → δ} {d : δ} :
    x.mapError f = .error d ↔ ∃ e, x = .error e ∧ f e = d := by
  cases x with
  | error e =>
    constructor
    · exact fun h => ⟨e, rfl, Except.error.inj h⟩
    · rintro ⟨_, h, rfl⟩
      cases h
      rfl
  | ok a => exact ⟨nofun, nofun⟩

theorem toOption_eq_some {x : Except ε α} {a : α} : x.toOption = some a ↔ x = .ok a := by
  cases x with
  | error e => exact ⟨nofun, nofun⟩
  | ok b =>
    show some b = some a ↔ Except.ok b = .ok a
    rw [Option.some.injEq, Except.ok.injEq]

/-! ## A step for each item of a list -/

/-- **All items succeed**, each with its own result, and the results stand in the order of the
items. -/
theorem mapM_eq_ok_iff {f : α → Except ε β} {xs : List α} {ys : List β} :
    xs.mapM f = .ok ys ↔ List.Forall₂ (fun x y => f x = .ok y) xs ys := by
  induction xs generalizing ys with
  | nil =>
    rw [List.forall₂_nil_left_iff]
    exact ⟨fun h => by cases h; rfl, fun h => by rw [h]; rfl⟩
  | cons x xs ih =>
    rw [List.mapM_cons, List.forall₂_cons_left_iff, bind_eq_ok]
    constructor
    · rintro ⟨y, hy, h⟩
      obtain ⟨zs, hzs, h⟩ := bind_eq_ok.mp h
      cases h
      exact ⟨y, zs, hy, ih.mp hzs, rfl⟩
    · rintro ⟨y, zs, hy, hzs, rfl⟩
      exact ⟨y, hy, bind_eq_ok.mpr ⟨zs, ih.mpr hzs, rfl⟩⟩

theorem exists_mapM_eq_ok_iff {f : α → Except ε β} {xs : List α} :
    (∃ ys, xs.mapM f = .ok ys) ↔ ∀ x ∈ xs, ∃ y, f x = .ok y := by
  simp only [mapM_eq_ok_iff]
  induction xs with
  | nil => exact iff_of_true ⟨[], .nil⟩ nofun
  | cons x xs ih =>
    rw [List.forall_mem_cons, ← ih]
    simp only [List.forall₂_cons_left_iff]
    constructor
    · rintro ⟨_, y, ys, hy, hys, rfl⟩
      exact ⟨⟨y, hy⟩, ys, hys⟩
    · rintro ⟨⟨y, hy⟩, ys, hys⟩
      exact ⟨_, y, ys, hy, hys, rfl⟩

/-- **The first item that fails decides**, and all items in front of it succeed. -/
theorem mapM_eq_error_iff {f : α → Except ε β} {xs : List α} {e : ε} :
    xs.mapM f = .error e ↔ ∃ front x back, xs = front ++ x :: back ∧
      (∀ y ∈ front, ∃ b, f y = .ok b) ∧ f x = .error e := by
  induction xs with
  | nil =>
    constructor
    · exact nofun
    · rintro ⟨front, x, back, h, -⟩
      cases front <;> cases h
  | cons x xs ih =>
    rw [List.mapM_cons, bind_eq_error]
    constructor
    · rintro (h | ⟨b, hb, h⟩)
      · exact ⟨[], x, xs, rfl, nofun, h⟩
      · rcases bind_eq_error.mp h with h | ⟨bs, -, h⟩
        · obtain ⟨front, y, back, rfl, hfront, hy⟩ := ih.mp h
          exact ⟨x :: front, y, back, rfl, List.forall_mem_cons.mpr ⟨⟨b, hb⟩, hfront⟩, hy⟩
        · cases h
    · rintro ⟨front, y, back, h, hfront, hy⟩
      cases front with
      | nil =>
        cases h
        exact .inl hy
      | cons z front =>
        cases h
        obtain ⟨⟨b, hb⟩, hfront⟩ := List.forall_mem_cons.mp hfront
        exact .inr ⟨b, hb, bind_eq_error.mpr (.inl (ih.mpr ⟨front, y, back, rfl, hfront, hy⟩))⟩

/-! ## Outcomes that agree -/

/-- **Two outcomes that agree**: they are one error, or two results that are related. Computations
that agree succeed together and fail together. -/
inductive Agree (R : α → β → Prop) : Except ε α → Except ε β → Prop where
  | error (e : ε) : Agree R (.error e) (.error e)
  | ok {a : α} {b : β} (related : R a b) : Agree R (.ok a) (.ok b)

variable {γ η : Type} {R : α → β → Prop} {x : Except ε α} {y : Except ε β}

theorem agree_ok_iff {b : β} : Agree R x (.ok b) ↔ ∃ a, x = .ok a ∧ R a b := by
  constructor
  · rintro ⟨⟩
    exact ⟨_, rfl, ‹_›⟩
  · rintro ⟨a, rfl, h⟩
    exact .ok h

theorem Agree.symm {S : β → α → Prop} (hxy : Agree R x y) (h : ∀ {a b}, R a b → S b a) :
    Agree S y x := by
  cases hxy with
  | error e => exact .error e
  | ok hab => exact .ok (h hab)

theorem Agree.trans {S : β → γ → Prop} {T : α → γ → Prop} {z : Except ε γ} (hxy : Agree R x y)
    (hyz : Agree S y z) (h : ∀ {a b c}, R a b → S b c → T a c) : Agree T x z := by
  cases hxy with
  | error e =>
    cases hyz
    exact .error e
  | ok hab =>
    cases hyz with
    | ok hbc => exact .ok (h hab hbc)

theorem Agree.map_right {S : α → γ → Prop} {g : β → γ} (hxy : Agree R x y)
    (h : ∀ {a b}, R a b → S a (g b)) : Agree S x (y.map g) := by
  cases hxy with
  | error e => exact .error e
  | ok hab => exact .ok (h hab)

theorem Agree.map {S : γ → η → Prop} {f : α → γ} {g : β → η} (hxy : Agree R x y)
    (h : ∀ {a b}, R a b → S (f a) (g b)) : Agree S (x.map f) (y.map g) := by
  cases hxy with
  | error e => exact .error e
  | ok hab => exact .ok (h hab)

/-- Steps that agree may be followed by steps that agree. -/
theorem Agree.bind {S : γ → η → Prop} {f : α → Except ε γ} {g : β → Except ε η}
    (hxy : Agree R x y) (h : ∀ {a b}, R a b → Agree S (f a) (g b)) :
    Agree S (x >>= f) (y >>= g) := by
  cases hxy with
  | error e => exact .error e
  | ok hab => exact h hab

theorem Agree.mapError (hxy : Agree R x y) (f : ε → δ) : Agree R (x.mapError f) (y.mapError f) := by
  cases hxy with
  | error e => exact .error (f e)
  | ok hab => exact .ok hab

/-! ## Outcomes that are related where both succeed -/

/-- **Two outcomes that are related, if both succeed.** Nothing is said of one that fails, so the
errors may be of different types. -/
def Together (R : α → β → Prop) (x : Except ε α) (y : Except δ β) : Prop :=
  ∀ ⦃a b⦄, x = .ok a → y = .ok b → R a b

namespace Together

variable {S : γ → η → Prop} {x : Except ε α} {y : Except δ β} {f : α → Except ε γ}
  {g : β → Except δ η}

theorem refl (x : Except ε α) : Together Eq x x :=
  fun _ _ ha hb => Except.ok.inj (ha.symm.trans hb)

theorem ok {a : α} {b : β} (h : R a b) : Together R (.ok a : Except ε α) (.ok b : Except δ β) := by
  intro c d hc hd
  cases hc
  cases hd
  exact h

theorem error_left (e : ε) (y : Except δ β) : Together R (.error e) y := nofun

theorem error_right (x : Except ε α) (e : δ) : Together R x (.error e) := nofun

theorem map_right {T : α → η → Prop} {v : β → η} (h : Together R x y)
    (hT : ∀ a b, R a b → T a (v b)) : Together T x (y.map v) := by
  intro a d ha hd
  obtain ⟨b, hb, rfl⟩ := map_eq_ok.mp hd
  exact hT a b (h ha hb)

theorem map_left {T : γ → β → Prop} {u : α → γ} (h : Together R x y)
    (hT : ∀ a b, R a b → T (u a) b) : Together T (x.map u) y := by
  intro c b hc hb
  obtain ⟨a, ha, rfl⟩ := map_eq_ok.mp hc
  exact hT a b (h ha hb)

theorem mono {T : α → β → Prop} (h : Together R x y) (hT : ∀ a b, R a b → T a b) :
    Together T x y := fun a b ha hb => hT a b (h ha hb)

/-- Steps that are related may be followed by steps that are related. -/
theorem bind (h : Together R x y) (hf : ∀ a b, R a b → Together S (f a) (g b)) :
    Together S (x >>= f) (y >>= g) := by
  intro c d hc hd
  obtain ⟨a, ha, hc⟩ := bind_eq_ok.mp hc
  obtain ⟨b, hb, hd⟩ := bind_eq_ok.mp hd
  exact hf a b (h ha hb) hc hd

/-- One of the two may take a step alone. -/
theorem bind_left {T : γ → β → Prop} (h : ∀ a, x = .ok a → Together T (f a) y) :
    Together T (x >>= f) y := by
  intro c b hc hb
  obtain ⟨a, ha, hc⟩ := bind_eq_ok.mp hc
  exact h a ha hc hb

theorem bind_right {T : α → η → Prop} (h : ∀ b, y = .ok b → Together T x (g b)) :
    Together T x (y >>= g) := by
  intro a d ha hd
  obtain ⟨b, hb, hd⟩ := bind_eq_ok.mp hd
  exact h b hb ha hd

/-- One of the two may take a step more. -/
theorem then_left {T : γ → β → Prop} (h : Together R x y)
    (hT : ∀ a b c, R a b → f a = .ok c → T c b) : Together T (x >>= f) y := by
  intro c b hc hb
  obtain ⟨a, ha, hc⟩ := bind_eq_ok.mp hc
  exact hT a b c (h ha hb) hc

theorem mapError_left {ζ : Type} (h : Together R x y) (u : ε → ζ) :
    Together R (x.mapError u) y := fun _ _ ha hb => h (mapError_eq_ok.mp ha) hb

theorem mapError_right {ζ : Type} (h : Together R x y) (u : δ → ζ) :
    Together R x (y.mapError u) := fun _ _ ha hb => h ha (mapError_eq_ok.mp hb)

theorem map {u : α → γ} {v : β → η} (h : Together R x y) (hS : ∀ a b, R a b → S (u a) (v b)) :
    Together S (x.map u) (y.map v) := by
  intro c d hc hd
  obtain ⟨a, ha, rfl⟩ := map_eq_ok.mp hc
  obtain ⟨b, hb, rfl⟩ := map_eq_ok.mp hd
  exact hS a b (h ha hb)

end Together

/-! ## The result of an outcome -/

/-- **An outcome that is known**: it succeeds if the condition holds, and then with this result.
Unlike an equation it leaves the error open. -/
def Yields (x : Except ε α) (a : α) (p : Prop) : Prop := ∀ b, x = .ok b ↔ b = a ∧ p

namespace Yields

variable {p q : Prop} {a : α} {b : β} {x : Except ε α} {f : α → Except ε β}

theorem of_ok (h : x = .ok a) (hp : p) : x.Yields a p := by
  intro b
  rw [h, Except.ok.injEq, and_iff_left hp, eq_comm]

theorem error (e : ε) (a : α) (h : ¬p) : (.error e : Except ε α).Yields a p :=
  fun _ => iff_of_false nofun fun hp => h hp.2

theorem congr (h : x.Yields a p) (hpq : p ↔ q) : x.Yields a q := by
  intro b
  rw [h b, hpq]

theorem bind (h : x.Yields a p) (hf : (f a).Yields b q) : (x >>= f).Yields b (p ∧ q) := by
  intro c
  rw [bind_eq_ok]
  constructor
  · rintro ⟨a', ha, hc⟩
    obtain ⟨rfl, hp⟩ := (h a').mp ha
    obtain ⟨hb, hq⟩ := (hf c).mp hc
    exact ⟨hb, hp, hq⟩
  · rintro ⟨hb, hp, hq⟩
    exact ⟨a, (h a).mpr ⟨rfl, hp⟩, (hf c).mpr ⟨hb, hq⟩⟩

/-- A step that succeeds does not change the condition. -/
theorem bind_ok (h : x.Yields a p) (hf : f a = .ok b) : (x >>= f).Yields b p := by
  exact (h.bind (of_ok hf trivial)).congr (and_iff_left trivial)

theorem map (h : x.Yields a p) (u : α → β) : (x.map u).Yields (u a) p := by
  intro c
  rw [map_eq_ok]
  constructor
  · rintro ⟨a', ha, rfl⟩
    obtain ⟨rfl, hp⟩ := (h a').mp ha
    exact ⟨rfl, hp⟩
  · rintro ⟨rfl, hp⟩
    exact ⟨a, (h a).mpr ⟨rfl, hp⟩, rfl⟩

/-- **Steps for the items of a list** succeed if the condition of each item holds, and then give the
results of all of them. -/
theorem mapM {g : α → Except ε β} {P : α → Prop} {xs : List α} {ys : List β}
    (h : List.Forall₂ (fun x y => (g x).Yields y (P x)) xs ys) :
    (xs.mapM g).Yields ys (∀ x ∈ xs, P x) := by
  induction h with
  | nil => exact of_ok rfl nofun
  | @cons x y xs ys hx _ ih =>
    have hrest : (xs.mapM g >>= fun ys => pure (y :: ys)).Yields (y :: ys) (∀ x ∈ xs, P x) :=
      ih.bind_ok rfl
    rw [List.mapM_cons]
    exact (hx.bind hrest).congr List.forall_mem_cons.symm

end Yields

end Except
