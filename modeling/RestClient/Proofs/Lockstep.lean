import Mathlib.Data.List.DropRight
import RestClient.Json.Tree
import RestClient.Proofs.Except

/-!
# Readers in step

Two readers that go over the same text are in step if, where both succeed, they stop at the same
place (`SameRest`). Readers that are in step stay so when they are the items of a list or the
members of an object, as both go through the same loops (`listOf_together`, `members_together`); and
what they collect on the way is related if each item or member keeps it so.

The reader of dynamic values is in step with itself, whatever the bounds on its work and on the
nesting (`value_together`), so a text stands for one value only. What a value is read from is said
in terms of the front of the text (`value_succ`), which is where typed readers begin as well.
-/

namespace RestClient.Json

open Except (Together)

variable {α β γ σ τ : Type}

/-- **Results that leave the same rest**, and are related themselves. Two readers that go through a
text in step are related by it at every place. -/
def SameRest (R : α → β → Prop) (p : α × List Char) (q : β × List Char) : Prop :=
  p.2 = q.2 ∧ R p.1 q.1

namespace SameRest

variable {R : α → β → Prop} {p : α × List Char} {q : β × List Char}

theorem imp {T : α → β → Prop} (h : SameRest R p q) (hT : R p.1 q.1 → T p.1 q.1) :
    SameRest T p q := ⟨h.1, hT h.2⟩

theorem map_left {T : γ → β → Prop} {u : α → γ} (h : SameRest R p q)
    (hT : R p.1 q.1 → T (u p.1) q.1) : SameRest T (u p.1, p.2) q := ⟨h.1, hT h.2⟩

theorem map_right {T : α → γ → Prop} {v : β → γ} (h : SameRest R p q)
    (hT : R p.1 q.1 → T p.1 (v q.1)) : SameRest T p (v q.1, q.2) := ⟨h.1, hT h.2⟩

end SameRest

/-! ## The front of a text -/

theorem skipBlanks_skipBlanks (cs : List Char) : skipBlanks (skipBlanks cs) = skipBlanks cs :=
  List.dropWhile_idempotent isBlank cs

theorem front_skipBlanks (cs : List Char) : front (skipBlanks cs) = front cs := by
  unfold front
  rw [skipBlanks_skipBlanks]

/-- A scalar as a dynamic value. -/
def ofScalar : Scalar → Json
  | .unit => .null
  | .bool b => .bool b
  | .int n => .number (.int n)
  | .float x => .number (.float x)
  | .text s => .string s

/-- The end of a list whose items were read. -/
def closed (p : α × List Char) : Except Error (α × List Char) :=
  (lift (closeList p.2)).map (p.1, ·)

/-- What is read and closed may be changed before or after the end is read. -/
theorem bind_pure_closed (u : α → β) (x : Except Error (α × List Char)) :
    (x >>= fun p => pure (u p.1, p.2)) >>= closed =
      (x >>= closed).map fun p => (u p.1, p.2) := by
  cases x with
  | error e => rfl
  | ok p =>
    show (lift (closeList p.2)).map _ = ((lift (closeList p.2)).map _).map _
    rw [Except.map_map]
    rfl

theorem bind_closeList (u : α → β) (x : Except Error (α × List Char)) :
    (x >>= fun p => lift (closeList p.2) >>= fun r => pure (u p.1, r)) =
      (x >>= closed).map fun p => (u p.1, p.2) := by
  cases x with
  | error e => rfl
  | ok p =>
    show (lift (closeList p.2) >>= _) = ((lift (closeList p.2)).map _).map _
    cases lift (closeList p.2) <;> rfl

/-- What is read in step may be put in something else before the end is read. -/
theorem closeList_together {R : α → β → Prop} {T : γ → β → Prop} {u : α → γ}
    {x : Except Error (α × List Char)} {y : Except Error (β × List Char)}
    (h : Together (SameRest R) (x >>= closed) y) (hT : ∀ a b, R a b → T (u a) b) :
    Together (SameRest T) (x >>= fun p => lift (closeList p.2) >>= fun r => pure (u p.1, r)) y := by
  rw [bind_closeList u]
  exact h.map_left fun p q hpq => hpq.map_left (hT p.1 q.1)

/-- The items of a list with its end. -/
def listOf (item : List Char → Except Error (α × List Char)) (n : Nat) (first : Bool)
    (cs : List Char) : Except Error (List α × List Char) :=
  items item n first cs >>= closed

/-- **A list is read item by item**: the next one and those behind it, or the end. -/
theorem listOf_succ (item : List Char → Except Error (α × List Char)) (n : Nat) (first : Bool)
    (cs : List Char) : listOf item (n + 1) first cs = lift (nextItem first cs) >>= fun p =>
      if p.1 then item p.2 >>= fun q => (listOf item n false q.2).map fun s => (q.1 :: s.1, s.2)
      else closed ([], p.2) := by
  rw [listOf, items, bind_assoc]
  refine bind_congr ?_
  rintro ⟨more, r⟩
  cases more with
  | false => rfl
  | true =>
    show (item r >>= _) >>= closed = item r >>= _
    rw [bind_assoc]
    exact bind_congr fun q => bind_pure_closed (q.1 :: ·) (items item n false q.2)

/-- The value whose front was read. -/
def valueFrom (n depth : Nat) : Front → Except Error (Json × List Char)
  | .scalar s r => .ok (ofScalar s, r)
  | .list r =>
    lift (descend depth) >>= fun depth =>
      (listOf (value n depth) n true r).map fun p => (.array p.1, p.2)
  | .object r =>
    lift (descend depth) >>= fun depth =>
      (members (memberOf (value n depth)) n true [] r).map fun p => (.object p.1, p.2)

theorem ofScalar_toScalar (n : Number) : ofScalar n.toScalar = .number n := by
  cases n <;> rfl

theorem map_eq_map_bind_valueFrom {n depth : Nat} {u : α → Front} {v : α → Json × List Char}
    (h : ∀ a, valueFrom n depth (u a) = .ok (v a)) (x : Except Error α) :
    x.map v = x.map u >>= valueFrom n depth := by
  cases x with
  | error e => rfl
  | ok a => exact (h a).symm

/-- **A value is read from its front on**: the front decides whether it is a scalar, a list or an
object, and the rest follows from there. -/
theorem value_succ (n depth : Nat) (cs : List Char) :
    value (n + 1) depth cs = front cs >>= valueFrom n depth := by
  have hnumber : ∀ p : Number × List Char,
      valueFrom n depth (.scalar p.1.toScalar p.2) = .ok (.number p.1, p.2) := by
    intro p
    rw [valueFrom, ofScalar_toScalar]
  fun_cases front cs
  all_goals simp only [value, *, if_true, Bool.false_eq_true, if_false]
  · rfl
  · exact map_eq_map_bind_valueFrom (fun _ => rfl) _
  · exact map_eq_map_bind_valueFrom (fun _ => rfl) _
  · exact map_eq_map_bind_valueFrom (fun _ => rfl) _
  · exact map_eq_map_bind_valueFrom hnumber _
  · exact map_eq_map_bind_valueFrom (fun _ => rfl) _
  · next r _ =>
    show _ = lift (descend depth) >>= fun depth =>
      (listOf (value n depth) n true r).map fun p => (Json.array p.1, p.2)
    exact bind_congr fun depth => bind_closeList Json.array (items (value n depth) n true r)
  · next r _ =>
    show _ = lift (descend depth) >>= fun depth =>
      (members (memberOf (value n depth)) n true [] r).map fun p => (Json.object p.1, p.2)
    refine bind_congr fun depth => ?_
    cases members (memberOf (value n depth)) n true [] r <;> rfl
  · exact map_eq_map_bind_valueFrom hnumber _
  · rfl

/-- Blanks before a value do not matter. -/
theorem value_skipBlanks (n depth : Nat) (cs : List Char) :
    value n depth (skipBlanks cs) = value n depth cs := by
  cases n with
  | zero => rfl
  | succ n => rw [value_succ, value_succ, front_skipBlanks]

/-! ## Loops in step -/

section Loops

variable {R : α → β → Prop} {item : List Char → Except Error (α × List Char)}
  {item' : List Char → Except Error (β × List Char)}

theorem closed_together {p : α × List Char} {q : β × List Char} (h : SameRest R p q) :
    Together (SameRest R) (closed p) (closed q) := by
  obtain ⟨as, r⟩ := p
  obtain ⟨bs, _⟩ := q
  obtain ⟨rfl, hab⟩ := h
  refine (Together.refl _).map ?_
  rintro r _ rfl
  exact ⟨rfl, hab⟩

/-- **Lists are in step if their items are**, whatever bounds the number of items on either side. -/
theorem listOf_together (h : ∀ cs, Together (SameRest R) (item cs) (item' cs)) (n m : Nat)
    (first : Bool) (cs : List Char) :
    Together (SameRest (List.Forall₂ R)) (listOf item n first cs) (listOf item' m first cs) := by
  induction n generalizing m first cs with
  | zero => exact .error_left _ _
  | succ n ih =>
    cases m with
    | zero => exact .error_right _ _
    | succ m =>
      rw [listOf_succ, listOf_succ]
      refine (Together.refl _).bind ?_
      rintro ⟨more, r⟩ _ rfl
      cases more with
      | false => exact closed_together ⟨rfl, .nil⟩
      | true =>
        refine (h r).bind ?_
        rintro ⟨a, r⟩ ⟨b, _⟩ ⟨rfl, hab⟩
        refine (ih m false r).map ?_
        rintro ⟨as, r⟩ ⟨bs, _⟩ ⟨rfl, habs⟩
        exact ⟨rfl, .cons hab habs⟩

variable {I : σ → τ → Prop} {member : σ → List Char → Except Error (σ × List Char)}
  {member' : τ → List Char → Except Error (τ × List Char)}

/-- **Objects are in step if their members are**, and what is collected stays related if each
member keeps it so. -/
theorem members_together
    (h : ∀ s t cs, I s t → Together (SameRest I) (member s cs) (member' t cs)) (n m : Nat)
    (first : Bool) {s : σ} {t : τ} (cs : List Char) (hst : I s t) :
    Together (SameRest I) (members member n first s cs) (members member' m first t cs) := by
  induction n generalizing m first s t cs with
  | zero => exact .error_left _ _
  | succ n ih =>
    cases m with
    | zero => exact .error_right _ _
    | succ m =>
      unfold members
      refine (Together.refl _).bind ?_
      rintro ⟨more, r⟩ _ rfl
      cases more with
      | false => exact .ok ⟨rfl, hst⟩
      | true =>
        refine (h s t r hst).bind ?_
        rintro ⟨s, r⟩ ⟨t, _⟩ ⟨rfl, hst⟩
        exact ih m false r hst

end Loops

/-! ## One value for a text -/

theorem memberOf_together {value value' : List Char → Except Error (Json × List Char)}
    (h : ∀ cs, Together (SameRest Eq) (value cs) (value' cs)) (ms : List (String × Json))
    (cs : List Char) : Together (SameRest Eq) (memberOf value ms cs) (memberOf value' ms cs) := by
  unfold memberOf
  refine (Together.refl _).bind ?_
  rintro ⟨k, r⟩ _ rfl
  refine (Together.refl _).bind ?_
  rintro r _ rfl
  refine (h r).bind ?_
  rintro ⟨j, r⟩ ⟨_, _⟩ ⟨rfl, rfl⟩
  exact .ok ⟨rfl, rfl⟩

/-- **A text begins with one value only**, whatever the bounds on the work and on the nesting.
Bounds decide whether it is found, and never which it is. -/
theorem value_together (n m depth depth' : Nat) (cs : List Char) :
    Together (SameRest Eq) (value n depth cs) (value m depth' cs) := by
  induction n generalizing m depth depth' cs with
  | zero => exact .error_left _ _
  | succ n ih =>
    cases m with
    | zero => exact .error_right _ _
    | succ m =>
      rw [value_succ, value_succ]
      refine (Together.refl _).bind ?_
      rintro f _ rfl
      cases f with
      | scalar s r => exact .ok ⟨rfl, rfl⟩
      | list r =>
        refine .bind_left fun depth _ => .bind_right fun depth' _ => ?_
        refine (listOf_together (ih m depth depth') n m true r).map ?_
        rintro ⟨js, r⟩ ⟨ks, _⟩ ⟨rfl, h⟩
        obtain rfl := List.forall₂_eq_eq_eq ▸ h
        exact ⟨rfl, rfl⟩
      | object r =>
        refine .bind_left fun depth _ => .bind_right fun depth' _ => ?_
        refine (members_together (fun ms _ cs hms => ?_) n m true r rfl).map ?_
        · obtain rfl := hms
          exact memberOf_together (ih m depth depth') ms cs
        · rintro ⟨ms, r⟩ ⟨_, _⟩ ⟨rfl, rfl⟩
          exact ⟨rfl, rfl⟩

end RestClient.Json
