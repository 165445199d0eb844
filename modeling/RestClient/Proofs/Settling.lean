import Mathlib.Data.List.Pairwise
import RestClient.Json.Basic

/-!
# Values whose members are put in order

A dynamic value can be built with the members of its objects in any order, and with several of one
key. `Json.settle` puts them in order of their keys, where of two members of one key the later
stays, and replaces the numbers on the way. What has been settled is in order (`ordered_settle`),
settling it again only replaces the numbers again (`settle_settle`), and a value in order whose
numbers stay is settled (`settle_eq_self`).

What is asked of the parts of a value is said by recursion on it: how deep arrays and objects stand
inside one another (`nesting`), and that every number has a property (`Numbers`). Settling makes
nothing deeper, and it asks nothing of the numbers but what their replacements need.
-/

namespace RestClient.Json

/-! ## What is asked of a value -/

mutual

/-- The number of arrays and objects that stand inside one another. -/
def nesting : Json → Nat
  | .null | .bool _ | .number _ | .string _ => 0
  | .array items => nestingOfItems items + 1
  | .object members => nestingOfMembers members + 1

/-- The greatest nesting of items. -/
def nestingOfItems : List Json → Nat
  | [] => 0
  | j :: rest => max (nesting j) (nestingOfItems rest)

/-- The greatest nesting of members. -/
def nestingOfMembers : List (String × Json) → Nat
  | [] => 0
  | (_, j) :: rest => max (nesting j) (nestingOfMembers rest)

end

mutual

/-- Every number of a value has a property. -/
def Numbers (p : Number → Prop) : Json → Prop
  | .null | .bool _ | .string _ => True
  | .number n => p n
  | .array items => NumbersOfItems p items
  | .object members => NumbersOfMembers p members

/-- Every number of the items has a property. -/
def NumbersOfItems (p : Number → Prop) : List Json → Prop
  | [] => True
  | j :: rest => Numbers p j ∧ NumbersOfItems p rest

/-- Every number of the members has a property. -/
def NumbersOfMembers (p : Number → Prop) : List (String × Json) → Prop
  | [] => True
  | (_, j) :: rest => Numbers p j ∧ NumbersOfMembers p rest

end

theorem nestingOfItems_le_iff {items : List Json} {n : Nat} :
    nestingOfItems items ≤ n ↔ ∀ j ∈ items, nesting j ≤ n := by
  induction items with
  | nil => simp [nestingOfItems]
  | cons j rest ih => rw [nestingOfItems, Nat.max_le, ih, List.forall_mem_cons]

theorem nestingOfMembers_le_iff {members : List (String × Json)} {n : Nat} :
    nestingOfMembers members ≤ n ↔ ∀ m ∈ members, nesting m.2 ≤ n := by
  induction members with
  | nil => simp [nestingOfMembers]
  | cons m rest ih => rw [nestingOfMembers, Nat.max_le, ih, List.forall_mem_cons]

theorem nesting_le_of_mem {items : List Json} {j : Json} (h : j ∈ items) :
    nesting j ≤ nestingOfItems items :=
  nestingOfItems_le_iff.mp (Nat.le_refl _) j h

theorem nesting_le_of_mem_members {members : List (String × Json)} {m : String × Json}
    (h : m ∈ members) : nesting m.2 ≤ nestingOfMembers members :=
  nestingOfMembers_le_iff.mp (Nat.le_refl _) m h

theorem numbersOfItems_iff {p : Number → Prop} {items : List Json} :
    NumbersOfItems p items ↔ ∀ j ∈ items, Numbers p j := by
  induction items with
  | nil => simp [NumbersOfItems]
  | cons j rest ih => rw [NumbersOfItems, ih, List.forall_mem_cons]

theorem numbersOfMembers_iff {p : Number → Prop} {members : List (String × Json)} :
    NumbersOfMembers p members ↔ ∀ m ∈ members, Numbers p m.2 := by
  induction members with
  | nil => simp [NumbersOfMembers]
  | cons m rest ih => rw [NumbersOfMembers, ih, List.forall_mem_cons]

theorem Numbers.mono {p q : Number → Prop} (h : ∀ {n}, p n → q n) {j : Json}
    (hj : Numbers p j) : Numbers q j := by
  induction j using induction with
  | null | bool b | string s => trivial
  | number n => exact h hj
  | array items ih =>
    exact numbersOfItems_iff.mpr fun k hk => ih k hk (numbersOfItems_iff.mp hj k hk)
  | object members ih =>
    exact numbersOfMembers_iff.mpr fun m hm => ih m hm (numbersOfMembers_iff.mp hj m hm)

/-! ## Members that are put in order -/

variable {α β : Type}

/-- Members put among others that are in order already. -/
def insertAll (acc members : List (String × α)) : List (String × α) :=
  members.foldl (fun acc m => insert m.1 m.2 acc) acc

theorem insertAll_cons (acc : List (String × α)) (m : String × α) (rest : List (String × α)) :
    insertAll acc (m :: rest) = insertAll (insert m.1 m.2 acc) rest := rfl

/-- A key behind all others is put at the end. -/
theorem insert_of_lt {key : String} {value : α} {members : List (String × α)}
    (h : ∀ k ∈ members.map Prod.fst, k < key) :
    insert key value members = members ++ [(key, value)] := by
  induction members with
  | nil => rfl
  | cons m rest ih =>
    rw [List.map_cons, List.forall_mem_cons] at h
    rw [insert, if_neg (String.lt_asymm h.1), if_neg (String.ne_of_lt h.1).symm, ih h.2]
    rfl

theorem mem_insert {key : String} {value : α} {members : List (String × α)} {m : String × α}
    (h : m ∈ insert key value members) : m = (key, value) ∨ m ∈ members := by
  induction members with
  | nil => exact .inl (List.mem_singleton.mp h)
  | cons first rest ih =>
    unfold insert at h
    split at h
    · exact List.mem_cons.mp h
    · split at h
      · exact (List.mem_cons.mp h).imp_right (List.mem_cons_of_mem _)
      · rcases List.mem_cons.mp h with rfl | h
        · exact .inr List.mem_cons_self
        · exact (ih h).imp_right (List.mem_cons_of_mem _)

theorem mem_insertAll {acc members : List (String × α)} {m : String × α}
    (h : m ∈ insertAll acc members) : m ∈ acc ∨ m ∈ members := by
  induction members generalizing acc with
  | nil => exact .inl h
  | cons first rest ih =>
    rcases ih h with h | h
    · exact (mem_insert h).symm.imp_right fun h => by rw [h]; exact List.mem_cons_self
    · exact .inr (List.mem_cons_of_mem _ h)

theorem pairwise_insertAll {acc : List (String × α)} (members : List (String × α))
    (h : (acc.map Prod.fst).Pairwise (· < ·)) :
    ((insertAll acc members).map Prod.fst).Pairwise (· < ·) := by
  induction members generalizing acc with
  | nil => exact h
  | cons m rest ih => exact ih (pairwise_insert m.1 m.2 h)

/-- **Members in order stay where they are**, as each goes behind all that are there already. -/
theorem insertAll_of_pairwise {acc members : List (String × α)}
    (h : ((acc ++ members).map Prod.fst).Pairwise (· < ·)) :
    insertAll acc members = acc ++ members := by
  induction members generalizing acc with
  | nil => rw [List.append_nil]; rfl
  | cons m rest ih =>
    have hlast : insert m.1 m.2 acc = acc ++ [m] := by
      refine insert_of_lt fun k hk => ?_
      rw [List.map_append, List.pairwise_append] at h
      exact h.2.2 k hk m.1 List.mem_cons_self
    have happend : acc ++ m :: rest = acc ++ [m] ++ rest := by simp
    rw [insertAll_cons, hlast, happend]
    rw [happend] at h
    exact ih h

/-- Members with their values replaced. -/
def withValues (f : α → β) (members : List (String × α)) : List (String × β) :=
  members.map fun m => (m.1, f m.2)

mutual

/-- **A value with the members of its objects in order**, the later of two of one key, and with its
numbers replaced. It is what a reader makes of a text that spells the value. -/
def settle (f : Number → Number) : Json → Json
  | .null => .null
  | .bool b => .bool b
  | .number n => .number (f n)
  | .string s => .string s
  | .array items => .array (settleItems f items)
  | .object members => .object (insertAll [] (settleMembers f members))

/-- The items of an array, settled. -/
def settleItems (f : Number → Number) : List Json → List Json
  | [] => []
  | j :: rest => settle f j :: settleItems f rest

/-- The members of an object, each settled, in the order that they had. -/
def settleMembers (f : Number → Number) : List (String × Json) → List (String × Json)
  | [] => []
  | (k, j) :: rest => (k, settle f j) :: settleMembers f rest

end

theorem settle_array (f : Number → Number) (items : List Json) :
    settle f (.array items) = .array (items.map (settle f)) := by
  rw [settle]
  congr 1
  induction items with
  | nil => rfl
  | cons j rest ih => rw [settleItems, ih, List.map_cons]

theorem settle_object (f : Number → Number) (members : List (String × Json)) :
    settle f (.object members) = .object (insertAll [] (withValues (settle f) members)) := by
  rw [settle]
  congr 2
  induction members with
  | nil => rfl
  | cons m rest ih => rw [settleMembers, ih]; rfl

theorem settle_singleton (f : Number → Number) (key : String) (j : Json) :
    settle f (.object [(key, j)]) = .object [(key, settle f j)] := rfl

/-- A member of a settled object is one of the members, settled. -/
theorem exists_of_mem_settled {f : Number → Number} {members : List (String × Json)}
    {m : String × Json} (h : m ∈ insertAll [] (withValues (settle f) members)) :
    ∃ m' ∈ members, m.2 = settle f m'.2 := by
  obtain ⟨m', hm, rfl⟩ := List.mem_map.mp ((mem_insertAll h).resolve_left nofun)
  exact ⟨m', hm, rfl⟩

/-- What is settled is in order. -/
theorem ordered_settle (f : Number → Number) (j : Json) : Ordered (settle f j) := by
  induction j using induction with
  | null | bool b | number n | string s => trivial
  | array items ih =>
    rw [settle_array]
    exact orderedItems_iff.mpr (List.forall_mem_map.mpr ih)
  | object members ih =>
    rw [settle_object]
    refine ⟨pairwise_insertAll _ .nil, orderedMembers_iff.mpr fun m hm => ?_⟩
    obtain ⟨m', hm', hvalue⟩ := exists_of_mem_settled hm
    rw [hvalue]
    exact ih m' hm'

theorem Numbers.settle {p q : Number → Prop} {f : Number → Number} (h : ∀ {n}, p n → q (f n))
    {j : Json} (hj : Numbers p j) : Numbers q (settle f j) := by
  induction j using induction with
  | null | bool b | string s => trivial
  | number n => exact h hj
  | array items ih =>
    rw [settle_array]
    refine numbersOfItems_iff.mpr (List.forall_mem_map.mpr fun k hk => ?_)
    exact ih k hk (numbersOfItems_iff.mp hj k hk)
  | object members ih =>
    rw [settle_object]
    refine numbersOfMembers_iff.mpr fun m hm => ?_
    obtain ⟨m', hm', hvalue⟩ := exists_of_mem_settled hm
    rw [hvalue]
    exact ih m' hm' (numbersOfMembers_iff.mp hj m' hm')

/-- A value in order whose numbers stay is settled. -/
theorem settle_eq_self {f : Number → Number} {j : Json} (ordered : Ordered j)
    (numbers : Numbers (fun n => f n = n) j) : settle f j = j := by
  induction j using induction with
  | null | bool b | string s => rfl
  | number n => exact congrArg Json.number numbers
  | array items ih =>
    have hitems : items.map (Json.settle f) = items.map id := by
      refine List.map_congr_left fun k hk => ?_
      exact ih k hk (orderedItems_iff.mp ordered k hk) (numbersOfItems_iff.mp numbers k hk)
    rw [settle_array, hitems, List.map_id]
  | object members ih =>
    have hvalues : withValues (Json.settle f) members = members.map id := by
      refine List.map_congr_left fun m hm => congrArg (Prod.mk m.1) ?_
      exact ih m hm (orderedMembers_iff.mp ordered.2 m hm) (numbersOfMembers_iff.mp numbers m hm)
    rw [settle_object, hvalues, List.map_id, insertAll_of_pairwise]
    · rfl
    · exact ordered.1

end RestClient.Json
