import RestClient.Number.Layout

/-!
# Dynamic values

The value that a text in JSON stands for. Numbers keep apart the integers and the floating-point
numbers; the members of an object are in increasing order of their keys, no key twice, which
`Json.insert` keeps (`Json.Ordered` is the invariant). The text of a value is `Json.text`: no
blanks, members in order, characters below the space escaped and all others written as they are.
-/

namespace RestClient

/-- A number of a dynamic value. What is a whole number and what is not is decided by how it is
written or by the type of the value, so `1` and `1.0` are different numbers. -/
inductive Json.Number where
  /-- A whole number without fraction and exponent. -/
  | int (n : Int)
  /-- Any other number. -/
  | float (x : Binary64)
  deriving DecidableEq, Repr, Inhabited

/-- A dynamic value: what a text in JSON stands for, without any type. Values that come from texts
or from typed values have the keys of every object in order and each once; see `Json.Ordered`. -/
inductive Json where
  | null
  | bool (b : Bool)
  | number (n : Json.Number)
  | string (s : String)
  | array (items : List Json)
  | object (members : List (String × Json))
  deriving Repr, Inhabited

namespace Json

/-- Puts a member in its place; a member of the same key gives way. Keys are in the order of their
code points. -/
def insert {α : Type} (key : String) (value : α) : List (String × α) → List (String × α)
  | [] => [(key, value)]
  | (k, v) :: rest =>
    if key < k then (key, value) :: (k, v) :: rest
    else if key = k then (key, value) :: rest
    else (k, v) :: insert key value rest

theorem mem_keys_insert {α : Type} {key k : String} {value : α} {members : List (String × α)} :
    k ∈ (insert key value members).map Prod.fst ↔ k = key ∨ k ∈ members.map Prod.fst := by
  induction members with
  | nil => simp [insert]
  | cons m rest ih =>
    unfold insert
    split
    · simp
    · split
      · next h => simp [h]
      · simp only [List.map_cons, List.mem_cons, ih, or_left_comm]

/-- **Putting a member in its place keeps the order.** -/
theorem pairwise_insert {α : Type} (key : String) (value : α) {members : List (String × α)}
    (h : (members.map Prod.fst).Pairwise (· < ·)) :
    ((insert key value members).map Prod.fst).Pairwise (· < ·) := by
  induction members with
  | nil => simp [insert]
  | cons m rest ih =>
    rw [List.map_cons, List.pairwise_cons] at h
    unfold insert
    split
    · next hlt =>
      rw [List.map_cons, List.map_cons, List.pairwise_cons, List.forall_mem_cons,
        List.pairwise_cons]
      exact ⟨⟨hlt, fun k hk => String.lt_trans hlt (h.1 k hk)⟩, h⟩
    · next hlt =>
      split
      · next heq => simpa [heq] using h
      · next hne =>
        have hgt : m.1 < key := by
          rcases Std.lt_trichotomy m.1 key with hgt | heq | hgt
          · exact hgt
          · exact absurd heq.symm hne
          · exact absurd hgt hlt
        rw [List.map_cons, List.pairwise_cons]
        refine ⟨fun k hk => ?_, ih h.2⟩
        rcases mem_keys_insert.mp hk with rfl | hk
        · exact hgt
        · exact h.1 k hk

theorem lookup_cons_eq_ite {α : Type} (m : String × α) (rest : List (String × α)) (k : String) :
    (m :: rest).lookup k = if k = m.1 then some m.2 else rest.lookup k := by
  obtain ⟨key, value⟩ := m
  by_cases h : k = key
  · rw [if_pos h, h, List.lookup_cons_self]
  · have hb : (k == key) = false := by simpa using h
    rw [if_neg h, List.lookup_cons, hb]

/-- **The member is found under its key, and what other keys find stays.** -/
theorem lookup_insert {α : Type} (key k : String) (value : α) (members : List (String × α)) :
    (insert key value members).lookup k = if k = key then some value else members.lookup k := by
  induction members with
  | nil => simp [insert, lookup_cons_eq_ite]
  | cons m rest ih =>
    unfold insert
    split
    · rw [lookup_cons_eq_ite]
    · split
      · next heq =>
        rw [lookup_cons_eq_ite, lookup_cons_eq_ite, ← heq]
        by_cases hk : k = key <;> simp [hk]
      · next hne =>
        rw [lookup_cons_eq_ite, ih, lookup_cons_eq_ite]
        by_cases hk : k = key
        · simp [hk, hne]
        · simp [hk]

/-- A key below all others is not among them. -/
theorem lookup_eq_none_of_lt {α : Type} {key : String} {members : List (String × α)}
    (h : ∀ k ∈ members.map Prod.fst, key < k) : members.lookup key = none := by
  rw [List.lookup_eq_none_iff]
  intro m hm
  rw [bne_iff_ne]
  rintro rfl
  exact String.lt_irrefl m.1 (h m.1 (List.mem_map_of_mem hm))

/-- **Members in order are determined by what is found under each key.** -/
theorem eq_of_lookup_eq {α : Type} {xs ys : List (String × α)}
    (hx : (xs.map Prod.fst).Pairwise (· < ·)) (hy : (ys.map Prod.fst).Pairwise (· < ·))
    (h : ∀ k, xs.lookup k = ys.lookup k) : xs = ys := by
  induction xs generalizing ys with
  | nil =>
    cases ys with
    | nil => rfl
    | cons y ys => simpa [lookup_cons_eq_ite] using h y.1
  | cons x xs ih =>
    cases ys with
    | nil => simpa [lookup_cons_eq_ite] using h x.1
    | cons y ys =>
      rw [List.map_cons, List.pairwise_cons] at hx hy
      have hfound : ∀ k, (if k = x.1 then some x.2 else xs.lookup k)
          = if k = y.1 then some y.2 else ys.lookup k := by
        intro k
        rw [← lookup_cons_eq_ite, ← lookup_cons_eq_ite, h]
      -- A first key that is below the other list's would not be found there.
      have hkey : x.1 = y.1 := by
        rcases Std.lt_trichotomy x.1 y.1 with hlt | heq | hgt
        · have hnone : ys.lookup x.1 = none :=
            lookup_eq_none_of_lt fun k hk => String.lt_trans hlt (hy.1 k hk)
          have hhead := hfound x.1
          rw [if_pos rfl, if_neg (String.ne_of_lt hlt), hnone] at hhead
          cases hhead
        · exact heq
        · have hnone : xs.lookup y.1 = none :=
            lookup_eq_none_of_lt fun k hk => String.lt_trans hgt (hx.1 k hk)
          have hhead := hfound y.1
          rw [if_pos rfl, if_neg (String.ne_of_lt hgt), hnone] at hhead
          cases hhead
      have hvalue : x.2 = y.2 := by simpa [hkey] using hfound x.1
      have hrest : xs = ys := by
        refine ih hx.2 hy.2 fun k => ?_
        by_cases hk : k = x.1
        · rw [hk, lookup_eq_none_of_lt hx.1, hkey, lookup_eq_none_of_lt hy.1]
        · simpa [hk, ← hkey] using hfound k
      rw [hrest, Prod.ext hkey hvalue]

/-- **Induction on values**: of an array its items may be assumed, of an object its members. -/
theorem induction {P : Json → Prop} (null : P .null) (bool : ∀ b, P (.bool b))
    (number : ∀ n, P (.number n)) (string : ∀ s, P (.string s))
    (array : ∀ items, (∀ j ∈ items, P j) → P (.array items))
    (object : ∀ members, (∀ m ∈ members, P m.2) → P (.object members)) (j : Json) : P j :=
  Json.rec (motive_1 := P) (motive_2 := fun items => ∀ j ∈ items, P j)
    (motive_3 := fun members => ∀ m ∈ members, P m.2) (motive_4 := fun m => P m.2)
    null bool number string array object nofun
    (fun _ _ hj hrest => List.forall_mem_cons.mpr ⟨hj, hrest⟩) nofun
    (fun _ _ hm hrest => List.forall_mem_cons.mpr ⟨hm, hrest⟩) (fun _ _ h => h) j

/-- The members in order of their keys; of two members of one key the later stays. This is how an
object comes out of a text in which its members may stand in any order. -/
def ofMembers (members : List (String × Json)) : Json :=
  .object (members.foldl (fun acc m => insert m.1 m.2 acc) [])

mutual

/-- Every object of the value has its keys in strictly increasing order, inside of other values
too. -/
def Ordered : Json → Prop
  | .null | .bool _ | .number _ | .string _ => True
  | .array items => OrderedItems items
  | .object members => (members.map Prod.fst).Pairwise (· < ·) ∧ OrderedMembers members

/-- Every item is ordered. -/
def OrderedItems : List Json → Prop
  | [] => True
  | j :: rest => Ordered j ∧ OrderedItems rest

/-- Every member's value is ordered. -/
def OrderedMembers : List (String × Json) → Prop
  | [] => True
  | (_, j) :: rest => Ordered j ∧ OrderedMembers rest

end

theorem orderedItems_iff {items : List Json} :
    OrderedItems items ↔ ∀ j ∈ items, Ordered j := by
  induction items with
  | nil => simp [OrderedItems]
  | cons j rest ih => rw [OrderedItems, ih, List.forall_mem_cons]

theorem orderedMembers_iff {members : List (String × Json)} :
    OrderedMembers members ↔ ∀ m ∈ members, Ordered m.2 := by
  induction members with
  | nil => simp [OrderedMembers]
  | cons m rest ih => rw [OrderedMembers, ih, List.forall_mem_cons]

/-! ## Text -/

/-- Floating-point numbers in JSON: the point is written out from `10 ^ -5` up to `10 ^ 16`, a
whole number keeps a point and a zero, a positive exponent has its sign. A number that is not
finite has no text of its own and is written as the null. -/
def floatLayout : FloatLayout := ⟨some (-5), some 16, true, true, "null", "null"⟩

/-- Numbers of single precision in JSON: their point is written out from `10 ^ -6` up to
`10 ^ 13`. -/
def singleLayout : FloatLayout := { floatLayout with low := some (-6), high := some 13 }

/-- A floating-point number in JSON, by the fewest digits that read back as it; the null if it is
not finite, as JSON has no such numbers. -/
def floatText (x : Binary64) : List Char :=
  if x.isFinite then floatLayout.text x.numeric else "null".toList

/-- **A number of single precision in JSON**, by the fewest digits that name it among the numbers of
its own precision. What is not finite is null. -/
def singleText (x : Binary32) : List Char :=
  if x.isFinite then singleLayout.text x.numeric else "null".toList

/-- An integer in decimal digits. -/
def intText (n : Int) : List Char :=
  match n with
  | .ofNat n => Nat.toDigits 10 n
  | .negSucc n => '-' :: Nat.toDigits 10 (n + 1)

/-- A number in JSON. -/
def Number.text : Number → List Char
  | .int n => intText n
  | .float x => floatText x

/-- Two digits to base sixteen. -/
def twoHex (n : Nat) : List Char :=
  [Nat.digitChar (n / 16), Nat.digitChar (n % 16)]

/-- How a character stands inside a string. Only what cannot stand there as it is, is escaped: the
quote, the backslash and control characters. -/
def escapedChar (c : Char) : List Char :=
  if c = '"' then ['\\', '"']
  else if c = '\\' then ['\\', '\\']
  else if 0x20 ≤ c.toNat then [c]
  else if c = '\n' then ['\\', 'n']
  else if c = '\r' then ['\\', 'r']
  else if c = '\t' then ['\\', 't']
  else if c = Char.ofNat 8 then ['\\', 'b']
  else if c = Char.ofNat 12 then ['\\', 'f']
  else ['\\', 'u', '0', '0'] ++ twoHex c.toNat

/-- A string between its quotes. Quotes, backslashes and control characters are escaped, and all
else stands for itself, whatever its code point. -/
def stringText (s : String) : List Char :=
  '"' :: (s.toList.flatMap escapedChar ++ ['"'])

mutual

/-- **The text of a value**, without blanks. Members stand in the order in which the value has
them. -/
def text : Json → List Char
  | .null => "null".toList
  | .bool true => "true".toList
  | .bool false => "false".toList
  | .number n => n.text
  | .string s => stringText s
  | .array items => '[' :: itemsText items
  | .object members => Char.ofNat 0x7B :: membersText members

/-- The items of an array, separated by commas, and the closing bracket. -/
def itemsText : List Json → List Char
  | [] => [']']
  | [j] => text j ++ [']']
  | j :: rest => text j ++ ',' :: itemsText rest

/-- The members of an object, separated by commas, and the closing brace. -/
def membersText : List (String × Json) → List Char
  | [] => [Char.ofNat 0x7D]
  | [(k, j)] => stringText k ++ ':' :: (text j ++ [Char.ofNat 0x7D])
  | (k, j) :: rest => stringText k ++ ':' :: (text j ++ ',' :: membersText rest)

end

/-- The text of a value as a string. -/
def render (j : Json) : String := String.ofList j.text

/-- The value of a member, if the value is an object that has it. -/
def get? (j : Json) (key : String) : Option Json :=
  match j with
  | .object members => (members.find? (·.1 = key)).map (·.2)
  | _ => none

end Json
end RestClient
