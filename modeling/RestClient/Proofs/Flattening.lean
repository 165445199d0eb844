import RestClient.Proofs.AsGiven
import RestClient.Proofs.ByteOrder
import RestClient.Request

/-!
# What a pair says of its member

A member of the parameters becomes one text, however deep its lists are nested. What the text holds
are the leaves of the member (`Params.leaves`): what is in its lists, at any depth, and neither a
list itself nor a null. The text is that of the leaves with commas between them
(`Params.flatten_of_full`), and taken apart at the commas it gives the leaves back, as long as none
of them has a comma of its own.

The renderer joins a list at each level, and a join of joins is one join (`intercalate_filterMap`)
only if no part of it is empty: a list without a leaf has a text, the empty one, and so would leave
a comma. Hence the condition that every list has a leaf (`Params.Full`).

The pairs come in the order of the members, which is that of their keys, and no key is there twice
(`Datum.ordered_of_toJson`).
-/

namespace RestClient

namespace Params

/-! ## Leaves -/

mutual

/-- **The leaves of a value**, from left to right: the value itself, or what is in its items. A null
has none. An object is one leaf, whatever is in it. -/
def leaves : Json → List Json
  | .null => []
  | .array items => leavesOfItems items
  | j => [j]

/-- The leaves of items. -/
def leavesOfItems : List Json → List Json
  | [] => []
  | j :: rest => leaves j ++ leavesOfItems rest

end

/-- The text of a leaf: a text as it is, anything else in JSON. -/
def leafText : Json → String
  | .string s => s
  | j => j.render

mutual

/-- **No list of the value is without a leaf.** Of a list without one the text is empty, and between
commas it could not be told from the text of an empty leaf. -/
def Full : Json → Prop
  | .array items => leavesOfItems items ≠ [] ∧ FullItems items
  | .null | .bool _ | .number _ | .string _ | .object _ => True

/-- No list of the items is without a leaf. -/
def FullItems : List Json → Prop
  | [] => True
  | j :: rest => Full j ∧ FullItems rest

end

theorem leavesOfItems_eq (items : List Json) : leavesOfItems items = items.flatMap leaves := by
  induction items with
  | nil => rfl
  | cons j rest ih => rw [leavesOfItems, ih, List.flatMap_cons]

theorem fullItems_iff {items : List Json} : FullItems items ↔ ∀ j ∈ items, Full j := by
  induction items with
  | nil => simp [FullItems]
  | cons j rest ih => rw [FullItems, ih, List.forall_mem_cons]

theorem flattenItems_eq (items : List Json) : flattenItems items = items.filterMap flatten := by
  induction items with
  | nil => rfl
  | cons j rest ih =>
    rw [flattenItems, List.filterMap_cons, ih]
    cases flatten j <;> rfl

/-! ## One text for all leaves -/

variable {α : Type}

theorem filterMap_eq_nil_of_flatMap {f : α → List String} {xs : List α} :
    (xs.filterMap fun x => if f x = [] then none else some (",".intercalate (f x))) = [] ↔
      xs.flatMap f = [] := by
  rw [List.filterMap_eq_nil_iff, List.flatMap_eq_nil_iff]
  refine forall₂_congr fun x _ => ?_
  split
  · next h => exact iff_of_true rfl h
  · next h => exact iff_of_false nofun h

/-- **A join of joins is one join**, if what is empty is left out. So nested lists are joined to one
row, with as many commas as there are leaves but one. -/
theorem intercalate_filterMap (f : α → List String) (xs : List α) :
    ",".intercalate (xs.filterMap fun x => if f x = [] then none else some (",".intercalate (f x)))
      = ",".intercalate (xs.flatMap f) := by
  induction xs with
  | nil => rfl
  | cons x xs ih =>
    rw [List.filterMap_cons, List.flatMap_cons]
    by_cases hx : f x = []
    · rw [if_pos hx, hx, List.nil_append]
      exact ih
    · rw [if_neg hx]
      dsimp only
      by_cases hxs : xs.flatMap f = []
      · rw [filterMap_eq_nil_of_flatMap.mpr hxs, hxs, List.append_nil, String.intercalate_singleton]
      · rw [String.intercalate_cons_of_ne_nil (mt filterMap_eq_nil_of_flatMap.mp hxs), ih,
          String.intercalate_append_of_ne_nil hx hxs]

/-- **The text of a value is that of its leaves**, with commas between them, and there is none if
there are no leaves. How the leaves are nested does not show. -/
theorem flatten_of_full {j : Json} (h : Full j) : flatten j
    = if (leaves j).map leafText = [] then none
      else some (",".intercalate ((leaves j).map leafText)) := by
  induction j using Json.induction with
  | null => rfl
  | bool b | number n | string s | object members =>
    rw [leaves, List.map_singleton, if_neg nofun, String.intercalate_singleton]
    · rfl
    all_goals exact nofun
  | array items ih =>
    have hitems : flattenItems items = items.filterMap fun k =>
        if (leaves k).map leafText = [] then none
        else some (",".intercalate ((leaves k).map leafText)) := by
      rw [flattenItems_eq]
      exact List.filterMap_congr fun k hk => ih k hk (fullItems_iff.mp h.2 k hk)
    rw [leaves, if_neg (mt List.map_eq_nil_iff.mp h.1), leavesOfItems_eq, List.map_flatMap,
      ← intercalate_filterMap, ← hitems]
    rfl

/-- **A text for a member**: the texts of its leaves with commas between them, from which they are
read again if none of them has a comma. Leaves with a comma are not escaped. -/
structure IsTextOf (t : String) (j : Json) : Prop where
  joined : t = ",".intercalate ((leaves j).map leafText)
  parts : (∀ l ∈ leaves j, ',' ∉ (leafText l).toList) →
    (t.toList.splitOn ',').map String.ofList = (leaves j).map leafText

theorem isTextOf_of_flatten {j : Json} {t : String} (hfull : Full j) (ht : flatten j = some t) :
    IsTextOf t j := by
  rw [flatten_of_full hfull] at ht
  split at ht
  · cases ht
  · next hne =>
    cases ht
    refine ⟨rfl, fun hcomma => ?_⟩
    rw [String.toList_intercalate]
    have hsplit : ([','].intercalate (((leaves j).map leafText).map String.toList)).splitOn ','
        = ((leaves j).map leafText).map String.toList := by
      refine List.splitOn_intercalate ',' ?_ (mt List.map_eq_nil_iff.mp hne)
      simpa using hcomma
    show (List.splitOn ',' ([','].intercalate _)).map String.ofList = _
    rw [hsplit, List.map_map]
    simp

/-! ## Pairs -/

/-- Whether a value is null. -/
def isNull : Json → Bool
  | .null => true
  | _ => false

/-- **Pairs for the members of an object**: one for each member that is not null and none for the
others, in increasing order of their names as bytes, with the texts of the members. -/
structure AreFor (ps : List (String × String)) (members : List (String × Json)) : Prop where
  one_each : List.Forall₂ (fun p m => p.1 = m.1 ∧ (Full m.2 → IsTextOf p.2 m.2)) ps
    (members.filter fun m => !isNull m.2)
  increasing : (ps.map fun p => Url.bytesOf p.1.toList).Pairwise (· < ·)

theorem forall₂_pairsOf (members : List (String × Json)) :
    List.Forall₂ (fun p m => p.1 = m.1 ∧ flatten m.2 = some p.2) (pairsOf members)
      (members.filter fun m => !isNull m.2) := by
  induction members with
  | nil => exact .nil
  | cons m rest ih =>
    rw [pairsOf, List.filterMap_cons]
    cases hm : flatten m.2 with
    | none =>
      have hnull : m.2 = .null := flatten_eq_none_iff.mp hm
      rw [List.filter_cons_of_neg (by rw [hnull]; decide)]
      exact ih
    | some t =>
      have hnull : isNull m.2 = false := by
        cases hj : m.2 with
        | null =>
          rw [hj] at hm
          cases hm
        | bool b | number n | string s | array items | object others => rfl
      rw [List.filter_cons_of_pos (by rw [hnull]; rfl)]
      exact .cons ⟨rfl, hm⟩ ih

/-- The pairs of members in order. -/
theorem areFor_pairsOf {members : List (String × Json)} (h : (Json.object members).Ordered) :
    AreFor (pairsOf members) members := by
  have heach := forall₂_pairsOf members
  refine ⟨heach.imp fun p m hpm => ⟨hpm.1, fun hfull => isTextOf_of_flatten hfull hpm.2⟩, ?_⟩
  have hnames : (pairsOf members).map Prod.fst
      = (members.filter fun m => !isNull m.2).map Prod.fst := by
    rw [← List.forall₂_eq_eq_eq, List.forall₂_map_left_iff, List.forall₂_map_right_iff]
    exact heach.imp fun p m hpm => hpm.1
  have hsorted : ((pairsOf members).map Prod.fst).Pairwise (· < ·) := by
    rw [hnames]
    exact h.1.sublist (List.filter_sublist.map Prod.fst)
  rw [List.pairwise_map] at hsorted ⊢
  exact hsorted.imp Url.bytesOf_lt_iff.mpr

end Params

/-- **Parameters as pairs.** Of a value that is an object every member but the nulls has one pair,
in order of the names as bytes; its text is that of its leaves, from which they can be read again.
Of any other value, and of one without a dynamic form, there are no pairs, and the error says what
the value was given for, whether as path parameters or as the query. -/
theorem Draft.pairs_flatten (kind : ParamKind) (d : Datum) :
    (∀ members, d.toJson = .ok (.object members) →
      ∃ ps, Draft.pairs kind (some d) = .ok ps ∧ Params.AreFor ps members) ∧
    ((∀ members, d.toJson ≠ .ok (.object members)) →
      ∃ fault, Draft.pairs kind (some d) = .error (.invalidParams kind fault)) := by
  constructor
  · intro members hd
    refine ⟨Params.pairsOf members, ?_, Params.areFor_pairsOf (Datum.ordered_of_toJson hd)⟩
    exact Except.mapError_eq_ok.mpr (Params.toPairs_eq_ok_iff.mpr ⟨members, hd, rfl⟩)
  · intro hd
    cases hpairs : Params.toPairs d with
    | ok ps =>
      obtain ⟨members, hmembers, -⟩ := Params.toPairs_eq_ok_iff.mp hpairs
      exact absurd hmembers (hd members)
    | error fault => exact ⟨fault, Except.mapError_eq_error.mpr ⟨fault, hpairs, rfl⟩⟩

/-! ## Lists in lists -/

/-- A filter by labels and sizes: nulls among the labels, and sizes in groups. -/
def Datum.groupedFilter : Datum := .record "Filter"
  [("sizes", .seq [.seq [.int .i64 1, .int .i64 2], .absent, .seq [.seq [.int .i64 3]]]),
   ("labels", .seq [.text "a", .absent, .record "Range" [("to", .int .i64 9)], .bool true]),
   ("limit", .absent), ("Name", .text "x,y")]

/-- The members of the filter, in order of their keys. -/
def Datum.groupedMembers : List (String × Json) :=
  [("Name", .string "x,y"),
   ("labels", .array [.string "a", .null, .object [("to", .number (.int 9))], .bool true]),
   ("limit", .null),
   ("sizes", .array [.array [.number (.int 1), .number (.int 2)], .null,
     .array [.array [.number (.int 3)]]])]

/-- Groups are not to be seen in the texts, every list of the filter has a leaf, and a list is no
query. -/
theorem Draft.pairs_groupedFilter :
    Datum.groupedFilter.toJson = .ok (.object Datum.groupedMembers) ∧
    Draft.pairs .query (some .groupedFilter)
      = .ok [("Name", "x,y"), ("labels", "a,\x7b\"to\":9\x7d,true"), ("sizes", "1,2,3")] ∧
    Params.AreFor [("Name", "x,y"), ("labels", "a,\x7b\"to\":9\x7d,true"), ("sizes", "1,2,3")]
      Datum.groupedMembers ∧
    (∀ m ∈ Datum.groupedMembers, Params.Full m.2) ∧
    (∀ members, (Datum.seq []).toJson ≠ .ok (.object members)) ∧
    ∃ fault, Draft.pairs .query (some (.seq [])) = .error (.invalidParams .query fault) := by
  have hobject : Datum.groupedFilter.toJson = .ok (.object Datum.groupedMembers) := by rfl
  have hlist : ∀ members, (Datum.seq []).toJson ≠ .ok (.object members) := nofun
  have hpairs : Draft.pairs .query (some .groupedFilter)
      = .ok [("Name", "x,y"), ("labels", "a,\x7b\"to\":9\x7d,true"), ("sizes", "1,2,3")] := by rfl
  obtain ⟨ps, hps, hfor⟩ := (Draft.pairs_flatten .query .groupedFilter).1 _ hobject
  rw [hpairs, Except.ok.injEq] at hps
  rw [← hps] at hfor
  refine ⟨hobject, hpairs, hfor, ?_, hlist, (Draft.pairs_flatten .query (.seq [])).2 hlist⟩
  simp [Datum.groupedMembers, Params.Full, Params.FullItems, Params.leavesOfItems, Params.leaves]

end RestClient
