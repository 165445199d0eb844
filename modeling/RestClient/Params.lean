import RestClient.Json.Write

/-!
# Parameters as pairs

Path parameters and queries are records or maps. As pairs of a name and a text each member is one
pair: a text as it is, a list as its items with commas between them, anything else in JSON. A null
is left out, as a member and as an item.
-/

namespace RestClient

/-- Where parameters go: into the placeholders of a path or behind its question mark. Both are
flattened alike, and only messages tell them apart. -/
inductive ParamKind where
  | path
  | query
  deriving DecidableEq, Repr

/-- How messages call the parameters. -/
def ParamKind.label : ParamKind → String
  | .path => "path parameters"
  | .query => "query"

/-- Why parameters have no pairs: the value has no dynamic form at all, or it has one that is not an
object and so has no members to name the pairs after. -/
inductive Params.Fault where
  | unwritable (e : Json.Unwritable)
  /-- They are a value of another kind than an object. -/
  | notObject (j : Json)
  deriving Repr

namespace Params

/-- How messages call a kind of dynamic values. -/
def kindName : Json → String
  | .null => "null"
  | .bool _ => "a boolean"
  | .number _ => "a number"
  | .string _ => "a string"
  | .array _ => "an array"
  | .object _ => "an object"

/-- The message of a fault. -/
def Fault.message : Fault → String
  | .unwritable e => e.message
  | .notObject j => "expected an object, got " ++ kindName j

mutual

/-- **The text of a member**, nothing for the null. A text is taken as it is, without quotes; the
items of a list that have a text are joined with commas, and a list inside a list is joined the same
way, so that the nesting does not show; every other value is written in JSON. -/
def flatten : Json → Option String
  | .null => none
  | .string s => some s
  | .array items => some (",".intercalate (flattenItems items))
  | j => some j.render

/-- The texts of the items that have one, in order. A null among the items is left out and not
written as an empty text, so it leaves no comma behind either. -/
def flattenItems : List Json → List String
  | [] => []
  | j :: rest =>
    match flatten j with
    | some t => t :: flattenItems rest
    | none => flattenItems rest

end

/-- The pairs of the members that have a text: every member that is not null gives exactly one pair,
under its own name and at its own place. -/
def pairsOf (members : List (String × Json)) : List (String × String) :=
  members.filterMap fun m => (flatten m.2).map (m.1, ·)

/-- **The pairs of parameters**, in order of their names. The value is made dynamic first, which
sorts the members of a record and keeps the last of two members with one name; a value without a
dynamic form, and one whose dynamic form is no object, has no pairs. -/
def toPairs (d : Datum) : Except Fault (List (String × String)) :=
  match d.toJson with
  | .error e => .error (.unwritable e)
  | .ok (.object members) => .ok (pairsOf members)
  | .ok j => .error (.notObject j)

/-! ## Members without a text -/

theorem flatten_eq_none_iff {j : Json} : flatten j = none ↔ j = .null := by
  cases j <;> simp [flatten]

theorem pairsOf_eq_nil_iff {members : List (String × Json)} :
    pairsOf members = [] ↔ ∀ m ∈ members, m.2 = .null := by
  unfold pairsOf
  simp only [List.filterMap_eq_nil_iff, Option.map_eq_none_iff, flatten_eq_none_iff]

theorem toPairs_eq_ok_iff {d : Datum} {ps : List (String × String)} :
    toPairs d = .ok ps ↔ ∃ members, d.toJson = .ok (.object members) ∧ pairsOf members = ps := by
  unfold toPairs
  split
  · next h => simp [h]
  · next members h => simp [h]
  · next j hj h =>
    rw [h]
    constructor
    · intro h
      cases h
    · rintro ⟨members, hm, -⟩
      rw [Except.ok.injEq] at hm
      exact (hj members hm).elim

end Params
end RestClient
