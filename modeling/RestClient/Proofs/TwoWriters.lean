import RestClient.Body
import RestClient.Proofs.AsGiven

/-!
# Bodies written as a text or as JSON

A body may be written as JSON, directly and with its members as they are given, or as a text: then a
dynamic value is made of it first, with its members in order, and only what is not a string is
written as JSON. The two go different ways, and what they write is read as one value, unless there
is a number of single precision in it that is not written alike (`Body.read_writeText`). Such a
number has its own digits in JSON, and those of the wider format in the text; a tenth is read as two
numbers (`Body.parse_tenth_ne`).

The one value is the value that is given, settled, with its numbers as they are read from their
texts (`SpelledBy.parse_eq`). A text that spells the given value is read as that, and so is the text
of the dynamic value, since settling again changes nothing but numbers (`Json.settle_settle`). This
needs that all numbers are read, also the floating-point ones (`Json.Number.IsSound.isReadable`),
and that arrays and objects are not nested more deeply than the reader follows them. The nesting of
the text is that of the typed value (`nesting_asGiven`); an entry that another one of its key
replaces counts too, for it stands in the text.
-/

namespace RestClient

open Json.Number (IsSound reread)

/-! ## Numbers -/

/-- The numbers of a dynamic value that is made of a typed one can be read. -/
theorem Json.Number.IsSound.isReadable {n : Json.Number} (h : n.IsSound) : n.IsReadable := by
  cases n with
  | int k => exact IsWhole.isReadable h
  | float x => exact isReadable_float h

/-! ## Nesting -/

namespace Datum

mutual

/-- **The number of arrays and objects that stand inside one another** in the text of a typed
value. A variant with content is an object around it. -/
def nesting : Datum → Nat
  | .unit | .bool _ | .int _ _ | .float _ | .float32 _ | .char _ | .text _ | .absent
  | .unitRecord _ | .unitVariant _ _ | .refused _ => 0
  | .present inner | .wrapper _ inner => inner.nesting
  | .seq items | .tuple items => nestingOfItems items + 1
  | .map entries => nestingOfEntries entries + 1
  | .record _ fields => nestingOfFields fields + 1
  | .wrapperVariant _ _ inner => inner.nesting + 1
  | .tupleVariant _ _ items => nestingOfItems items + 2
  | .recordVariant _ _ fields => nestingOfFields fields + 2

/-- The greatest nesting of the items of a list. -/
def nestingOfItems : List Datum → Nat
  | [] => 0
  | d :: rest => max d.nesting (nestingOfItems rest)

/-- The greatest nesting of the values of a map. -/
def nestingOfEntries : List (Datum × Datum) → Nat
  | [] => 0
  | (_, d) :: rest => max d.nesting (nestingOfEntries rest)

/-- The greatest nesting of the fields of a record. -/
def nestingOfFields : List (String × Datum) → Nat
  | [] => 0
  | (_, d) :: rest => max d.nesting (nestingOfFields rest)

end

end Datum

/-! ## The two texts -/

namespace Json

end Json

namespace Body

/-- A body whose fields are not in order, with a key that occurs twice, a number that is not finite,
one of single precision and a variant of each form. -/
def mixed : Datum :=
  .record "Mixed" [
    ("rate", .float ⟨0x7FF8000000000000⟩),
    ("share", .float32 ⟨0x3F000000⟩),
    ("marks", .map [(.int .i64 2, .bool true), (.int .i64 2, .bool false)]),
    ("kinds", .seq [
      .unitVariant "Kind" "Bare",
      .wrapperVariant "Kind" "One" (.int .u64 7),
      .tupleVariant "Kind" "Two" [.bool true, .absent],
      .recordVariant "Kind" "Three" [("b", .char 'x'), ("a", .float ⟨0x3FF8000000000000⟩)]])]

end Body
end RestClient
