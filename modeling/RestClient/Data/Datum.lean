import RestClient.Number.Binary32

/-!
# Typed values

A `Datum` is a value together with all that a format may want to know about its type: the width of
an integer, whether a value is optional, the names of records, their fields and the variants of a
choice. Formats write a datum without looking at anything else, so what two formats make of one
value can be compared. Fields of a record are in the order of their declaration.
-/

namespace RestClient

/-- A type of integers: signed or not, of a number of bits. Values of any such type can be written;
the types whose values are read as well are those of a `WordKind`. -/
structure IntKind where
  signed : Bool
  bits : Nat
  deriving DecidableEq, Repr, Inhabited

namespace IntKind

/-- The short name of a type of integers. -/
def name (k : IntKind) : String :=
  (if k.signed then "i" else "u") ++ String.ofList (Nat.toDigits 10 k.bits)

/-- The integers that the type holds. -/
def contains (k : IntKind) (n : Int) : Bool :=
  if k.signed then -Int.pow 2 (k.bits - 1) ≤ n && n < Int.pow 2 (k.bits - 1)
  else 0 ≤ n && n < Int.pow 2 k.bits

/-- The unsigned integers of sixty-four bits. -/
def u64 : IntKind := ⟨false, 64⟩

/-- The signed integers of sixty-four bits. -/
def i64 : IntKind := ⟨true, 64⟩

end IntKind

/-- **A type of integers that sixty-four bits hold.** Only such types are read. The readers take
numerals of sixty-four bits, which is all there is to a narrower type; a wider one would need
numerals of its own, so values of wider types are written and never read. -/
structure WordKind extends IntKind where
  fits : bits ≤ 64 := by decide
  deriving DecidableEq, Repr

namespace WordKind

instance : Coe WordKind IntKind := ⟨toIntKind⟩

/-- The unsigned integers of sixty-four bits. -/
def u64 : WordKind := { IntKind.u64 with }

/-- The signed integers of sixty-four bits. -/
def i64 : WordKind := { IntKind.i64 with }

end WordKind

/-- **A typed value**, as the data model of a serializer has it: what a type says of its values, by
which formats decide how to write them. Names of records, of choices and of variants belong to the
value, as some formats write them. -/
inductive Datum where
  | unit
  | bool (b : Bool)
  | int (kind : IntKind) (n : Int)
  | float (x : Binary64)
  /-- A number of single precision. Whether a format writes its own digits or those of the wider
  number is up to the format. -/
  | float32 (x : Binary32)
  | char (c : Char)
  | text (s : String)
  /-- An optional value that is absent. -/
  | absent
  /-- An optional value that is there. -/
  | present (inner : Datum)
  | seq (items : List Datum)
  | tuple (items : List Datum)
  /-- Keys and values in the order of the keys. -/
  | map (entries : List (Datum × Datum))
  | unitRecord (name : String)
  | wrapper (name : String) (inner : Datum)
  | record (name : String) (fields : List (String × Datum))
  | unitVariant (choice variant : String)
  | wrapperVariant (choice variant : String) (inner : Datum)
  | tupleVariant (choice variant : String) (items : List Datum)
  | recordVariant (choice variant : String) (fields : List (String × Datum))
  /-- A value that no format may write, with the reason. -/
  | refused (reason : String)
  deriving Repr, Inhabited

end RestClient
