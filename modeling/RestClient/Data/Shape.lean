import RestClient.Data.Datum
import RestClient.Data.Mismatch

/-!
# Shapes

A `Shape` describes a type of values: what to expect when one is read, and how to put the parts
together. Each format reads under a shape in its own way; what all of them share is here: the name
under which a message calls a type (`Shape.expecting`), the scalars a type accepts
(`Shape.ofScalar`), and how the fields that were read become a record (`Field.assemble`).
-/

namespace RestClient

/-- A field of a record, with the shape of its values and what happens where none is given. -/
structure Field (σ : Type) where
  name : String
  shape : σ
  /-- The value of the field where none is given. A field without one is required, unless its
  values are optional. -/
  default? : Option Datum := none
  /-- Whether the field is left out of the record when its value is absent. -/
  skipAbsent : Bool := false

/-- The content of a variant of a choice: nothing, one value, several values in a row, or named
fields. -/
inductive VariantBody (σ : Type) where
  | unit
  | wrapper (inner : σ)
  | tuple (items : List σ)
  | record (fields : List (Field σ))

/-- **The types that the keys of a map may have.** A text has to spell such a key, as the name of a
member or of an element, so keys have no parts. -/
inductive KeyShape where
  | text
  | int (kind : WordKind)
  | bool
  deriving DecidableEq, Repr

/-- **A type of values**, as a deserializer sees it: what it asks a format for, and what it makes of
what is there. Of a type itself only its names stay, which messages need. -/
inductive Shape where
  /-- Any dynamic value. -/
  | any
  | unit
  | bool
  | int (kind : WordKind)
  | float
  | char
  | text
  | option (inner : Shape)
  | seq (item : Shape)
  | tuple (items : List Shape)
  | map (key : KeyShape) (value : Shape)
  | unitRecord (name : String)
  | wrapper (name : String) (inner : Shape)
  /-- A record; a strict one has no other fields than those named. -/
  | record (name : String) (strict : Bool) (fields : List (Field Shape))
  | choice (name : String) (variants : List (String × VariantBody Shape))

/-- A value without parts, as a format finds it. Each format has its own ways to find one, and
`Shape.ofScalar` says for all of them which type takes it. -/
inductive Scalar where
  | unit
  | bool (b : Bool)
  | int (n : Int)
  | float (x : Binary64)
  | text (s : String)
  deriving DecidableEq, Repr

/-- What a scalar is called when it was not expected. -/
def Scalar.found : Scalar → Found
  | .unit => .unit
  | .bool b => .bool b
  | .int n => .int n
  | .float x => .float x
  | .text s => .text s

namespace Shape

/-- A count with its noun. -/
def elements (n : Nat) : String :=
  String.ofList (Nat.toDigits 10 n) ++ (if n = 1 then " element" else " elements")

/-- How a message calls a tuple of a size. -/
def tupleOf (n : Nat) : String :=
  "a tuple of size " ++ String.ofList (Nat.toDigits 10 n)

/-- **How a message calls a type**: by its kind and, where its declaration has one, by its name.
What the type is made of does not show. -/
def expecting : Shape → String
  | .any => "any valid JSON value"
  | .unit => "unit"
  | .bool => "a boolean"
  | .int k => k.name
  | .float => "f64"
  | .char => "a character"
  | .text => "a string"
  | .option _ => "option"
  | .seq _ => "a sequence"
  | .tuple items => tupleOf items.length
  | .map _ _ => "a map"
  | .unitRecord name => "unit struct " ++ name
  | .wrapper name _ => "tuple struct " ++ name
  | .record name _ _ => "struct " ++ name
  | .choice name _ => "enum " ++ name

/-- Whether values of the type are optional. -/
def isOption : Shape → Bool
  | .option _ => true
  | _ => false

/-- **A scalar as a value of a type.** An integer type takes the integers it holds, the
floating-point type takes integers as well, a character is a text of length one. What takes no
scalar answers with a mismatch that names what was found. -/
def ofScalar (shape : Shape) (s : Scalar) : Except Mismatch Datum :=
  match shape, s with
  | .unit, .unit => .ok .unit
  | .unitRecord name, .unit => .ok (.unitRecord name)
  | .bool, .bool b => .ok (.bool b)
  | .int k, .int n =>
    if k.contains n then .ok (.int k n) else .error (.wrongValue (.int n) k.name)
  | .float, .int n => .ok (.float (Binary64.ofInt n))
  | .float, .float x => .ok (.float x)
  | .char, .text t =>
    match t.toList with
    | [c] => .ok (.char c)
    | _ => .error (.wrongValue (.text t) shape.expecting)
  | .text, .text t => .ok (.text t)
  | _, _ => .error (.wrongType s.found shape.expecting)

end Shape

/-! ## Records -/

namespace Field

/-- The value of a field that was not given: its default, or the absent value of an optional field.
Any other field is missing. -/
def whenMissing (f : Field Shape) : Except Mismatch Datum :=
  match f.default? with
  | some d => .ok d
  | none => if f.shape.isOption then .ok .absent else .error (.missingField f.name)

/-- Whether a field with this value is left out of its record. -/
def skips (f : Field Shape) (d : Datum) : Bool :=
  match d with
  | .absent => f.skipAbsent
  | _ => false

/-- Puts a field in front of the fields after it, unless it is left out. A field that is left out
when it is absent is left out here, so that the record is as it would be written. -/
def place (f : Field Shape) (d : Datum) (rest : List (String × Datum)) : List (String × Datum) :=
  if f.skips d then rest else (f.name, d) :: rest

/-- **The fields of a record from those that were read**, in the order of declaration. The first
required field that was not read is the one complained about. -/
def assemble : List (Field Shape) → List (String × Datum) → Except Mismatch (List (String × Datum))
  | [], _ => .ok []
  | f :: rest, given => do
    let d ← match given.lookup f.name with
      | some d => .ok d
      | none => f.whenMissing
    let ds ← assemble rest given
    return f.place d ds

/-- The names of the fields. -/
def names (fields : List (Field Shape)) : List String := fields.map (·.name)

end Field

/-! ## Keys -/

/-- The order of the keys of a map: by number, by truth value, by code points. -/
def Datum.keyLt : Datum → Datum → Bool
  | .int _ a, .int _ b => a < b
  | .bool a, .bool b => !a && b
  | .text a, .text b => a < b
  | _, _ => false

/-- Puts an entry in its place; an entry of the same key gives way. Inserting entries one after the
other keeps them in order, and of two with one key the later stays. -/
def Datum.insertEntry (key value : Datum) : List (Datum × Datum) → List (Datum × Datum)
  | [] => [(key, value)]
  | (k, v) :: rest =>
    if key.keyLt k then (key, value) :: (k, v) :: rest
    else if k.keyLt key then (k, v) :: insertEntry key value rest
    else (key, value) :: rest

end RestClient
