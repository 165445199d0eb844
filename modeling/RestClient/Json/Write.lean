import RestClient.Data.Datum
import RestClient.Json.Basic

/-!
# Writing typed values as JSON

A typed value is written in two ways. `Datum.toJsonText` writes its text directly: fields keep the
order of their declaration, and a number of single precision has its own digits. `Datum.toJson`
makes a dynamic value, whose objects are in order of their keys, whose integers have at most
sixty-four bits and whose other numbers are widened to as many. Both fail on a key that is not a
text, a number or a truth value, and on a value that refuses to be written. In a key a number of
single precision has its own digits both ways.
-/

namespace RestClient

/-- Why a typed value cannot be written as JSON. Numbers out of range are refused for dynamic values
only, as a text can hold a number of any size. -/
inductive Json.Unwritable where
  | keyNotString
  | floatKeyNotFinite
  | numberOutOfRange
  | refused (reason : String)
  deriving DecidableEq, Repr

namespace Json.Unwritable

/-- The message of the reason. -/
def message : Json.Unwritable → String
  | .keyNotString => "key must be a string"
  | .floatKeyNotFinite => "float key must be finite (got NaN or +/-inf)"
  | .numberOutOfRange => "number out of range"
  | .refused reason => reason

end Json.Unwritable

namespace Datum

open Json (Unwritable)

/-- The text that a key has as a name. Texts, characters, numbers, truth values and bare variants
have one; of a wrapper it is that of the value inside, and all other values are no keys. -/
def keyText : Datum → Except Unwritable String
  | .text s => .ok s
  | .char c => .ok (String.ofList [c])
  | .int _ n => .ok (String.ofList (Json.intText n))
  | .bool b => .ok (if b then "true" else "false")
  | .float x =>
    if x.isFinite then .ok (String.ofList (Json.floatText x)) else .error .floatKeyNotFinite
  | .float32 x =>
    if x.isFinite then .ok (String.ofList (Json.singleText x)) else .error .floatKeyNotFinite
  | .unitVariant _ variant => .ok variant
  | .wrapper _ inner => inner.keyText
  | .refused reason => .error (.refused reason)
  | _ => .error .keyNotString

/-! ## As a dynamic value -/

/-- An integer as a dynamic value, which sixty-four bits have to hold, with a sign or without
one. -/
def intToJson (n : Int) : Except Unwritable Json :=
  if -Int.pow 2 63 ≤ n ∧ n < Int.pow 2 64 then .ok (.number (.int n)) else .error .numberOutOfRange

/-- A floating-point number as a dynamic value; one that is not finite has none but the null. -/
def floatToJson (x : Binary64) : Json :=
  if x.isFinite then .number (.float x) else .null

/-- A number of single precision as a dynamic value: dynamic numbers have one width, so it is
widened. -/
def singleToJson (x : Binary32) : Json :=
  if x.isFinite then .number (.float x.widen) else .null

mutual

/-- **A typed value as a dynamic one.** The members of every object are put in order of their names,
and of two with one name the later stays. A variant with content becomes an object with the variant
as its one member. -/
def toJson : Datum → Except Unwritable Json
  | .unit => .ok .null
  | .bool b => .ok (.bool b)
  | .int _ n => intToJson n
  | .float x => .ok (floatToJson x)
  | .float32 x => .ok (singleToJson x)
  | .char c => .ok (.string (String.ofList [c]))
  | .text s => .ok (.string s)
  | .absent => .ok .null
  | .present inner => inner.toJson
  | .seq items => (itemsToJson items).map .array
  | .tuple items => (itemsToJson items).map .array
  | .map entries => (entriesToJson [] entries).map .object
  | .unitRecord _ => .ok .null
  | .wrapper _ inner => inner.toJson
  | .record _ fields => (fieldsToJson [] fields).map .object
  | .unitVariant _ variant => .ok (.string variant)
  | .wrapperVariant _ variant inner => inner.toJson.map fun j => .object [(variant, j)]
  | .tupleVariant _ variant items =>
    (itemsToJson items).map fun js => .object [(variant, .array js)]
  | .recordVariant _ variant fields =>
    (fieldsToJson [] fields).map fun ms => .object [(variant, .object ms)]
  | .refused reason => .error (.refused reason)

/-- The items of a list as dynamic values. -/
def itemsToJson : List Datum → Except Unwritable (List Json)
  | [] => .ok []
  | d :: rest => do
    let j ← d.toJson
    let js ← itemsToJson rest
    return j :: js

/-- The entries of a map as members, put in order among those of `acc`. The key is written before
the value, so of two failures that of the key counts. -/
def entriesToJson (acc : List (String × Json)) :
    List (Datum × Datum) → Except Unwritable (List (String × Json))
  | [] => .ok acc
  | (k, d) :: rest => do
    let key ← k.keyText
    let j ← d.toJson
    entriesToJson (Json.insert key j acc) rest

/-- The fields of a record as members, put in order among those of `acc`. -/
def fieldsToJson (acc : List (String × Json)) :
    List (String × Datum) → Except Unwritable (List (String × Json))
  | [] => .ok acc
  | (name, d) :: rest => do
    let j ← d.toJson
    fieldsToJson (Json.insert name j acc) rest

end

/-! ## As a text -/

/-- An object with one member. -/
def braced (name : String) (content : List Char) : List Char :=
  ['{'] ++ Json.stringText name ++ [':'] ++ content ++ ['}']

/-- Parts separated by commas, between an opening and a closing character. -/
def enclosed (opening closing : Char) (parts : List (List Char)) : List Char :=
  opening :: ([','].intercalate parts ++ [closing])

mutual

/-- **The text of a typed value**, fields in the order of their declaration and entries in the order
of the map. It is made without a dynamic value in between, so integers of any size have a text, and
numbers of single precision have their own digits. -/
def jsonChars : Datum → Except Unwritable (List Char)
  | .unit => .ok "null".toList
  | .bool b => .ok (if b then "true" else "false").toList
  | .int _ n => .ok (Json.intText n)
  | .float x => .ok (Json.floatText x)
  | .float32 x => .ok (Json.singleText x)
  | .char c => .ok (Json.stringText (String.ofList [c]))
  | .text s => .ok (Json.stringText s)
  | .absent => .ok "null".toList
  | .present inner => inner.jsonChars
  | .seq items => (itemsChars items).map (enclosed '[' ']')
  | .tuple items => (itemsChars items).map (enclosed '[' ']')
  | .map entries => (entriesChars entries).map (enclosed '{' '}')
  | .unitRecord _ => .ok "null".toList
  | .wrapper _ inner => inner.jsonChars
  | .record _ fields => (fieldsChars fields).map (enclosed '{' '}')
  | .unitVariant _ variant => .ok (Json.stringText variant)
  | .wrapperVariant _ variant inner => inner.jsonChars.map (braced variant)
  | .tupleVariant _ variant items =>
    (itemsChars items).map fun ps => braced variant (enclosed '[' ']' ps)
  | .recordVariant _ variant fields =>
    (fieldsChars fields).map fun ps => braced variant (enclosed '{' '}' ps)
  | .refused reason => .error (.refused reason)

/-- The texts of the items of a list. -/
def itemsChars : List Datum → Except Unwritable (List (List Char))
  | [] => .ok []
  | d :: rest => do
    let t ← d.jsonChars
    let ts ← itemsChars rest
    return t :: ts

/-- The texts of the entries of a map. -/
def entriesChars : List (Datum × Datum) → Except Unwritable (List (List Char))
  | [] => .ok []
  | (k, d) :: rest => do
    let key ← k.keyText
    let t ← d.jsonChars
    let ts ← entriesChars rest
    return (Json.stringText key ++ ':' :: t) :: ts

/-- The texts of the fields of a record. -/
def fieldsChars : List (String × Datum) → Except Unwritable (List (List Char))
  | [] => .ok []
  | (name, d) :: rest => do
    let t ← d.jsonChars
    let ts ← fieldsChars rest
    return (Json.stringText name ++ ':' :: t) :: ts

end

/-- The text of a typed value as a string. -/
def toJsonText (d : Datum) : Except Unwritable String := d.jsonChars.map String.ofList

end Datum
end RestClient
