import RestClient.Json.Basic
import RestClient.Text.Quoted

/-!
# What is wrong with a value

Reading a value of a type can fail although the text is well formed: something else was found than
the type expects, a field is missing, twice there or unknown. A mismatch is the cause; its message
is the same for every format that shows one.
-/

namespace RestClient

/-- What was found where a type expected something else. Scalars are kept with their value, as
messages name it, and lists and maps without their parts. -/
inductive Found where
  | unit
  | bool (b : Bool)
  | int (n : Int)
  | float (x : Binary64)
  | text (s : String)
  | seq
  | map
  | unitVariant
  deriving DecidableEq, Repr

/-- How a message calls what was found. -/
def Found.phrase : Found → String
  | .unit => "null"
  | .bool b => "boolean `" ++ (if b then "true" else "false") ++ "`"
  | .int n => "integer `" ++ String.ofList (Json.intText n) ++ "`"
  | .float x => "floating point `" ++ String.ofList (Json.floatLayout.text x.numeric) ++ "`"
  | .text s => "string " ++ Text.quoted s
  | .seq => "sequence"
  | .map => "map"
  | .unitVariant => "unit variant"

/-- Why a value is not of a type. The constructors are those of a deserializer, which every format
shares; what else may go wrong with a text belongs to the error of its format. -/
inductive Mismatch where
  /-- Something of another kind. -/
  | wrongType (found : Found) (expected : String)
  /-- Something of the right kind that the type does not hold. -/
  | wrongValue (found : Found) (expected : String)
  | wrongLength (n : Nat) (expected : String)
  | unknownVariant (name : String) (known : List String)
  | unknownField (name : String) (known : List String)
  | missingField (name : String)
  | duplicateField (name : String)
  deriving DecidableEq, Repr

namespace Mismatch

/-- A name as it stands in a message. -/
def ticked (name : String) : String := "`" ++ name ++ "`"

/-- The names that would have been right, which `plural` calls if there are none. -/
def alternatives (plural : String) : List String → String
  | [] => "there are no " ++ plural
  | [a] => "expected " ++ ticked a
  | [a, b] => "expected " ++ ticked a ++ " or " ++ ticked b
  | names => "expected one of " ++ ", ".intercalate (names.map ticked)

/-- The message of a mismatch. -/
def message : Mismatch → String
  | .wrongType found expected => "invalid type: " ++ found.phrase ++ ", expected " ++ expected
  | .wrongValue found expected => "invalid value: " ++ found.phrase ++ ", expected " ++ expected
  | .wrongLength n expected =>
    "invalid length " ++ String.ofList (Nat.toDigits 10 n) ++ ", expected " ++ expected
  | .unknownVariant name known =>
    "unknown variant " ++ ticked name ++ ", " ++ alternatives "variants" known
  | .unknownField name known =>
    "unknown field " ++ ticked name ++ ", " ++ alternatives "fields" known
  | .missingField name => "missing field " ++ ticked name
  | .duplicateField name => "duplicate field " ++ ticked name

end Mismatch
end RestClient
