import RestClient.Data.Shape

/-!
# The types of the sample schema

A pet store with its pets, orders and owners, and some types that have no place in a store but
take every form that a type can have.
-/

namespace RestClient.Sample

/-- The integers of thirty-two bits, signed. -/
def i32 : WordKind := { signed := true, bits := 32 }

/-- The integers of thirty-two bits, unsigned. -/
def u32 : WordKind := { signed := false, bits := 32 }

/-- The integers of eight bits, unsigned. -/
def u8 : WordKind := { signed := false, bits := 8 }

/-- The integers of a hundred and twenty-eight bits, signed, which are only written. -/
def i128 : IntKind := ⟨true, 128⟩

/-- A field that a record leaves out when its value is absent. -/
def omittable (name : String) (inner : Shape) : Field Shape :=
  { name := name, shape := .option inner, default? := some .absent, skipAbsent := true }

/-- A field that is absent where it is not given. -/
def defaulted (name : String) (inner : Shape) : Field Shape :=
  { name := name, shape := .option inner, default? := some .absent }

/-- A pet. -/
def pet : Shape := .record "Pet" false [
  omittable "id" (.int .u64),
  { name := "name", shape := .text },
  omittable "status" .text]

/-- An order for pets. -/
def order : Shape := .record "Order" false [
  { name := "id", shape := .int .u64 },
  { name := "petId", shape := .int .u64 },
  { name := "quantity", shape := .int u32 }]

/-- A record that has no other fields than its own. -/
def strict : Shape := .record "Strict" true [
  { name := "code", shape := .int i32 },
  { name := "detail", shape := .option .text }]

/-- An address of an owner. -/
def address : Shape := .record "Address" false [
  { name := "street", shape := .text },
  { name := "zip", shape := .int i32 }]

/-- An owner of pets. -/
def owner : Shape := .record "Owner" false [
  { name := "name", shape := .text },
  { name := "pets", shape := .seq pet, default? := some (.seq []) },
  { name := "home", shape := .option address }]

/-- A text with a number, an attribute in XML. -/
def tag : Shape := .record "Tag" false [
  { name := "@id", shape := .int u32 },
  { name := "$text", shape := .text, default? := some (.text "") }]

/-- A choice of names. -/
def level : Shape := .choice "Level" [("low", .unit), ("mid", .unit), ("high", .unit)]

/-- A record of scalars. -/
def mixed : Shape := .record "Mixed" false [
  { name := "flag", shape := .bool },
  { name := "ratio", shape := .float },
  { name := "note", shape := .option .text },
  { name := "level", shape := level }]

/-- A choice with variants of every form. -/
def figure : Shape := .choice "Shape" [
  ("Unit", .unit),
  ("Newtype", .wrapper (.int .i64)),
  ("Tuple", .tuple [.int .i64, .text]),
  ("Struct", .record [{ name := "w", shape := .float }, { name := "h", shape := .float }])]

/-- A query in which everything may be left out. -/
def search : Shape := .record "Search" false [
  defaulted "q" .text,
  { name := "tags", shape := .seq .text, default? := some (.seq []) },
  defaulted "limit" (.int .i64),
  { name := "exact", shape := .bool, default? := some (.bool false) },
  defaulted "boost" .float]

/-- The path parameters of a pet. -/
def petIdParams : Shape := .record "PetIdParams" false [{ name := "petId", shape := .int .u64 }]

/-- A record without fields. -/
def marker : Shape := .unitRecord "Marker"

/-- A record around one integer. -/
def wrap : Shape := .wrapper "Wrap" (.int .i64)

/-- A pair of an integer and a text. -/
def pair : Shape := .tuple [.int .i64, .text]

end RestClient.Sample
