import RestClient.Json.Read

/-!
# Reading a typed value from a dynamic one

`Shape.ofJson` reads a value of a type from a value that was already read as a dynamic one. It
differs from `Shape.read` in what only a tree can tell: a list that is too long is reported by its
length, and a variant must be the only member of its object.
-/

namespace RestClient

open Json (Error lift unfit)

namespace Json

/-- A dynamic value as a scalar, if it has no parts. -/
def toScalar? : Json → Option Scalar
  | .null => some .unit
  | .bool b => some (.bool b)
  | .number n => some n.toScalar
  | .string s => some (.text s)
  | .array _ => none
  | .object _ => none

/-- What a mismatch calls a dynamic value. -/
def found : Json → Found
  | .null => .unit
  | .bool b => .bool b
  | .number n => n.toScalar.found
  | .string s => .text s
  | .array _ => .seq
  | .object _ => .map

/-- The complaint that a dynamic value is not what was expected. -/
def unexpected {α : Type} (j : Json) (expected : String) : Except Error α :=
  .error (.mismatch (.wrongType j.found expected))

/-- A scalar of a type from a dynamic value. -/
def scalarOf (shape : Shape) (j : Json) : Except Error Datum :=
  match j.toScalar? with
  | some s => unfit (shape.ofScalar s)
  | none => j.unexpected shape.expecting

/-- A key of a map from its text. A key of an integer type is a numeral that takes up the whole
text, and a key of truth values one of the two words. -/
def keyOf (k : KeyShape) (key : String) : Except Error Datum :=
  match k with
  | .text => .ok (.text key)
  | .int kind => do
    let cs := key.toList
    if cs.head?.any (fun c => isDigit c || c = '-') then
      let (n, r) ← lift (signedNumeral cs)
      let d ← unfit ((Shape.int kind).ofScalar n.toScalar)
      if r.isEmpty then return d else .error (.fault .expectedNumericKey)
    else .error (.fault .expectedNumericKey)
  | .bool =>
    if key = "true" then .ok (.bool true)
    else if key = "false" then .ok (.bool false)
    else .error (.mismatch (.wrongType (.text key) Shape.bool.expecting))

/-- Reads the entries of a map in order, each put in its place among those read, so that of two keys
that are the same value the later counts. -/
def entriesOf (key : KeyShape) (value : Json → Except Error Datum) :
    List (Datum × Datum) → List (String × Json) → Except Error (List (Datum × Datum))
  | entries, [] => .ok entries
  | entries, (k, j) :: rest => do
    let k ← keyOf key k
    let d ← value j
    entriesOf key value (Datum.insertEntry k d entries) rest

/-- Reads the members of a record in order. A member that no field has the name of is passed over,
or refused if the record is strict. -/
def givenOf (strict : Bool) (names : List String)
    (known : String → Json → Option (Except Error Datum)) :
    List (String × Datum) → List (String × Json) → Except Error (List (String × Datum))
  | given, [] => .ok given
  | given, (name, j) :: rest =>
    match known name j with
    | some result =>
      if (given.lookup name).isSome then .error (.mismatch (.duplicateField name))
      else do
        let d ← result
        givenOf strict names known ((name, d) :: given) rest
    | none =>
      if strict then .error (.mismatch (.unknownField name names))
      else givenOf strict names known given rest

/-- A list whose items were all wanted, or the complaint that it is too long. -/
def noneLeft {α : Type} (length : Nat) (r : α × List Json) : Except Error α :=
  if r.2.isEmpty then .ok r.1
  else .error (.mismatch (.wrongLength length "fewer elements in array"))

end Json

namespace Shape

open Json

mutual

/-- **A value of a type from a dynamic value**, by recursion on the type. Records may be objects or
lists of the fields in order, and choices are a name or an object with one member. -/
def ofJson : Shape → Json → Except Error Datum
  | .any, j => .ok j.toDatum
  | .unit, j => scalarOf .unit j
  | .unitRecord name, j => scalarOf (.unitRecord name) j
  | .bool, j => scalarOf .bool j
  | .int k, j => scalarOf (.int k) j
  | .float, j => scalarOf .float j
  | .char, j => scalarOf .char j
  | .text, j => scalarOf .text j
  | .option inner, j =>
    match j with
    | .null => .ok .absent
    | _ => (ofJson inner j).map .present
  | .wrapper name inner, j => (ofJson inner j).map (.wrapper name)
  | .seq item, j =>
    match j with
    | .array js => (js.mapM fun j => ofJson item j).map .seq
    | _ => j.unexpected "a sequence"
  | .tuple shapes, j =>
    match j with
    | .array js => do
      return .tuple (← noneLeft js.length (← itemsOf shapes (tupleOf shapes.length) 0 js))
    | _ => j.unexpected (tupleOf shapes.length)
  | .map key item, j =>
    match j with
    | .object members => (entriesOf key (fun j => ofJson item j) [] members).map .map
    | _ => j.unexpected "a map"
  | .record name strict fields, j =>
    match j with
    | .array js => do
      let expected := "struct " ++ name ++ " with " ++ elements fields.length
      return .record name (← noneLeft js.length (← positionsOf fields expected 0 js))
    | .object members => do
      let given ← givenOf strict (Field.names fields) (fieldOf fields) [] members
      return .record name (← unfit (Field.assemble fields given))
    | _ => j.unexpected ("struct " ++ name)
  | .choice name variants, j =>
    match j with
    | .string v => readBare name variants (variants.map (·.1)) v
    | .object [(v, j)] => variantOf name variants (variants.map (·.1)) v j
    | .object _ => .error (.mismatch (.wrongValue .map "map with a single key"))
    | _ => j.unexpected "string or map"

/-- The items of a tuple, and those that are left. -/
def itemsOf : List Shape → String → Nat → List Json → Except Error (List Datum × List Json)
  | [], _, _, js => .ok ([], js)
  | _ :: _, expected, i, [] => .error (.mismatch (.wrongLength i expected))
  | s :: rest, expected, i, j :: js => do
    let d ← ofJson s j
    let (ds, js) ← itemsOf rest expected (i + 1) js
    return (d :: ds, js)

/-- The fields of a record that is a list, and the items that are left. A list may be too short only
by fields with a default; an optional field without one is not made up here. -/
def positionsOf : List (Field Shape) → String → Nat → List Json →
    Except Error (List (String × Datum) × List Json)
  | [], _, _, js => .ok ([], js)
  | ⟨fieldName, shape, default?, skipAbsent⟩ :: rest, expected, i, [] =>
    match default? with
    | some d => do
      let (ds, js) ← positionsOf rest expected (i + 1) []
      return (Field.place ⟨fieldName, shape, default?, skipAbsent⟩ d ds, js)
    | none => .error (.mismatch (.wrongLength i expected))
  | ⟨fieldName, shape, default?, skipAbsent⟩ :: rest, expected, i, j :: js => do
    let d ← ofJson shape j
    let (ds, js) ← positionsOf rest expected (i + 1) js
    return (Field.place ⟨fieldName, shape, default?, skipAbsent⟩ d ds, js)

/-- The value of the field of a name; nothing if no field has the name. -/
def fieldOf : List (Field Shape) → String → Json → Option (Except Error Datum)
  | [], _, _ => none
  | ⟨fieldName, shape, _, _⟩ :: rest, name, j =>
    if fieldName = name then some (ofJson shape j) else fieldOf rest name j

/-- **A variant with its content**, from the only member of an object. Its name was found before;
the content is read as its declaration asks. -/
def variantOf (choice : String) : List (String × VariantBody Shape) → List String → String →
    Json → Except Error Datum
  | [], known, v, _ => .error (.mismatch (.unknownVariant v known))
  | (name, .unit) :: rest, known, v, j =>
    if name = v then (scalarOf .unit j).map fun _ => .unitVariant choice name
    else variantOf choice rest known v j
  | (name, .wrapper inner) :: rest, known, v, j =>
    if name = v then (ofJson inner j).map (.wrapperVariant choice name)
    else variantOf choice rest known v j
  | (name, .tuple shapes) :: rest, known, v, j =>
    if name = v then
      let expected := "tuple variant " ++ choice ++ "::" ++ name
      match j with
      | .array [] => Json.null.unexpected expected
      | .array js => do
        let full := expected ++ " with " ++ elements shapes.length
        return .tupleVariant choice name (← noneLeft js.length (← itemsOf shapes full 0 js))
      | _ => j.unexpected "tuple variant"
    else variantOf choice rest known v j
  | (name, .record fields) :: rest, known, v, j =>
    if name = v then
      match j with
      | .object members => do
        let given ← givenOf false (Field.names fields) (fieldOf fields) [] members
        return .recordVariant choice name (← unfit (Field.assemble fields given))
      | _ => j.unexpected "struct variant"
    else variantOf choice rest known v j

end

/-! ## Text alone

Some responses are only a text, which a type either takes as it is or not at all. -/

/-- The content of a variant that only its name was given for. -/
def bareOfText (choice : String) (known : List String) (v : String) :
    List (String × VariantBody Shape) → Except Mismatch Datum
  | [] => .error (.unknownVariant v known)
  | (name, body) :: rest =>
    if name = v then
      match body with
      | .unit => .ok (.unitVariant choice name)
      | .wrapper _ => .error (.wrongType .unitVariant "newtype variant")
      | .tuple _ => .error (.wrongType .unitVariant "tuple variant")
      | .record _ => .error (.wrongType .unitVariant "struct variant")
    else bareOfText choice known v rest

/-- **A text as a value of a type**: of the types of text and of dynamic values it is the value
itself, of a choice it is the name of a variant without content, and a single character is a
character. No other type takes a text. -/
def ofText (shape : Shape) (s : String) : Except Mismatch Datum :=
  match shape with
  | .any => .ok (.text s)
  | .choice name variants => bareOfText name (variants.map (·.1)) s variants
  | _ => shape.ofScalar (.text s)

end Shape
end RestClient
