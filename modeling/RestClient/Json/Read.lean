import RestClient.Data.Shape
import RestClient.Json.Parse

/-!
# Reading a typed value from a text

`Shape.read` reads a value of a type straight from a text: a mismatch is reported where it is met,
even if the text breaks further on, and members that the type does not know are passed over.
-/

namespace RestClient

open Json (Error lift)

/-- The value of a dynamic value that holds it. -/
def Json.Number.toDatum : Json.Number → Datum
  | .int n => if n < 0 then .int .i64 n else .int .u64 n
  | .float x => .float x

mutual

/-- **A dynamic value as a typed one**: the value that a type of dynamic values has for it. Integers
are signed if they are negative, and objects are maps of texts. -/
def Json.toDatum : Json → Datum
  | .null => .unit
  | .bool b => .bool b
  | .number n => n.toDatum
  | .string s => .text s
  | .array items => .seq (Json.toData items)
  | .object members => .map (Json.toEntries members)

/-- The items of an array as typed values. -/
def Json.toData : List Json → List Datum
  | [] => []
  | j :: rest => j.toDatum :: Json.toData rest

/-- The members of an object as the entries of a map. -/
def Json.toEntries : List (String × Json) → List (Datum × Datum)
  | [] => []
  | (k, j) :: rest => (.text k, j.toDatum) :: Json.toEntries rest

end

namespace Json

/-- A number as a scalar. -/
def Number.toScalar : Number → Scalar
  | .int n => .int n
  | .float x => .float x

/-- A mismatch as an error. -/
def unfit {α : Type} (r : Except Mismatch α) : Except Error α := r.mapError Error.mismatch

/-- A scalar at the front of a text, or the bracket that is there instead. -/
inductive Front where
  | scalar (s : Scalar) (rest : List Char)
  | list (rest : List Char)
  | object (rest : List Char)

/-- What stands at the front of a text: a scalar, which is read to its end, or the bracket of a list
or an object, which is passed. -/
def front (cs : List Char) : Except Error Front :=
  match skipBlanks cs with
  | [] => .error (.fault .endInValue)
  | 'n' :: r => (lift (word ['u', 'l', 'l'] r)).map (.scalar .unit)
  | 't' :: r => (lift (word ['r', 'u', 'e'] r)).map (.scalar (.bool true))
  | 'f' :: r => (lift (word ['a', 'l', 's', 'e'] r)).map (.scalar (.bool false))
  | '-' :: r => (lift (numeral true r)).map fun p => .scalar p.1.toScalar p.2
  | '"' :: r => (lift (readString r)).map fun p => .scalar (.text p.1) p.2
  | '[' :: r => .ok (.list r)
  | '{' :: r => .ok (.object r)
  | c :: r =>
    if isDigit c then (lift (numeral false (c :: r))).map fun p => .scalar p.1.toScalar p.2
    else .error (.fault .expectedValue)

/-- What a mismatch calls the front of a text. -/
def Front.found : Front → Found
  | .scalar s _ => s.found
  | .list _ => .seq
  | .object _ => .map

/-- The complaint that the front of a text is not what was expected. -/
def Front.unexpected {α : Type} (f : Front) (expected : String) : Except Error α :=
  .error (.mismatch (.wrongType f.found expected))

/-- A scalar of a type from the front of a text. -/
def readScalar (shape : Shape) (cs : List Char) : Except Error (Datum × List Char) := do
  match ← front cs with
  | .scalar s r => return (← unfit (shape.ofScalar s), r)
  | f => f.unexpected shape.expecting

/-- The list at the front of a text, from after its bracket. -/
def openList (expected : String) (cs : List Char) : Except Error (List Char) := do
  match ← front cs with
  | .list r => return r
  | f => f.unexpected expected

/-- The object at the front of a text, from after its brace. -/
def openObject (expected : String) (cs : List Char) : Except Error (List Char) := do
  match ← front cs with
  | .object r => return r
  | f => f.unexpected expected

/-- Passes over the value of a member that is not known. -/
def skipMemberValue (cs : List Char) : Except Error (List Char) := do
  let r ← lift (colon cs)
  lift (skipValue (r.length + 1) r)

/-- A numeral with its sign. -/
def signedNumeral (cs : List Char) : Except Fault (Number × List Char) :=
  match cs with
  | '-' :: r => numeral true r
  | _ => numeral false cs

/-- An integer key, from after the quote: a numeral between the quotes, with nothing around it. -/
def readIntKey (k : WordKind) (cs : List Char) : Except Error (Datum × List Char) := do
  if cs.head?.any (fun c => isDigit c || c = '-') then
    let (n, r) ← lift (signedNumeral cs)
    let d ← unfit ((Shape.int k).ofScalar n.toScalar)
    match r with
    | '"' :: r => return (d, r)
    | _ => .error (.fault .expectedQuote)
  else .error (.fault .expectedNumericKey)

/-- A truth value as a key, from after the quote. Of a key that starts otherwise the first
character is already taken when the complaint is made. -/
def readBoolKey (cs : List Char) : Except Error (Datum × List Char) :=
  match cs with
  | [] => .error (.fault .endInValue)
  | 't' :: r => (lift (word ['r', 'u', 'e', '"'] r)).map (.bool true, ·)
  | 'f' :: r => (lift (word ['a', 'l', 's', 'e', '"'] r)).map (.bool false, ·)
  | _ :: r => do
    let (s, _) ← lift (readString r)
    .error (.mismatch (.wrongType (.text s) Shape.bool.expecting))

/-- A key of a map, from after the quote. -/
def readKey (k : KeyShape) (cs : List Char) : Except Error (Datum × List Char) :=
  match k with
  | .text => (lift (readString cs)).map fun p => (.text p.1, p.2)
  | .int kind => readIntKey kind cs
  | .bool => readBoolKey cs

/-- The name of a variant, from after the brace of the object around it. -/
def readVariantName (cs : List Char) : Except Error (String × List Char) := do
  if (skipBlanks cs).isEmpty then .error (.fault .endInObject)
  match ← front cs with
  | .scalar (.text s) r => return (s, r)
  | f => f.unexpected "variant identifier"

/-- What an object around a variant ends with. -/
def closeVariant (cs : List Char) : Except Error (List Char) :=
  match skipBlanks cs with
  | '}' :: r => .ok r
  | [] => .error (.fault .endInObject)
  | _ => .error (.fault .expectedValue)

/-- An entry of a map from after the quote of its key, put in its place among those read. -/
def readEntry (key : KeyShape) (value : List Char → Except Error (Datum × List Char))
    (entries : List (Datum × Datum)) (cs : List Char) :
    Except Error (List (Datum × Datum) × List Char) := do
  let (k, r) ← readKey key cs
  let r ← lift (colon r)
  let (d, r) ← value r
  return (Datum.insertEntry k d entries, r)

/-- The next item of a list of fixed length, or nothing at the end of the list. -/
def nextOfFixed (first : Bool) (cs : List Char)
    (item : List Char → Except Error (Datum × List Char)) :
    Except Error (Option Datum × List Char) := do
  let (more, r) ← lift (nextItem first cs)
  if more then
    let (d, r) ← item r
    return (some d, r)
  else return (none, r)

end Json

open Json in
/-- A member of a record, from after the quote of its key. `known` reads the value of a field by
its name, from after the key. -/
def Field.readMember (strict : Bool) (names : List String)
    (known : String → List Char → Option (Except Error (Datum × List Char)))
    (given : List (String × Datum)) (cs : List Char) :
    Except Error (List (String × Datum) × List Char) := do
  let (name, r) ← lift (readString cs)
  match known name r with
  | some result =>
    if (given.lookup name).isSome then .error (.mismatch (.duplicateField name))
    else
      let (d, r) ← result
      return ((name, d) :: given, r)
  | none =>
    if strict then .error (.mismatch (.unknownField name names))
    else return (given, ← skipMemberValue r)

/-- The complaint about a variant that holds something but stands alone. -/
def Mismatch.bareVariant (expected : String) : Json.Error :=
  .mismatch (.wrongType .unitVariant expected)

namespace Shape

open Json

mutual

/-- **A value of a type from the front of a text**, and what is left; `depth` is the number of
levels that lists and objects may still open. It goes straight from the text to the value, and never
makes a dynamic one of what the type knows. -/
def read : Shape → Nat → List Char → Except Error (Datum × List Char)
  | .any, depth, cs => (Json.value (cs.length + 1) depth cs).map fun p => (p.1.toDatum, p.2)
  | .unit, _, cs => readScalar .unit cs
  | .unitRecord name, _, cs => readScalar (.unitRecord name) cs
  | .bool, _, cs => readScalar .bool cs
  | .int k, _, cs => readScalar (.int k) cs
  | .float, _, cs => readScalar .float cs
  | .char, _, cs => readScalar .char cs
  | .text, _, cs => readScalar .text cs
  | .option inner, depth, cs =>
    match skipBlanks cs with
    | 'n' :: r => (lift (word ['u', 'l', 'l'] r)).map (.absent, ·)
    | r => (read inner depth r).map fun p => (.present p.1, p.2)
  | .wrapper name inner, depth, cs =>
    (read inner depth cs).map fun p => (.wrapper name p.1, p.2)
  | .seq item, depth, cs => do
    let r ← openList "a sequence" cs
    let depth ← lift (descend depth)
    let (ds, r) ← items (fun cs => read item depth cs) (r.length + 1) true r
    return (.seq ds, ← lift (closeList r))
  | .tuple shapes, depth, cs => do
    let expected := tupleOf shapes.length
    let r ← openList expected cs
    let depth ← lift (descend depth)
    let (ds, r) ← readItems shapes depth expected 0 r
    return (.tuple ds, ← lift (closeList r))
  | .map key item, depth, cs => do
    let r ← openObject "a map" cs
    let depth ← lift (descend depth)
    let (entries, r) ←
      members (readEntry key (fun cs => read item depth cs)) (r.length + 1) true [] r
    return (.map entries, r)
  | .record name strict fields, depth, cs => do
    match ← front cs with
    | .list r =>
      let depth ← lift (descend depth)
      let expected := "struct " ++ name ++ " with " ++ elements fields.length
      let (ds, r) ← readPositions fields depth expected 0 r
      return (.record name ds, ← lift (closeList r))
    | .object r =>
      let depth ← lift (descend depth)
      let (given, r) ←
        members (Field.readMember strict (Field.names fields) (readField fields depth))
          (r.length + 1) true [] r
      return (.record name (← unfit (Field.assemble fields given)), r)
    | f => f.unexpected ("struct " ++ name)
  | .choice name variants, depth, cs => do
    match ← front cs with
    | .scalar (.text v) r => return (← readBare name variants (variants.map (·.1)) v, r)
    | .object r =>
      let depth ← lift (descend depth)
      let (v, r) ← readVariantName r
      let (d, r) ← readVariant name variants (variants.map (·.1)) v depth r
      return (d, ← closeVariant r)
    | _ => .error (.fault .expectedValue)

/-- The items of a tuple, the closing bracket not included. -/
def readItems : List Shape → Nat → String → Nat → List Char → Except Error (List Datum × List Char)
  | [], _, _, _, cs => .ok ([], cs)
  | s :: rest, depth, expected, i, cs => do
    match ← nextOfFixed (i = 0) cs (fun cs => read s depth cs) with
    | (some d, r) =>
      let (ds, r) ← readItems rest depth expected (i + 1) r
      return (d :: ds, r)
    | (none, _) => .error (.mismatch (.wrongLength i expected))

/-- The fields of a record that is written as a list, the closing bracket not included. -/
def readPositions : List (Field Shape) → Nat → String → Nat → List Char →
    Except Error (List (String × Datum) × List Char)
  | [], _, _, _, cs => .ok ([], cs)
  | ⟨fieldName, shape, default?, skipAbsent⟩ :: rest, depth, expected, i, cs => do
    let f : Field Shape := ⟨fieldName, shape, default?, skipAbsent⟩
    match ← nextOfFixed (i = 0) cs (fun cs => read shape depth cs) with
    | (some d, r) =>
      let (ds, r) ← readPositions rest depth expected (i + 1) r
      return (f.place d ds, r)
    | (none, r) =>
      match default? with
      | some d =>
        let (ds, r) ← readPositions rest depth expected (i + 1) r
        return (f.place d ds, r)
      | none => .error (.mismatch (.wrongLength i expected))

/-- The value of the field of a name, from after its key; nothing if no field has the name. -/
def readField : List (Field Shape) → Nat → String → List Char →
    Option (Except Error (Datum × List Char))
  | [], _, _, _ => none
  | ⟨fieldName, shape, _, _⟩ :: rest, depth, name, cs =>
    if fieldName = name then
      some (do
        let r ← lift (colon cs)
        read shape depth r)
    else readField rest depth name cs

/-- A variant that stands alone, as a string. Only a variant without content may; the complaint
about another says which kind its declaration has. -/
def readBare (choice : String) : List (String × VariantBody Shape) → List String → String →
    Except Error Datum
  | [], known, v => .error (.mismatch (.unknownVariant v known))
  | (name, body) :: rest, known, v =>
    if name = v then
      match body with
      | .unit => .ok (.unitVariant choice name)
      | .wrapper _ => .error (Mismatch.bareVariant "newtype variant")
      | .tuple _ => .error (Mismatch.bareVariant "tuple variant")
      | .record _ => .error (Mismatch.bareVariant "struct variant")
    else readBare choice rest known v

/-- **A variant with its content**, from after its name, which its declaration is looked up by. A
unit variant has a null for its content. -/
def readVariant (choice : String) : List (String × VariantBody Shape) → List String → String →
    Nat → List Char → Except Error (Datum × List Char)
  | [], known, v, _, _ => .error (.mismatch (.unknownVariant v known))
  | (name, .unit) :: rest, known, v, depth, cs =>
    if name = v then do
      let r ← lift (colon cs)
      let (_, r) ← readScalar .unit r
      return (.unitVariant choice name, r)
    else readVariant choice rest known v depth cs
  | (name, .wrapper inner) :: rest, known, v, depth, cs =>
    if name = v then do
      let r ← lift (colon cs)
      let (d, r) ← read inner depth r
      return (.wrapperVariant choice name d, r)
    else readVariant choice rest known v depth cs
  | (name, .tuple shapes) :: rest, known, v, depth, cs =>
    if name = v then do
      let r ← lift (colon cs)
      let expected := "tuple variant " ++ choice ++ "::" ++ name
      let r ← openList expected r
      let depth ← lift (descend depth)
      let (ds, r) ←
        readItems shapes depth (expected ++ " with " ++ elements shapes.length) 0 r
      return (.tupleVariant choice name ds, ← lift (closeList r))
    else readVariant choice rest known v depth cs
  | (name, .record fields) :: rest, known, v, depth, cs =>
    if name = v then do
      let r ← lift (colon cs)
      let expected := "struct variant " ++ choice ++ "::" ++ name
      match ← front r with
      | .list r =>
        let depth ← lift (descend depth)
        let (ds, r) ←
          readPositions fields depth (expected ++ " with " ++ elements fields.length) 0 r
        return (.recordVariant choice name ds, ← lift (closeList r))
      | .object r =>
        let depth ← lift (descend depth)
        let (given, r) ←
          members (Field.readMember false (Field.names fields) (readField fields depth))
            (r.length + 1) true [] r
        return (.recordVariant choice name (← unfit (Field.assemble fields given)), r)
      | f => f.unexpected expected
    else readVariant choice rest known v depth cs

end

/-- **A value of a type that is the whole text.** Nothing but blanks may follow it, and lists and
objects may nest no deeper than `levels`. -/
def parse (shape : Shape) (s : String) : Except Error Datum := do
  Json.whole (← shape.read levels s.toList)

end Shape
end RestClient
