import RestClient.Proofs.Lockstep

/-!
# Fields that are named

A record may be written as an object, which names its fields, or as an array, which gives them in
their order. Both readers of JSON take both. If the record is the content of a variant, however, a
dynamic value is only read if its fields are named, and an array without items is not read as the
content of a variant that is a tuple. `Shape.namesFields` is true of the dynamic values in which
neither occurs where the type has a variant.

This is the only condition on what a typed value is read from: `Shape.Reads` says of a typed and of
a dynamic value that reading the latter gives the former, and does so if and only if the condition
holds. What is found among the fields of a record or among the variants of a choice is given by
equations (`readField_eq`, `fieldOf_eq`, `readVariant_cons`, `variantOf_cons`), so that each form of
a variant is looked at once.
-/

namespace RestClient

open Json

namespace Shape

/-! ## The types, one by one -/

/-- The types whose values have no parts. -/
def IsScalar : Shape → Prop
  | .unit | .unitRecord _ | .bool | .int _ | .float | .char | .text => True
  | _ => False

theorem read_of_isScalar {shape : Shape} (h : shape.IsScalar) (depth : Nat) (cs : List Char) :
    shape.read depth cs = readScalar shape cs := by
  cases shape <;> first | rfl | cases h

theorem ofJson_of_isScalar {shape : Shape} (h : shape.IsScalar) (j : Json) :
    shape.ofJson j = scalarOf shape j := by
  cases shape <;> first | rfl | cases h

end Shape

/-- The types in the content of a variant. -/
def VariantBody.Each (P : Shape → Prop) : VariantBody Shape → Prop
  | .unit => True
  | .wrapper inner => P inner
  | .tuple shapes => ∀ s ∈ shapes, P s
  | .record fields => ∀ f ∈ fields, P f.shape

namespace Shape

/-- **Induction on types**: of a type the types of its parts may be assumed, apart from keys. -/
theorem induction {P : Shape → Prop} (any : P .any)
    (scalar : ∀ shape : Shape, shape.IsScalar → P shape)
    (option : ∀ inner, P inner → P (.option inner))
    (wrapper : ∀ name inner, P inner → P (.wrapper name inner))
    (seq : ∀ item, P item → P (.seq item))
    (tuple : ∀ shapes, (∀ s ∈ shapes, P s) → P (.tuple shapes))
    (map : ∀ key value, P value → P (.map key value))
    (record : ∀ name strict fields, (∀ f ∈ fields, P f.shape) → P (.record name strict fields))
    (choice : ∀ name variants, (∀ v ∈ variants, v.2.Each P) → P (.choice name variants))
    (shape : Shape) : P shape :=
  Shape.rec (motive_1 := P) (motive_2 := fun shapes => ∀ s ∈ shapes, P s)
    (motive_3 := fun fields => ∀ f ∈ fields, P f.shape)
    (motive_4 := fun variants => ∀ v ∈ variants, v.2.Each P)
    (motive_5 := fun f => P f.shape) (motive_6 := fun v => v.2.Each P)
    (motive_7 := fun body => body.Each P)
    any (scalar .unit trivial) (scalar .bool trivial) (fun k => scalar (.int k) trivial)
    (scalar .float trivial) (scalar .char trivial) (scalar .text trivial) option seq tuple map
    (fun name => scalar (.unitRecord name) trivial) wrapper record choice
    nofun (fun _ _ hs hrest => List.forall_mem_cons.mpr ⟨hs, hrest⟩)
    nofun (fun _ _ hf hrest => List.forall_mem_cons.mpr ⟨hf, hrest⟩)
    nofun (fun _ _ hv hrest => List.forall_mem_cons.mpr ⟨hv, hrest⟩)
    (fun _ _ _ _ h => h) (fun _ _ h => h)
    trivial (fun _ h => h) (fun _ h => h) (fun _ h => h) shape

/-! ## The condition -/

mutual

/-- **Whether the fields of variants are named**, wherever a value of the type has a variant, and no
array without items is the content of a variant that is a tuple. Straight from a text such content
is read, and from a dynamic value it is refused. -/
def namesFields : Shape → Json → Bool
  | .any, _ | .unit, _ | .unitRecord _, _ | .bool, _ | .int _, _ | .float, _ | .char, _
  | .text, _ => true
  | .option inner, j =>
    match j with
    | .null => true
    | _ => namesFields inner j
  | .wrapper _ inner, j => namesFields inner j
  | .seq item, j =>
    match j with
    | .array js => js.all fun j => namesFields item j
    | _ => true
  | .tuple shapes, j =>
    match j with
    | .array js => namesItems shapes js
    | _ => true
  | .map _ item, j =>
    match j with
    | .object ms => ms.all fun m => namesFields item m.2
    | _ => true
  | .record _ _ fields, j =>
    match j with
    | .array js => namesPositions fields js
    | .object ms => ms.all fun m => namesMember fields m.1 m.2
    | _ => true
  | .choice _ variants, j =>
    match j with
    | .object [(v, j)] => namesVariant variants v j
    | _ => true

/-- The items of a tuple. -/
def namesItems : List Shape → List Json → Bool
  | [], _ => true
  | _ :: _, [] => true
  | s :: rest, j :: js => namesFields s j && namesItems rest js

/-- The fields of a record that is written as an array. -/
def namesPositions : List (Field Shape) → List Json → Bool
  | [], _ => true
  | _ :: _, [] => true
  | ⟨_, shape, _, _⟩ :: rest, j :: js => namesFields shape j && namesPositions rest js

/-- A member of a record; one that is not known is not looked at. -/
def namesMember : List (Field Shape) → String → Json → Bool
  | [], _, _ => true
  | ⟨fieldName, shape, _, _⟩ :: rest, name, j =>
    if fieldName = name then namesFields shape j else namesMember rest name j

/-- The variant of a name. -/
def namesVariant : List (String × VariantBody Shape) → String → Json → Bool
  | [], _, _ => true
  | (name, body) :: rest, v, j =>
    if name = v then namesContent body j else namesVariant rest v j

/-- The content of a variant. -/
def namesContent : VariantBody Shape → Json → Bool
  | .unit, _ => true
  | .wrapper inner, j => namesFields inner j
  | .tuple shapes, j =>
    match j with
    | .array [] => false
    | .array js => namesItems shapes js
    | _ => true
  | .record fields, j =>
    match j with
    | .array _ => false
    | .object ms => ms.all fun m => namesMember fields m.1 m.2
    | _ => true

end

theorem namesFields_of_isScalar {shape : Shape} (h : shape.IsScalar) (j : Json) :
    shape.namesFields j = true := by
  cases shape <;> first | rfl | cases h

/-! ## The field of a name, the variant of a name -/

end Shape

/-- The field of a name. -/
def Field.named (fields : List (Field Shape)) (name : String) : Option (Field Shape) :=
  fields.find? (·.name = name)

theorem Field.named_cons (f : Field Shape) (rest : List (Field Shape)) (name : String) :
    named (f :: rest) name = if f.name = name then some f else named rest name := by
  unfold named
  rw [List.find?_cons]
  by_cases h : f.name = name <;> simp [h]

namespace Shape

theorem readField_eq (fields : List (Field Shape)) (depth : Nat) (name : String) (cs : List Char) :
    readField fields depth name cs =
      (Field.named fields name).map fun f => lift (colon cs) >>= fun r => f.shape.read depth r := by
  induction fields with
  | nil => rfl
  | cons f rest ih =>
    rw [readField, ih, Field.named_cons]
    split <;> rfl

theorem fieldOf_eq (fields : List (Field Shape)) (name : String) (j : Json) :
    fieldOf fields name j = (Field.named fields name).map fun f => f.shape.ofJson j := by
  induction fields with
  | nil => rfl
  | cons f rest ih =>
    rw [fieldOf, ih, Field.named_cons]
    split <;> rfl

theorem namesMember_eq (fields : List (Field Shape)) (name : String) (j : Json) :
    namesMember fields name j =
      (Field.named fields name).all fun f => f.shape.namesFields j := by
  induction fields with
  | nil => rfl
  | cons f rest ih =>
    rw [namesMember, ih, Field.named_cons]
    split <;> rfl

/-- The content of a variant from the front of a text. -/
def readContent (choice name : String) (body : VariantBody Shape) (depth : Nat) (cs : List Char) :
    Except Error (Datum × List Char) :=
  match body with
  | .unit => (readScalar .unit cs).map fun p => (.unitVariant choice name, p.2)
  | .wrapper inner => (inner.read depth cs).map fun p => (.wrapperVariant choice name p.1, p.2)
  | .tuple shapes => do
    let expected := "tuple variant " ++ choice ++ "::" ++ name
    let r ← openList expected cs
    let depth ← lift (descend depth)
    let (ds, r) ← readItems shapes depth (expected ++ " with " ++ elements shapes.length) 0 r
    return (.tupleVariant choice name ds, ← lift (closeList r))
  | .record fields => do
    let expected := "struct variant " ++ choice ++ "::" ++ name
    match ← front cs with
    | .list r =>
      let depth ← lift (descend depth)
      let (ds, r) ←
        readPositions fields depth (expected ++ " with " ++ elements fields.length) 0 r
      return (.recordVariant choice name ds, ← lift (closeList r))
    | .object r =>
      let depth ← lift (descend depth)
      let (given, r) ←
        members (Field.readMember false (Field.names fields) (readField fields depth))
          (r.length + 1) true [] r
      return (.recordVariant choice name (← unfit (Field.assemble fields given)), r)
    | f => f.unexpected expected

theorem readVariant_cons (choice name : String) (body : VariantBody Shape)
    (rest : List (String × VariantBody Shape)) (known : List String) (v : String) (depth : Nat)
    (cs : List Char) :
    readVariant choice ((name, body) :: rest) known v depth cs =
      if name = v then lift (colon cs) >>= fun r => readContent choice name body depth r
      else readVariant choice rest known v depth cs := by
  cases body <;> rfl

/-- The content of a variant from a dynamic value. -/
def contentOf (choice name : String) (body : VariantBody Shape) (j : Json) : Except Error Datum :=
  match body with
  | .unit => (scalarOf .unit j).map fun _ => .unitVariant choice name
  | .wrapper inner => (inner.ofJson j).map (.wrapperVariant choice name)
  | .tuple shapes =>
    let expected := "tuple variant " ++ choice ++ "::" ++ name
    match j with
    | .array [] => Json.null.unexpected expected
    | .array js => do
      let full := expected ++ " with " ++ elements shapes.length
      return .tupleVariant choice name (← noneLeft js.length (← itemsOf shapes full 0 js))
    | _ => j.unexpected "tuple variant"
  | .record fields =>
    match j with
    | .object members => do
      let given ← givenOf false (Field.names fields) (fieldOf fields) [] members
      return .recordVariant choice name (← unfit (Field.assemble fields given))
    | _ => j.unexpected "struct variant"

theorem variantOf_cons (choice name : String) (body : VariantBody Shape)
    (rest : List (String × VariantBody Shape)) (known : List String) (v : String) (j : Json) :
    variantOf choice ((name, body) :: rest) known v j =
      if name = v then contentOf choice name body j else variantOf choice rest known v j := by
  cases body <;> rfl

/-- **A typed value is what is read from a dynamic one**, and it is read if the fields of variants
are named. It says of the reading of the dynamic value both when it succeeds and what it gives. -/
def Reads (shape : Shape) (d : Datum) (j : Json) : Prop :=
  (shape.ofJson j).Yields d (shape.namesFields j = true)

end Shape
end RestClient
