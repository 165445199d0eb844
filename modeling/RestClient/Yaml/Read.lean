import RestClient.Yaml.Document

/-!
# Reading a typed value from a document

`Shape.ofNode` reads a value of a type from a node. Where the type is open, a plain scalar is what
it stands for (`Yaml.resolve`); a type of texts takes the text of any scalar as it is, and the types
of numbers and truth values take plain scalars that they can read. A variant is a scalar of its
name, or a node with its name as a tag.

An alias stands for the node that it refers to. Since a node may refer to one around it, collections
may nest only so deep (`Yaml.levels`), and since an alias may multiply what it refers to, a document
may be followed through only so many aliases for its size (`Yaml.aliasesPerNode`).
-/

namespace RestClient.Yaml

/-- The greatest number of collections inside each other. Those that an alias leads to count as
well. -/
def levels : Nat := 128

/-- The number of aliases that are followed, for each node of a document. -/
def aliasesPerNode : Nat := 100

/-- **Reading with a number of aliases that may still be followed.** A document in which aliases
lead to aliases is given up when the number is used up, however small it is. -/
abbrev Reader := StateT Nat (Except Error)

namespace Reader

/-- What stands here is not of the type. -/
def unfit {α : Type} : Reader α := throw .unfit

/-- What is there, or a complaint. -/
def ofOption {α : Type} : Option α → Reader α
  | some a => pure a
  | none => unfit

/-- A mismatch is an error. -/
def lift {α : Type} (r : Except Mismatch α) : Reader α := r.mapError Error.mismatch

/-- A reading that may nest no deeper. -/
def nested {α : Type} (depth : Nat) (read : Nat → Reader α) : Reader α :=
  match depth with
  | 0 => throw .tooDeep
  | depth + 1 => read depth

end Reader

open Reader

/-- **The node that is meant**: an alias is followed, any other node stands for itself. Each alias
that is followed is counted, so a document that repeats itself over and over is refused. -/
def Document.follow (d : Document) (n : Node) : Reader Node :=
  match n with
  | .alias k => do
    match ← get with
    | 0 => throw .tooDeep
    | left + 1 =>
      set left
      ofOption (d.target? k)
  | n => pure n

/-! ## Tags -/

/-- The name of a variant that a tag gives: what follows a single mark. Tags of the standard types
name no variants. -/
def variantTag (tag : Option String) : Option String :=
  match tag.map String.toList with
  | some ['!'] => some "!"
  | some ('!' :: name) => some (String.ofList name)
  | _ => none

/-- A tag of the standard types. -/
def standardTag (name : String) : String := "tag:yaml.org,2002:" ++ name

/-- Whether a tag is that of a standard type. -/
def hasStandardTag (tag : Option String) (name : String) : Bool := tag = some (standardTag name)

/-- Whether a scalar is in a style from which numbers and truth values are read: plain, or literal
with the tag of the type. A number between quotes is a text. -/
def isReadableAs (typeName : String) (tagUsed : Bool) (tag : Option String) (style : Style) :
    Bool :=
  style = .plain || (style = .literal && !tagUsed && hasStandardTag tag typeName)

/-! ## Open types -/

/-- A scalar as a value of an open type; integers have at most sixty-four bits there. -/
def openScalar (s : Scalar) : Reader Datum :=
  match s with
  | .unit => pure .unit
  | .bool b => pure (.bool b)
  | .int n =>
    if n < 0 then
      if IntKind.i64.contains n then pure (.int .i64 n) else unfit
    else if IntKind.u64.contains n then pure (.int .u64 n) else unfit
  | .float x => pure (if x.isFinite then .float x else .unit)
  | .text t => pure (.text t)

/-- What a scalar with the tag of a standard type stands for. Any other tag, or none, gives no
answer. -/
def taggedScalar (tag : Option String) (text : String) : Option (Reader Scalar) :=
  let cs := text.toList
  if hasStandardTag tag "bool" then some (ofOption ((bool? text).map .bool))
  else if hasStandardTag tag "int" then some (ofOption (((int? cs).filter isInteger).map .int))
  else if hasStandardTag tag "float" then some (ofOption ((float? cs).map .float))
  else if hasStandardTag tag "null" then
    some (if isNull text then pure .unit else unfit)
  else none

/-- **What a scalar stands for** when its type is open. A tag of a standard type decides; a plain
scalar without any tag is resolved, and everything else is a text. -/
def scalarValue (tag : Option String) (style : Style) (text : String) : Reader Scalar :=
  match taggedScalar tag text with
  | some s => s
  | none => pure (if tag.isNone && style = .plain then resolve text else .text text)

/-- The text of a node that has to be a scalar. -/
def Document.textOf (d : Document) (n : Node) : Reader String := do
  match ← d.follow n with
  | .scalar _ _ text => return text
  | _ => unfit

/-- Members put in order of their keys; of two members of one key the later stays. -/
def orderedEntries (members : List (String × Datum)) : List (Datum × Datum) :=
  (members.foldl (fun acc m => Json.insert m.1 m.2 acc) []).map fun m => (.text m.1, m.2)

/-- A scalar of an open type. -/
def openLeaf (tagUsed : Bool) (tag : Option String) (style : Style) (text : String) :
    Reader Datum := do
  let tag := if tagUsed then none else tag
  if (variantTag tag).isSome then unfit
  openScalar (← scalarValue tag style text)

/-- **A value of an open type.** No tag may ask for a variant. Mappings become maps of texts in
order of their keys, and collections may be nested up to a depth. -/
def Document.openValue (d : Document) : Nat → Bool → Node → Reader Datum
  | 0, tagUsed, n => do
    match ← d.follow n with
    | .scalar tag style text => openLeaf tagUsed tag style text
    | _ => throw .tooDeep
  | depth + 1, tagUsed, n => do
    match ← d.follow n with
    | .scalar tag style text => openLeaf tagUsed tag style text
    | .seq tag items =>
      if !tagUsed && (variantTag tag).isSome then unfit
      return .seq (← items.mapM fun i => d.openValue depth false i)
    | .map tag entries =>
      if !tagUsed && (variantTag tag).isSome then unfit
      let members ← entries.mapM fun e => do
        let key ← d.textOf e.1
        let value ← d.openValue depth false e.2
        return (key, value)
      return .map (orderedEntries members)
    | .alias _ => unfit

/-! ## Types without parts -/

/-- Whether a plain scalar is the null for a type that has it. In quotes, the same letters are a
text. -/
def isNullScalar (tagUsed : Bool) (tag : Option String) (style : Style) (text : String) : Bool :=
  style = .plain &&
    if tag.isSome && !tagUsed then hasStandardTag tag "null" && isNull text
    else text.isEmpty || isNull text

/-- **A value of a type without parts**, from its scalar. Numbers and truth values are read only in
the styles that `isReadableAs` allows; a text may be in any style. -/
def leafOf (shape : Shape) (tagUsed : Bool) (tag : Option String) (style : Style) (text : String) :
    Reader Datum :=
  let cs := text.toList
  let readable name := isReadableAs name tagUsed tag style
  match shape with
  | .unit => if isNullScalar tagUsed tag style text then pure .unit else unfit
  | .unitRecord name =>
    if isNullScalar tagUsed tag style text then pure (.unitRecord name) else unfit
  | .bool => ofOption (if readable "bool" then (bool? text).map .bool else none)
  | .int k =>
    let signOk := k.signed || cs.head? ≠ some '-'
    ofOption (if readable "int" && signOk then ((int? cs).filter k.contains).map (.int k) else none)
  | .float => ofOption (if readable "float" then (float? cs).map .float else none)
  | _ => lift (shape.ofScalar (.text text))

/-- A value of a type without parts. -/
def Document.leaf (d : Document) (shape : Shape) (tagUsed : Bool) (n : Node) : Reader Datum := do
  match ← d.follow n with
  | .scalar tag style text => leafOf shape tagUsed tag style text
  | _ => unfit

/-- The items of a node that has to be a sequence; where nothing is written there are none. -/
def Document.itemsOf (d : Document) (n : Node) : Reader (List Node) := do
  match ← d.follow n with
  | .seq _ items => return items
  | .scalar _ .plain "" => return []
  | _ => unfit

/-- The entries of a node that has to be a mapping; where nothing is written there are none. -/
def Document.entriesOf (d : Document) (n : Node) : Reader (List (Node × Node)) := do
  match ← d.follow n with
  | .map _ entries => return entries
  | .scalar _ .plain "" => return []
  | _ => unfit

/-- The shape of the keys of a map. -/
def keyShape : KeyShape → Shape
  | .text => .text
  | .int k => .int k
  | .bool => .bool

/-- Whether an optional value is absent at a node. A tag of the null allows no other text. -/
def isAbsent (tagUsed : Bool) (n : Node) : Reader Bool :=
  match n with
  | .scalar tag .plain text =>
    if hasStandardTag tag "null" && !tagUsed then if isNull text then pure true else unfit
    else if tag.isSome && !tagUsed then pure false
    else pure (text.isEmpty || isNull text)
  | _ => pure false

/-- The fields of a record that were given, by the names of the entries. -/
def Document.givenOf (d : Document) (strict : Bool)
    (known : String → Node → Option (Reader Datum)) (given : List (String × Datum)) :
    List (Node × Node) → Reader (List (String × Datum))
  | [] => pure given
  | (key, n) :: rest => do
    let name ← d.textOf key
    match known name n with
    | some read =>
      if (given.lookup name).isSome then throw (.mismatch (.duplicateField name))
      d.givenOf strict known ((name, ← read) :: given) rest
    | none => if strict then unfit else d.givenOf strict known given rest

/-- A variant that stands alone, by its name. -/
def bareVariant (choice : String) (variants : List (String × VariantBody Shape)) (v : String) :
    Reader Datum :=
  match variants.lookup v with
  | some .unit => pure (.unitVariant choice v)
  | _ => unfit

end RestClient.Yaml

namespace RestClient.Shape

open RestClient.Yaml Reader

mutual

/-- **A value of a type from a node.** `tagUsed` says that the tag of the node named a variant and
says no more about its content. -/
def ofNode (d : Document) : Shape → Nat → Bool → Node → Reader Datum
  | .any, depth, tagUsed, n => d.openValue depth tagUsed n
  | .unit, _, tagUsed, n => d.leaf .unit tagUsed n
  | .unitRecord name, _, tagUsed, n => d.leaf (.unitRecord name) tagUsed n
  | .bool, _, tagUsed, n => d.leaf .bool tagUsed n
  | .int k, _, tagUsed, n => d.leaf (.int k) tagUsed n
  | .float, _, tagUsed, n => d.leaf .float tagUsed n
  | .char, _, tagUsed, n => d.leaf .char tagUsed n
  | .text, _, tagUsed, n => d.leaf .text tagUsed n
  | .option inner, depth, tagUsed, n => do
    let n ← d.follow n
    if ← isAbsent tagUsed n then return .absent
    return .present (← ofNode d inner depth tagUsed n)
  | .wrapper name inner, depth, tagUsed, n =>
    nested depth fun depth => return .wrapper name (← ofNode d inner depth tagUsed n)
  | .seq item, depth, _, n => do
    let items ← d.itemsOf n
    nested depth fun depth =>
      return .seq (← items.mapM fun i => ofNode d item depth false i)
  | .tuple shapes, depth, _, n => do
    let items ← d.itemsOf n
    nested depth fun depth => return .tuple (← ofNodes d shapes depth items)
  | .map key item, depth, _, n => do
    let entries ← d.entriesOf n
    nested depth fun depth => do
      let entries ← entries.mapM fun e => do
        let k ← d.leaf (keyShape key) false e.1
        let v ← ofNode d item depth false e.2
        return (k, v)
      return .map (entries.foldl (fun acc e => Datum.insertEntry e.1 e.2 acc) [])
  | .record name strict fields, depth, _, n => do
    let entries ← d.entriesOf n
    nested depth fun depth => do
      let given ← d.givenOf strict (fieldOfNode d fields depth) [] entries
      return .record name (← lift (Field.assemble fields given))
  | .choice name variants, depth, tagUsed, n => do
    if tagUsed then
      match n with
      | .scalar _ _ v => if v.isEmpty then unfit else bareVariant name variants v
      | _ => unfit
    else
      let n ← d.follow n
      match variantTag n.tag with
      | some v => variantOfNode d name variants v depth n
      | none =>
        match n with
        | .scalar _ _ v => bareVariant name variants v
        | _ => unfit

/-- The items of a tuple. -/
def ofNodes (d : Document) : List Shape → Nat → List Node → Reader (List Datum)
  | [], _, [] => pure []
  | s :: rest, depth, n :: ns => return (← ofNode d s depth false n) :: (← ofNodes d rest depth ns)
  | _, _, _ => unfit

/-- The value of the field of a name; nothing if no field has the name. -/
def fieldOfNode (d : Document) : List (Field Shape) → Nat → String → Node → Option (Reader Datum)
  | [], _, _, _ => none
  | ⟨fieldName, shape, _, _⟩ :: rest, depth, name, n =>
    if fieldName = name then some (ofNode d shape depth false n)
    else fieldOfNode d rest depth name n

/-- **A variant with its content**, named by the tag of the node. The node itself, its tag put
aside, is the content. -/
def variantOfNode (d : Document) (choice : String) : List (String × VariantBody Shape) → String →
    Nat → Node → Reader Datum
  | [], _, _, _ => unfit
  | (name, .unit) :: rest, v, depth, n =>
    if name = v then do
      let _ ← d.leaf .unit true n
      return .unitVariant choice name
    else variantOfNode d choice rest v depth n
  | (name, .wrapper inner) :: rest, v, depth, n =>
    if name = v then return .wrapperVariant choice name (← ofNode d inner depth true n)
    else variantOfNode d choice rest v depth n
  | (name, .tuple shapes) :: rest, v, depth, n =>
    if name = v then do
      let items ← d.itemsOf n
      nested depth fun depth =>
        return .tupleVariant choice name (← ofNodes d shapes depth items)
    else variantOfNode d choice rest v depth n
  | (name, .record fields) :: rest, v, depth, n =>
    if name = v then do
      let entries ← d.entriesOf n
      nested depth fun depth => do
        let given ← d.givenOf false (fieldOfNode d fields depth) [] entries
        return .recordVariant choice name (← lift (Field.assemble fields given))
    else variantOfNode d choice rest v depth n

end

/-- A value of a type from a stream without a document: the null, an absent value, an empty
collection, or a record whose fields may all be missing. -/
def ofNothing : Shape → Except Error Datum
  | .any => .ok .unit
  | .unit => .ok .unit
  | .unitRecord name => .ok (.unitRecord name)
  | .option _ => .ok .absent
  | .wrapper name inner => (ofNothing inner).map (.wrapper name)
  | .seq _ => .ok (.seq [])
  | .tuple [] => .ok (.tuple [])
  | .map _ _ => .ok (.map [])
  | .record name _ fields => ((Field.assemble fields []).map (.record name)).mapError .mismatch
  | _ => .error .unfit

/-- **A value of a type from a document.** A stream without a document is read as nothing at all,
and the number of aliases that may be followed grows with the size of the document. -/
def ofDocument (shape : Shape) (d : Document) : Except Error Datum :=
  match d.root? with
  | none => ofNothing shape
  | some n => ((ofNode d shape levels false n).run (aliasesPerNode * d.size)).map (·.1)

/-- **A value of a type from a stream in YAML**, which has one document at most. -/
def ofYaml (shape : Shape) (s : String) : Except Error Datum :=
  Document.parse s >>= ofDocument shape

end RestClient.Shape
